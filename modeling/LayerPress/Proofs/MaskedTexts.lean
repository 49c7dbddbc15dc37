import LayerPress.Proofs.MaskedUrls

/-!
# Masking an arbitrary text

A text need not be a URL for its password to be masked. What counts is where three separators stand
before the query: the first scheme separator, the last at-sign, and the first colon after the
scheme. The last at-sign may stand before the scheme separator has ended; then there is nothing
that can be shown. In every other case a text is shown in which the password alone is replaced, and
which is shown as it is when it is masked again.
-/

namespace LayerPress.Connection

/-- What stands before the query of a URL. -/
def beforeQuery (url : String) : List Char :=
  url.toList.takeWhile (· != '?')

/-- The first scheme separator of a text ends the scheme and begins the rest. -/
structure CutAtScheme (base scheme rest : List Char) : Prop where
  cut : base = scheme ++ ':' :: '/' :: '/' :: rest
  first : ∀ before after, base = before ++ ':' :: '/' :: '/' :: after →
    scheme.length ≤ before.length

/-- The last at-sign of a text stands between a login and a host. -/
structure CutAtLogin (base login host : List Char) : Prop where
  cut : base = login ++ '@' :: host
  last : '@' ∉ host

/-- The last at-sign of a text stands before the end of its first scheme separator. -/
def LoginInScheme (base : List Char) : Prop :=
  ∃ scheme rest login host, CutAtScheme base scheme rest ∧ CutAtLogin base login host ∧
    login.length < scheme.length + 3

/-- A password stands between the first colon after the first scheme separator of a text and the
last at-sign, which follows that colon. -/
structure HasPassword (base scheme user password host : List Char) : Prop where
  scheme : CutAtScheme base scheme (user ++ ':' :: (password ++ '@' :: host))
  user : ':' ∉ user
  host : '@' ∉ host

/-- The text with a mask in place of a password. -/
def masked (scheme user host : List Char) : List Char :=
  scheme ++ "://".toList ++ user ++ ':' :: mask.toList ++ '@' :: host

/-- A text with a scheme separator is cut at one. -/
theorem isSome_splitScheme (before after : List Char) :
    (splitScheme (before ++ ':' :: '/' :: '/' :: after)).isSome = true := by
  induction before with
  | nil => rfl
  | cons c before ih =>
    rw [List.cons_append]
    unfold splitScheme
    split
    · next h => cases h
    · rfl
    · next h =>
      obtain ⟨rfl, rfl⟩ := List.cons.inj h
      rw [Option.isSome_map]
      exact ih

/-- A text is cut at its first scheme separator. -/
theorem cutAtScheme_of_splitScheme {base scheme rest : List Char}
    (h : splitScheme base = some (scheme, rest)) : CutAtScheme base scheme rest := by
  fun_induction splitScheme base generalizing scheme with
  | case1 => cases h
  | case2 after =>
    obtain ⟨rfl, rfl⟩ := Prod.mk.inj (Option.some.inj h)
    exact ⟨rfl, fun _ _ _ => Nat.zero_le _⟩
  | case3 c more hother ih =>
    obtain ⟨⟨scheme, rest⟩, hmore, heq⟩ := Option.map_eq_some_iff.mp h
    obtain ⟨rfl, rfl⟩ := Prod.mk.inj heq
    obtain ⟨hcut, hfirst⟩ := ih hmore
    refine ⟨by rw [hcut, List.cons_append], fun before after hbase => ?_⟩
    cases before with
    | nil =>
      -- The text does not begin with a separator.
      obtain ⟨rfl, rfl⟩ := List.cons.inj hbase
      exact absurd rfl (hother after rfl)
    | cons b before =>
      have hshorter := hfirst before after (List.cons.inj hbase).2
      simp only [List.length_cons]
      omega

/-- The first scheme separator is the only first one. -/
theorem CutAtScheme.unique {base scheme rest scheme' rest' : List Char}
    (h : CutAtScheme base scheme rest) (h' : CutAtScheme base scheme' rest') :
    scheme = scheme' ∧ rest = rest' := by
  have hlength : scheme.length = scheme'.length :=
    Nat.le_antisymm (h.first scheme' rest' h'.cut) (h'.first scheme rest h.cut)
  obtain ⟨hscheme, hrest⟩ := List.append_inj (h.cut.symm.trans h'.cut) hlength
  exact ⟨hscheme, by simpa using hrest⟩

/-- A text is cut at its first scheme separator and at no other place. -/
theorem splitScheme_eq_some_iff {base scheme rest : List Char} :
    splitScheme base = some (scheme, rest) ↔ CutAtScheme base scheme rest := by
  constructor
  · exact cutAtScheme_of_splitScheme
  · intro h
    have hsome := isSome_splitScheme scheme rest
    rw [← h.cut] at hsome
    obtain ⟨⟨scheme', rest'⟩, hsplit⟩ := Option.isSome_iff_exists.mp hsome
    obtain ⟨rfl, rfl⟩ := h.unique (cutAtScheme_of_splitScheme hsplit)
    exact hsplit

/-- A text is cut at its last at-sign and at no other place. -/
theorem splitLast_eq_some_iff_cutAtLogin {base login host : List Char} :
    Text.splitLast '@' base = some (login, host) ↔ CutAtLogin base login host := by
  rw [Text.splitLast_eq_some_iff]
  exact ⟨fun h => ⟨h.2, h.1⟩, fun h => ⟨h.last, h.cut⟩⟩

/-- What follows the first scheme separator does not move it. -/
theorem CutAtScheme.replace {base scheme rest : List Char} (h : CutAtScheme base scheme rest)
    (rest' : List Char) :
    CutAtScheme (scheme ++ ':' :: '/' :: '/' :: rest') scheme rest' := by
  refine ⟨rfl, fun before after heq => ?_⟩
  by_contra hshorter
  -- A separator that begins earlier also ends within what both texts begin with.
  have hearlier : before ++ [':', '/', '/'] <+: scheme ++ ':' :: '/' :: '/' :: rest' :=
    ⟨after, by rw [heq]; simp⟩
  have hbegins : scheme ++ [':', '/', '/'] <+: scheme ++ ':' :: '/' :: '/' :: rest' :=
    ⟨rest', by simp⟩
  have hprefix : before ++ [':', '/', '/'] <+: scheme ++ [':', '/', '/'] := by
    apply List.prefix_of_prefix_length_le hearlier hbegins
    simp only [List.length_append]
    omega
  obtain ⟨between, hbetween⟩ := hprefix
  have hbase : base = before ++ ':' :: '/' :: '/' :: (between ++ rest) := by
    calc base = scheme ++ [':', '/', '/'] ++ rest := by rw [h.cut]; simp
      _ = before ++ [':', '/', '/'] ++ between ++ rest := by rw [hbetween]
      _ = before ++ ':' :: '/' :: '/' :: (between ++ rest) := by simp
  exact hshorter (h.first before _ hbase)

section
variable {base scheme rest login user password host url : List Char}

/-- The login of a text whose last at-sign follows its scheme stands between the two. -/
theorem exists_login (hscheme : CutAtScheme base scheme rest) (hlogin : CutAtLogin base login host)
    (hbehind : scheme.length + 3 ≤ login.length) :
    rest = login.drop (scheme.length + 3) ++ '@' :: host := by
  have htexts : scheme ++ [':', '/', '/'] ++ rest = login ++ '@' :: host := by
    rw [← hlogin.cut, hscheme.cut]
    simp
  have hdropped := congrArg (List.drop (scheme.length + 3)) htexts
  rwa [List.drop_append_of_le_length hbehind, List.drop_left' (by simp)] at hdropped

/-- A masked text has the mask for a password. -/
theorem HasPassword.masked (h : HasPassword base scheme user password host) :
    HasPassword (masked scheme user host) scheme user mask.toList host := by
  refine ⟨?_, h.user, h.host⟩
  have hreplaced := h.scheme.replace (user ++ ':' :: (mask.toList ++ '@' :: host))
  rwa [show Connection.masked scheme user host =
    scheme ++ ':' :: '/' :: '/' :: (user ++ ':' :: (mask.toList ++ '@' :: host)) by
      simp [Connection.masked]]

/-- A password is masked. -/
theorem maskUrlChars_of_hasPassword
    (h : HasPassword (url.takeWhile (· != '?')) scheme user password host) :
    maskUrlChars url = some (masked scheme user host) :=
  maskUrlChars_password (splitScheme_eq_some_iff.mpr h.scheme) h.scheme.cut h.user h.host

/-- There is nothing to show exactly if the last at-sign stands before the end of the scheme. -/
theorem maskUrlChars_eq_none_iff :
    maskUrlChars url = none ↔ LoginInScheme (url.takeWhile (· != '?')) := by
  rw [maskUrlChars]
  constructor
  · intro h
    split at h
    · next login host scheme rest hlogin hscheme =>
      split_ifs at h with hbefore
      · exact ⟨scheme, rest, login, host, splitScheme_eq_some_iff.mp hscheme,
          splitLast_eq_some_iff_cutAtLogin.mp hlogin, hbefore⟩
      · dsimp only at h
        split at h <;> cases h
    · cases h
  · rintro ⟨scheme, rest, login, host, hscheme, hlogin, hbefore⟩
    rw [splitScheme_eq_some_iff.mpr hscheme, splitLast_eq_some_iff_cutAtLogin.mpr hlogin]
    exact if_pos hbefore

/-- A text without a password is shown up to its query. -/
theorem maskUrlChars_of_not_hasPassword
    (hscheme : ¬ LoginInScheme (url.takeWhile (· != '?')))
    (hnone : ∀ scheme user password host,
      ¬ HasPassword (url.takeWhile (· != '?')) scheme user password host) :
    maskUrlChars url = some (url.takeWhile (· != '?')) := by
  rw [maskUrlChars]
  split
  · next login host scheme rest hsplit hcut =>
    have hlogin := splitLast_eq_some_iff_cutAtLogin.mp hsplit
    have hcutAt := splitScheme_eq_some_iff.mp hcut
    have hbehind : ¬ login.length < scheme.length + 3 := fun hbefore =>
      hscheme ⟨scheme, rest, login, host, hcutAt, hlogin, hbefore⟩
    rw [if_neg hbehind]
    dsimp only
    split
    · next user password hcolon =>
      obtain ⟨huser, hpassword⟩ := Text.splitFirst_eq_some_iff.mp hcolon
      have hrest := exists_login hcutAt hlogin (Nat.not_lt.mp hbehind)
      rw [hpassword, List.append_assoc, List.cons_append] at hrest
      exact absurd ⟨hrest ▸ hcutAt, huser, hlogin.last⟩ (hnone scheme user password host)
    · rfl
  · rfl

/-- A masked text has no question mark if there was none before. -/
theorem HasPassword.query_not_mem (h : HasPassword base scheme user password host)
    (hbase : '?' ∉ base) : '?' ∉ Connection.masked scheme user host := by
  rw [h.scheme.cut] at hbase
  simp only [List.mem_append, List.mem_cons, not_or] at hbase
  simp [Connection.masked, mask, hbase]

end

/-- A text has no question mark before its query. -/
theorem query_not_mem_takeWhile (url : List Char) : '?' ∉ url.takeWhile (· != '?') := by
  intro h
  have hother : ∀ c ∈ url.takeWhile (· != '?'), (c != '?') = true :=
    List.all_eq_true.mp List.all_takeWhile
  simpa using hother '?' h

/-- What has no question mark is no longer before its query. -/
theorem takeWhile_query_of_not_mem {cs : List Char} (h : '?' ∉ cs) :
    cs.takeWhile (· != '?') = cs := by
  have happend := takeWhile_query_append h []
  rwa [List.append_nil, List.takeWhile_nil, List.append_nil] at happend

/-- There is nothing to show of a text exactly if the last at-sign before its query stands before
the end of the first scheme separator there. Of every other text something is shown: it has no
question mark, is shown as it is when it is masked again, and is what stands before the query, with
the password alone replaced by the mask if there is one. -/
theorem maskUrl_of_text (url : String) :
    (LoginInScheme (beforeQuery url) ∧ maskUrl url = none) ∨
      ¬ LoginInScheme (beforeQuery url) ∧ ∃ shown, maskUrl url = some shown ∧
        '?' ∉ shown.toList ∧ maskUrl shown = some shown ∧
        ((∃ scheme user password host,
            HasPassword (beforeQuery url) scheme user password host ∧
            shown.toList = scheme ++ "://".toList ++ user ++ ":****@".toList ++ host) ∨
          (∀ scheme user password host,
            ¬ HasPassword (beforeQuery url) scheme user password host) ∧
            shown.toList = beforeQuery url) := by
  have hquery : '?' ∉ beforeQuery url := query_not_mem_takeWhile url.toList
  by_cases hscheme : LoginInScheme (beforeQuery url)
  · refine .inl ⟨hscheme, ?_⟩
    rw [maskUrl, maskUrlChars_eq_none_iff.mpr hscheme, Option.map_none]
  refine .inr ⟨hscheme, ?_⟩
  by_cases hpassword : ∃ scheme user password host,
      HasPassword (beforeQuery url) scheme user password host
  · obtain ⟨scheme, user, password, host, h⟩ := hpassword
    have hshown := h.query_not_mem hquery
    have hmasked : HasPassword ((masked scheme user host).takeWhile (· != '?'))
        scheme user mask.toList host := by
      rw [takeWhile_query_of_not_mem hshown]
      exact h.masked
    refine ⟨String.ofList (masked scheme user host), ?_, by rwa [String.toList_ofList], ?_,
      .inl ⟨scheme, user, password, host, h, ?_⟩⟩
    · rw [maskUrl, maskUrlChars_of_hasPassword h, Option.map_some]
    · rw [maskUrl, String.toList_ofList, maskUrlChars_of_hasPassword hmasked, Option.map_some]
    · simp [masked, mask]
  · have hnone : ∀ scheme user password host,
        ¬ HasPassword (beforeQuery url) scheme user password host :=
      fun scheme user password host h => hpassword ⟨scheme, user, password, host, h⟩
    have hsame := takeWhile_query_of_not_mem hquery
    have hagain : maskUrlChars (beforeQuery url) =
        some ((beforeQuery url).takeWhile (· != '?')) :=
      maskUrlChars_of_not_hasPassword (by rwa [hsame]) (by rwa [hsame])
    refine ⟨String.ofList (beforeQuery url), ?_, by rwa [String.toList_ofList], ?_,
      .inr ⟨hnone, String.toList_ofList⟩⟩
    · rw [maskUrl, maskUrlChars_of_not_hasPassword hscheme hnone, Option.map_some]
      rfl
    · rw [maskUrl, String.toList_ofList, hagain, Option.map_some, hsame]

end LayerPress.Connection
