import LayerPress.Proofs.TextCuts
import LayerPress.Settings.Connection

/-!
# Masked database URLs

A database URL is shown with its password masked. The password is what stands between the first
colon after the scheme and the last at-sign, so whatever separators it has itself, and whatever
the host, the path and the query have, nothing of it is shown.
-/

namespace LayerPress.Connection

/-- The scheme ends where a colon with two slashes stands first. -/
theorem splitScheme_append {scheme : List Char} (h : ':' ∉ scheme) (rest : List Char) :
    splitScheme (scheme ++ ':' :: '/' :: '/' :: rest) = some (scheme, rest) := by
  induction scheme with
  | nil => rfl
  | cons c scheme ih =>
    rw [List.mem_cons, not_or] at h
    have hother : splitScheme (c :: (scheme ++ ':' :: '/' :: '/' :: rest)) =
        (splitScheme (scheme ++ ':' :: '/' :: '/' :: rest)).map fun parts =>
          (c :: parts.1, parts.2) := by
      rw [splitScheme]
      intro more hcolon
      exact absurd hcolon.symm h.1
    rw [List.cons_append, hother, ih h.2]
    rfl

/-- A text without a query has no question mark, and is followed by what stands before the query
of the rest. -/
theorem takeWhile_query_append {cs : List Char} (h : '?' ∉ cs) (rest : List Char) :
    (cs ++ rest).takeWhile (· != '?') = cs ++ rest.takeWhile (· != '?') :=
  List.takeWhile_append_of_pos fun _ hc => bne_iff_ne.mpr fun heq => h (heq ▸ hc)

/-- What stands between the first colon after the scheme separator and the last at-sign is
masked. -/
theorem maskUrlChars_password {scheme user secret host url : List Char}
    (hfirst : splitScheme (url.takeWhile (· != '?')) =
      some (scheme, user ++ ':' :: (secret ++ '@' :: host)))
    (hurl : url.takeWhile (· != '?') =
      scheme ++ ':' :: '/' :: '/' :: (user ++ ':' :: (secret ++ '@' :: host)))
    (huser : ':' ∉ user) (hhost : '@' ∉ host) :
    maskUrlChars url =
      some (scheme ++ "://".toList ++ user ++ ':' :: mask.toList ++ '@' :: host) := by
  have hlast : Text.splitLast '@' (url.takeWhile (· != '?')) =
      some (scheme ++ ':' :: '/' :: '/' :: (user ++ ':' :: secret), host) :=
    Text.splitLast_eq_some_iff.mpr ⟨hhost, by simp [hurl]⟩
  have hlogin : (scheme ++ ':' :: '/' :: '/' :: (user ++ ':' :: secret)).drop (scheme.length + 3) =
      user ++ ':' :: secret := by
    rw [← List.drop_drop, List.drop_left]
    rfl
  have hpassword : Text.splitFirst ':' (user ++ ':' :: secret) = some (user, secret) :=
    Text.splitFirst_eq_some_iff.mpr ⟨huser, rfl⟩
  simp only [maskUrlChars, hlast, hfirst, hlogin, hpassword]
  rw [if_neg (by simp)]

/-- Where a login stands between the scheme and the last at-sign, what follows its first colon is
masked. -/
theorem maskUrlChars_login {scheme user secret host url : List Char} (hscheme : ':' ∉ scheme)
    (huser : ':' ∉ user) (hhost : '@' ∉ host)
    (hurl : url.takeWhile (· != '?') =
      scheme ++ ':' :: '/' :: '/' :: (user ++ ':' :: (secret ++ '@' :: host))) :
    maskUrlChars url =
      some (scheme ++ "://".toList ++ user ++ ':' :: mask.toList ++ '@' :: host) := by
  apply maskUrlChars_password _ hurl huser hhost
  rw [hurl]
  exact splitScheme_append hscheme _

/-- After a login stands a host, which the last at-sign before the query opens. -/
theorem exists_host (rest : List Char) :
    ∃ more host, '@' ∉ host ∧ host <:+ rest.takeWhile (· != '?') ∧
      '@' :: rest.takeWhile (· != '?') = more ++ '@' :: host := by
  obtain ⟨more, host, hhost, hsplit⟩ :=
    Text.exists_splitLast (List.mem_cons_self (a := '@') (l := rest.takeWhile (· != '?')))
  refine ⟨more, host, hhost, ?_, hsplit⟩
  cases more with
  | nil => exact (List.cons.inj hsplit).2 ▸ List.suffix_rfl
  | cons c more =>
    rw [(List.cons.inj hsplit).2]
    exact (List.suffix_cons '@' host).trans (List.suffix_append more _)

/-- A database URL with a login is shown with its scheme and its user, the mask in place of the
password and the end of what follows the login, and is shown alike whatever the password is. -/
theorem maskUrl_hides_password {scheme user : String}
    (hscheme : ':' ∉ scheme.toList ∧ '?' ∉ scheme.toList)
    (huser : ':' ∉ user.toList ∧ '?' ∉ user.toList) (rest : String) {p q : String}
    (hp : '?' ∉ p.toList) (hq : '?' ∉ q.toList) :
    ∃ shown host : String,
      maskUrl (scheme ++ "://" ++ user ++ ":" ++ p ++ "@" ++ rest) = some shown ∧
      maskUrl (scheme ++ "://" ++ user ++ ":" ++ q ++ "@" ++ rest) = some shown ∧
      shown = scheme ++ "://" ++ user ++ ":****@" ++ host ∧
      host.toList <:+ rest.toList.takeWhile (· != '?') := by
  obtain ⟨more, host, hhost, hsuffix, hmore⟩ := exists_host rest.toList
  have hshown : ∀ password : String, '?' ∉ password.toList →
      maskUrl (scheme ++ "://" ++ user ++ ":" ++ password ++ "@" ++ rest) =
        some (scheme ++ "://" ++ user ++ ":****@" ++ String.ofList host) := by
    intro password hpassword
    have hfree : '?' ∉ scheme.toList ++ ':' :: '/' :: '/' ::
        (user.toList ++ ':' :: (password.toList ++ ['@'])) := by
      simp [hscheme.2, huser.2, hpassword]
    -- The last at-sign is the one before the password's host or a later one.
    have hbase : (scheme ++ "://" ++ user ++ ":" ++ password ++ "@" ++ rest).toList.takeWhile
        (· != '?') = scheme.toList ++ ':' :: '/' :: '/' ::
          (user.toList ++ ':' :: ((password.toList ++ more) ++ '@' :: host)) := by
      have hwritten := takeWhile_query_append hfree rest.toList
      simpa [hmore] using hwritten
    rw [maskUrl, maskUrlChars_login hscheme.1 huser.1 hhost hbase, Option.map_some,
      Option.some.injEq, ← String.toList_inj]
    simp [mask]
  exact ⟨_, String.ofList host, hshown p hp, hshown q hq, rfl, by simpa using hsuffix⟩

/-- A password made of separators and an empty one are masked alike, before a path and a query
that have the same separators. -/
theorem maskUrl_hides_password_hostile :
    ∃ shown host : String,
      maskUrl ("postgres" ++ "://" ++ "app" ++ ":" ++ "a@b:c://d" ++ "@" ++ "db/x@y://z?k=@") =
        some shown ∧
      maskUrl ("postgres" ++ "://" ++ "app" ++ ":" ++ "" ++ "@" ++ "db/x@y://z?k=@") =
        some shown ∧
      shown = "postgres" ++ "://" ++ "app" ++ ":****@" ++ host ∧
      host.toList <:+ "db/x@y://z?k=@".toList.takeWhile (· != '?') :=
  maskUrl_hides_password (by decide) (by decide) "db/x@y://z?k=@" (by decide) (by decide)

end LayerPress.Connection
