import LayerPress.Proofs.TextBytes
import LayerPress.Settings.Connection
import Mathlib.Data.List.TakeWhile

/-!
# What a connection string is read as

The loader reads its data source as settings: names and values with equals signs between them, and
ASCII blanks between one setting and the next. A value without quotes ends at an ASCII blank, a
value in single quotes at the next quote, and a backslash takes the character after it as it stands.
What follows a NUL is not seen. Settings whose values are written as `valueChars` writes them are
read back, whatever the values are, so a data source is read as the five settings it was made of.
-/

namespace LayerPress.Connection

/-! ## The reader -/

/-- The blanks of ASCII are the space and what lies between a tab and a carriage return. -/
def isAsciiBlank (c : Char) : Bool :=
  c.toNat == 0x20 || (0x9 ≤ c.toNat && c.toNat ≤ 0xd)

/-- A character that goes on with a name. -/
def isInName (c : Char) : Bool :=
  !(c == '=' || isAsciiBlank c)

/-- A value without quotes and what follows it. -/
def readBare : List Char → List Char × List Char
  | [] => ([], [])
  | ['\\'] => ([], [])
  | '\\' :: c :: rest => (c :: (readBare rest).1, (readBare rest).2)
  | c :: rest =>
    if isAsciiBlank c then ([], c :: rest) else (c :: (readBare rest).1, (readBare rest).2)

/-- A value up to the quote that ends it and what follows the quote, unless no quote ends it. -/
def readQuoted : List Char → Option (List Char × List Char)
  | [] => none
  | ['\\'] => none
  | '\\' :: c :: rest => (readQuoted rest).map fun (value, after) => (c :: value, after)
  | c :: rest =>
    if c == apostrophe then some ([], rest)
    else (readQuoted rest).map fun (value, after) => (c :: value, after)

/-- A value and what follows it. -/
def readValue : List Char → Option (List Char × List Char)
  | [] => some ([], [])
  | c :: rest => if c == apostrophe then readQuoted rest else some (readBare (c :: rest))

/-- A name with its value and what follows them, unless the name has no equals sign after it. -/
def readSetting (cs : List Char) : Option ((String × String) × List Char) :=
  match (cs.dropWhile isInName).dropWhile isAsciiBlank with
  | '=' :: rest =>
    (readValue (rest.dropWhile isAsciiBlank)).map fun (value, after) =>
      ((String.ofList (cs.takeWhile isInName), String.ofList value), after)
  | _ => none

/-- What follows a value without quotes is no longer than the text. -/
theorem length_readBare_le (cs : List Char) : (readBare cs).2.length ≤ cs.length := by
  fun_induction readBare cs with
  | case1 => exact Nat.le_refl _
  | case2 => exact Nat.zero_le _
  | case3 c rest ih => exact Nat.le_trans ih (Nat.le_add_right _ 2)
  | case4 => exact Nat.le_refl _
  | case5 c rest _ _ _ ih => exact Nat.le_trans ih (Nat.le_succ _)

/-- What follows a quoted value is no longer than the text. -/
theorem length_le_of_readQuoted {cs value after : List Char}
    (h : readQuoted cs = some (value, after)) : after.length ≤ cs.length := by
  fun_induction readQuoted cs generalizing value after with
  | case1 => cases h
  | case2 => cases h
  | case3 c rest ih =>
    obtain ⟨_, hrest, heq⟩ := Option.map_eq_some_iff.mp h
    cases heq
    exact Nat.le_trans (ih hrest) (Nat.le_add_right _ 2)
  | case4 c rest =>
    cases h
    exact Nat.le_succ _
  | case5 c rest _ _ _ ih =>
    obtain ⟨_, hrest, heq⟩ := Option.map_eq_some_iff.mp h
    cases heq
    exact Nat.le_trans (ih hrest) (Nat.le_succ _)

/-- What follows a value is no longer than the text. -/
theorem length_le_of_readValue {cs value after : List Char}
    (h : readValue cs = some (value, after)) : after.length ≤ cs.length := by
  unfold readValue at h
  split at h
  · cases h
    exact Nat.le_refl _
  · next c rest =>
    split at h
    · exact Nat.le_trans (length_le_of_readQuoted h) (Nat.le_succ _)
    · have hafter := length_readBare_le (c :: rest)
      rw [Option.some.inj h] at hafter
      exact hafter

/-- What follows a setting is shorter than the text. -/
theorem length_lt_of_readSetting {cs after : List Char} {setting : String × String}
    (h : readSetting cs = some (setting, after)) : after.length < cs.length := by
  unfold readSetting at h
  split at h
  · next rest heq =>
    obtain ⟨_, hvalue, hsetting⟩ := Option.map_eq_some_iff.mp h
    cases hsetting
    have hafter := length_le_of_readValue hvalue
    have hblanks := List.length_dropWhile_le isAsciiBlank rest
    have hname := List.length_dropWhile_le isInName cs
    have hsign := List.length_dropWhile_le isAsciiBlank (cs.dropWhile isInName)
    rw [heq, List.length_cons] at hsign
    omega
  · cases h

/-- The settings of a text, unless one of them cannot be read. -/
def readSettings (cs : List Char) : Option (List (String × String)) :=
  if cs.all isAsciiBlank then some []
  else
    match _ : readSetting (cs.dropWhile isAsciiBlank) with
    | none => none
    | some (setting, after) => (readSettings after).map (setting :: ·)
termination_by cs.length
decreasing_by
  exact Nat.lt_of_lt_of_le (length_lt_of_readSetting ‹_›) (List.length_dropWhile_le isAsciiBlank cs)

/-- The settings of a data source, which are read up to its first NUL. -/
def readSource (source : String) : Option (List (String × String)) :=
  match source.toList.takeWhile (· != '\x00') with
  | 'P' :: 'G' :: ':' :: rest => readSettings rest
  | _ => none

/-! ## What is written is read back -/

/-- Nothing follows, or an ASCII blank. -/
def IsApart (cs : List Char) : Prop :=
  ∀ c ∈ cs.head?, isAsciiBlank c = true

/-- Settings in a row, a space before each of them. -/
def trail : List (String × String) → List Char
  | [] => []
  | (name, value) :: rest =>
    ' ' :: (name.toList ++ '=' :: (valueChars value.toList ++ trail rest))

/-- A row of settings stands apart from what it follows. -/
theorem isApart_trail (settings : List (String × String)) : IsApart (trail settings) := by
  cases settings with
  | nil => exact nofun
  | cons setting rest =>
    rintro c ⟨⟩
    rfl

/-- A character of a value without quotes is no ASCII blank, no quote and no backslash. -/
theorem of_mem_of_isBare {value : List Char} (h : isBare value = true) {c : Char} (hc : c ∈ value) :
    isAsciiBlank c = false ∧ c ≠ apostrophe ∧ c ≠ '\\' := by
  rw [isBare, Bool.and_eq_true, List.all_eq_true] at h
  have hplain := h.2 c hc
  simp only [Bool.not_eq_true', Bool.or_eq_false_iff, beq_eq_false_iff_ne] at hplain
  obtain ⟨⟨hblank, hquote⟩, hslash⟩ := hplain
  refine ⟨?_, hquote, hslash⟩
  simp only [Text.isBlank, Text.blanks, Text.CodeRanges.has, List.any_cons, Bool.or_eq_false_iff,
    Bool.and_eq_false_iff, decide_eq_false_iff_not] at hblank
  simp only [isAsciiBlank, Bool.or_eq_false_iff, beq_eq_false_iff_ne, Bool.and_eq_false_iff,
    decide_eq_false_iff_not]
  omega

/-- A character that is neither a blank nor a backslash belongs to a value without quotes. -/
theorem readBare_cons {c : Char} (hblank : isAsciiBlank c = false) (hslash : c ≠ '\\')
    (rest : List Char) : readBare (c :: rest) = (c :: (readBare rest).1, (readBare rest).2) := by
  rw [readBare.eq_4 _ _ (fun h _ => hslash h) fun _ _ h _ => hslash h, if_neg (by simp [hblank])]

/-- A value without quotes ends where the text stands apart. -/
theorem readBare_of_isApart {cs : List Char} (h : IsApart cs) : readBare cs = ([], cs) := by
  cases cs with
  | nil => rfl
  | cons c rest =>
    have hc := h c rfl
    have hslash : c ≠ '\\' := by
      rintro rfl
      cases hc
    rw [readBare.eq_4 _ _ (fun h _ => hslash h) fun _ _ h _ => hslash h, if_pos hc]

/-- A value that stands without quotes is read up to where the text stands apart. -/
theorem readBare_append {value after : List Char}
    (h : ∀ c ∈ value, isAsciiBlank c = false ∧ c ≠ apostrophe ∧ c ≠ '\\') (hafter : IsApart after) :
    readBare (value ++ after) = (value, after) := by
  induction value with
  | nil => exact readBare_of_isApart hafter
  | cons c value ih =>
    obtain ⟨⟨hblank, -, hslash⟩, hvalue⟩ := List.forall_mem_cons.mp h
    rw [List.cons_append, readBare_cons hblank hslash, ih hvalue]

/-- A quoted character is read as it was. -/
theorem readQuoted_escape (c : Char) (rest : List Char) :
    readQuoted (escape c ++ rest) =
      (readQuoted rest).map fun (value, after) => (c :: value, after) := by
  by_cases hc : c = '\\' ∨ c = apostrophe
  · rw [escape, if_pos (by simpa using hc)]
    rfl
  · rw [not_or] at hc
    rw [escape, if_neg (by simpa using hc), List.singleton_append,
      readQuoted.eq_4 _ _ (fun h _ => hc.1 h) fun _ _ h _ => hc.1 h, if_neg (by simpa using hc.2)]

/-- A quoted value is read as it was, up to the quote that ends it. -/
theorem readQuoted_flatMap_escape (value after : List Char) :
    readQuoted (value.flatMap escape ++ apostrophe :: after) = some (value, after) := by
  induction value with
  | nil => rfl
  | cons c value ih =>
    rw [List.flatMap_cons, List.append_assoc, readQuoted_escape, ih, Option.map_some]

/-- A written value is read as it was, up to where the text stands apart. -/
theorem readValue_valueChars (value : List Char) {after : List Char} (h : IsApart after) :
    readValue (valueChars value ++ after) = some (value, after) := by
  cases hbare : isBare value with
  | true =>
    rw [valueChars, if_pos hbare]
    cases value with
    | nil => cases hbare
    | cons c value =>
      have hplain := fun d => of_mem_of_isBare hbare (c := d)
      rw [List.cons_append, readValue, if_neg (by simpa using (hplain c List.mem_cons_self).2.1),
        ← List.cons_append, readBare_append hplain h]
  | false =>
    rw [valueChars, if_neg (by simp [hbare])]
    rw [List.cons_append, readValue, if_pos (by decide), List.append_assoc, List.singleton_append,
      readQuoted_flatMap_escape]

/-- A written value does not begin with a blank. -/
theorem dropWhile_valueChars (value after : List Char) :
    (valueChars value ++ after).dropWhile isAsciiBlank = valueChars value ++ after := by
  cases hbare : isBare value with
  | true =>
    rw [valueChars, if_pos hbare]
    cases value with
    | nil => cases hbare
    | cons c value =>
      have hplain := (of_mem_of_isBare hbare (c := c) List.mem_cons_self).1
      rw [List.cons_append, List.dropWhile_cons_of_neg (by simp [hplain])]
  | false =>
    rw [valueChars, if_neg (by simp [hbare])]
    rfl

/-- A written setting is read as it was, up to where the text stands apart. -/
theorem readSetting_written {name : String} (value : String) {after : List Char}
    (hname : ∀ c ∈ name.toList, isInName c = true) (h : IsApart after) :
    readSetting (name.toList ++ '=' :: (valueChars value.toList ++ after)) =
      some ((name, value), after) := by
  have hsign : isInName '=' = false := by decide
  rw [readSetting, List.takeWhile_append_of_pos hname, List.dropWhile_append_of_pos hname]
  rw [List.takeWhile_cons_of_neg (by simp [hsign]), List.dropWhile_cons_of_neg (by simp [hsign]),
    List.dropWhile_cons_of_neg (by decide)]
  simp only [dropWhile_valueChars, readValue_valueChars _ h, Option.map_some, List.append_nil,
    String.ofList_toList]

/-- A blank before the settings is passed over. -/
theorem readSettings_cons {c : Char} (h : isAsciiBlank c = true) (cs : List Char) :
    readSettings (c :: cs) = readSettings cs := by
  rw [readSettings, readSettings, List.all_cons, h, Bool.true_and, List.dropWhile_cons_of_pos h]

/-- A written setting is read before the settings that follow it. -/
theorem readSettings_written {name : String} (value : String) {after : List Char}
    (hname : ∀ c ∈ name.toList, isInName c = true) (h : IsApart after) :
    readSettings (name.toList ++ '=' :: (valueChars value.toList ++ after)) =
      (readSettings after).map ((name, value) :: ·) := by
  have hsome :
      (name.toList ++ '=' :: (valueChars value.toList ++ after)).all isAsciiBlank = false :=
    List.all_eq_false.mpr ⟨'=', by simp, by decide⟩
  have hstart : (name.toList ++ '=' :: (valueChars value.toList ++ after)).dropWhile isAsciiBlank =
      name.toList ++ '=' :: (valueChars value.toList ++ after) := by
    cases hcs : name.toList with
    | nil => rfl
    | cons c cs =>
      have hc := hname c (hcs ▸ List.mem_cons_self)
      rw [isInName, Bool.not_eq_true', Bool.or_eq_false_iff] at hc
      rw [List.cons_append, List.dropWhile_cons_of_neg (by simp [hc.2])]
  rw [readSettings, if_neg (by simp [hsome]), hstart]
  split
  · next hnone => cases hnone.symm.trans (readSetting_written value hname h)
  · next hsetting =>
    cases hsetting.symm.trans (readSetting_written value hname h)
    rfl

/-- A row of settings is read as it was. -/
theorem readSettings_trail {settings : List (String × String)}
    (h : ∀ setting ∈ settings, ∀ c ∈ setting.1.toList, isInName c = true) :
    readSettings (trail settings) = some settings := by
  induction settings with
  | nil =>
    rw [readSettings]
    rfl
  | cons setting rest ih =>
    obtain ⟨hname, hrest⟩ := List.forall_mem_cons.mp h
    rw [trail, readSettings_cons (by decide), readSettings_written _ hname (isApart_trail rest),
      ih hrest, Option.map_some]

/-! ## Texts without NUL -/

/-- A written value has no characters but its own, quotes and backslashes. -/
theorem mem_of_mem_valueChars {value : List Char} {c : Char} (h : c ∈ valueChars value)
    (hquote : c ≠ apostrophe) (hslash : c ≠ '\\') : c ∈ value := by
  have hescape {d : Char} (hd : c ∈ escape d) : c = d := by
    unfold escape at hd
    split at hd <;> simpa [hslash] using hd
  cases hbare : isBare value with
  | true => rwa [valueChars, if_pos hbare] at h
  | false =>
    rw [valueChars, if_neg (by simp [hbare])] at h
    simp only [List.mem_cons, List.mem_append, hquote, List.not_mem_nil, or_false, false_or,
      List.mem_flatMap] at h
    obtain ⟨d, hd, hc⟩ := h
    exact hescape hc ▸ hd

/-- A row of settings without a NUL has none. -/
theorem nul_not_mem_trail {settings : List (String × String)}
    (h : ∀ setting ∈ settings, '\x00' ∉ setting.1.toList ∧ '\x00' ∉ setting.2.toList) :
    '\x00' ∉ trail settings := by
  induction settings with
  | nil => exact List.not_mem_nil
  | cons setting rest ih =>
    obtain ⟨⟨hname, hvalue⟩, hrest⟩ := List.forall_mem_cons.mp h
    have hwritten : '\x00' ∉ valueChars setting.2.toList := fun hmem =>
      hvalue (mem_of_mem_valueChars hmem (by decide) (by decide))
    simp only [trail, List.mem_cons, List.mem_append, not_or]
    exact ⟨by decide, hname, by decide, hwritten, ih hrest⟩

/-! ## Data sources -/

/-- A number stands without quotes. -/
theorem valueChars_toString (n : Nat) : valueChars (toString n).toList = (toString n).toList := by
  have hsome : (toString n).toList ≠ [] := fun h =>
    Nat.repr_ne_empty (String.toList_eq_nil_iff.mp h)
  have hplain : ∀ c ∈ (toString n).toList,
      (!(Text.isBlank c || c == apostrophe || c == '\\')) = true := by
    intro c hc
    obtain ⟨hlow, hhigh⟩ := Text.Utf8.toNat_of_mem_repr hc
    have hblank : Text.isBlank c = false := by
      simp [Text.isBlank, Text.blanks, Text.CodeRanges.has]
      omega
    have hquote : c ≠ apostrophe := by
      rintro rfl
      exact absurd hlow (by decide)
    have hslash : c ≠ '\\' := by
      rintro rfl
      exact absurd hhigh (by decide)
    simp [hblank, hquote, hslash]
  have hbare : isBare (toString n).toList = true := by
    rw [isBare, Bool.and_eq_true, List.all_eq_true]
    exact ⟨by rwa [Bool.not_eq_true', List.isEmpty_eq_false_iff], hplain⟩
  rw [valueChars, if_pos hbare]

end Connection

/-- The five settings a data source is made of. -/
def SpatialSettings.connection (s : SpatialSettings) : List (String × String) :=
  [("host", s.host), ("port", toString s.port), ("dbname", s.database), ("user", s.username),
    ("password", s.password)]

/-- Texts without NUL. -/
structure SpatialSettings.NulFree (s : SpatialSettings) : Prop where
  host : '\x00' ∉ s.host.toList
  database : '\x00' ∉ s.database.toList
  username : '\x00' ∉ s.username.toList
  password : '\x00' ∉ s.password.toList

namespace Connection

/-- A data source is its five settings in a row. -/
theorem toList_dataSource (s : SpatialSettings) :
    s.dataSource.toList = 'P' :: 'G' :: ':' :: (trail s.connection).tail := by
  have hport := valueChars_toString s.port
  rw [SpatialSettings.dataSource, SpatialSettings.connection, opening]
  generalize toString s.port = port at hport ⊢
  simp [value, trail, hport]

/-- A data source with its password masked is that of the mask as the password. -/
theorem dataSourceMasked_eq (s : SpatialSettings) :
    s.dataSourceMasked = { s with password := mask }.dataSource := by
  have hmask : value mask = mask := by decide
  rw [SpatialSettings.dataSourceMasked, SpatialSettings.dataSource, hmask]
  rfl

/-- The names of the settings have no blanks and no equals signs. -/
theorem isInName_of_mem_connection (s : SpatialSettings) :
    ∀ setting ∈ s.connection, ∀ c ∈ setting.1.toList, isInName c = true := by
  have hnames : (s.connection.map (·.1)).all (·.toList.all isInName) = true := by
    change ["host", "port", "dbname", "user", "password"].all (·.toList.all isInName) = true
    decide
  intro setting hsetting
  exact List.all_eq_true.mp (List.all_eq_true.mp hnames _ (List.mem_map_of_mem hsetting))

/-- Where no text has a NUL, the data source has none. -/
theorem nul_not_mem_connection {s : SpatialSettings} (h : s.NulFree) :
    '\x00' ∉ trail s.connection := by
  have hport : '\x00' ∉ (toString s.port).toList := fun hmem =>
    absurd (Text.Utf8.toNat_of_mem_repr hmem).1 (by decide)
  refine nul_not_mem_trail ?_
  simp only [SpatialSettings.connection, List.forall_mem_cons]
  exact ⟨⟨by decide, h.host⟩, ⟨by decide, hport⟩, ⟨by decide, h.database⟩, ⟨by decide, h.username⟩,
    ⟨by decide, h.password⟩, nofun⟩

/-- A data source of texts without NUL is read as its five settings. -/
theorem readSource_of_nulFree {s : SpatialSettings} (h : s.NulFree) :
    readSource s.dataSource = some s.connection := by
  have hseen : s.dataSource.toList.takeWhile (· != '\x00') = s.dataSource.toList := by
    refine List.takeWhile_eq_self_iff.mpr fun c hc => bne_iff_ne.mpr ?_
    rintro rfl
    rw [toList_dataSource] at hc
    simp only [List.mem_cons] at hc
    rcases hc with hc | hc | hc | hc
    · cases hc
    · cases hc
    · cases hc
    · exact nul_not_mem_connection h (List.mem_of_mem_tail hc)
  have htrail : trail s.connection = ' ' :: (trail s.connection).tail := rfl
  have hread := readSettings_trail (isInName_of_mem_connection s)
  rw [htrail, readSettings_cons (by decide)] at hread
  rw [readSource, hseen, toList_dataSource]
  exact hread

/-- A data source of texts without NUL is read as the five settings host, port, database, user and
password, in this order and each as it was configured. With its password masked it is read as the
same settings with the mask for a password, and is the same for every password. -/
theorem readSource_dataSource (s : SpatialSettings) (h : s.NulFree) :
    readSource s.dataSource =
        some [("host", s.host), ("port", toString s.port), ("dbname", s.database),
          ("user", s.username), ("password", s.password)] ∧
      readSource s.dataSourceMasked =
        some [("host", s.host), ("port", toString s.port), ("dbname", s.database),
          ("user", s.username), ("password", "****")] ∧
      ∀ password, { s with password }.dataSourceMasked = s.dataSourceMasked := by
  refine ⟨readSource_of_nulFree h, ?_, fun _ => rfl⟩
  rw [dataSourceMasked_eq]
  have hmask : '\x00' ∉ mask.toList := by decide
  exact readSource_of_nulFree { h with password := hmask }

/-- A connection with an empty host, and with blanks, quotes, backslashes and what looks like
another setting in the others. -/
def hostile : SpatialSettings where
  host := ""
  port := 5432
  database := "a b=c"
  username := "it's \\ host=evil"
  password := "p' host=other\tx\\"
  schema := "public"
  sslMode := .prefer

/-- What looks like a setting inside a value is read as part of the value. -/
theorem readSource_dataSource_hostile :
    hostile.NulFree ∧ readSource hostile.dataSource =
      some [("host", ""), ("port", "5432"), ("dbname", "a b=c"), ("user", "it's \\ host=evil"),
        ("password", "p' host=other\tx\\")] := by
  have h : hostile.NulFree := ⟨by decide, by decide, by decide, by decide⟩
  exact ⟨h, (readSource_dataSource hostile h).1⟩

end Connection

end LayerPress
