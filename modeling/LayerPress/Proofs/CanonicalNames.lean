import LayerPress.Naming
import Mathlib.Data.List.Destutter

/-!
# Table names are canonical

A table name has only small ASCII letters, digits and underscores, and no two underscores side by
side. The names of this form are those that stay as they are, so a table name is that of itself.

In lower case a capital sigma depends on what stands around it, but in a table name it is an
underscore in any case. So a table name is made of what each character of the slug gives by itself,
with underscores in a row taken as one. An ASCII letter gives the same as its capital, and
characters that are neither ASCII letters or digits nor become ASCII letters in lower case give what
a dash gives.
-/

namespace LayerPress

/-! ## Lower case of single characters -/

namespace Text

/-- What holds of each ASCII character holds of a character in ASCII. -/
theorem of_ascii {P : Char → Prop} (h : ∀ n < 0x80, P (Char.ofNat n)) {c : Char}
    (hc : c.toNat < 0x80) : P c := by
  have hn := h c.toNat hc
  rwa [Char.ofNat_toNat] at hn

/-- Only the first run, that of the capitals, reaches into ASCII. -/
theorem exists_lowerRuns_eq_cons :
    ∃ others, lowerRuns = ⟨0x41, 0x5a, 1, 32⟩ :: others ∧ ∀ r ∈ others, 0x80 ≤ r.first :=
  ⟨_, rfl, by decide +kernel⟩

/-- An ASCII character has its lower case in ASCII. -/
theorem lowerChar_of_ascii {c : Char} (h : c.toNat < 0x80) : lowerChar c = [c.toLower] := by
  obtain ⟨others, hruns, hothers⟩ := exists_lowerRuns_eq_cons
  have hnone : others.find? (·.covers c.toNat) = none := by
    rw [List.find?_eq_none]
    intro r hr hcovers
    have hfirst := hothers r hr
    simp only [CaseRun.covers, Bool.and_eq_true, decide_eq_true_eq] at hcovers
    omega
  have hsmall : c.toLower = if 0x41 ≤ c.toNat ∧ c.toNat ≤ 0x5a then Char.ofNat (c.toNat + 32)
      else c :=
    of_ascii (P := fun c => c.toLower = if 0x41 ≤ c.toNat ∧ c.toNat ≤ 0x5a then
      Char.ofNat (c.toNat + 32) else c) (by decide +kernel) h
  have hdotted : ¬ (c.toNat == 0x130) = true := by
    rw [beq_iff_eq]
    omega
  rw [lowerChar, if_neg hdotted, moveBy, hruns, List.find?_cons, hnone, hsmall]
  by_cases hcapital : 0x41 ≤ c.toNat ∧ c.toNat ≤ 0x5a
  · have hcovers : (⟨0x41, 0x5a, 1, 32⟩ : CaseRun).covers c.toNat = true := by
      simp [CaseRun.covers, hcapital, Nat.mod_one]
    rw [hcovers, if_pos hcapital]
    rfl
  · have hcovers : (⟨0x41, 0x5a, 1, 32⟩ : CaseRun).covers c.toNat = false := by
      simpa [CaseRun.covers, Nat.mod_one] using hcapital
    rw [hcovers, if_neg hcapital]

/-- An ASCII capital has the lower case of its small letter. -/
theorem lowerChar_toLower (c : Char) : lowerChar c.toLower = lowerChar c := by
  by_cases h : c.toNat < 0x80
  · have hsmall : c.toLower.toNat < 0x80 ∧ c.toLower.toLower = c.toLower :=
      of_ascii (P := fun c => c.toLower.toNat < 0x80 ∧ c.toLower.toLower = c.toLower)
        (by decide +kernel) h
    rw [lowerChar_of_ascii h, lowerChar_of_ascii hsmall.1, hsmall.2]
  · have hsmall : c.toLower = c := by
      refine dif_neg fun hcapital => h ?_
      have hlast : c.toNat ≤ 90 := UInt32.le_iff_toNat_le.mp hcapital.2
      omega
    rw [hsmall]

/-- A character has a lower case. -/
theorem lowerChar_ne_nil (c : Char) : lowerChar c ≠ [] := by
  unfold lowerChar
  split <;> exact List.cons_ne_nil _ _

/-- A text with a character has one in lower case. -/
theorem lower_ne_nil {cs : List Char} (h : cs ≠ []) : lower cs ≠ [] := by
  cases cs with
  | nil => exact absurd rfl h
  | cons c rest =>
    intro hnil
    unfold lower lowerFrom at hnil
    have himage := (List.append_eq_nil_iff.mp hnil).1
    split at himage
    · split at himage <;> cases himage
    · exact lowerChar_ne_nil c himage

/-- Characters move behind the digits when they are lower-cased. -/
theorem digits_lt_of_mem_lowerRuns : ∀ r ∈ lowerRuns, 57 < (r.first : Int) + r.distance := by
  decide +kernel

/-- A code point that is no character stands for zero. -/
theorem toNat_ofNat_eq_or (n : ℕ) : (Char.ofNat n).toNat = n ∨ (Char.ofNat n).toNat = 0 := by
  by_cases hvalid : n.isValidChar
  · rw [Char.ofNat, dif_pos hvalid]
    exact .inl rfl
  · rw [Char.ofNat, dif_neg hvalid]
    exact .inr rfl

/-- A digit is the lower case of nothing but itself. -/
theorem eq_of_isDigit_of_mem_lowerChar {c d : Char} (hd : d ∈ lowerChar c)
    (hdigit : d.isDigit = true) : d = c := by
  rw [lowerChar] at hd
  split at hd
  · have hnone : [Char.ofNat 0x69, Char.ofNat 0x307].all (!·.isDigit) = true := by decide
    have hd' := List.all_eq_true.mp hnone d hd
    rw [hdigit] at hd'
    cases hd'
  · rw [List.mem_singleton, moveBy] at hd
    split at hd
    · next r hr =>
      have hbehind := digits_lt_of_mem_lowerRuns r (List.mem_of_find?_eq_some hr)
      have hcovers := List.find?_some hr
      simp only [CaseRun.covers, Bool.and_eq_true, decide_eq_true_eq] at hcovers
      obtain ⟨hfirst, hlast⟩ : 48 ≤ d.toNat ∧ d.toNat ≤ 57 := Char.isDigit_iff_toNat.mp hdigit
      rw [hd] at hfirst hlast
      cases toNat_ofNat_eq_or (c.toNat + r.distance).toNat with
      | inl himage => omega
      | inr hzero => omega
    · exact hd

end Text

/-! ## One underscore for several -/

namespace Naming

/-- In the place of a character that a table name does not keep stands an underscore. -/
def shown (c : Char) : Char :=
  if isPlain c then c else '_'

/-- Not both are underscores. -/
def Apart (a b : Char) : Prop :=
  ¬ (a = '_' ∧ b = '_')

instance : DecidableRel Apart :=
  fun a b => inferInstanceAs (Decidable (¬ (a = '_' ∧ b = '_')))

/-- A table name keeps small ASCII letters and digits. -/
theorem isPlain_eq (c : Char) : isPlain c = (c.isLower || c.isDigit) := rfl

/-- A character that a table name keeps is no underscore. -/
theorem ne_underscore_of_isPlain {c : Char} (h : isPlain c = true) : c ≠ '_' := by
  rintro rfl
  exact absurd h (by decide)

/-- Behind a character runs are collapsed as underscores are dropped behind it. -/
theorem cons_collapse (a : Char) (cs : List Char) :
    a :: collapse (a == '_') cs = (cs.map shown).destutter' Apart a := by
  -- an open run is one whose underscore stands in front
  induction cs generalizing a with
  | nil => rfl
  | cons c rest ih =>
    rw [List.map_cons, collapse]
    by_cases hplain : isPlain c = true
    · have hc := ne_underscore_of_isPlain hplain
      have hrest := ih c
      rw [beq_false_of_ne hc] at hrest
      rw [if_pos hplain, hrest, shown, if_pos hplain,
        List.destutter'_cons_pos _ fun hboth => hc hboth.2]
    · have hrest : '_' :: collapse true rest = (rest.map shown).destutter' Apart '_' := ih '_'
      rw [if_neg hplain, shown, if_neg hplain]
      by_cases ha : a = '_'
      · subst ha
        rw [List.destutter'_cons_neg _ fun hapart => hapart ⟨rfl, rfl⟩, ← hrest]
        rfl
      · rw [List.destutter'_cons_pos _ fun hboth => ha hboth.1, ← hrest, beq_false_of_ne ha]
        rfl

/-- Collapsing shows each character and drops underscores behind underscores. -/
theorem collapse_eq_destutter (cs : List Char) :
    collapse false cs = (cs.map shown).destutter Apart := by
  cases cs with
  | nil => rfl
  | cons c rest =>
    rw [List.map_cons, List.destutter_cons', ← cons_collapse, shown, collapse]
    by_cases hplain : isPlain c = true
    · rw [if_pos hplain, if_pos hplain, beq_false_of_ne (ne_underscore_of_isPlain hplain)]
    · rw [if_neg hplain, if_neg hplain]
      rfl

/-! ## What a character gives -/

/-- What a character of a slug gives to the name of the table. -/
def tableImage (c : Char) : List Char :=
  (Text.lowerChar c).map shown

/-- A capital sigma is shown alike at the end of a word and inside. -/
theorem map_shown_lowerFrom (passed cs : List Char) :
    (Text.lowerFrom passed cs).map shown = cs.flatMap tableImage := by
  induction cs generalizing passed with
  | nil => rfl
  | cons c rest ih =>
    rw [Text.lowerFrom, List.map_append, ih, List.flatMap_cons]
    congr 1
    have hsigma : tableImage (Char.ofNat 0x3a3) = ['_'] := by decide +kernel
    split_ifs with hc hfinal
    · rw [← Char.ofNat_toNat c, beq_iff_eq.mp hc, hsigma]
      decide
    · rw [← Char.ofNat_toNat c, beq_iff_eq.mp hc, hsigma]
      decide
    · rfl

/-- A table name is what the characters of the slug give, but for underscores behind underscores. -/
theorem tableChars_eq (slug : List Char) :
    tableChars slug = (slug.flatMap tableImage).destutter Apart := by
  rw [tableChars, Text.lower, collapse_eq_destutter, map_shown_lowerFrom]

/-- An ASCII capital gives the same as its small letter. -/
theorem tableImage_toLower (c : Char) : tableImage c.toLower = tableImage c := by
  rw [tableImage, Text.lowerChar_toLower, tableImage]

/-- Each character given is what is shown of some character. -/
theorem exists_shown_of_mem_flatMap {slug : List Char} {d : Char}
    (hd : d ∈ slug.flatMap tableImage) : ∃ c, shown c = d := by
  obtain ⟨c, -, hc⟩ := List.mem_flatMap.mp hd
  obtain ⟨e, -, he⟩ := List.mem_map.mp hc
  exact ⟨e, he⟩

/-! ## The form of table names -/

/-- Small ASCII letters, digits and the underscore. -/
def IsTableChar (c : Char) : Prop :=
  ('a' ≤ c ∧ c ≤ 'z') ∨ ('0' ≤ c ∧ c ≤ '9') ∨ c = '_'

instance : DecidablePred IsTableChar :=
  fun c => inferInstanceAs (Decidable (('a' ≤ c ∧ c ≤ 'z') ∨ ('0' ≤ c ∧ c ≤ '9') ∨ c = '_'))

/-- Characters of table names, no two underscores of them side by side. -/
structure IsTableName (cs : List Char) : Prop where
  chars : ∀ c ∈ cs, IsTableChar c
  apart : cs.IsChain Apart

/-- What is shown is a character of table names. -/
theorem isTableChar_shown (c : Char) : IsTableChar (shown c) := by
  rw [shown]
  split_ifs with hplain
  · simpa [IsTableChar, isPlain, or_assoc] using Or.inl hplain
  · exact .inr (.inr rfl)

/-- A table name has the form of table names. -/
theorem isTableName_tableChars (slug : List Char) : IsTableName (tableChars slug) := by
  rw [tableChars_eq]
  refine ⟨fun c hc => ?_, List.isChain_destutter _ _⟩
  obtain ⟨e, rfl⟩ := exists_shown_of_mem_flatMap ((List.destutter_sublist _ _).subset hc)
  exact isTableChar_shown e

/-- A character of table names gives itself. -/
theorem IsTableChar.tableImage_eq {c : Char} (h : IsTableChar c) : tableImage c = [c] := by
  have hascii : c.toNat < 0x80 := by
    rcases h with ⟨-, hlast⟩ | ⟨-, hlast⟩ | rfl
    · exact Nat.lt_of_le_of_lt (UInt32.le_iff_toNat_le.mp hlast) (by decide)
    · exact Nat.lt_of_le_of_lt (UInt32.le_iff_toNat_le.mp hlast) (by decide)
    · decide
  have hshown : shown c.toLower = c :=
    Text.of_ascii (P := fun c => IsTableChar c → shown c.toLower = c) (by decide +kernel) hascii h
  rw [tableImage, Text.lowerChar_of_ascii hascii, List.map_singleton, hshown]

/-- A name of the form stays as it is. -/
theorem IsTableName.tableChars_eq_self {cs : List Char} (h : IsTableName cs) :
    tableChars cs = cs := by
  have hgiven : cs.flatMap tableImage = cs := by
    rw [List.flatMap_congr fun c hc => (h.chars c hc).tableImage_eq, List.flatMap_singleton']
  rw [tableChars_eq, hgiven]
  exact List.destutter_of_isChain _ _ h.apart

/-- The names that stay as they are have the form of table names. -/
theorem tableChars_eq_self_iff {cs : List Char} : tableChars cs = cs ↔ IsTableName cs :=
  ⟨fun h => h ▸ isTableName_tableChars cs, IsTableName.tableChars_eq_self⟩

/-! ## Slugs with the same table name -/

/-- Slugs that differ in the case of ASCII letters only have the same table name. -/
theorem tableChars_congr_case {slug slug' : List Char}
    (h : slug.map Char.toLower = slug'.map Char.toLower) : tableChars slug = tableChars slug' := by
  have hsmall : ∀ cs : List Char, cs.flatMap tableImage =
      (cs.map Char.toLower).flatMap tableImage := by
    intro cs
    simp only [List.flatMap_map, tableImage_toLower]
  rw [tableChars_eq, tableChars_eq, hsmall slug, hsmall slug', h]

/-- Neither an ASCII letter or digit nor in lower case an ASCII letter. -/
def isDashLike (c : Char) : Bool :=
  !c.isAlphanum && (Text.lowerChar c).all fun d => !d.isAlpha

/-- A character like a dash gives underscores only. -/
theorem eq_underscore_of_isDashLike {c d : Char} (h : isDashLike c = true)
    (hd : d ∈ tableImage c) : d = '_' := by
  obtain ⟨e, he, rfl⟩ := List.mem_map.mp hd
  rw [isDashLike, Bool.and_eq_true, List.all_eq_true] at h
  have hletter : e.isAlpha = false := Bool.not_eq_true' _ ▸ h.2 e he
  have hdigit : e.isDigit = false := by
    refine eq_false_of_ne_true fun hdigit => ?_
    have hother := h.1
    rw [← Text.eq_of_isDigit_of_mem_lowerChar he hdigit, Char.isAlphanum, hdigit,
      Bool.or_true] at hother
    cases hother
  have hplain : isPlain e = false := by
    rw [isPlain_eq, (Bool.or_eq_false_iff.mp hletter).2, hdigit, Bool.or_false]
  rw [shown, hplain]
  rfl

/-- Underscores behind an underscore are dropped. -/
theorem destutter'_underscores {run : List Char} (hrun : ∀ c ∈ run, c = '_') (rest : List Char) :
    (run ++ rest).destutter' Apart '_' = rest.destutter' Apart '_' := by
  induction run with
  | nil => rfl
  | cons c run ih =>
    obtain ⟨rfl, htail⟩ := List.forall_mem_cons.mp hrun
    rw [List.cons_append, List.destutter'_cons_neg _ fun hapart => hapart ⟨rfl, rfl⟩, ih htail]

/-- Behind any characters an underscore stands for itself and those that follow it. -/
theorem destutter'_run {run : List Char} (hrun : ∀ c ∈ run, c = '_') (a : Char)
    (before rest : List Char) :
    (before ++ '_' :: (run ++ rest)).destutter' Apart a =
      (before ++ '_' :: rest).destutter' Apart a := by
  induction before generalizing a with
  | nil =>
    rw [List.nil_append, List.nil_append, List.destutter'_cons, List.destutter'_cons,
      destutter'_underscores hrun]
    by_cases ha : a = '_'
    · rw [ha, destutter'_underscores hrun]
    · have hapart : Apart a '_' := fun hboth => ha hboth.1
      rw [if_pos hapart, if_pos hapart]
  | cons b before ih =>
    rw [List.cons_append, List.cons_append, List.destutter'_cons, List.destutter'_cons, ih, ih]

/-- A run of underscores anywhere stands for one. -/
theorem destutter_run {run : List Char} (hsome : run ≠ []) (hrun : ∀ c ∈ run, c = '_')
    (before rest : List Char) :
    (before ++ run ++ rest).destutter Apart = (before ++ '_' :: rest).destutter Apart := by
  cases run with
  | nil => exact absurd rfl hsome
  | cons c run =>
    obtain ⟨rfl, htail⟩ := List.forall_mem_cons.mp hrun
    rw [List.append_assoc, List.cons_append]
    cases before with
    | nil => exact destutter'_underscores htail rest
    | cons b before => exact destutter'_run htail b before rest

/-- A dash stands for any characters like it in a row. -/
theorem tableChars_run {run : List Char} (hsome : run ≠ []) (hrun : ∀ c ∈ run, isDashLike c = true)
    (before rest : List Char) :
    tableChars (before ++ run ++ rest) = tableChars (before ++ '-' :: rest) := by
  have hdash : tableImage '-' = ['_'] := by decide +kernel
  have hsomeGiven : run.flatMap tableImage ≠ [] := by
    intro hnil
    obtain ⟨c, hc⟩ := List.exists_mem_of_ne_nil run hsome
    exact Text.lowerChar_ne_nil c (List.map_eq_nil_iff.mp (List.flatMap_eq_nil_iff.mp hnil c hc))
  have hgiven : ∀ d ∈ run.flatMap tableImage, d = '_' := by
    intro d hd
    obtain ⟨c, hc, hdc⟩ := List.mem_flatMap.mp hd
    exact eq_underscore_of_isDashLike (hrun c hc) hdc
  rw [tableChars_eq, tableChars_eq, List.flatMap_append, List.flatMap_append, List.flatMap_append,
    List.flatMap_cons, hdash, List.singleton_append]
  exact destutter_run hsomeGiven hgiven _ _

/-- Collapsing keeps or replaces the first character. -/
theorem collapse_ne_nil {cs : List Char} (h : cs ≠ []) : collapse false cs ≠ [] := by
  cases cs with
  | nil => exact absurd rfl h
  | cons c rest =>
    unfold collapse
    split
    · exact List.cons_ne_nil _ _
    · exact List.cons_ne_nil _ _

/-- The table of a slug that is not empty has a name. -/
theorem tableName_ne_empty {slug : String} (h : slug ≠ "") : tableName slug ≠ "" := by
  have hchars : slug.toList ≠ [] := fun hnil => h (String.toList_eq_nil_iff.mp hnil)
  have htable := collapse_ne_nil (Text.lower_ne_nil hchars)
  intro hempty
  exact htable (by simpa [tableName, tableChars] using hempty)

/-- Only the empty slug has the empty table name. -/
theorem tableName_eq_empty_iff (slug : String) : tableName slug = "" ↔ slug = "" := by
  constructor
  · intro h
    by_contra hslug
    exact tableName_ne_empty hslug h
  · rintro rfl
    rfl

/-- A table name is canonical: it has small ASCII letters, digits and underscores, no two of these
side by side, and is empty for the empty slug only. The names that stay as they are are those of
this form, so a table name is that of itself. Slugs have the same table name if they differ in the
case of ASCII letters only, or if one has a dash where the other has characters that are neither
ASCII letters or digits nor have an ASCII letter in lower case, however many in a row. -/
theorem tableName_canonical :
    (∀ slug, IsTableName (tableName slug).toList ∧ (tableName slug = "" ↔ slug = "") ∧
        tableName (tableName slug) = tableName slug) ∧
      (∀ name, tableName name = name ↔ IsTableName name.toList) ∧
      (∀ slug slug', slug.toList.map Char.toLower = slug'.toList.map Char.toLower →
        tableName slug = tableName slug') ∧
      ∀ before run rest : String, run ≠ "" → (∀ c ∈ run.toList, isDashLike c = true) →
        tableName (before ++ run ++ rest) = tableName (before ++ "-" ++ rest) := by
  have hform : ∀ slug, IsTableName (tableName slug).toList := by
    intro slug
    rw [tableName, String.toList_ofList]
    exact isTableName_tableChars slug.toList
  have hself : ∀ name, tableName name = name ↔ IsTableName name.toList := by
    intro name
    rw [← tableChars_eq_self_iff, tableName, ← String.toList_inj, String.toList_ofList]
  refine ⟨fun slug => ⟨hform slug, tableName_eq_empty_iff slug, (hself _).mpr (hform slug)⟩,
    hself, fun slug slug' h => ?_, fun before run rest hsome hrun => ?_⟩
  · rw [tableName, tableName, tableChars_congr_case h]
  · have hchars : run.toList ≠ [] := fun hnil => hsome (String.toList_eq_nil_iff.mp hnil)
    have hdash : "-".toList = ['-'] := rfl
    rw [tableName, tableName, String.toList_append, String.toList_append, String.toList_append,
      String.toList_append, tableChars_run hchars hrun, hdash, List.append_assoc,
      List.singleton_append]

/-- Capitals do not count, and a dash may stand for Greek letters, of which the sigma is the last of
its word, with blanks and a dash. -/
theorem tableName_canonical_lakes :
    "LAKES 2024".toList.map Char.toLower = "Lakes 2024".toList.map Char.toLower ∧
      tableName "LAKES 2024" = tableName "Lakes 2024" ∧
      " ΛΙΜΝΕΣ – " ≠ "" ∧ (∀ c ∈ " ΛΙΜΝΕΣ – ".toList, isDashLike c = true) ∧
      tableName ("Lakes" ++ " ΛΙΜΝΕΣ – " ++ "2024") = tableName ("Lakes" ++ "-" ++ "2024") := by
  have hcase : "LAKES 2024".toList.map Char.toLower = "Lakes 2024".toList.map Char.toLower := by
    decide +kernel
  have hsome : " ΛΙΜΝΕΣ – " ≠ "" := by decide
  have hrun : ∀ c ∈ " ΛΙΜΝΕΣ – ".toList, isDashLike c = true :=
    List.all_eq_true.mp (by decide +kernel)
  exact ⟨hcase, tableName_canonical.2.2.1 _ _ hcase, hsome, hrun,
    tableName_canonical.2.2.2 "Lakes" _ "2024" hsome hrun⟩

/-- The sign for kelvins is a letter in lower case, so no dash may stand for it. -/
example : tableName "5 \u212a" = "5_k" ∧ tableName "5 -" = "5_" := by
  decide +kernel

end Naming

end LayerPress
