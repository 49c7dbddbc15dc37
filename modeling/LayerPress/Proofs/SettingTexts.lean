import LayerPress.Text.Blank
import LayerPress.Text.Numeral
import LayerPress.Text.Split
import Mathlib.Data.List.TakeWhile

/-!
# What the texts of settings say

The text of a setting is trimmed: it is what stands between blanks and has none at its own ends. A
number is written with digits behind an optional plus sign, and a list as pieces between commas.
Trimming, reading a number and cutting at commas are characterised here by these texts alone.
-/

namespace LayerPress.Text

/-! ## Blanks at the ends -/

/-- What is left of a text without the blanks at its ends. -/
def Trims (cs kept : List Char) : Prop :=
  ∃ lead trail, cs = lead ++ kept ++ trail ∧
    (∀ c ∈ lead, isBlank c = true) ∧ (∀ c ∈ trail, isBlank c = true) ∧
    (∀ c ∈ kept.head?, isBlank c = false) ∧ ∀ c ∈ kept.getLast?, isBlank c = false

/-- Dropping from a text that does not begin with what is dropped leaves it as it is. -/
theorem dropWhile_of_head? {p : Char → Bool} {cs : List Char}
    (h : ∀ c ∈ cs.head?, p c = false) : cs.dropWhile p = cs := by
  cases cs with
  | nil => rfl
  | cons c rest => exact List.dropWhile_cons_of_neg (by simp [h c rfl])

/-- A text without blanks at its ends is what trimming leaves of it between blanks. -/
theorem trimChars_of_trims {cs kept : List Char} (h : Trims cs kept) : trimChars cs = kept := by
  obtain ⟨lead, trail, rfl, hlead, htrail, hhead, hlast⟩ := h
  have htrail' : ∀ c ∈ trail.reverse, isBlank c = true :=
    fun c hc => htrail c (List.mem_reverse.mp hc)
  have hlast' : ∀ c ∈ kept.reverse.head?, isBlank c = false := by
    rwa [List.head?_reverse]
  rw [trimChars, List.append_assoc, List.dropWhile_append_of_pos hlead]
  cases kept with
  | nil =>
    rw [List.nil_append, List.dropWhile_eq_nil_iff.mpr htrail]
    rfl
  | cons c rest =>
    have hbegin : (c :: rest ++ trail).dropWhile isBlank = c :: rest ++ trail :=
      dropWhile_of_head? hhead
    rw [hbegin, List.reverse_append,
      List.dropWhile_append_of_pos htrail', dropWhile_of_head? hlast', List.reverse_reverse]

/-- Dropping stops where there is nothing to drop. -/
theorem head?_dropWhile (p : Char → Bool) (cs : List Char) :
    ∀ c ∈ (cs.dropWhile p).head?, p c = false := by
  intro c hc
  have hstop := List.head?_dropWhile_not p cs
  rwa [Option.mem_def.mp hc] at hstop

/-- Trimming leaves what stands between the blanks. -/
theorem trims_trimChars (cs : List Char) : Trims cs (trimChars cs) := by
  have hall : ∀ ds : List Char, ∀ c ∈ ds.takeWhile isBlank, isBlank c = true :=
    fun ds => List.all_eq_true.mp List.all_takeWhile
  generalize hbehind : cs.dropWhile isBlank = behind
  have hbegin := head?_dropWhile isBlank cs
  have hcs : cs = cs.takeWhile isBlank ++ behind := by
    rw [← hbehind, List.takeWhile_append_dropWhile]
  have hkept : behind = trimChars cs ++ (behind.reverse.takeWhile isBlank).reverse := by
    rw [trimChars, hbehind, ← List.reverse_append, List.takeWhile_append_dropWhile,
      List.reverse_reverse]
  refine ⟨cs.takeWhile isBlank, (behind.reverse.takeWhile isBlank).reverse, ?_, hall cs, ?_, ?_, ?_⟩
  · rw [List.append_assoc, ← hkept]
    exact hcs
  · exact fun c hc => hall _ c (List.mem_reverse.mp hc)
  · -- What is kept begins where the text does behind its blanks.
    rw [hbehind, hkept, List.head?_append] at hbegin
    exact fun c hc => hbegin c (by rw [hc]; rfl)
  · rw [trimChars, List.getLast?_reverse, hbehind]
    exact head?_dropWhile isBlank behind.reverse

/-- What is trimmed stays as it is when it is trimmed again. -/
theorem Trims.self {cs kept : List Char} (h : Trims cs kept) : Trims kept kept := by
  obtain ⟨-, -, -, -, -, hhead, hlast⟩ := h
  exact ⟨[], [], by simp, by simp, by simp, hhead, hlast⟩

/-! ## Numbers -/

/-- A number is written: an optional plus sign and at least one digit. -/
def IsNumeral (n : ℕ) (cs : List Char) : Prop :=
  ∃ sign digits, cs = sign ++ digits ∧ (sign = [] ∨ sign = ['+']) ∧ digits ≠ [] ∧
    (∀ c ∈ digits, c.isDigit = true) ∧ Nat.ofDigitChars 10 digits 0 = n

/-- The digits are those from zero to nine. -/
theorem digit?_eq (c : Char) :
    digit? c = if c.isDigit then some (c.toNat - '0'.toNat) else none := by
  rw [digit?]
  congr 1
  simp [Char.isDigit, Char.le_def, UInt32.le_iff_toNat_le]

/-- Further digits make no number smaller. -/
theorem le_ofDigitChars (digits : List Char) (value : ℕ) :
    value ≤ Nat.ofDigitChars 10 digits value := by
  induction digits generalizing value with
  | nil => exact Nat.le_refl value
  | cons c digits ih =>
    rw [Nat.ofDigitChars_cons]
    have hmore := ih (10 * value + (c.toNat - '0'.toNat))
    omega

/-- Digits are read behind a value exactly if they are digits and the number that they continue it
to is below the limit. -/
theorem readDigits_eq_ok_iff {limit value n : ℕ} {cs : List Char} (hvalue : value < limit) :
    readDigits limit value cs = .ok n ↔
      (∀ c ∈ cs, c.isDigit = true) ∧ Nat.ofDigitChars 10 cs value = n ∧ n < limit := by
  induction cs generalizing value with
  | nil =>
    simp only [readDigits, Except.ok.injEq, List.not_mem_nil, false_implies, implies_true, true_and,
      Nat.ofDigitChars_nil]
    constructor
    · rintro rfl
      exact ⟨rfl, hvalue⟩
    · exact fun h => h.1
  | cons c rest ih =>
    rw [readDigits, digit?_eq, Nat.ofDigitChars_cons, Nat.mul_comm 10, List.forall_mem_cons]
    cases hc : c.isDigit with
    | false => simp
    | true =>
      simp only [if_true, true_and]
      split_ifs with hfits
      · exact ih hfits
      · -- The limit is passed, and no further digit leads back below it.
        simp only [false_iff, not_and]
        rintro - rfl
        have hmore := le_ofDigitChars rest (value * 10 + (c.toNat - '0'.toNat))
        omega

/-- A text is read as a number exactly if it writes the number and this is below the limit. -/
theorem readNumeral_eq_ok_iff {limit n : ℕ} {cs : List Char} (hlimit : 0 < limit) :
    readNumeral limit cs = .ok n ↔ IsNumeral n cs ∧ n < limit := by
  have hplus : '+'.isDigit = false := rfl
  have hdigits : ∀ digits : List Char, digits ≠ [] → digits.head? ≠ some '+' →
      (readDigits limit 0 digits = .ok n ↔ IsNumeral n digits ∧ n < limit) := by
    intro digits hsome hsign
    rw [readDigits_eq_ok_iff hlimit, ← and_assoc]
    refine and_congr_left fun _ => ⟨fun h => ⟨[], digits, rfl, .inl rfl, hsome, h⟩, ?_⟩
    rintro ⟨sign, digits, rfl, rfl | rfl, -, h⟩
    · exact h
    · exact absurd rfl hsign
  unfold readNumeral
  split
  · simp [IsNumeral]
  · constructor
    · intro h
      cases h
    · rintro ⟨⟨sign, digits, hcs, rfl | rfl, hsome, hall, -⟩, -⟩
      · obtain rfl : ['+'] = digits := hcs
        exact absurd (hall '+' List.mem_cons_self) (by simp [hplus])
      · exact absurd (List.cons.inj hcs).2.symm hsome
  · next rest hrest =>
    rw [readDigits_eq_ok_iff hlimit, ← and_assoc]
    refine and_congr_left fun _ => ⟨fun h => ⟨['+'], rest, rfl, .inr rfl, ?_, h⟩, ?_⟩
    · rintro rfl
      exact hrest rfl
    · rintro ⟨sign, digits, hcs, rfl | rfl, -, h⟩
      · obtain rfl : '+' :: rest = digits := hcs
        exact absurd (h.1 '+' List.mem_cons_self) (by simp [hplus])
      · obtain rfl : rest = digits := (List.cons.inj hcs).2
        exact h
  · next hnil _ hunsigned =>
    apply hdigits _ hnil
    intro hhead
    obtain ⟨rest, hcs⟩ := List.head?_eq_some_iff.mp hhead
    exact hunsigned rest hcs

/-! ## Pieces -/

/-- The pieces between separators are those of the list. -/
theorem splitAll_eq_splitOn (sep : Char) (cs : List Char) : splitAll sep cs = cs.splitOn sep := by
  induction cs with
  | nil => rfl
  | cons c rest ih =>
    rw [splitAll, ih, List.splitOn_cons_eq_if_modifyHead]
    cases hrest : rest.splitOn sep with
    | nil => exact absurd hrest (List.splitOn_ne_nil sep rest)
    | cons piece more => rfl

/-- No piece has a separator. -/
theorem sep_not_mem_of_mem_splitOn {sep : Char} {cs piece : List Char}
    (h : piece ∈ cs.splitOn sep) : sep ∉ piece := by
  induction cs generalizing piece with
  | nil => simp_all
  | cons c rest ih =>
    rw [List.splitOn_cons_eq_if_modifyHead] at h
    split_ifs at h with hc
    · rcases List.mem_cons.mp h with rfl | h
      · exact List.not_mem_nil
      · exact ih h
    · cases hrest : rest.splitOn sep with
      | nil => exact absurd hrest (List.splitOn_ne_nil sep rest)
      | cons first more =>
        rw [hrest] at h ih
        rcases List.mem_cons.mp h with rfl | h
        · rw [List.mem_cons, not_or]
          exact ⟨fun heq => hc (by simp [heq]), ih List.mem_cons_self⟩
        · exact ih (List.mem_cons_of_mem first h)

end LayerPress.Text
