import LayerPress.Naming
import Mathlib.Data.List.SplitBy

/-!
# Labels are titled run by run

The characters of a field fall into runs that are as long as they can be with all characters
alphabetic or none. A label has the first character of an alphabetic run in upper case, whatever
its upper case is, and each other in its own lower case. The characters between the runs stay, but
for underscores, which are spaces.

What a character becomes does not count for those behind it, so a character that is not alphabetic
parts the label into that of what stands before it and that of what stands behind it.
-/

namespace LayerPress.Naming

open Text (isAlphabetic lowerChar upperChar)

/-! ## Runs of one kind -/

/-- The parts of a text in which all characters are alphabetic or none is, as long as they can
be. -/
structure AreRuns (runs : List (List Char)) : Prop where
  nonempty : ∀ run ∈ runs, run ≠ []
  oneKind : ∀ run ∈ runs, ∀ c ∈ run, ∀ d ∈ run, isAlphabetic c = isAlphabetic d
  maximal : runs.IsChain fun run next => ∀ c ∈ run, ∀ d ∈ next, isAlphabetic c ≠ isAlphabetic d

/-- Runs behind a run are runs. -/
theorem AreRuns.tail {run : List Char} {rest : List (List Char)} (h : AreRuns (run :: rest)) :
    AreRuns rest where
  nonempty r hr := h.nonempty r (List.mem_cons_of_mem _ hr)
  oneKind r hr := h.oneKind r (List.mem_cons_of_mem _ hr)
  maximal := h.maximal.tail

/-- Both are alphabetic or neither. -/
def sameKind (c d : Char) : Bool :=
  isAlphabetic c == isAlphabetic d

/-- Each text has runs. -/
theorem exists_areRuns (cs : List Char) : ∃ runs, AreRuns runs ∧ runs.flatten = cs := by
  have htrans : Trans (fun c d => sameKind c d = true) (fun c d => sameKind c d = true)
      (fun c d => sameKind c d = true) := by
    refine ⟨fun hcd hde => ?_⟩
    rw [sameKind, beq_iff_eq] at hcd hde ⊢
    exact hcd.trans hde
  have hsymm : Std.Symm (fun c d => sameKind c d = true) := by
    refine ⟨fun c d hcd => ?_⟩
    rw [sameKind, beq_iff_eq] at hcd ⊢
    exact hcd.symm
  have hkind : ∀ run ∈ cs.splitBy sameKind, ∀ c ∈ run, ∀ d ∈ run,
      isAlphabetic c = isAlphabetic d := by
    intro run hrun c hc d hd
    have hpairs := (List.isChain_of_mem_splitBy hrun).pairwise.forall_of_forall
      (fun e _ => beq_self_eq_true _) hc hd
    exact beq_iff_eq.mp hpairs
  refine ⟨cs.splitBy sameKind, ⟨fun run => List.ne_nil_of_mem_splitBy, hkind, ?_⟩,
    List.flatten_splitBy _ _⟩
  refine (List.isChain_getLast_head_splitBy sameKind cs).imp_of_mem_imp ?_
  rintro run next hrun hnext ⟨hsome, hsome', hparted⟩ c hc d hd heq
  rw [sameKind, beq_eq_false_iff_ne] at hparted
  apply hparted
  rw [hkind run hrun _ (List.getLast_mem hsome) c hc, heq,
    hkind next hnext d hd _ (List.head_mem hsome')]

/-! ## Titling -/

/-- A run with its first character in upper case and the others in lower case, if they are
alphabetic. -/
def titledRun : List Char → List Char
  | [] => []
  | c :: rest =>
    if isAlphabetic c then upperChar c ++ rest.flatMap lowerChar else c :: rest

/-- Inside a word all characters are lowered. -/
theorem titleCase_word {word : List Char} (hword : ∀ c ∈ word, isAlphabetic c = true)
    (rest : List Char) :
    titleCase true (word ++ rest) = word.flatMap lowerChar ++ titleCase true rest := by
  induction word with
  | nil => rfl
  | cons c word ih =>
    obtain ⟨hc, htail⟩ := List.forall_mem_cons.mp hword
    rw [List.cons_append, titleCase, if_pos hc, if_pos rfl, ih htail, List.flatMap_cons,
      List.append_assoc]

/-- A character that is not alphabetic stays, and ends a word. -/
theorem titleCase_cons_of_eq_false {c : Char} (hc : isAlphabetic c = false) (inWord : Bool)
    (rest : List Char) : titleCase inWord (c :: rest) = c :: titleCase false rest := by
  rw [titleCase, hc, if_neg Bool.false_ne_true]

/-- Characters between words stay. -/
theorem titleCase_gap {gap : List Char} (hgap : ∀ c ∈ gap, isAlphabetic c = false)
    (rest : List Char) : titleCase false (gap ++ rest) = gap ++ titleCase false rest := by
  induction gap with
  | nil => rfl
  | cons c gap ih =>
    obtain ⟨hc, htail⟩ := List.forall_mem_cons.mp hgap
    rw [List.cons_append, titleCase_cons_of_eq_false hc, ih htail, List.cons_append]

/-- Runs are titled one by one, if the first does not continue a word. -/
theorem AreRuns.titleCase_flatten {runs : List (List Char)} (h : AreRuns runs) {inWord : Bool}
    (hopen : inWord = true → ∀ run ∈ runs.head?, ∀ c ∈ run, isAlphabetic c = false) :
    titleCase inWord runs.flatten = runs.flatMap titledRun := by
  -- behind a run the flag tells its kind, and the next run is of the other
  induction runs generalizing inWord with
  | nil => rfl
  | cons run rest ih =>
    obtain ⟨c, others, rfl⟩ := List.exists_cons_of_ne_nil (h.nonempty run List.mem_cons_self)
    have hothers : ∀ d ∈ others, isAlphabetic d = isAlphabetic c := fun d hd =>
      h.oneKind _ List.mem_cons_self d (List.mem_cons_of_mem _ hd) c List.mem_cons_self
    have hnext : ∀ next ∈ rest.head?, ∀ d ∈ next, isAlphabetic c ≠ isAlphabetic d :=
      fun next hmem => (List.isChain_cons.mp h.maximal).1 next hmem c List.mem_cons_self
    rw [List.flatten_cons, List.flatMap_cons, List.cons_append, titledRun]
    by_cases hc : isAlphabetic c = true
    · have hfirst : inWord = false := by
        refine eq_false_of_ne_true fun hin => ?_
        rw [hopen hin _ rfl c List.mem_cons_self] at hc
        cases hc
      have hbehind : true = true → ∀ next ∈ rest.head?, ∀ d ∈ next, isAlphabetic d = false :=
        fun _ next hmem d hd => eq_false_of_ne_true fun hd' =>
          hnext next hmem d hd (hc.trans hd'.symm)
      rw [titleCase, if_pos hc, if_pos hc, hfirst, if_neg Bool.false_ne_true,
        titleCase_word fun d hd => (hothers d hd).trans hc, ih h.tail hbehind, List.append_assoc]
    · have hgap : ∀ d ∈ others, isAlphabetic d = false := fun d hd =>
        (hothers d hd).trans (eq_false_of_ne_true hc)
      rw [if_neg hc, titleCase_cons_of_eq_false (eq_false_of_ne_true hc), titleCase_gap hgap,
        ih h.tail fun hin => absurd hin Bool.false_ne_true, List.cons_append]

/-- A character that is not alphabetic parts what is titled. -/
theorem titleCase_append_cons {c : Char} (hc : isAlphabetic c = false) (inWord : Bool)
    (before rest : List Char) :
    titleCase inWord (before ++ c :: rest) =
      titleCase inWord before ++ c :: titleCase false rest := by
  induction before generalizing inWord with
  | nil => exact titleCase_cons_of_eq_false hc inWord rest
  | cons b before ih =>
    rw [List.cons_append, titleCase, titleCase, ih, ih]
    split
    · rw [List.append_assoc]
    · rw [List.cons_append]

/-- What an underscore is shown as is not alphabetic either. -/
theorem isAlphabetic_spaced {c : Char} (hc : isAlphabetic c = false) :
    isAlphabetic (spaced c) = false := by
  rw [spaced]
  split
  · decide +kernel
  · exact hc

/-- A label is the runs of the field's characters, titled one by one, with spaces for underscores,
and any character that is not alphabetic parts it into the labels of what stands before and
behind. -/
theorem displayLabel_by_runs :
    (∀ field : String,
      (∃ runs, AreRuns runs ∧ runs.flatten = field.toList.map spaced) ∧
        ∀ runs, AreRuns runs → runs.flatten = field.toList.map spaced →
          displayLabel field = String.ofList (runs.flatMap titledRun)) ∧
      ∀ (before rest : String) (c : Char), isAlphabetic c = false →
        displayLabel (before ++ String.singleton c ++ rest) =
          displayLabel before ++ String.singleton (if c = '_' then ' ' else c) ++
            displayLabel rest := by
  refine ⟨fun field => ⟨exists_areRuns _, fun runs hruns hfield => ?_⟩, fun before rest c hc => ?_⟩
  · rw [displayLabel, labelChars, ← hfield,
      hruns.titleCase_flatten fun hin => absurd hin Bool.false_ne_true]
  · have hspaced : spaced c = if c = '_' then ' ' else c := by
      rw [spaced]
      simp
    rw [← hspaced, ← String.toList_inj]
    simp only [displayLabel, labelChars, String.toList_append, String.toList_singleton,
      String.toList_ofList, List.map_append, List.map_cons, List.append_assoc,
      List.singleton_append]
    exact titleCase_append_cons (isAlphabetic_spaced hc) false _ _

/-- An underscore parts a label whose first letter is of two characters in upper case from one that
ends with a sigma. -/
theorem displayLabel_by_runs_sharpS :
    isAlphabetic '_' = false ∧
      displayLabel ("ßeta" ++ String.singleton '_' ++ "ΟΔΟΣ") =
        displayLabel "ßeta" ++ String.singleton ' ' ++ displayLabel "ΟΔΟΣ" := by
  have hunderscore : isAlphabetic '_' = false := by decide +kernel
  exact ⟨hunderscore, displayLabel_by_runs.2 "ßeta" "ΟΔΟΣ" '_' hunderscore⟩

/-- Each character is lowered by itself, so the last sigma is not the final one. -/
example : displayLabel "ßeta_ΟΔΟΣ" = "SSeta Οδοσ" := by
  decide +kernel

end LayerPress.Naming
