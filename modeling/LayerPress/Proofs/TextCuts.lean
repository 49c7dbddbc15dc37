import LayerPress.Text.Split
import Mathlib.Data.List.Basic

/-!
# Where texts are cut

A text is cut at a separator into what stands before it and what stands after it. What tells the
first separator from the others is that none stands before it, and the last that none stands
after it.
-/

namespace LayerPress

/-- A text is cut where it first has the separator. -/
theorem Text.splitFirst_eq_some_iff {sep : Char} {cs before after : List Char} :
    Text.splitFirst sep cs = some (before, after) ↔
      sep ∉ before ∧ cs = before ++ sep :: after := by
  induction cs generalizing before with
  | nil => simp [splitFirst]
  | cons c rest ih =>
    rw [splitFirst]
    by_cases hc : c = sep
    · subst hc
      cases before with
      | nil => simp
      | cons b before =>
        simp only [beq_self_eq_true, if_true, Option.some.injEq, Prod.mk.injEq, List.cons_append,
          List.cons.injEq, List.mem_cons, not_or]
        constructor
        · intro h
          cases h.1
        · intro h
          exact absurd h.2.1 h.1.1
    · rw [if_neg (by simpa using hc)]
      cases before with
      | nil => simp [hc]
      | cons b before =>
        simp only [Option.map_eq_some_iff, Prod.exists, Prod.mk.injEq, List.cons.injEq,
          List.cons_append, List.mem_cons, not_or]
        constructor
        · intro h
          obtain ⟨before', after', hsplit, ⟨rfl, rfl⟩, rfl⟩ := h
          obtain ⟨hfree, rfl⟩ := ih.mp hsplit
          exact ⟨⟨fun h => hc h.symm, hfree⟩, rfl, rfl⟩
        · intro h
          obtain ⟨⟨-, hfree⟩, rfl, rfl⟩ := h
          exact ⟨before, after, ih.mpr ⟨hfree, rfl⟩, ⟨rfl, rfl⟩, rfl⟩

/-- A text is cut where it last has the separator. -/
theorem Text.splitLast_eq_some_iff {sep : Char} {cs before after : List Char} :
    Text.splitLast sep cs = some (before, after) ↔
      sep ∉ after ∧ cs = before ++ sep :: after := by
  have hreverse : cs = before ++ sep :: after ↔
      cs.reverse = after.reverse ++ sep :: before.reverse := by
    rw [← List.reverse_inj]
    simp
  rw [hreverse, ← List.mem_reverse (x := sep), ← splitFirst_eq_some_iff, splitLast,
    Option.map_eq_some_iff]
  constructor
  · rintro ⟨⟨back, front⟩, hsplit, hparts⟩
    obtain ⟨rfl, rfl⟩ := Prod.mk.inj hparts
    rw [hsplit, List.reverse_reverse, List.reverse_reverse]
  · intro hsplit
    exact ⟨_, hsplit, by simp⟩

/-- A text that has the separator is cut at the last one. -/
theorem Text.exists_splitLast {sep : Char} {cs : List Char} (h : sep ∈ cs) :
    ∃ before after, sep ∉ after ∧ cs = before ++ sep :: after := by
  obtain ⟨back, front, hcs, hfree⟩ := List.eq_append_cons_of_mem (List.mem_reverse.mpr h)
  refine ⟨front.reverse, back.reverse, by simpa using hfree, ?_⟩
  rw [← List.reverse_reverse cs, hcs]
  simp

end LayerPress
