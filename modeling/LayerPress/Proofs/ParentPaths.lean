import LayerPress.Proofs.WrittenPaths
import Mathlib.Data.List.DropRight

/-!
# The folder above a path

The folder of a path has the steps of the path without the last that is no single dot, and without
single dots at the end. So for a path that ends in single dots after a name this is not the folder
of that name, but the one above it.
-/

namespace LayerPress.Path

variable {p q : Path} {cs : List Component} {ps : List (List UInt8)} {piece : List UInt8}

/-- The components without the single dots at the end. -/
def trimHere (cs : List Component) : List Component :=
  cs.rdropWhile (· == .here)

/-- Components without single dots at the end are the first of them. -/
theorem trimHere_isPrefix (cs : List Component) : trimHere cs <+: cs :=
  List.rdropWhile_prefix _ cs

/-- The components without the single dots at the end are followed by these. -/
theorem exists_trimHere_append (cs : List Component) :
    ∃ heres, cs = trimHere cs ++ heres ∧ ∀ c ∈ heres, c = .here := by
  refine ⟨cs.rtakeWhile (· == .here), List.rdropWhile_append_rtakeWhile.symm, fun c hc => ?_⟩
  have hdot := List.mem_rtakeWhile_imp hc
  exact eq_of_beq hdot

/-- Single dots at the end are left out once. -/
theorem trimHere_trimHere (cs : List Component) : trimHere (trimHere cs) = trimHere cs :=
  List.rdropWhile_idempotent _ cs

/-- Single dots after some components are left out. -/
theorem trimHere_append_here {heres : List Component} (h : ∀ c ∈ heres, c = .here) :
    trimHere (cs ++ heres) = trimHere cs := by
  induction heres using List.reverseRecOn with
  | nil => rw [List.append_nil]
  | append_singleton init c ih =>
    rw [List.forall_mem_append, List.forall_mem_singleton] at h
    rw [← List.append_assoc, trimHere, List.rdropWhile_concat, if_pos (beq_iff_eq.mpr h.2)]
    exact ih h.1

/-- Components that end in no single dot are kept. -/
theorem trimHere_concat {c : Component} (h : c ≠ .here) : trimHere (cs ++ [c]) = cs ++ [c] :=
  List.rdropWhile_concat_neg _ _ _ (by simpa using h)

/-- A piece that counts for nothing at the end of a path. -/
def isIdle (piece : List UInt8) : Bool := piece.isEmpty || piece == [dot]

/-- The pieces without those at the end that count for nothing. -/
theorem trimEnd_eq (ps : List (List UInt8)) : trimEnd ps = ps.rdropWhile isIdle := by
  induction ps with
  | nil => rfl
  | cons piece rest ih =>
    rw [trimEnd, ih, List.rdropWhile, List.rdropWhile, List.reverse_cons, List.dropWhile_append]
    generalize rest.reverse.dropWhile isIdle = kept
    cases kept with
    | nil => cases hidle : isIdle piece <;> simp_all [isIdle]
    | cons last kept =>
      rw [List.isEmpty_cons, if_neg Bool.false_ne_true, List.reverse_append, List.reverse_cons]
      cases kept.reverse <;> rfl

/-- A piece that counts for nothing spells a single dot, if anything. -/
theorem component?_of_isIdle (h : isIdle piece = true) :
    component? piece = none ∨ component? piece = some .here := by
  rw [isIdle, Bool.or_eq_true, beq_iff_eq] at h
  rcases h with h | rfl
  · exact .inl (by simp [component?, h])
  · exact .inr rfl

/-- Another piece spells a component that is no single dot. -/
theorem exists_component?_of_not_isIdle (h : ¬isIdle piece = true) :
    ∃ c, component? piece = some c ∧ c ≠ .here := by
  rw [isIdle, Bool.or_eq_true, beq_iff_eq, not_or] at h
  rw [component?, if_neg h.1, if_neg h.2]
  split <;> exact ⟨_, rfl, by simp⟩

/-- The pieces without those at the end that count for nothing spell the components without the
single dots at the end. -/
theorem filterMap_trimEnd (ps : List (List UInt8)) :
    (trimEnd ps).filterMap component? = trimHere (ps.filterMap component?) := by
  rw [trimEnd_eq, trimHere]
  induction ps using List.reverseRecOn with
  | nil => rfl
  | append_singleton init piece ih =>
    rw [List.filterMap_append, List.filterMap_cons, List.filterMap_nil]
    by_cases hidle : isIdle piece = true
    · rw [List.rdropWhile_concat_pos _ _ _ hidle, ih]
      rcases component?_of_isIdle hidle with hnone | hhere
      · rw [hnone, List.append_nil]
      · rw [hhere, List.rdropWhile_concat_pos _ _ _ rfl]
    · obtain ⟨c, hc, hne⟩ := exists_component?_of_not_isIdle hidle
      rw [List.rdropWhile_concat_neg _ _ _ hidle, List.filterMap_append, List.filterMap_cons, hc,
        List.rdropWhile_concat_neg _ _ _ (by simpa using hne)]
      rfl

/-- The steps of joined pieces are the components that these spell. -/
theorem steps_unpieces (h : ∀ piece ∈ ps, slash ∉ piece) :
    (mk (unpieces ps)).steps = ps.filterMap component? := by
  cases ps with
  | nil => rfl
  | cons first rest => rw [steps, pieces_unpieces (List.cons_ne_nil first rest) h]

/-- The first of the pieces of some bytes have no slashes. -/
theorem slash_not_mem_of_isPrefix {b : List UInt8} (h : ps <+: pieces b) :
    ∀ piece ∈ ps, slash ∉ piece :=
  fun piece hpiece => slash_not_mem_of_mem_pieces b piece (h.subset hpiece)

/-- The steps of a path without the slash in front, if it has one. -/
theorem steps_drop_root (p : Path) :
    (mk (p.bytes.drop (if p.isAbsolute then [slash] else []).length)).steps = p.steps := by
  cases habsolute : p.isAbsolute with
  | true =>
    obtain ⟨rest, hrest⟩ := exists_of_isAbsolute habsolute
    rw [show p = mk (slash :: rest) from congrArg mk hrest, steps_slash_cons]
    rfl
  | false => rfl

/-- A path without a folder has no steps but single dots. -/
theorem trimHere_of_parent?_eq_none (h : p.parent? = none) : trimHere p.steps = [] := by
  rw [← steps_drop_root p, steps, ← filterMap_trimEnd]
  simp only [parent?] at h
  split at h
  · next hreverse => rw [List.reverse_eq_nil_iff.mp hreverse, List.filterMap_nil]
  · cases h

/-- The steps of the folder of a path are those before the last that is no single dot, without the
single dots at the end. -/
theorem steps_of_parent? (h : p.parent? = some q) :
    ∃ c, c ≠ .here ∧ ∃ above, trimHere p.steps = above ++ [c] ∧ q.steps = trimHere above := by
  rw [← steps_drop_root p, steps, ← filterMap_trimEnd]
  simp only [parent?] at h
  generalize hps : pieces (p.bytes.drop (if p.isAbsolute then [slash] else []).length) = ps at h ⊢
  split at h
  · cases h
  · next last before hreverse =>
    have hprefix := trimEnd_reverse_isPrefix hreverse
    have hsplit : trimEnd ps = before.reverse ++ [last] := by
      rw [← List.reverse_reverse (trimEnd ps), hreverse, List.reverse_cons]
    have hlast : ¬isIdle last = true := by
      intro hidle
      have hagain := List.rdropWhile_idempotent isIdle ps
      rw [← trimEnd_eq ps, hsplit, List.rdropWhile_concat_pos _ _ _ hidle] at hagain
      have hle := (List.rdropWhile_prefix isIdle before.reverse).length_le
      rw [hagain, List.length_append, List.length_singleton] at hle
      omega
    obtain ⟨c, hc, hne⟩ := exists_component?_of_not_isIdle hlast
    refine ⟨c, hne, before.reverse.filterMap component?, ?_, ?_⟩
    · rw [hsplit, List.filterMap_append, List.filterMap_cons, hc]
      rfl
    · cases h
      have hroot : ∀ rest, (mk ((if p.isAbsolute then [slash] else []) ++ rest)).steps =
          (mk rest).steps := by
        intro rest
        split
        · exact steps_slash_cons _
        · rfl
      rw [hroot, steps_unpieces (slash_not_mem_of_isPrefix (hps ▸ hprefix)), filterMap_trimEnd]

/-- The folder of a path is written with fewer bytes. -/
theorem length_of_parent? (h : p.parent? = some q) : q.bytes.length < p.bytes.length := by
  obtain ⟨hbytes, -, -⟩ := parent?_prefix h
  refine Nat.lt_of_le_of_ne hbytes.length_le fun hlength => ?_
  obtain ⟨c, -, above, htrim, hsteps⟩ := steps_of_parent? h
  rw [steps, hbytes.eq_of_length hlength, ← steps] at hsteps
  have hle := (trimHere_isPrefix above).length_le
  rw [← trimHere_trimHere, ← hsteps, htrim, List.length_append, List.length_singleton] at hle
  omega

end LayerPress.Path
