import LayerPress.Disk.Basic
import Mathlib.Algebra.GroupWithZero.Nat
import Mathlib.Data.List.Infix

/-!
# Paths as they are written

A path that is joined to a folder has the steps of the folder followed by its own, and the folder
of a path is written with the beginning of its bytes and has the beginning of its steps. So the
folder of a path below another is again below it, or its steps begin those of the other.
-/

namespace LayerPress

/-- The bytes that a component needs where a slash is written before it. -/
def Path.Component.span : Path.Component → Nat
  | .name n => n.length + 1
  | .here | .up => 0

/-- The bytes that the names of a position need where a slash is written before each. -/
def Position.span (pos : Position) : Nat := (pos.map fun n => n.length + 1).sum

/-- What names a file or a folder, if it is not too long. -/
structure IsName (n : FileName) : Prop where
  notEmpty : n ≠ []
  notSlash : Path.slash ∉ n
  notNul : 0 ∉ n
  notDot : n ≠ [Path.dot]
  notDots : n ≠ [Path.dot, Path.dot]

/-- What can be the name of a file or a folder. -/
structure IsFileName (n : FileName) : Prop extends IsName n where
  short : n.length ≤ Disk.maxName

namespace Path

variable {a b : List UInt8} {n : FileName} {p q : Path}

/-! ## Pieces between slashes -/

/-- There is at least one piece. -/
theorem pieces_ne_nil (b : List UInt8) : pieces b ≠ [] := by
  cases b with
  | nil => simp [pieces]
  | cons x rest =>
    rw [pieces]
    split
    · exact List.cons_ne_nil _ _
    · split <;> exact List.cons_ne_nil _ _

/-- A slash separates the pieces before it from those after it. -/
theorem pieces_append_slash (a b : List UInt8) :
    pieces (a ++ slash :: b) = pieces a ++ pieces b := by
  induction a with
  | nil => simp [pieces]
  | cons x rest ih =>
    rw [List.cons_append, pieces, pieces, ih]
    split
    · rfl
    · cases hpieces : pieces rest with
      | nil => exact absurd hpieces (pieces_ne_nil rest)
      | cons piece more => rfl

/-- What is written after some bytes makes their last piece longer, and adds others. -/
theorem exists_pieces_append (a : List UInt8) :
    ∃ init last, pieces a = init ++ [last] ∧
      ∀ b, ∃ more rest, pieces (a ++ b) = init ++ (last ++ more) :: rest := by
  induction a with
  | nil =>
    refine ⟨[], [], rfl, fun b => ?_⟩
    cases hpieces : pieces b with
    | nil => exact absurd hpieces (pieces_ne_nil b)
    | cons piece rest => exact ⟨piece, rest, hpieces⟩
  | cons x tail ih =>
    obtain ⟨init, last, htail, hmore⟩ := ih
    by_cases hx : (x == slash) = true
    · refine ⟨[] :: init, last, ?_, fun b => ?_⟩
      · rw [pieces, if_pos hx, htail, List.cons_append]
      · obtain ⟨more, rest, hb⟩ := hmore b
        exact ⟨more, rest, by rw [List.cons_append, pieces, if_pos hx, hb, List.cons_append]⟩
    · cases init with
      | nil =>
        refine ⟨[], x :: last, ?_, fun b => ?_⟩
        · rw [pieces, if_neg hx, htail]
          rfl
        · obtain ⟨more, rest, hb⟩ := hmore b
          refine ⟨more, rest, ?_⟩
          rw [List.cons_append, pieces, if_neg hx, hb]
          rfl
      | cons first init =>
        refine ⟨(x :: first) :: init, last, ?_, fun b => ?_⟩
        · rw [pieces, if_neg hx, htail]
          rfl
        · obtain ⟨more, rest, hb⟩ := hmore b
          refine ⟨more, rest, ?_⟩
          rw [List.cons_append, pieces, if_neg hx, hb]
          rfl

/-- Pieces have no slashes. -/
theorem slash_not_mem_of_mem_pieces (b : List UInt8) : ∀ piece ∈ pieces b, slash ∉ piece := by
  induction b with
  | nil => simp [pieces]
  | cons x rest ih =>
    rw [pieces]
    split
    · exact List.forall_mem_cons.mpr ⟨by simp, ih⟩
    · next hx =>
      cases hpieces : pieces rest with
      | nil => exact absurd hpieces (pieces_ne_nil rest)
      | cons piece more =>
        rw [hpieces, List.forall_mem_cons] at ih
        refine List.forall_mem_cons.mpr ⟨?_, ih.2⟩
        rw [List.mem_cons, not_or]
        exact ⟨fun heq => hx (by simp [heq]), ih.1⟩

/-- The pieces of some bytes are joined to these bytes. -/
theorem unpieces_pieces (b : List UInt8) : unpieces (pieces b) = b := by
  induction b with
  | nil => rfl
  | cons x rest ih =>
    rw [pieces]
    cases hpieces : pieces rest with
    | nil => exact absurd hpieces (pieces_ne_nil rest)
    | cons piece more =>
      rw [hpieces] at ih
      split
      · next hx =>
        rw [eq_of_beq hx, ← ih]
        rfl
      · cases more with
        | nil => rw [← ih]; rfl
        | cons next more => rw [← ih]; rfl

/-- A text without slashes is one piece. -/
theorem pieces_of_not_mem (h : slash ∉ b) : pieces b = [b] := by
  induction b with
  | nil => rfl
  | cons x rest ih =>
    rw [List.mem_cons, not_or] at h
    rw [pieces, if_neg (by simpa using Ne.symm h.1), ih h.2]

/-- Texts without slashes are the pieces of what they are joined to. -/
theorem pieces_unpieces {ps : List (List UInt8)} (hne : ps ≠ []) (h : ∀ p ∈ ps, slash ∉ p) :
    pieces (unpieces ps) = ps := by
  induction ps with
  | nil => exact absurd rfl hne
  | cons p rest ih =>
    rw [List.forall_mem_cons] at h
    cases rest with
    | nil => exact pieces_of_not_mem h.1
    | cons next more =>
      rw [unpieces, pieces_append_slash, pieces_of_not_mem h.1, ih (List.cons_ne_nil _ _) h.2]
      · rfl
      · simp

/-- The first of some pieces are joined to the beginning of what all are joined to. -/
theorem unpieces_prefix {ps qs : List (List UInt8)} (h : ps <+: qs) :
    unpieces ps <+: unpieces qs := by
  induction ps generalizing qs with
  | nil => exact List.nil_prefix
  | cons p rest ih =>
    obtain ⟨more, rfl⟩ := h
    cases rest with
    | nil =>
      cases more with
      | nil => exact List.prefix_rfl
      | cons next more => exact List.prefix_append _ _
    | cons next rest =>
      have hrest : unpieces (next :: rest) <+: unpieces (next :: rest ++ more) :=
        ih (List.prefix_append _ _)
      change p ++ slash :: unpieces (next :: rest) <+:
        p ++ slash :: unpieces (next :: rest ++ more)
      exact (List.prefix_append_right_inj p).mpr (List.cons_prefix_cons.mpr ⟨rfl, hrest⟩)

/-- The pieces without the last that count for nothing are the first of them. -/
theorem trimEnd_isPrefix (ps : List (List UInt8)) : trimEnd ps <+: ps := by
  induction ps with
  | nil => exact List.prefix_rfl
  | cons p rest ih =>
    rw [trimEnd]
    cases htrim : trimEnd rest with
    | nil =>
      change (if _ then _ else _) <+: _
      split
      · exact List.nil_prefix
      · exact List.cons_prefix_cons.mpr ⟨rfl, List.nil_prefix⟩
    | cons next more =>
      rw [htrim] at ih
      exact List.cons_prefix_cons.mpr ⟨rfl, ih⟩

/-! ## Steps -/

/-- The steps before a slash are followed by those after it. -/
theorem steps_append_slash (a b : List UInt8) :
    (mk (a ++ slash :: b)).steps = (mk a).steps ++ (mk b).steps := by
  rw [steps, pieces_append_slash, List.filterMap_append]
  rfl

/-- A slash at the beginning is no step. -/
theorem steps_slash_cons (b : List UInt8) : (mk (slash :: b)).steps = (mk b).steps :=
  steps_append_slash [] b

/-- Nothing that is written after some bytes takes a step from them. -/
theorem length_steps_le (h : a <+: b) : (mk a).steps.length ≤ (mk b).steps.length := by
  obtain ⟨b, rfl⟩ := h
  obtain ⟨init, last, ha, hb⟩ := exists_pieces_append a
  obtain ⟨more, rest, hb⟩ := hb b
  have hlast : ([last].filterMap component?).length ≤
      ([last ++ more].filterMap component?).length := by
    cases last with
    | nil => simp [component?]
    | cons x tail =>
      have hsome : ∃ c, component? (x :: tail ++ more) = some c := by
        simp only [component?, List.cons_append, List.isEmpty_cons, Bool.false_eq_true, if_false]
        split
        · exact ⟨_, rfl⟩
        · split <;> exact ⟨_, rfl⟩
      obtain ⟨c, hc⟩ := hsome
      rw [List.filterMap_cons_some hc]
      exact le_trans (List.length_filterMap_le _ _) (by simp)
  rw [steps, steps, ha, hb, ← List.singleton_append (l := rest), List.filterMap_append,
    List.filterMap_append, List.filterMap_append, List.length_append, List.length_append,
    List.length_append]
  omega

/-- The pieces of some bytes, with a slash before each, need one byte more. -/
theorem sum_length_pieces (b : List UInt8) :
    ((pieces b).map fun piece => piece.length + 1).sum = b.length + 1 := by
  induction b with
  | nil => rfl
  | cons x rest ih =>
    rw [pieces]
    split
    · simp [ih, Nat.add_comm]
    · cases hrest : pieces rest with
      | nil => exact absurd hrest (pieces_ne_nil rest)
      | cons piece more =>
        rw [hrest] at ih
        simp only [List.map_cons, List.sum_cons, List.length_cons] at ih ⊢
        omega

/-- A component needs no more bytes than the piece that spells it. -/
theorem Component.span_le {piece : List UInt8} {c : Component} (h : component? piece = some c) :
    c.span ≤ piece.length + 1 := by
  simp only [component?] at h
  split at h
  · cases h
  · split at h
    · cases h
      exact Nat.zero_le _
    · split at h
      · cases h
        exact Nat.zero_le _
      · cases h
        exact Nat.le_refl _

/-- The components that pieces spell need no more bytes than the pieces. -/
theorem span_filterMap_le (ps : List (List UInt8)) :
    ((ps.filterMap component?).map Component.span).sum ≤
      (ps.map fun piece => piece.length + 1).sum := by
  induction ps with
  | nil => exact Nat.le_refl _
  | cons piece rest ih =>
    rw [List.map_cons, List.sum_cons]
    cases hc : component? piece with
    | none =>
      rw [List.filterMap_cons_none hc]
      omega
    | some c =>
      have hspan := Component.span_le hc
      rw [List.filterMap_cons_some hc, List.map_cons, List.sum_cons]
      omega

/-- The names in some bytes, with a slash before each, need one byte more at most. -/
theorem span_steps_le (b : List UInt8) :
    ((mk b).steps.map Component.span).sum ≤ b.length + 1 :=
  (span_filterMap_le (pieces b)).trans (sum_length_pieces b).le

/-- A name is one step. -/
theorem steps_name (h : IsName n) : (mk n).steps = [.name n] := by
  have hcomponent : component? n = some (.name n) := by
    simp [component?, h.notEmpty, h.notDot, h.notDots]
  rw [steps, pieces_of_not_mem h.notSlash, List.filterMap_cons_some hcomponent, List.filterMap_nil]

/-- What stands in a piece stands in the bytes. -/
theorem mem_of_mem_pieces {piece : List UInt8} (hpiece : piece ∈ pieces b) :
    ∀ x ∈ piece, x ∈ b := by
  induction b generalizing piece with
  | nil =>
    rw [pieces, List.mem_singleton] at hpiece
    subst hpiece
    simp
  | cons y rest ih =>
    intro x hx
    rw [pieces] at hpiece
    split at hpiece
    · rcases List.mem_cons.mp hpiece with rfl | hpiece
      · cases hx
      · exact List.mem_cons_of_mem _ (ih hpiece x hx)
    · cases hrest : pieces rest with
      | nil => exact absurd hrest (pieces_ne_nil rest)
      | cons first more =>
        rw [hrest] at hpiece ih
        rcases List.mem_cons.mp hpiece with rfl | hpiece
        · rcases List.mem_cons.mp hx with rfl | hx
          · exact List.mem_cons_self
          · exact List.mem_cons_of_mem _ (ih List.mem_cons_self x hx)
        · exact List.mem_cons_of_mem _ (ih (List.mem_cons_of_mem _ hpiece) x hx)

/-- A name among the steps of a path that has no NUL is that of a file, if it is not too long. -/
theorem isFileName_of_mem_steps (h : .name n ∈ p.steps) (hnul : 0 ∉ p.bytes)
    (hshort : n.length ≤ Disk.maxName) : IsFileName n := by
  obtain ⟨piece, hpiece, hcomponent⟩ := List.mem_filterMap.mp h
  simp only [component?] at hcomponent
  split at hcomponent
  · cases hcomponent
  · next hempty =>
    split at hcomponent
    · cases hcomponent
    · next hdot =>
      split at hcomponent
      · cases hcomponent
      · next hdots =>
        cases hcomponent
        exact {
          notEmpty := by simpa using hempty
          notSlash := slash_not_mem_of_mem_pieces p.bytes _ hpiece
          notNul := fun hmem => hnul (mem_of_mem_pieces hpiece _ hmem)
          notDot := hdot
          notDots := hdots
          short := hshort }

/-! ## Joining -/

/-- The bytes of a path with a slash at the end. -/
def opened (p : Path) : List UInt8 := (p.join ⟨[]⟩).bytes

/-- A path that is joined to another is written after it, opened. -/
theorem join_eq (hp : p.bytes ≠ []) (hb : (mk b).isAbsolute = false) :
    p.join ⟨b⟩ = ⟨p.opened ++ b⟩ := by
  have hempty : (mk []).isAbsolute = false := rfl
  rw [opened, join, join, hb, hempty]
  by_cases hlast : p.bytes.getLast? = some slash <;> simp [hlast, hp]

/-- A path that is not empty is opened by at most one slash. -/
theorem exists_opened (hp : p.bytes ≠ []) :
    ∃ a, p.opened = a ++ [slash] ∧ (mk a).steps = p.steps ∧ a <+: p.bytes := by
  have hempty : (mk []).isAbsolute = false := rfl
  by_cases hlast : p.bytes.getLast? = some slash
  · obtain ⟨a, ha⟩ := List.getLast?_eq_some_iff.mp hlast
    refine ⟨a, ?_, ?_, ⟨[slash], ha.symm⟩⟩
    · rw [opened, join, hempty]
      simp [ha]
    · have hsteps := steps_append_slash a []
      rw [show (mk (a ++ slash :: [])) = p from congrArg mk ha.symm] at hsteps
      simpa [steps, pieces, component?] using hsteps.symm
  · refine ⟨p.bytes, ?_, rfl, List.prefix_rfl⟩
    rw [opened, join, hempty]
    simp [hlast, hp]

/-- What is written after an opened path follows its steps. -/
theorem steps_opened_append (hp : p.bytes ≠ []) (b : List UInt8) :
    (mk (p.opened ++ b)).steps = p.steps ++ (mk b).steps := by
  obtain ⟨a, hopened, hsteps, -⟩ := exists_opened hp
  rw [hopened, List.append_assoc, List.singleton_append, steps_append_slash, hsteps]

/-- What is written after an opened path does not make it absolute or relative. -/
theorem isAbsolute_opened_append (hp : p.bytes ≠ []) (b : List UInt8) :
    (mk (p.opened ++ b)).isAbsolute = p.isAbsolute := by
  have hempty : (mk []).isAbsolute = false := rfl
  obtain ⟨x, rest, hbytes⟩ := List.exists_cons_of_ne_nil hp
  rw [opened, join, hempty, isAbsolute, isAbsolute, hbytes]
  by_cases hlast : (x :: rest).getLast? = some slash <;> simp [hlast]

/-- A name is relative. -/
theorem isAbsolute_name (h : IsName n) : (mk n).isAbsolute = false := by
  cases n with
  | nil => rfl
  | cons x rest =>
    have hx : slash ≠ x := fun heq => h.notSlash (heq ▸ List.mem_cons_self)
    simpa [isAbsolute] using Ne.symm hx

/-- A name that is joined to a path is its last step. -/
theorem steps_join (hp : p.bytes ≠ []) (h : IsName n) :
    (p.join ⟨n⟩).steps = p.steps ++ [.name n] := by
  rw [join_eq hp (isAbsolute_name h), steps_opened_append hp, steps_name h]

/-- A name that is joined to a path does not make it absolute or relative. -/
theorem isAbsolute_join (hp : p.bytes ≠ []) (h : IsName n) :
    (p.join ⟨n⟩).isAbsolute = p.isAbsolute := by
  rw [join_eq hp (isAbsolute_name h), isAbsolute_opened_append hp]

/-! ## The folder of a path -/

/-- What is left of the pieces without the last that counts are the first of them. -/
theorem trimEnd_reverse_isPrefix {ps before : List (List UInt8)} {last : List UInt8}
    (h : (trimEnd ps).reverse = last :: before) : trimEnd before.reverse <+: ps := by
  have hsplit : trimEnd ps = before.reverse ++ [last] := by
    rw [← List.reverse_reverse (trimEnd ps), h, List.reverse_cons]
  have hbefore : before.reverse <+: trimEnd ps := hsplit ▸ List.prefix_append _ _
  exact (trimEnd_isPrefix _).trans (hbefore.trans (trimEnd_isPrefix ps))

/-- The first pieces of a path have the first of its steps. -/
theorem steps_unpieces_isPrefix {qs ps : List (List UInt8)} (h : qs <+: ps)
    (hslash : ∀ piece ∈ ps, slash ∉ piece) :
    (mk (unpieces qs)).steps <+: ps.filterMap component? := by
  cases qs with
  | nil => exact List.nil_prefix
  | cons first rest =>
    rw [steps, pieces_unpieces (List.cons_ne_nil _ _) fun piece hpiece =>
      hslash piece (h.subset hpiece)]
    exact h.filterMap component?

/-- An absolute path begins with a slash. -/
theorem exists_of_isAbsolute (h : p.isAbsolute = true) : ∃ rest, p.bytes = slash :: rest := by
  cases hbytes : p.bytes with
  | nil => simp [isAbsolute, hbytes] at h
  | cons x rest =>
    simp only [isAbsolute, hbytes, List.head?_cons, beq_iff_eq, Option.some.injEq] at h
    exact ⟨rest, by rw [h]⟩

/-- The beginning of a relative path is relative. -/
theorem isAbsolute_of_isPrefix {bytes : List UInt8} (h : bytes <+: p.bytes)
    (hrelative : p.isAbsolute = false) : (mk bytes).isAbsolute = false := by
  obtain ⟨more, hmore⟩ := h
  rw [isAbsolute, ← hmore] at hrelative
  cases bytes with
  | nil => rfl
  | cons x rest => exact hrelative

/-- The folder of a path is written with the beginning of its bytes, and has the beginning of its
steps. -/
theorem parent?_prefix (h : p.parent? = some q) :
    q.bytes <+: p.bytes ∧ q.steps <+: p.steps ∧ q.isAbsolute = p.isAbsolute := by
  simp only [parent?] at h
  cases habsolute : p.isAbsolute with
  | true =>
    obtain ⟨rest, hrest⟩ := exists_of_isAbsolute habsolute
    rw [habsolute, if_pos rfl, hrest] at h
    split at h
    · cases h
    · next last before hreverse =>
      have hprefix := trimEnd_reverse_isPrefix hreverse
      cases h
      refine ⟨?_, ?_, by simp [isAbsolute]⟩
      · rw [hrest]
        have hbytes := unpieces_prefix hprefix
        rw [unpieces_pieces] at hbytes
        exact List.cons_prefix_cons.mpr ⟨rfl, hbytes⟩
      · change (mk (slash :: _)).steps <+: _
        rw [steps_slash_cons, show p = mk (slash :: rest) from congrArg mk hrest, steps_slash_cons]
        exact steps_unpieces_isPrefix hprefix (slash_not_mem_of_mem_pieces _)
  | false =>
    rw [habsolute] at h
    simp only [Bool.false_eq_true, if_false, List.length_nil, List.drop_zero, List.nil_append] at h
    split at h
    · cases h
    · next last before hreverse =>
      have hprefix := trimEnd_reverse_isPrefix hreverse
      cases h
      have hbytes := unpieces_prefix hprefix
      rw [unpieces_pieces] at hbytes
      exact ⟨hbytes, steps_unpieces_isPrefix hprefix (slash_not_mem_of_mem_pieces _),
        isAbsolute_of_isPrefix hbytes habsolute⟩

/-- The folder of a path below another is below it too, or its steps begin those of the other. -/
theorem parent?_opened_append (hp : p.bytes ≠ []) (h : (mk (p.opened ++ b)).parent? = some q) :
    q.isAbsolute = p.isAbsolute ∧
      (q.steps <+: p.steps ∨ ∃ c, c <+: b ∧ (mk c).steps <+: (mk b).steps ∧
        q = ⟨p.opened ++ c⟩) := by
  obtain ⟨hbytes, hsteps, habsolute⟩ := parent?_prefix h
  rw [isAbsolute_opened_append hp] at habsolute
  rw [steps_opened_append hp] at hsteps
  refine ⟨habsolute, ?_⟩
  rcases List.prefix_or_prefix_of_prefix hbytes (List.prefix_append p.opened b) with hq | hopened
  · left
    rcases List.prefix_or_prefix_of_prefix hsteps (List.prefix_append p.steps (mk b).steps) with
      hq' | hlong
    · exact hq'
    · -- The path is no longer than the other one, so it has no more steps.
      obtain ⟨a, ha, hasteps, -⟩ := exists_opened hp
      have hcount : (mk p.opened).steps.length = p.steps.length := by
        have := steps_opened_append hp []
        simp only [List.append_nil] at this
        rw [this]
        simp [steps, pieces, component?]
      have hle : q.steps.length ≤ p.steps.length := hcount ▸ length_steps_le hq
      exact (hlong.eq_of_length_le hle) ▸ List.prefix_rfl
  · right
    obtain ⟨c, hc⟩ := hopened
    refine ⟨c, ?_, ?_, congrArg mk hc.symm⟩
    · rw [← hc] at hbytes
      exact (List.prefix_append_right_inj _).mp hbytes
    · rw [show q = mk (p.opened ++ c) from congrArg mk hc.symm, steps_opened_append hp] at hsteps
      exact (List.prefix_append_right_inj _).mp hsteps

end Path

end LayerPress
