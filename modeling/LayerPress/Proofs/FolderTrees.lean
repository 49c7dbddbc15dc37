import LayerPress.Disk.Basic

/-!
# Changing a folder inside a tree

Where a folder of a tree is given other contents, all that lies below it is replaced, and of all
else nothing changes but what the folders above hold through it. A position below the folder is
looked up, set and erased in the folder alone.
-/

namespace LayerPress

/-- What stands at a position below an entry. -/
def Entry.get? : Entry → Position → Option Entry
  | .folder inside, pos => inside.get? pos
  | .file c, pos => if pos.isEmpty then some (.file c) else none

/-- What is seen of an entry itself: the content of a file, or the names in a folder. -/
def Entry.surface : Entry → Content ⊕ List FileName
  | .file c => .inl c
  | .folder inside => .inr inside.names

namespace Listing

variable {l inside : Listing} {n m : FileName} {e e' : Entry} {pos rel q : Position}

/-! ## One folder -/

/-- A listing is empty, or has an entry in front. -/
theorem consInduction {motive : Listing → Prop} (empty : motive .empty)
    (cons : ∀ n e rest, motive rest → motive (Listing.cons n e rest)) (l : Listing) :
    motive l := by
  induction l with
  | empty => exact empty
  | file n c rest ih => exact cons n (.file c) rest ih
  | folder n inside rest _ ih => exact cons n (.folder inside) rest ih

/-- An entry in front is found by its name. -/
theorem find?_cons (n : FileName) (e : Entry) (l : Listing) (m : FileName) :
    (cons n e l).find? m = if n = m then some e else l.find? m := by
  cases e <;> rfl

/-- An entry in front is replaced if it has the name. -/
theorem put_cons (m : FileName) (e : Entry) (l : Listing) (n : FileName) (e' : Entry) :
    (cons m e l).put n e' = if m = n then cons n e' l else cons m e (l.put n e') := by
  cases e <;> rfl

/-- An entry in front is removed if it has the name. -/
theorem remove_cons (m : FileName) (e : Entry) (l : Listing) (n : FileName) :
    (cons m e l).remove n = if m = n then l.remove n else cons m e (l.remove n) := by
  cases e <;> rfl

/-- The name of an entry in front is the first. -/
theorem names_cons (n : FileName) (e : Entry) (l : Listing) :
    (cons n e l).names = n :: l.names := by
  cases e <;> rfl

/-- The entry that was put is found under its name, and the others are found as before. -/
theorem find?_put (l : Listing) (n : FileName) (e : Entry) (m : FileName) :
    (l.put n e).find? m = if n = m then some e else l.find? m := by
  induction l using consInduction with
  | empty => exact find?_cons n e .empty m
  | cons k x rest ih =>
    rw [put_cons]
    split
    · next heq =>
      subst heq
      rw [find?_cons, find?_cons]
      split <;> rfl
    · next hne =>
      rw [find?_cons, find?_cons, ih]
      by_cases hk : k = m
      · rw [if_pos hk, if_pos hk, if_neg fun hn => hne (hk.trans hn.symm)]
      · rw [if_neg hk, if_neg hk]

/-- Of two entries that are put under a name the last stays. -/
theorem put_put (l : Listing) (n : FileName) (e e' : Entry) :
    (l.put n e).put n e' = l.put n e' := by
  induction l using consInduction with
  | empty =>
    change (cons n e .empty).put n e' = cons n e' .empty
    rw [put_cons, if_pos rfl]
  | cons k x rest ih =>
    rw [put_cons, put_cons]
    split
    · rw [put_cons, if_pos rfl]
    · next hne => rw [put_cons, if_neg hne, ih]

/-- Putting what is there changes nothing. -/
theorem put_of_find? (h : l.find? n = some e) : l.put n e = l := by
  induction l using consInduction with
  | empty => cases h
  | cons k x rest ih =>
    rw [find?_cons] at h
    rw [put_cons]
    split at h
    · next heq =>
      cases h
      rw [if_pos heq, heq]
    · next hne => rw [if_neg hne, ih h]

/-- Nothing is found under a name that is not in a folder. -/
theorem find?_eq_none_iff : l.find? n = none ↔ n ∉ l.names := by
  induction l using consInduction with
  | empty => simp [find?, names]
  | cons k x rest ih =>
    rw [find?_cons, names_cons, List.mem_cons, not_or, ← ih]
    split
    · next heq => simp [heq]
    · next hne => simp [Ne.symm hne]

/-- What is found has its name in the folder. -/
theorem mem_names_of_find? (h : l.find? n = some e) : n ∈ l.names := by
  refine Decidable.byContradiction fun hnot => ?_
  rw [find?_eq_none_iff.mpr hnot] at h
  cases h

/-- A new name comes last. -/
theorem names_put_of_not_mem (h : n ∉ l.names) (e : Entry) :
    (l.put n e).names = l.names ++ [n] := by
  induction l using consInduction with
  | empty => exact names_cons n e .empty
  | cons k x rest ih =>
    rw [names_cons, List.mem_cons, not_or] at h
    rw [put_cons, if_neg (Ne.symm h.1), names_cons, names_cons, ih h.2, List.cons_append]

/-- A name that is there keeps its place. -/
theorem names_put_of_mem (h : n ∈ l.names) (e : Entry) : (l.put n e).names = l.names := by
  induction l using consInduction with
  | empty => cases h
  | cons k x rest ih =>
    rw [put_cons]
    split
    · next heq => rw [names_cons, names_cons, heq]
    · next hne =>
      rw [names_cons, List.mem_cons, or_iff_right (Ne.symm hne)] at h
      rw [names_cons, names_cons, ih h]

/-- A new entry that is removed leaves the folder as it was. -/
theorem remove_put (h : n ∉ l.names) (e : Entry) : (l.put n e).remove n = l := by
  induction l using consInduction with
  | empty =>
    change (cons n e .empty).remove n = .empty
    rw [remove_cons, if_pos rfl, remove]
  | cons k x rest ih =>
    rw [names_cons, List.mem_cons, not_or] at h
    rw [put_cons, if_neg (Ne.symm h.1), remove_cons, if_neg (Ne.symm h.1), ih h.2]

/-! ## Positions -/

/-- A position is looked up from its first name on. -/
theorem get?_cons (l : Listing) (n : FileName) (pos : Position) :
    l.get? (n :: pos) = (l.find? n).bind (·.get? pos) := by
  rw [get?]
  split <;> simp_all [Entry.get?]

/-- A position is looked up part by part. -/
theorem get?_append (l : Listing) (pos rel : Position) :
    l.get? (pos ++ rel) = (l.get? pos).bind (·.get? rel) := by
  induction pos generalizing l with
  | nil => rfl
  | cons n rest ih =>
    rw [List.cons_append, get?_cons, get?_cons, Option.bind_assoc]
    congr 1
    funext e
    cases e with
    | folder inside => exact ih inside
    | file c => cases rest <;> cases rel <;> rfl

/-- Below a folder a position is looked up in the folder. -/
theorem get?_append_of_folder (h : l.get? pos = some (.folder inside)) (rel : Position) :
    l.get? (pos ++ rel) = inside.get? rel := by
  rw [get?_append, h]
  rfl

/-- The first name of a position that leads to a folder is that of a folder. -/
theorem exists_of_get?_cons (h : l.get? (n :: pos) = some (.folder inside)) :
    ∃ first, l.find? n = some (.folder first) ∧ first.get? pos = some (.folder inside) := by
  rw [get?_cons] at h
  obtain ⟨e, hfind, he⟩ := Option.bind_eq_some_iff.mp h
  cases e with
  | folder first => exact ⟨first, hfind, he⟩
  | file c =>
    rw [Entry.get?] at he
    split at he <;> cases he

/-! ## A folder with other contents -/

/-- The tree with other contents of the folder at a position. -/
abbrev refill (l : Listing) (pos : Position) (inside : Listing) : Listing :=
  l.set pos (.folder inside)

/-- A folder is refilled by way of the folder above it. -/
theorem refill_cons {first : Listing} (h : l.find? n = some (.folder first)) (pos : Position)
    (inside : Listing) :
    l.refill (n :: pos) inside = l.put n (.folder (first.refill pos inside)) := by
  cases pos with
  | nil => rfl
  | cons k rest => rw [refill, set, h]

section
variable {old : Listing}

/-- The folder that was refilled has its new contents. -/
theorem get?_refill (h : l.get? pos = some (.folder old)) (inside : Listing) :
    (l.refill pos inside).get? pos = some (.folder inside) := by
  induction pos generalizing l with
  | nil => rfl
  | cons n rest ih =>
    obtain ⟨first, hfind, hrest⟩ := exists_of_get?_cons h
    rw [refill_cons hfind, get?_cons, find?_put, if_pos rfl]
    exact ih hrest

/-- Of two refills the last stays. -/
theorem refill_refill (h : l.get? pos = some (.folder old)) (inside inside' : Listing) :
    (l.refill pos inside).refill pos inside' = l.refill pos inside' := by
  induction pos generalizing l with
  | nil => rfl
  | cons n rest ih =>
    obtain ⟨first, hfind, hrest⟩ := exists_of_get?_cons h
    have hput : (l.put n (.folder (first.refill rest inside))).find? n =
        some (.folder (first.refill rest inside)) := by
      rw [find?_put, if_pos rfl]
    rw [refill_cons hfind, refill_cons hput, put_put, ih hrest, refill_cons hfind]

/-- A folder that is refilled with its own contents stays as it is. -/
theorem refill_self (h : l.get? pos = some (.folder inside)) : l.refill pos inside = l := by
  induction pos generalizing l with
  | nil => cases h; rfl
  | cons n rest ih =>
    obtain ⟨first, hfind, hrest⟩ := exists_of_get?_cons h
    rw [refill_cons hfind, ih hrest, put_of_find? hfind]

/-- What is set below a folder is set in the folder. -/
theorem set_append (h : l.get? pos = some (.folder old)) (n : FileName) (rel : Position)
    (e : Entry) : l.set (pos ++ n :: rel) e = l.refill pos (old.set (n :: rel) e) := by
  induction pos generalizing l with
  | nil => cases h; rfl
  | cons k rest ih =>
    obtain ⟨first, hfind, hrest⟩ := exists_of_get?_cons h
    rw [refill_cons hfind, ← ih hrest, List.cons_append]
    cases hpos : rest ++ n :: rel with
    | nil => simp at hpos
    | cons j more => rw [set, hfind]

/-- What is set in a folder is put there. -/
theorem set_concat (h : l.get? pos = some (.folder old)) (n : FileName) (e : Entry) :
    l.set (pos ++ [n]) e = l.refill pos (old.put n e) :=
  set_append h n [] e

/-- What is erased below a folder is erased in the folder. -/
theorem erase_append (h : l.get? pos = some (.folder old)) (n : FileName) (rel : Position) :
    l.erase (pos ++ n :: rel) = l.refill pos (old.erase (n :: rel)) := by
  induction pos generalizing l with
  | nil => cases h; rfl
  | cons k rest ih =>
    obtain ⟨first, hfind, hrest⟩ := exists_of_get?_cons h
    rw [refill_cons hfind, ← ih hrest, List.cons_append]
    cases hpos : rest ++ n :: rel with
    | nil => simp at hpos
    | cons j more => rw [erase, hfind]

/-- Outside of a folder that is refilled nothing is seen of it. -/
theorem surface_refill (h : l.get? pos = some (.folder old)) (inside : Listing)
    (hq : ¬pos <+: q) :
    ((l.refill pos inside).get? q).map Entry.surface = (l.get? q).map Entry.surface := by
  induction pos generalizing l q with
  | nil => exact absurd q.nil_prefix hq
  | cons n rest ih =>
    obtain ⟨first, hfind, hrest⟩ := exists_of_get?_cons h
    rw [refill_cons hfind]
    cases q with
    | nil =>
      change some (Sum.inr _) = some (Sum.inr _)
      rw [names_put_of_mem (mem_names_of_find? hfind)]
    | cons m more =>
      rw [get?_cons, get?_cons, find?_put]
      split
      · next heq =>
        subst heq
        rw [hfind]
        exact ih hrest fun hprefix => hq (List.cons_prefix_cons.mpr ⟨rfl, hprefix⟩)
      · rfl

end

end Listing

end LayerPress
