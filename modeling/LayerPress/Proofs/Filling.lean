import LayerPress.Proofs.FolderTrees
import LayerPress.Proofs.WrittenPaths

/-!
# Filling a folder

What is made below a folder changes the contents of that folder and nothing else, and every folder
of the disk is still there afterwards. Its files and folders have proper names, no two the same,
and stand where a path of the system can reach them, since a path that leads to a place is never
shorter than the names on the way to it.
-/

namespace LayerPress

/-! ## Folders whose contents can be reached -/

/-- The names in a tree are those of files, no two in a folder are the same, and a path to each of
them takes at most some number of bytes, with a slash before each name. -/
def Listing.Fits : Nat → Listing → Prop
  | _, .empty => True
  | room, .file n _ rest =>
    (IsFileName n ∧ n.length + 1 ≤ room ∧ n ∉ rest.names) ∧ rest.Fits room
  | room, .folder n inside rest =>
    (IsFileName n ∧ n.length + 1 ≤ room ∧ n ∉ rest.names) ∧
      inside.Fits (room - (n.length + 1)) ∧ rest.Fits room

/-- What is below an entry can be reached. -/
def Entry.Fits (room : Nat) : Entry → Prop
  | .file _ => True
  | .folder inside => inside.Fits room

namespace Listing

variable {room : Nat} {l inside old : Listing} {n : FileName} {e : Entry} {pos : Position}

/-- A folder with an entry in front can be reached if the entry and the others can. -/
theorem fits_cons : (cons n e l).Fits room ↔
    (IsFileName n ∧ n.length + 1 ≤ room ∧ n ∉ l.names) ∧
      e.Fits (room - (n.length + 1)) ∧ l.Fits room := by
  cases e with
  | file c => simp [cons, Fits, Entry.Fits]
  | folder inside => simp [cons, Fits, Entry.Fits]

/-- A name that is put is the only new one. -/
theorem mem_names_put {m : FileName} :
    m ∈ (l.put n e).names ↔ m = n ∨ m ∈ l.names := by
  by_cases hn : n ∈ l.names
  · rw [names_put_of_mem hn]
    exact ⟨Or.inr, fun h => h.elim (fun heq => heq ▸ hn) id⟩
  · rw [names_put_of_not_mem hn, List.mem_append, List.mem_singleton, or_comm]

/-- An entry that can be reached may be put. -/
theorem Fits.put (h : l.Fits room) (hn : IsFileName n) (hroom : n.length + 1 ≤ room)
    (he : e.Fits (room - (n.length + 1))) : (l.put n e).Fits room := by
  induction l using consInduction with
  | empty => exact fits_cons.mpr ⟨⟨hn, hroom, List.not_mem_nil⟩, he, trivial⟩
  | cons k x rest ih =>
    obtain ⟨⟨hk, hkroom, hkrest⟩, hx, hrest⟩ := fits_cons.mp h
    rw [put_cons]
    split
    · next heq => exact fits_cons.mpr ⟨⟨hn, hroom, heq ▸ hkrest⟩, he, hrest⟩
    · next hne =>
      refine fits_cons.mpr ⟨⟨hk, hkroom, ?_⟩, hx, ih hrest⟩
      rw [mem_names_put, not_or]
      exact ⟨hne, hkrest⟩

/-- What is found can be reached. -/
theorem Fits.of_find? (h : l.Fits room) (hfind : l.find? n = some e) :
    IsFileName n ∧ n.length + 1 ≤ room ∧ e.Fits (room - (n.length + 1)) := by
  induction l using consInduction with
  | empty => cases hfind
  | cons k x rest ih =>
    obtain ⟨⟨hk, hkroom, -⟩, hx, hrest⟩ := fits_cons.mp h
    rw [find?_cons] at hfind
    split at hfind
    · next heq =>
      cases hfind
      subst heq
      exact ⟨hk, hkroom, hx⟩
    · exact ih hrest hfind

/-- Positions where something stands can be reached. -/
theorem Fits.of_get? (h : l.Fits room) (hget : l.get? pos = some e) :
    (∀ n ∈ pos, IsFileName n) ∧ Position.span pos ≤ room ∧ e.Fits (room - Position.span pos) := by
  induction pos generalizing l room with
  | nil =>
    cases hget
    exact ⟨by simp, Nat.zero_le _, h⟩
  | cons n rest ih =>
    rw [get?_cons] at hget
    obtain ⟨x, hfind, hx⟩ := Option.bind_eq_some_iff.mp hget
    obtain ⟨hn, hroom, hfits⟩ := h.of_find? hfind
    have hspan : Position.span (n :: rest) = n.length + 1 + Position.span rest := by
      simp [Position.span]
    cases x with
    | folder inside =>
      obtain ⟨hrest, hle, he⟩ := ih hfits hx
      rw [hspan, ← Nat.sub_sub]
      exact ⟨List.forall_mem_cons.mpr ⟨hn, hrest⟩, by omega, he⟩
    | file c =>
      rw [Entry.get?] at hx
      split at hx
      · next hempty =>
        cases hx
        rw [List.isEmpty_iff] at hempty
        subst hempty
        exact ⟨by simpa using hn, by simpa [Position.span] using hroom, trivial⟩
      · cases hx

/-- A folder may be refilled with what can be reached. -/
theorem Fits.refill (h : l.Fits room) (hget : l.get? pos = some (.folder old))
    (hinside : inside.Fits (room - Position.span pos)) : (l.refill pos inside).Fits room := by
  induction pos generalizing l room with
  | nil =>
    change inside.Fits room
    simpa [Position.span] using hinside
  | cons n rest ih =>
    obtain ⟨first, hfind, hrest⟩ := exists_of_get?_cons hget
    obtain ⟨hn, hroom, hfirst⟩ := h.of_find? hfind
    have hspan : Position.span (n :: rest) = n.length + 1 + Position.span rest := by
      simp [Position.span]
    rw [hspan, ← Nat.sub_sub] at hinside
    rw [refill_cons hfind]
    exact h.put hn hroom (ih hfirst hrest hinside)

end Listing

/-! ## Disks that are filled at a folder -/

namespace Disk

variable {room : Nat} {place pos : Position} {d d' d'' : Disk} {cs : List Path.Component}

/-- A folder stands at a position. -/
def HasFolder (d : Disk) (pos : Position) : Prop :=
  ∃ inside, d.root.get? pos = some (.folder inside)

/-- A path goes on from a position exactly if a folder stands there. -/
theorem enter_eq_ok : d.enter pos = .ok () ↔ d.HasFolder pos := by
  rw [enter, HasFolder]
  split <;> simp_all

/-- The disk with other contents of the folder at a position. -/
def refill (d : Disk) (pos : Position) (inside : Listing) : Disk :=
  { d with root := d.root.refill pos inside }

/-- No folder is lost to an entry that is put where none is. -/
theorem HasFolder.refill_put {near : Listing} {n : FileName} (hpos : d.HasFolder pos)
    (hnear : d.root.get? place = some (.folder near)) (hnew : ¬d.HasFolder (place ++ [n]))
    (e : Entry) : (d.refill place (near.put n e)).HasFolder pos := by
  obtain ⟨there, hthere⟩ := hpos
  by_cases hprefix : place <+: pos
  · obtain ⟨more, rfl⟩ := hprefix
    rw [HasFolder, refill, Listing.get?_append_of_folder (Listing.get?_refill hnear _)]
    rw [Listing.get?_append_of_folder hnear] at hthere
    cases more with
    | nil => exact ⟨_, rfl⟩
    | cons m more =>
      have hm : n ≠ m := by
        rintro rfl
        obtain ⟨first, hfirst, -⟩ := Listing.exists_of_get?_cons hthere
        refine hnew ⟨first, ?_⟩
        rw [Listing.get?_append_of_folder hnear, Listing.get?_cons, hfirst]
        rfl
      rw [Listing.get?_cons, Listing.find?_put, if_neg hm, ← Listing.get?_cons]
      exact ⟨there, hthere⟩
  · have hsurface := Listing.surface_refill hnear (near.put n e) hprefix
    rw [hthere] at hsurface
    obtain ⟨x, hx, hsame⟩ := Option.map_eq_some_iff.mp hsurface
    cases x with
    | file c => cases hsame
    | folder inside => exact ⟨inside, hx⟩

/-- A disk has come from another by filling the folder at a place: no folder is gone, and only
what is inside of this one has changed. What was in reach still is. -/
structure FillsIn (room : Nat) (place : Position) (d d' : Disk) : Prop where
  folders : ∀ pos, d.HasFolder pos → d'.HasFolder pos
  filled : ∀ inside, d.root.get? place = some (.folder inside) →
    ∃ after, d' = d.refill place after ∧ (inside.Fits room → after.Fits room)

namespace FillsIn

/-- Nothing need be filled in. -/
theorem refl (room : Nat) (place : Position) (d : Disk) : FillsIn room place d d where
  folders _ h := h
  filled inside h := ⟨inside, by rw [refill, Listing.refill_self h], id⟩

/-- A folder can be filled twice. -/
theorem trans (h : FillsIn room place d d') (h' : FillsIn room place d' d'') :
    FillsIn room place d d'' where
  folders pos hpos := h'.folders pos (h.folders pos hpos)
  filled inside hinside := by
    obtain ⟨between, rfl, hbetween⟩ := h.filled inside hinside
    obtain ⟨after, rfl, hafter⟩ := h'.filled between (Listing.get?_refill hinside between)
    refine ⟨after, ?_, hafter ∘ hbetween⟩
    rw [refill, refill, refill, Listing.refill_refill hinside]

/-- A new entry below a folder fills it, in place of a file or of nothing. -/
theorem add {rel : Position} {n : FileName} {e : Entry} (hfolder : d.HasFolder (place ++ rel))
    (hnew : ¬d.HasFolder (place ++ (rel ++ [n]))) (hn : IsFileName n)
    (hroom : Position.span rel + n.length + 1 ≤ room) (he : ∀ room, e.Fits room) :
    FillsIn room place d { d with root := d.root.set (place ++ (rel ++ [n])) e } := by
  obtain ⟨near, hnear⟩ := hfolder
  have hset : d.root.set (place ++ (rel ++ [n])) e =
      d.root.refill (place ++ rel) (near.put n e) := by
    rw [← List.append_assoc, Listing.set_concat hnear]
  refine ⟨fun pos hpos => ?_, fun inside hinside => ?_⟩
  · have hkept := hpos.refill_put hnear (by rwa [List.append_assoc]) e
    rw [refill, ← hset] at hkept
    exact hkept
  · have hbelow := hnear
    rw [Listing.get?_append_of_folder hinside] at hbelow
    refine ⟨inside.refill rel (near.put n e), ?_, fun hfits => ?_⟩
    · rw [refill, hset]
      congr 1
      cases rel with
      | nil =>
        rw [List.append_nil]
        rfl
      | cons k rel => exact Listing.set_append hinside k rel _
    · obtain ⟨-, -, hnearFits⟩ := hfits.of_get? hbelow
      exact hfits.refill hbelow (Listing.Fits.put hnearFits hn (by omega) (he _))

end FillsIn

end Disk

end LayerPress
