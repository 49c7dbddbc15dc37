import LayerPress.Proofs.Confinement

/-!
# What is seen on a disk

At each position of a disk a file with its content is seen, or a folder, or nothing. A new entry in
a folder changes what is seen at its own position and nowhere else. A path can be followed as far as
folders are seen, and where it cannot, a file is in the way or nothing is there.
-/

namespace LayerPress

/-- What is seen of an entry: the content of a file, or that it is a folder. -/
def Entry.content? : Entry → Option Content
  | .file c => some c
  | .folder _ => none

/-- The surface of an entry shows what is seen of it. -/
theorem Entry.content?_eq_of_surface {a b : Option Entry}
    (h : a.map Entry.surface = b.map Entry.surface) :
    a.map Entry.content? = b.map Entry.content? := by
  cases a with
  | none => rw [Option.map_eq_none_iff.mp h.symm]
  | some x =>
    obtain ⟨y, rfl, hsame⟩ := Option.map_eq_some_iff.mp h.symm
    cases x <;> cases y <;> simp_all [Entry.surface, Entry.content?]

/-- A folder is seen of a folder. -/
theorem Entry.map_content?_eq_folder {a : Option Entry} :
    a.map content? = some none ↔ ∃ inside, a = some (.folder inside) := by
  rw [Option.map_eq_some_iff]
  constructor
  · rintro ⟨e, rfl, hseen⟩
    cases e with
    | file content => cases hseen
    | folder inside => exact ⟨inside, rfl⟩
  · rintro ⟨inside, rfl⟩
    exact ⟨_, rfl, rfl⟩

/-- The content of a file is seen of it. -/
theorem Entry.map_content?_eq_file {a : Option Entry} {content : Content} :
    a.map content? = some (some content) ↔ a = some (.file content) := by
  rw [Option.map_eq_some_iff]
  constructor
  · rintro ⟨e, rfl, hseen⟩
    cases e with
    | file content => cases hseen; rfl
    | folder inside => cases hseen
  · rintro rfl
    exact ⟨_, rfl, rfl⟩

/-! ## Where components lead -/

namespace Path

variable {pos x : Position} {cs more : List Component} {c : Component}

/-- The place that components lead to, one after another. -/
def follow (pos : Position) (cs : List Component) : Position :=
  cs.foldl (fun pos c => c.lead pos) pos

/-- The places that components lead through, from the first to the last. -/
def way (pos : Position) (cs : List Component) : List Position :=
  cs.scanl (fun pos c => c.lead pos) pos

/-- Components are followed part by part. -/
theorem follow_append : follow pos (cs ++ more) = follow (follow pos cs) more :=
  List.foldl_append

/-- The last component leads on from where the others have led. -/
theorem follow_concat : follow pos (cs ++ [c]) = c.lead (follow pos cs) :=
  follow_append

/-- Without components nothing but the start is on the way. -/
theorem mem_way_nil : x ∈ way pos [] ↔ x = pos := by
  rw [way, List.scanl_nil, List.mem_singleton]

/-- A way goes on from where its first component leads. -/
theorem mem_way_cons : x ∈ way pos (c :: cs) ↔ x = pos ∨ x ∈ way (c.lead pos) cs := by
  rw [way, List.scanl_cons, List.mem_cons]
  rfl

/-- A way starts at its start. -/
theorem start_mem_way : pos ∈ way pos cs := by
  cases cs with
  | nil => exact mem_way_nil.mpr rfl
  | cons c rest => exact mem_way_cons.mpr (.inl rfl)

/-- A way goes part by part. -/
theorem mem_way_append :
    x ∈ way pos (cs ++ more) ↔ x ∈ way pos cs ∨ x ∈ way (follow pos cs) more := by
  induction cs generalizing pos with
  | nil =>
    rw [List.nil_append, mem_way_nil]
    refine (or_iff_right_of_imp ?_).symm
    rintro rfl
    exact start_mem_way
  | cons c rest ih =>
    rw [List.cons_append, mem_way_cons, mem_way_cons, ih, or_assoc]
    rfl

/-- The last component adds the place that it leads to. -/
theorem mem_way_concat :
    x ∈ way pos (cs ++ [c]) ↔ x ∈ way pos cs ∨ x = follow pos (cs ++ [c]) := by
  rw [mem_way_append, mem_way_cons, mem_way_nil, follow_concat, ← or_assoc]
  refine or_congr_left (or_iff_left_of_imp ?_)
  rintro rfl
  induction cs generalizing pos with
  | nil => exact start_mem_way
  | cons c rest ih => exact mem_way_cons.mpr (.inr ih)

/-- A way ends where its components lead. -/
theorem follow_mem_way : follow pos cs ∈ way pos cs := by
  rcases List.eq_nil_or_concat' cs with rfl | ⟨init, c, rfl⟩
  · exact start_mem_way
  · exact mem_way_concat.mpr (.inr rfl)

/-- A way goes through where the components without the last lead, and ends where all lead. -/
theorem mem_way_dropLast : x ∈ way pos cs ↔ x ∈ way pos cs.dropLast ∨ x = follow pos cs := by
  rcases List.eq_nil_or_concat' cs with rfl | ⟨init, c, rfl⟩
  · exact (or_iff_left_of_imp fun hx => mem_way_nil.mpr hx).symm
  · rw [mem_way_concat, List.dropLast_concat]

/-- The beginning of some components goes the beginning of their way. -/
theorem mem_way_of_isPrefix (h : cs <+: more) (hx : x ∈ way pos cs) : x ∈ way pos more := by
  obtain ⟨rest, rfl⟩ := h
  exact mem_way_append.mpr (.inl hx)

/-- Single dots add nothing to a way. -/
theorem mem_way_append_here (h : ∀ c ∈ more, c = .here) :
    x ∈ way pos (cs ++ more) ↔ x ∈ way pos cs := by
  rw [mem_way_append]
  refine or_iff_left_of_imp fun hx => ?_
  have hsame : x = follow pos cs := by
    generalize follow pos cs = pos at hx
    induction more with
    | nil => exact mem_way_nil.mp hx
    | cons c rest ih =>
      rw [List.forall_mem_cons] at h
      rw [h.1] at hx
      exact (mem_way_cons.mp hx).elim id (ih h.2)
  rw [hsame]
  exact follow_mem_way

end Path

namespace Disk

open LayerPress.Path (follow way follow_mem_way mem_way_of_isPrefix)

variable {d : Disk} {pos : Position} {n : FileName} {e : Entry} {cs more : List Path.Component}

/-! ## Views -/

/-- What is seen at a position of a disk. -/
def view (d : Disk) (pos : Position) : Option (Option Content) :=
  (d.root.get? pos).map Entry.content?

/-- A file stands at a position. -/
def HasFile (d : Disk) (pos : Position) : Prop :=
  ∃ content, d.view pos = some (some content)

/-- A folder is seen where one stands. -/
theorem view_eq_folder : d.view pos = some none ↔ d.HasFolder pos :=
  Entry.map_content?_eq_folder

/-- A file is seen where one stands. -/
theorem view_eq_file {content : Content} :
    d.view pos = some (some content) ↔ d.root.get? pos = some (.file content) :=
  Entry.map_content?_eq_file

/-- Nothing is seen where nothing stands. -/
theorem view_eq_none : d.view pos = none ↔ d.root.get? pos = none :=
  Option.map_eq_none_iff

/-- Where a folder stands there is no file. -/
theorem HasFolder.not_hasFile (h : d.HasFolder pos) : ¬d.HasFile pos := by
  rintro ⟨content, hcontent⟩
  rw [view_eq_folder.mpr h] at hcontent
  cases hcontent

/-- Something that is no file and no folder is not there. -/
theorem view_eq_none_of_not (hfolder : ¬d.HasFolder pos) (hfile : ¬d.HasFile pos) :
    d.view pos = none := by
  cases hview : d.view pos with
  | none => rfl
  | some seen =>
    cases seen with
    | none => exact absurd (view_eq_folder.mp hview) hfolder
    | some content => exact absurd ⟨content, hview⟩ hfile

/-- What stands in a folder stands in a folder. -/
theorem HasFolder.dropLast (h : d.HasFolder pos) : d.HasFolder pos.dropLast := by
  rcases List.eq_nil_or_concat' pos with rfl | ⟨init, n, rfl⟩
  · exact h
  · obtain ⟨inside, hinside⟩ := h
    rw [List.dropLast_concat]
    rw [Listing.get?_append] at hinside
    obtain ⟨e, he, hn⟩ := Option.bind_eq_some_iff.mp hinside
    cases e with
    | file content => cases hn
    | folder above => exact ⟨above, he⟩

/-- Nothing is seen below what is no folder. -/
theorem view_below (h : ¬d.HasFolder pos) (n : FileName) (rest : Position) :
    d.view (pos ++ n :: rest) = none := by
  rw [view_eq_none, Listing.get?_append]
  cases he : d.root.get? pos with
  | none => rfl
  | some e =>
    cases e with
    | file content => rfl
    | folder inside => exact absurd ⟨inside, he⟩ h

/-- A new entry in a folder, with nothing below it, is seen at its own position alone. -/
theorem view_set (hfolder : d.HasFolder pos) (hnew : ¬d.HasFolder (pos ++ [n]))
    (hbare : ∀ m rest, e.get? (m :: rest) = none) (q : Position) :
    { d with root := d.root.set (pos ++ [n]) e }.view q =
      if q = pos ++ [n] then some e.content? else d.view q := by
  obtain ⟨near, hnear⟩ := hfolder
  have hset : d.root.set (pos ++ [n]) e = d.root.refill pos (near.put n e) :=
    Listing.set_concat hnear n e
  rw [view, hset]
  by_cases hprefix : pos <+: q
  · obtain ⟨rel, rfl⟩ := hprefix
    have hold : d.root.get? (pos ++ rel) = near.get? rel := Listing.get?_append_of_folder hnear rel
    rw [Listing.get?_append_of_folder (Listing.get?_refill hnear _)]
    cases rel with
    | nil =>
      rw [if_neg (by simp), view, hold]
      rfl
    | cons m rest =>
      rw [Listing.get?_cons, Listing.find?_put]
      by_cases hm : n = m
      · subst hm
        rw [if_pos rfl, Option.bind_some]
        cases rest with
        | nil =>
          rw [if_pos rfl]
          cases e <;> rfl
        | cons k rest =>
          have hbelow := view_below hnew k rest
          rw [List.append_assoc, List.singleton_append] at hbelow
          rw [hbare, if_neg (by simp), hbelow]
          rfl
      · rw [if_neg hm, ← Listing.get?_cons, ← hold, if_neg (by simp [Ne.symm hm]), view]
  · have hne : q ≠ pos ++ [n] := by
      rintro rfl
      exact hprefix (List.prefix_append pos [n])
    have hsurface := Listing.surface_refill hnear (near.put n e) hprefix
    rw [if_neg hne]
    exact Entry.content?_eq_of_surface hsurface

/-! ## Ways -/

/-- Every folder that components lead through, the first and the last included, is there. -/
def Opens (d : Disk) (pos : Position) (cs : List Path.Component) : Prop :=
  ∀ x ∈ way pos cs, d.HasFolder x

/-- A way that is open ends at a folder. -/
theorem Opens.hasFolder (h : d.Opens pos cs) : d.HasFolder (follow pos cs) :=
  h _ follow_mem_way

/-- The beginning of an open way is open. -/
theorem Opens.of_isPrefix (h : d.Opens pos more) (hbegins : cs <+: more) : d.Opens pos cs :=
  fun x hx => h x (mem_way_of_isPrefix hbegins hx)

/-! ## Folders that are made -/

/-- A disk has come from another by making folders: at some positions folders are seen, and
everywhere else what was seen. -/
structure MakesFolders (d : Disk) (made : List Position) (d' : Disk) : Prop where
  working : d'.working = d.working
  view : ∀ x, d'.view x = if x ∈ made then some none else d.view x

namespace MakesFolders

variable {d' d'' : Disk} {made more all : List Position} {x : Position}

/-- Folders are there where they were and where they have been made. -/
theorem hasFolder (h : d.MakesFolders made d') : d'.HasFolder x ↔ x ∈ made ∨ d.HasFolder x := by
  rw [← view_eq_folder, h.view, ← view_eq_folder]
  split <;> simp_all

/-- Files are where they were, unless a folder has been made there. -/
theorem hasFile (h : d.MakesFolders made d') : d'.HasFile x ↔ x ∉ made ∧ d.HasFile x := by
  rw [HasFile, HasFile, h.view]
  split <;> simp_all

/-- It makes no difference in what order folders are told, or how often. -/
theorem congr (h : d.MakesFolders made d') (hsame : ∀ x, x ∈ more ↔ x ∈ made) :
    d.MakesFolders more d' :=
  ⟨h.working, fun x => by simp only [h.view, hsame]⟩

/-- Folders that are there need not be made. -/
theorem refl (h : ∀ x ∈ made, d.HasFolder x) : d.MakesFolders made d where
  working := rfl
  view x := by
    split
    · next hx => exact view_eq_folder.mpr (h x hx)
    · rfl

/-- Folders can be made after others, and those that are there are as good as made. -/
theorem trans (h : d.MakesFolders made d') (h' : d'.MakesFolders more d'')
    (hall : ∀ x, x ∈ made ∨ x ∈ more → x ∈ all) (hthere : ∀ x ∈ all, d''.HasFolder x) :
    d.MakesFolders all d'' where
  working := h'.working.trans h.working
  view x := by
    by_cases hx : x ∈ all
    · rw [if_pos hx]
      exact view_eq_folder.mpr (hthere x hx)
    · rw [if_neg hx, h'.view, if_neg fun hmore => hx (hall x (.inr hmore)), h.view,
        if_neg fun hmade => hx (hall x (.inl hmade))]

end MakesFolders

end Disk

end LayerPress
