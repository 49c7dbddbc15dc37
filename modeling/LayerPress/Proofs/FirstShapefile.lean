import LayerPress.Proofs.ShapefileNames

/-!
# The first shapefile of a folder

Of the shapefiles below a folder the search finds the one that comes first: where the ways to two
of them part, a file of that folder comes before what is in its subfolders, and otherwise the
smaller name comes first. Files are eligible by their own names and those of the folders above
them. In what order a folder lists its entries makes no difference.
-/

namespace LayerPress

/-! ## Trees, shapefiles and their order -/

/-- The names in a tree are names, and no two in a folder are the same. -/
def Listing.IsTree : Listing → Prop
  | .empty => True
  | .file n _ rest => (IsName n ∧ n ∉ rest.names) ∧ rest.IsTree
  | .folder n inside rest => (IsName n ∧ n ∉ rest.names) ∧ inside.IsTree ∧ rest.IsTree

/-- What is a name can be decided. -/
instance decidableIsName (n : FileName) : Decidable (IsName n) :=
  decidable_of_iff
    (n ≠ [] ∧ Path.slash ∉ n ∧ 0 ∉ n ∧ n ≠ [Path.dot] ∧ n ≠ [Path.dot, Path.dot])
    ⟨fun ⟨h₁, h₂, h₃, h₄, h₅⟩ => ⟨h₁, h₂, h₃, h₄, h₅⟩,
      fun ⟨h₁, h₂, h₃, h₄, h₅⟩ => ⟨h₁, h₂, h₃, h₄, h₅⟩⟩

/-- What is a tree can be decided. -/
instance Listing.decidableIsTree : (l : Listing) → Decidable l.IsTree
  | .empty => inferInstanceAs (Decidable True)
  | .file n _ rest =>
    have := rest.decidableIsTree
    inferInstanceAs (Decidable ((IsName n ∧ n ∉ rest.names) ∧ rest.IsTree))
  | .folder n inside rest =>
    have := inside.decidableIsTree
    have := rest.decidableIsTree
    inferInstanceAs (Decidable ((IsName n ∧ n ∉ rest.names) ∧ inside.IsTree ∧ rest.IsTree))

/-- A file is eligible if the search looks at its name and at those of the folders above it, and its
name is that of a shapefile. -/
structure Listing.Eligible (l : Listing) (pos : Position) : Prop where
  file : ∃ c, l.get? pos = some (.file c)
  seen : ∀ n ∈ pos, IsLookedAt n
  shapefile : ∃ n ∈ pos.getLast?, IsNamedShapefile n

/-- Where two positions part, at the names `n` and `m` of a folder, the first is that of a file in
this folder and the other leads on into a subfolder, or both are of one kind and the first has the
smaller name. -/
def Position.Precedes (pos other : Position) : Prop :=
  ∃ (above : Position) (n m : FileName) (a b : Position),
    pos = above ++ n :: a ∧ other = above ++ m :: b ∧ n ≠ m ∧
      (a = [] ∧ b ≠ [] ∨ (a = [] ↔ b = []) ∧ n < m)

/-- An eligible file comes before every other one. -/
def Listing.IsFirst (l : Listing) (pos : Position) : Prop :=
  l.Eligible pos ∧ ∀ other, l.Eligible other → other ≠ pos → pos.Precedes other

/-- Two listings are the same tree with the entries of its folders in other orders. -/
inductive Listing.Rearranged : Listing → Listing → Prop
  | empty : Rearranged .empty .empty
  | file (n : FileName) (c : Content) {rest rest' : Listing} (h : Rearranged rest rest') :
      Rearranged (.file n c rest) (.file n c rest')
  | folder (n : FileName) {inside inside' rest rest' : Listing}
      (hinside : Rearranged inside inside') (h : Rearranged rest rest') :
      Rearranged (.folder n inside rest) (.folder n inside' rest')
  | swap (n : FileName) (e : Entry) (m : FileName) (x : Entry) (rest : Listing) :
      Rearranged (cons n e (cons m x rest)) (cons m x (cons n e rest))
  | trans {l l' l'' : Listing} (h : Rearranged l l') (h' : Rearranged l' l'') : Rearranged l l''

/-! ## The order -/

namespace Position

variable {n m : FileName} {a b pos other : Position}

/-- Two positions part at their first names, or below a common one. -/
theorem precedes_cons_cons : Precedes (n :: a) (m :: b) ↔
    n = m ∧ a.Precedes b ∨ n ≠ m ∧ (a = [] ∧ b ≠ [] ∨ (a = [] ↔ b = []) ∧ n < m) := by
  constructor
  · rintro ⟨above, k, j, p, q, hpos, hother, hne, hparts⟩
    cases above with
    | nil =>
      obtain ⟨rfl, rfl⟩ := List.cons.inj hpos
      obtain ⟨rfl, rfl⟩ := List.cons.inj hother
      exact .inr ⟨hne, hparts⟩
    | cons i above =>
      obtain ⟨rfl, rfl⟩ := List.cons.inj hpos
      obtain ⟨rfl, rfl⟩ := List.cons.inj hother
      exact .inl ⟨rfl, above, k, j, p, q, rfl, rfl, hne, hparts⟩
  · rintro (⟨rfl, above, k, j, p, q, rfl, rfl, hparts⟩ | hparts)
    · exact ⟨n :: above, k, j, p, q, rfl, rfl, hparts⟩
    · exact ⟨[], n, m, a, b, rfl, rfl, hparts⟩

/-- The root precedes nothing. -/
theorem not_nil_precedes : ¬Precedes [] pos := by
  rintro ⟨above, n, m, a, b, hpos, -⟩
  simp at hpos

/-- Of two positions at most one precedes the other. -/
theorem Precedes.asymm (h : pos.Precedes other) : ¬other.Precedes pos := by
  induction pos generalizing other with
  | nil => exact absurd h not_nil_precedes
  | cons n a ih =>
    cases other with
    | nil => exact not_nil_precedes
    | cons m b =>
      rw [precedes_cons_cons] at h ⊢
      rintro (⟨rfl, hback⟩ | ⟨hne, hback⟩)
      · exact h.elim (fun h => ih h.2 hback) fun h => h.1 rfl
      · rcases h.resolve_left fun h => hne h.1.symm with ⟨-, ⟨ha, hb⟩ | ⟨hsame, hlt⟩⟩
        · rcases hback with ⟨hb', -⟩ | ⟨hsame, -⟩
          · exact hb hb'
          · exact hb (hsame.mpr ha)
        · rcases hback with ⟨hb, ha⟩ | ⟨-, hgt⟩
          · exact ha (hsame.mpr hb)
          · exact List.lt_asymm hlt hgt

end Position

namespace Listing

open LayerPress.Position (precedes_cons_cons)

variable {l l' inside rest : Listing} {n : FileName} {e : Entry} {pos : Position} {room : Nat}

/-! ## Trees -/

/-- What is found in a tree has a name, and is a tree if it is a folder. -/
theorem IsTree.of_find? (h : l.IsTree) (hfind : l.find? n = some e) :
    IsName n ∧ ∀ inside, e = .folder inside → inside.IsTree := by
  induction l with
  | empty => cases hfind
  | file k c rest ih =>
    rw [find?] at hfind
    split at hfind
    · next heq =>
      cases hfind
      exact ⟨heq ▸ h.1.1, by simp⟩
    · exact ih h.2 hfind
  | folder k inside rest _ ih =>
    rw [find?] at hfind
    split at hfind
    · next heq =>
      cases hfind
      refine ⟨heq ▸ h.1.1, ?_⟩
      rintro _ ⟨⟩
      exact h.2.1
    · exact ih h.2.2 hfind

/-- The names of a position in a tree are names. -/
theorem IsTree.isName (h : l.IsTree) (hget : l.get? pos = some e) : ∀ n ∈ pos, IsName n := by
  induction pos generalizing l with
  | nil => simp
  | cons n rest ih =>
    rw [get?_cons] at hget
    obtain ⟨x, hfind, hx⟩ := Option.bind_eq_some_iff.mp hget
    obtain ⟨hn, hinside⟩ := h.of_find? hfind
    refine List.forall_mem_cons.mpr ⟨hn, ?_⟩
    cases x with
    | folder inside => exact ih (hinside inside rfl) hx
    | file c =>
      rw [Entry.get?] at hx
      split at hx
      · next hempty => simp [List.isEmpty_iff.mp hempty]
      · cases hx

/-- What can be reached is a tree. -/
theorem Fits.isTree (h : l.Fits room) : l.IsTree := by
  induction l generalizing room with
  | empty => trivial
  | file n c rest ih => exact ⟨⟨h.1.1.toIsName, h.1.2.2⟩, ih h.2⟩
  | folder n inside rest ihInside ih =>
    exact ⟨⟨h.1.1.toIsName, h.1.2.2⟩, ihInside h.2.1, ih h.2.2⟩

/-! ## Eligible files -/

/-- The root is no file. -/
theorem Eligible.ne_nil (h : l.Eligible pos) : pos ≠ [] := by
  rintro rfl
  obtain ⟨c, hc⟩ := h.file
  cases hc

/-- An eligible file stands under a name of the folder. -/
theorem Eligible.mem_names (h : l.Eligible (n :: pos)) : n ∈ l.names := by
  obtain ⟨c, hc⟩ := h.file
  rw [get?_cons] at hc
  obtain ⟨x, hfind, -⟩ := Option.bind_eq_some_iff.mp hc
  exact mem_names_of_find? hfind

/-- With an entry in front, the eligible files are those of the entry and those that were. -/
theorem eligible_cons (hn : n ∉ rest.names) : (cons n e rest).Eligible pos ↔
    (∃ q, pos = n :: q ∧ (∃ c, e.get? q = some (.file c)) ∧ (∀ m ∈ n :: q, IsLookedAt m) ∧
      ∃ m ∈ (n :: q).getLast?, IsNamedShapefile m) ∨ rest.Eligible pos := by
  cases pos with
  | nil =>
    constructor
    · intro h
      exact absurd rfl h.ne_nil
    · rintro (⟨q, hq, -⟩ | h)
      · cases hq
      · exact absurd rfl h.ne_nil
  | cons m q =>
    have hget : (cons n e rest).get? (m :: q) =
        if n = m then e.get? q else rest.get? (m :: q) := by
      rw [get?_cons, get?_cons, find?_cons]
      split <;> rfl
    by_cases hm : n = m
    · subst hm
      rw [if_pos rfl] at hget
      constructor
      · intro h
        exact .inl ⟨q, rfl, hget ▸ h.file, h.seen, h.shapefile⟩
      · rintro (⟨q', hq, hfile, hseen, hshapefile⟩ | h)
        · cases hq
          exact ⟨hget ▸ hfile, hseen, hshapefile⟩
        · exact absurd h.mem_names hn
    · rw [if_neg hm] at hget
      constructor
      · intro h
        exact .inr ⟨hget ▸ h.file, h.seen, h.shapefile⟩
      · rintro (⟨q', hq, -⟩ | h)
        · cases hq
          exact absurd rfl hm
        · exact ⟨hget ▸ h.file, h.seen, h.shapefile⟩

/-- A file in front is eligible by its name. -/
theorem eligible_file {c : Content} (hn : n ∉ rest.names) : (file n c rest).Eligible pos ↔
    pos = [n] ∧ IsLookedAt n ∧ IsNamedShapefile n ∨ rest.Eligible pos := by
  refine (eligible_cons (e := .file c) hn).trans (or_congr_left ?_)
  constructor
  · rintro ⟨q, rfl, ⟨c', hc⟩, hseen, hshapefile⟩
    rw [Entry.get?] at hc
    split at hc
    · next hq =>
      obtain rfl := List.isEmpty_iff.mp hq
      exact ⟨rfl, by simpa using hseen, by simpa using hshapefile⟩
    · cases hc
  · rintro ⟨rfl, hseen, hshapefile⟩
    exact ⟨[], rfl, ⟨c, rfl⟩, by simpa using hseen, by simpa using hshapefile⟩

/-- In a subfolder in front those files are eligible that are so in it, if the search looks at its
name. -/
theorem eligible_folder (hn : n ∉ rest.names) : (folder n inside rest).Eligible pos ↔
    (∃ q, pos = n :: q ∧ IsLookedAt n ∧ inside.Eligible q) ∨ rest.Eligible pos := by
  refine (eligible_cons (e := .folder inside) hn).trans (or_congr_left (exists_congr fun q => ?_))
  refine and_congr_right fun _ => ?_
  constructor
  · rintro ⟨hfile, hseen, hshapefile⟩
    rw [List.forall_mem_cons] at hseen
    cases q with
    | nil =>
      obtain ⟨c, hc⟩ := hfile
      cases hc
    | cons k q => exact ⟨hseen.1, hfile, hseen.2, by simpa using hshapefile⟩
  · rintro ⟨hseen, h⟩
    refine ⟨h.file, List.forall_mem_cons.mpr ⟨hseen, h.seen⟩, ?_⟩
    obtain ⟨k, q, rfl⟩ := List.exists_cons_of_ne_nil h.ne_nil
    simpa using h.shapefile

/-! ## First candidates -/

/-- A candidate is the first of some positions, or there is none of them. -/
def IsLeast (among : Position → Prop) : Option (FileName × Position) → Prop
  | none => ∀ pos, ¬among pos
  | some a => among (a.1 :: a.2) ∧
      ∀ pos, among pos → pos ≠ a.1 :: a.2 → Position.Precedes (a.1 :: a.2) pos

/-- An eligible file of the folder itself. -/
def Direct (l : Listing) (pos : Position) : Prop := l.Eligible pos ∧ ∃ n, pos = [n]

/-- An eligible file below a subfolder. -/
def Deep (l : Listing) (pos : Position) : Prop := l.Eligible pos ∧ ∃ n q, pos = n :: q ∧ q ≠ []

section
variable {among more : Position → Prop} {a : FileName × Position}
  {other : Option (FileName × Position)}

/-- The first of some positions is the first of the same positions. -/
theorem IsLeast.congr (h : IsLeast among other) (hsame : ∀ pos, more pos ↔ among pos) :
    IsLeast more other := by
  rwa [funext fun pos => propext (hsame pos)]

/-- The smaller of two candidates is the first of all positions of which they are the first, if
all are of one kind and no name begins positions of both. -/
theorem isLeast_smaller (ha : IsLeast among (some a)) (hother : IsLeast more other)
    (hown : ∀ pos, among pos → ∃ q, pos = a.1 :: q ∧ (a.2 = [] ↔ q = []))
    (happart : ∀ pos, more pos → ∃ m q, pos = m :: q ∧ a.1 ≠ m ∧ (a.2 = [] ↔ q = [])) :
    IsLeast (fun pos => among pos ∨ more pos) (some (smaller a other)) := by
  cases other with
  | none => exact ⟨.inl ha.1, fun pos hpos => hpos.elim (ha.2 pos) fun h => absurd h (hother pos)⟩
  | some b =>
    obtain ⟨m, q, hb, hne, hkind⟩ := happart _ hother.1
    obtain ⟨rfl, rfl⟩ := List.cons.inj hb
    rw [smaller]
    split
    · next hlt =>
      refine ⟨.inr hother.1, fun pos hpos hdiffers => hpos.elim (fun h => ?_) fun h =>
        hother.2 pos h hdiffers⟩
      obtain ⟨q, rfl, hq⟩ := hown pos h
      exact precedes_cons_cons.mpr (.inr ⟨Ne.symm hne, .inr ⟨hkind.symm.trans hq, hlt⟩⟩)
    · next hge =>
      have hlt : a.1 < b.1 := Std.lt_of_le_of_ne hge hne
      refine ⟨.inl ha.1, fun pos hpos hdiffers => hpos.elim (fun h => ha.2 pos h hdiffers)
        fun h => ?_⟩
      obtain ⟨m, q, rfl, hm, hq⟩ := happart pos h
      refine precedes_cons_cons.mpr (.inr ⟨hm, .inr ⟨hq, ?_⟩⟩)
      -- The name of a position that is not the other candidate is not below that of the candidate.
      by_cases hsame : m :: q = b.1 :: b.2
      · rwa [(List.cons.inj hsame).1]
      · rcases precedes_cons_cons.mp (hother.2 _ h hsame) with ⟨heq, -⟩ | ⟨-, ⟨hb, hq'⟩ | ⟨-, hbm⟩⟩
        · rwa [← heq]
        · exact absurd (hq.mp (hkind.mpr hb)) hq'
        · exact List.lt_trans hlt hbm

end

/-- A name of the folder is not that of an entry in front. -/
theorem Eligible.ne_of_not_mem {m : FileName} {q : Position} (h : rest.Eligible (m :: q))
    (hn : n ∉ rest.names) : n ≠ m :=
  fun heq => hn (heq ▸ h.mem_names)

/-- The first file of the folder, or else the first one below a subfolder, is the first of all. -/
theorem isLeast_first? (hdirect : IsLeast l.Direct l.candidates.1)
    (hdeep : IsLeast l.Deep l.candidates.2) : IsLeast l.Eligible l.first? := by
  have hkinds : ∀ pos, l.Eligible pos → l.Direct pos ∨ l.Deep pos := by
    intro pos h
    obtain ⟨n, q, rfl⟩ := List.exists_cons_of_ne_nil h.ne_nil
    cases q with
    | nil => exact .inl ⟨h, n, rfl⟩
    | cons m q => exact .inr ⟨h, n, m :: q, rfl, List.cons_ne_nil m q⟩
  rw [first?]
  cases hfirst : l.candidates.1 with
  | none =>
    rw [hfirst] at hdirect
    rw [Option.none_or]
    refine hdeep.congr fun pos => ⟨fun h => ?_, And.left⟩
    exact (hkinds pos h).resolve_left (hdirect pos)
  | some a =>
    rw [hfirst] at hdirect
    obtain ⟨⟨ha, n, hn⟩, hleast⟩ := hdirect
    rw [Option.some_or]
    refine ⟨ha, fun pos hpos hdiffers => ?_⟩
    rcases hkinds pos hpos with hpos | ⟨hpos, m, q, rfl, hq⟩
    · exact hleast pos hpos hdiffers
    · rw [hn] at ha ⊢
      refine precedes_cons_cons.mpr (.inr ⟨?_, .inl ⟨rfl, hq⟩⟩)
      -- One is a file and the other a folder.
      rintro rfl
      obtain ⟨c, hc⟩ := ha.file
      obtain ⟨c', hc'⟩ := hpos.file
      rw [← List.singleton_append, get?_append, hc, Option.bind_some, Entry.get?,
        if_neg (by simpa using hq)] at hc'
      cases hc'

/-- With a file in front, the eligible files of the folder itself are this one, by its name, and
those that were. -/
theorem direct_file {c : Content} (hn : n ∉ rest.names) : (file n c rest).Direct pos ↔
    pos = [n] ∧ IsLookedAt n ∧ IsNamedShapefile n ∨ rest.Direct pos := by
  rw [Direct, eligible_file hn, or_and_right, Direct]
  exact or_congr_left (and_iff_left_of_imp fun h => ⟨n, h.1⟩)

/-- With a file in front, the eligible files below subfolders are those that were. -/
theorem deep_file {c : Content} (hn : n ∉ rest.names) :
    (file n c rest).Deep pos ↔ rest.Deep pos := by
  rw [Deep, eligible_file hn, or_and_right, Deep]
  refine or_iff_right ?_
  rintro ⟨⟨rfl, -⟩, m, q, hpos, hq⟩
  exact hq (List.cons.inj hpos).2.symm

/-- With a subfolder in front, the eligible files of the folder itself are those that were. -/
theorem direct_folder (hn : n ∉ rest.names) :
    (folder n inside rest).Direct pos ↔ rest.Direct pos := by
  rw [Direct, eligible_folder hn, or_and_right, Direct]
  refine or_iff_right ?_
  rintro ⟨⟨q, rfl, -, hq⟩, m, hpos⟩
  exact hq.ne_nil (List.cons.inj hpos).2

/-- With a subfolder in front, the eligible files below subfolders are those in it, if the search
looks at its name, and those that were. -/
theorem deep_folder (hn : n ∉ rest.names) : (folder n inside rest).Deep pos ↔
    (∃ q, pos = n :: q ∧ IsLookedAt n ∧ inside.Eligible q) ∨ rest.Deep pos := by
  rw [Deep, eligible_folder hn, or_and_right, Deep]
  refine or_congr_left (and_iff_left_of_imp ?_)
  rintro ⟨q, rfl, -, hq⟩
  exact ⟨n, q, rfl, hq.ne_nil⟩

/-- With a file in front, the first files are told from those that were by its name. -/
theorem isLeast_candidates_file (n : FileName) (c : Content) (hn : n ∉ rest.names)
    (hdirect : IsLeast rest.Direct rest.candidates.1)
    (hdeep : IsLeast rest.Deep rest.candidates.2) :
    IsLeast (file n c rest).Direct (file n c rest).candidates.1 ∧
      IsLeast (file n c rest).Deep (file n c rest).candidates.2 := by
  rw [candidates_file]
  split
  · next hname =>
    rw [Bool.and_eq_true, isVisible_iff, isShapefileName_iff] at hname
    have hself : IsLeast (fun pos => pos = [n]) (some (n, [])) :=
      ⟨rfl, fun pos hpos hdiffers => absurd hpos hdiffers⟩
    refine ⟨(isLeast_smaller hself hdirect ?_ ?_).congr fun pos => ?_,
      hdeep.congr fun _ => deep_file hn⟩
    · rintro pos rfl
      exact ⟨[], rfl, Iff.rfl⟩
    · rintro _ ⟨hpos, m, rfl⟩
      exact ⟨m, [], rfl, hpos.ne_of_not_mem hn, Iff.rfl⟩
    · rw [direct_file hn, and_iff_left hname]
  · next hname =>
    rw [Bool.and_eq_true, isVisible_iff, isShapefileName_iff] at hname
    refine ⟨hdirect.congr fun pos => ?_, hdeep.congr fun _ => deep_file hn⟩
    exact (direct_file hn).trans (or_iff_right fun h => hname h.2)

/-- The first file of a folder is the first of those that its name leads on to. -/
theorem IsLeast.below {a : FileName × Position} (h : IsLeast inside.Eligible (some a))
    (n : FileName) :
    IsLeast (fun pos => ∃ q, pos = n :: q ∧ inside.Eligible q) (some (n, a.1 :: a.2)) := by
  refine ⟨⟨_, rfl, h.1⟩, ?_⟩
  rintro _ ⟨q, rfl, hq⟩ hdiffers
  refine precedes_cons_cons.mpr (.inl ⟨rfl, h.2 q hq ?_⟩)
  rintro rfl
  exact hdiffers rfl

/-- With a subfolder in front, its first file is compared to the first of those below the other
subfolders, if the search looks at its name. -/
theorem isLeast_candidates_folder (n : FileName) (hn : n ∉ rest.names)
    (hfirst : IsLeast inside.Eligible inside.first?)
    (hdirect : IsLeast rest.Direct rest.candidates.1)
    (hdeep : IsLeast rest.Deep rest.candidates.2) :
    IsLeast (folder n inside rest).Direct (folder n inside rest).candidates.1 ∧
      IsLeast (folder n inside rest).Deep (folder n inside rest).candidates.2 := by
  rw [candidates_folder]
  split
  · next hname =>
    rw [isVisible_iff] at hname
    refine ⟨hdirect.congr fun _ => direct_folder hn, ?_⟩
    have hbelow : ∀ pos, (folder n inside rest).Deep pos ↔
        (∃ q, pos = n :: q ∧ inside.Eligible q) ∨ rest.Deep pos := by
      intro pos
      rw [deep_folder hn]
      simp only [and_iff_right hname]
    cases hcandidate : inside.first? with
    | none =>
      rw [hcandidate] at hfirst
      rw [Option.map_none, Option.none_or]
      refine hdeep.congr fun pos => (hbelow pos).trans (or_iff_right ?_)
      rintro ⟨q, -, hq⟩
      exact hfirst q hq
    | some a =>
      rw [hcandidate] at hfirst
      rw [Option.map_some, Option.some_or]
      refine (isLeast_smaller (hfirst.below n) hdeep ?_ ?_).congr hbelow
      · rintro _ ⟨q, rfl, hq⟩
        exact ⟨q, rfl, by simp [hq.ne_nil]⟩
      · rintro _ ⟨hpos, m, q, rfl, hq⟩
        exact ⟨m, q, rfl, hpos.ne_of_not_mem hn, by simp [hq]⟩
  · next hname =>
    rw [isVisible_iff] at hname
    refine ⟨hdirect.congr fun _ => direct_folder hn, hdeep.congr fun pos => ?_⟩
    refine (deep_folder hn).trans (or_iff_right ?_)
    rintro ⟨_, _, hseen, _⟩
    exact hname hseen

/-- The candidates of a tree are the first of its files and the first below its subfolders. -/
theorem IsTree.isLeast_candidates (h : l.IsTree) :
    IsLeast l.Direct l.candidates.1 ∧ IsLeast l.Deep l.candidates.2 := by
  induction l with
  | empty =>
    have hnone : ∀ pos, ¬Listing.empty.Eligible pos := by
      intro pos h
      obtain ⟨n, q, rfl⟩ := List.exists_cons_of_ne_nil h.ne_nil
      exact absurd h.mem_names List.not_mem_nil
    exact ⟨fun pos hpos => hnone pos hpos.1, fun pos hpos => hnone pos hpos.1⟩
  | file n c rest ih =>
    obtain ⟨⟨-, hn⟩, hrest⟩ := h
    exact isLeast_candidates_file n c hn (ih hrest).1 (ih hrest).2
  | folder n inside rest ihInside ih =>
    obtain ⟨⟨-, hn⟩, hinside, hrest⟩ := h
    have hfirst := isLeast_first? (ihInside hinside).1 (ihInside hinside).2
    exact isLeast_candidates_folder n hn hfirst (ih hrest).1 (ih hrest).2

/-- The shapefile of a tree is the eligible file that comes first. -/
theorem IsTree.shapefile?_eq_some_iff (h : l.IsTree) : l.shapefile? = some pos ↔ l.IsFirst pos := by
  have hleast := isLeast_first? h.isLeast_candidates.1 h.isLeast_candidates.2
  rw [shapefile?_eq, Option.map_eq_some_iff]
  constructor
  · rintro ⟨a, ha, rfl⟩
    rw [ha] at hleast
    exact hleast
  · rintro ⟨hpos, hfirst⟩
    cases ha : l.first? with
    | none =>
      rw [ha] at hleast
      exact absurd hpos (hleast pos)
    | some a =>
      rw [ha] at hleast
      refine ⟨a, rfl, Decidable.byContradiction fun hne => ?_⟩
      exact (hfirst _ hleast.1 hne).asymm (hleast.2 pos hpos (Ne.symm hne))

/-- A tree has no shapefile exactly if no file is eligible. -/
theorem IsTree.shapefile?_eq_none_iff (h : l.IsTree) :
    l.shapefile? = none ↔ ∀ pos, ¬l.Eligible pos := by
  have hleast := isLeast_first? h.isLeast_candidates.1 h.isLeast_candidates.2
  rw [shapefile?_eq, Option.map_eq_none_iff]
  constructor
  · intro hnone
    rw [hnone] at hleast
    exact hleast
  · intro hnone
    cases ha : l.first? with
    | none => rfl
    | some a =>
      rw [ha] at hleast
      exact absurd hleast.1 (hnone _)

/-! ## Other orders of the entries -/

/-- Rearranging keeps the names of a folder. -/
theorem Rearranged.names_perm (h : l.Rearranged l') : l.names.Perm l'.names := by
  induction h with
  | empty => exact .refl _
  | file n c _ ih => exact ih.cons n
  | folder n _ _ _ ih => exact ih.cons n
  | swap n e m x rest =>
    rw [names_cons, names_cons, names_cons, names_cons]
    exact .swap m n rest.names
  | trans _ _ ih ih' => exact ih.trans ih'

/-- A tree with an entry in front is a tree if the entry has a name of its own. -/
theorem isTree_cons : (cons n e rest).IsTree ↔ (IsName n ∧ n ∉ rest.names) ∧
    (∀ inside, e = .folder inside → inside.IsTree) ∧ rest.IsTree := by
  cases e with
  | file c => simp [cons, IsTree]
  | folder inside => simp [cons, IsTree]

/-- A rearranged tree is a tree with the same eligible files. -/
theorem Rearranged.eligible_iff (h : l.Rearranged l') (htree : l.IsTree) :
    l'.IsTree ∧ ∀ pos, l'.Eligible pos ↔ l.Eligible pos := by
  induction h with
  | empty => exact ⟨htree, fun _ => Iff.rfl⟩
  | file n c h ih =>
    obtain ⟨⟨hname, hn⟩, hrest⟩ := htree
    obtain ⟨hrest', hsame⟩ := ih hrest
    have hn' := fun hmem => hn (h.names_perm.mem_iff.mpr hmem)
    refine ⟨⟨⟨hname, hn'⟩, hrest'⟩, fun pos => ?_⟩
    rw [eligible_file hn, eligible_file hn', hsame]
  | folder n hbelow h ihInside ih =>
    obtain ⟨⟨hname, hn⟩, hinside, hrest⟩ := htree
    obtain ⟨hinside', hsameInside⟩ := ihInside hinside
    obtain ⟨hrest', hsame⟩ := ih hrest
    have hn' := fun hmem => hn (h.names_perm.mem_iff.mpr hmem)
    refine ⟨⟨⟨hname, hn'⟩, hinside', hrest'⟩, fun pos => ?_⟩
    simp only [eligible_folder hn, eligible_folder hn', hsame, hsameInside]
  | swap n e m x rest =>
    obtain ⟨⟨hnameN, hn⟩, he, hsecond⟩ := isTree_cons.mp htree
    obtain ⟨⟨hnameM, hm⟩, hx, hrest⟩ := isTree_cons.mp hsecond
    rw [names_cons, List.mem_cons, not_or] at hn
    have hm' : m ∉ (cons n e rest).names := by
      rw [names_cons, List.mem_cons, not_or]
      exact ⟨Ne.symm hn.1, hm⟩
    have hn' : n ∉ (cons m x rest).names := by
      rw [names_cons, List.mem_cons, not_or]
      exact hn
    refine ⟨isTree_cons.mpr ⟨⟨hnameM, hm'⟩, hx, isTree_cons.mpr ⟨⟨hnameN, hn.2⟩, he, hrest⟩⟩,
      fun pos => ?_⟩
    rw [eligible_cons hm', eligible_cons hn.2, eligible_cons hn', eligible_cons hm, or_left_comm]
  | trans _ _ ih ih' =>
    obtain ⟨hbetween, hsame⟩ := ih htree
    obtain ⟨hafter, hsame'⟩ := ih' hbetween
    exact ⟨hafter, fun pos => (hsame' pos).trans (hsame pos)⟩

/-- Trees with the same eligible files have the same shapefile. -/
theorem IsTree.shapefile?_congr (h : l.IsTree) (h' : l'.IsTree)
    (hsame : ∀ pos, l'.Eligible pos ↔ l.Eligible pos) : l'.shapefile? = l.shapefile? := by
  have hfirst : ∀ pos, l'.IsFirst pos ↔ l.IsFirst pos := fun pos =>
    and_congr (hsame pos) (forall_congr' fun other => imp_congr_left (hsame other))
  refine Option.ext fun pos => ?_
  rw [h.shapefile?_eq_some_iff, h'.shapefile?_eq_some_iff, hfirst]

end Listing

/-! ## The search -/

namespace Disk

/-- The search below a folder finds no shapefile exactly if no file there is eligible. Otherwise it
answers with the path of the eligible file that comes first, whose format is that of a shapefile.
It answers alike for every order in which the entries of the folders are listed. -/
theorem findShapefile_first {d : Disk} {folder : Path} {place : Position} {inside : Listing}
    (h : d.locate folder = .ok (place, .folder inside)) (htree : inside.IsTree) :
    (d.findShapefile folder = .error .noShapefile ↔ ∀ pos, ¬inside.Eligible pos) ∧
    ((∃ pos, inside.Eligible pos) → ∃ pos, inside.IsFirst pos ∧
      d.findShapefile folder = .ok (folder.below pos) ∧
      SourceFormat.ofPath (folder.below pos) = .shapefile) ∧
    ∀ (d' : Disk) (place' : Position) (inside' : Listing),
      d'.locate folder = .ok (place', .folder inside') → inside.Rearranged inside' →
        d'.findShapefile folder = d.findShapefile folder := by
  have hgiven := (isAt_of_locate h).given
  refine ⟨?_, ?_, ?_⟩
  · rw [← htree.shapefile?_eq_none_iff]
    simp only [findShapefile, h]
    cases inside.shapefile? <;> simp
  · rintro ⟨pos, hpos⟩
    cases hfound : inside.shapefile? with
    | none => exact absurd hpos (htree.shapefile?_eq_none_iff.mp hfound pos)
    | some first =>
      have hfirst := htree.shapefile?_eq_some_iff.mp hfound
      obtain ⟨c, hc⟩ := hfirst.1.file
      refine ⟨first, hfirst, ?_, ofPath_below hgiven (htree.isName hc) hfirst.1.shapefile⟩
      simp only [findShapefile, h, hfound]
      rfl
  · intro d' place' inside' h' hrearranged
    obtain ⟨htree', hsame⟩ := hrearranged.eligible_iff htree
    simp only [findShapefile, h, h', htree.shapefile?_congr htree' hsame]

/-- A file without content. -/
private def blank (name : String) (rest : Listing) : Listing :=
  .file (Text.Utf8.encode name) (.bytes []) rest

/-- A fork, a folder of forks, and two folders with shapefiles, of which the one with the smaller
name has its own shapefile after a subfolder with another. -/
def surveyed : Listing :=
  blank "._a.shp" (.folder (Text.Utf8.encode "__MACOSX") (blank "a.shp" .empty)
    (.folder (Text.Utf8.encode "d") (blank "a.shp" .empty)
      (.folder (Text.Utf8.encode "b")
        (.folder (Text.Utf8.encode "c") (blank "a.shp" .empty) (blank "z.SHP" .empty)) .empty)))

/-- The same tree listed with its second entry first. -/
def resurveyed : Listing :=
  .folder (Text.Utf8.encode "__MACOSX") (blank "a.shp" .empty) (blank "._a.shp"
    (.folder (Text.Utf8.encode "d") (blank "a.shp" .empty)
      (.folder (Text.Utf8.encode "b")
        (.folder (Text.Utf8.encode "c") (blank "a.shp" .empty) (blank "z.SHP" .empty)) .empty)))

/-- A disk with one folder. -/
def holding (inside : Listing) : Disk where
  root := .folder (Text.Utf8.encode "scratch") inside .empty
  working := []

/-- The file of the folder of the smaller name is found before those of other folders and before
the one in its own subfolder, in either order of the entries. -/
theorem findShapefile_first_nested :
    (holding surveyed).locate (Path.ofText "/scratch") =
        .ok ([Text.Utf8.encode "scratch"], .folder surveyed) ∧
      surveyed.IsTree ∧
      (∃ pos, surveyed.IsFirst pos ∧
        (Path.ofText "/scratch").below pos = Path.ofText "/scratch/b/z.SHP") ∧
      surveyed.Rearranged resurveyed ∧
      (holding resurveyed).findShapefile (Path.ofText "/scratch") =
        .ok (Path.ofText "/scratch/b/z.SHP") := by
  have hlocated : (holding surveyed).locate (Path.ofText "/scratch") =
      .ok ([Text.Utf8.encode "scratch"], .folder surveyed) := by
    decide +kernel
  have hlocated' : (holding resurveyed).locate (Path.ofText "/scratch") =
      .ok ([Text.Utf8.encode "scratch"], .folder resurveyed) := by
    decide +kernel
  have htree : surveyed.IsTree := by decide +kernel
  have hfound : (holding surveyed).findShapefile (Path.ofText "/scratch") =
      .ok (Path.ofText "/scratch/b/z.SHP") := by
    decide +kernel
  have hswapped : surveyed.Rearranged resurveyed :=
    .swap (Text.Utf8.encode "._a.shp") (.file (.bytes [])) (Text.Utf8.encode "__MACOSX")
      (.folder (blank "a.shp" .empty)) _
  obtain ⟨hnone, hsome, hsame⟩ := findShapefile_first hlocated htree
  have hthere : ∃ pos, surveyed.Eligible pos := by
    refine Classical.byContradiction fun hempty => ?_
    rw [hnone.mpr fun pos hpos => hempty ⟨pos, hpos⟩] at hfound
    cases hfound
  obtain ⟨pos, hfirst, hpath, -⟩ := hsome hthere
  exact ⟨hlocated, htree, ⟨pos, hfirst, Except.ok.inj (hpath.symm.trans hfound)⟩, hswapped,
    (hsame _ _ _ hlocated' hswapped).trans hfound⟩

end Disk

end LayerPress
