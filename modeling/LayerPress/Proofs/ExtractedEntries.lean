import LayerPress.Proofs.ArchiveExtraction
import LayerPress.Proofs.FoldersOnTheWay
import LayerPress.Proofs.TextBytes

/-!
# What extracting one entry takes and makes

An entry whose name is accepted is extracted exactly if no file is on its way and, for a file, no
folder at its end. Then the folders on the way are there, and the file has the data of the entry.
The name of a folder may end in single dots; the folder before them must then be there already.
-/

namespace LayerPress

open LayerPress.Path (Component follow way)

/-! ## Where names lead -/

namespace Path

variable {rel x : Position} {cs : List Component} {c : Component}

/-- A component that stays below a place leads there to where it leads from the root. -/
theorem lead_below (place : Position)
    (h : (ArchiveEntry.depthAfter? rel.length (c :: cs)).isSome = true) :
    c.lead (place ++ rel) = place ++ c.lead rel ∧
      (ArchiveEntry.depthAfter? (c.lead rel).length cs).isSome = true := by
  cases c with
  | here => exact ⟨rfl, h⟩
  | name n => exact ⟨List.append_assoc .., by rw [Component.lead, List.length_append]; exact h⟩
  | up =>
    rcases List.eq_nil_or_concat' rel with rfl | ⟨init, n, rfl⟩
    · cases h
    · rw [List.length_append, List.length_singleton] at h
      rw [Component.lead, Component.lead, ← List.append_assoc, List.dropLast_concat,
        List.dropLast_concat]
      exact ⟨rfl, h⟩

/-- Components that stay below a place lead there to where they lead from the root. -/
theorem follow_below (place : Position)
    (h : (ArchiveEntry.depthAfter? rel.length cs).isSome = true) :
    follow (place ++ rel) cs = place ++ follow rel cs := by
  induction cs generalizing rel with
  | nil => rfl
  | cons c rest ih =>
    obtain ⟨hlead, hrest⟩ := lead_below place h
    change follow (c.lead (place ++ rel)) rest = _
    rw [hlead]
    exact ih hrest

/-- Components that stay below a place lead there through what they lead through from the root. -/
theorem mem_way_below (place : Position)
    (h : (ArchiveEntry.depthAfter? rel.length cs).isSome = true) :
    x ∈ way (place ++ rel) cs ↔ ∃ y ∈ way rel cs, x = place ++ y := by
  induction cs generalizing rel with
  | nil => simp [mem_way_nil]
  | cons c rest ih =>
    obtain ⟨hlead, hrest⟩ := lead_below place h
    rw [mem_way_cons, hlead, ih hrest]
    simp only [mem_way_cons, or_and_right, exists_or, exists_eq_left]

/-- From the root everything above a place on the way is on the way too. -/
theorem dropLast_mem_way (h : x ∈ way [] cs) : x.dropLast ∈ way [] cs := by
  induction cs using List.reverseRecOn generalizing x with
  | nil =>
    rw [mem_way_nil] at h ⊢
    rw [h, List.dropLast_nil]
  | append_singleton init c ih =>
    rw [mem_way_concat] at h ⊢
    rcases h with h | rfl
    · exact .inl (ih h)
    left
    rw [follow_concat]
    cases c with
    | here => exact ih follow_mem_way
    | up => exact ih (ih follow_mem_way)
    | name n =>
      rw [Component.lead, List.dropLast_concat]
      exact follow_mem_way

end Path

/-! ## Names of entries -/

namespace ArchiveEntry

variable {e : ArchiveEntry} {target : Path}

/-- The components of the name of an entry. -/
def steps (e : ArchiveEntry) : List Component := (Path.ofText e.name).steps

/-- Where the name of an entry leads from the folder that it is extracted into. -/
def position (e : ArchiveEntry) : Position := follow [] e.steps

/-- The path of an entry in the folder that it is extracted into. -/
def pathIn (e : ArchiveEntry) (target : Path) : Path := target.join (Path.ofText e.name)

/-- The folders that the name of an entry leads through, with the one that it names itself if it is
that of a folder. Those that are left again by two dots are among them. -/
def folders (e : ArchiveEntry) : List Position :=
  way [] (if e.isFolder then e.steps else e.steps.dropLast)

/-- The path to an entry is not too long, and no name in it is. -/
structure FitsBelow (target : Path) (e : ArchiveEntry) : Prop where
  short : (e.pathIn target).bytes.length < Disk.maxPath
  shortNames : ∀ c ∈ e.steps, c.IsShort

/-- What component is short can be decided. -/
instance decidableIsShort : (c : Component) → Decidable c.IsShort
  | .here | .up => inferInstanceAs (Decidable True)
  | .name n => inferInstanceAs (Decidable (n.length ≤ Disk.maxName))

/-- What entry is not too long can be decided. -/
instance decidableFitsBelow (target : Path) (e : ArchiveEntry) : Decidable (e.FitsBelow target) :=
  decidable_of_iff ((e.pathIn target).bytes.length < Disk.maxPath ∧ ∀ c ∈ e.steps, c.IsShort)
    ⟨fun ⟨hshort, hnames⟩ => ⟨hshort, hnames⟩, fun ⟨hshort, hnames⟩ => ⟨hshort, hnames⟩⟩

/-- An accepted name stays below. -/
theorem isSome_depth (h : accepts e.name = true) : (depthAfter? 0 e.steps).isSome = true := by
  rw [accepts, Bool.and_eq_true] at h
  exact h.2

/-- An accepted name has no NUL. -/
theorem nul_not_mem (h : accepts e.name = true) : 0 ∉ (Path.ofText e.name).bytes := by
  rw [accepts, Bool.and_eq_true, Bool.and_eq_true, Bool.not_eq_true'] at h
  intro hmem
  have hnul : Char.ofNat 0 ∈ e.name.toList :=
    Text.Utf8.mem_toList_of_mem_encode hmem (by decide)
  rw [List.contains_iff_mem.mpr hnul] at h
  cases h.1.1

/-- An accepted name is joined to a path with a slash between. -/
theorem pathIn_eq (htarget : target.bytes ≠ []) (h : accepts e.name = true) :
    e.pathIn target = ⟨target.opened ++ (Path.ofText e.name).bytes⟩ := by
  rw [accepts, Bool.and_eq_true, Bool.and_eq_true, Bool.not_eq_true', Bool.not_eq_true'] at h
  exact Path.join_eq htarget h.1.2

/-- The name of a file does not end in a slash. -/
theorem asksFolder_pathIn (htarget : target.bytes ≠ []) (h : accepts e.name = true)
    (hfile : e.isFolder = false) (hsteps : e.steps ≠ []) :
    Disk.asksFolder (e.pathIn target) = false := by
  have hbytes : (Path.ofText e.name).bytes ≠ [] := by
    intro hnil
    exact hsteps (by rw [steps, Path.steps, hnil]; rfl)
  rw [Disk.asksFolder, pathIn_eq htarget h, List.getLast?_append_of_ne_nil _ hbytes]
  refine beq_false_of_ne fun hlast => ?_
  have hslash := Text.Utf8.getLast?_toList_of_encode hlast (by decide)
  rw [isFolder, hslash] at hfile
  cases hfile

/-- A file whose position is no folder on its way has a last name. -/
theorem exists_name_of_position (h : e.position ∉ way [] e.steps.dropLast) :
    ∃ init n, e.steps = init ++ [.name n] := by
  rw [position] at h
  rcases List.eq_nil_or_concat' e.steps with hsteps | ⟨init, c, hsteps⟩
  · rw [hsteps] at h
    exact absurd Path.follow_mem_way h
  · rw [hsteps, List.dropLast_concat, Path.follow_concat] at h
    cases c with
    | here => exact absurd Path.follow_mem_way h
    | up => exact absurd (Path.dropLast_mem_way Path.follow_mem_way) h
    | name n => exact ⟨init, n, hsteps⟩

end ArchiveEntry

/-! ## Paths to entries -/

namespace Disk

variable {d made : Disk} {target : Path} {place : Position} {e : ArchiveEntry}
  {cs init : List Component} {n : FileName}

/-- The folders on the way to the target are there, and its names are short. -/
theorem IsAt.opens (h : d.IsAt target place) : (∀ c ∈ target.steps, c.IsShort) ∧
    d.Opens (d.start target) target.steps ∧ place = follow (d.start target) target.steps :=
  walk_opens.mp ⟨h.reached, h.folder⟩

section
variable (hgiven : target.bytes ≠ []) (haccepts : ArchiveEntry.accepts e.name = true)

include hgiven haccepts

/-- The path of an entry leads on from the target by its name. -/
theorem steps_pathIn : (e.pathIn target).steps = target.steps ++ e.steps := by
  rw [ArchiveEntry.pathIn_eq hgiven haccepts, Path.steps_opened_append hgiven]
  rfl

/-- The path of an entry starts where that of the target does. -/
theorem start_pathIn (d : Disk) : d.start (e.pathIn target) = d.start target := by
  rw [start, start, ArchiveEntry.pathIn_eq hgiven haccepts, Path.isAbsolute_opened_append hgiven]

end

section
variable (h : d.IsAt target place) (haccepts : ArchiveEntry.accepts e.name = true)

include h haccepts

/-- The system takes the path of an entry exactly if it is not too long. -/
theorem IsAt.takes_pathIn (hclean : 0 ∉ target.bytes) :
    Takes (e.pathIn target) ↔ e.FitsBelow target := by
  constructor
  · rintro ⟨-, hshort, hnames⟩
    rw [steps_pathIn h.given haccepts, List.forall_mem_append] at hnames
    exact ⟨hshort, hnames.2⟩
  · rintro ⟨hshort, hnames⟩
    refine ⟨?_, hshort, ?_⟩
    · obtain ⟨a, hopened, -, hwithin⟩ := Path.exists_opened h.given
      rw [ArchiveEntry.pathIn_eq h.given haccepts, hopened]
      simp only [List.mem_append, List.mem_singleton, not_or]
      exact ⟨⟨fun hmem => hclean (hwithin.subset hmem), by decide⟩,
        ArchiveEntry.nul_not_mem haccepts⟩
    · rw [steps_pathIn h.given haccepts, List.forall_mem_append]
      exact ⟨h.opens.1, hnames⟩

/-- The path of an entry leads where its name leads below the place of the target. -/
theorem IsAt.follow_pathIn :
    follow (d.start (e.pathIn target)) (e.pathIn target).steps = place ++ e.position := by
  have hbelow : follow (place ++ []) e.steps = place ++ follow [] e.steps :=
    Path.follow_below place (ArchiveEntry.isSome_depth haccepts)
  rw [List.append_nil] at hbelow
  rw [start_pathIn h.given haccepts, steps_pathIn h.given haccepts, Path.follow_append,
    ← h.opens.2.2, hbelow]
  rfl

/-- From the target on a name leads through the places below it that it leads through. -/
theorem IsAt.mem_way_pathIn (hcs : cs <+: e.steps) {x : Position} :
    x ∈ way (d.start (e.pathIn target)) (target.steps ++ cs) ↔
      x ∈ way (d.start target) target.steps ∨ ∃ y ∈ way [] cs, x = place ++ y := by
  have hdepth := ArchiveEntry.isSome_depthAfter?_of_prefix hcs (ArchiveEntry.isSome_depth haccepts)
  have hbelow : x ∈ way (place ++ []) cs ↔ ∃ y ∈ way [] cs, x = place ++ y :=
    Path.mem_way_below place hdepth
  rw [List.append_nil] at hbelow
  rw [start_pathIn h.given haccepts, Path.mem_way_append, ← h.opens.2.2, hbelow]

/-- No file is on the way to an entry exactly if none is on the way below the target. -/
theorem IsAt.free_pathIn (hcs : cs <+: e.steps) :
    (∀ x ∈ way (d.start (e.pathIn target)) (target.steps ++ cs), ¬d.HasFile x) ↔
      ∀ y ∈ way [] cs, ¬d.HasFile (place ++ y) := by
  constructor
  · intro hfree y hy
    exact hfree _ ((h.mem_way_pathIn haccepts hcs).mpr (.inr ⟨y, hy, rfl⟩))
  · intro hfree x hx
    rcases (h.mem_way_pathIn haccepts hcs).mp hx with hx | ⟨y, hy, rfl⟩
    · exact (h.opens.2.1 x hx).not_hasFile
    · exact hfree y hy

end

/-! ## Extracting an entry -/

/-- An entry can be extracted: it can be read, its path is not too long, and no file is on its way.
A folder whose name ends in single dots finds the folder before them. At the place of a file is no
folder, and the checksum holds. -/
structure Admits (d : Disk) (target : Path) (place : Position) (e : ArchiveEntry) : Prop where
  readable : e.fault? = none
  fits : e.FitsBelow target
  free : ∀ x ∈ e.folders, ¬d.HasFile (place ++ x)
  based : e.isFolder = true → ¬d.Lacks place e.steps
  vacant : e.isFolder = false → e.position ∉ e.folders ∧ ¬d.HasFolder (place ++ e.position)
  intact : e.isFolder = false → e.checksumHolds = true

/-- A disk has come from another by extracting an entry: the folders on its way are there, a file
has its data, and at other places below the target is what was there. -/
structure Receives (d : Disk) (place : Position) (e : ArchiveEntry) (d' : Disk) : Prop where
  working : d'.working = d.working
  view : ∀ x, d'.view (place ++ x) =
    if x ∈ e.folders then some none
    else if e.isFolder = false ∧ x = e.position then some (some (.bytes e.data))
    else d.view (place ++ x)

section
variable (h : d.IsAt target place) (hclean : 0 ∉ target.bytes)
  (haccepts : ArchiveEntry.accepts e.name = true)

include h haccepts

/-- The path of an entry starts at a folder. -/
theorem IsAt.hasFolder_start : d.HasFolder (d.start (e.pathIn target)) := by
  rw [start_pathIn h.given haccepts]
  exact h.opens.2.1 _ Path.start_mem_way

/-- Making folders along a name below the target is seen below the target alone. -/
theorem IsAt.view_of_makesFolders (hcs : cs <+: e.steps)
    (hmade : d.MakesFolders (way (d.start (e.pathIn target)) (target.steps ++ cs)) made)
    (x : Position) :
    made.view (place ++ x) = if x ∈ way [] cs then some none else d.view (place ++ x) := by
  rw [hmade.view]
  by_cases hx : x ∈ way [] cs
  · rw [if_pos hx, if_pos ((h.mem_way_pathIn haccepts hcs).mpr (.inr ⟨x, hx, rfl⟩))]
  · rw [if_neg hx]
    split
    · next hway =>
      rcases (h.mem_way_pathIn haccepts hcs).mp hway with hway | ⟨y, hy, hsame⟩
      · exact (view_eq_folder.mpr (h.opens.2.1 _ hway)).symm
      · rw [List.append_cancel_left hsame] at hx
        exact absurd hy hx
    · rfl

include hclean

/-- The folders of the name of a folder can be made exactly if the entry can be extracted. -/
theorem IsAt.canMake_pathIn (hfault : e.fault? = none) (hfolder : e.isFolder = true) :
    d.CanMake (e.pathIn target) ↔ d.Admits target place e := by
  have hsteps := steps_pathIn h.given haccepts
  have hfolders : e.folders = way [] e.steps := by rw [ArchiveEntry.folders, if_pos hfolder]
  have hfree := h.free_pathIn haccepts (List.prefix_refl e.steps)
  have hlacks : d.Lacks (d.start (e.pathIn target)) (e.pathIn target).steps ↔
      d.Lacks place e.steps := by
    rw [hsteps, start_pathIn h.given haccepts, lacks_append h.opens.2.1, ← h.opens.2.2]
  rw [← hsteps] at hfree
  constructor
  · rintro ⟨htakes, hway, hbased⟩
    exact {
      readable := hfault
      fits := (h.takes_pathIn haccepts hclean).mp htakes
      free := by rw [hfolders]; exact hfree.mp hway
      based := fun _ hlacking => hbased (hlacks.mpr hlacking)
      vacant := fun hfile => by rw [hfolder] at hfile; cases hfile
      intact := fun hfile => by rw [hfolder] at hfile; cases hfile }
  · intro hadmits
    have hway := hadmits.free
    rw [hfolders] at hway
    exact ⟨(h.takes_pathIn haccepts hclean).mpr hadmits.fits, hfree.mpr hway,
      fun hlacking => hadmits.based hfolder (hlacks.mp hlacking)⟩

/-- The folders above a file whose path is not too long are made exactly if no file is on the way,
and nothing else changes. -/
theorem IsAt.makeParent (hfits : e.FitsBelow target) (hsteps : e.steps = init ++ [.name n]) :
    ((d.makeFolders ((e.pathIn target).parent?.getD ⟨[]⟩)).1 = .ok () ↔
        ∀ y ∈ way [] init, ¬d.HasFile (place ++ y)) ∧
      ((d.makeFolders ((e.pathIn target).parent?.getD ⟨[]⟩)).1 = .ok () →
        d.MakesFolders (way (d.start (e.pathIn target)) (target.steps ++ init))
          (d.makeFolders ((e.pathIn target).parent?.getD ⟨[]⟩)).2) := by
  have hname : Component.name n ≠ .here := by simp
  have htrim : Path.trimHere (e.pathIn target).steps = target.steps ++ init ++ [.name n] := by
    rw [steps_pathIn h.given haccepts, hsteps, ← List.append_assoc, Path.trimHere_concat hname]
  have hinit : init <+: e.steps := hsteps ▸ List.prefix_append _ _
  cases hq : (e.pathIn target).parent? with
  | none =>
    rw [Path.trimHere_of_parent?_eq_none hq] at htrim
    simp at htrim
  | some q =>
    have hway : ∀ pos x, x ∈ way pos q.steps ↔ x ∈ way pos (target.steps ++ init) := fun _ _ =>
      Path.mem_way_parent hq htrim
    have hstart : d.start q = d.start (e.pathIn target) := start_parent d hq
    have hfolder := hstart ▸ h.hasFolder_start haccepts
    have htakes := ((h.takes_pathIn haccepts hclean).mpr hfits).parent hq
    rw [Option.getD_some, makeFolders_eq_ok hfolder, ← h.free_pathIn haccepts hinit]
    refine ⟨⟨fun hcan x hx => ?_, fun hfree => ⟨htakes, fun x hx => ?_, not_lacks_parent hq⟩⟩,
      fun hcan => ?_⟩
    · exact hcan.free x (hstart ▸ (hway _ x).mpr hx)
    · exact hfree x ((hway _ x).mp (hstart ▸ hx))
    · rw [← hstart]
      exact (hcan.makesFolders hfolder).congr fun x => (hway _ x).symm

omit hclean in
/-- A file is only written under a name. -/
theorem IsAt.exists_name_of_canWrite (hwrite : d.CanWrite (e.pathIn target)) :
    ∃ init n, e.steps = init ++ [.name n] := by
  obtain ⟨-, -, ⟨n, hlast⟩, -, hvacant⟩ := hwrite
  rw [steps_pathIn h.given haccepts] at hlast
  rcases List.eq_nil_or_concat' e.steps with hnil | ⟨init, c, hsteps⟩
  · rw [h.follow_pathIn haccepts, ArchiveEntry.position, hnil] at hvacant
    exact absurd (by simpa [follow] using h.folder) hvacant
  · rw [hsteps, ← List.append_assoc, List.getLast?_concat] at hlast
    cases hlast
    exact ⟨init, n, hsteps⟩

end

/-- A folder is extracted by making it. -/
theorem extractEntry_of_isFolder (hfault : e.fault? = none)
    (haccepts : ArchiveEntry.accepts e.name = true) (hfolder : e.isFolder = true) :
    d.extractEntry target e =
      ((d.makeFolders (e.pathIn target)).1.mapError .io, (d.makeFolders (e.pathIn target)).2) := by
  unfold extractEntry ArchiveEntry.pathIn
  simp only [hfault, haccepts, hfolder, Bool.not_true, Bool.false_eq_true, if_false, if_true]
  obtain ⟨_ | _, made⟩ := d.makeFolders (target.join (Path.ofText e.name)) <;> rfl

/-- A file is extracted by making the folders above it and writing it. -/
theorem extractEntry_of_isFile (hfault : e.fault? = none)
    (haccepts : ArchiveEntry.accepts e.name = true) (hfile : e.isFolder = false) :
    d.extractEntry target e =
      match d.makeFolders ((e.pathIn target).parent?.getD ⟨[]⟩) with
      | (.error f, made) => (.error (.io f), made)
      | (.ok (), made) =>
        match made.writeFile (e.pathIn target) (.bytes e.data) with
        | .error f => (.error (.io f), made)
        | .ok written =>
          if e.checksumHolds then (.ok (), written) else (.error (.io e.flaw), written) := by
  unfold extractEntry
  simp only [hfault, haccepts, hfile, Bool.not_true, Bool.false_eq_true, if_false]
  rfl

section
variable (h : d.IsAt target place) (hclean : 0 ∉ target.bytes)
  (haccepts : ArchiveEntry.accepts e.name = true)

include h hclean haccepts

/-- With the folders above a file that can be extracted it can be written. -/
theorem IsAt.exists_makeParent (hadmits : d.Admits target place e) (hfile : e.isFolder = false) :
    ∃ made, d.makeFolders ((e.pathIn target).parent?.getD ⟨[]⟩) = (.ok (), made) ∧
      made.IsAt target place ∧ made.CanWrite (e.pathIn target) ∧ made.working = d.working ∧
      ∀ x, made.view (place ++ x) =
        if x ∈ e.folders then some none else d.view (place ++ x) := by
  have hfolders : e.folders = way [] e.steps.dropLast := by
    rw [ArchiveEntry.folders, hfile, if_neg Bool.false_ne_true]
  obtain ⟨hvacant, hfolderless⟩ := hadmits.vacant hfile
  have hfree := hadmits.free
  obtain ⟨init, n, hsteps⟩ := ArchiveEntry.exists_name_of_position (hfolders ▸ hvacant)
  rw [hsteps, List.dropLast_concat] at hfolders
  rw [hfolders] at hvacant hfree ⊢
  obtain ⟨hanswer, hmakes⟩ := h.makeParent hclean haccepts hadmits.fits hsteps
  have hat := (h.fills_makeParent (staysBelow_join h.given haccepts)).isAt h
  change (d.makeFolders ((e.pathIn target).parent?.getD ⟨[]⟩)).2.IsAt target place at hat
  have hmade := hmakes (hanswer.mpr hfree)
  generalize d.makeFolders ((e.pathIn target).parent?.getD ⟨[]⟩) = above at hanswer hmade hat ⊢
  obtain ⟨answer, made⟩ := above
  obtain rfl : answer = .ok () := hanswer.mpr hfree
  have hview := h.view_of_makesFolders haccepts (hsteps ▸ List.prefix_append _ _) hmade
  refine ⟨made, rfl, hat, ?_, hmade.working, hview⟩
  have hpath : (e.pathIn target).steps = target.steps ++ init ++ [.name n] := by
    rw [steps_pathIn h.given haccepts, hsteps, List.append_assoc]
  exact {
    takes := (h.takes_pathIn haccepts hclean).mpr hadmits.fits
    opens := by
      intro x hx
      rw [hpath, List.dropLast_concat, start_pathIn h.given haccepts, start, hmade.working,
        ← start, ← start_pathIn h.given haccepts] at hx
      exact hmade.hasFolder.mpr (.inl hx)
    named := ⟨n, by rw [hpath, List.getLast?_concat]⟩
    file := ArchiveEntry.asksFolder_pathIn h.given haccepts hfile (by simp [hsteps])
    vacant := by
      rw [hat.follow_pathIn haccepts, ← view_eq_folder, hview, if_neg hvacant, view_eq_folder]
      exact hfolderless }

/-- An entry that can be extracted is extracted. -/
theorem IsAt.extractEntry_of_admits (hadmits : d.Admits target place e) :
    (d.extractEntry target e).1 = .ok () ∧ d.Receives place e (d.extractEntry target e).2 := by
  cases hfolder : e.isFolder with
  | true =>
    have hcan := (h.canMake_pathIn hclean haccepts hadmits.readable hfolder).mpr hadmits
    have hmade := hcan.makesFolders (h.hasFolder_start haccepts)
    have hok := (makeFolders_eq_ok (h.hasFolder_start haccepts)).mpr hcan
    rw [extractEntry_of_isFolder hadmits.readable haccepts hfolder, hok]
    rw [steps_pathIn h.given haccepts] at hmade
    refine ⟨rfl, hmade.working, fun x => ?_⟩
    rw [h.view_of_makesFolders haccepts List.prefix_rfl hmade, ArchiveEntry.folders, hfolder]
    simp
  | false =>
    obtain ⟨made, hmade, hat, hwrite, hworking, hview⟩ :=
      h.exists_makeParent hclean haccepts hadmits hfolder
    obtain ⟨written, hwritten, hworking', hafter⟩ := hwrite.exists_writeFile (.bytes e.data)
    rw [hat.follow_pathIn haccepts] at hafter
    rw [extractEntry_of_isFile hadmits.readable haccepts hfolder]
    simp only [hmade, hwritten, hadmits.intact hfolder, if_true]
    refine ⟨trivial, hworking'.trans hworking, fun x => ?_⟩
    rw [hafter, hview, hfolder]
    by_cases hx : x = e.position
    · rw [hx, if_pos rfl, if_neg (hadmits.vacant hfolder).1, if_pos ⟨rfl, rfl⟩]
    · rw [if_neg fun hsame => hx (List.append_cancel_left hsame)]
      simp [hx]

/-- An entry that is extracted can be. -/
theorem IsAt.admits_of_extractEntry (hok : (d.extractEntry target e).1 = .ok ()) :
    d.Admits target place e := by
  have hfault : e.fault? = none := by
    cases hfault : e.fault? with
    | none => rfl
    | some fault =>
      rw [extractEntry, hfault] at hok
      cases hok
  cases hfolder : e.isFolder with
  | true =>
    refine (h.canMake_pathIn hclean haccepts hfault hfolder).mp ?_
    rw [extractEntry_of_isFolder hfault haccepts hfolder] at hok
    refine (makeFolders_eq_ok (h.hasFolder_start haccepts)).mp ?_
    generalize (d.makeFolders (e.pathIn target)).1 = answer at hok ⊢
    cases answer with
    | error f => cases hok
    | ok _ => rfl
  | false =>
    have hat := (h.fills_makeParent (staysBelow_join h.given haccepts)).isAt h
    change (d.makeFolders ((e.pathIn target).parent?.getD ⟨[]⟩)).2.IsAt target place at hat
    have hparent := fun (init : List Component) (n : FileName) (hfits : e.FitsBelow target)
      (hsteps : e.steps = init ++ [.name n]) => h.makeParent hclean haccepts hfits hsteps
    rw [extractEntry_of_isFile hfault haccepts hfolder] at hok
    generalize d.makeFolders ((e.pathIn target).parent?.getD ⟨[]⟩) = above at hok hat hparent
    obtain ⟨_ | _, made⟩ := above
    · cases hok
    dsimp only at hok
    split at hok
    · cases hok
    next written hwritten =>
    have hwrite := canWrite_of_writeFile hwritten
    obtain ⟨init, n, hsteps⟩ := hat.exists_name_of_canWrite haccepts hwrite
    have hfits := (h.takes_pathIn haccepts hclean).mp hwrite.takes
    obtain ⟨hanswer, hmakes⟩ := hparent init n hfits hsteps
    have hview := h.view_of_makesFolders haccepts (hsteps ▸ List.prefix_append _ _) (hmakes rfl)
    have hfolders : e.folders = way [] init := by
      rw [ArchiveEntry.folders, hfolder, if_neg Bool.false_ne_true, hsteps, List.dropLast_concat]
    have hvacant := hwrite.vacant
    rw [hat.follow_pathIn haccepts, ← view_eq_folder, hview] at hvacant
    split at hvacant
    · exact absurd rfl hvacant
    next hnew =>
    exact {
      readable := hfault
      fits := hfits
      free := by rw [hfolders]; exact hanswer.mp rfl
      based := fun hyes => by rw [hfolder] at hyes; cases hyes
      vacant := fun _ => ⟨hfolders ▸ hnew, fun hthere => hvacant (view_eq_folder.mpr hthere)⟩
      intact := fun _ => by
        by_cases hsum : e.checksumHolds = true
        · exact hsum
        · rw [if_neg hsum] at hok
          cases hok }

end

end Disk

end LayerPress
