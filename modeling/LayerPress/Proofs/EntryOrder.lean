import LayerPress.Proofs.ExtractedTrees
import LayerPress.Proofs.FirstShapefile

/-!
# The order of the entries of an archive

What the entries of an archive call for does not depend on their order, but for folders whose names
end in single dots: these must come after an entry that leads through the folder before the dots.
With this proviso an archive is resolved in one order exactly if it is in another, and then to the
same path, with the same folders and files beside it.
-/

namespace LayerPress

/-! ## Entries in another order -/

namespace ArchiveEntry

variable {entries entries' : List ArchiveEntry} {target : Path} {x : Position}

/-- Entries in another order are accepted in another order. -/
theorem accepted_perm (h : entries.Perm entries') : (accepted entries).Perm (accepted entries') :=
  h.filter _

/-- Entries in another order lead through the same folders. -/
theorem mem_requiredFolders_perm (h : entries.Perm entries') :
    x ∈ requiredFolders entries ↔ x ∈ requiredFolders entries' := by
  rw [requiredFolders, requiredFolders, List.mem_cons, List.mem_cons,
    ((accepted_perm h).flatMap_right folders).mem_iff]

/-- Entries in another order can be extracted too, if none lacks a folder. -/
theorem Extractable.perm (h : Extractable target entries) (hperm : entries.Perm entries')
    (hbased : Based entries') : Extractable target entries' where
  readable e he := h.readable e (hperm.mem_iff.mpr he)
  intact e he := h.intact e ((accepted_perm hperm).mem_iff.mpr he)
  fits e he := h.fits e ((accepted_perm hperm).mem_iff.mpr he)
  clear e he hfile hx :=
    h.clear e ((accepted_perm hperm).mem_iff.mpr he) hfile ((mem_requiredFolders_perm hperm).mpr hx)
  based := hbased

/-- Entries in another order are files at the same positions. -/
theorem lastFile?_eq_none_perm (h : entries.Perm entries') :
    lastFile? entries x = none ↔ lastFile? entries' x = none := by
  simp only [lastFile?_eq_none_iff, (accepted_perm h).mem_iff]

end ArchiveEntry

/-! ## Trees with the same names -/

namespace Listing

variable {l l' : Listing} {entries entries' : List ArchiveEntry} {x : Position}

/-- A tree has what entries call for. -/
def Unpacks (entries : List ArchiveEntry) (l : Listing) : Prop :=
  ∀ x, (l.get? x).map Entry.content? = ArchiveEntry.seenAt entries x

/-- The folders are those that the entries lead through. -/
theorem Unpacks.folder_iff (h : l.Unpacks entries) :
    (∃ inside, l.get? x = some (.folder inside)) ↔ x ∈ ArchiveEntry.requiredFolders entries := by
  rw [← ArchiveEntry.seenAt_eq_folder, ← h x, Entry.map_content?_eq_folder]

/-- The files are those of the entries. -/
theorem Unpacks.file_iff (h : l.Unpacks entries) (hclear : ArchiveEntry.Clear entries) :
    (∃ c, l.get? x = some (.file c)) ↔ ArchiveEntry.lastFile? entries x ≠ none := by
  simp only [← Entry.map_content?_eq_file, h x, hclear.exists_seenAt_eq_file]

/-- Two trees have the same folders and the same files, whatever these hold. -/
def SameNames (l l' : Listing) : Prop :=
  ∀ x,
    ((∃ inside, l.get? x = some (.folder inside)) ↔ ∃ inside, l'.get? x = some (.folder inside)) ∧
    ((∃ c, l.get? x = some (.file c)) ↔ ∃ c, l'.get? x = some (.file c))

/-- Entries in another order unpack to the same names. -/
theorem Unpacks.sameNames (h : l.Unpacks entries) (h' : l'.Unpacks entries')
    (hperm : entries.Perm entries') (hclear : ArchiveEntry.Clear entries)
    (hclear' : ArchiveEntry.Clear entries') : l.SameNames l' := by
  intro x
  rw [h.folder_iff, h'.folder_iff, h.file_iff hclear, h'.file_iff hclear']
  exact ⟨ArchiveEntry.mem_requiredFolders_perm hperm,
    not_congr (ArchiveEntry.lastFile?_eq_none_perm hperm)⟩

/-- Trees with the same names have the same shapefile. -/
theorem SameNames.shapefile?_eq (h : l.SameNames l') (htree : l.IsTree) (htree' : l'.IsTree) :
    l'.shapefile? = l.shapefile? :=
  htree.shapefile?_congr htree' fun x =>
    ⟨fun he => ⟨(h x).2.mpr he.file, he.seen, he.shapefile⟩,
      fun he => ⟨(h x).2.mp he.file, he.seen, he.shapefile⟩⟩

end Listing

/-! ## Disks that are alike -/

/-- The names in a folder; a file has none. -/
def Entry.outline : Entry → Option (List FileName)
  | .file _ => none
  | .folder inside => some inside.names

namespace Disk

variable {d d' made : Disk} {root target p q : Path} {place pos : Position} {inside : Listing}

/-- Two disks have the same files and folders, whatever the files hold. -/
structure Alike (d d' : Disk) : Prop where
  working : d'.working = d.working
  outline : ∀ pos, (d'.root.get? pos).map Entry.outline = (d.root.get? pos).map Entry.outline

namespace Alike

/-- What is alike is so both ways. -/
theorem symm (h : d.Alike d') : d'.Alike d where
  working := h.working.symm
  outline pos := (h.outline pos).symm

/-- The folders have the same names. -/
theorem exists_folder (h : d.Alike d') (hget : d.root.get? pos = some (.folder inside)) :
    ∃ inside', d'.root.get? pos = some (.folder inside') ∧ inside'.names = inside.names := by
  have houtline := h.outline pos
  rw [hget] at houtline
  obtain ⟨e, he, hsame⟩ := Option.map_eq_some_iff.mp houtline
  cases e with
  | file c => cases hsame
  | folder inside' => exact ⟨inside', he, Option.some.inj hsame⟩

/-- No folder of one is missing on the other. -/
theorem hasFolder (h : d.Alike d') (hfolder : d.HasFolder pos) : d'.HasFolder pos := by
  obtain ⟨inside, hget⟩ := hfolder
  obtain ⟨inside', hget', -⟩ := h.exists_folder hget
  exact ⟨inside', hget'⟩

/-- A path starts at the same position. -/
theorem start_eq (h : d.Alike d') (p : Path) : d'.start p = d.start p := by
  rw [start, start, h.working]

/-- A folder is located where it is on the other. -/
theorem locate_folder (h : d.Alike d') (hlocated : d.locate p = .ok (place, .folder inside)) :
    ∃ inside', d'.locate p = .ok (place, .folder inside') ∧ inside'.names = inside.names := by
  obtain ⟨hcheck, hwalk, hget⟩ := locate_eq_ok.mp hlocated
  obtain ⟨inside', hget', hnames⟩ := h.exists_folder hget
  refine ⟨inside', locate_eq_ok.mpr ⟨hcheck, ?_, hget'⟩, hnames⟩
  rw [h.start_eq]
  exact walk_mono (fun _ => h.hasFolder) hwalk

/-- A folder that can be made can be made on the other. -/
theorem exists_makeFolder (h : d.Alike d') (hmade : d.makeFolder p = .ok made) :
    ∃ made', d'.makeFolder p = .ok made' := by
  obtain ⟨⟨hgiven, htakes, hopens, -⟩, hnone⟩ := canAdd_of_makeFolder hmade
  have hopens' : d'.Opens (d'.start p) p.steps.dropLast := by
    rw [h.start_eq]
    exact fun x hx => h.hasFolder (hopens x hx)
  have hnone' : d'.view (Path.follow (d'.start p) p.steps) = none := by
    have houtline := h.outline (Path.follow (d.start p) p.steps)
    rw [view_eq_none.mp hnone] at houtline
    rw [h.start_eq]
    exact view_eq_none.mpr (Option.map_eq_none_iff.mp houtline)
  obtain ⟨made', hmade', -⟩ := Disk.exists_makeFolder htakes hgiven hopens' hnone'
  exact ⟨made', hmade'⟩

/-- A scratch folder is made under the same name. -/
theorem exists_makeScratch (h : d.Alike d') (hmade : d.makeScratch root = .ok (target, made)) :
    ∃ made', d'.makeScratch root = .ok (target, made') := by
  obtain ⟨⟨place, e⟩, hlocated, hrest⟩ := bind_eq_ok.mp hmade
  cases e with
  | file c => cases hrest
  | folder inside =>
    obtain ⟨after, hafter, hanswer⟩ := bind_eq_ok.mp hrest
    cases hanswer
    obtain ⟨inside', hlocated', hnames⟩ := h.locate_folder hlocated
    obtain ⟨after', hafter'⟩ := h.exists_makeFolder hafter
    have hfresh : freshName inside' = freshName inside := by
      rw [freshName, freshName, Listing.size, Listing.size, hnames]
    refine ⟨after', bind_eq_ok.mpr ⟨(place, .folder inside'), hlocated', ?_⟩⟩
    rw [← hfresh] at hafter'
    exact bind_eq_ok.mpr ⟨after', hafter', by rw [hfresh]; rfl⟩

end Alike

/-! ## Resolving -/

section
variable {stored stored' : List ArchiveEntry}

/-- An archive is only resolved if its entries can be extracted, and then to the first shapefile of
the tree that they unpack to, if this has one. -/
theorem resolve_spec (hformat : SourceFormat.ofPath p = .shapefileArchive)
    (hfile : d.locate p = .ok (pos, .file (.archive stored)))
    (hscratch : d.makeScratch root = .ok (target, made)) :
    (∀ r, (d.resolve root p).1 = .ok r →
        ArchiveEntry.Extractable target (mergeEntries stored)) ∧
      (ArchiveEntry.Extractable target (mergeEntries stored) →
        ∃ (place : Position) (tree : Listing) (after : Disk),
          tree.IsTree ∧ tree.Unpacks (mergeEntries stored) ∧
            after.locate target = .ok (place, .folder tree) ∧
            d.resolve root p = match tree.shapefile? with
              | some x => (.ok ⟨.shapefileArchive, target.below x, some target⟩, after)
              | none => (.error .noShapefile, after.discard target)) := by
  rw [resolve_of_makeScratch hformat hscratch]
  obtain ⟨place, inside, n, hoffers, rfl, rfl⟩ := offers_of_makeScratch hscratch
  have hopen : (d.withScratch place inside n .empty).openArchive p = .ok (mergeEntries stored) := by
    rw [openArchive, hoffers.locate_file .empty hfile]
  obtain ⟨hanswer, hshows⟩ := extractArchive_spec (hoffers.locate_scratch .empty) hopen
  obtain ⟨tree, hfits, htree⟩ := hoffers.extractArchive p
  have hlocated := hoffers.locate_scratch tree
  generalize (d.withScratch place inside n .empty).extractArchive p _ = run
    at hanswer hshows htree ⊢
  obtain ⟨answer, after⟩ := run
  obtain rfl : after = _ := htree
  constructor
  · intro r hr
    cases answer with
    | error f => cases hr
    | ok _ => exact hanswer.mp rfl
  · intro hall
    obtain rfl : answer = .ok () := hanswer.mpr hall
    obtain ⟨-, -, hget⟩ := locate_eq_ok.mp hlocated
    refine ⟨_, tree, _, hfits.isTree, (hshows hall).map_get? hget, hlocated, ?_⟩
    simp only [findShapefile, hlocated]
    cases tree.shapefile? <;> rfl

/-- What an archive is resolved to is the first shapefile of the tree that its entries unpack to. -/
theorem exists_of_resolve (hformat : SourceFormat.ofPath p = .shapefileArchive)
    (hfile : d.locate p = .ok (pos, .file (.archive stored)))
    (hscratch : d.makeScratch root = .ok (target, made)) {r : ResolvedSource}
    (hresolved : (d.resolve root p).1 = .ok r) :
    ArchiveEntry.Extractable target (mergeEntries stored) ∧
      ∃ (place : Position) (tree : Listing) (x : Position),
        tree.IsTree ∧ tree.Unpacks (mergeEntries stored) ∧ tree.shapefile? = some x ∧
          (d.resolve root p).2.locate target = .ok (place, .folder tree) ∧
          r = ⟨.shapefileArchive, target.below x, some target⟩ := by
  obtain ⟨hneeds, hmakes⟩ := resolve_spec hformat hfile hscratch
  have hall := hneeds r hresolved
  obtain ⟨place, tree, after, htree, hunpacks, hlocated, hresolve⟩ := hmakes hall
  rw [hresolve] at hresolved ⊢
  cases hfirst : tree.shapefile? with
  | none =>
    rw [hfirst] at hresolved
    cases hresolved
  | some x =>
    rw [hfirst] at hresolved
    cases hresolved
    exact ⟨hall, place, tree, x, htree, hunpacks, hfirst, hlocated, rfl⟩

/-- What is resolved on one disk is resolved on the other, with the entries in another order, unless
one lacks a folder there. -/
theorem resolve_other {pos' : Position} (halike : d.Alike d')
    (hformat : SourceFormat.ofPath p = .shapefileArchive)
    (hfile : d.locate p = .ok (pos, .file (.archive stored)))
    (hfile' : d'.locate p = .ok (pos', .file (.archive stored')))
    (hnames : (stored.map (·.name)).Nodup) (hperm : stored.Perm stored') {r : ResolvedSource}
    (hresolved : (d.resolve root p).1 = .ok r) :
    ((∃ r', (d'.resolve root p).1 = .ok r') ↔ ArchiveEntry.Based stored') ∧
      ∀ r', (d'.resolve root p).1 = .ok r' → r' = r ∧
        ∃ (target : Path) (place place' : Position) (tree tree' : Listing),
          r.scratch = some target ∧ (∃ rel, r.path = target.below rel) ∧
          (d.resolve root p).2.locate target = .ok (place, .folder tree) ∧
          (d'.resolve root p).2.locate target = .ok (place', .folder tree') ∧
          tree.SameNames tree' := by
  have hnames' : (stored'.map (·.name)).Nodup := (hperm.map _).nodup_iff.mp hnames
  cases hscratch : d.makeScratch root with
  | error f =>
    simp [resolve, hformat, hscratch, SourceFormat.isVector] at hresolved
  | ok scratch =>
    obtain ⟨target, made⟩ := scratch
    obtain ⟨made', hscratch'⟩ := halike.exists_makeScratch hscratch
    obtain ⟨hall, place, tree, x, htree, hunpacks, hfirst, hlocated, rfl⟩ :=
      exists_of_resolve hformat hfile hscratch hresolved
    rw [ArchiveEntry.mergeEntries_of_nodup hnames] at hall hunpacks
    have hother : ∀ tree' : Listing, tree'.IsTree → tree'.Unpacks stored' →
        ArchiveEntry.Clear stored' → tree.SameNames tree' ∧ tree'.shapefile? = some x := by
      intro tree' htree' hunpacks' hclear'
      have hsame := hunpacks.sameNames hunpacks' hperm hall.clear hclear'
      exact ⟨hsame, (hsame.shapefile?_eq htree htree').trans hfirst⟩
    refine ⟨⟨?_, fun hbased => ?_⟩, fun r' hr' => ?_⟩
    · rintro ⟨r', hr'⟩
      obtain ⟨hall', -⟩ := exists_of_resolve hformat hfile' hscratch' hr'
      rw [ArchiveEntry.mergeEntries_of_nodup hnames'] at hall'
      exact hall'.based
    · have hmakes' := (resolve_spec hformat hfile' hscratch').2
      rw [ArchiveEntry.mergeEntries_of_nodup hnames'] at hmakes'
      have hall' := hall.perm hperm hbased
      obtain ⟨-, tree', after', htree', hunpacks', -, hresolve'⟩ := hmakes' hall'
      obtain ⟨-, hfirst'⟩ := hother tree' htree' hunpacks' hall'.clear
      rw [hfirst'] at hresolve'
      exact ⟨_, by rw [hresolve']⟩
    · obtain ⟨hall', place', tree', x', htree', hunpacks', hfirst', hlocated', rfl⟩ :=
        exists_of_resolve hformat hfile' hscratch' hr'
      rw [ArchiveEntry.mergeEntries_of_nodup hnames'] at hall' hunpacks'
      obtain ⟨hsame, hfound⟩ := hother tree' htree' hunpacks' hall'.clear
      obtain rfl := Option.some.inj (hfound.symm.trans hfirst')
      exact ⟨rfl, target, place, place', tree, tree', rfl, ⟨x, rfl⟩, hlocated, hlocated', hsame⟩

/-- On disks that are alike but for an archive, whose entries have names of their own and are in
another order on one, the archive is resolved on the one if it is on the other, unless an entry
lacks a folder there. It is resolved alike: to the same path below a scratch folder of the same name,
in which are the same folders and files. -/
theorem resolve_perm {pos' : Position} (root : Path) (halike : d.Alike d')
    (hformat : SourceFormat.ofPath p = .shapefileArchive)
    (hfile : d.locate p = .ok (pos, .file (.archive stored)))
    (hfile' : d'.locate p = .ok (pos', .file (.archive stored')))
    (hnames : (stored.map (·.name)).Nodup) (hperm : stored.Perm stored') :
    ((∃ r, (d.resolve root p).1 = .ok r) →
        ((∃ r', (d'.resolve root p).1 = .ok r') ↔ ArchiveEntry.Based stored')) ∧
      ((∃ r', (d'.resolve root p).1 = .ok r') →
        ((∃ r, (d.resolve root p).1 = .ok r) ↔ ArchiveEntry.Based stored)) ∧
      ∀ r r', (d.resolve root p).1 = .ok r → (d'.resolve root p).1 = .ok r' → r' = r ∧
        ∃ (target : Path) (place place' : Position) (tree tree' : Listing),
          r.scratch = some target ∧ (∃ rel, r.path = target.below rel) ∧
          (d.resolve root p).2.locate target = .ok (place, .folder tree) ∧
          (d'.resolve root p).2.locate target = .ok (place', .folder tree') ∧
          tree.SameNames tree' := by
  have hnames' : (stored'.map (·.name)).Nodup := (hperm.map _).nodup_iff.mp hnames
  refine ⟨?_, ?_, fun r r' hr => ?_⟩
  · rintro ⟨r, hr⟩
    exact (resolve_other halike hformat hfile hfile' hnames hperm hr).1
  · rintro ⟨r', hr'⟩
    exact (resolve_other halike.symm hformat hfile' hfile hnames' hperm.symm hr').1
  · exact (resolve_other halike hformat hfile hfile' hnames hperm hr).2 r'

end

/-- Two disks with an archive each are alike. -/
theorem alike_packed (entries entries' : List ArchiveEntry) :
    (packed entries).Alike (packed entries') where
  working := rfl
  outline pos := by
    cases pos with
    | nil => rfl
    | cons n rest =>
      simp only [Listing.get?_cons, packed, Listing.find?]
      split
      · cases rest <;> rfl
      · rfl

/-- A shapefile, its folder named with a single dot after it, and a shapefile by way of another
folder. -/
def sortedEntries : List ArchiveEntry :=
  [.whole 8 "a/b.shp" [1], .whole 0 "a/./" [], .whole 14 "c/../d.shp" [2]]

/-- With the last entry moved to the front the archive is resolved to the same file. -/
theorem resolve_perm_rotated :
    (sortedEntries.map (·.name)).Nodup ∧ sortedEntries.Perm (sortedEntries.rotate 2) ∧
      ArchiveEntry.Based (sortedEntries.rotate 2) ∧
      ((packed (sortedEntries.rotate 2)).resolve (Path.ofText "/scratch")
        (Path.ofText "/a.zip")).1 = .ok ⟨.shapefileArchive,
          Path.ofText "/scratch/layer-import-0/d.shp",
          some (Path.ofText "/scratch/layer-import-0")⟩ ∧
      ∃ (place place' : Position) (tree tree' : Listing),
        ((packed sortedEntries).resolve (Path.ofText "/scratch") (Path.ofText "/a.zip")).2.locate
          (Path.ofText "/scratch/layer-import-0") = .ok (place, .folder tree) ∧
        ((packed (sortedEntries.rotate 2)).resolve (Path.ofText "/scratch")
          (Path.ofText "/a.zip")).2.locate (Path.ofText "/scratch/layer-import-0") =
            .ok (place', .folder tree') ∧
        tree.SameNames tree' := by
  have halike := alike_packed sortedEntries (sortedEntries.rotate 2)
  have hformat : SourceFormat.ofPath (Path.ofText "/a.zip") = .shapefileArchive := by
    decide +kernel
  have hfile : (packed sortedEntries).locate (Path.ofText "/a.zip") =
      .ok ([Text.Utf8.encode "a.zip"], .file (.archive sortedEntries)) := by
    decide +kernel
  have hfile' : (packed (sortedEntries.rotate 2)).locate (Path.ofText "/a.zip") =
      .ok ([Text.Utf8.encode "a.zip"], .file (.archive (sortedEntries.rotate 2))) := by
    decide +kernel
  have hnames : (sortedEntries.map (·.name)).Nodup := by decide +kernel
  have hperm : sortedEntries.Perm (sortedEntries.rotate 2) := by decide +kernel
  have hresolved : ((packed sortedEntries).resolve (Path.ofText "/scratch")
      (Path.ofText "/a.zip")).1 = .ok ⟨.shapefileArchive,
        Path.ofText "/scratch/layer-import-0/d.shp",
        some (Path.ofText "/scratch/layer-import-0")⟩ := by
    decide +kernel
  have hresolved' : ((packed (sortedEntries.rotate 2)).resolve (Path.ofText "/scratch")
      (Path.ofText "/a.zip")).1 = .ok ⟨.shapefileArchive,
        Path.ofText "/scratch/layer-import-0/d.shp",
        some (Path.ofText "/scratch/layer-import-0")⟩ := by
    decide +kernel
  obtain ⟨hiff, -, hsame⟩ := resolve_perm (Path.ofText "/scratch") halike hformat hfile hfile'
    hnames hperm
  obtain ⟨-, target, place, place', tree, tree', hscratch, -, hlocated, hlocated', hnames'⟩ :=
    hsame _ _ hresolved hresolved'
  obtain rfl := Option.some.inj hscratch
  exact ⟨hnames, hperm, (hiff ⟨_, hresolved⟩).mp ⟨_, hresolved'⟩, hresolved', place, place', tree,
    tree', hlocated, hlocated', hnames'⟩

/-- With its entries in the reverse order the archive is not resolved, since the folder before the
dot is not there yet. -/
theorem resolving_depends_on_order :
    (sortedEntries.map (·.name)).Nodup ∧ sortedEntries.Perm sortedEntries.reverse ∧
      ((packed sortedEntries).resolve (Path.ofText "/scratch") (Path.ofText "/a.zip")).1 =
        .ok ⟨.shapefileArchive, Path.ofText "/scratch/layer-import-0/d.shp",
          some (Path.ofText "/scratch/layer-import-0")⟩ ∧
      ((packed sortedEntries.reverse).resolve (Path.ofText "/scratch") (Path.ofText "/a.zip")).1 =
        .error (.io .notFound) :=
  ⟨by decide +kernel, (List.reverse_perm _).symm, by decide +kernel, by decide +kernel⟩

end Disk

end LayerPress
