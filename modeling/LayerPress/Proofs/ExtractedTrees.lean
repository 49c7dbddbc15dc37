import LayerPress.Proofs.BadArchives
import LayerPress.Proofs.ExtractedEntries

/-!
# The tree that an archive unpacks to

Below the folder that an archive is extracted into stand exactly the folders that the names of its
accepted entries lead through, and the accepted files, each with the data of the last entry that has
its place. Extracting succeeds exactly if no file has the place of such a folder, whatever the order
of the entries, and if every name that ends in single dots finds the folder before them.
-/

namespace LayerPress

open LayerPress.Path (Component follow way)

/-! ## What entries call for -/

namespace ArchiveEntry

variable {e : ArchiveEntry} {entries before : List ArchiveEntry} {x : Position}

/-- The entries whose names are not refused. -/
def accepted (entries : List ArchiveEntry) : List ArchiveEntry := entries.filter (accepts ·.name)

/-- The folders that accepted entries lead through, with the root. -/
def requiredFolders (entries : List ArchiveEntry) : List Position :=
  [] :: (accepted entries).flatMap folders

/-- An accepted entry is a file at a position. -/
def isFileAt (x : Position) (e : ArchiveEntry) : Bool :=
  accepts e.name && !e.isFolder && e.position == x

/-- The last entry in archive order that is a file at a position. -/
def lastFile? (entries : List ArchiveEntry) (x : Position) : Option ArchiveEntry :=
  entries.reverse.find? (isFileAt x)

/-- No accepted file has the position of a folder that accepted entries lead through. -/
def Clear (entries : List ArchiveEntry) : Prop :=
  ∀ e ∈ accepted entries, e.isFolder = false → e.position ∉ requiredFolders entries

/-- What entries are clear can be decided. -/
instance decidableClear (entries : List ArchiveEntry) : Decidable (Clear entries) :=
  inferInstanceAs (Decidable (∀ e ∈ accepted entries, _ → _))

/-- The name of an accepted folder ends in single dots after a name, but the folder of this name is
not among those that it leads through before, nor among those of the entries before it. -/
def LacksFolder (before : List ArchiveEntry) (e : ArchiveEntry) : Prop :=
  accepts e.name = true ∧ e.isFolder = true ∧ ∃ init n, Path.DotsAfter init n e.steps ∧
    follow [] (init ++ [.name n]) ∉ way [] init ∧
    follow [] (init ++ [.name n]) ∉ requiredFolders before

/-- No entry lacks a folder after those before it. -/
def Based (entries : List ArchiveEntry) : Prop :=
  ∀ before e, before ++ [e] <+: entries → ¬LacksFolder before e

/-- Entries that can be extracted one after another. -/
structure Extractable (target : Path) (entries : List ArchiveEntry) : Prop where
  readable : ∀ e ∈ entries, e.fault? = none
  intact : ∀ e ∈ accepted entries, e.isFolder = false → e.checksumHolds = true
  fits : ∀ e ∈ accepted entries, e.FitsBelow target
  clear : Clear entries
  based : Based entries

/-- What is seen at a position when entries have been extracted. -/
def seenAt (entries : List ArchiveEntry) (x : Position) : Option (Option Content) :=
  if x ∈ requiredFolders entries then some none
  else (lastFile? entries x).map fun e => some (.bytes e.data)

/-- An entry is a file at its own position alone. -/
theorem isFileAt_iff : isFileAt x e = true ↔
    accepts e.name = true ∧ e.isFolder = false ∧ e.position = x := by
  rw [isFileAt, Bool.and_eq_true, Bool.and_eq_true, Bool.not_eq_true', beq_iff_eq, and_assoc]

/-- Of accepted entries the last is accepted if its name is. -/
theorem accepted_concat (before : List ArchiveEntry) (e : ArchiveEntry) :
    accepted (before ++ [e]) = accepted before ++ if accepts e.name then [e] else [] := by
  rw [accepted, accepted, List.filter_append]
  cases haccepts : accepts e.name <;> simp [haccepts]

/-- The last entry leads through folders as those before it do. -/
theorem mem_requiredFolders_concat : x ∈ requiredFolders (before ++ [e]) ↔
    x ∈ requiredFolders before ∨ accepts e.name = true ∧ x ∈ e.folders := by
  rw [requiredFolders, requiredFolders, accepted_concat, List.flatMap_append]
  cases accepts e.name <;> simp [or_assoc]

/-- The last entry is the last file at its position. -/
theorem lastFile?_concat (before : List ArchiveEntry) (e : ArchiveEntry) (x : Position) :
    lastFile? (before ++ [e]) x = if isFileAt x e then some e else lastFile? before x := by
  rw [lastFile?, List.reverse_concat, List.find?_cons]
  cases isFileAt x e <;> rfl

/-- The last file at a position is one of the accepted files there. -/
theorem lastFile?_eq_none_iff :
    lastFile? entries x = none ↔ ∀ e ∈ accepted entries, e.isFolder = false → e.position ≠ x := by
  rw [lastFile?, List.find?_eq_none]
  simp only [List.mem_reverse, isFileAt_iff, accepted, List.mem_filter, not_and, and_imp]

/-- Entries are clear after another one if they are so before it, none is a file on the way of the
last, and the last is no file where a folder is. -/
theorem clear_concat : Clear (before ++ [e]) ↔ Clear before ∧ (accepts e.name = true →
    (∀ x ∈ e.folders, lastFile? before x = none) ∧
      (e.isFolder = false → e.position ∉ e.folders ∧ e.position ∉ requiredFolders before)) := by
  simp only [Clear, accepted_concat, mem_requiredFolders_concat, lastFile?_eq_none_iff, not_or,
    not_and]
  cases accepts e.name with
  | false => simp
  | true =>
    simp only [if_true, List.forall_mem_append, List.forall_mem_singleton, true_implies]
    constructor
    · rintro ⟨hbefore, hlast⟩
      exact ⟨fun f hf hfile => (hbefore f hf hfile).1,
        fun x hx f hf hfile heq => (hbefore f hf hfile).2 (heq ▸ hx),
        fun hfile => (hlast hfile).symm⟩
    · rintro ⟨hbefore, hway, hlast⟩
      exact ⟨fun f hf hfile => ⟨hbefore f hf hfile, fun hx => hway _ hx f hf hfile rfl⟩,
        fun hfile => (hlast hfile).symm⟩

/-- After another entry none lacks a folder if none did before, and the last does not. -/
theorem based_concat : Based (before ++ [e]) ↔ Based before ∧ ¬LacksFolder before e := by
  constructor
  · intro h
    exact ⟨fun first f hf => h first f (hf.trans (List.prefix_append _ _)),
      h before e List.prefix_rfl⟩
  · rintro ⟨hbefore, hlast⟩ first f hf
    rcases List.prefix_concat_iff.mp hf with heq | hf
    · obtain ⟨rfl, hsame⟩ := List.append_inj' heq rfl
      obtain rfl := List.singleton_inj.mp hsame
      exact hlast
    · exact hbefore first f hf

/-- Where a folder is required of clear entries there is no file. -/
theorem Clear.lastFile?_eq_none (h : Clear entries) (hx : x ∈ requiredFolders entries) :
    lastFile? entries x = none :=
  lastFile?_eq_none_iff.mpr fun e he hfile heq => h e he hfile (heq ▸ hx)

/-- A folder is seen exactly where one is required. -/
theorem seenAt_eq_folder : seenAt entries x = some none ↔ x ∈ requiredFolders entries := by
  rw [seenAt]
  split
  · next hx => exact iff_of_true rfl hx
  · next hx => simp [hx]

/-- Of clear entries a file is seen exactly where the last is, with its data. -/
theorem Clear.seenAt_eq_file (h : Clear entries) {content : Content} :
    seenAt entries x = some (some content) ↔
      ∃ e, lastFile? entries x = some e ∧ content = .bytes e.data := by
  rw [seenAt]
  split
  · next hx => simp [h.lastFile?_eq_none hx]
  · rw [Option.map_eq_some_iff]
    refine exists_congr fun e => and_congr_right fun _ => ?_
    rw [Option.some_inj, eq_comm]

/-- Of clear entries some file is seen exactly where one of them is. -/
theorem Clear.exists_seenAt_eq_file (h : Clear entries) :
    (∃ content, seenAt entries x = some (some content)) ↔ lastFile? entries x ≠ none := by
  simp only [h.seenAt_eq_file, Option.ne_none_iff_exists']
  constructor
  · rintro ⟨content, e, he, -⟩
    exact ⟨e, he⟩
  · rintro ⟨e, he⟩
    exact ⟨_, e, he, rfl⟩

/-- Entries can be extracted after another one if this can be read and, if its name is accepted,
fits in with those before it. -/
theorem extractable_concat {target : Path} : Extractable target (before ++ [e]) ↔
    Extractable target before ∧ e.fault? = none ∧ (accepts e.name = true →
      e.FitsBelow target ∧ (e.isFolder = false → e.checksumHolds = true) ∧
        Clear (before ++ [e]) ∧ ¬LacksFolder before e) := by
  constructor
  · rintro ⟨hreadable, hintact, hfits, hclear, hbased⟩
    rw [List.forall_mem_append, List.forall_mem_singleton] at hreadable
    rw [accepted_concat, List.forall_mem_append] at hintact hfits
    obtain ⟨hbased, hlast⟩ := based_concat.mp hbased
    refine ⟨⟨hreadable.1, hintact.1, hfits.1, (clear_concat.mp hclear).1, hbased⟩, hreadable.2,
      fun haccepts => ?_⟩
    rw [haccepts, if_pos rfl, List.forall_mem_singleton] at hintact hfits
    exact ⟨hfits.2, hintact.2, hclear, hlast⟩
  · rintro ⟨⟨hreadable, hintact, hfits, hclear, hbased⟩, hlast, hrest⟩
    refine ⟨?_, ?_, ?_, ?_, based_concat.mpr ⟨hbased, fun hlacks => ?_⟩⟩
    · rw [List.forall_mem_append, List.forall_mem_singleton]
      exact ⟨hreadable, hlast⟩
    · rw [accepted_concat, List.forall_mem_append]
      refine ⟨hintact, ?_⟩
      split
      · next haccepts => exact List.forall_mem_singleton.mpr (hrest haccepts).2.1
      · simp
    · rw [accepted_concat, List.forall_mem_append]
      refine ⟨hfits, ?_⟩
      split
      · next haccepts => exact List.forall_mem_singleton.mpr (hrest haccepts).1
      · simp
    · exact clear_concat.mpr ⟨hclear, fun haccepts =>
        (clear_concat.mp (hrest haccepts).2.2.1).2 haccepts⟩
    · exact (hrest hlacks.1).2.2.2 hlacks

/-- Entries with names of their own are not merged. -/
theorem mergeEntries_of_nodup (h : (entries.map (·.name)).Nodup) :
    mergeEntries entries = entries := by
  induction entries using List.reverseRecOn with
  | nil => rfl
  | append_singleton before e ih =>
    rw [List.map_append, List.map_singleton, List.nodup_append] at h
    have hnew : before.any (·.name == e.name) = false := by
      rw [List.any_eq_false]
      intro f hf heq
      exact h.2.2 f.name (List.mem_map_of_mem hf) e.name (List.mem_singleton_self _) (eq_of_beq heq)
    have hbefore := ih h.1
    rw [mergeEntries] at hbefore ⊢
    rw [List.foldl_append, hbefore, List.foldl_cons, List.foldl_nil, hnew,
      if_neg Bool.false_ne_true]

end ArchiveEntry

/-! ## Extracting entries -/

namespace Disk

open ArchiveEntry (Clear Based Extractable LacksFolder accepted requiredFolders lastFile? seenAt)

variable {d d' : Disk} {target : Path} {place : Position} {e : ArchiveEntry}
  {entries before : List ArchiveEntry} {x : Position}

/-- Below a place of a disk is seen what entries call for. -/
def Shows (d : Disk) (place : Position) (entries : List ArchiveEntry) : Prop :=
  ∀ x, d.view (place ++ x) = seenAt entries x

/-- The folders are those that are required. -/
theorem Shows.hasFolder (h : d.Shows place entries) :
    d.HasFolder (place ++ x) ↔ x ∈ requiredFolders entries := by
  rw [← view_eq_folder, h x, ArchiveEntry.seenAt_eq_folder]

/-- The files are those of the entries. -/
theorem Shows.hasFile (h : d.Shows place entries) (hclear : Clear entries) :
    d.HasFile (place ++ x) ↔ lastFile? entries x ≠ none := by
  rw [HasFile, h x, hclear.exists_seenAt_eq_file]

/-- A folder is lacking on the disk exactly if it is after the entries. -/
theorem Shows.lacks (h : d.Shows place before) (haccepts : ArchiveEntry.accepts e.name = true)
    (hfolder : e.isFolder = true) : d.Lacks place e.steps ↔ LacksFolder before e := by
  have hdepth := ArchiveEntry.isSome_depth haccepts
  rw [LacksFolder, and_iff_right haccepts, and_iff_right hfolder, Lacks]
  refine exists_congr fun init => exists_congr fun n => and_congr_right fun hdots => ?_
  have hname : init ++ [.name n] <+: e.steps := hdots.isPrefix.trans (List.dropLast_prefix _)
  have hfollow : follow (place ++ []) (init ++ [.name n]) =
      place ++ follow [] (init ++ [.name n]) :=
    Path.follow_below place (ArchiveEntry.isSome_depthAfter?_of_prefix hname hdepth)
  have hway : follow (place ++ []) (init ++ [.name n]) ∈ way (place ++ []) init ↔ _ :=
    Path.mem_way_below place (ArchiveEntry.isSome_depthAfter?_of_prefix
      ((List.prefix_append _ _).trans hname) hdepth)
  rw [hfollow] at hway
  rw [List.append_nil] at hfollow hway
  rw [hfollow, h.hasFolder, hway]
  simp

/-- An entry can be extracted after others exactly if it fits in with them. -/
theorem Shows.admits (h : d.Shows place before) (hclear : Clear before)
    (haccepts : ArchiveEntry.accepts e.name = true) (target : Path) :
    d.Admits target place e ↔ e.fault? = none ∧ e.FitsBelow target ∧
      (e.isFolder = false → e.checksumHolds = true) ∧ Clear (before ++ [e]) ∧
        ¬LacksFolder before e := by
  rw [ArchiveEntry.clear_concat, and_iff_right hclear, imp_iff_right haccepts]
  constructor
  · rintro ⟨hreadable, hfits, hfree, hbased, hvacant, hintact⟩
    refine ⟨hreadable, hfits, hintact, ⟨fun x hx => ?_, fun hfile => ?_⟩, fun hlacks => ?_⟩
    · exact Decidable.not_not.mp fun hnot => hfree x hx ((h.hasFile hclear).mpr hnot)
    · exact ⟨(hvacant hfile).1, fun hthere => (hvacant hfile).2 (h.hasFolder.mpr hthere)⟩
    · exact hbased hlacks.2.1 ((h.lacks haccepts hlacks.2.1).mpr hlacks)
  · rintro ⟨hreadable, hfits, hintact, ⟨hfree, hvacant⟩, hbased⟩
    exact {
      readable := hreadable
      fits := hfits
      free := fun x hx hfile => (h.hasFile hclear).mp hfile (hfree x hx)
      based := fun hfolder hlacks => hbased ((h.lacks haccepts hfolder).mp hlacks)
      vacant := fun hfile =>
        ⟨(hvacant hfile).1, fun hthere => (hvacant hfile).2 (h.hasFolder.mp hthere)⟩
      intact := hintact }

/-- With an entry that is extracted it is seen what it calls for too. -/
theorem Shows.concat (h : d.Shows place before) (haccepts : ArchiveEntry.accepts e.name = true)
    (hclear : Clear (before ++ [e])) (hafter : d.Receives place e d') :
    d'.Shows place (before ++ [e]) := by
  intro x
  have hmem : x ∈ requiredFolders (before ++ [e]) ↔ x ∈ requiredFolders before ∨ x ∈ e.folders := by
    rw [ArchiveEntry.mem_requiredFolders_concat, and_iff_right haccepts]
  rw [hafter.view, h x, seenAt, seenAt, ArchiveEntry.lastFile?_concat]
  by_cases hway : x ∈ e.folders
  · rw [if_pos hway, if_pos (hmem.mpr (.inr hway))]
  rw [if_neg hway]
  by_cases hfile : e.isFolder = false ∧ x = e.position
  · -- The file takes the place of those before it, and no folder has it.
    have hnew := (((ArchiveEntry.clear_concat.mp hclear).2 haccepts).2 hfile.1).2
    rw [← hfile.2] at hnew
    rw [if_pos hfile, if_neg fun hx => (hmem.mp hx).elim hnew hway,
      if_pos (ArchiveEntry.isFileAt_iff.mpr ⟨haccepts, hfile.1, hfile.2.symm⟩)]
    rfl
  · have hother : ¬ArchiveEntry.isFileAt x e = true := fun hat =>
      hfile ⟨(ArchiveEntry.isFileAt_iff.mp hat).2.1, (ArchiveEntry.isFileAt_iff.mp hat).2.2.symm⟩
    rw [if_neg hfile, if_neg hother]
    simp only [hmem, hway, or_false]

/-- After an entry with a refused name it is seen what was seen. -/
theorem Shows.concat_refused (h : d.Shows place before)
    (haccepts : ArchiveEntry.accepts e.name = false) : d.Shows place (before ++ [e]) := by
  intro x
  have hmem : x ∈ requiredFolders (before ++ [e]) ↔ x ∈ requiredFolders before := by
    simp [ArchiveEntry.mem_requiredFolders_concat, haccepts]
  have hother : ¬ArchiveEntry.isFileAt x e = true := fun hat => by
    rw [(ArchiveEntry.isFileAt_iff.mp hat).1] at haccepts
    cases haccepts
  rw [h x, seenAt, seenAt, ArchiveEntry.lastFile?_concat, if_neg hother]
  simp only [hmem]

/-- One entry is extracted by itself. -/
theorem extractEntries_singleton (d : Disk) (target : Path) (e : ArchiveEntry) :
    d.extractEntries target [e] = d.extractEntry target e := by
  rw [extractEntries]
  obtain ⟨_ | _, after⟩ := d.extractEntry target e <;> rfl

/-- Into an empty folder entries are extracted exactly if they can be, and then it is seen what they
call for. -/
theorem IsAt.extractEntries_spec (h : d.IsAt target place) (hclean : 0 ∉ target.bytes)
    (hempty : d.Shows place []) (entries : List ArchiveEntry) :
    ((d.extractEntries target entries).1 = .ok () ↔ Extractable target entries) ∧
      (Extractable target entries → (d.extractEntries target entries).2.Shows place entries) := by
  induction entries using List.reverseRecOn with
  | nil =>
    refine ⟨iff_of_true rfl ⟨nofun, nofun, nofun, nofun, ?_⟩, fun _ => hempty⟩
    intro before e hprefix
    simp at hprefix
  | append_singleton before e ih =>
    obtain ⟨hanswer, hshows⟩ := ih
    have hat := (h.fills_extractEntries before).isAt h
    rw [extractEntries_append, ArchiveEntry.extractable_concat]
    generalize d.extractEntries target before = extracted at hanswer hshows hat
    obtain ⟨_ | _, made⟩ := extracted
    · have hnot : ¬Extractable target before := by
        intro hbefore
        cases hanswer.mpr hbefore
      exact ⟨iff_of_false (by simp) fun hall => hnot hall.1, fun hall => absurd hall.1 hnot⟩
    have hbefore := hanswer.mp rfl
    have hmade := hshows hbefore
    dsimp only at hat hmade ⊢
    rw [extractEntries_singleton, and_iff_right hbefore]
    cases haccepts : ArchiveEntry.accepts e.name with
    | false =>
      have hsame : (made.extractEntry target e).2 = made :=
        extractEntry_of_isRefused (ArchiveEntry.accepts_eq_false_iff.mp haccepts)
      rw [hsame]
      refine ⟨?_, fun _ => hmade.concat_refused haccepts⟩
      rw [extractEntry]
      cases e.fault? <;> simp [haccepts]
    | true =>
      have hfits := hmade.admits hbefore.clear haccepts target
      rw [imp_iff_right rfl, ← hfits]
      refine ⟨⟨hat.admits_of_extractEntry hclean haccepts,
        fun hadmits => (hat.extractEntry_of_admits hclean haccepts hadmits).1⟩, fun hadmits => ?_⟩
      exact hmade.concat haccepts (hfits.mp hadmits).2.2.2.1
        (hat.extractEntry_of_admits hclean haccepts hadmits).2

/-- In an empty folder nothing is seen but the folder. -/
theorem shows_nil (h : d.root.get? place = some (.folder .empty)) : d.Shows place [] := by
  intro x
  rw [view, Listing.get?_append_of_folder h]
  cases x with
  | nil => rfl
  | cons n rest =>
    rw [Listing.get?_cons]
    simp [Listing.find?, seenAt, requiredFolders, accepted, lastFile?]

/-- Entries that can all be read are extracted as if those with refused names were not there. -/
theorem extractEntries_accepted (hreadable : ∀ e ∈ entries, e.fault? = none) :
    d.extractEntries target (accepted entries) = d.extractEntries target entries := by
  induction entries generalizing d with
  | nil => rfl
  | cons e rest ih =>
    rw [List.forall_mem_cons] at hreadable
    rw [accepted, List.filter_cons]
    cases haccepts : ArchiveEntry.accepts e.name with
    | false =>
      have hpassed : d.extractEntry target e = (.ok (), d) := by
        rw [extractEntry, hreadable.1]
        simp [haccepts]
      rw [extractEntries, hpassed]
      exact ih hreadable.2
    | true =>
      rw [if_pos rfl, extractEntries, extractEntries]
      obtain ⟨_ | _, after⟩ := d.extractEntry target e
      · rfl
      · exact ih hreadable.2

/-- Extracting entries that can all be read fails in input and output alone. -/
theorem io_of_extractEntries (hreadable : ∀ e ∈ entries, e.fault? = none) {f : Failure}
    (h : (d.extractEntries target entries).1 = .error f) : ∃ g, f = .io g := by
  rw [← extractEntries_accepted hreadable] at h
  obtain ⟨before, e, rest, hsplit, -, hfailed⟩ := extractEntries_eq_error.mp h
  have hmem : e ∈ accepted entries := by rw [hsplit]; simp
  obtain ⟨he, haccepts⟩ := List.mem_filter.mp hmem
  exact io_of_extractEntry (hreadable e he) haccepts hfailed

/-- The folder at the place has what is seen there. -/
theorem Shows.map_get? (h : d.Shows place entries) {tree : Listing}
    (hget : d.root.get? place = some (.folder tree)) (x : Position) :
    (tree.get? x).map Entry.content? = seenAt entries x := by
  rw [← h x, view, Listing.get?_append_of_folder hget]

/-- The entries of an archive are extracted into an empty folder exactly if they can be, and then it
is seen what they call for. -/
theorem extractArchive_spec {archive : Path}
    (htarget : d.locate target = .ok (place, .folder .empty))
    (hopen : d.openArchive archive = .ok entries) :
    ((d.extractArchive archive target).1 = .ok () ↔ Extractable target entries) ∧
      (Extractable target entries → (d.extractArchive archive target).2.Shows place entries) := by
  obtain ⟨hcheck, -, hget⟩ := locate_eq_ok.mp htarget
  rw [show d.extractArchive archive target = d.extractEntries target entries by
    rw [extractArchive, hopen]]
  exact (isAt_of_locate htarget).extractEntries_spec (check_eq_ok.mp hcheck).1 (shows_nil hget)
    entries

/-- An archive of readable entries with names of their own and not too long is extracted into an
empty folder exactly if no accepted file has the position of a folder that accepted entries lead
through, and no entry lacks a folder; otherwise extracting fails in input and output. In the tree
that it makes the folders are those that are led through, and the files are the accepted ones, with
the data of the last at each position. Entries with refused names make no difference. -/
theorem extractArchive_tree {archive : Path} {pos : Position}
    (htarget : d.locate target = .ok (place, .folder .empty))
    (harchive : d.locate archive = .ok (pos, .file (.archive entries)))
    (hnames : (entries.map (·.name)).Nodup)
    (hreadable : ∀ e ∈ entries, e.fault? = none ∧ e.checksumHolds = true)
    (hfits : ∀ e ∈ accepted entries, e.FitsBelow target) :
    ((d.extractArchive archive target).1 = .ok () ↔ Clear entries ∧ Based entries) ∧
      (∀ f, (d.extractArchive archive target).1 = .error f → ∃ g, f = .io g) ∧
      ((d.extractArchive archive target).1 = .ok () → ∃ tree,
        (d.extractArchive archive target).2 = d.refill place tree ∧
          (∀ x, (∃ inside, tree.get? x = some (.folder inside)) ↔ x ∈ requiredFolders entries) ∧
          ∀ x content, tree.get? x = some (.file content) ↔
            ∃ e, lastFile? entries x = some e ∧ content = .bytes e.data) ∧
      d.extractArchive archive target = d.extractEntries target (accepted entries) := by
  have hopen : d.openArchive archive = .ok entries := by
    rw [openArchive, harchive]
    exact congrArg Except.ok (ArchiveEntry.mergeEntries_of_nodup hnames)
  have hfaults : ∀ e ∈ entries, e.fault? = none := fun e he => (hreadable e he).1
  have hextract : d.extractArchive archive target = d.extractEntries target entries := by
    rw [extractArchive, hopen]
  obtain ⟨hanswer, hshows⟩ := extractArchive_spec htarget hopen
  obtain ⟨-, -, hget⟩ := locate_eq_ok.mp htarget
  refine ⟨hanswer.trans ⟨fun h => ⟨h.clear, h.based⟩, fun h => ?_⟩, fun f hfailed => ?_,
    fun hok => ?_, ?_⟩
  · exact {
      readable := hfaults
      intact := fun e he _ => (hreadable e (List.mem_filter.mp he).1).2
      fits := hfits
      clear := h.1
      based := h.2 }
  · rw [hextract] at hfailed
    exact io_of_extractEntries hfaults hfailed
  · have hall := hanswer.mp hok
    obtain ⟨tree, htree, -⟩ :=
      ((isAt_of_locate htarget).fills_extractArchive archive).filled .empty hget
    have hthere : (d.extractArchive archive target).2.root.get? place = some (.folder tree) := by
      rw [htree]
      exact Listing.get?_refill hget tree
    have hseen := (hshows hall).map_get? hthere
    refine ⟨tree, htree, fun x => ?_, fun x content => ?_⟩
    · rw [← ArchiveEntry.seenAt_eq_folder, ← hseen, Entry.map_content?_eq_folder]
    · rw [← hall.clear.seenAt_eq_file, ← hseen, Entry.map_content?_eq_file]
  · rw [hextract, extractEntries_accepted hfaults]

/-- A folder, the same folder named with a single dot after it, a file by way of another folder, a
deflated file at the same position, and a file whose name is refused. -/
def windingEntries : List ArchiveEntry :=
  [.whole 0 "d/" [], .whole 0 "d/./" [], .whole 0 "a/../b/c.shp" [1], .whole 8 "b//c.shp" [2],
    .whole 93 "../kept" [3]]

/-- The folder that is left again is made, and the file has the data of the second. -/
theorem extractArchive_tree_winding :
    (packed windingEntries).locate (Path.ofText "/scratch") =
        .ok ([Text.Utf8.encode "scratch"], .folder .empty) ∧
      (packed windingEntries).locate (Path.ofText "/a.zip") =
        .ok ([Text.Utf8.encode "a.zip"], .file (.archive windingEntries)) ∧
      (windingEntries.map (·.name)).Nodup ∧
      (∀ e ∈ windingEntries, e.fault? = none ∧ e.checksumHolds = true) ∧
      (∀ e ∈ accepted windingEntries, e.FitsBelow (Path.ofText "/scratch")) ∧
      Clear windingEntries ∧ Based windingEntries ∧
      ∃ tree, ((packed windingEntries).extractArchive (Path.ofText "/a.zip")
          (Path.ofText "/scratch")).2 =
          (packed windingEntries).refill [Text.Utf8.encode "scratch"] tree ∧
        (∃ inside, tree.get? [Text.Utf8.encode "a"] = some (.folder inside)) ∧
        tree.get? [Text.Utf8.encode "b", Text.Utf8.encode "c.shp"] = some (.file (.bytes [2])) := by
  have htarget : (packed windingEntries).locate (Path.ofText "/scratch") =
      .ok ([Text.Utf8.encode "scratch"], .folder .empty) := by
    decide +kernel
  have harchive : (packed windingEntries).locate (Path.ofText "/a.zip") =
      .ok ([Text.Utf8.encode "a.zip"], .file (.archive windingEntries)) := by
    decide +kernel
  have hnames : (windingEntries.map (·.name)).Nodup := by decide +kernel
  have hreadable : ∀ e ∈ windingEntries, e.fault? = none ∧ e.checksumHolds = true := by
    decide +kernel
  have hfits : ∀ e ∈ accepted windingEntries, e.FitsBelow (Path.ofText "/scratch") := by
    decide +kernel
  have hok : ((packed windingEntries).extractArchive (Path.ofText "/a.zip")
      (Path.ofText "/scratch")).1 = .ok () := by
    decide +kernel
  have hlast : lastFile? windingEntries [Text.Utf8.encode "b", Text.Utf8.encode "c.shp"] =
      some (.whole 8 "b//c.shp" [2]) := by
    decide +kernel
  obtain ⟨hiff, -, hmade, -⟩ := extractArchive_tree htarget harchive hnames hreadable hfits
  obtain ⟨hclear, hbased⟩ := hiff.mp hok
  obtain ⟨tree, htree, hfolders, hfiles⟩ := hmade hok
  exact ⟨htarget, harchive, hnames, hreadable, hfits, hclear, hbased, tree, htree,
    (hfolders _).mpr (by decide +kernel), (hfiles _ _).mpr ⟨_, hlast, rfl⟩⟩

/-- A folder named with a single dot after it, and a file beside it. -/
def dottedEntries : List ArchiveEntry :=
  [.whole 0 "a/./" [], .whole 0 "b.shp" [120]]

/-- Although no file is in the way, extracting fails, since nothing has made the folder before its
dot. -/
theorem folder_before_dot_not_made :
    (packed dottedEntries).locate (Path.ofText "/scratch") =
        .ok ([Text.Utf8.encode "scratch"], .folder .empty) ∧
      (dottedEntries.map (·.name)).Nodup ∧
      (∀ e ∈ dottedEntries, e.fault? = none ∧ e.checksumHolds = true) ∧
      (∀ e ∈ accepted dottedEntries, e.FitsBelow (Path.ofText "/scratch")) ∧
      Clear dottedEntries ∧
      ((packed dottedEntries).extractArchive (Path.ofText "/a.zip") (Path.ofText "/scratch")).1 =
        .error (.io .notFound) := by
  decide +kernel

end Disk

end LayerPress
