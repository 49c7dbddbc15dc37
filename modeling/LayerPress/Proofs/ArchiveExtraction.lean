import LayerPress.Proofs.Confinement

/-!
# What an archive can touch

Whatever an archive holds and wherever its extraction stops, all that is outside of the target
folder is as it was before: the files have their contents and the folders their names. An entry
with a refused name writes nothing at all.
-/

namespace LayerPress

/-! ## Refused names -/

/-- A component names a file or a folder. -/
def Path.Component.isName : Path.Component → Bool
  | .name _ => true
  | .here | .up => false

namespace ArchiveEntry

/-- The archive reader refuses a name that has a NUL, that is absolute, or in which double dots
outnumber the names before them at some point. -/
def IsRefused (name : String) : Prop :=
  Char.ofNat 0 ∈ name.toList ∨ (Path.ofText name).isAbsolute = true ∨
    ∃ first, first <+: (Path.ofText name).steps ∧
      first.countP (·.isName) < first.count Path.Component.up

/-- A beginning that goes too far up has a first component, and a rest that goes too far up. -/
theorem exists_prefix_cons_goes_up {depth : Nat} {c : Path.Component} {rest : List Path.Component} :
    (∃ first, first <+: c :: rest ∧
      depth + first.countP (·.isName) < first.count Path.Component.up) ↔
    ∃ first, first <+: rest ∧
      depth + (c :: first).countP (·.isName) < (c :: first).count Path.Component.up := by
  constructor
  · rintro ⟨first, hprefix, hlt⟩
    cases first with
    | nil => exact absurd hlt (Nat.not_lt_zero _)
    | cons x first =>
      obtain ⟨rfl, hrest⟩ := List.cons_prefix_cons.mp hprefix
      exact ⟨first, hrest, hlt⟩
  · rintro ⟨first, hprefix, hlt⟩
    exact ⟨c :: first, List.cons_prefix_cons.mpr ⟨rfl, hprefix⟩, hlt⟩

/-- The depth falls below zero exactly if double dots outnumber the names before them and what
was above. -/
theorem depthAfter?_eq_none_iff {depth : Nat} {cs : List Path.Component} :
    depthAfter? depth cs = none ↔ ∃ first, first <+: cs ∧
      depth + first.countP (·.isName) < first.count Path.Component.up := by
  induction cs generalizing depth with
  | nil => simp [depthAfter?]
  | cons c rest ih =>
    rw [exists_prefix_cons_goes_up]
    cases c with
    | here =>
      rw [depthAfter?]
      refine ih.trans ?_
      simp [Path.Component.isName]
    | name n =>
      rw [depthAfter?]
      refine ih.trans ?_
      simp [Path.Component.isName, Nat.add_assoc, Nat.add_comm 1]
    | up =>
      cases depth with
      | zero =>
        simp only [depthAfter?, true_iff]
        exact ⟨[], List.nil_prefix, by simp [Path.Component.isName]⟩
      | succ depth =>
        rw [depthAfter?]
        refine ih.trans ?_
        simp [Path.Component.isName, Nat.add_right_comm depth 1]

/-- A name is accepted exactly if it is not refused. -/
theorem accepts_eq_false_iff {name : String} : accepts name = false ↔ IsRefused name := by
  rw [accepts, IsRefused, Bool.and_eq_false_iff, Bool.and_eq_false_iff, Bool.not_eq_false',
    Bool.not_eq_false', List.contains_iff_mem, Option.isSome_eq_false_iff, Option.isNone_iff_eq_none,
    depthAfter?_eq_none_iff, or_assoc]
  simp only [Nat.zero_add]

/-- An entry that is whole, under a compression method. -/
def whole (method : Nat) (name : String) (data : List UInt8) : ArchiveEntry where
  name := name
  data := data
  checksumHolds := true
  encrypted := false
  method := method

/-- A deflated entry whose stream is broken after some data. -/
def brokenOff (name : String) (data : List UInt8) : ArchiveEntry :=
  { whole 8 name data with checksumHolds := false, flaw := .other "corrupt deflate stream" }

end ArchiveEntry

namespace Disk

variable {d : Disk} {target : Path} {place : Position} {name : String} {e : ArchiveEntry}

/-! ## One entry -/

/-- An accepted name is joined to a path that stays below the target. -/
theorem staysBelow_join (htarget : target.bytes ≠ []) (h : ArchiveEntry.accepts name = true) :
    target.StaysBelow (target.join (Path.ofText name)) := by
  rw [ArchiveEntry.accepts, Bool.and_eq_true, Bool.and_eq_true, Bool.not_eq_true',
    Bool.not_eq_true'] at h
  have hjoin : target.join (Path.ofText name) = ⟨target.opened ++ (Path.ofText name).bytes⟩ :=
    Path.join_eq htarget h.1.2
  rw [hjoin]
  exact ⟨Path.isAbsolute_opened_append htarget _, .inr ⟨_, rfl, h.2⟩⟩

/-- The folders on the way to an entry are made below the target. -/
theorem IsAt.fills_makeFolders (h : d.IsAt target place) {p : Path} (hp : target.StaysBelow p) :
    FillsIn target.room place d (d.makeFolders p).2 :=
  h.fills_makeFoldersWithin _ hp

/-- The folder of an entry is made below the target. -/
theorem IsAt.fills_makeParent (h : d.IsAt target place) {p : Path} (hp : target.StaysBelow p) :
    FillsIn target.room place d (d.makeFolders (p.parent?.getD ⟨[]⟩)).2 := by
  cases hparent : p.parent? with
  | none => exact .refl _ _ _
  | some above => exact h.fills_makeFolders (hp.parent h.given hparent)

/-- Writing an entry fills the target folder. -/
theorem IsAt.fills_extractEntry (h : d.IsAt target place) (e : ArchiveEntry) :
    FillsIn target.room place d (d.extractEntry target e).2 := by
  unfold extractEntry
  cases hfault : e.fault? with
  | some fault => exact .refl _ _ _
  | none =>
    cases haccepts : ArchiveEntry.accepts e.name with
    | false => exact .refl _ _ _
    | true =>
      have hbelow := staysBelow_join h.given haccepts
      simp only [Bool.not_true, Bool.false_eq_true, if_false]
      split
      · have hmade := h.fills_makeFolders hbelow
        split <;> next heq => rw [heq] at hmade; exact hmade
      · have hparent := h.fills_makeParent hbelow
        split
        · next heq =>
          rw [heq] at hparent
          exact hparent
        · next made heq =>
          rw [heq] at hparent
          split
          · exact hparent
          · next written hwritten =>
            have hfile := (hparent.isAt h).fills_writeFile hbelow hwritten
            split <;> exact hparent.trans hfile

/-- An entry with a refused name leaves the disk as it is. -/
theorem extractEntry_of_isRefused (h : ArchiveEntry.IsRefused e.name) :
    (d.extractEntry target e).2 = d := by
  have haccepts := ArchiveEntry.accepts_eq_false_iff.mpr h
  unfold extractEntry
  cases e.fault? with
  | some fault => rfl
  | none => simp [haccepts]

/-! ## All entries -/

/-- Entries are extracted after those before them, unless one of these has failed. -/
theorem extractEntries_append (d : Disk) (target : Path) (before rest : List ArchiveEntry) :
    d.extractEntries target (before ++ rest) =
      match d.extractEntries target before with
      | (.ok (), made) => made.extractEntries target rest
      | (.error f, made) => (.error f, made) := by
  induction before generalizing d with
  | nil => rfl
  | cons e before ih =>
    rw [List.cons_append, extractEntries, extractEntries]
    cases d.extractEntry target e with
    | mk answer made =>
      cases answer with
      | error f => rfl
      | ok _ => exact ih made

/-- Writing entries fills the target folder, wherever it stops. -/
theorem IsAt.fills_extractEntries (h : d.IsAt target place) (entries : List ArchiveEntry) :
    FillsIn target.room place d (d.extractEntries target entries).2 := by
  induction entries generalizing d with
  | nil => exact .refl _ _ _
  | cons e rest ih =>
    have hfirst := h.fills_extractEntry e
    rw [extractEntries]
    split
    · next after heq =>
      rw [heq] at hfirst
      exact hfirst.trans (ih (hfirst.isAt h))
    · next f after heq =>
      rw [heq] at hfirst
      exact hfirst

/-- Extracting an archive fills the target folder, whatever the archive is. -/
theorem IsAt.fills_extractArchive (h : d.IsAt target place) (archive : Path) :
    FillsIn target.room place d (d.extractArchive archive target).2 := by
  rw [extractArchive]
  split
  · exact .refl _ _ _
  · exact h.fills_extractEntries _

/-- Filling a folder changes nothing outside of it, and leaves it a folder. -/
theorem FillsIn.outside {room : Nat} {d' : Disk} (h : FillsIn room place d d')
    (hplace : d.HasFolder place) :
    d'.working = d.working ∧ d'.HasFolder place ∧ ∀ pos, ¬place <+: pos →
      (d'.root.get? pos).map Entry.surface = (d.root.get? pos).map Entry.surface := by
  obtain ⟨inside, hinside⟩ := hplace
  obtain ⟨after, rfl, -⟩ := h.filled inside hinside
  exact ⟨rfl, ⟨after, Listing.get?_refill hinside after⟩,
    fun pos hpos => Listing.surface_refill hinside after hpos⟩

/-- After an entry with a refused name the disk is as the entries before it have left it. -/
theorem extractEntries_concat_of_isRefused (d : Disk) (target : Path)
    (before : List ArchiveEntry) (h : ArchiveEntry.IsRefused e.name) :
    (d.extractEntries target (before ++ [e])).2 = (d.extractEntries target before).2 := by
  rw [extractEntries_append]
  rcases d.extractEntries target before with ⟨f | _, made⟩
  · rfl
  · have hentry : (made.extractEntry target e).2 = made := extractEntry_of_isRefused h
    simp only [extractEntries]
    generalize made.extractEntry target e = answer at hentry
    rcases answer with ⟨f | _, after⟩
    · exact hentry
    · exact hentry

/-- Extracting an archive changes nothing outside of the target folder, however it ends, and an
entry with a refused name changes nothing at all. -/
theorem extractArchive_confined {inside : Listing}
    (h : d.locate target = .ok (place, .folder inside)) (archive : Path) :
    ((d.extractArchive archive target).2.working = d.working ∧
      (d.extractArchive archive target).2.HasFolder place ∧
      ∀ pos, ¬place <+: pos →
        ((d.extractArchive archive target).2.root.get? pos).map Entry.surface =
          (d.root.get? pos).map Entry.surface) ∧
    ∀ before e, ArchiveEntry.IsRefused e.name →
      (d.extractEntries target (before ++ [e])).2 = (d.extractEntries target before).2 := by
  have hat := isAt_of_locate h
  exact ⟨(hat.fills_extractArchive archive).outside hat.folder,
    fun before _ hrefused => extractEntries_concat_of_isRefused d target before hrefused⟩

/-- A disk with an archive, a file beside it, and an empty folder to extract into. -/
def packed (entries : List ArchiveEntry) : Disk where
  root := .file (Text.Utf8.encode "a.zip") (.archive entries)
    (.file (Text.Utf8.encode "kept") (.bytes [1])
      (.folder (Text.Utf8.encode "scratch") .empty .empty))
  working := []

/-- Deflated entries whose names try to leave the folder, and one that goes up only as far as it has
gone down. -/
def hostileEntries : List ArchiveEntry :=
  ["../kept", "/kept", "a/../../kept", "a/../b.shp"].map (.whole 8 · [])

/-- The file beside the archive is kept, although three names lead to it. -/
theorem extractArchive_confined_hostile :
    (packed hostileEntries).locate (Path.ofText "/scratch") =
        .ok ([Text.Utf8.encode "scratch"], .folder .empty) ∧
      ((packed hostileEntries).extractArchive (Path.ofText "/a.zip") (Path.ofText "/scratch")).1 =
        .ok () ∧
      ((((packed hostileEntries).extractArchive (Path.ofText "/a.zip")
            (Path.ofText "/scratch")).2.root.get? [Text.Utf8.encode "kept"]).map Entry.surface =
        some (.inl (.bytes [1]))) ∧
      ArchiveEntry.IsRefused "a/../../kept" ∧
      ((packed hostileEntries).extractEntries (Path.ofText "/scratch")
          (hostileEntries.take 2 ++ [.whole 8 "a/../../kept" []])).2 =
        ((packed hostileEntries).extractEntries (Path.ofText "/scratch") (hostileEntries.take 2)).2 :=
  have h : (packed hostileEntries).locate (Path.ofText "/scratch") =
      .ok ([Text.Utf8.encode "scratch"], .folder .empty) := by decide +kernel
  have hrefused : ArchiveEntry.IsRefused "a/../../kept" :=
    ArchiveEntry.accepts_eq_false_iff.mp (by decide +kernel)
  ⟨h, by decide +kernel,
    ((extractArchive_confined h (Path.ofText "/a.zip")).1.2.2 [Text.Utf8.encode "kept"]
      (by decide +kernel)).trans (by decide +kernel),
    hrefused,
    (extractArchive_confined h (Path.ofText "/a.zip")).2 (hostileEntries.take 2) _ hrefused⟩

end Disk

end LayerPress
