import LayerPress.Proofs.Custody
import LayerPress.Proofs.ImportTrace
import LayerPress.Proofs.SoundStore

/-!
# Archives that cannot be resolved

An archive that cannot be read, that has an entry which cannot be read, or that has no shapefile
fails for good. But where an entry cannot be written, because another entry is in its way, because
its name is too long, or because its checksum is wrong or its stream is broken, the failure is one
of input and output. Then the archive is extracted again, as often as it may be, although each
attempt finds the same.
-/

namespace LayerPress

/-- The entries of a file, which has some only if it is an archive. -/
def Content.entries : Content → List ArchiveEntry
  | .archive stored => mergeEntries stored
  | .bytes _ => []

/-! ## How extracting fails -/

namespace Disk

variable {d made : Disk} {root target p : Path} {e : ArchiveEntry} {entries : List ArchiveEntry}
  {f : Failure}

/-- An entry cannot be written as a whole although its content can be read and its name is
accepted. -/
def CannotWrite (d : Disk) (target : Path) (e : ArchiveEntry) : Prop :=
  e.fault? = none ∧ ArchiveEntry.accepts e.name = true ∧ (d.extractEntry target e).1 ≠ .ok ()

/-- Extracting some entries comes to one that cannot be written. -/
def Stumbles (d : Disk) (target : Path) (entries : List ArchiveEntry) : Prop :=
  ∃ before e rest, entries = before ++ e :: rest ∧ (d.extractEntries target before).1 = .ok () ∧
    (d.extractEntries target before).2.CannotWrite target e

/-- Folders, the file and its content fail in input and output alone. -/
theorem io_of_extractEntry (hfault : e.fault? = none)
    (haccepts : ArchiveEntry.accepts e.name = true)
    (h : (d.extractEntry target e).1 = .error f) : ∃ g, f = .io g := by
  unfold extractEntry at h
  simp only [hfault, haccepts, Bool.not_true, Bool.false_eq_true, if_false] at h
  split at h
  · split at h
    · cases h
    · cases h
      exact ⟨_, rfl⟩
  · split at h
    · cases h
      exact ⟨_, rfl⟩
    · split at h
      · cases h
        exact ⟨_, rfl⟩
      · split at h
        · cases h
        · cases h
          exact ⟨_, rfl⟩

/-- A failure to extract an entry is worth another attempt exactly if the entry cannot be
written. -/
theorem isRetryable_extractEntry (h : (d.extractEntry target e).1 = .error f) :
    f.isRetryable = true ↔ d.CannotWrite target e := by
  have hfailed : (d.extractEntry target e).1 ≠ .ok () := by
    rw [h]
    nofun
  rw [CannotWrite, and_iff_left hfailed]
  cases hfault : e.fault? with
  | some fault =>
    rw [extractEntry, hfault] at h
    cases h
    simp [Failure.isRetryable]
  | none =>
    cases haccepts : ArchiveEntry.accepts e.name with
    | false =>
      rw [extractEntry, hfault, haccepts] at h
      cases h
    | true =>
      obtain ⟨g, rfl⟩ := io_of_extractEntry hfault haccepts h
      exact ⟨fun _ => ⟨rfl, rfl⟩, fun _ => rfl⟩

/-- Extracting entries fails with the first entry that fails. -/
theorem extractEntries_eq_error : (d.extractEntries target entries).1 = .error f ↔
    ∃ before e rest, entries = before ++ e :: rest ∧ (d.extractEntries target before).1 = .ok () ∧
      ((d.extractEntries target before).2.extractEntry target e).1 = .error f := by
  constructor
  · intro h
    induction entries generalizing d with
    | nil => cases h
    | cons e rest ih =>
      rw [extractEntries] at h
      cases hfirst : d.extractEntry target e with
      | mk answer after =>
        rw [hfirst] at h
        cases answer with
        | error g =>
          cases h
          exact ⟨[], e, rest, rfl, rfl, by rw [extractEntries, hfirst]⟩
        | ok _ =>
          obtain ⟨before, e', rest', rfl, hbefore, hfailed⟩ := ih h
          have hall :
              d.extractEntries target (e :: before) = after.extractEntries target before := by
            rw [extractEntries, hfirst]
          exact ⟨e :: before, e', rest', rfl, by rw [hall, hbefore], by rw [hall, hfailed]⟩
  · rintro ⟨before, e, rest, rfl, hbefore, hfailed⟩
    rw [extractEntries_append]
    generalize d.extractEntries target before = extracted at hbefore hfailed
    obtain ⟨answer, after⟩ := extracted
    obtain rfl : answer = .ok () := hbefore
    simp only [extractEntries]
    generalize after.extractEntry target e = extracted at hfailed
    obtain ⟨answer, last⟩ := extracted
    obtain rfl : answer = .error f := hfailed
    rfl

/-- A failure to extract entries is worth another attempt exactly if one cannot be written. -/
theorem isRetryable_extractEntries (h : (d.extractEntries target entries).1 = .error f) :
    f.isRetryable = true ↔ d.Stumbles target entries := by
  constructor
  · intro hworth
    obtain ⟨before, e, rest, hsplit, hbefore, hfailed⟩ := extractEntries_eq_error.mp h
    exact ⟨before, e, rest, hsplit, hbefore, (isRetryable_extractEntry hfailed).mp hworth⟩
  · rintro ⟨before, e, rest, hsplit, hbefore, hstuck⟩
    cases hanswer : ((d.extractEntries target before).2.extractEntry target e).1 with
    | ok _ => exact absurd hanswer hstuck.2.2
    | error g =>
      have hsame := extractEntries_eq_error.mpr ⟨before, e, rest, hsplit, hbefore, hanswer⟩
      obtain rfl : g = f := by
        rw [h] at hsame
        cases hsame
        rfl
      exact (isRetryable_extractEntry hanswer).mpr hstuck

/-- Entries that are all extracted can be written. -/
theorem not_stumbles_of_ok (h : (d.extractEntries target entries).1 = .ok ()) :
    ¬d.Stumbles target entries := by
  rintro ⟨before, e, rest, hsplit, hbefore, hstuck⟩
  cases hanswer : ((d.extractEntries target before).2.extractEntry target e).1 with
  | ok _ => exact hstuck.2.2 hanswer
  | error g =>
    rw [extractEntries_eq_error.mpr ⟨before, e, rest, hsplit, hbefore, hanswer⟩] at h
    cases h

/-! ## How resolving fails -/

/-- A file is still located where it was when a scratch folder has been made. -/
theorem Offers.locate_file {place pos : Position} {inside : Listing} {n : FileName} {c : Content}
    (h : d.Offers root place inside n) (scratch : Listing)
    (hfile : d.locate p = .ok (pos, .file c)) :
    (d.withScratch place inside n scratch).locate p = .ok (pos, .file c) := by
  obtain ⟨hcheck, hwalk, hget⟩ := locate_eq_ok.mp hfile
  obtain ⟨-, -, hroot⟩ := locate_eq_ok.mp h.located
  refine locate_eq_ok.mpr ⟨hcheck, walk_mono (h.folders scratch) hwalk, ?_⟩
  by_cases hprefix : place <+: pos
  · obtain ⟨rel, rfl⟩ := hprefix
    rw [Listing.get?_append_of_folder hroot] at hget
    rw [withScratch, refill, Listing.get?_append_of_folder (Listing.get?_refill hroot _)]
    cases rel with
    | nil => cases hget
    | cons m rel =>
      rw [Listing.get?_cons] at hget ⊢
      obtain ⟨x, hfind, hx⟩ := Option.bind_eq_some_iff.mp hget
      have hne : n ≠ m := fun heq => h.unused (heq ▸ Listing.mem_names_of_find? hfind)
      rw [Listing.find?_put, if_neg hne, hfind]
      exact hx
  · have hsurface := Listing.surface_refill hroot (inside.put n (.folder scratch)) hprefix
    rw [hget] at hsurface
    obtain ⟨x, hx, hsame⟩ := Option.map_eq_some_iff.mp hsurface
    cases x with
    | file c' =>
      cases hsame
      exact hx
    | folder inside => cases hsame

/-- A failure to extract an archive that is there is worth another attempt exactly if an entry
cannot be written. -/
theorem isRetryable_extractArchive {pos : Position} {c : Content}
    (hfile : d.locate p = .ok (pos, .file c)) (h : (d.extractArchive p target).1 = .error f) :
    f.isRetryable = true ↔ d.Stumbles target c.entries := by
  rw [extractArchive, openArchive, hfile] at h
  cases c with
  | bytes data =>
    cases h
    have hnone : ¬d.Stumbles target (Content.bytes data).entries := not_stumbles_of_ok rfl
    simp [Failure.isRetryable, hnone]
  | archive stored => exact isRetryable_extractEntries h

/-- An archive that is extracted has no entry that cannot be written. -/
theorem not_stumbles_of_extractArchive {pos : Position} {c : Content}
    (hfile : d.locate p = .ok (pos, .file c)) (h : (d.extractArchive p target).1 = .ok ()) :
    ¬d.Stumbles target c.entries := by
  rw [extractArchive, openArchive, hfile] at h
  cases c with
  | bytes data => cases h
  | archive stored => exact not_stumbles_of_ok h

/-- A folder that is there has no shapefile, if none is found. -/
theorem eq_noShapefile_of_findShapefile {place : Position} {inside : Listing}
    (hlocated : d.locate target = .ok (place, .folder inside))
    (h : d.findShapefile target = .error f) : f = .noShapefile := by
  rw [findShapefile, hlocated] at h
  simp only at h
  split at h <;> cases h
  rfl

/-- With a scratch folder an archive is extracted and searched, and the scratch folder is discarded
if nothing comes of it. -/
theorem resolve_of_makeScratch (hformat : SourceFormat.ofPath p = .shapefileArchive)
    (hscratch : d.makeScratch root = .ok (target, made)) :
    d.resolve root p = match made.extractArchive p target with
      | (.error f, after) => (.error f, after.discard target)
      | (.ok (), after) =>
        match after.findShapefile target with
        | .error f => (.error f, after.discard target)
        | .ok shapefile => (.ok ⟨.shapefileArchive, shapefile, some target⟩, after) := by
  simp only [resolve, hformat, hscratch]
  rfl

/-- With a scratch folder an archive is extracted and searched, and fails as these do. -/
theorem resolve_fst_of_eq (hformat : SourceFormat.ofPath p = .shapefileArchive)
    (hscratch : d.makeScratch root = .ok (target, made)) :
    (d.resolve root p).1 =
      match made.extractArchive p target with
      | (.error f, _) => .error f
      | (.ok (), after) =>
        (after.findShapefile target).map fun file => ⟨.shapefileArchive, file, some target⟩ := by
  rw [resolve_of_makeScratch hformat hscratch]
  generalize made.extractArchive p target = extracted
  obtain ⟨_ | _, after⟩ := extracted
  · rfl
  · dsimp only
    cases after.findShapefile target <;> rfl

/-- A failure to resolve an archive that is there, with a scratch folder that can be made, is worth
another attempt exactly if an entry of the archive cannot be written. -/
theorem isRetryable_resolve {pos : Position} {c : Content}
    (hformat : SourceFormat.ofPath p = .shapefileArchive)
    (hfile : d.locate p = .ok (pos, .file c)) (hscratch : d.makeScratch root = .ok (target, made))
    (h : (d.resolve root p).1 = .error f) :
    f.isRetryable = true ↔ made.Stumbles target c.entries := by
  obtain ⟨place, inside, n, hoffers, rfl, rfl⟩ := offers_of_makeScratch hscratch
  have hthere := hoffers.locate_file .empty hfile
  obtain ⟨scratch, -, hextracted⟩ := hoffers.extractArchive p
  rw [resolve_fst_of_eq hformat hscratch] at h
  cases hended : (d.withScratch place inside n .empty).extractArchive p (root.join ⟨n⟩) with
  | mk ended written =>
    have hanswer : ((d.withScratch place inside n .empty).extractArchive p (root.join ⟨n⟩)).1 =
        ended := by rw [hended]
    rw [hended] at h hextracted
    obtain rfl : written = _ := hextracted
    cases ended with
    | error g =>
      cases h
      exact isRetryable_extractArchive hthere hanswer
    | ok _ =>
      have hclean := not_stumbles_of_extractArchive hthere hanswer
      obtain rfl : f = .noShapefile := by
        cases hfound : (d.withScratch place inside n scratch).findShapefile (root.join ⟨n⟩) with
        | error g =>
          simp only [hfound] at h
          cases h
          exact eq_noShapefile_of_findShapefile (hoffers.locate_scratch scratch) hfound
        | ok file =>
          simp only [hfound] at h
          cases h
      simp [Failure.isRetryable, hclean]

end Disk

/-! ## How often an import tries -/

/-- How often a transcript resolves a source file. -/
def resolvesOf (path : Path) (log : List (Exchange siteActions)) : Nat :=
  log.countP (·.action == .resolve path)

namespace Site

variable {σ : Type} {env : Surroundings σ} {settings : ImportSettings} {id : Uuid} {path : Path}
  {f : Failure} {s : Site σ}

/-- An attempt finds its layer and the source file, and cannot resolve it. -/
structure FailsToResolve (settings : ImportSettings) (id : Uuid) (path : Path) (f : Failure)
    (s : Site σ) : Prop where
  source : ∃ layer, s.visible.layer? id = some layer ∧ settings.sourceOf? layer = some path
  file : s.disk.isFile path = true
  failure : (s.disk.resolve s.scratchRoot path).1 = .error f

/-- Every action is answered as on a site. -/
abbrev Answers (env : Surroundings σ) (a : SiteAction) (x : a.Answer) (now next : Site σ) : Prop :=
  handle env a now = (x, next)

/-- In a sound record store a layer is found where it is stored. -/
theorem handle_findLayer (hsound : env.IsSound) (s : Site σ) (id : Uuid) :
    ∃ outside, handle env (.records (.statement (.findLayer id))) s =
      (.ok (s.visible.layer? id), { s with outside := outside }) := by
  obtain ⟨outside, hhandle⟩ := handle_of_execute hsound s
    (show s.visible.execute (.findLayer id) = .ok (s.visible.layer? id, s.visible) from rfl)
  refine ⟨outside, hhandle.trans ?_⟩
  obtain ⟨disk, scratchRoot, records, working, outside', stages⟩ := s
  cases working <;> rfl

/-- A survey whose source file cannot be resolved tries it once and leaves files and records. -/
theorem ensures_survey_of_unresolved {layer : Layer} (hsource : settings.sourceOf? layer = some path)
    (hfile : s.disk.isFile path = true)
    (hfailure : (s.disk.resolve s.scratchRoot path).1 = .error f) :
    Procedure.Ensures (Answers env) (fun answer last log => answer = .error f ∧
        last = { s with stages := s.stages ++ [.resolving] } ∧ resolvesOf path log = 1) s
      (Work.survey settings layer).run := by
  unfold Work.survey
  rw [Work.sourcePath_eq, hsource]
  rintro isFile _ ⟨⟩
  rw [hfile]
  rintro _ _ ⟨⟩
  have hfailed : handle env (.resolve path) { s with stages := s.stages ++ [.resolving] } =
      (.error f, { s with stages := s.stages ++ [.resolving] }) := by
    have hresolved : s.disk.resolve s.scratchRoot path = (.error f, s.disk) :=
      Prod.ext hfailure (Disk.resolve_error (Prod.ext hfailure rfl))
    simp only [handle, hresolved]
  rintro resolved last hresolved
  obtain ⟨rfl, rfl⟩ := Prod.mk.inj (hfailed.symm.trans hresolved)
  exact ⟨rfl, rfl, by simp [resolvesOf]⟩

/-- An attempt that cannot resolve its source file fails so, after one try, and the next would find
the same. -/
theorem FailsToResolve.attempt (hsound : env.IsSound) (h : s.FailsToResolve settings id path f) :
    (s.run env (Work.importLayer settings id).run).1 = .error f ∧
      (s.run env (Work.importLayer settings id).run).2.FailsToResolve settings id path f ∧
      resolvesOf path (s.transcript env (Work.importLayer settings id).run) = 1 := by
  obtain ⟨⟨layer, hlayer, hsource⟩, hfile, hfailure⟩ := h
  obtain ⟨outside, hfound⟩ := handle_findLayer hsound s id
  refine Procedure.Ensures.of_handler (Q := fun answer (last : Site σ) log =>
    answer = Except.error f ∧ last.FailsToResolve settings id path f ∧ resolvesOf path log = 1) ?_
  rw [Work.importLayer_eq]
  intro found s₁ hfind
  obtain ⟨rfl, rfl⟩ := Prod.mk.inj (hfound.symm.trans hfind)
  rw [hlayer]
  change Procedure.Ensures _ _ _ (Work.survey settings layer >>= _).run
  let asked : Site σ := { s with outside := outside }
  have hsurvey : Procedure.Ensures (Answers env) (fun answer last log => answer = .error f ∧
      last = { asked with stages := asked.stages ++ [.resolving] } ∧ resolvesOf path log = 1) asked
      (Work.survey settings layer).run :=
    ensures_survey_of_unresolved hsource hfile hfailure
  refine hsurvey.bindExcept ?_ ?_
  · rintro t last log ⟨⟨⟩, -⟩
  · rintro g last log ⟨⟨⟩, rfl, hone⟩
    refine ⟨rfl, ⟨⟨layer, hlayer, hsource⟩, hfile, hfailure⟩, ?_⟩
    rw [resolvesOf, List.countP_cons_of_neg (by simp)]
    exact hone

/-- Repeated attempts that cannot resolve their source file try it as often as they may, or once if
the failure is not worth another attempt. -/
theorem FailsToResolve.retrying (hsound : env.IsSound) (h : s.FailsToResolve settings id path f)
    (left made : Nat) :
    (s.run env (Work.retrying (Work.importLayer settings id) left made)).1 = .error f ∧
      resolvesOf path (s.transcript env (Work.retrying (Work.importLayer settings id) left made)) =
        if f.isRetryable then left + 1 else 1 := by
  induction left generalizing made s with
  | zero =>
    obtain ⟨hfailed, -, hone⟩ := h.attempt hsound
    have hlast : ∀ g, (s.run env (Work.importLayer settings id).run).1 = .error g →
        g.isRetryable = true → 0 = 0 := fun _ _ _ => rfl
    obtain ⟨hrun, hlog⟩ := retrying_of_stop 0 made hlast
    rw [hrun, hlog, hone]
    exact ⟨hfailed, by simp⟩
  | succ left ih =>
    obtain ⟨hfailed, hagain, hone⟩ := h.attempt hsound
    cases hworth : f.isRetryable with
    | false =>
      have hstop : ∀ g, (s.run env (Work.importLayer settings id).run).1 = .error g →
          g.isRetryable = true → left + 1 = 0 := by
        intro g hg hretry
        obtain rfl : f = g := Except.error.inj (hfailed.symm.trans hg)
        rw [hworth] at hretry
        cases hretry
      obtain ⟨hrun, hlog⟩ := retrying_of_stop (left + 1) made hstop
      rw [hrun, hlog, hone]
      exact ⟨hfailed, rfl⟩
    | true =>
      obtain ⟨hrun, hlog⟩ := retrying_of_error left made hfailed hworth
      obtain ⟨hend, hcount⟩ := ih hagain (made + 1)
      rw [hrun, hlog, resolvesOf, List.countP_append, List.countP_cons_of_neg (by simp)]
      refine ⟨hend, ?_⟩
      rw [hworth] at hcount
      change resolvesOf path _ + resolvesOf path _ = _
      rw [hone, hcount]
      simp only [if_true]
      omega

end Site

/-- Of an archive that is there and cannot be resolved, with a scratch root below which a folder can
be made, an import makes one attempt, unless an entry of the archive cannot be written: then the
failure counts as one of input and output, and the import makes as many attempts as it may. -/
theorem attempts_of_bad_archive {σ : Type} {env : Surroundings σ} (hsound : env.IsSound)
    (settings : ImportSettings) (id : Uuid) (s : Site σ) {layer : Layer} {path target : Path}
    {pos : Position} {c : Content} {made : Disk} {f : Failure}
    (hlayer : s.visible.layer? id = some layer) (hsource : settings.sourceOf? layer = some path)
    (hformat : SourceFormat.ofPath path = .shapefileArchive)
    (hfile : s.disk.locate path = .ok (pos, .file c))
    (hscratch : s.disk.makeScratch s.scratchRoot = .ok (target, made))
    (hfailure : (s.disk.resolve s.scratchRoot path).1 = .error f) :
    (f.isRetryable = true ↔ made.Stumbles target c.entries) ∧
      (s.run env (Work.runImport settings id)).1 = .failed f.message ∧
      resolvesOf path (s.transcript env (Work.runImport settings id)) =
        if f.isRetryable then settings.maxRetries + 1 else 1 := by
  have hfaces : (s.queued env).FailsToResolve settings id path f :=
    ⟨⟨layer, hlayer, hsource⟩, by
      change s.disk.isFile path = true
      rw [Disk.isFile, hfile], hfailure⟩
  obtain ⟨hend, hcount⟩ := hfaces.retrying hsound settings.maxRetries 0
  obtain ⟨-, hlog, hanswer⟩ := s.runImport_eq env settings id
  refine ⟨Disk.isRetryable_resolve hformat hfile hscratch hfailure, ?_, ?_⟩
  · rw [hanswer, hend]
  · rw [hlog, resolvesOf, List.countP_cons_of_neg (by simp)]
    exact hcount

/-- Plain settings with two repetitions. -/
def ImportSettings.persistent : ImportSettings :=
  { ImportSettings.plain with maxRetries := 2 }

/-- A shapefile with a wrong checksum, and perhaps encrypted. -/
def spoiled (encrypted : Bool) : List ArchiveEntry :=
  [{ ArchiveEntry.whole 0 "a.shp" [] with checksumHolds := false, encrypted := encrypted }]

/-- A checksum that is wrong for good fails as input and output do, and an import that may repeat
itself twice extracts the archive three times. -/
theorem bad_checksum_tried_again :
    (Disk.packed (spoiled false)).isFile (Path.ofText "/a.zip") = true ∧
      ((Disk.packed (spoiled false)).resolve (Path.ofText "/scratch") (Path.ofText "/a.zip")).1 =
        .error (.io .badChecksum) ∧
      (Failure.io .badChecksum).isRetryable = true ∧
      resolvesOf (Path.ofText "/a.zip") ((Site.packed (spoiled false)).transcript .plain
        (Work.runImport .persistent ⟨1⟩)) = 3 := by
  decide +kernel

/-- A readable entry with a wrong checksum cannot be written and is tried three times, and so is a
deflated one whose stream is broken; one that is encrypted as well is tried once. -/
theorem attempts_of_bad_archive_spoiled :
    (∃ target made, (Disk.packed (spoiled false)).makeScratch (Path.ofText "/scratch") =
        .ok (target, made) ∧ made.Stumbles target (mergeEntries (spoiled false))) ∧
      resolvesOf (Path.ofText "/a.zip") ((Site.packed (spoiled false)).transcript .plain
        (Work.runImport .persistent ⟨1⟩)) = 3 ∧
      resolvesOf (Path.ofText "/a.zip") ((Site.packed [.brokenOff "a.shp" [1]]).transcript .plain
        (Work.runImport .persistent ⟨1⟩)) = 3 ∧
      resolvesOf (Path.ofText "/a.zip") ((Site.packed (spoiled true)).transcript .plain
        (Work.runImport .persistent ⟨1⟩)) = 1 := by
  have hsound : Surroundings.plain.IsSound := fun _ _ => rfl
  have hsource : ImportSettings.persistent.sourceOf? .packed = some (Path.ofText "/a.zip") := by
    decide +kernel
  have hformat : SourceFormat.ofPath (Path.ofText "/a.zip") = .shapefileArchive := by
    decide +kernel
  have hfile : ∀ entries ∈ [spoiled false, [.brokenOff "a.shp" [1]], spoiled true],
      (Disk.packed entries).locate (Path.ofText "/a.zip") =
        .ok ([Text.Utf8.encode "a.zip"], .file (.archive entries)) := by
    decide +kernel
  have hscratch : ∀ entries ∈ [spoiled false, [.brokenOff "a.shp" [1]], spoiled true],
      (Disk.packed entries).makeScratch (Path.ofText "/scratch") =
        .ok (Path.ofText "/scratch/layer-import-0",
          (Disk.packed entries).withScratch [Text.Utf8.encode "scratch"] .empty
            (Disk.scratchName 0) .empty) := by
    decide +kernel
  have hchecksum : ((Disk.packed (spoiled false)).resolve (Path.ofText "/scratch")
      (Path.ofText "/a.zip")).1 = .error (.io .badChecksum) := by
    decide +kernel
  have hbroken : ((Disk.packed [.brokenOff "a.shp" [1]]).resolve (Path.ofText "/scratch")
      (Path.ofText "/a.zip")).1 = .error (.io (.other "corrupt deflate stream")) := by
    decide +kernel
  have hencrypted : ((Disk.packed (spoiled true)).resolve (Path.ofText "/scratch")
      (Path.ofText "/a.zip")).1 =
        .error (.archive (.unsupported "Password required to decrypt file")) := by
    decide +kernel
  obtain ⟨hworth, -, hthree⟩ := attempts_of_bad_archive hsound .persistent ⟨1⟩
    (Site.packed (spoiled false)) rfl hsource hformat (hfile _ (by simp)) (hscratch _ (by simp)) hchecksum
  obtain ⟨-, -, hbrokenThree⟩ := attempts_of_bad_archive hsound .persistent ⟨1⟩
    (Site.packed [.brokenOff "a.shp" [1]]) rfl hsource hformat (hfile _ (by simp)) (hscratch _ (by simp)) hbroken
  obtain ⟨-, -, hone⟩ := attempts_of_bad_archive hsound .persistent ⟨1⟩
    (Site.packed (spoiled true)) rfl hsource hformat (hfile _ (by simp)) (hscratch _ (by simp)) hencrypted
  exact ⟨⟨_, _, hscratch _ (by simp), hworth.mp rfl⟩, hthree, hbrokenThree, hone⟩

end LayerPress
