import LayerPress.Proofs.ImportProtocol
import LayerPress.Proofs.Plain
import LayerPress.Proofs.Register
import LayerPress.Proofs.ScratchFolders

/-!
# The custody of scratch space

Resolving an archive takes one new folder of the scratch root, and releasing the source gives it
back; where resolving fails nothing has been taken. An attempt to import a layer releases what it
has resolved before it asks for anything else than loading, and holds nothing when it ends. So
whatever the services answer, the disk is then as it was before.
-/

namespace LayerPress

/-! ## Resolving and releasing -/

namespace Disk

variable {d after : Disk} {root p : Path} {f : Failure} {r : ResolvedSource}

/-- A source that cannot be resolved leaves the disk as it was. -/
theorem resolve_error (h : d.resolve root p = (.error f, after)) : after = d := by
  simp only [resolve] at h
  split at h
  · cases h; rfl
  split at h
  · cases h
  split at h
  · cases h; rfl
  · next target made hmade =>
    obtain ⟨place, inside, n, hoffers, rfl, rfl⟩ := offers_of_makeScratch hmade
    obtain ⟨scratch, -, hextracted⟩ := hoffers.extractArchive p
    generalize (d.withScratch place inside n .empty).extractArchive p _ = answer at h hextracted
    obtain ⟨ended, written⟩ := answer
    obtain rfl : written = _ := hextracted
    cases ended with
    | error g =>
      cases h
      exact hoffers.discard_withScratch scratch
    | ok _ =>
      simp only at h
      split at h
      · cases h
        exact hoffers.discard_withScratch scratch
      · cases h

/-- A source of another format than the archive's is resolved to itself or refused, and the disk is
left alone. -/
theorem resolve_of_ne (d : Disk) (root : Path)
    (hformat : SourceFormat.ofPath p ≠ .shapefileArchive) :
    d.resolve root p =
      (if (SourceFormat.ofPath p).isVector then .ok ⟨SourceFormat.ofPath p, p, none⟩
        else .error (.unsupportedFormat (refusedExtension p)), d) := by
  simp only [resolve, if_pos hformat]
  cases (SourceFormat.ofPath p).isVector <;> rfl

/-- A resolved archive keeps a scratch folder, in which its file is. -/
theorem resolve_ok_of_eq (h : d.resolve root p = (.ok r, after))
    (hformat : SourceFormat.ofPath p = .shapefileArchive) :
    ∃ place inside n scratch rel c, d.Offers root place inside n ∧
      after = d.withScratch place inside n scratch ∧ r.scratch = some (root.join ⟨n⟩) ∧
      after.locate r.path = .ok (place ++ n :: rel, .file c) := by
  simp only [resolve] at h
  split at h
  · cases h
  rw [if_neg (not_not_intro hformat)] at h
  split at h
  · cases h
  · next target made hmade =>
    obtain ⟨place, inside, n, hoffers, rfl, rfl⟩ := offers_of_makeScratch hmade
    obtain ⟨scratch, hfits, hextracted⟩ := hoffers.extractArchive p
    generalize (d.withScratch place inside n .empty).extractArchive p _ = answer at h hextracted
    obtain ⟨ended, written⟩ := answer
    obtain rfl : written = _ := hextracted
    cases ended with
    | error g => cases h
    | ok _ =>
      simp only at h
      split at h
      · cases h
      · next q hfound =>
        cases h
        obtain ⟨rel, c, hlocated⟩ := hoffers.locate_of_findShapefile hfits hfound
        exact ⟨place, inside, n, scratch, rel, c, hoffers, rfl, rfl, hlocated⟩

/-- Releasing a resolved source brings back the disk. -/
theorem release_of_resolve (h : d.resolve root p = (.ok r, after)) : after.release r = d := by
  by_cases hformat : SourceFormat.ofPath p = .shapefileArchive
  · obtain ⟨place, inside, n, scratch, -, -, hoffers, rfl, hscratch, -⟩ :=
      resolve_ok_of_eq h hformat
    rw [release, hscratch]
    exact hoffers.discard_withScratch scratch
  · rw [resolve_of_ne d root hformat] at h
    split at h
    · cases h
      rfl
    · cases h

/-- The disk while a source is held, if one is: what resolving it has made of the disk before. -/
def Custody (d : Disk) (root : Path) : Option ResolvedSource → Disk → Prop
  | none, now => now = d
  | some r, now => ∃ p, d.resolve root p = (.ok r, now)

/-- Nothing is held when a source cannot be resolved, and otherwise the source. -/
theorem custody_resolve (d : Disk) (root p : Path) :
    d.Custody root (d.resolve root p).1.toOption (d.resolve root p).2 := by
  cases h : d.resolve root p with
  | mk answer after =>
    cases answer with
    | error f => exact resolve_error h
    | ok r => exact ⟨p, h⟩

end Disk

/-! ## What an attempt holds -/

/-- What an attempt may do with the source that it holds, if it holds one: it resolves a source and
asks for an extent while it holds none, and releases the one that it holds. -/
def custody : Monitor siteActions (Option ResolvedSource) where
  admits held a :=
    match a with
    | .resolve _ => held = none
    | .call (.extent _) => held = none
    | .release source => held = some source
    | _ => True
  after held a x :=
    match a, x with
    | .resolve _, answer => answer.toOption
    | .release _, _ => none
    | _, _ => held

namespace Work

variable {settings : ImportSettings} {id : Uuid} {α : Type} {held : Option ResolvedSource}

/-- The work ends with the same source held with which it began. -/
abbrev KeepsCustody (held : Option ResolvedSource) (w : Work α) : Prop :=
  custody.Passes (fun _ last => last = held) held w

/-- Looking for the source file takes nothing. -/
theorem keepsCustody_sourcePath (l : Layer) : KeepsCustody held (sourcePath settings l).run := by
  unfold sourcePath
  cases l.sourceFile with
  | none => exact rfl
  | some raw =>
    dsimp only
    split
    · exact rfl
    · refine ⟨trivial, fun isFile => ?_⟩
      cases isFile <;> exact rfl

/-- Loading a source keeps it. -/
theorem keepsCustody_load (source : Path) (table : String) :
    KeepsCustody held (load settings.spatial settings.loader source table) := by
  have hmeasured : KeepsCustody held (measure table) := by
    refine ⟨trivial, fun features => ?_⟩
    cases features with
    | error f => exact rfl
    | ok features =>
      refine ⟨trivial, fun type => ?_⟩
      cases type <;> exact rfl
  refine ⟨trivial, fun ran => ?_⟩
  cases ran with
  | error f => exact rfl
  | ok output =>
    change KeepsCustody held (if output.success then measure table else _)
    split
    · exact hmeasured
    · exact rfl

/-- The extent of a table is asked for while nothing is held. -/
theorem keepsCustody_tableExtent (table : String) : KeepsCustody none (tableExtent table) := by
  refine ⟨rfl, fun extent => ?_⟩
  cases extent <;> exact rfl

/-- The columns of a table have nothing to do with what is held. -/
theorem keepsCustody_tableColumns (table : String) : KeepsCustody held (tableColumns table) := by
  refine ⟨trivial, fun columns => ?_⟩
  cases columns <;> exact rfl

/-- Showing the columns has nothing to do with what is held. -/
theorem keepsCustody_upsertAttributes (layer : Uuid) (columns : List Column) (place : Nat) :
    KeepsCustody held (upsertAttributes layer place columns).run := by
  induction columns generalizing place with
  | nil => exact rfl
  | cons column rest ih =>
    have hone : KeepsCustody held (upsertAttribute layer column place).run := by
      refine ⟨trivial, fun found => ?_⟩
      cases found with
      | error f => exact rfl
      | ok a => cases a <;> exact ⟨trivial, fun answer => by cases answer <;> exact rfl⟩
    refine hone.bindExcept (fun _ _ hlast => ?_) fun _ _ hlast => hlast
    subst hlast
    exact ih (place + 1)

/-- A transaction has to do with what is held no more than its body. -/
theorem keepsCustody_inTransaction {body : Attempt α} (hbody : KeepsCustody held body.run) :
    KeepsCustody held (inTransaction body).run := by
  refine ⟨trivial, fun begun => ?_⟩
  cases begun with
  | error f => exact rfl
  | ok _ =>
    have hcommitted : KeepsCustody held (body >>= fun a => do records .commit; return a).run := by
      refine hbody.bindExcept (fun a last hlast => ?_) fun _ _ hlast => hlast
      subst hlast
      refine ⟨trivial, fun answer => ?_⟩
      cases answer <;> exact rfl
    refine Monitor.Passes.liftBind hcommitted fun answer last hlast => ?_
    subst hlast
    cases answer with
    | ok a => exact rfl
    | error f => exact ⟨trivial, fun _ => rfl⟩

/-- Recording a load has nothing to do with what is held. -/
theorem keepsCustody_recordLoad (table : String) (features : Int) (kind : Naming.GeometryKind)
    (extent : Option BoundingBox) (columns : List Column) :
    KeepsCustody held (recordLoad id table features kind extent columns).run := by
  refine keepsCustody_inTransaction ⟨trivial, fun moment => ⟨trivial, fun changed => ?_⟩⟩
  cases changed with
  | error f => exact rfl
  | ok row =>
    refine ⟨trivial, fun _ => ?_⟩
    refine (keepsCustody_upsertAttributes row.id columns 0).bindExcept (fun _ _ hlast => hlast) ?_
    exact fun _ _ hlast => hlast

/-- Publishing has nothing to do with what is held. -/
theorem keepsCustody_publish (row : Layer) (table : String) :
    KeepsCustody held (publish settings row table).run := by
  refine ⟨trivial, fun published => ?_⟩
  cases published with
  | error f => exact rfl
  | ok action =>
    refine ⟨trivial, fun moment => ⟨trivial, fun changed => ?_⟩⟩
    cases changed <;> exact rfl

/-- Once the source has been released nothing is held. -/
theorem keepsCustody_finish (table : String) (features : Int) (type : String) :
    KeepsCustody none (do
      liftM (m := Work) (note .extracting)
      let extent ← liftM (m := Work) (tableExtent table)
      let columns ← liftM (m := Work) (tableColumns table)
      let kind := Naming.GeometryKind.ofType type
      liftM (m := Work) (note .updatingRecord)
      let updated ← recordLoad id table features kind extent columns
      liftM (m := Work) (note .publishing)
      let entry ← publish settings updated table
      liftM (m := Work) (note .done)
      return .loaded table features kind entry : Attempt ImportOutcome).run := by
  refine ⟨trivial, fun _ => ?_⟩
  refine Monitor.Passes.liftBind (keepsCustody_tableExtent table) fun extent last hlast => ?_
  subst hlast
  refine Monitor.Passes.liftBind (keepsCustody_tableColumns table) fun columns last hlast => ?_
  subst hlast
  refine ⟨trivial, fun _ => ?_⟩
  refine (keepsCustody_recordLoad table features _ extent columns).bindExcept ?_ fun _ _ hlast =>
    hlast
  rintro row last rfl
  refine ⟨trivial, fun _ => ?_⟩
  refine (keepsCustody_publish row table).bindExcept (fun entry last hlast => ?_) fun _ _ hlast =>
    hlast
  exact ⟨trivial, fun _ => hlast⟩

/-- An attempt begins and ends with nothing held. -/
theorem keepsCustody_importLayer (settings : ImportSettings) (id : Uuid) :
    KeepsCustody none (importLayer settings id).run := by
  refine ⟨trivial, fun answer => ?_⟩
  cases answer with
  | error f => exact rfl
  | ok found =>
    cases found with
    | none => exact rfl
    | some l =>
      refine (keepsCustody_sourcePath l).bindExcept (fun path _ hlast => ?_) fun _ _ hlast => hlast
      subst hlast
      refine ⟨trivial, fun _ => ⟨rfl, fun resolved => ?_⟩⟩
      cases resolved with
      | error f => exact rfl
      | ok source =>
        refine ⟨trivial, fun _ => ?_⟩
        refine Monitor.Passes.liftBind (keepsCustody_load source.path _) fun result last hlast => ?_
        subst hlast
        refine ⟨rfl, fun _ => ?_⟩
        cases result with
        | failed f => exact rfl
        | loaded features type => exact keepsCustody_finish _ features type

end Work

/-! ## The disk of an attempt -/

namespace Site

variable {σ : Type} {env : Surroundings σ} {s : Site σ}

/-- The scratch root is still the same, and the disk is in the state of what is held. -/
def InCustody (d : Disk) (root : Path) (held : Option ResolvedSource) (s : Site σ) : Prop :=
  s.scratchRoot = root ∧ d.Custody root held s.disk

/-- A record action has nothing to do with the disk. -/
theorem disk_records (env : Surroundings σ) (a : RecordAction) (s : Site σ) :
    (handle env (.records a) s).2.disk = s.disk ∧
      (handle env (.records a) s).2.scratchRoot = s.scratchRoot := by
  simp only [handle]
  split
  · exact ⟨rfl, rfl⟩
  · cases a with
    | statement st =>
      simp only [perform]
      split
      · rw [withVisible]
        split <;> exact ⟨rfl, rfl⟩
      · exact ⟨rfl, rfl⟩
    | «begin» | commit => exact ⟨rfl, rfl⟩

/-- What is admitted leaves the disk in the state of what is held then. -/
theorem InCustody.handle {d : Disk} {root : Path} {held : Option ResolvedSource} {a : SiteAction}
    (h : s.InCustody d root held) (hadmits : custody.admits held a) :
    (handle env a s).2.InCustody d root (custody.after held a (handle env a s).1) := by
  obtain ⟨rfl, hdisk⟩ := h
  cases a with
  | resolve p =>
    obtain rfl : held = none := hadmits
    obtain rfl : s.disk = d := hdisk
    exact ⟨rfl, s.disk.custody_resolve s.scratchRoot p⟩
  | release source =>
    obtain rfl : held = some source := hadmits
    obtain ⟨p, hresolved⟩ := hdisk
    exact ⟨rfl, Disk.release_of_resolve hresolved⟩
  | records a =>
    obtain ⟨hkept, hroot⟩ := disk_records env a s
    refine ⟨hroot, ?_⟩
    rw [hkept]
    exact hdisk
  | _ => exact ⟨rfl, hdisk⟩

/-- An attempt leaves the disk as it was, and has it so whenever it asks for an extent. -/
theorem disk_importLayer (env : Surroundings σ) (settings : ImportSettings) (id : Uuid)
    (s : Site σ) : (s.run env (Work.importLayer settings id).run).2.disk = s.disk ∧
      ∀ visit ∈ Procedure.visits (handle env) (Work.importLayer settings id).run s,
        ∀ table, visit.1 = .call (.extent table) → visit.2.disk = s.disk := by
  have hstart : s.InCustody s.disk s.scratchRoot none := ⟨rfl, rfl⟩
  obtain ⟨⟨held, rfl, -, hend⟩, hvisits⟩ := (Work.keepsCustody_importLayer settings id).run
    (fun _ _ _ h hadmits => h.handle hadmits) hstart
  refine ⟨hend, fun visit hvisit table htable => ?_⟩
  obtain ⟨held, ⟨-, hdisk⟩, hadmits⟩ := hvisits visit hvisit
  rw [htable] at hadmits
  obtain rfl : held = none := hadmits
  exact hdisk

end Site

/-- Whatever has been resolved, the scratch root is given back as it was. Where resolving fails
nothing has been taken; a resolved archive takes one new folder, in which its file is, until it is
released; another source takes nothing, wherever the root is. So an attempt to import a layer ends
with the disk with which it began, and has it whenever it asks for an extent. -/
theorem scratch_given_back :
    (∀ (d : Disk) (root p : Path) (f : Failure) (after : Disk),
      d.resolve root p = (.error f, after) → after = d) ∧
    (∀ (d : Disk) (root p : Path) (r : ResolvedSource) (after : Disk),
      d.resolve root p = (.ok r, after) → SourceFormat.ofPath p = .shapefileArchive →
        (∃ place inside n scratch rel c, d.locate root = .ok (place, .folder inside) ∧
          n ∉ inside.names ∧
          after.locate root = .ok (place, .folder (inside.put n (.folder scratch))) ∧
          (inside.put n (.folder scratch)).names = inside.names ++ [n] ∧
          after.locate r.path = .ok (place ++ n :: rel, .file c)) ∧
        after.release r = d) ∧
    (∀ (d : Disk) (root p : Path), SourceFormat.ofPath p ≠ .shapefileArchive →
      (d.resolve root p).2 = d ∧ ∀ other, d.resolve other p = d.resolve root p) ∧
    ∀ (σ : Type) (env : Surroundings σ) (settings : ImportSettings) (id : Uuid) (s : Site σ),
      (s.run env (Work.importLayer settings id).run).2.disk = s.disk ∧
        ∀ visit ∈ Procedure.visits (Site.handle env) (Work.importLayer settings id).run s,
          ∀ table, visit.1 = .call (.extent table) → visit.2.disk = s.disk := by
  refine ⟨fun d root p f after h => Disk.resolve_error h, fun d root p r after h hformat => ?_,
    fun d root p hformat => ?_, fun σ env settings id s => s.disk_importLayer env settings id⟩
  · refine ⟨?_, Disk.release_of_resolve h⟩
    obtain ⟨place, inside, n, scratch, rel, c, hoffers, rfl, -, hfile⟩ :=
      Disk.resolve_ok_of_eq h hformat
    exact ⟨place, inside, n, scratch, rel, c, hoffers.located, hoffers.unused,
      hoffers.locate_root scratch, Listing.names_put_of_not_mem hoffers.unused _, hfile⟩
  · rw [Disk.resolve_of_ne d root hformat]
    exact ⟨rfl, fun other => Disk.resolve_of_ne d other hformat⟩

/-- A layer with an archive as its source file and nothing imported. -/
def Layer.packed : Layer :=
  .declared ⟨1⟩ "Roads" "roads" "vector" "line" (some "a.zip") ⟨2020, 1, 1, 0, 0, 0, 0⟩

/-- A site with the archive of its layer, and an empty folder as its scratch root. -/
def Site.packed (entries : List ArchiveEntry) : Site Unit where
  disk := Disk.packed entries
  scratchRoot := Path.ofText "/scratch"
  records := ⟨[.packed], []⟩
  working := none
  outside := ()
  stages := []

/-- An archive with a deflated shapefile is resolved and given back, one whose stream is broken is
given back at once, and an import of the first has given it back when it asks for the extent. -/
theorem scratch_given_back_packed :
    (∃ f, ((Disk.packed [.brokenOff "a.shp" [1]]).resolve (Path.ofText "/scratch")
        (Path.ofText "/a.zip")).1 = .error f ∧
      ((Disk.packed [.brokenOff "a.shp" [1]]).resolve (Path.ofText "/scratch")
        (Path.ofText "/a.zip")).2 = Disk.packed [.brokenOff "a.shp" [1]]) ∧
    (∃ r after, (Disk.packed [.whole 8 "a.shp" [1]]).resolve (Path.ofText "/scratch")
        (Path.ofText "/a.zip") = (.ok r, after) ∧
      after.release r = Disk.packed [.whole 8 "a.shp" [1]]) ∧
    ((Disk.packed []).resolve (Path.ofText "/scratch") (Path.ofText "/kept")).2 = Disk.packed [] ∧
    ∃ visit ∈ Procedure.visits (Site.handle Surroundings.plain)
        (Work.importLayer .plain ⟨1⟩).run (Site.packed [.whole 8 "a.shp" [1]]),
      visit.1 = .call (.extent "roads") ∧
        visit.2.disk = Disk.packed [.whole 8 "a.shp" [1]] := by
  refine ⟨?_, ?_, ?_, ?_⟩
  · have hfailed : ((Disk.packed [.brokenOff "a.shp" [1]]).resolve
        (Path.ofText "/scratch") (Path.ofText "/a.zip")).1 =
          .error (.io (.other "corrupt deflate stream")) := by
      decide +kernel
    exact ⟨_, hfailed, scratch_given_back.1 _ _ _ _ _ (Prod.ext hfailed rfl)⟩
  · have hresolved : ((Disk.packed [.whole 8 "a.shp" [1]]).resolve
        (Path.ofText "/scratch") (Path.ofText "/a.zip")).1 =
          .ok ⟨.shapefileArchive, Path.ofText "/scratch/layer-import-0/a.shp",
            some (Path.ofText "/scratch/layer-import-0")⟩ := by
      decide +kernel
    exact ⟨_, _, Prod.ext hresolved rfl,
      (scratch_given_back.2.1 _ _ _ _ _ (Prod.ext hresolved rfl) (by decide +kernel)).2⟩
  · exact (scratch_given_back.2.2.1 _ _ _ (by decide +kernel)).1
  · have hasked : (Procedure.visits (Site.handle Surroundings.plain)
        (Work.importLayer .plain ⟨1⟩).run (Site.packed [.whole 8 "a.shp" [1]])).any
          (fun visit => visit.1 == .call (.extent "roads")) = true := by
      decide +kernel
    obtain ⟨visit, hvisit, hcall⟩ := List.any_eq_true.mp hasked
    have hextent : visit.1 = .call (.extent "roads") := eq_of_beq hcall
    exact ⟨visit, hvisit, hextent, (scratch_given_back.2.2.2 Unit .plain .plain ⟨1⟩
      (Site.packed [.whole 8 "a.shp" [1]])).2 visit hvisit "roads" hextent⟩

end LayerPress
