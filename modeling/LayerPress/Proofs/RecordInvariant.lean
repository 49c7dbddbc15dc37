import LayerPress.Proofs.LayerRecords
import LayerPress.Proofs.Plain

/-!
# The invariant of layer records

From layers as they are created, imports, resets and deletions leave every record sound,
whatever the services and the record store answer.

The two names of a record are written by different statements, one inside the import's
transaction and one after it. The invariant therefore follows the phases of an import: what is
stored is sound throughout, and so is the draft of a transaction that is open.
-/

namespace LayerPress

/-! ## The phases of an import and its records -/

/-- What the shelf holds when an import of an id has come to a phase. -/
def ImportPhase.Agrees (settings : ImportSettings) (initial : List Layer) (id : Uuid)
    (who : Actor) : ImportPhase → Shelf → Prop
  | seeking, s => s.draft = none
  | found l, s | loaded l, s => IsKnown settings initial id l ∧ s.draft = none
  | opened l, s =>
    IsKnown settings initial id l ∧
      ∃ layers, s.draft = some (who, layers) ∧ SoundLayers settings initial layers
  | changed l row, s =>
    IsKnown settings initial id l ∧ row.id = id ∧
      ∃ layers, s.draft = some (who, layers) ∧ SoundLayers settings initial layers ∧
        HaveTable id layers
  | recorded l row, s | published l row, s =>
    IsKnown settings initial id l ∧ row.id = id ∧ s.draft = none ∧ HaveTable id s.stored

namespace ImportPhase.Agrees

variable {settings : ImportSettings} {initial : List Layer} {id : Uuid} {who : Actor}
  {phase : ImportPhase} {s s' : Shelf}

/-- Outside the transaction there is no draft. -/
theorem draft_eq_none (h : phase.Agrees settings initial id who s)
    (hclosed : phase.isClosed = true) : s.draft = none := by
  cases phase with
  | seeking => exact h
  | found | loaded => exact h.2
  | opened | changed => cases hclosed
  | recorded | published => exact h.2.2.1

/-- Nobody else has a draft. -/
theorem isFreeFor (h : phase.Agrees settings initial id who s) : s.IsFreeFor who := by
  intro holder layers hdraft
  cases hclosed : phase.isClosed with
  | true => rw [h.draft_eq_none hclosed] at hdraft; cases hdraft
  | false =>
    cases phase with
    | opened l =>
      obtain ⟨-, own, hown, -⟩ := h
      rw [hown] at hdraft
      cases hdraft
      rfl
    | changed l row =>
      obtain ⟨-, -, own, hown, -⟩ := h
      rw [hown] at hdraft
      cases hdraft
      rfl
    | _ => cases hclosed

/-- An admitted call keeps the agreement. -/
theorem call {c : ServiceCall} (h : phase.Agrees settings initial id who s)
    (hadmits : c.isOpenToImport settings phase) (x : Except Failure c.Value) :
    (phase.after (.call c) x).Agrees settings initial id who s := by
  cases c with
  | run =>
    obtain ⟨l, _, rfl, -⟩ := hadmits
    cases x with
    | error f => exact h
    | ok output =>
      simp only [after]
      split <;> exact h
  | publish =>
    obtain ⟨l, row, rfl, -⟩ := hadmits
    cases x <;> exact h
  | count | geometryType | extent | columns => cases phase <;> exact h
  | drop | unpublish | info => exact hadmits.elim

/-- An admitted statement keeps records sound and the agreement. -/
theorem statement (h : phase.Agrees settings initial id who s)
    (hids : (initial.map (·.id)).Nodup) (hstored : SoundLayers settings initial s.stored)
    {st : Statement} (hadmits : st.isOpenToImport settings id phase)
    {x : Except RecordFault st.Value} (hstep : Shelf.Step who (.statement st) x s s') :
    SoundLayers settings initial s'.stored ∧
      (phase.after (.records (.statement st)) x).Agrees settings initial id who s' := by
  cases st with
  | findLayer i =>
    obtain ⟨rfl, hclosed⟩ := hadmits
    have hnone := h.draft_eq_none hclosed
    cases hstep with
    | faulted f => exact ⟨hstored, hnone⟩
    | executed _ heffect =>
      rw [Shelf.seenBy_of_none hnone] at heffect
      cases heffect with
      | found =>
        rw [Shelf.put_of_none hnone]
        refine ⟨hstored, ?_⟩
        cases hfound : s.stored.find? (·.id == i) with
        | none => exact hnone
        | some l => exact ⟨hstored.isKnown hfound, hnone⟩
  | changeLayer i change =>
    cases change with
    | loaded table features kind extent now =>
      obtain ⟨rfl, l, rfl, rfl⟩ := hadmits
      obtain ⟨hknown, layers, hdraft, hlayers⟩ := h
      cases hstep with
      | faulted f => exact ⟨hstored, hknown, layers, hdraft, hlayers⟩
      | executed _ heffect =>
        rw [Shelf.seenBy_of_some hdraft] at heffect
        cases heffect with
        | @changed _ _ row _ hrow =>
          rw [Shelf.put_of_some hdraft]
          obtain ⟨hsound, htable⟩ := hlayers.map_loaded hids hknown features kind extent now
          have hrowid : row.id = i := by simpa using List.find?_some hrow
          exact ⟨hstored, hknown, hrowid, _, rfl, hsound, htable⟩
    | published entry now =>
      obtain ⟨l, row, rfl, rfl, rfl⟩ := hadmits
      obtain ⟨hknown, hrowid, hnone, htable⟩ := h
      cases hstep with
      | faulted f => exact ⟨hstored, hknown, hrowid, hnone, htable⟩
      | executed _ heffect =>
        rw [Shelf.seenBy_of_none hnone] at heffect
        cases heffect with
        | changed =>
          rw [Shelf.put_of_none hnone]
          subst hrowid
          obtain ⟨hsound, htable'⟩ := hstored.map_published hids hknown htable now
          exact ⟨hsound, hknown, rfl, hnone, htable'⟩
    | cleared => exact hadmits.elim
  | findAttribute | insertAttribute | showAttribute =>
    obtain ⟨l, row, rfl⟩ := hadmits
    rw [hstep.eq_of_keepsLayers rfl]
    exact ⟨hstored, h⟩
  | listLayers | insertLayer | deleteLayer | listAttributes | deleteAttributes => exact hadmits.elim

/-- An admitted action keeps records sound and the agreement. -/
theorem act (h : phase.Agrees settings initial id who s) (hids : (initial.map (·.id)).Nodup)
    (hstored : SoundLayers settings initial s.stored) {a : SiteAction}
    (hadmits : (importMonitor settings id).admits phase a) {x : a.Answer}
    (hdoes : Shelf.Does who (.site a) x s s') :
    SoundLayers settings initial s'.stored ∧ (phase.after a x).Agrees settings initial id who s' := by
  cases a with
  | call c => cases hdoes; exact ⟨hstored, h.call hadmits x⟩
  | rollback =>
    cases phase with
    | opened l =>
      obtain ⟨-, layers, hdraft, -⟩ := h
      cases hdoes
      simp only [Shelf.forget, hdraft, if_true]
      exact ⟨hstored, rfl⟩
    | changed l row =>
      obtain ⟨-, -, layers, hdraft, -, -⟩ := h
      cases hdoes
      simp only [Shelf.forget, hdraft, if_true]
      exact ⟨hstored, rfl⟩
    | _ => cases hadmits
  | records a =>
    cases a with
    | statement st => exact h.statement hids hstored hadmits hdoes
    | «begin» =>
      obtain ⟨l, rfl⟩ := hadmits
      cases hdoes with
      | faulted f => exact ⟨hstored, h⟩
      | began => exact ⟨hstored, h.1, s.stored, rfl, hstored⟩
    | commit =>
      obtain ⟨l, row, rfl⟩ := hadmits
      obtain ⟨hknown, hrowid, layers, hdraft, hlayers, htable⟩ := h
      cases hdoes with
      | faulted f => exact ⟨hstored, hknown, hrowid, layers, hdraft, hlayers, htable⟩
      | committed =>
        rw [Shelf.seenBy_of_some hdraft]
        exact ⟨hlayers, hknown, hrowid, rfl, htable⟩
  | note | isFile | resolve | release | now | pause =>
    cases hdoes
    refine ⟨hstored, ?_⟩
    cases phase <;> exact h

end ImportPhase.Agrees

/-! ## Operations in sequence -/

/-- Records to which layers were added as they are declared. -/
inductive Records.Created : Records → Prop
  | empty : Created .empty
  | declare {r after : Records} (id : Uuid) (title slug layerKind geometryKind : String)
      (sourceFile : Option String) (now : Timestamp) (h : Created r)
      (hinsert : r.insertLayer
        (.declared id title slug layerKind geometryKind sourceFile now) = .ok after) :
      Created after

/-- Created layers have ids of their own, and neither table nor entry. -/
theorem Records.Created.fresh {r : Records} (h : r.Created) :
    (r.layers.map (·.id)).Nodup ∧
      ∀ l ∈ r.layers, l.tableName = none ∧ l.catalogEntry = none := by
  induction h with
  | empty => exact ⟨List.nodup_nil, fun l hl => absurd hl List.not_mem_nil⟩
  | @declare r after id _ _ _ _ _ _ _ hinsert ih =>
    simp only [Records.insertLayer] at hinsert
    split at hinsert
    · cases hinsert
    · next hid =>
      split at hinsert
      · cases hinsert
      · cases hinsert
        refine ⟨?_, fun l hl => ?_⟩
        · rw [List.map_append]
          refine List.nodup_append'.mpr ⟨ih.1, List.nodup_singleton _, ?_⟩
          intro i hi hi'
          obtain ⟨l, hl, rfl⟩ := List.mem_map.mp hi
          have hfresh : ∀ l ∈ r.layers, l.id ≠ id := by simpa [Layer.declared] using hid
          exact hfresh l hl (List.mem_singleton.mp hi')
        · rcases List.mem_append.mp hl with hl | hl
          · exact ih.2 l hl
          · rw [List.mem_singleton.mp hl]
            exact ⟨rfl, rfl⟩

/-- Created layers are sound beside themselves. -/
theorem Records.Created.soundLayers {r : Records} (h : r.Created) (settings : ImportSettings) :
    SoundLayers settings r.layers r.layers := fun l hl =>
  ⟨l, hl, .declared (h.fresh.2 l hl).1 (h.fresh.2 l hl).2⟩

/-- An operation on layers that is performed to its end. -/
inductive LayerOperation where
  | runImport (layer : Uuid)
  | bulkReset (layers : List Uuid)
  | deleteLayer (layer : Uuid)
  deriving DecidableEq, Repr

/-- The machine after a task has come to its end, if it does. -/
def Machine.afterTask? {σ α : Type} (office : Office σ) (m : Machine σ) (t : Task α) :
    Option (Machine σ) :=
  match m.serve office (.client 0) t with
  | (some _, after) => some after
  | (none, _) => none

/-- The machine after an operation has come to its end; what a reset or a deletion leaves to tear
down is queued as a job. -/
def Machine.after? {σ : Type} (office : Office σ) (m : Machine σ) :
    LayerOperation → Option (Machine σ)
  | .runImport layer => m.afterTask? office (Task.ofWork (Work.runImport office.settings layer))
  | .bulkReset layers => m.afterTask? office (JobRequest.bulkReset layers).task
  | .deleteLayer layer => m.afterTask? office (JobRequest.deleteLayer layer).task

/-- The machine after operations one after another, if each of them comes to its end. -/
def Machine.afterAll? {σ : Type} (office : Office σ) (m : Machine σ) (ops : List LayerOperation) :
    Option (Machine σ) :=
  ops.foldlM (Machine.after? office) m

/-- Admits of a task what a monitor admits of work, and nothing but actions on the site. -/
def Monitor.onSite {M : Type} (A : Monitor siteActions M) : Monitor taskActions M where
  admits m a :=
    match a with
    | .site a => A.admits m a
    | _ => False
  after m a x :=
    match a, x with
    | .site a, x => A.after m a x
    | _, _ => m

/-- Work that passes also passes as a task. -/
theorem Monitor.Passes.ofWork {M α : Type} {A : Monitor siteActions M} {Q : α → M → Prop} {m : M}
    {w : Work α} (h : A.Passes Q m w) : A.onSite.Passes Q m (Task.ofWork w) := by
  refine Monitor.Passes.expand (I := (· = ·)) h rfl ?_ fun _ _ _ hphase hQ => hphase ▸ hQ
  rintro m _ a rfl hadmits
  exact ⟨hadmits, fun x => rfl⟩

/-- A task that passes comes to its end when none of its actions has to wait, and what ties the
monitor to the machine holds at the end. -/
theorem Monitor.Passes.serve {σ M α : Type} {office : Office σ} {who : Actor}
    {A : Monitor taskActions M} {Q : α → M → Prop} {I : M → Machine σ → Prop} {phase : M}
    {m : Machine σ} {t : Task α} (h : A.Passes Q phase t) (hI : I phase m)
    (hstep : ∀ phase m a, I phase m → A.admits phase a →
      ∃ x after, m.handle office who a = some (x, after) ∧ I (A.after phase a x) after) :
    ∃ r after last, m.serve office who t = (some r, after) ∧ Q r last ∧ I last after := by
  induction t generalizing phase m with
  | result r => exact ⟨r, m, phase, rfl, h, hI⟩
  | perform a next ih =>
    obtain ⟨x, after, hhandle, hafter⟩ := hstep phase m a hI h.1
    obtain ⟨r, final, last, hserve, hQ, hlast⟩ := ih x (h.2 x) hafter
    refine ⟨r, final, last, ?_, hQ, hlast⟩
    rw [Machine.serve, hhandle]
    exact hserve

/-- Between operations no transaction is open, and every record is sound. -/
structure Shelf.Rested (settings : ImportSettings) (initial : List Layer) (s : Shelf) : Prop where
  closed : s.draft = none
  sound : SoundLayers settings initial s.stored

/-- A statement that is open to requests keeps a shelf at rest. -/
theorem Shelf.Rested.statement {settings : ImportSettings} {initial : List Layer} {s s' : Shelf}
    {who : Actor} {st : Statement} {x : Except RecordFault st.Value}
    (h : s.Rested settings initial) (hopen : st.isOpenToRequests)
    (hstep : Shelf.Step who (.statement st) x s s') : s'.Rested settings initial := by
  cases hstep with
  | faulted => exact h
  | executed _ heffect =>
    rw [Shelf.seenBy_of_none h.closed] at heffect
    rw [Shelf.put_of_none h.closed]
    exact ⟨h.closed, h.sound.of_request hopen heffect⟩

/-- The records are sound, and agree with an import that has come to a phase and works alone. -/
structure Machine.TiedTo {σ : Type} (settings : ImportSettings) (initial : List Layer) (layer : Uuid)
    (phase : ImportPhase) (m : Machine σ) : Prop where
  held : m.IsHeld
  sound : SoundLayers settings initial m.shelf.stored
  agrees : phase.Agrees settings initial layer (.client 0) m.shelf

/-- What the import does next is done at once, and the records agree with its next phase. -/
theorem Machine.TiedTo.exists_handle {σ : Type} {office : Office σ} {initial : List Layer}
    {layer : Uuid} {phase : ImportPhase} {m : Machine σ}
    (h : m.TiedTo office.settings initial layer phase) (hids : (initial.map (·.id)).Nodup)
    {a : TaskAction} (hadmits : (importMonitor office.settings layer).onSite.admits phase a) :
    ∃ x after, m.handle office (.client 0) a = some (x, after) ∧
      after.TiedTo office.settings initial layer
        ((importMonitor office.settings layer).onSite.after phase a x) := by
  cases a with
  | site a =>
    have hnext : ∃ x after, m.handle office (.client 0) (.site a) = some (x, after) :=
      Machine.exists_handle nofun (Machine.isHeldAgainst_of_isFreeFor h.held h.agrees.isFreeFor)
    obtain ⟨x, after, hhandle⟩ := hnext
    obtain ⟨hheld, hdoes⟩ := Machine.shelf_of_handle h.held hhandle
    obtain ⟨hstored, hagrees⟩ := h.agrees.act hids h.sound hadmits hdoes
    exact ⟨x, after, hhandle, hheld, hstored, hagrees⟩
  | _ => exact hadmits.elim

namespace LayerOperation

variable {σ : Type} {office : Office σ} {settings : ImportSettings} {initial : List Layer}
  {m : Machine σ}

/-- An import comes to its end and leaves records sound. -/
theorem exists_serve_runImport (hids : (initial.map (·.id)).Nodup)
    (hheld : m.IsHeld) (hm : m.shelf.Rested office.settings initial) (layer : Uuid) :
    ∃ outcome after,
      m.serve office (.client 0) (Task.ofWork (Work.runImport office.settings layer)) =
        (some outcome, after) ∧ after.IsHeld ∧ after.shelf.Rested office.settings initial := by
  have hwork := (Work.importWork_runImport office.settings layer).ofWork
  have hstart : m.TiedTo office.settings initial layer .seeking := ⟨hheld, hm.sound, hm.closed⟩
  obtain ⟨outcome, after, last, hserve, ⟨hclosed, -⟩, htied⟩ :=
    hwork.serve hstart fun _ _ _ htied hadmits => htied.exists_handle hids hadmits
  exact ⟨outcome, after, hserve, htied.held, htied.agrees.draft_eq_none hclosed, htied.sound⟩

/-- What is open to requests keeps a shelf at rest. -/
theorem rested_of_does {s s' : Shelf} (h : s.Rested settings initial) {a : TaskAction}
    (hopen : a.isOpenToRequests) {x : a.Answer} {who : Actor} (hdoes : Shelf.Does who a x s s') :
    s'.Rested settings initial := by
  cases a with
  | site a =>
    cases a with
    | records a =>
      cases a with
      | statement st => exact h.statement hopen hdoes
      | «begin» | commit => exact hopen.elim
    | now => cases hdoes; exact h
    | _ => exact hopen.elim
  | queueImport | queueTeardown | runningImport => cases hdoes; exact h
  | _ => exact hopen.elim

/-- A request comes to its end and leaves records sound. -/
theorem exists_serve_request (hheld : m.IsHeld) (hm : m.shelf.Rested settings initial)
    (r : JobRequest) :
    ∃ answer after, m.serve office (.client 0) r.task = (some answer, after) ∧
      after.IsHeld ∧ after.shelf.Rested settings initial := by
  have hstep (_ : Unit) (m : Machine σ) (a : TaskAction)
      (htied : m.IsHeld ∧ m.shelf.Rested settings initial) (hopen : a.isOpenToRequests) :
      ∃ x after, m.handle office (.client 0) a = some (x, after) ∧
        after.IsHeld ∧ after.shelf.Rested settings initial := by
    obtain ⟨hheld, hm⟩ := htied
    have hfree : m.shelf.IsFreeFor (.client 0) := fun holder layers hdraft => by
      rw [hm.closed] at hdraft
      cases hdraft
    have hpermit : a ≠ .takePermit := by
      rintro rfl
      exact hopen
    have hnext : ∃ x after, m.handle office (.client 0) a = some (x, after) :=
      Machine.exists_handle hpermit (Machine.isHeldAgainst_of_isFreeFor hheld hfree)
    obtain ⟨x, after, hhandle⟩ := hnext
    obtain ⟨hheld', hdoes⟩ := Machine.shelf_of_handle hheld hhandle
    exact ⟨x, after, hhandle, hheld', rested_of_does hm hopen hdoes⟩
  obtain ⟨answer, after, -, hserve, -, hafter⟩ :=
    r.requestTask_task.serve (I := fun _ m => m.IsHeld ∧ m.shelf.Rested settings initial)
      ⟨hheld, hm⟩ hstep
  exact ⟨answer, after, hserve, hafter⟩

/-- Every operation comes to its end and leaves the records sound. -/
theorem exists_after (hids : (initial.map (·.id)).Nodup) (hheld : m.IsHeld)
    (hm : m.shelf.Rested office.settings initial) (op : LayerOperation) :
    ∃ after, m.after? office op = some after ∧
      after.IsHeld ∧ after.shelf.Rested office.settings initial := by
  have hrequest (r : JobRequest) : ∃ after, m.afterTask? office r.task = some after ∧
      after.IsHeld ∧ after.shelf.Rested office.settings initial := by
    have hserved : ∃ answer after, m.serve office (.client 0) r.task = (some answer, after) ∧
        after.IsHeld ∧ after.shelf.Rested office.settings initial :=
      exists_serve_request hheld hm r
    obtain ⟨answer, after, hserve, hafter⟩ := hserved
    exact ⟨after, by simp only [Machine.afterTask?, hserve], hafter⟩
  cases op with
  | runImport layer =>
    obtain ⟨outcome, after, hserve, hafter⟩ := exists_serve_runImport hids hheld hm layer
    exact ⟨after, by simp only [Machine.after?, Machine.afterTask?, hserve], hafter⟩
  | bulkReset layers => exact hrequest (.bulkReset layers)
  | deleteLayer layer => exact hrequest (.deleteLayer layer)

/-- Any number of operations come to their ends and leave the records sound. -/
theorem exists_afterAll (hids : (initial.map (·.id)).Nodup) (hheld : m.IsHeld)
    (hm : m.shelf.Rested office.settings initial) (ops : List LayerOperation) :
    ∃ after, m.afterAll? office ops = some after ∧
      after.IsHeld ∧ after.shelf.Rested office.settings initial := by
  induction ops generalizing m with
  | nil => exact ⟨m, rfl, hheld, hm⟩
  | cons op rest ih =>
    obtain ⟨after, hafter, hheld', hm'⟩ := exists_after hids hheld hm op
    obtain ⟨final, hfinal, hend⟩ := ih hheld' hm'
    refine ⟨final, ?_, hend⟩
    rw [Machine.afterAll?, List.foldlM_cons, hafter]
    exact hfinal

end LayerOperation

/-- From layers as they are created, operations in any order come to their ends, and every record
they leave has the table of its slug or none, the entry of that table or none and only with the
table, and all that it was created with. The status of a layer with a slug shows its names. -/
theorem records_sound {σ : Type} (office : Office σ) (m : Machine σ)
    (hcreated : m.site.records.Created) (hholder : m.holder = none)
    (hworking : m.site.working = none) (ops : List LayerOperation) :
    ∃ after, m.afterAll? office ops = some after ∧
      ∀ l ∈ after.site.records.layers, ∃ created ∈ m.site.records.layers,
        l.Sound office.settings created ∧ (l.slug ≠ "" → l.ShowsNames) := by
  have hheld : m.IsHeld := by rw [Machine.IsHeld, hholder, hworking]; rfl
  have hclosed : m.shelf.draft = none := by
    simp only [Machine.shelf, hholder]
    rfl
  have hrested : m.shelf.Rested office.settings m.site.records.layers :=
    ⟨hclosed, hcreated.soundLayers office.settings⟩
  obtain ⟨after, hafter, -, hend⟩ :=
    LayerOperation.exists_afterAll hcreated.fresh.1 hheld hrested ops
  refine ⟨after, hafter, fun l hl => ?_⟩
  obtain ⟨created, hmem, hsound⟩ := hend.sound l hl
  exact ⟨created, hmem, hsound, hsound.showsNames⟩

/-- The plain site was created with its layer. -/
theorem Site.plain_created (slug : String) : (Site.plain [.plain slug]).records.Created :=
  .declare ⟨1⟩ "Roads" slug "vector" "line" (some "r.shp") ⟨2020, 1, 1, 0, 0, 0, 0⟩ .empty rfl

/-- The invariant after an import, a reset, another import and a deletion of the plain layer. -/
theorem records_sound_plain :
    (Site.plain [.plain "roads"]).records.Created ∧
      ∃ after, (Machine.start (Site.plain [.plain "roads"]) 1).afterAll? .plain
          [.runImport ⟨1⟩, .bulkReset [⟨1⟩], .runImport ⟨1⟩, .deleteLayer ⟨2⟩] = some after ∧
        ∀ l ∈ after.site.records.layers, ∃ created ∈ [Layer.plain "roads"],
          l.Sound .plain created ∧ (l.slug ≠ "" → l.ShowsNames) :=
  ⟨Site.plain_created "roads",
    records_sound .plain (.start (Site.plain [.plain "roads"]) 1) (Site.plain_created "roads") rfl
      rfl [.runImport ⟨1⟩, .bulkReset [⟨1⟩], .runImport ⟨1⟩, .deleteLayer ⟨2⟩]⟩

/-- After these operations the layer has both names. -/
example :
    ((Machine.start (Site.plain [.plain "roads"]) 1).afterAll? .plain
      [.runImport ⟨1⟩, .bulkReset [⟨1⟩], .runImport ⟨1⟩, .deleteLayer ⟨2⟩]).map
        (fun after => after.site.records.layers.map fun l => (l.tableName, l.catalogEntry)) =
      some [(some "roads", some "gis:roads")] := by
  decide +kernel

end LayerPress
