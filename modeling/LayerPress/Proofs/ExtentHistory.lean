import LayerPress.Proofs.Extents
import LayerPress.Proofs.LoadedRecord
import LayerPress.Proofs.RecordInvariant
import LayerPress.Proofs.Serving

/-!
# The extent after a history of operations

From layers as they are created, imports, resets and deletions leave in every record the extent that
was recorded last, or none if the record was cleared since. A successful import has recorded what it
was told last of its table; one that fails may have recorded a load all the same. The record shows
all four edges of the extent unless some of them are not numbers, and those are missing then.
-/

namespace LayerPress

/-! ## Work and requests on a machine -/

namespace Machine

variable {σ α : Type} {office : Office σ} {m after : Machine σ}

/-- The exchanges of a task that runs while no other moves. -/
def exchanges (office : Office σ) (who : Actor) :
    Task α → Machine σ → List (Exchange taskActions)
  | .result _, _ => []
  | .perform a next, m =>
    match m.handle office who a with
    | some (x, after) => ⟨a, x⟩ :: exchanges office who (next x) after
    | none => []

end Machine

/-- The record of a layer was cleared. -/
def Exchange.clears (layer : Uuid) : Exchange taskActions → Bool
  | ⟨.site (.records (.statement (.changeLayer id (.cleared _)))), .ok _⟩ => id == layer
  | _ => false

/-! ## The extent after an operation -/

/-- The extent of a layer after a request, which is none if the request has cleared the record. -/
def JobRequest.extentAfter {σ : Type} (office : Office σ) (layer : Uuid) (m : Machine σ)
    (extent : Option BoundingBox) (r : JobRequest) : Option BoundingBox :=
  if (m.exchanges office (.client 0) r.task).any (·.clears layer) then none else extent

/-- The extent of a layer after its import. A successful import leaves what it was told last of the
table, and one that fails what it has recorded, if it has recorded anything. -/
def Machine.extentAfterImport {σ : Type} (office : Office σ) (layer : Uuid) (table : String)
    (m : Machine σ) (extent : Option BoundingBox) : Option BoundingBox :=
  let work := Work.runImport office.settings layer
  let notes := (m.site.transcript office.surroundings work).foldl (ExtentNotes.note table)
    ⟨none, extent⟩
  if (m.site.run office.surroundings work).1.success then notes.told else notes.recorded

/-- The extent of a layer after an operation; imports of other layers leave it. -/
def LayerOperation.extentAfter {σ : Type} (office : Office σ) (layer : Uuid) (table : String)
    (m : Machine σ) (extent : Option BoundingBox) : LayerOperation → Option BoundingBox
  | .runImport id => if id = layer then m.extentAfterImport office layer table extent else extent
  | .bulkReset ids => (JobRequest.bulkReset ids).extentAfter office layer m extent
  | .deleteLayer id => (JobRequest.deleteLayer id).extentAfter office layer m extent

/-- The extent of a layer after operations one after another. -/
def Machine.extentAfterAll {σ : Type} (office : Office σ) (layer : Uuid) (table : String) :
    Machine σ → Option BoundingBox → List LayerOperation → Option BoundingBox
  | _, extent, [] => extent
  | m, extent, op :: rest =>
    match m.after? office op with
    | some after =>
      after.extentAfterAll office layer table (op.extentAfter office layer table m extent) rest
    | none => extent

/-! ## What operations leave -/

/-- No transaction is open, and the records of a layer show an extent. -/
structure Shelf.Shows (layer : Uuid) (table : String) (extent : Option BoundingBox) (s : Shelf) :
    Prop where
  closed : s.draft = none
  layers : LayersShow layer table extent s.stored

section
variable {σ α : Type} {office : Office σ} {m after : Machine σ} {layer : Uuid} {table : String}
  {extent : Option BoundingBox}

/-- What is open to requests leaves the extent, unless it clears the record. -/
theorem Shelf.Shows.does {s s' : Shelf} (h : s.Shows layer table extent) {who : Actor}
    {a : TaskAction} {x : a.Answer} (hopen : a.isOpenToRequests) (hdoes : Shelf.Does who a x s s') :
    s'.Shows layer table (if Exchange.clears layer ⟨a, x⟩ then none else extent) := by
  have hsame (hshelf : s' = s) : s'.Shows layer table extent := hshelf ▸ h
  cases a with
  | site a =>
    cases a with
    | records a =>
      cases a with
      | statement st =>
        cases st with
        | findLayer | deleteAttributes => exact hsame (hdoes.eq_of_keepsLayers rfl)
        | changeLayer id change =>
          cases change with
          | cleared now =>
            cases hdoes with
            | faulted => exact h
            | executed _ heffect =>
              rw [Shelf.seenBy_of_none h.closed] at heffect
              rw [Shelf.put_of_none h.closed]
              cases heffect with
              | changed => exact ⟨h.closed, h.layers.changed id (.cleared now)⟩
          | _ => exact hopen.elim
        | deleteLayer id =>
          cases hdoes with
          | faulted => exact h
          | executed _ heffect =>
            rw [Shelf.seenBy_of_none h.closed] at heffect
            rw [Shelf.put_of_none h.closed]
            cases heffect with
            | deleted => exact ⟨h.closed, fun l hl => h.layers l (List.mem_of_mem_filter hl)⟩
        | _ => exact hopen.elim
      | «begin» | commit => exact hopen.elim
    | now => exact hsame hdoes
    | _ => exact hopen.elim
  | queueImport | queueTeardown | runningImport => exact hsame hdoes
  | _ => exact hopen.elim

/-- A task that keeps to what is open to requests leaves the extent, unless it clears the record. -/
theorem RequestTask.shows {t : Task α} (ht : RequestTask t) {who : Actor} {a : α}
    (hheld : m.IsHeld) (hm : m.shelf.Shows layer table extent)
    (hserve : m.serve office who t = (some a, after)) :
    after.IsHeld ∧ after.shelf.Shows layer table
      (if (m.exchanges office who t).any (·.clears layer) then none else extent) := by
  induction t generalizing m extent with
  | result a =>
    cases hserve
    exact ⟨hheld, hm⟩
  | perform action next ih =>
    rw [Machine.serve] at hserve
    rw [Machine.exchanges]
    cases hhandle : m.handle office who action with
    | none =>
      rw [hhandle] at hserve
      cases hserve
    | some answered =>
      obtain ⟨x, between⟩ := answered
      rw [hhandle] at hserve
      obtain ⟨hheld', hdoes⟩ := Machine.shelf_of_handle hheld hhandle
      have hend := ih x (ht.2 x) hheld' (hm.does ht.1 hdoes) hserve
      dsimp only
      rw [List.any_cons]
      cases hclears : Exchange.clears layer ⟨action, x⟩ with
      | true => simpa [hclears] using hend
      | false => simpa [hclears] using hend

/-- Without a transaction nobody holds one. -/
theorem Machine.holder_working (hheld : m.IsHeld) (hclosed : m.shelf.draft = none) :
    m.holder = none ∧ m.site.working = none := by
  unfold Machine.IsHeld at hheld
  unfold Machine.shelf at hclosed
  cases hholder : m.holder with
  | none =>
    rw [hholder] at hheld
    exact ⟨rfl, by simpa using hheld.symm⟩
  | some who =>
    rw [hholder] at hheld hclosed
    cases hworking : m.site.working with
    | none => rw [hworking] at hheld; cases hheld
    | some w => rw [hworking] at hclosed; cases hclosed

/-- A request leaves the extent, unless it clears the record. -/
theorem JobRequest.shows_after (hheld : m.IsHeld) (hm : m.shelf.Shows layer table extent)
    (r : JobRequest) (hafter : m.afterTask? office r.task = some after) :
    after.IsHeld ∧ after.shelf.Shows layer table (r.extentAfter office layer m extent) := by
  unfold Machine.afterTask? at hafter
  split at hafter
  · next hserve =>
    cases hafter
    exact r.requestTask_task.shows hheld hm hserve
  · cases hafter

/-- An import ends where its work ends on the site, and shows what the site shows if that is not in
a transaction. -/
theorem Machine.shows_of_site (hholder : m.holder = none) (hworking : m.site.working = none)
    {id : Uuid} (hafter : m.after? office (.runImport id) = some after) {last : Site σ}
    (hlast : (m.site.run office.surroundings (Work.runImport office.settings id)).2 = last)
    (hdraft : last.register.draft = none)
    (hlayers : LayersShow layer table extent last.register.stored.layers) :
    after.IsHeld ∧ after.shelf.Shows layer table extent := by
  simp only [Machine.after?, Machine.afterTask?, serve_ofWork hholder hworking, hlast,
    Option.some.injEq] at hafter
  subst hafter
  refine ⟨Machine.isHeld_withSite .., ?_⟩
  rw [Machine.shelf_withSite]
  refine ⟨?_, hlayers⟩
  rw [Machine.shelfOf, show Site.working _ = none from hdraft, Option.map_none]

/-- An import leaves the extent that was recorded last, and that of other layers. -/
theorem Machine.shows_after_runImport (hheld : m.IsHeld) (hm : m.shelf.Shows layer table extent)
    (id : Uuid) (hafter : m.after? office (.runImport id) = some after) :
    after.IsHeld ∧ after.shelf.Shows layer table
      ((LayerOperation.runImport id).extentAfter office layer table m extent) := by
  obtain ⟨hholder, hworking⟩ := Machine.holder_working hheld hm.closed
  have hregister : m.site.register = ⟨m.site.records, none⟩ := by rw [Site.register, hworking]
  rw [LayerOperation.extentAfter]
  split
  · next hsame =>
    subst hsame
    have himport := Work.ensures_runImport_layersShow office.settings m.site.records hm.layers
    rw [← hregister] at himport
    obtain ⟨hdraft, hlayers, htold⟩ := himport.run (Site.does_handle office.surroundings)
    rw [Machine.extentAfterImport]
    split
    · next hsuccess =>
      exact shows_of_site hholder hworking hafter rfl hdraft (htold hsuccess ▸ hlayers)
    · exact shows_of_site hholder hworking hafter rfl hdraft hlayers
  · next hne =>
    have himport := Work.ensures_runImport_of_ne office.settings m.site.records hne hm.layers
    rw [← hregister] at himport
    obtain ⟨hdraft, hlayers⟩ := himport.run (Site.does_handle office.surroundings)
    exact shows_of_site hholder hworking hafter rfl hdraft hlayers

/-- An operation leaves the extent that its exchanges tell. -/
theorem LayerOperation.shows_after (hheld : m.IsHeld) (hm : m.shelf.Shows layer table extent)
    (op : LayerOperation) (hafter : m.after? office op = some after) :
    after.IsHeld ∧
      after.shelf.Shows layer table (op.extentAfter office layer table m extent) := by
  cases op with
  | runImport id => exact Machine.shows_after_runImport hheld hm id hafter
  | bulkReset ids => exact JobRequest.shows_after hheld hm (.bulkReset ids) hafter
  | deleteLayer id => exact JobRequest.shows_after hheld hm (.deleteLayer id) hafter

/-- Operations one after another leave the extent that their exchanges tell. -/
theorem LayerOperation.shows_afterAll (hheld : m.IsHeld) (hm : m.shelf.Shows layer table extent)
    (ops : List LayerOperation) (hafter : m.afterAll? office ops = some after) :
    after.shelf.Shows layer table (m.extentAfterAll office layer table extent ops) := by
  induction ops generalizing m extent with
  | nil =>
    cases hafter
    exact hm
  | cons op rest ih =>
    rw [Machine.afterAll?, List.foldlM_cons] at hafter
    obtain ⟨between, hop, hrest⟩ := Option.bind_eq_some_iff.mp hafter
    obtain ⟨hheld', hm'⟩ := op.shows_after hheld hm hop
    rw [Machine.extentAfterAll, hop]
    exact ih hheld' hm' hrest

end

/-! ## From layers as they are created -/

/-- Created layers show no extent. -/
theorem Records.Created.showsExtent {r : Records} (h : r.Created) :
    ∀ l ∈ r.layers, l.ShowsExtent none := by
  induction h with
  | empty => exact fun l hl => absurd hl List.not_mem_nil
  | declare id _ _ _ _ _ _ _ hinsert ih =>
    simp only [Records.insertLayer] at hinsert
    split at hinsert
    · cases hinsert
    · split at hinsert
      · cases hinsert
      · cases hinsert
        refine List.forall_mem_append.mpr ⟨ih, List.forall_mem_singleton.mpr ?_⟩
        exact ⟨rfl, rfl, rfl, rfl⟩

/-- From layers as they are created, operations in any order come to their ends, and every record
they leave shows the extent that was recorded last and not cleared since, each edge as the store
keeps it. So it has all edges or none exactly if that extent has no edge that is not a number, or no
other, and its extent is read exactly if there is one and all its edges are numbers. -/
theorem extent_afterAll {σ : Type} (office : Office σ) (m : Machine σ)
    (hcreated : m.site.records.Created) (hholder : m.holder = none)
    (hworking : m.site.working = none) (ops : List LayerOperation) :
    ∃ after, m.afterAll? office ops = some after ∧ ∀ l ∈ after.site.records.layers,
      let extent := m.extentAfterAll office l.id (Naming.tableName l.slug) none ops
      l.ShowsExtent extent ∧ (l.IsWhole ↔ ∀ box, extent = some box → box.IsUniform) ∧
        l.extent? = extent.bind BoundingBox.readBack? := by
  have hheld : m.IsHeld := by rw [Machine.IsHeld, hholder, hworking]; rfl
  have hclosed : m.shelf.draft = none := by
    simp only [Machine.shelf, hholder]
    rfl
  have hrested : m.shelf.Rested office.settings m.site.records.layers :=
    ⟨hclosed, hcreated.soundLayers office.settings⟩
  obtain ⟨after, hafter, -, hend⟩ :=
    LayerOperation.exists_afterAll hcreated.fresh.1 hheld hrested ops
  refine ⟨after, hafter, fun l hl => ?_⟩
  obtain ⟨created, hmem, hsound⟩ := hend.sound l hl
  have hinitial : LayersShow l.id (Naming.tableName l.slug) none m.shelf.stored := by
    intro row hrow hid
    obtain rfl : row = created :=
      List.inj_on_of_nodup_map hcreated.fresh.1 hrow hmem (hid.trans hsound.id)
    exact ⟨by rw [hsound.slug], hcreated.showsExtent row hrow⟩
  have hshown := LayerOperation.shows_afterAll hheld ⟨hclosed, hinitial⟩ ops hafter
  obtain ⟨-, hshows⟩ := hshown.layers l hl rfl
  exact ⟨hshows, hshows.isWhole_iff, hshows.extent?_eq⟩

/-- The record after two imports of the plain layer, each of which is told an extent, with a reset
between them. -/
theorem extent_afterAll_spanning :
    let office : Office Unit := { Office.plain with
      surroundings := .spanning ⟨.zero, .zero, .infinite true, .infinite false⟩ }
    let m := Machine.start (Site.plain [.plain "roads"]) 1
    let ops : List LayerOperation := [.runImport ⟨1⟩, .bulkReset [⟨1⟩], .runImport ⟨1⟩]
    m.site.records.Created ∧ ∃ after, m.afterAll? office ops = some after ∧
      ∀ l ∈ after.site.records.layers,
        let extent := m.extentAfterAll office l.id (Naming.tableName l.slug) none ops
        l.ShowsExtent extent ∧ (l.IsWhole ↔ ∀ box, extent = some box → box.IsUniform) ∧
          l.extent? = extent.bind BoundingBox.readBack? :=
  ⟨Site.plain_created "roads",
    extent_afterAll _ (.start (Site.plain [.plain "roads"]) 1) (Site.plain_created "roads") rfl rfl
      [.runImport ⟨1⟩, .bulkReset [⟨1⟩], .runImport ⟨1⟩]⟩

/-- An extent with one edge that is not a number leaves a record with three edges and no extent. -/
theorem edges_afterAll_notANumber :
    let office : Office Unit := { Office.plain with
      surroundings := .spanning ⟨.notANumber, .zero, .zero, .zero⟩ }
    ((Machine.start (Site.plain [.plain "roads"]) 1).afterAll? office [.runImport ⟨1⟩]).map
        (fun after => after.site.records.layers.map fun l => (l.edges, l.extent?)) =
      some [([none, some .zero, some .zero, some .zero], none)] := by
  decide +kernel

end LayerPress
