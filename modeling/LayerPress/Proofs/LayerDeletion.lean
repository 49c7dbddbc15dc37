import LayerPress.Proofs.AttributeUpsert
import LayerPress.Proofs.BulkReset
import LayerPress.Proofs.Clients

/-!
# Deleting a layer

Layers are declared, imported, reset and deleted, by requests, by jobs and by direct imports, in
any order and with any answers of services and record store. The tables stay whole: no two layers
share an id, no two attributes share an id or a field of one layer, and every attribute belongs to
a stored layer. No step has to know of the others for this, since no statement breaks it.

The deletion of a layer whose import is not running removes its row and every attribute of it,
whichever import has left that, and nothing else. If something of the layer has been imported, it
queues one teardown of the table and the entry that the row named, and otherwise none.
-/

namespace LayerPress

open Admin Admin.Handling

/-! ## Whole tables -/

/-- Layers have ids of their own, attributes have the keys of their table, and each belongs to a
stored layer. -/
structure Records.Whole (r : Records) : Prop where
  ids : (r.layers.map (·.id)).Nodup
  keyed : Attribute.Keyed r.attributes
  owned : ∀ a ∈ r.attributes, ∃ l ∈ r.layers, l.id = a.layer

namespace Records.Whole

variable {r after : Records}

/-- No rows are whole. -/
theorem empty : Records.empty.Whole where
  ids := List.nodup_nil
  keyed := ⟨List.nodup_nil, List.nodup_nil⟩
  owned := by simp [Records.empty]

/-- Layers whose ids stay still own their attributes. -/
theorem owned_of_ids (h : r.Whole) {layers : List Layer}
    (hids : layers.map (·.id) = r.layers.map (·.id)) :
    ∀ a ∈ r.attributes, ∃ l ∈ layers, l.id = a.layer := by
  intro a ha
  have hmem : a.layer ∈ r.layers.map (·.id) := List.mem_map.mpr (h.owned a ha)
  rw [← hids] at hmem
  exact List.mem_map.mp hmem

/-- A layer that is inserted has an id of its own. -/
theorem insertLayer (h : r.Whole) {l : Layer} (hinsert : r.insertLayer l = .ok after) :
    after.Whole := by
  unfold Records.insertLayer at hinsert
  split at hinsert
  · cases hinsert
  · next hid =>
    split at hinsert
    · cases hinsert
    · cases hinsert
      have hnew : ∀ k ∈ r.layers, k.id ≠ l.id := by simpa using hid
      refine ⟨?_, h.keyed, fun a ha => ?_⟩
      · rw [List.map_append, List.nodup_append']
        refine ⟨h.ids, List.nodup_singleton _, fun i hi hi' => ?_⟩
        obtain ⟨k, hk, rfl⟩ := List.mem_map.mp hi
        exact hnew k hk (List.mem_singleton.mp hi')
      · obtain ⟨k, hk, hlayer⟩ := h.owned a ha
        exact ⟨k, List.mem_append_left _ hk, hlayer⟩

/-- A layer that is changed keeps its id. -/
theorem changeLayer (h : r.Whole) {id : Uuid} {change : LayerChange} {l : Layer}
    (hchange : r.changeLayer id change = .ok (l, after)) : after.Whole := by
  unfold Records.changeLayer at hchange
  split at hchange
  · cases hchange
  · cases hchange
    have hids : (r.layers.map fun row =>
        if row.id == id then change.apply row else row).map (·.id) = r.layers.map (·.id) := by
      rw [List.map_map]
      refine List.map_congr_left fun row _ => ?_
      rw [Function.comp_apply]
      split
      · cases change <;> rfl
      · rfl
    exact ⟨hids ▸ h.ids, h.keyed, h.owned_of_ids hids⟩

/-- A layer that is deleted goes with its attributes. -/
theorem deleteLayer (h : r.Whole) (id : Uuid) : (r.deleteLayer id).Whole where
  ids := h.ids.sublist (List.filter_sublist.map _)
  keyed := h.keyed.filter _
  owned := by
    intro a ha
    obtain ⟨hmem, hother⟩ := List.mem_filter.mp ha
    obtain ⟨l, hl, hlayer⟩ := h.owned a hmem
    exact ⟨l, List.mem_filter.mpr ⟨hl, hlayer ▸ hother⟩, hlayer⟩

/-- An attribute that is inserted belongs to a stored layer. -/
theorem owned_insertAttribute (h : r.Whole) {a : Attribute}
    (hinsert : r.insertAttribute a = .ok after) :
    ∀ b ∈ after.attributes, ∃ l ∈ after.layers, l.id = b.layer := by
  unfold Records.insertAttribute at hinsert
  split at hinsert
  · cases hinsert
  · split at hinsert
    · cases hinsert
    · split at hinsert
      · cases hinsert
      · next hparent =>
        cases hinsert
        rw [Bool.not_eq_true, Option.isNone_eq_false_iff] at hparent
        obtain ⟨l, hl⟩ := Option.isSome_iff_exists.mp hparent
        refine List.forall_mem_append.mpr ⟨h.owned, List.forall_mem_singleton.mpr ?_⟩
        exact ⟨l, List.mem_of_find?_eq_some hl, Records.id_of_layer? hl⟩

/-- An attribute that is shown belongs to the layer it did. -/
theorem owned_showAttribute (h : r.Whole) {id : Uuid} {name : String} {place : Int}
    (hshow : r.showAttribute id name place = .ok after) :
    ∀ b ∈ after.attributes, ∃ l ∈ after.layers, l.id = b.layer := by
  unfold Records.showAttribute at hshow
  split at hshow
  · cases hshow
    refine List.forall_mem_map.mpr fun a ha => ?_
    split
    · exact h.owned a ha
    · exact h.owned a ha
  · cases hshow

/-- Every statement leaves whole tables whole. -/
theorem execute (h : r.Whole) {st : Statement} {v : st.Value}
    (hexecute : r.execute st = .ok (v, after)) : after.Whole := by
  have hkeyed := h.keyed.execute hexecute
  cases st with
  | findLayer | listLayers | findAttribute | listAttributes =>
    cases hexecute
    exact h
  | insertLayer l =>
    obtain ⟨_, hinsert, hafter⟩ := exists_of_map_eq_ok hexecute
    cases hafter
    exact h.insertLayer hinsert
  | changeLayer id change => exact h.changeLayer hexecute
  | deleteLayer id =>
    cases hexecute
    exact h.deleteLayer id
  | insertAttribute a =>
    obtain ⟨tables, hinsert, hafter⟩ := exists_of_map_eq_ok hexecute
    cases hafter
    have hlayers := effect_of_execute hexecute
    refine ⟨?_, hkeyed, h.owned_insertAttribute hinsert⟩
    rw [hlayers.eq_of_keepsLayers rfl]
    exact h.ids
  | showAttribute id name place =>
    obtain ⟨tables, hshow, hafter⟩ := exists_of_map_eq_ok hexecute
    cases hafter
    have hlayers := effect_of_execute hexecute
    refine ⟨?_, hkeyed, h.owned_showAttribute hshow⟩
    rw [hlayers.eq_of_keepsLayers rfl]
    exact h.ids
  | deleteAttributes layer =>
    cases hexecute
    exact ⟨h.ids, hkeyed, fun a ha => h.owned a (List.mem_filter.mp ha).1⟩

end Records.Whole

/-! ## Everything that may happen to layers -/

/-- A layer is declared, imported at once, or a request about its jobs comes in. -/
inductive LayerVisit where
  | declare (id : Uuid) (title slug layerKind geometryKind : String) (sourceFile : Option String)
      (moment : Timestamp)
  | importNow (layer : Uuid)
  | request (r : JobRequest)
  deriving DecidableEq, Repr

/-- What is done about it, as a task beside the jobs. -/
def LayerVisit.task (settings : ImportSettings) : LayerVisit → Task Unit
  | declare id title slug layerKind geometryKind sourceFile moment => do
    let _ ← Task.site (.records (.statement (.insertLayer
      (.declared id title slug layerKind geometryKind sourceFile moment))))
    return ()
  | importNow layer => do
    let _ ← Task.ofWork (Work.runImport settings layer)
    return ()
  | request r => do
    let _ ← r.task
    return ()

/-- Work beside the jobs is that of a client. -/
theorem clientTask_ofWork {α : Type} (w : Work α) : ClientTask (Task.ofWork w) := by
  induction w with
  | result a => trivial
  | perform a next ih => exact ⟨trivial, ih⟩

/-- Whoever comes about a layer is a client. -/
theorem LayerVisit.clientTask (settings : ImportSettings) (v : LayerVisit) :
    ClientTask (v.task settings) := by
  cases v with
  | declare => exact ⟨trivial, fun _ => trivial⟩
  | importNow layer => exact (clientTask_ofWork _).bind fun _ _ _ => trivial
  | request r => exact r.requestTask_task.clientTask.bind fun _ _ _ => trivial

/-- The scene in which some have come about layers and no job is queued yet. -/
def Scene.visited {σ : Type} (settings : ImportSettings) (site : Site σ) (workers : Nat)
    (visits : List LayerVisit) : Scene σ Unit :=
  ⟨Machine.start site workers, visits.map (·.task settings)⟩

section
variable {σ ρ : Type} {office : Office σ} {c : Course σ ρ}

/-- The tables of a machine are whole, and a transaction is open only if a task holds it. -/
structure Machine.IsWhole (m : Machine σ) : Prop where
  tables : m.site.register.Meets Records.Whole
  held : m.IsHeld

/-- Every action leaves the tables whole. -/
theorem Machine.IsWhole.handle {m m' : Machine σ} (h : m.IsWhole) {who : Actor} {a : TaskAction}
    {x : a.Answer} (hhandle : m.handle office who a = some (x, m')) : m'.IsWhole where
  tables := meets_of_handle h.tables (fun _ _ _ _ _ hr hexecute => hr.execute hexecute) hhandle
  held := (shelf_of_handle h.held hhandle).1

/-- Every deed leaves the tables whole. -/
theorem Machine.IsWhole.act (h : c.scene.machine.IsWhole) {who : Actor} {d : Deed} {s : Scene σ ρ}
    (htake : c.scene.take office who = some (d, s)) : s.machine.IsWhole := by
  cases who with
  | job i =>
    obtain ⟨a, next, x, m, -, hhandle, rfl, rfl⟩ := Scene.take_job_eq_some htake
    obtain ⟨htables, hheld⟩ := h.handle hhandle
    exact ⟨htables, hheld⟩
  | client i =>
    obtain ⟨a, next, x, m, -, hhandle, rfl, rfl⟩ := Scene.take_client_eq_some htake
    exact h.handle hhandle

/-- The tables are whole throughout a course that begins with whole ones. -/
theorem Machine.IsWhole.run (h : c.scene.machine.IsWhole) (turns : List Turn) :
    (c.run office turns).scene.machine.IsWhole :=
  Course.run_induction (P := fun c => c.scene.machine.IsWhole) h
    (fun _ _ _ _ hc htake => hc.act htake) (fun _ _ hc => ⟨hc.tables, hc.held⟩) turns

end

/-! ## The deletion -/

section
variable {σ : Type} {office : Office σ} {m m' : Machine σ} {who : Actor} {id : Uuid} {l : Layer}

/-- What a deletion leaves of the tables, and the teardown that it queues if something of the layer
has been imported. -/
structure Machine.HasDeleted (office : Office σ) (m : Machine σ) (l : Layer) (m' : Machine σ) :
    Prop where
  layers : m'.site.records.layers = m.site.records.layers.filter (·.id != l.id)
  attributes : m'.site.records.attributes = m.site.records.attributes.filter (·.layer != l.id)
  tasks : m'.tasks = m.tasks ++ if l.hasImports then
    [Task.teardownJob office.settings (office.jobId m.nextJob) m.broadcast.nextChannel l.tableName
      l.catalogEntry] else []
  running : m'.jobs.jobs.filter (·.isRunning) = m.jobs.jobs.filter (·.isRunning) ++
    if l.hasImports then
      [Job.start (office.jobId m.nextJob) .teardown none m.broadcast.nextChannel m.now] else []
  whole : m'.site.records.Whole

/-- The tables without a layer and its attributes, from which the attributes went first. -/
theorem Records.deleteLayer_deleteAttributes (r : Records) (id : Uuid) :
    (r.deleteAttributes id).deleteLayer id = r.deleteLayer id := by
  simp [deleteLayer, deleteAttributes]

/-- After it has seen to the teardown, a deletion removes the attributes and the row. -/
theorem Machine.serve_deleteRows (hsound : office.surroundings.IsSound) (m : Machine σ)
    (who : Actor) {s : Site σ} (hclosed : s.working = none) (id : Uuid) :
    ∃ outside, (m.withSite who s).serve office who
        (do execute (.deleteAttributes id); execute (.deleteLayer id); return Response.bare 204 :
          Handling Response).run =
      (some (.ok (Response.bare 204)),
        m.withSite who { s with records := s.records.deleteLayer id, outside := outside }) := by
  obtain ⟨outside, hattributes⟩ := serve_execute hsound m who hclosed (.deleteAttributes id) rfl
  obtain ⟨outside', hlayer⟩ := serve_execute hsound m who
    (s := { s with records := s.records.deleteAttributes id, outside := outside }) hclosed
    (.deleteLayer id) rfl
  refine ⟨outside', ?_⟩
  rw [serve_bindExcept hattributes, serve_bindExcept hlayer]
  simp only [Records.deleteLayer_deleteAttributes]
  rfl

/-- A stored layer is found. -/
theorem Machine.serve_layer (hsound : office.surroundings.IsSound) (hholder : m.holder = none)
    (hworking : m.site.working = none) (hfound : m.site.records.layer? id = some l) (who : Actor) :
    ∃ outside, m.serve office who (layer id).run =
      (some (.ok l), m.withSite who { m.site with outside := outside }) := by
  obtain ⟨outside, hserve⟩ := serve_execute hsound m who hworking (.findLayer id) rfl
  rw [withSite_site hholder hworking] at hserve
  refine ⟨outside, ?_⟩
  rw [layer, serve_bindExcept hserve, hfound]
  rfl

/-- A layer of which nothing is imported goes without a teardown. -/
theorem Machine.serve_deleteLayer_of_unloaded (hsound : office.surroundings.IsSound)
    (hholder : m.holder = none) (hworking : m.site.working = none)
    (hfound : m.site.records.layer? id = some l) (himports : l.hasImports = false)
    (hidle : m.jobs.active? id = none) (who : Actor) :
    ∃ outside, m.serve office who (deleteLayer id).run =
      (some (.ok (Response.bare 204)), m.withSite who
        { m.site with records := m.site.records.deleteLayer id, outside := outside }) := by
  obtain ⟨looked, hlook⟩ := serve_layer hsound hholder hworking hfound who
  obtain ⟨outside, hrows⟩ := serve_deleteRows hsound m who
    (s := { m.site with outside := looked }) hworking id
  refine ⟨outside, ?_⟩
  rw [deleteLayer, serve_bindExcept hlook, serve_bindExcept (serve_runningImport hidle who _)]
  simp only [himports]
  exact hrows

/-- The teardown of a layer of which something is imported is queued before the layer goes. -/
theorem Machine.serve_deleteLayer_of_hasImports (hsound : office.surroundings.IsSound)
    (hholder : m.holder = none) (hworking : m.site.working = none)
    (hfound : m.site.records.layer? id = some l) (himports : l.hasImports = true)
    (hidle : m.jobs.active? id = none) (who : Actor) :
    ∃ outside, m.serve office who (deleteLayer id).run =
      (some (.ok (Response.bare 204)),
        (m.queue office .teardown none fun job channel =>
          Task.teardownJob office.settings job channel l.tableName l.catalogEntry).2.withSite who
          { m.site with records := m.site.records.deleteLayer id, outside := outside }) := by
  obtain ⟨looked, hlook⟩ := serve_layer hsound hholder hworking hfound who
  let queued := (m.queue office .teardown none fun job channel =>
    Task.teardownJob office.settings job channel l.tableName l.catalogEntry).2
  obtain ⟨outside, hrows⟩ := serve_deleteRows hsound queued who
    (s := { m.site with outside := looked }) hworking id
  refine ⟨outside, ?_⟩
  rw [deleteLayer, serve_bindExcept hlook, serve_bindExcept (serve_runningImport hidle who _)]
  simp only [himports]
  change (m.withSite who _).serve office who (ask (.queueTeardown _ _) >>= _).run = _
  rw [serve_bindExcept (serve_queueTeardown m who _ _ _)]
  exact hrows

/-- A layer without a running import is deleted, and its teardown is queued if something of it has
been imported. -/
theorem Machine.serve_deleteLayer (hinj : Function.Injective office.jobId)
    (hsound : office.surroundings.IsSound) (hindexed : m.Indexed office)
    (hwhole : m.site.records.Whole) (hholder : m.holder = none) (hworking : m.site.working = none)
    (hfound : m.site.records.layer? id = some l) (hidle : m.jobs.active? id = none)
    (who : Actor) :
    ∃ m', m.serve office who (JobRequest.deleteLayer id).task = (some (Response.bare 204), m') ∧
      m.HasDeleted office l m' := by
  obtain rfl := Records.id_of_layer? hfound
  cases himports : l.hasImports with
  | false =>
    obtain ⟨outside, hserve⟩ :=
      serve_deleteLayer_of_unloaded hsound hholder hworking hfound himports hidle who
    refine ⟨_, serve_answer hserve, rfl, rfl, ?_, ?_, hwhole.deleteLayer l.id⟩
    · rw [himports, if_neg Bool.false_ne_true, List.append_nil]
      rfl
    · rw [himports, if_neg Bool.false_ne_true, List.append_nil]
      rfl
  | true =>
    obtain ⟨outside, hserve⟩ :=
      serve_deleteLayer_of_hasImports hsound hholder hworking hfound himports hidle who
    refine ⟨_, serve_answer hserve, rfl, rfl, ?_, ?_, hwhole.deleteLayer l.id⟩
    · rw [if_pos himports]
      rfl
    · rw [if_pos himports]
      exact running_queue_teardown hindexed hinj fun job channel =>
        Task.teardownJob office.settings job channel l.tableName l.catalogEntry

end

/-- Throughout every course that begins without layers the tables are whole, those of an open
transaction too. Whenever no transaction is open, and the record store does not fail by itself, a
layer without a running import is deleted with all its attributes and nothing else, and one
teardown of what its row named is queued if it named anything. -/
theorem layer_deletion {σ : Type} (office : Office σ) (hinj : Function.Injective office.jobId)
    (site : Site σ) (hempty : site.records = .empty) (hclosed : site.working = none)
    (workers : Nat) (visits : List LayerVisit) (turns : List Turn) :
    let m := ((Course.start (Scene.visited office.settings site workers visits)).run office
      turns).scene.machine
    m.site.register.Meets Records.Whole ∧
      ∀ (env : Surroundings σ) (who : Actor) (id : Uuid) (l : Layer), env.IsSound →
        m.site.working = none → m.site.records.layer? id = some l → m.jobs.active? id = none →
          ∃ m', m.serve { office with surroundings := env } who (JobRequest.deleteLayer id).task =
              (some (Response.bare 204), m') ∧
            m.HasDeleted office l m' := by
  intro m
  have hstart : (Machine.start site workers).IsWhole := by
    refine ⟨?_, ?_⟩
    · rw [show (Machine.start site workers).site.register = ⟨.empty, none⟩ by
        rw [← hempty, ← hclosed]; rfl]
      exact .closed .empty
    · rw [Machine.IsHeld]
      change _ = site.working.isSome
      rw [hclosed]
      rfl
  have hclients : ∀ t ∈ visits.map (·.task office.settings), ClientTask t := by
    intro t ht
    obtain ⟨v, -, rfl⟩ := List.mem_map.mp ht
    exact v.clientTask office.settings
  have hwhole : m.IsWhole := Machine.IsWhole.run hstart turns
  have hindexed : m.Indexed office :=
    (Course.Enrolled.start office site workers hclients).run_indexed hinj
      (Machine.indexed_start office site workers) turns
  refine ⟨hwhole.tables, fun env who id l hsound hworking hfound hidle => ?_⟩
  have hholder : m.holder = none := by
    have hheld := hwhole.held
    rw [Machine.IsHeld, hworking] at hheld
    simpa using hheld
  let answering : Office σ := { office with surroundings := env }
  have hinj' : Function.Injective answering.jobId := hinj
  have hsound' : answering.surroundings.IsSound := hsound
  obtain ⟨m', hserve, hdeleted⟩ := Machine.serve_deleteLayer hinj' hsound' hindexed
    hwhole.tables.stored hholder hworking hfound hidle who
  exact ⟨m', hserve, hdeleted.layers, hdeleted.attributes, hdeleted.tasks, hdeleted.running,
    hdeleted.whole⟩

/-- Two layers are declared, and the first is imported. -/
def importedVisits : List LayerVisit :=
  [.declare ⟨1⟩ "Roads" "roads" "vector" "line" (some "r.shp") ⟨2020, 1, 1, 0, 0, 0, 0⟩,
    .declare ⟨2⟩ "Tracks" "tracks" "vector" "line" (some "r.shp") ⟨2020, 1, 1, 0, 0, 0, 0⟩,
    .importNow ⟨1⟩]

/-- The turns in which this happens. -/
def importedTurns : List Turn :=
  [.act (.client 0), .act (.client 1)] ++ List.replicate 26 (.act (.client 2))

/-- The machine on which it has happened, with a column that was reported. -/
def Machine.imported : Machine Unit :=
  ((Course.start (Scene.visited (Office.reporting [⟨"name", "text"⟩]).settings (Site.plain []) 1
    importedVisits)).run (.reporting [⟨"name", "text"⟩]) importedTurns).scene.machine

/-- Of two layers the imported one is deleted. -/
theorem layer_deletion_imported :
    let office := Office.reporting [⟨"name", "text"⟩]
    let m := Machine.imported
    Function.Injective office.jobId ∧ (Site.plain []).records = .empty ∧
      (Site.plain []).working = none ∧ Surroundings.plain.IsSound ∧ m.site.working = none ∧
      m.jobs.active? ⟨1⟩ = none ∧
      m.site.records.attributes.map (·.key) = [(⟨1⟩, "name")] ∧
      ∃ l, m.site.records.layer? ⟨1⟩ = some l ∧ l.hasImports = true ∧
        ∃ m', m.serve { office with surroundings := .plain } (.client 0)
            (JobRequest.deleteLayer ⟨1⟩).task = (some (Response.bare 204), m') ∧
          m.HasDeleted office l m' := by
  intro office m
  have hsound : Surroundings.plain.IsSound := fun _ _ => rfl
  have hcourse : m.site.working = none ∧ m.jobs.active? ⟨1⟩ = none ∧
      m.site.records.attributes.map (·.key) = [(⟨1⟩, "name")] ∧
      ∃ l ∈ m.site.records.layer? ⟨1⟩, l.hasImports = true := by
    decide +kernel
  have hm : Machine.imported = m := rfl
  clear_value m
  obtain ⟨hworking, hidle, hkeys, l, hl, himports⟩ := hcourse
  have hdelete := (layer_deletion (.reporting [⟨"name", "text"⟩]) Office.plain_jobId_injective
    (Site.plain []) rfl rfl 1 importedVisits importedTurns).2
  rw [Machine.imported] at hm
  rw [hm] at hdelete
  exact ⟨Office.plain_jobId_injective, rfl, rfl, hsound, hworking, hidle, hkeys, l, hl, himports,
    hdelete .plain (.client 0) ⟨1⟩ l hsound hworking hl hidle⟩

end LayerPress
