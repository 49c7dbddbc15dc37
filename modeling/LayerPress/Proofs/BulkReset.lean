import LayerPress.Proofs.RunningImports
import LayerPress.Proofs.Plain
import LayerPress.Proofs.Serving

/-!
# Resetting a list of layers

A bulk reset goes through its list and looks each layer up as those before it have left the tables.
It queues one teardown for each listed layer of which something has been imported, with the table
and the entry that its record had before the request, and clears the record. A layer that is listed
again has nothing to reset by then, and neither has any layer when the request is repeated.
-/

namespace LayerPress

open Admin Admin.Handling

/-! ## What is to be reset -/

/-- The layers of a list of which something has been imported, each at its first place. -/
def Records.resets (r : Records) (ids : List Uuid) : List Layer :=
  (ids.eraseDups.filterMap r.layer?).filter Layer.hasImports

/-- The record of a layer with nothing imported. -/
def Layer.unloaded (l : Layer) (moment : Timestamp) : Layer :=
  { l with
    tableName := none
    catalogEntry := none
    featureCount := 0
    west := none
    south := none
    east := none
    north := none
    updatedAt := moment }

/-- A record keeps its id when nothing is imported any more. -/
@[simp] theorem Layer.unloaded_id (l : Layer) (moment : Timestamp) :
    (l.unloaded moment).id = l.id :=
  rfl

section
variable {σ : Type} {office : Office σ} {m m' : Machine σ} {who : Actor} {r : Records}
  {ids : List Uuid} {id : Uuid} {l : Layer}

/-- A layer is found under its id. -/
theorem Records.id_of_layer? (h : r.layer? id = some l) : l.id = id := by
  simpa using List.find?_some h

/-- One more id is one more layer to reset, if it is new to the list and something of its layer has
been imported. -/
theorem Records.resets_concat (r : Records) (ids : List Uuid) (id : Uuid) :
    r.resets (ids ++ [id]) = r.resets ids ++
      if id ∈ ids then [] else (r.layer? id).toList.filter Layer.hasImports := by
  unfold resets
  rw [List.eraseDups_append, List.filterMap_append, List.filter_append]
  congr 1
  by_cases hlisted : id ∈ ids
  · simp [List.removeAll, hlisted]
  · cases hfound : r.layer? id <;> simp [List.removeAll, List.eraseDups_cons, hlisted, hfound]

/-- An id adds nothing to reset if it was listed before or nothing of its layer was imported. -/
theorem Records.resets_concat_of_done
    (hdone : ∀ l, r.layer? id = some l → l.hasImports = true → id ∈ ids) :
    r.resets (ids ++ [id]) = r.resets ids := by
  rw [resets_concat]
  by_cases hlisted : id ∈ ids
  · rw [if_pos hlisted, List.append_nil]
  · rw [if_neg hlisted]
    cases hfound : r.layer? id with
    | none => simp
    | some l =>
      have himports : l.hasImports = false :=
        Bool.eq_false_iff.mpr fun himports => hlisted (hdone l hfound himports)
      simp [himports]

/-- The layers to reset are those of the list of which something has been imported. -/
theorem Records.mem_resets :
    l ∈ r.resets ids ↔ l.id ∈ ids ∧ r.layer? l.id = some l ∧ l.hasImports := by
  simp only [resets, List.mem_filter, List.mem_filterMap, List.mem_eraseDups]
  constructor
  · rintro ⟨⟨id, hlisted, hfound⟩, himports⟩
    obtain rfl := id_of_layer? hfound
    exact ⟨hlisted, hfound, himports⟩
  · intro h
    exact ⟨⟨l.id, h.1, h.2.1⟩, h.2.2⟩

/-- An id is that of a layer to reset if it is listed and something of its layer was imported. -/
theorem Records.mem_ids_resets (hfound : r.layer? id = some l) :
    id ∈ (r.resets ids).map (·.id) ↔ id ∈ ids ∧ l.hasImports := by
  have hid := id_of_layer? hfound
  constructor
  · intro hmem
    obtain ⟨row, hrow, rfl⟩ := List.mem_map.mp hmem
    obtain ⟨hlisted, hrowFound, himports⟩ := mem_resets.mp hrow
    rw [hrowFound] at hfound
    cases hfound
    exact ⟨hlisted, himports⟩
  · intro h
    rw [← hid] at hfound h
    exact List.mem_map.mpr ⟨l, mem_resets.mpr ⟨h.1, hfound, h.2⟩, hid⟩

/-! ## What it answers and leaves -/

/-- What a bulk reset says of an id when it comes to it after others. -/
def Machine.resetPlacement (office : Office σ) (m : Machine σ) (earlier : List Uuid) (id : Uuid) :
    Placement :=
  match m.site.records.layer? id with
  | none => .skipped id "not found"
  | some l =>
    if l.hasImports ∧ id ∉ earlier then
      .queued (office.jobId (m.nextJob + (m.site.records.resets earlier).length))
    else .skipped id "nothing to reset"

/-- Such an id is passed over. -/
theorem Machine.resetPlacement_of_done (office : Office σ) (m : Machine σ)
    (hdone : ∀ l, m.site.records.layer? id = some l → l.hasImports = true → id ∈ ids) :
    m.resetPlacement office ids id = .skipped id
      (if (m.site.records.layer? id).isSome then "nothing to reset" else "not found") := by
  unfold resetPlacement
  cases hfound : m.site.records.layer? id with
  | none => rfl
  | some l =>
    have hnot : ¬(l.hasImports = true ∧ id ∉ ids) := fun hboth => hboth.2 (hdone l hfound hboth.1)
    simp only [if_neg hnot]
    rfl

/-- What a bulk reset says of each id of its list. -/
def Machine.resetPlacements (office : Office σ) (m : Machine σ) (ids : List Uuid) :
    List Placement :=
  ids.mapIdx fun i id => m.resetPlacement office (ids.take i) id

/-- The listed layers were reset: each has a teardown of its own, of the table and the entry that
were recorded, and a record with nothing imported. Nothing else was queued or recorded. -/
structure Machine.HasReset (office : Office σ) (m : Machine σ) (ids : List Uuid)
    (m' : Machine σ) : Prop where
  tasks : m'.tasks = m.tasks ++ (m.site.records.resets ids).mapIdx fun n l =>
    Task.teardownJob office.settings (office.jobId (m.nextJob + n)) (m.broadcast.nextChannel + n)
      l.tableName l.catalogEntry
  running : m'.jobs.jobs.filter (·.isRunning) = m.jobs.jobs.filter (·.isRunning) ++
    (m.site.records.resets ids).mapIdx fun n _ =>
      Job.start (office.jobId (m.nextJob + n)) .teardown none (m.broadcast.nextChannel + n)
        m.now
  nextJob : m'.nextJob = m.nextJob + (m.site.records.resets ids).length
  nextChannel : m'.broadcast.nextChannel =
    m.broadcast.nextChannel + (m.site.records.resets ids).length
  layers : ∃ moments : Uuid → Timestamp, m'.site.records.layers = m.site.records.layers.map fun l =>
    if l.id ∈ (m.site.records.resets ids).map (·.id) then l.unloaded (moments l.id) else l
  attributes : m'.site.records.attributes = m.site.records.attributes
  holder : m'.holder = none
  working : m'.site.working = none
  now : m'.now = m.now
  indexed : m'.Indexed office

/-- One more id has one more placement. -/
theorem Machine.resetPlacements_concat (office : Office σ) (m : Machine σ) (ids : List Uuid)
    (id : Uuid) :
    m.resetPlacements office (ids ++ [id]) =
      m.resetPlacements office ids ++ [m.resetPlacement office ids id] := by
  unfold resetPlacements
  rw [List.mapIdx_concat, List.take_left]
  congr 1
  apply List.mapIdx_eq_mapIdx_iff.mpr
  intro i hi
  rw [List.take_append_of_le_length (Nat.le_of_lt hi)]

/-! ## One id -/

/-- The tables with nothing imported of a layer. -/
def Records.unload (r : Records) (id : Uuid) (moment : Timestamp) : Records :=
  { r with layers := r.layers.map fun l => if l.id == id then l.unloaded moment else l }

/-- Clearing a stored layer unloads it. -/
theorem Records.changeLayer_cleared (hfound : r.layer? id = some l) (moment : Timestamp) :
    r.changeLayer id (.cleared moment) = .ok (l.unloaded moment, r.unload id moment) := by
  rw [changeLayer, hfound]
  rfl

/-- In a sound record store a stored layer is unloaded at some moment. -/
theorem Machine.serve_clearImports (hsound : office.surroundings.IsSound) (m : Machine σ)
    (who : Actor) {s : Site σ} (hclosed : s.working = none)
    (hfound : s.records.layer? id = some l) :
    ∃ moment outside, (m.withSite who s).serve office who (ofAttempt (Work.clearImports id)).run =
      (some (.ok (l.unloaded moment)),
        m.withSite who { s with records := s.records.unload id moment, outside := outside }) := by
  let asked := office.surroundings.now s.outside
  have hclear := Records.changeLayer_cleared hfound asked.1
  obtain ⟨outside, hserve⟩ := serve_statement hsound m who (s := { s with outside := asked.2 })
    hclosed (.changeLayer id (.cleared asked.1)) hclear
  exact ⟨asked.1, outside, hserve fun x =>
    .result ((x.mapError Failure.records).mapError fun f : Failure => Response.error 500 f.message)⟩

/-- An id of which nothing is imported is passed over. -/
theorem Machine.serve_resetOne_of_unloaded (hsound : office.surroundings.IsSound)
    (hholder : m.holder = none) (hworking : m.site.working = none) (who : Actor)
    (hnone : ∀ l, m.site.records.layer? id = some l → l.hasImports = false) :
    ∃ outside, m.serve office who (resetOne id).run =
      (some (.ok (.skipped id
        (if (m.site.records.layer? id).isSome then "nothing to reset" else "not found"))),
        m.withSite who { m.site with outside := outside }) := by
  obtain ⟨outside, hserve⟩ := serve_execute hsound m who hworking (.findLayer id) rfl
  rw [withSite_site hholder hworking] at hserve
  refine ⟨outside, ?_⟩
  rw [resetOne, serve_bindExcept hserve]
  cases hfound : m.site.records.layer? id with
  | none => rfl
  | some l =>
    simp only [hnone l hfound]
    rfl

/-- The teardown of a layer that has something imported and no running import is queued, and the
layer is unloaded. -/
theorem Machine.serve_resetOne_of_hasImports (hsound : office.surroundings.IsSound)
    (hholder : m.holder = none) (hworking : m.site.working = none) (who : Actor)
    (hfound : m.site.records.layer? id = some l) (himports : l.hasImports = true)
    (hidle : m.jobs.active? id = none) :
    ∃ moment outside, m.serve office who (resetOne id).run =
      (some (.ok (.queued (office.jobId m.nextJob))),
        (m.queue office .teardown none fun job channel =>
          Task.teardownJob office.settings job channel l.tableName l.catalogEntry).2.withSite who
          { m.site with records := m.site.records.unload id moment, outside := outside }) := by
  obtain ⟨looked, hlook⟩ := serve_execute hsound m who hworking (.findLayer id) rfl
  rw [withSite_site hholder hworking] at hlook
  let queued := (m.queue office .teardown none fun job channel =>
    Task.teardownJob office.settings job channel l.tableName l.catalogEntry).2
  obtain ⟨moment, outside, hclear⟩ := serve_clearImports hsound queued who
    (s := { m.site with outside := looked }) hworking hfound
  refine ⟨moment, outside, ?_⟩
  rw [resetOne, serve_bindExcept hlook, hfound]
  simp only [himports]
  change (m.withSite who _).serve office who (ask (.runningImport id) >>= _).run = _
  rw [serve_bindExcept (serve_runningImport hidle who _),
    serve_bindExcept (serve_queueTeardown m who _ _ _), serve_bindExcept hclear]
  rfl

/-! ## One id after others -/

/-- A queued teardown runs beside the jobs that ran before. -/
theorem Machine.running_queue_teardown (h : m.Indexed office)
    (hinj : Function.Injective office.jobId) (task : JobId → Nat → Task Unit) :
    (m.queue office .teardown none task).2.jobs.jobs.filter (·.isRunning) =
      m.jobs.jobs.filter (·.isRunning) ++
        [Job.start (office.jobId m.nextJob) .teardown none m.broadcast.nextChannel m.now] := by
  let j := Job.start (office.jobId m.nextJob) .teardown none m.broadcast.nextChannel m.now
  change ((m.jobs.evict m.now).put j).jobs.filter (·.isRunning) = _
  rw [JobStore.put_jobs (h.ne_next hinj), List.filter_append, JobStore.Sound.running_evict h.sound]
  rfl

namespace Machine.HasReset

/-- Before its first id nothing was reset. -/
theorem nil (hindexed : m.Indexed office) (hholder : m.holder = none)
    (hworking : m.site.working = none) : m.HasReset office [] m where
  tasks := (List.append_nil _).symm
  running := (List.append_nil _).symm
  nextJob := rfl
  nextChannel := rfl
  layers := ⟨fun _ => default, by simp [Records.resets]⟩
  attributes := rfl
  holder := hholder
  working := hworking
  now := rfl
  indexed := hindexed

/-- A teardown is the import of no layer. -/
theorem active?_eq (h : m.HasReset office ids m') (hindexed : m.Indexed office) (id : Uuid) :
    m'.jobs.active? id = m.jobs.active? id := by
  have hmem (j : Job) (hlayer : j.layer = some id) :
      j ∈ m'.jobs.jobs ∧ j.isRunning ↔ j ∈ m.jobs.jobs ∧ j.isRunning := by
    rw [← List.mem_filter, h.running, List.mem_append, List.mem_filter, or_iff_left]
    intro hnew
    obtain ⟨n, hn, rfl⟩ := List.mem_mapIdx.mp hnew
    cases hlayer
  apply Option.ext
  intro j
  rw [JobStore.Indexed.active?_eq_some_iff h.indexed, JobStore.Indexed.active?_eq_some_iff hindexed]
  constructor
  · intro hj
    have hrun := (hmem j hj.2.1).mp ⟨hj.1, hj.2.2⟩
    exact ⟨hrun.1, hj.2.1, hrun.2⟩
  · intro hj
    have hrun := (hmem j hj.2.1).mpr ⟨hj.1, hj.2.2⟩
    exact ⟨hrun.1, hj.2.1, hrun.2⟩

/-- A layer is found as it was, unless it was reset. -/
theorem layer?_eq (h : m.HasReset office ids m') (id : Uuid) :
    ∃ moment, m'.site.records.layer? id = (m.site.records.layer? id).map fun l =>
      if id ∈ ids ∧ l.hasImports then l.unloaded moment else l := by
  obtain ⟨moments, hlayers⟩ := h.layers
  refine ⟨moments id, ?_⟩
  rw [Records.layer?, hlayers, List.find?_map]
  have hid : (fun l : Layer => l.id == id) ∘ (fun l =>
      if l.id ∈ (m.site.records.resets ids).map (·.id) then l.unloaded (moments l.id) else l) =
        fun l => l.id == id := by
    funext l
    simp only [Function.comp_apply]
    split <;> rfl
  rw [hid]
  change (m.site.records.layer? id).map _ = _
  cases hfound : m.site.records.layer? id with
  | none => rfl
  | some l =>
    simp only [Option.map_some, Records.id_of_layer? hfound, Records.mem_ids_resets hfound]

/-- Nothing is imported of a layer that was reset or had nothing to reset. -/
theorem hasImports_eq_false (h : m.HasReset office ids m')
    (hdone : ∀ l, m.site.records.layer? id = some l → l.hasImports = true → id ∈ ids) :
    ∀ l, m'.site.records.layer? id = some l → l.hasImports = false := by
  intro l hl
  obtain ⟨moment, hlayer⟩ := h.layer?_eq id
  rw [hlayer, Option.map_eq_some_iff] at hl
  obtain ⟨row, hrow, rfl⟩ := hl
  split
  · rfl
  · next hkept =>
    exact Bool.eq_false_iff.mpr fun himports => hkept ⟨hdone row hrow himports, himports⟩

/-- An id that has nothing to reset, or not any more, leaves what was reset. -/
theorem skip (h : m.HasReset office ids m')
    (hsame : m.site.records.resets (ids ++ [id]) = m.site.records.resets ids) (who : Actor)
    (outside : σ) :
    m.HasReset office (ids ++ [id]) (m'.withSite who { m'.site with outside := outside }) where
  tasks := hsame ▸ h.tasks
  running := hsame ▸ h.running
  nextJob := hsame ▸ h.nextJob
  nextChannel := hsame ▸ h.nextChannel
  layers := hsame ▸ h.layers
  attributes := h.attributes
  holder := by
    change m'.site.working.map _ = none
    rw [h.working, Option.map_none]
  working := h.working
  now := h.now
  indexed := h.indexed.congr rfl rfl

/-- The next layer to reset has its teardown queued and its record unloaded. -/
theorem queue (h : m.HasReset office ids m') (hinj : Function.Injective office.jobId)
    (hnext : m.site.records.resets (ids ++ [id]) = m.site.records.resets ids ++ [l])
    (hnew : l.id ∉ (m.site.records.resets ids).map (·.id)) (hid : l.id = id) (who : Actor)
    (moment : Timestamp) (outside : σ) :
    m.HasReset office (ids ++ [id])
      ((m'.queue office .teardown none fun job channel =>
        Task.teardownJob office.settings job channel l.tableName l.catalogEntry).2.withSite who
        { m'.site with records := m'.site.records.unload id moment, outside := outside }) where
  tasks := by
    rw [hnext, List.mapIdx_concat, ← List.append_assoc, ← h.tasks, ← h.nextJob, ← h.nextChannel]
    rfl
  running := by
    rw [hnext, List.mapIdx_concat, ← List.append_assoc, ← h.running, ← h.nextJob, ← h.nextChannel,
      ← h.now]
    exact running_queue_teardown h.indexed hinj fun job channel =>
      Task.teardownJob office.settings job channel l.tableName l.catalogEntry
  nextJob := by
    rw [hnext, List.length_append, ← Nat.add_assoc, ← h.nextJob]
    rfl
  nextChannel := by
    rw [hnext, List.length_append, ← Nat.add_assoc, ← h.nextChannel]
    rfl
  layers := by
    obtain ⟨moments, hlayers⟩ := h.layers
    refine ⟨Function.update moments id moment, ?_⟩
    change (m'.site.records.unload id moment).layers = _
    rw [Records.unload, hlayers, hnext, List.map_append]
    simp only [List.map_map]
    apply List.map_congr_left
    intro row _
    rw [Function.comp_apply]
    by_cases hrow : row.id = id
    · have hfresh : row.id ∉ (m.site.records.resets ids).map (·.id) := by
        rw [hrow, ← hid]
        exact hnew
      rw [if_neg hfresh]
      simp [hrow, hid]
    · have hold : row.id ∈ (m.site.records.resets ids).map (·.id) ++ [l].map (·.id) ↔
          row.id ∈ (m.site.records.resets ids).map (·.id) := by
        rw [List.mem_append, List.map_singleton, List.mem_singleton, hid, or_iff_left hrow]
      rw [Function.update_of_ne hrow]
      by_cases hlisted : row.id ∈ (m.site.records.resets ids).map (·.id)
      · rw [if_pos hlisted, if_pos (hold.mpr hlisted), Layer.unloaded_id,
          if_neg (by simpa using hrow)]
      · rw [if_neg hlisted, if_neg (hold.not.mpr hlisted), if_neg (by simpa using hrow)]
  attributes := h.attributes
  holder := by
    change m'.site.working.map _ = none
    rw [h.working, Option.map_none]
  working := h.working
  now := h.now
  indexed := (h.indexed.queue hinj .teardown none fun job channel =>
    Task.teardownJob office.settings job channel l.tableName l.catalogEntry).congr rfl rfl

/-- One more id is placed as its record and the ids before it say, and reset if it has to be. -/
theorem step (h : m.HasReset office ids m') (hindexed : m.Indexed office)
    (hinj : Function.Injective office.jobId) (hsound : office.surroundings.IsSound) (who : Actor)
    (hidle : m.jobs.active? id = none) :
    ∃ after, m'.serve office who (resetOne id).run =
        (some (.ok (m.resetPlacement office ids id)), after) ∧
      m.HasReset office (ids ++ [id]) after := by
  obtain ⟨moment, hlayer⟩ := h.layer?_eq id
  by_cases hreset : ∃ l, m.site.records.layer? id = some l ∧ l.hasImports = true ∧ id ∉ ids
  · obtain ⟨l, hfound, himports, hfirst⟩ := hreset
    have hid := Records.id_of_layer? hfound
    have hsame : m'.site.records.layer? id = some l := by
      rw [hlayer, hfound, Option.map_some, if_neg fun hboth => hfirst hboth.1]
    have hnext : m.site.records.resets (ids ++ [id]) = m.site.records.resets ids ++ [l] := by
      rw [Records.resets_concat, if_neg hfirst, hfound]
      simp [himports]
    have hnew : l.id ∉ (m.site.records.resets ids).map (·.id) := by
      rw [hid, Records.mem_ids_resets hfound]
      exact fun hboth => hfirst hboth.1
    obtain ⟨cleared, outside, hserve⟩ := serve_resetOne_of_hasImports hsound h.holder h.working who
      hsame himports (by rw [h.active?_eq hindexed, hidle])
    refine ⟨_, ?_, h.queue hinj hnext hnew hid who cleared outside⟩
    rw [hserve, resetPlacement, hfound, h.nextJob]
    simp only [if_pos (And.intro himports hfirst)]
  · have hdone : ∀ l, m.site.records.layer? id = some l → l.hasImports = true → id ∈ ids := by
      intro l hfound himports
      by_contra hfirst
      exact hreset ⟨l, hfound, himports, hfirst⟩
    obtain ⟨outside, hserve⟩ := serve_resetOne_of_unloaded hsound h.holder h.working who
      (h.hasImports_eq_false hdone)
    refine ⟨_, ?_, h.skip (Records.resets_concat_of_done hdone) who outside⟩
    rw [hserve, resetPlacement_of_done office m hdone, hlayer, Option.isSome_map]

end Machine.HasReset

/-! ## The whole list -/

/-- A request for layers of which nothing is imported is answered and leaves jobs and records. -/
theorem Machine.serve_bulkReset_of_unloaded (hsound : office.surroundings.IsSound)
    (hholder : m.holder = none) (hworking : m.site.working = none)
    (hnone : ∀ id ∈ ids, ∀ l, m.site.records.layer? id = some l → l.hasImports = false)
    (who : Actor) :
    ∃ outside, m.serve office who (JobRequest.bulkReset ids).task =
      (some (Response.json 200 (bulkDocument (m.resetPlacements office ids))),
        m.withSite who { m.site with outside := outside }) := by
  have hone : ∀ earlier id placements m', earlier ++ [id] <+: ids →
      (placements = m.resetPlacements office earlier ∧
        ∃ outside, m' = m.withSite who { m.site with outside := outside }) →
      ∃ placement after, m'.serve office who (resetOne id).run = (some (.ok placement), after) ∧
        placements ++ [placement] = m.resetPlacements office (earlier ++ [id]) ∧
        ∃ outside, after = m.withSite who { m.site with outside := outside } := by
    intro earlier id placements m' hlisted hkept
    obtain ⟨rfl, outside, rfl⟩ := hkept
    have hidle := hnone id (hlisted.subset (by simp))
    obtain ⟨outside', hserve⟩ := serve_resetOne_of_unloaded hsound
      (m := m.withSite who { m.site with outside := outside })
      (congrArg (Option.map fun _ => who) hworking) hworking who hidle
    have hdone : ∀ l, m.site.records.layer? id = some l → l.hasImports = true → id ∈ earlier :=
      fun l hl himports => absurd himports (Bool.eq_false_iff.mp (hidle l hl))
    refine ⟨_, _, hserve, ?_, outside', rfl⟩
    rw [resetPlacements_concat, resetPlacement_of_done office m hdone]
    rfl
  obtain ⟨placements, m', hserve, rfl, outside, rfl⟩ := serve_forEach hone
    ⟨rfl, m.site.outside, (withSite_site hholder hworking who).symm⟩
  refine ⟨outside, serve_answer ?_⟩
  rw [bulkReset, serve_bindExcept hserve]
  rfl

/-- A bulk reset is answered with a placement for each id of its list. It resets every listed layer
of which something has been imported, once, and when it is repeated it resets nothing. -/
theorem bulkReset_resets (hinj : Function.Injective office.jobId)
    (hsound : office.surroundings.IsSound) (hindexed : m.Indexed office) (hholder : m.holder = none)
    (hworking : m.site.working = none) (hidle : ∀ id ∈ ids, m.jobs.active? id = none)
    (who : Actor) :
    ∃ m', m.serve office who (JobRequest.bulkReset ids).task =
        (some (Response.json 200 (bulkDocument (m.resetPlacements office ids))), m') ∧
      m.HasReset office ids m' ∧
      ∀ (again : Machine σ) (who : Actor), again.site.records = m'.site.records →
        again.holder = none → again.site.working = none →
        ∃ after, again.serve office who (JobRequest.bulkReset ids).task =
            (some (Response.json 200 (bulkDocument (again.resetPlacements office ids))), after) ∧
          Machine.SameJobs again after ∧ after.site.records = again.site.records := by
  have hone : ∀ earlier id placements m', earlier ++ [id] <+: ids →
      (m.HasReset office earlier m' ∧ placements = m.resetPlacements office earlier) →
      ∃ placement after, m'.serve office who (resetOne id).run = (some (.ok placement), after) ∧
        m.HasReset office (earlier ++ [id]) after ∧
        placements ++ [placement] = m.resetPlacements office (earlier ++ [id]) := by
    intro earlier id placements m' hlisted hR
    obtain ⟨after, hserve, hafter⟩ := hR.1.step hindexed hinj hsound who
      (hidle id (hlisted.subset (by simp)))
    exact ⟨_, after, hserve, hafter, by rw [Machine.resetPlacements_concat, hR.2]⟩
  obtain ⟨placements, m', hserve, hreset, rfl⟩ :=
    Machine.serve_forEach hone ⟨.nil hindexed hholder hworking, rfl⟩
  refine ⟨m', Machine.serve_answer ?_, hreset, fun again who hrecords hholder hworking => ?_⟩
  · rw [bulkReset, Machine.serve_bindExcept hserve]
    rfl
  · have hnone : ∀ id ∈ ids, ∀ l, again.site.records.layer? id = some l → l.hasImports = false := by
      intro id hid
      rw [hrecords]
      exact hreset.hasImports_eq_false fun _ _ _ => hid
    obtain ⟨outside, hagain⟩ :=
      Machine.serve_bulkReset_of_unloaded hsound hholder hworking hnone who
    exact ⟨_, hagain, ⟨rfl, rfl, rfl, rfl, rfl⟩, rfl⟩

end

/-- An imported layer is listed twice, beside one that is unknown. -/
theorem bulkReset_resets_repeated :
    let m := Machine.start (Site.plain [.plainImported]) 1
    let ids : List Uuid := [⟨1⟩, ⟨2⟩, ⟨1⟩]
    Function.Injective Office.plain.jobId ∧ Surroundings.plain.IsSound ∧ m.Indexed .plain ∧
      m.holder = none ∧ m.site.working = none ∧ (∀ id ∈ ids, m.jobs.active? id = none) ∧
      m.resetPlacements .plain ids =
        [.queued "", .skipped ⟨2⟩ "not found", .skipped ⟨1⟩ "nothing to reset"] ∧
      ∃ m', m.serve .plain (.client 0) (JobRequest.bulkReset ids).task =
          (some (Response.json 200 (bulkDocument (m.resetPlacements .plain ids))), m') ∧
        m.HasReset .plain ids m' := by
  intro m ids
  have hsound : Surroundings.plain.IsSound := fun _ _ => rfl
  have hindexed : m.Indexed .plain := Machine.indexed_start ..
  have hidle : ∀ id ∈ ids, m.jobs.active? id = none := fun _ _ => rfl
  obtain ⟨m', hserve, hreset, -⟩ :=
    bulkReset_resets Office.plain_jobId_injective hsound hindexed rfl rfl hidle (.client 0)
  exact ⟨Office.plain_jobId_injective, hsound, hindexed, rfl, rfl, hidle, by decide +kernel, m',
    hserve, hreset⟩

end LayerPress
