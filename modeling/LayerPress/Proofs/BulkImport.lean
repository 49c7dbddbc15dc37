import LayerPress.Proofs.BusyLayer

/-!
# Importing a list of layers

A bulk import looks up one layer of its list after another and queues an import for it, while other
requests and jobs go on between any two of its actions. What it says of an id is what held at the
moments at which it came to it: no layer had the id, the layer had no source file, an import of the
layer was running, or a new import was registered. A layer that is listed twice has a second import
only if the first has ended by then, so that no two of them ever run at the same time.
-/

namespace LayerPress

open Admin Admin.Handling

/-! ## What is left of the request -/

/-- What a bulk import has left to do when it has placed some ids of its list. -/
def bulkImportFrom (placed : List Placement) : List Uuid → Task Response
  | [] => .result (Response.json 200 (bulkDocument placed))
  | id :: rest => (importOne id).run >>= fun
    | .ok placement => bulkImportFrom (placed ++ [placement]) rest
    | .error r => .result r

/-- The part of it in which the import of a layer is queued. -/
def queueImportThen (id : Uuid) (next : Placement → Task Response) : Task Response :=
  .perform (.queueImport id) fun
    | .ok job => next (.queued job)
    | .error running => next (.skipped id s!"already importing (job_id: {running})")

/-- The part of it that follows a look at a layer. -/
def importFoundThen (id : Uuid) (next : Placement → Task Response) : Option Layer → Task Response
  | none => next (.skipped id "not found")
  | some l =>
    if hasText l.sourceFile then queueImportThen id next
    else next (.skipped id "no source file")

/-- A bulk import looks the next layer up. -/
theorem bulkImportFrom_cons (placed : List Placement) (id : Uuid) (rest : List Uuid) :
    bulkImportFrom placed (id :: rest) =
      .perform (.site (.records (.statement (.findLayer id)))) fun
        | .error f => .result (Response.error 500 f.message)
        | .ok found =>
          importFoundThen id (fun placement => bulkImportFrom (placed ++ [placement]) rest)
            found := by
  apply congrArg (Procedure.perform _)
  funext x
  cases x with
  | error f => rfl
  | ok found =>
    cases found with
    | none => rfl
    | some l =>
      change (ite (hasText l.sourceFile = true) _ (pure (.skipped id "no source file")) :
        Handling Placement).run >>= _ = importFoundThen id _ (some l)
      by_cases hsource : hasText l.sourceFile = true
      · rw [importFoundThen, if_pos hsource, if_pos hsource]
        apply congrArg (Procedure.perform _)
        funext queued
        cases queued <;> rfl
      · rw [importFoundThen, if_neg hsource, if_neg hsource]
        rfl

/-- What comes after the handling of a list when some ids are placed already. -/
def answerAfter (placed : List Placement) : Except Response (List Placement) → Task Response
  | .ok others => .result (Response.json 200 (bulkDocument (placed ++ others)))
  | .error r => .result r

/-- A list is handled one id after another. -/
theorem forEach_importOne (placed : List Placement) (ids : List Uuid) :
    (forEach importOne ids).run >>= answerAfter placed = bulkImportFrom placed ids := by
  induction ids generalizing placed with
  | nil =>
    change Procedure.result (Response.json 200 (bulkDocument (placed ++ []))) = _
    rw [List.append_nil, bulkImportFrom]
  | cons id rest ih =>
    rw [forEach, bulkImportFrom, ExceptT.run_bind, bind_assoc]
    congr 1
    funext first
    cases first with
    | error r => rfl
    | ok placement =>
      change (forEach importOne rest >>= fun others => pure (placement :: others)).run >>=
        answerAfter placed = bulkImportFrom (placed ++ [placement]) rest
      rw [ExceptT.run_bind, bind_assoc, ← ih]
      congr 1
      funext others
      cases others with
      | error r => rfl
      | ok others =>
        change Procedure.result
          (Response.json 200 (bulkDocument (placed ++ placement :: others))) = _
        rw [answerAfter, List.append_assoc, List.singleton_append]

/-- A bulk import begins with nothing placed. -/
theorem bulkImport_task (ids : List Uuid) :
    (JobRequest.bulkImport ids).task = bulkImportFrom [] ids := by
  rw [← forEach_importOne]
  change (forEach importOne ids >>= fun placements =>
    pure (Response.json 200 (bulkDocument placements)) : Handling Response).run >>= _ = _
  rw [ExceptT.run_bind, bind_assoc]
  congr 1
  funext placements
  cases placements <;> rfl

/-! ## What is said of an id -/

/-- The records that a task sees: the draft of its own transaction, or else what is stored. -/
def Machine.seenBy {σ : Type} (m : Machine σ) (who : Actor) : Records :=
  if m.isHeldAgainst who then m.site.records else m.site.visible

section
variable {σ : Type}

/-- What a bulk import says of an id that it comes to after a start, and after which turns it has
said so. It looks the layer up in one turn; if there is a source file, it asks for an import in a
later turn. -/
inductive Settles (office : Office σ) (machine : List Turn → Machine σ) (who : Actor)
    (start : List Turn) (id : Uuid) : Placement → List Turn → Prop
  | unknown {looked : List Turn} (later : start <+: looked)
      (unknown : ((machine looked).seenBy who).layer? id = none) :
      Settles office machine who start id (.skipped id "not found") (looked ++ [.act who])
  | sourceless {looked : List Turn} {l : Layer} (later : start <+: looked)
      (found : ((machine looked).seenBy who).layer? id = some l)
      (sourceless : hasText l.sourceFile = false) :
      Settles office machine who start id (.skipped id "no source file") (looked ++ [.act who])
  | busy {looked asked : List Turn} {l : Layer} {running : JobId} (later : start <+: looked)
      (found : ((machine looked).seenBy who).layer? id = some l)
      (source : hasText l.sourceFile = true) (afterwards : looked ++ [.act who] <+: asked)
      (imports : (machine asked).Imports id running) :
      Settles office machine who start id
        (.skipped id s!"already importing (job_id: {running})") (asked ++ [.act who])
  | queued {looked asked : List Turn} {l : Layer} {job : JobId} {channel now : Nat}
      (later : start <+: looked) (found : ((machine looked).seenBy who).layer? id = some l)
      (source : hasText l.sourceFile = true) (afterwards : looked ++ [.act who] <+: asked)
      (fresh : job ∉ (machine asked).issued office)
      (registered : (machine (asked ++ [.act who])).jobs.get? job =
        some (Job.start job .importing (some id) channel now)) :
      Settles office machine who start id (.queued job) (asked ++ [.act who])

/-- What a bulk import says of its ids, one after another. -/
inductive SettlesAll (office : Office σ) (machine : List Turn → Machine σ) (who : Actor) :
    List Uuid → List Placement → List Turn → Prop
  | nil : SettlesAll office machine who [] [] []
  | concat {ids : List Uuid} {placements : List Placement} {start stop : List Turn} {id : Uuid}
      {placement : Placement} (before : SettlesAll office machine who ids placements start)
      (last : Settles office machine who start id placement stop) :
      SettlesAll office machine who (ids ++ [id]) (placements ++ [placement]) stop

/-- A bulk import under way: it comes to the next id, or it has found the layer of one with a source
file and is to ask for its import, or it has failed. -/
inductive Underway (office : Office σ) (machine : List Turn → Machine σ) (who : Actor)
    (ids : List Uuid) (past : List Turn) : Task Response → Prop
  | between {settled rest : List Uuid} {placed : List Placement} {stop : List Turn}
      (settles : SettlesAll office machine who settled placed stop) (sooner : stop <+: past)
      (split : settled ++ rest = ids) :
      Underway office machine who ids past (bulkImportFrom placed rest)
  | found {settled rest : List Uuid} {id : Uuid} {placed : List Placement} {stop looked : List Turn}
      {l : Layer} (settles : SettlesAll office machine who settled placed stop)
      (later : stop <+: looked) (found : ((machine looked).seenBy who).layer? id = some l)
      (source : hasText l.sourceFile = true) (sooner : looked ++ [.act who] <+: past)
      (split : settled ++ id :: rest = ids) :
      Underway office machine who ids past
        (queueImportThen id fun placement => bulkImportFrom (placed ++ [placement]) rest)
  | failed (message : String) :
      Underway office machine who ids past (.result (Response.error 500 message))

variable {office : Office σ} {m m' : Machine σ} {who : Actor} {id : Uuid}
  {machine : List Turn → Machine σ} {ids : List Uuid} {past : List Turn} {t : Task Response}

/-- A look on a site finds the layer that is visible there, or fails. -/
theorem Site.of_findLayer (env : Surroundings σ) (s : Site σ) (id : Uuid) :
    (∃ f, (Site.handle env (.records (.statement (.findLayer id))) s).1 = .error f) ∨
      (Site.handle env (.records (.statement (.findLayer id))) s).1 =
        .ok (s.visible.layer? id) := by
  obtain ⟨f, outside, hhandle⟩ | ⟨v, r, outside, hexecute, hhandle⟩ :=
    Machine.handle_statement env (.findLayer id) s
  · exact .inl ⟨f, by rw [hhandle]⟩
  · cases hexecute
    exact .inr (by rw [hhandle])

/-- A look of a task finds the layer that the task sees, or fails. -/
theorem Machine.of_findLayer {x : Except RecordFault (Option Layer)}
    (h : m.handle office who (.site (.records (.statement (.findLayer id)))) = some (x, m')) :
    (∃ f, x = .error f) ∨ x = .ok ((m.seenBy who).layer? id) := by
  cases hheld : m.isHeldAgainst who with
  | true =>
    simp only [handle, onSite, records, hheld] at h
    cases h
    rw [seenBy, if_pos hheld]
    exact Site.of_findLayer office.surroundings { m.site with working := none } id
  | false =>
    simp only [handle, onSite, records, hheld] at h
    cases h
    rw [seenBy, if_neg (Bool.eq_false_iff.mp hheld)]
    exact Site.of_findLayer office.surroundings m.site id

namespace Underway

/-- Turns of others leave the request where it is. -/
theorem later (h : Underway office machine who ids past t) (more : List Turn) :
    Underway office machine who ids (past ++ more) t := by
  have hmore : past <+: past ++ more := List.prefix_append ..
  cases h with
  | between settles sooner split => exact .between settles (sooner.trans hmore) split
  | found settles later found source sooner split =>
    exact .found settles later found source (sooner.trans hmore) split
  | failed message => exact .failed message

/-- The request goes on with the next action. -/
theorem act (h : Underway office machine who ids past t) (hinj : Function.Injective office.jobId)
    (hindexed : (machine past).Indexed office) {a : TaskAction} {next : a.Answer → Task Response}
    (ht : t = .perform a next) {x : a.Answer}
    (hhandle : (machine past).handle office who a = some (x, machine (past ++ [.act who]))) :
    Underway office machine who ids (past ++ [.act who]) (next x) := by
  cases h with
  | failed message => cases ht
  | @between settled rest placed stop settles sooner split =>
    cases rest with
    | nil => cases ht
    | cons id rest =>
      rw [bulkImportFrom_cons] at ht
      cases ht
      have hnext : settled ++ [id] ++ rest = ids := by rw [List.append_assoc]; exact split
      obtain ⟨f, rfl⟩ | rfl := Machine.of_findLayer hhandle
      · exact .failed f.message
      · cases hfound : ((machine past).seenBy who).layer? id with
        | none =>
          exact .between (settles.concat (.unknown sooner hfound)) (List.prefix_refl _) hnext
        | some l =>
          simp only [importFoundThen]
          split
          · next hsource => exact .found settles sooner hfound hsource (List.prefix_refl _) split
          · next hsource =>
            have hsourceless := Bool.eq_false_iff.mpr hsource
            exact .between (settles.concat (.sourceless sooner hfound hsourceless))
              (List.prefix_refl _) hnext
  | @found settled rest id placed stop looked l settles later found source sooner split =>
    cases ht
    have hnext : settled ++ [id] ++ rest = ids := by rw [List.append_assoc]; exact split
    cases x with
    | error running =>
      obtain ⟨j, hactive, rfl⟩ := hindexed.active?_of_refused hhandle
      obtain ⟨hj, hlayer, hrun⟩ := (JobStore.Indexed.active?_eq_some_iff hindexed).mp hactive
      exact .between (settles.concat (.busy later found source sooner ⟨j, hj, rfl, hlayer, hrun⟩))
        (List.prefix_refl _) hnext
    | ok job =>
      have hindexed' : (machine (past ++ [.act who])).Indexed office :=
        hindexed.handle hinj hhandle nofun
      cases Machine.queued_of_queueImport hhandle with
      | started _ _ _ _ _ hjobs _ =>
        have hj : Job.start (office.jobId (machine past).nextJob) .importing (some id)
            (machine past).broadcast.nextChannel (machine past).now ∈
              (machine (past ++ [.act who])).jobs.jobs := by
          simp [hjobs, JobStore.put]
        exact .between (settles.concat (.queued later found source sooner
          (Machine.notMem_issued hinj) (hindexed'.get?_eq hj))) (List.prefix_refl _) hnext

end Underway

/-! ## Every course -/

/-- No number of a job is given back. -/
theorem Course.nextJob_le_next {ρ : Type} (office : Office σ) (c : Course σ ρ) (turn : Turn) :
    c.scene.machine.nextJob ≤ (c.next office turn).scene.machine.nextJob := by
  cases turn with
  | pass elapsed => exact Nat.le_refl _
  | act who =>
    simp only [next]
    split
    · next d s htake =>
      obtain ⟨m, htook⟩ := Scene.exists_took htake
      rw [htook.machine]
      exact Nat.le.intro htook.handled.counters.1.symm
    · exact Nat.le_refl _

/-- What has been given out stays so. -/
theorem Course.issued_subset {ρ : Type} (office : Office σ) (c : Course σ ρ)
    {past later : List Turn} (h : past <+: later) : (c.run office past).scene.machine.issued office ⊆
      (c.run office later).scene.machine.issued office := by
  obtain ⟨more, rfl⟩ := h
  induction more using List.reverseRecOn with
  | nil =>
    rw [List.append_nil]
    exact List.Subset.refl _
  | append_singleton more turn ih =>
    have hnext : (c.run office (past ++ more)).scene.machine.issued office ⊆
        (c.run office (past ++ (more ++ [turn]))).scene.machine.issued office := by
      rw [← List.append_assoc, run_concat]
      exact List.map_subset _ (List.range_subset.mpr (nextJob_le_next office _ turn))
    exact List.Subset.trans ih hnext

/-- A bulk import is under way or has failed, whatever the turns. -/
theorem Underway.run {c : Course σ Response} {k : Nat} (hinj : Function.Injective office.jobId)
    (hindexed : ∀ past, (c.run office past).scene.machine.Indexed office)
    (hclient : c.scene.clients[k]? = some (JobRequest.bulkImport ids).task) (turns : List Turn) :
    ∃ t, (c.run office turns).scene.clients[k]? = some t ∧
      Underway office (fun past => (c.run office past).scene.machine) (.client k) ids turns t := by
  induction turns using List.reverseRecOn with
  | nil =>
    refine ⟨_, hclient, ?_⟩
    rw [bulkImport_task]
    exact .between .nil (List.prefix_refl _) rfl
  | append_singleton turns turn ih =>
    obtain ⟨t, ht, hunderway⟩ := ih
    rw [Course.run_concat]
    by_cases hturn : turn = .act (.client k)
    · subst hturn
      cases t with
      | result answer =>
        rw [Course.next_of_take (by simp only [Scene.take, Machine.turn?, ht])]
        exact ⟨_, ht, hunderway.later _⟩
      | perform a next =>
        cases hhandle : (c.run office turns).scene.machine.handle office (.client k) a with
        | none =>
          rw [Course.next_of_take (by simp only [Scene.take, Machine.turn?, ht, hhandle])]
          exact ⟨_, ht, hunderway.later _⟩
        | some answered =>
          have hnext := Course.next_client ht hhandle
          rw [hnext]
          refine ⟨_, List.getElem?_set_self (List.getElem?_eq_some_iff.mp ht).1,
            hunderway.act hinj (hindexed turns) rfl ?_⟩
          rw [Course.run_concat, hnext]
          exact hhandle
    · refine ⟨t, ?_, hunderway.later [turn]⟩
      rw [Course.scene_next, (Scene.occur_other office rfl (fun _ _ => rfl) hturn).2.2.1, ht]

/-! ## Jobs and places -/

/-- An id is settled after its start. -/
theorem Settles.isPrefix {start stop : List Turn} {placement : Placement}
    (h : Settles office machine who start id placement stop) : start <+: stop := by
  cases h with
  | unknown later | sourceless later => exact later.trans (List.prefix_append ..)
  | busy later _ _ afterwards | queued later _ _ afterwards =>
    exact later.trans ((List.prefix_append ..).trans (afterwards.trans (List.prefix_append ..)))

/-- The id of a queued job is given out between the start and the end. -/
theorem Settles.job_issued {start stop : List Turn} {placement : Placement}
    (h : Settles office machine who start id placement stop)
    (hindexed : ∀ past, (machine past).Indexed office)
    (hissued : ∀ past later, past <+: later →
      (machine past).issued office ⊆ (machine later).issued office) :
    ∀ job ∈ placement.job?,
      job ∉ (machine start).issued office ∧ job ∈ (machine stop).issued office := by
  cases h with
  | unknown | sourceless | busy => exact nofun
  | @queued looked asked l job channel now later _ _ afterwards fresh registered =>
    intro other hother
    cases hother
    have hasked : start <+: asked := later.trans ((List.prefix_append ..).trans afterwards)
    refine ⟨fun hold => fresh (hissued _ _ hasked hold), ?_⟩
    have hmem := ((JobStore.get?_eq_some_iff (hindexed _).sound).mp registered).1
    exact (hindexed _).stored _ hmem

namespace SettlesAll

variable {stop : List Turn} {placements : List Placement}

/-- Every id has a place. -/
theorem length_eq (h : SettlesAll office machine who ids placements stop) :
    placements.length = ids.length := by
  induction h with
  | nil => rfl
  | concat _ _ ih => simp [ih]

/-- The queued jobs are different, and their ids are given out while the list is settled. -/
theorem jobs_issued (h : SettlesAll office machine who ids placements stop)
    (hindexed : ∀ past, (machine past).Indexed office)
    (hissued : ∀ past later, past <+: later →
      (machine past).issued office ⊆ (machine later).issued office) :
    (placements.filterMap Placement.job?).Nodup ∧
      ∀ job ∈ placements.filterMap Placement.job?,
        job ∉ (machine []).issued office ∧ job ∈ (machine stop).issued office := by
  induction h with
  | nil => simp
  | @concat ids placements start stop id placement before last ih =>
    have hjob := last.job_issued hindexed hissued
    have hlater := hissued _ _ last.isPrefix
    have hlast : [placement].filterMap Placement.job? = placement.job?.toList := by
      cases hplacement : placement.job? <;> simp [hplacement]
    rw [List.filterMap_append, hlast]
    constructor
    · apply List.nodup_append'.mpr
      refine ⟨ih.1, by cases placement.job? <;> simp, ?_⟩
      intro job hold hnew
      exact (hjob job (Option.mem_toList.mp hnew)).1 (ih.2 job hold).2
    · intro job hmem
      rcases List.mem_append.mp hmem with hold | hnew
      · exact ⟨(ih.2 job hold).1, hlater (ih.2 job hold).2⟩
      · have hnew := hjob job (Option.mem_toList.mp hnew)
        exact ⟨fun hfirst => hnew.1 (hissued _ _ List.nil_prefix hfirst), hnew.2⟩

end SettlesAll

/-- Every id of a list has a job or is skipped. -/
theorem length_jobs_add_length_skipped (placements : List Placement) :
    (placements.filterMap Placement.job?).length +
      (placements.filterMap Placement.skipped?).length = placements.length := by
  induction placements with
  | nil => rfl
  | cons placement rest ih =>
    cases placement with
    | queued job =>
      simp only [List.filterMap_cons, Placement.job?, Placement.skipped?, List.length_cons]
      omega
    | skipped layer reason =>
      simp only [List.filterMap_cons, Placement.job?, Placement.skipped?, List.length_cons]
      omega

/-- One job at a time imports a layer. -/
theorem Machine.Indexed.imports_unique (h : m.Indexed office) {layer : Uuid} {job other : JobId}
    (hjob : m.Imports layer job) (hother : m.Imports layer other) : job = other := by
  obtain ⟨j, hj, rfl⟩ := hjob.exists_active? h
  obtain ⟨k, hk, rfl⟩ := hother.exists_active? h
  rw [hj] at hk
  cases hk
  rfl

/-! ## The theorem -/

/-- How a bulk import has placed its ids when it has been answered. Each has a job or is skipped;
the jobs are different from one another and from all that were stored before, and one of them at a
time imports a layer. -/
structure PlacesAll (office : Office σ) (machine : List Turn → Machine σ) (who : Actor)
    (turns : List Turn) (ids : List Uuid) (placements : List Placement) : Prop where
  settles : ∃ stop, stop <+: turns ∧ SettlesAll office machine who ids placements stop
  count : (placements.filterMap Placement.job?).length +
    (placements.filterMap Placement.skipped?).length = ids.length
  distinct : (placements.filterMap Placement.job?).Nodup
  unknown : ∀ job ∈ placements.filterMap Placement.job?, (machine []).jobs.get? job = none
  alone : ∀ past, past <+: turns → ∀ layer,
    ∀ job ∈ placements.filterMap Placement.job?, ∀ other ∈ placements.filterMap Placement.job?,
      (machine past).Imports layer job → (machine past).Imports layer other → job = other

end

/-- A bulk import that is answered as done, in any course of requests and jobs, has placed every id
of its list as the records and the jobs were when it came to it. -/
theorem bulkImport_places {σ : Type} (office : Office σ) (hinj : Function.Injective office.jobId)
    (site : Site σ) (workers : Nat) (clients : List (Task Response))
    (hclients : ∀ t ∈ clients, ClientTask t) (before : List Turn) (k : Nat) (ids : List Uuid)
    (turns : List Turn) (answer : Response) :
    let c := (Course.start ⟨Machine.start site workers, clients⟩).run office before
    c.scene.clients[k]? = some (JobRequest.bulkImport ids).task →
    (c.run office turns).scene.clients[k]? = some (.result answer) → answer.status = 200 →
    ∃ placements, answer = Response.json 200 (bulkDocument placements) ∧
      PlacesAll office (fun past => (c.run office past).scene.machine) (.client k) turns ids
        placements := by
  intro c hclient hanswer hstatus
  have hfirst := Course.Enrolled.start office site workers hclients
  have hbefore : c.scene.machine.Indexed office :=
    hfirst.run_indexed hinj (Machine.indexed_start office site workers) before
  have hindexed : ∀ past, (c.run office past).scene.machine.Indexed office :=
    (hfirst.run before).run_indexed hinj hbefore
  have hissued : ∀ past later, past <+: later → (c.run office past).scene.machine.issued office ⊆
      (c.run office later).scene.machine.issued office := fun _ _ => c.issued_subset office
  obtain ⟨t, ht, hunderway⟩ := Underway.run hinj hindexed hclient turns
  obtain rfl : .result answer = t := Option.some.inj (hanswer.symm.trans ht)
  generalize hended : Procedure.result answer = ended at hunderway
  cases hunderway with
  | failed message =>
    cases hended
    cases hstatus
  | found => cases hended
  | @between settled rest placements stop settles sooner split =>
    cases rest with
    | cons id rest =>
      rw [bulkImportFrom_cons] at hended
      cases hended
    | nil =>
      rw [List.append_nil] at split
      subst split
      cases hended
      obtain ⟨hdistinct, hnew⟩ := settles.jobs_issued hindexed hissued
      refine ⟨placements, rfl, ⟨stop, sooner, settles⟩, ?_, hdistinct, ?_, ?_⟩
      · rw [length_jobs_add_length_skipped, settles.length_eq]
      · exact fun job hjob => JobStore.Indexed.get?_eq_none hbefore (hnew job hjob).1
      · intro past _ layer job _ other _ himports himports'
        exact (hindexed past).imports_unique himports himports'

/-- Two layers are imported, and then two are listed of which one is being imported and the other
is named twice, beside one that is unknown. -/
def listedRequests : List JobRequest := [.bulkImport [⟨2⟩, ⟨1⟩], .bulkImport [⟨1⟩, ⟨3⟩, ⟨4⟩, ⟨3⟩]]

/-- The course in which the first request has been answered. -/
def listedCourse : Course Unit Response :=
  (Course.start ⟨Machine.start spareSite 1, listedRequests.map JobRequest.task⟩).run .plain
    (List.replicate 4 (.act (.client 0)))

/-- The turns of the second request. -/
def listedTurns : List Turn := List.replicate 7 (.act (.client 1))

/-- What the second request is answered. -/
def listedAnswer : Response :=
  Response.json 200 (bulkDocument
    [.skipped ⟨1⟩ "already importing (job_id: j)", .queued "jjj", .skipped ⟨4⟩ "not found",
      .skipped ⟨3⟩ "already importing (job_id: jjj)"])

/-- The second request is answered and has placed its ids. -/
theorem bulkImport_places_listed :
    Function.Injective Office.plain.jobId ∧
      (∀ t ∈ listedRequests.map JobRequest.task, ClientTask t) ∧
      listedCourse.scene.clients[1]? = some (JobRequest.bulkImport [⟨1⟩, ⟨3⟩, ⟨4⟩, ⟨3⟩]).task ∧
      (listedCourse.run .plain listedTurns).scene.clients[1]? = some (.result listedAnswer) ∧
      listedAnswer.status = 200 ∧
      ∃ placements, listedAnswer = Response.json 200 (bulkDocument placements) ∧
        PlacesAll .plain (fun past => (listedCourse.run .plain past).scene.machine) (.client 1)
          listedTurns [⟨1⟩, ⟨3⟩, ⟨4⟩, ⟨3⟩] placements := by
  have hclients : ∀ t ∈ listedRequests.map JobRequest.task, ClientTask t := by
    rw [List.forall_mem_map]
    exact fun r _ => r.requestTask_task.clientTask
  have hclient : listedCourse.scene.clients[1]? =
      some (JobRequest.bulkImport [⟨1⟩, ⟨3⟩, ⟨4⟩, ⟨3⟩]).task := rfl
  have hanswer : (listedCourse.run .plain listedTurns).scene.clients[1]? =
      some (.result listedAnswer) := rfl
  have hplaces := bulkImport_places .plain Office.plain_jobId_injective spareSite 1
    (listedRequests.map JobRequest.task) hclients (List.replicate 4 (.act (.client 0))) 1
    [⟨1⟩, ⟨3⟩, ⟨4⟩, ⟨3⟩] listedTurns listedAnswer hclient hanswer rfl
  exact ⟨Office.plain_jobId_injective, hclients, hclient, hanswer, rfl, hplaces⟩

end LayerPress
