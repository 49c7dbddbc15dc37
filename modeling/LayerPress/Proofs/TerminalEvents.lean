import LayerPress.Proofs.RunningImports
import LayerPress.Proofs.Subscribers

/-!
# What a terminal event tells

The task of a job sends its terminal event and ends the job in its very next action. So whoever has
received the event knows with which status the job ends, and for as long as this one action takes to
come may still be told that the job runs, or be refused an import of its layer. From then on the
store never says otherwise than the event did.
-/

namespace LayerPress

/-- The status with which a job is ended whose last event this is. -/
def TaskEvent.endStatus? : TaskEvent → Option JobStatus
  | progress _ | result _ => none
  | error _ => some .failed
  | done => some .completed

/-- No event ends a job as running. -/
theorem TaskEvent.endStatus?_ne_running {e : TaskEvent} {status : JobStatus}
    (h : e.endStatus? = some status) : status ≠ .running := by
  cases e <;> cases h <;> decide

/-! ## The last event of a task -/

section
variable {settings : ImportSettings} {errand : Errand} {id : JobId} {channel : Nat}
  {work : List (Exchange siteActions)} {r : Report} {log more : List (Exchange taskActions)}
  {e : TaskEvent} {status : JobStatus}

/-- The last thing a task does before it ends its job is to send the event that tells how. -/
theorem Report.exists_last (r : Report) (channel : Nat) (work : List (Exchange siteActions)) :
    ∃ before last, r.opening channel work = before ++ [⟨.announce channel last, ()⟩] ∧
      last.endStatus? = some r.verdict.status ∧
      ∀ e ∈ eventsIn before, e.endStatus? = none := by
  have hworked : ∀ e ∈ eventsIn (⟨.takePermit, ()⟩ :: work.map (.reported channel)),
      e.endStatus? = none := by
    rw [← List.singleton_append, eventsIn_append, eventsIn_reported]
    simp [eventsIn, TaskAction.event?, progressOf, TaskEvent.endStatus?]
  obtain ⟨success, message, data⟩ := r
  cases success with
  | true =>
    refine ⟨(⟨.takePermit, ()⟩ :: work.map (.reported channel)) ++
      [⟨.announce channel (.result data), ()⟩], .done, ?_, rfl, ?_⟩
    · simp [opening, closing]
    · rw [eventsIn_append, List.forall_mem_append]
      exact ⟨hworked, by simp [eventsIn, TaskAction.event?, TaskEvent.endStatus?]⟩
  | false =>
    refine ⟨⟨.takePermit, ()⟩ :: work.map (.reported channel), .error message, ?_, rfl, hworked⟩
    simp [opening, closing]

/-- The event of a report that tells a status tells that of its verdict. -/
theorem Report.status_of_opening (he : e ∈ eventsIn (r.opening channel work))
    (hends : e.endStatus? = some status) : r.verdict.status = status := by
  obtain ⟨before, last, hopening, hlast, hquiet⟩ := r.exists_last channel work
  rw [hopening, eventsIn_append, List.mem_append] at he
  rcases he with he | he
  · rw [hquiet e he] at hends
    cases hends
  · obtain rfl : e = last := by simpa [eventsIn, TaskAction.event?] using he
    exact Option.some.inj (hlast.symm.trans hends)

/-- A transcript with an event that tells a status has come to where the task ends its job. -/
theorem Report.exists_given (hlog : log ++ more = r.opening channel work ++ r.parting id)
    (he : e ∈ eventsIn log) (hends : e.endStatus? = some status) :
    r.verdict.status = status ∧
      ∃ given, log = r.opening channel work ++ given ∧ given ++ more = r.parting id := by
  have hevents : eventsIn log ++ eventsIn more = eventsIn (r.opening channel work) := by
    rw [← eventsIn_append, hlog, eventsIn_append, eventsIn_parting, List.append_nil]
  refine ⟨Report.status_of_opening (hevents ▸ List.mem_append_left _ he) hends, ?_⟩
  rcases List.append_eq_append_iff.mp hlog with ⟨rest, hprefix, hmore⟩ | ⟨given, hgiven, hparting⟩
  · -- What has been seen is part of the opening, so it is all of it.
    cases rest using List.reverseRecOn with
    | nil => exact ⟨[], by simpa using hprefix.symm, by simpa using hmore⟩
    | append_singleton rest x =>
      obtain ⟨before, last, hopening, -, hquiet⟩ := r.exists_last channel work
      rw [hopening, ← List.append_assoc] at hprefix
      obtain ⟨hbefore, -⟩ := List.append_inj' hprefix rfl
      have hsilent := hquiet e (hbefore ▸ eventsIn_append log rest ▸ List.mem_append_left _ he)
      rw [hsilent] at hends
      cases hends
  · exact ⟨given, hgiven, hparting.symm⟩

/-- A task that has sent an event that tells a status has ended its job with it, or is to do so
next. -/
theorem Errand.exists_verdict_of_told {left : Task Unit}
    (h : (errand.task settings id channel).Leaves log left) (he : e ∈ eventsIn log)
    (hends : e.endStatus? = some status) :
    ∃ verdict : Verdict, verdict.status = status ∧
      ((endingsIn log = [] ∧ ∃ next,
          left = .perform (.endJob id verdict.status verdict.result verdict.error) next) ∨
        endingsIn log = [(id, verdict)]) := by
  cases left with
  | result a =>
    obtain ⟨work, r, -, hlog⟩ := Errand.exists_report_of_yields h.yields_result
    rw [← List.append_nil log] at hlog
    obtain ⟨hstatus, given, rfl, hparting⟩ := Report.exists_given hlog he hends
    rw [List.append_nil] at hparting
    refine ⟨r.verdict, hstatus, .inr ?_⟩
    rw [endingsIn_append, endingsIn_opening, hparting, endingsIn_parting, List.nil_append]
  | perform action next =>
    obtain ⟨x⟩ := action.nonempty_answer
    obtain ⟨work, r, more, -, hlog, -⟩ := Errand.exists_report (h.concat x)
    rw [List.append_assoc, List.singleton_append] at hlog
    obtain ⟨hstatus, given, rfl, hparting⟩ := Report.exists_given hlog he hends
    refine ⟨r.verdict, hstatus, ?_⟩
    rw [endingsIn_append, endingsIn_opening, List.nil_append]
    rw [Report.parting] at hparting
    cases given with
    | nil =>
      -- The next action is the ending.
      obtain ⟨hfirst, -⟩ := List.cons.inj hparting
      cases hfirst
      exact .inl ⟨rfl, next, rfl⟩
    | cons y given =>
      -- The ending has been seen, and at most the permit is left to return.
      obtain ⟨rfl, hrest⟩ := List.cons.inj hparting
      cases given with
      | nil => exact .inr rfl
      | cons z given => simp at hrest

end

/-! ## What requests are answered -/

/-- A request for a job looks it up once. -/
theorem Admin.Handling.showJob_answer (id : JobId) :
    (showJob id).answer = Procedure.perform (S := taskActions) (.job id) fun found =>
      .result (match found with
        | some (j, elapsed) => Response.json 200 (jobDocument j elapsed)
        | none => Response.error 404 "Job not found") := by
  refine congrArg (Procedure.perform (S := taskActions) (.job id)) (funext fun found => ?_)
  cases found <;> rfl

section
variable {σ ρ : Type} {office : Office σ} {m : Machine σ} {id : JobId} {status : JobStatus}

namespace Machine

/-- A request for the job is answered with this status. -/
def ShowsStatus (office : Office σ) (m : Machine σ) (id : JobId) (status : JobStatus) : Prop :=
  ∃ j, j.id = id ∧ j.status = status ∧ ∀ who,
    m.serve office who (Admin.Handling.showJob id).answer =
      (some (.json 200 (Admin.Handling.jobDocument j (m.now - j.createdAt))), m)

/-- A request for the job is answered that there is none. -/
def ShowsNone (office : Office σ) (m : Machine σ) (id : JobId) : Prop :=
  ∀ who, m.serve office who (Admin.Handling.showJob id).answer =
    (some (.error 404 "Job not found"), m)

/-- An import of the layer is refused because of the job. -/
def Refuses (office : Office σ) (m : Machine σ) (layer : Uuid) (id : JobId) : Prop :=
  ∃ who m', m.handle office who (.queueImport layer) = some (.error id, m')

/-- A stored job is shown with its status. -/
theorem showsStatus_of_get? (office : Office σ) {j : Job} (hid : j.id = id)
    (hfound : m.jobs.get? id = some j) : m.ShowsStatus office id j.status := by
  refine ⟨j, hid, rfl, fun who => ?_⟩
  rw [Admin.Handling.showJob_answer]
  simp only [serve, handle, hfound, Option.map_some]

/-- A job that is not stored is not shown. -/
theorem showsNone_of_get? (office : Office σ) (hmissing : m.jobs.get? id = none) :
    m.ShowsNone office id := by
  intro who
  rw [Admin.Handling.showJob_answer]
  simp only [serve, handle, hmissing, Option.map_none]

end Machine

/-- What has become of a job whose last event has told its status. Either its task is to end it
next, with this very status; then the job is still shown to run and stands in the way when its layer
is to be imported again. Or it is shown with this status, if at all, and stands in nobody's way. -/
inductive EndTold (office : Office σ) (m : Machine σ) (job : Assignment) (left : Task Unit)
    (status : JobStatus) : Prop
  | pending {verdict : Verdict} {next : Unit → Task Unit} (given : verdict.status = status)
      (next : left = .perform (.endJob job.id verdict.status verdict.result verdict.error) next)
      (shown : m.ShowsStatus office job.id .running)
      (refused : ∀ layer, job.errand = .importing layer → m.Refuses office layer job.id)
  | over (shown : m.ShowsStatus office job.id status ∨ m.ShowsNone office job.id)
      (free : ∀ layer, ¬m.Refuses office layer job.id)

variable {c : Course σ ρ}

/-- When the last event of a job has been sent, the job is about to be ended or has been. -/
theorem Course.Stored.endTold (hstored : c.Stored) (hrolled : c.Enrolled office)
    (hinj : Function.Injective office.jobId) (hindexed : c.scene.machine.Indexed office) {i : Nat}
    {job : Assignment} (hjob : (Roster.ofDeeds c.deeds).jobs[i]? = some job) {e : TaskEvent}
    (he : e ∈ eventsIn (exchangesOf (.job i) c.deeds)) (hends : e.endStatus? = some status) :
    ∃ left, c.scene.machine.tasks[i]? = some left ∧
      EndTold office c.scene.machine job left status := by
  obtain ⟨left, hleft, -⟩ := hrolled.exists_trace hjob
  refine ⟨left, hleft, ?_⟩
  have hshown : ∀ j, c.scene.machine.jobs.get? job.id = some j →
      j.Shows job (verdictIn (exchangesOf (.job i) c.deeds)) := fun j hfound =>
    hstored.shows_of_get? hrolled hinj hjob hfound
  obtain ⟨verdict, hstatus, ⟨hnone, next, rfl⟩ | hended⟩ :=
    Errand.exists_verdict_of_told (hrolled.tasks i job left hjob hleft) he hends
  · obtain ⟨j, hfound⟩ := hstored.exists_get? hjob fun hqueued =>
      endingsIn_ne_nil_of_queuedAfterEnd hqueued hnone
    have hshows := hshown j hfound
    rw [verdictIn_eq_none.mpr hnone] at hshows
    have hrunning : j.status = .running := hshows.status
    refine .pending hstatus rfl (hrunning ▸ Machine.showsStatus_of_get? office hshows.id hfound) ?_
    intro layer herrand
    have hactive : c.scene.machine.jobs.active? layer = some j := by
      refine (JobStore.Indexed.active?_eq_some_iff hindexed).mpr
        ⟨((JobStore.get?_eq_some_iff hstored.sound).mp hfound).1, ?_,
          by simp [Job.isRunning, hrunning]⟩
      rw [hshows.layer, herrand]
      rfl
    exact ⟨.client 0, _, hshows.id ▸ hindexed.queueImport hactive (.client 0)⟩
  · have hverdict : verdictIn (exchangesOf (.job i) c.deeds) = some verdict := by
      rw [verdictIn, hended]
      rfl
    have hsame : ∀ j, c.scene.machine.jobs.get? job.id = some j → j.status = status := by
      intro j hfound
      have hshows := hshown j hfound
      rw [hverdict] at hshows
      exact hshows.status.trans hstatus
    refine .over ?_ ?_
    · cases hfound : c.scene.machine.jobs.get? job.id with
      | none => exact .inr (Machine.showsNone_of_get? office hfound)
      | some j =>
        have hid := ((JobStore.get?_eq_some_iff hstored.sound).mp hfound).2
        exact .inl (hsame j hfound ▸ Machine.showsStatus_of_get? office hid hfound)
    · rintro layer ⟨who, m', hhandle⟩
      obtain ⟨j, hactive, hid⟩ := hindexed.active?_of_refused hhandle
      obtain ⟨hj, -, hrunning⟩ := (JobStore.Indexed.active?_eq_some_iff hindexed).mp hactive
      have hstatus := hsame j ((JobStore.get?_eq_some_iff hstored.sound).mpr ⟨hj, hid⟩)
      rw [Job.isRunning, beq_iff_eq] at hrunning
      exact TaskEvent.endStatus?_ne_running hends (hstatus.symm.trans hrunning)

namespace Viewing

variable {v : Viewing σ ρ}

/-- What has been delivered to a subscriber of a job was sent by the task of the job. -/
theorem Attended.exists_sent (h : v.Attended office) {p n : Nat}
    (hp : (v.course.deeds[p]?.bind (·.subscription?)) = some (id, n)) :
    ∃ (i : Nat) (job : Assignment), (Roster.ofDeeds v.course.deeds).jobs[i]? = some job ∧
      job.id = id ∧ ∀ e ∈ v.delivered n, e ∈ eventsIn (exchangesOf (.job i) v.course.deeds) := by
  obtain ⟨i, job, r, hjob, hid, -, -, hkeeps⟩ := h.keeps p id n hp
  refine ⟨i, job, hjob, hid, fun e he => ?_⟩
  rw [← h.rolled.sentOn_eq hjob fun _ hd => hd, sentOn_eq_append hp]
  exact List.mem_append_right _ (hkeeps.part.subset (List.mem_append_left _ he))

/-- Receivers are attended to and the store is indexed throughout. -/
theorem Attended.run_indexed (h : v.Attended office)
    (hindexed : v.course.scene.machine.Indexed office) (hinj : Function.Injective office.jobId)
    (happenings : List Happening) :
    (v.run office happenings).Attended office ∧
      (v.run office happenings).course.scene.machine.Indexed office :=
  run_induction (P := fun v => v.Attended office ∧ v.course.scene.machine.Indexed office)
    ⟨h, hindexed⟩
    (fun _ _ _ _ hv htake => ⟨hv.1.act hinj htake, hv.1.rolled.indexed_act hinj hv.2 htake⟩)
    (fun _ elapsed hv => ⟨hv.1.later elapsed, hv.2⟩)
    (fun _ n hv => ⟨hv.1.receive n, hv.2⟩) happenings

end Viewing

/-- Whoever has received the terminal event of a job knows with which status the job ends: until the
task's next action, which ends it so, the job is shown to run, and from then on only with this
status, and no import is refused because of it. -/
theorem told_before_ended (office : Office σ) (hinj : Function.Injective office.jobId)
    (site : Site σ) (workers : Nat) (origins : List String) (requests : List Admin.Request)
    (happenings : List Happening) :
    let v := (Viewing.start (Scene.receiving site workers origins requests)).run office happenings
    ∀ (p n : Nat) (id : JobId) (e : TaskEvent) (status : JobStatus),
      (v.course.deeds[p]?.bind (·.subscription?)) = some (id, n) → e ∈ v.delivered n →
        e.endStatus? = some status →
          ∃ (i : Nat) (job : Assignment) (left : Task Unit),
            (Roster.ofDeeds v.course.deeds).jobs[i]? = some job ∧ job.id = id ∧
              v.course.scene.machine.tasks[i]? = some left ∧
              EndTold office v.course.scene.machine job left status := by
  intro v p n id e status hp he hends
  obtain ⟨hattended, hindexed⟩ : v.Attended office ∧ v.course.scene.machine.Indexed office := by
    apply Viewing.Attended.run_indexed _ (Machine.indexed_start office site workers) hinj
    apply Viewing.Attended.start
    simp [Admin.clientTask_respond]
  obtain ⟨i, job, hjob, hid, hsent⟩ := hattended.exists_sent hp
  obtain ⟨left, hleft, htold⟩ := hattended.stored.endTold hattended.rolled hinj hindexed hjob
    (hsent e he) hends
  exact ⟨i, job, left, hjob, hid, hleft, htold⟩

end

/-- Someone subscribes to a job, which sends all its events, and takes ten of them. -/
def hastyFollowing : List Happening :=
  queueing ++ following ++ List.replicate 27 (.turn (.act (.job 0))) ++
    List.replicate 10 (.receive 0)

/-- The subscriber has received the end, the job is stored as running, and an import of its layer
would be refused. -/
theorem followed_hasty :
    let v := followed hastyFollowing
    (v.course.deeds[2]?.bind (·.subscription?)) = some ("j", 0) ∧
      (∃ e ∈ v.delivered 0, e.endStatus? = some .completed) ∧
      (v.course.scene.machine.jobs.get? "j").map (fun j => (j.id, j.status)) =
        some ("j", .running) ∧
      (v.course.scene.machine.handle .named (.client 2) (.queueImport ⟨1⟩)).map (·.1) =
        some (.error "j") := by
  decide +kernel

/-- A subscriber is told the end of the plain import before the task has ended it. -/
theorem told_before_ended_hasty :
    Function.Injective Office.named.jobId ∧
      ((followed hastyFollowing).course.deeds[2]?.bind (·.subscription?)) = some ("j", 0) ∧
      ∃ e ∈ (followed hastyFollowing).delivered 0, e.endStatus? = some .completed ∧
        ∃ (i : Nat) (job : Assignment) (left : Task Unit),
          (Roster.ofDeeds (followed hastyFollowing).course.deeds).jobs[i]? = some job ∧
            job.id = "j" ∧ (followed hastyFollowing).course.scene.machine.tasks[i]? = some left ∧
            EndTold .named (followed hastyFollowing).course.scene.machine job left .completed := by
  obtain ⟨hp, ⟨e, he, hends⟩, -⟩ := followed_hasty
  refine ⟨Office.named_jobId_injective, hp, e, he, hends, ?_⟩
  unfold followed at hp he ⊢
  exact told_before_ended .named Office.named_jobId_injective (Site.plain [.plain "roads"]) 1 []
    [importRequest, followRequest] hastyFollowing 2 0 "j" e .completed hp he hends

/-- A job whose end has been told may still be shown to run, and its layer be refused an import. -/
theorem told_while_running :
    let v := followed hastyFollowing
    (v.course.deeds[2]?.bind (·.subscription?)) = some ("j", 0) ∧
      (∃ e ∈ v.delivered 0, e.endStatus? = some .completed) ∧
      v.course.scene.machine.ShowsStatus .named "j" .running ∧
      v.course.scene.machine.Refuses .named ⟨1⟩ "j" := by
  obtain ⟨hp, htold, hstored, hrefused⟩ := followed_hasty
  obtain ⟨j, hfound, hshown⟩ := Option.map_eq_some_iff.mp hstored
  obtain ⟨hid, hstatus⟩ := Prod.mk.inj hshown
  obtain ⟨⟨x, m⟩, hhandle, rfl⟩ := Option.map_eq_some_iff.mp hrefused
  exact ⟨hp, htold, hstatus ▸ Machine.showsStatus_of_get? .named hid hfound, .client 2, m, hhandle⟩

end LayerPress
