import LayerPress.Proofs.Itinerary
import LayerPress.Proofs.JobWatch
import LayerPress.Proofs.Paths

/-!
# What a job reports

Work comes to a report, of success or failure. From it the task of a job makes its last events and
the verdict with which it ends the job, so that the two cannot disagree. A complete transcript of
the task is its permit, the work with its stages told as progress, the events and the verdict of the
report, and the return of the permit; whatever is seen of a task is the beginning of such a
transcript.
-/

namespace LayerPress

/-! ## Errands and reports -/

/-- What a job is to do. -/
inductive Errand where
  | importing (layer : Uuid)
  | tearing (table entry : Option String)
  deriving DecidableEq, Repr

namespace Errand

/-- The kind of a job with this errand. -/
def kind : Errand → JobKind
  | importing _ => .importing
  | tearing .. => .teardown

/-- The layer that is imported. -/
def layer? : Errand → Option Uuid
  | importing layer => some layer
  | tearing .. => none

/-- The task of a job with this errand. -/
def task (settings : ImportSettings) (id : JobId) (channel : Nat) : Errand → Task Unit
  | importing layer => Task.importJob settings id channel layer
  | tearing table entry => Task.teardownJob settings id channel table entry

end Errand

/-- A queued job: its id, the channel of its events and its errand. -/
structure Assignment where
  id : JobId
  channel : Nat
  errand : Errand
  deriving DecidableEq, Repr

/-- The task of a queued job. -/
def Assignment.task (settings : ImportSettings) (a : Assignment) : Task Unit :=
  a.errand.task settings a.id a.channel

/-- How a job is ended. -/
structure Verdict where
  status : JobStatus
  result : Option Json
  error : Option String

/-- What work comes to, as the task of a job sees it. -/
structure Report where
  success : Bool
  message : String
  data : Json

namespace Report

/-- The last events of a job. -/
def closing (r : Report) : List TaskEvent :=
  if r.success then [.result r.data, .done] else [.error r.message]

/-- The verdict with which a job is ended. -/
def verdict (r : Report) : Verdict :=
  if r.success then ⟨.completed, some r.data, none⟩ else ⟨.failed, some r.data, some r.message⟩

end Report

/-- The report of an import. -/
def ImportOutcome.report (o : ImportOutcome) : Report := ⟨o.success, o.message, o.document⟩

/-- The report of a teardown. -/
def TeardownOutcome.report (o : TeardownOutcome) : Report := ⟨o.success, o.failureText, o.document⟩

/-- What work with this transcript reports. -/
def Errand.Reports (settings : ImportSettings) (work : List (Exchange siteActions)) (r : Report) :
    Errand → Prop
  | importing layer => ∃ o, (Work.runImport settings layer).Yields work o ∧ r = o.report
  | tearing table entry => ∃ o, (Work.runTeardown settings table entry).Yields work o ∧ r = o.report

/-- The stages of some work as events. -/
def progressOf (work : List (Exchange siteActions)) : List TaskEvent :=
  (stagesOf work).map fun stage => .progress stage.text

/-- The events and the verdict of a job that has done its work. An import tells its stages, and then
its result or its error; a teardown tells no stages, and fails with the messages of the steps that
failed, in order, of which there is one at least. -/
inductive JobReport (settings : ImportSettings) :
    Errand → List (Exchange siteActions) → List TaskEvent → Verdict → Prop
  | imported {layer : Uuid} {work : List (Exchange siteActions)} {o : ImportOutcome}
      (hwork : (Work.runImport settings layer).Yields work o) (hsuccess : o.success = true) :
      JobReport settings (.importing layer) work (progressOf work ++ [.result o.document, .done])
        ⟨.completed, some o.document, none⟩
  | importFailed {layer : Uuid} {work : List (Exchange siteActions)} {o : ImportOutcome}
      (hwork : (Work.runImport settings layer).Yields work o) (hsuccess : o.success = false) :
      JobReport settings (.importing layer) work (progressOf work ++ [.error o.message])
        ⟨.failed, some o.document, some o.message⟩
  | tornDown {table entry : Option String} {work : List (Exchange siteActions)}
      {o : TeardownOutcome} (hwork : (Work.runTeardown settings table entry).Yields work o)
      (hsuccess : ∀ step ∈ o.steps, step.success = true) :
      JobReport settings (.tearing table entry) work [.result o.document, .done]
        ⟨.completed, some o.document, none⟩
  | teardownFailed {table entry : Option String} {work : List (Exchange siteActions)}
      {o : TeardownOutcome} {failed : List StepOutcome}
      (hwork : (Work.runTeardown settings table entry).Yields work o)
      (hfailed : failed = o.steps.filter (!·.success)) (hsome : failed ≠ []) :
      JobReport settings (.tearing table entry) work
        [.error (Text.joinWith "; " (failed.map (·.message)))]
        ⟨.failed, some o.document, some (Text.joinWith "; " (failed.map (·.message)))⟩

/-- A teardown notes no stage. -/
theorem stagesOf_teardown {settings : ImportSettings} {table entry : Option String}
    {work : List (Exchange siteActions)} {o : TeardownOutcome}
    (h : (Work.runTeardown settings table entry).Yields work o) : stagesOf work = [] := by
  have hcalls := h.exists_admits (passes_runTeardown settings table entry)
  rw [stagesOf, outward, List.filterMap_filterMap, List.filterMap_eq_nil_iff]
  intro e he
  obtain ⟨attempted, hadmits⟩ := hcalls e he
  obtain ⟨a, x⟩ := e
  cases a with
  | call => rfl
  | _ => exact hadmits.elim

/-- What work reports decides the events and the verdict of its job. -/
theorem Errand.Reports.jobReport {settings : ImportSettings} {errand : Errand}
    {work : List (Exchange siteActions)} {r : Report} (h : errand.Reports settings work r) :
    JobReport settings errand work (progressOf work ++ r.closing) r.verdict := by
  cases errand with
  | importing layer =>
    obtain ⟨o, hwork, rfl⟩ := h
    unfold Report.closing Report.verdict ImportOutcome.report
    cases hsuccess : o.success with
    | true => exact .imported hwork hsuccess
    | false => exact .importFailed hwork hsuccess
  | tearing table entry =>
    obtain ⟨o, hwork, rfl⟩ := h
    rw [progressOf, stagesOf_teardown hwork]
    unfold Report.closing Report.verdict TeardownOutcome.report
    cases hsuccess : o.success with
    | true => exact .tornDown hwork (List.all_eq_true.mp hsuccess)
    | false =>
      refine .teardownFailed hwork rfl ?_
      simpa [TeardownOutcome.success] using hsuccess

/-! ## Transcripts of tasks -/

/-- The event that an action sends. -/
def TaskAction.event? : TaskAction → Option TaskEvent
  | announce _ e => some e
  | _ => none

/-- The job that an action ends, with the verdict. -/
def TaskAction.ending? : TaskAction → Option (JobId × Verdict)
  | endJob id status result error => some (id, ⟨status, result, error⟩)
  | _ => none

/-- An exchange with the site. -/
def Exchange.onSite? : Exchange taskActions → Option (Exchange siteActions)
  | ⟨.site a, x⟩ => some ⟨a, x⟩
  | _ => none

/-- The events sent in a transcript. -/
def eventsIn (log : List (Exchange taskActions)) : List TaskEvent :=
  log.filterMap (·.action.event?)

/-- The jobs ended in a transcript. -/
def endingsIn (log : List (Exchange taskActions)) : List (JobId × Verdict) :=
  log.filterMap (·.action.ending?)

/-- The exchanges with the site in a transcript. -/
def siteIn (log : List (Exchange taskActions)) : List (Exchange siteActions) :=
  log.filterMap (·.onSite?)

/-- The transcript of some work without the stages. -/
def silent (work : List (Exchange siteActions)) : List (Exchange siteActions) :=
  work.filter (·.action.stage?.isNone)

/-- An exchange of some work as it is seen in the task of a job. -/
def Exchange.reported (channel : Nat) : Exchange siteActions → Exchange taskActions
  | ⟨.note stage, x⟩ => ⟨.announce channel (.progress stage.text), x⟩
  | ⟨a, x⟩ => ⟨.site a, x⟩

/-- What is seen of a task before it ends its job. -/
def Report.opening (r : Report) (channel : Nat) (work : List (Exchange siteActions)) :
    List (Exchange taskActions) :=
  ⟨.takePermit, ()⟩ ::
    (work.map (Exchange.reported channel) ++ r.closing.map fun e => ⟨.announce channel e, ()⟩)

/-- How a task ends its job and returns the permit. -/
def Report.parting (r : Report) (id : JobId) : List (Exchange taskActions) :=
  [⟨.endJob id r.verdict.status r.verdict.result r.verdict.error, ()⟩, ⟨.givePermit, ()⟩]

section
variable {settings : ImportSettings} {errand : Errand} {id : JobId} {channel : Nat}
  {work : List (Exchange siteActions)} {r : Report} {log more : List (Exchange taskActions)}

/-- Reported work is seen exchange by exchange. -/
theorem yields_reporting_iff {α : Type} (channel : Nat) (w : Work α)
    (log : List (Exchange taskActions)) (a : α) :
    (w.expand (Task.reporting channel)).Yields log a ↔
      ∃ work, w.Yields work a ∧ log = work.map (Exchange.reported channel) := by
  apply Procedure.yields_expand_iff
  intro action more x
  constructor
  · intro h
    cases action with
    | note stage =>
      obtain ⟨_, _, rfl, rfl, rfl⟩ := h
      rfl
    | _ =>
      obtain ⟨_, _, rfl, rfl, rfl⟩ := h
      rfl
  · rintro rfl
    cases action with
    | note stage => exact ⟨x, [], rfl, rfl, rfl⟩
    | _ => exact ⟨x, [], rfl, rfl, rfl⟩

/-- A task concludes with the events and the verdict of its report. -/
theorem Report.eq_of_yields_conclude (h : (do
      Task.conclude id channel r.success r.message r.data
      Task.givePermit : Task Unit).Yields log ()) :
    log = (r.closing.map fun e => ⟨.announce channel e, ()⟩) ++ r.parting id := by
  obtain ⟨success, message, data⟩ := r
  cases success with
  | true =>
    obtain ⟨_, _, rfl, _, _, rfl, _, _, rfl, _, _, rfl, rfl, -⟩ := h
    rfl
  | false =>
    obtain ⟨_, _, rfl, _, _, rfl, _, _, rfl, rfl, -⟩ := h
    rfl

/-- The task of a job is its permit, its work, and what it makes of the report. -/
theorem exists_work_of_yields {α : Type} (w : Work α) (report : α → Report) (h : (do
      Task.takePermit
      let outcome ← w.expand (Task.reporting channel)
      Task.conclude id channel (report outcome).success (report outcome).message
        (report outcome).data
      Task.givePermit : Task Unit).Yields log ()) :
    ∃ work outcome, w.Yields work outcome ∧
      log = (report outcome).opening channel work ++ (report outcome).parting id := by
  obtain ⟨_, seen, rfl, hrest⟩ := h
  obtain ⟨seen, last, outcome, rfl, hseen, hlast⟩ :=
    (Procedure.yields_bind_iff (w.expand (Task.reporting channel)) _ _ ()).mp hrest
  obtain ⟨work, hwork, rfl⟩ := (yields_reporting_iff channel w seen outcome).mp hseen
  rw [Report.eq_of_yields_conclude hlast]
  refine ⟨work, outcome, hwork, ?_⟩
  simp [Report.opening]

/-- A complete transcript of a task is made of its work and its report. -/
theorem Errand.exists_report_of_yields (h : (errand.task settings id channel).Yields log ()) :
    ∃ work r, errand.Reports settings work r ∧ log = r.opening channel work ++ r.parting id := by
  cases errand with
  | importing layer =>
    obtain ⟨work, o, hwork, hlog⟩ :=
      exists_work_of_yields (Work.runImport settings layer) (·.report) h
    exact ⟨work, _, ⟨o, hwork, rfl⟩, hlog⟩
  | tearing table entry =>
    obtain ⟨work, o, hwork, hlog⟩ :=
      exists_work_of_yields (Work.runTeardown settings table entry) (·.report) h
    exact ⟨work, _, ⟨o, hwork, rfl⟩, hlog⟩

/-- Every action has some answer. -/
theorem TaskAction.nonempty_answer (a : TaskAction) : Nonempty a.Answer := by
  cases a with
  | site a =>
    cases a with
    | isFile => exact ⟨true⟩
    | resolve => exact ⟨.error (.importTimeout 0)⟩
    | call => exact ⟨.error (.importTimeout 0)⟩
    | records => exact ⟨.error .rowGone⟩
    | now => exact ⟨⟨0, 0, 0, 0, 0, 0, 0⟩⟩
    | _ => exact ⟨()⟩
  | queueImport => exact ⟨.ok ""⟩
  | queueTeardown => exact ⟨""⟩
  | runningImport | job | subscribe => exact ⟨none⟩
  | _ => exact ⟨()⟩

/-! ## What a transcript tells -/

/-- The events of a transcript are those of its parts. -/
theorem eventsIn_append (log more : List (Exchange taskActions)) :
    eventsIn (log ++ more) = eventsIn log ++ eventsIn more :=
  List.filterMap_append

/-- The endings of a transcript are those of its parts. -/
theorem endingsIn_append (log more : List (Exchange taskActions)) :
    endingsIn (log ++ more) = endingsIn log ++ endingsIn more :=
  List.filterMap_append

/-- The exchanges with the site are those of the parts of a transcript. -/
theorem siteIn_append (log more : List (Exchange taskActions)) :
    siteIn (log ++ more) = siteIn log ++ siteIn more :=
  List.filterMap_append

/-- The progress of work is what its task sends meanwhile. -/
theorem eventsIn_reported (channel : Nat) (work : List (Exchange siteActions)) :
    eventsIn (work.map (.reported channel)) = progressOf work := by
  rw [eventsIn, progressOf, stagesOf, outward, List.filterMap_map, List.filterMap_filterMap,
    List.map_filterMap]
  congr 1
  funext e
  obtain ⟨a, x⟩ := e
  cases a <;> rfl

/-- Work ends no job. -/
theorem endingsIn_reported (channel : Nat) (work : List (Exchange siteActions)) :
    endingsIn (work.map (.reported channel)) = [] := by
  simp only [endingsIn, List.filterMap_eq_nil_iff, List.mem_map]
  rintro _ ⟨⟨a, x⟩, -, rfl⟩
  cases a <;> rfl

/-- The site sees of reported work all but the stages. -/
theorem siteIn_reported (channel : Nat) (work : List (Exchange siteActions)) :
    siteIn (work.map (.reported channel)) = silent work := by
  rw [siteIn, silent, List.filterMap_map, ← List.filterMap_eq_filter]
  congr 1
  funext e
  obtain ⟨a, x⟩ := e
  cases a <;> rfl

/-- Before a task ends its job it sends all its events. -/
theorem eventsIn_opening (r : Report) (channel : Nat) (work : List (Exchange siteActions)) :
    eventsIn (r.opening channel work) = progressOf work ++ r.closing := by
  have hclosing : eventsIn (r.closing.map fun e => ⟨.announce channel e, ()⟩) = r.closing := by
    simp [eventsIn, List.filterMap_map, TaskAction.event?]
  rw [Report.opening, ← List.singleton_append, eventsIn_append, eventsIn_append,
    eventsIn_reported, hclosing]
  rfl

/-- Before a task ends its job it ends none. -/
theorem endingsIn_opening (r : Report) (channel : Nat) (work : List (Exchange siteActions)) :
    endingsIn (r.opening channel work) = [] := by
  have hclosing : endingsIn (r.closing.map fun e => ⟨.announce channel e, ()⟩) = [] := by
    simp [endingsIn, List.filterMap_map, TaskAction.ending?]
  rw [Report.opening, ← List.singleton_append, endingsIn_append, endingsIn_append,
    endingsIn_reported, hclosing]
  rfl

/-- Before a task ends its job it does all its work. -/
theorem siteIn_opening (r : Report) (channel : Nat) (work : List (Exchange siteActions)) :
    siteIn (r.opening channel work) = silent work := by
  have hclosing : siteIn (r.closing.map fun e => ⟨.announce channel e, ()⟩) = [] := by
    simp [siteIn, List.filterMap_map, Exchange.onSite?]
  rw [Report.opening, ← List.singleton_append, siteIn_append, siteIn_append, siteIn_reported,
    hclosing, List.append_nil]
  rfl

/-- After its events a task does no work. -/
theorem siteIn_parting (r : Report) (id : JobId) : siteIn (r.parting id) = [] := rfl

/-- After its verdict a task sends no event. -/
theorem eventsIn_parting (r : Report) (id : JobId) : eventsIn (r.parting id) = [] := rfl

/-- A task ends its own job once, with the verdict of its report. -/
theorem endingsIn_parting (r : Report) (id : JobId) :
    endingsIn (r.parting id) = [(id, r.verdict)] := rfl

/-- What is seen of a task that has not ended is the beginning of a complete transcript. -/
theorem Errand.exists_report {left : Task Unit}
    (h : (errand.task settings id channel).Leaves log left) :
    ∃ work r more, errand.Reports settings work r ∧
      log ++ more = r.opening channel work ++ r.parting id ∧ (left.hasEnded → more = []) := by
  cases left with
  | result a =>
    obtain ⟨work, r, hwork, rfl⟩ := Errand.exists_report_of_yields h.yields_result
    exact ⟨work, r, [], hwork, List.append_nil _, fun _ => rfl⟩
  | perform action next =>
    obtain ⟨more, a, hmore⟩ :=
      Procedure.exists_yields TaskAction.nonempty_answer (.perform action next)
    obtain ⟨work, r, hwork, hlog⟩ := Errand.exists_report_of_yields (h.yields hmore)
    exact ⟨work, r, more, hwork, hlog, nofun⟩

/-- A task sends its events on its own channel. -/
theorem Errand.channel_of_announce {left : Task Unit}
    (h : (errand.task settings id channel).Leaves log left) :
    ∀ x ∈ log, ∀ other e, x.action = .announce other e → other = channel := by
  obtain ⟨work, r, more, -, hlog, -⟩ := Errand.exists_report h
  intro x hx other e haction
  have hwhole : x ∈ r.opening channel work ++ r.parting id := hlog ▸ List.mem_append_left more hx
  simp only [Report.opening, Report.parting, List.mem_append, List.mem_cons, List.mem_map,
    List.not_mem_nil, or_false] at hwhole
  rcases hwhole with (rfl | ⟨⟨a, answer⟩, -, rfl⟩ | ⟨_, -, rfl⟩) | rfl | rfl
  · cases haction
  · cases a with
    | note stage => cases haction; rfl
    | _ => cases haction
  · cases haction; rfl
  · cases haction
  · cases haction

/-- The transcript of a task agrees with the report of its job, as far as it has come. Its events
are sent on its own channel, all of them before its one verdict, and a task that is over has given
this verdict. -/
structure TaskTrace (settings : ImportSettings) (job : Assignment)
    (log : List (Exchange taskActions)) (hasEnded : Bool) (work : List (Exchange siteActions))
    (events : List TaskEvent) (verdict : Verdict) : Prop where
  report : JobReport settings job.errand work events verdict
  channel : ∀ x ∈ log, ∀ channel e, x.action = .announce channel e → channel = job.channel
  worked : siteIn log <+: silent work
  sent : eventsIn log <+: events
  ended : endingsIn log <+: [(job.id, verdict)]
  complete : endingsIn log ≠ [] → siteIn log = silent work ∧ eventsIn log = events
  concluded : hasEnded = true → endingsIn log = [(job.id, verdict)]

/-- Every task agrees with the report of its job. -/
theorem Assignment.exists_trace {job : Assignment} {left : Task Unit}
    (h : (job.task settings).Leaves log left) :
    ∃ work events verdict, TaskTrace settings job log left.hasEnded work events verdict := by
  obtain ⟨id, channel, errand⟩ := job
  obtain ⟨work, r, more, hwork, hlog, hover⟩ := Errand.exists_report h
  have hsite := congrArg siteIn hlog
  have hevents := congrArg eventsIn hlog
  have hendings := congrArg endingsIn hlog
  rw [siteIn_append, siteIn_append, siteIn_opening, siteIn_parting, List.append_nil] at hsite
  rw [eventsIn_append, eventsIn_append, eventsIn_opening, eventsIn_parting, List.append_nil]
    at hevents
  rw [endingsIn_append, endingsIn_append, endingsIn_opening, endingsIn_parting, List.nil_append]
    at hendings
  refine ⟨work, _, r.verdict, hwork.jobReport, Errand.channel_of_announce h, ⟨_, hsite⟩,
    ⟨_, hevents⟩, ⟨_, hendings⟩, ?_, ?_⟩
  · intro hended
    rcases List.append_eq_append_iff.mp hlog with ⟨rest, hopening, -⟩ | ⟨rest, hmore, hparting⟩
    · have hnone := congrArg endingsIn hopening
      rw [endingsIn_opening, endingsIn_append] at hnone
      exact absurd (List.append_eq_nil_iff.mp hnone.symm).1 hended
    · -- What is left to do after the verdict is to return the permit.
      have hsiteRest := congrArg siteIn hparting
      have heventsRest := congrArg eventsIn hparting
      rw [siteIn_append, siteIn_parting] at hsiteRest
      rw [eventsIn_append, eventsIn_parting] at heventsRest
      rw [hmore, siteIn_append, siteIn_opening, eventsIn_append, eventsIn_opening,
        (List.append_eq_nil_iff.mp hsiteRest.symm).1,
        (List.append_eq_nil_iff.mp heventsRest.symm).1, List.append_nil, List.append_nil]
      exact ⟨rfl, rfl⟩
  · intro hleft
    rw [hover hleft] at hendings
    simpa [endingsIn] using hendings

/-- The last event of a job, and no other, is terminal. -/
theorem JobReport.exists_terminal {events : List TaskEvent} {verdict : Verdict}
    (h : JobReport settings errand work events verdict) :
    ∃ before last, events = before ++ [last] ∧ last.isTerminal = true ∧
      ∀ e ∈ before, e.isTerminal = false := by
  have hprogress : ∀ e ∈ progressOf work, e.isTerminal = false := by
    simp [progressOf, TaskEvent.isTerminal]
  cases h with
  | @imported _ _ o =>
    refine ⟨progressOf work ++ [.result o.document], .done, by simp, rfl, ?_⟩
    rw [List.forall_mem_append]
    exact ⟨hprogress, by simp [TaskEvent.isTerminal]⟩
  | importFailed => exact ⟨progressOf work, _, rfl, rfl, hprogress⟩
  | @tornDown _ _ _ o =>
    exact ⟨[.result o.document], .done, rfl, rfl, by simp [TaskEvent.isTerminal]⟩
  | teardownFailed => exact ⟨[], _, rfl, rfl, by simp⟩

/-- A verdict is that the job is completed or has failed. -/
theorem JobReport.status_ne_running {events : List TaskEvent} {verdict : Verdict}
    (h : JobReport settings errand work events verdict) : verdict.status ≠ .running := by
  cases h <;> simp

end

end LayerPress
