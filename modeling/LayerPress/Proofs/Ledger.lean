import LayerPress.Proofs.Course
import LayerPress.Proofs.Monitor

/-!
# The ledger of queued jobs

The deeds of a course tell of every queued job which id it was given, which layer it imports,
and how far its task has come: it waits for a permit, works, has ended its job, or has given the
permit back. The ledger is read off the deeds alone.

A job's task keeps to this order whatever it is answered. The monitor of jobs states the order,
and the tasks of imports and of teardowns both pass it.
-/

namespace LayerPress

/-- How far the task of a job has come. -/
inductive JobStage where
  | waiting
  | working
  | ended
  | released
  deriving DecidableEq, Repr

/-- The task has a permit that it has not given back. -/
def JobStage.holdsPermit : JobStage → Bool
  | waiting | released => false
  | working | ended => true

/-- The task has not ended its job. -/
def JobStage.isOpen : JobStage → Bool
  | waiting | working => true
  | ended | released => false

/-- What is known of a queued job: its id, the layer it imports, and the stage of its task. -/
structure JobEntry where
  id : JobId
  layer : Option Uuid
  stage : JobStage
  deriving DecidableEq, Repr

namespace JobEntry

/-- The entry of a job after an action of its own task; ending another job is not ending it. -/
def after (e : JobEntry) : TaskAction → JobEntry
  | .takePermit => { e with stage := .working }
  | .endJob id .. => if id = e.id then { e with stage := .ended } else e
  | .givePermit => { e with stage := .released }
  | _ => e

/-- The job imports this layer and its import is in progress. -/
def isImporting (e : JobEntry) (layer : Uuid) : Bool :=
  e.layer == some layer && e.stage == .working

/-- The job has this id and its task has not ended it. -/
def isOpenFor (e : JobEntry) (id : JobId) : Bool :=
  e.id == id && e.stage.isOpen

/-- No action changes the layer of a job. -/
@[simp] theorem after_layer (e : JobEntry) (a : TaskAction) : (e.after a).layer = e.layer := by
  cases a with
  | endJob id =>
    simp only [after]
    split <;> rfl
  | _ => rfl

end JobEntry

/-- The entry of the job that a deed queued, if it queued one. -/
def Deed.newEntry? : Deed → Option JobEntry
  | ⟨_, .queueImport layer, .ok id⟩ => some ⟨id, some layer, .waiting⟩
  | ⟨_, .queueTeardown .., id⟩ => some ⟨id, none, .waiting⟩
  | _ => none

/-- The entries of all queued jobs, in the order of their tasks. -/
abbrev Ledger := List JobEntry

namespace Ledger

/-- The ledger after one more deed. -/
def note (l : Ledger) (d : Deed) : Ledger :=
  (match d.actor with
    | .job i => l.modify i (·.after d.action)
    | .client _ => l) ++ d.newEntry?.toList

/-- The ledger of a list of deeds. -/
def ofDeeds (deeds : List Deed) : Ledger :=
  deeds.foldl note []

/-- One more deed is noted after all before it. -/
theorem ofDeeds_concat (deeds : List Deed) (d : Deed) :
    ofDeeds (deeds ++ [d]) = (ofDeeds deeds).note d := by
  simp [ofDeeds]

end Ledger

/-! ## The order of a job's actions -/

/-- A task takes a permit, works, ends its own job, and gives the permit back; while it works it
acts on the site and sends events. -/
def ledgerMonitor : Monitor taskActions JobEntry where
  admits e a :=
    match a with
    | .takePermit => e.stage = .waiting
    | .site _ | .announce .. => e.stage = .working
    | .endJob id status _ _ => e.stage = .working ∧ id = e.id ∧ status ≠ .running
    | .givePermit => e.stage = .ended
    | _ => False
  after e a _ := e.after a

/-- What is left of the task of a job when its entry stands as given. -/
def JobTask (e : JobEntry) (t : Task Unit) : Prop :=
  ledgerMonitor.Passes (fun _ last => last.stage = .released) e t

variable {e : JobEntry}

/-- Work with reports leaves the entry of a working job. -/
theorem passes_reporting (he : e.stage = .working) (channel : Nat) {α : Type} (w : Work α) :
    ledgerMonitor.Passes (fun _ last => last = e) e (w.expand (Task.reporting channel)) := by
  induction w with
  | result a => exact rfl
  | perform a next ih => cases a <;> exact ⟨he, ih⟩

/-- A job ends itself. -/
theorem passes_endJob (he : e.stage = .working) {status : JobStatus} (hstatus : status ≠ .running)
    (result : Option Json) (error : Option String) :
    ledgerMonitor.Passes (fun _ last => last.stage = .ended) e
      (Procedure.ask (S := taskActions) (.endJob e.id status result error)) := by
  refine ⟨⟨he, rfl, hstatus⟩, fun _ => ?_⟩
  change (JobEntry.after e (.endJob e.id status result error)).stage = .ended
  rw [JobEntry.after, if_pos rfl]

/-- A working job concludes by ending itself. -/
theorem passes_conclude (he : e.stage = .working) (channel : Nat) (success : Bool)
    (message : String) (data : Json) :
    ledgerMonitor.Passes (fun _ last => last.stage = .ended) e
      (Task.conclude e.id channel success message data) := by
  cases success with
  | true => exact ⟨he, fun _ => ⟨he, fun _ => passes_endJob he (by decide) _ _⟩⟩
  | false => exact ⟨he, fun _ => passes_endJob he (by decide) _ _⟩

/-- Work between a permit and its return, concluded in between, is the task of a job. -/
theorem jobTask_of_work (he : e.stage = .waiting) (channel : Nat) {α : Type} (w : Work α)
    (success : α → Bool) (message : α → String) (data : α → Json) :
    JobTask e (do
      Task.takePermit
      let outcome ← w.expand (Task.reporting channel)
      Task.conclude e.id channel (success outcome) (message outcome) (data outcome)
      Task.givePermit) := by
  refine ⟨he, fun _ => ?_⟩
  have hwork := passes_reporting (e := { e with stage := .working }) rfl channel w
  refine hwork.bind fun outcome _ hlast => ?_
  subst hlast
  have hend := passes_conclude (e := { e with stage := .working }) rfl channel (success outcome)
    (message outcome) (data outcome)
  exact hend.bind fun _ _ hended => ⟨hended, fun _ => rfl⟩

/-- The task of an import is that of a job. -/
theorem jobTask_importJob (settings : ImportSettings) (id : JobId) (channel : Nat) (layer : Uuid) :
    JobTask ⟨id, some layer, .waiting⟩ (Task.importJob settings id channel layer) :=
  jobTask_of_work rfl channel _ _ _ _

/-- The task of a teardown is that of a job. -/
theorem jobTask_teardownJob (settings : ImportSettings) (id : JobId) (channel : Nat)
    (table entry : Option String) :
    JobTask ⟨id, none, .waiting⟩ (Task.teardownJob settings id channel table entry) :=
  jobTask_of_work rfl channel _ _ _ _

end LayerPress
