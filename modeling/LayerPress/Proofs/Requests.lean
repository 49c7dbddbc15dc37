import LayerPress.Admin.Handlers
import LayerPress.Proofs.Monitor

/-!
# Requests about jobs

The four requests that queue jobs, as data, and all that they may do whatever they are answered:
queue jobs and look for running ones, find layers, clear them and delete them. They take or give
no permit, end no job, and call no service.
-/

namespace LayerPress

/-- A request that may queue jobs. -/
inductive JobRequest where
  | submitImport (layer : Uuid)
  | bulkImport (layers : List Uuid)
  | deleteLayer (layer : Uuid)
  | bulkReset (layers : List Uuid)
  deriving DecidableEq, Repr

open Admin in
/-- The handling of a request, as a task beside the jobs. -/
def JobRequest.task : JobRequest → Task Response
  | submitImport layer => (Handling.submitImport layer).answer
  | bulkImport layers => (Handling.bulkImport layers).answer
  | deleteLayer layer => (Handling.deleteLayer layer).answer
  | bulkReset layers => (Handling.bulkReset layers).answer

/-- A statement that a request about jobs may execute. -/
def Statement.isOpenToRequests : Statement → Prop
  | .findLayer _ | .changeLayer _ (.cleared _) | .deleteLayer _ | .deleteAttributes _ => True
  | _ => False

/-- An action that a request about jobs may perform. -/
def TaskAction.isOpenToRequests : TaskAction → Prop
  | .site (.records (.statement s)) => s.isOpenToRequests
  | .site .now | .queueImport _ | .queueTeardown .. | .runningImport _ => True
  | _ => False

/-- Admits the actions that are open to requests. -/
def requestMonitor : Monitor taskActions Unit where
  admits _ a := a.isOpenToRequests
  after _ _ _ := ()

/-- The task does what is open to requests and nothing else. -/
def RequestTask {α : Type} (t : Task α) : Prop :=
  requestMonitor.Passes (fun _ _ => True) () t

namespace Admin.Handling

variable {α β : Type}

/-- Handling in sequence does what its parts do. -/
theorem requestTask_bind {h : Handling α} {k : α → Handling β} (hh : RequestTask h.run)
    (hk : ∀ a, RequestTask (k a).run) : RequestTask (h >>= k).run :=
  hh.bindExcept (fun a _ _ => hk a) fun _ _ _ => trivial

/-- A result does nothing. -/
theorem requestTask_pure (a : α) : RequestTask (pure a : Handling α).run := trivial

/-- An early end does nothing. -/
theorem requestTask_throw (r : Response) : RequestTask (throw r : Handling α).run := trivial

/-- A statement that is open to requests. -/
theorem requestTask_execute {s : Statement} (h : s.isOpenToRequests) :
    RequestTask (execute s).run :=
  ⟨h, fun _ => trivial⟩

/-- A single action that is open to requests. -/
theorem requestTask_ask {a : TaskAction} (h : a.isOpenToRequests) : RequestTask (ask a).run :=
  ⟨h, fun _ => trivial⟩

/-- Clearing a layer's record is open to requests. -/
theorem requestTask_clearImports (id : Uuid) :
    RequestTask (ofAttempt (Work.clearImports id)).run :=
  ⟨trivial, fun _ => ⟨trivial, fun answer => by cases answer <;> trivial⟩⟩

/-- Answering does what handling does. -/
theorem requestTask_answer {h : Handling Response} (hh : RequestTask h.run) :
    RequestTask h.answer := by
  refine Monitor.Passes.bind hh fun answer _ _ => ?_
  cases answer <;> trivial

/-- Looking a layer up is open to requests. -/
theorem requestTask_layer (id : Uuid) : RequestTask (layer id).run := by
  refine requestTask_bind (requestTask_execute trivial) fun found => ?_
  cases found with
  | none => exact requestTask_throw _
  | some l => exact requestTask_pure l

/-- Doing something for each of a list does what doing it once does. -/
theorem requestTask_forEach {one : Uuid → Handling Placement} (h : ∀ id, RequestTask (one id).run)
    (ids : List Uuid) : RequestTask (forEach one ids).run := by
  induction ids with
  | nil => exact requestTask_pure []
  | cons id rest ih =>
    exact requestTask_bind (h id) fun _ => requestTask_bind ih fun _ => requestTask_pure _

/-- Queueing one import of a list is open to requests. -/
theorem requestTask_importOne (id : Uuid) : RequestTask (importOne id).run := by
  refine requestTask_bind (requestTask_execute trivial) fun found => ?_
  cases found with
  | none => exact requestTask_pure _
  | some l =>
    dsimp only
    split
    · refine requestTask_bind (requestTask_ask trivial) fun queued => ?_
      cases queued <;> exact requestTask_pure _
    · exact requestTask_pure _

/-- Resetting one layer of a list is open to requests. -/
theorem requestTask_resetOne (id : Uuid) : RequestTask (resetOne id).run := by
  refine requestTask_bind (requestTask_execute trivial) fun found => ?_
  cases found with
  | none => exact requestTask_pure _
  | some l =>
    dsimp only
    split
    · refine requestTask_bind (requestTask_ask trivial) fun running => ?_
      cases running with
      | some job => exact requestTask_pure _
      | none =>
        exact requestTask_bind (requestTask_ask trivial) fun _ =>
          requestTask_bind (requestTask_clearImports id) fun _ => requestTask_pure _
    · exact requestTask_pure _

/-- Queueing an import is open to requests. -/
theorem requestTask_submitImport (id : Uuid) : RequestTask (submitImport id).run := by
  refine requestTask_bind (requestTask_layer id) fun _ =>
    requestTask_bind (requestTask_ask trivial) fun queued => ?_
  cases queued with
  | ok job => exact requestTask_pure _
  | error running => exact requestTask_throw _

/-- Deleting a layer is open to requests. -/
theorem requestTask_deleteLayer (id : Uuid) : RequestTask (deleteLayer id).run := by
  have removal : RequestTask (do
      execute (.deleteAttributes id)
      execute (.deleteLayer id)
      return Response.bare 204 : Handling Response).run :=
    requestTask_bind (requestTask_execute trivial) fun _ =>
      requestTask_bind (requestTask_execute trivial) fun _ => requestTask_pure _
  refine requestTask_bind (requestTask_layer id) fun l =>
    requestTask_bind (requestTask_ask trivial) fun running => ?_
  cases running with
  | some job => exact requestTask_throw _
  | none =>
    dsimp only
    split
    · exact requestTask_bind (requestTask_ask trivial) fun _ => removal
    · exact removal

end Admin.Handling

open Admin in
/-- Every request about jobs keeps to what is open to it. -/
theorem JobRequest.requestTask_task (r : JobRequest) : RequestTask r.task := by
  cases r with
  | submitImport layer => exact Handling.requestTask_answer (Handling.requestTask_submitImport layer)
  | bulkImport layers =>
    exact Handling.requestTask_answer (Handling.requestTask_bind
      (Handling.requestTask_forEach Handling.requestTask_importOne layers)
      fun _ => Handling.requestTask_pure _)
  | deleteLayer layer => exact Handling.requestTask_answer (Handling.requestTask_deleteLayer layer)
  | bulkReset layers =>
    exact Handling.requestTask_answer (Handling.requestTask_bind
      (Handling.requestTask_forEach Handling.requestTask_resetOne layers)
      fun _ => Handling.requestTask_pure _)

end LayerPress
