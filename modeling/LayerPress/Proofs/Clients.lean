import LayerPress.Admin.Router
import LayerPress.Proofs.Requests

/-!
# What clients may do

Any request of the administration interface, well-formed or not, is a client among the jobs. What
belongs to the task of a job is closed to it: it takes and gives back no permit, sends no event and
ends no job. It may do everything else, and so it may also look at a job and follow its events.
-/

namespace LayerPress

/-- An action that a client may perform. -/
def TaskAction.isOpenToClients : TaskAction → Prop
  | .takePermit | .givePermit | .announce .. | .endJob .. => False
  | _ => True

/-- Admits the actions that are open to clients. -/
def clientMonitor : Monitor taskActions Unit where
  admits _ a := a.isOpenToClients
  after _ _ _ := ()

/-- The task does what is open to clients and nothing else. -/
def ClientTask {α : Type} (t : Task α) : Prop :=
  clientMonitor.Passes (fun _ _ => True) () t

/-- What is open to requests about jobs is open to clients. -/
theorem TaskAction.isOpenToClients_of_isOpenToRequests {a : TaskAction} (h : a.isOpenToRequests) :
    a.isOpenToClients := by
  cases a with
  | takePermit | givePermit | announce | endJob => exact h
  | _ => trivial

/-- A request about jobs is a client. -/
theorem RequestTask.clientTask {α : Type} {t : Task α} (h : RequestTask t) : ClientTask t := by
  induction t with
  | result a => trivial
  | perform a next ih =>
    exact ⟨TaskAction.isOpenToClients_of_isOpenToRequests h.1, fun x => ih x (h.2 x)⟩

namespace Admin

namespace Handling

variable {α β : Type}

/-- Handling in sequence does what its parts do. -/
theorem clientTask_bind {h : Handling α} {k : α → Handling β} (hh : ClientTask h.run)
    (hk : ∀ a, ClientTask (k a).run) : ClientTask (h >>= k).run :=
  hh.bindExcept (fun a _ _ => hk a) fun _ _ _ => trivial

/-- A single action that is open to clients. -/
theorem clientTask_ask {a : TaskAction} (h : a.isOpenToClients) : ClientTask (ask a).run :=
  ⟨h, fun _ => trivial⟩

/-- Every statement is open to clients. -/
theorem clientTask_execute (s : Statement) : ClientTask (execute s).run :=
  ⟨trivial, fun _ => trivial⟩

/-- Finding a layer is open to clients. -/
theorem clientTask_layer (id : Uuid) : ClientTask (layer id).run := by
  apply clientTask_bind (clientTask_execute _)
  intro found
  cases found <;> trivial

/-- Listing layers is open to clients. -/
theorem clientTask_listLayers : ClientTask listLayers.run :=
  clientTask_bind (clientTask_execute _) fun _ => trivial

/-- Showing a layer is open to clients. -/
theorem clientTask_showLayer (id : Uuid) : ClientTask (showLayer id).run :=
  clientTask_bind (clientTask_layer id) fun _ =>
    clientTask_bind (clientTask_execute _) fun _ => trivial

/-- Asking the catalog for a layer is open to clients. -/
theorem clientTask_catalogLayer (id : Uuid) : ClientTask (catalogLayer id).run := by
  apply clientTask_bind (clientTask_layer id)
  intro l
  cases l.catalogEntry with
  | none => trivial
  | some entry =>
    dsimp only
    cases Naming.splitEntry entry with
    | none => trivial
    | some parts =>
      refine ⟨trivial, fun answer => ?_⟩
      cases answer with
      | error f => trivial
      | ok document => cases document <;> trivial

/-- Looking at a job is open to clients. -/
theorem clientTask_showJob (id : JobId) : ClientTask (showJob id).run := by
  apply clientTask_bind (clientTask_ask (a := .job id) trivial)
  intro found
  cases found <;> trivial

/-- Following a job is open to clients. -/
theorem clientTask_followJob (id : JobId) : ClientTask (followJob id).run := by
  apply clientTask_bind (clientTask_ask (a := .subscribe id) trivial)
  intro found
  cases found <;> trivial

/-- Handling with an argument does what it does with any that is accepted. -/
theorem clientTask_withArgument (argument : Except Response α) {k : α → Handling Response}
    (hk : ∀ a, ClientTask (k a).run) : ClientTask (withArgument argument k).run := by
  cases argument with
  | ok a => exact hk a
  | error r => trivial

/-- Answering does what handling does. -/
theorem clientTask_answer {h : Handling Response} (hh : ClientTask h.run) : ClientTask h.answer :=
  hh.bind fun answer _ _ => by cases answer <;> trivial

end Handling

open Handling in
/-- What every place does is open to clients. -/
theorem Route.clientTask_handling (route : Route) (r : Request) :
    ClientTask (route.handling r).run := by
  cases route with
  | health => trivial
  | layers => exact clientTask_listLayers
  | layersImport =>
    refine clientTask_withArgument _ fun ids => RequestTask.clientTask ?_
    exact requestTask_bind (requestTask_forEach requestTask_importOne ids) fun _ => trivial
  | layersReset =>
    refine clientTask_withArgument _ fun ids => RequestTask.clientTask ?_
    exact requestTask_bind (requestTask_forEach requestTask_resetOne ids) fun _ => trivial
  | layer id =>
    refine clientTask_withArgument _ fun id => ?_
    split
    · exact (requestTask_deleteLayer id).clientTask
    · exact clientTask_showLayer id
  | layerImport id =>
    exact clientTask_withArgument _ fun id => (requestTask_submitImport id).clientTask
  | layerCatalog id => exact clientTask_withArgument _ clientTask_catalogLayer
  | job id => exact clientTask_withArgument _ clientTask_showJob
  | jobEvents id => exact clientTask_withArgument _ clientTask_followJob

/-- Every request is a client. -/
theorem clientTask_respond (origins : List String) (r : Request) :
    ClientTask (respond origins r) := by
  unfold respond
  cases Route.ofPath (pathOf r.uri) with
  | none => trivial
  | some route =>
    dsimp only
    split
    · trivial
    · split
      · exact (Handling.clientTask_answer (route.clientTask_handling r)).bind fun _ _ _ => trivial
      · trivial

end Admin

end LayerPress
