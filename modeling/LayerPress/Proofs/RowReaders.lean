import LayerPress.Proofs.Ledger
import LayerPress.Proofs.Requests

/-!
# For which layer a job is queued

A request finds the row of a layer before it queues anything for that layer: its import, or the
teardown of what the row names. A bulk request does so for one layer after another. The layer that
a job was queued for is therefore the one whose row its request had found last, and it can be read
off the deeds.
-/

namespace LayerPress

/-- The layers that a request is about. -/
def JobRequest.layers : JobRequest → List Uuid
  | submitImport layer | deleteLayer layer => [layer]
  | bulkImport layers | bulkReset layers => layers

/-- The layer whose row a deed of an actor found. -/
def Deed.foundBy? (who : Actor) : Deed → Option Uuid
  | ⟨actor, .site (.records (.statement (.findLayer id))), .ok (some _)⟩ =>
    if actor = who then some id else none
  | _ => none

/-- The layer whose row an actor found last. -/
def lastFound? (who : Actor) (deeds : List Deed) : Option Uuid :=
  (deeds.filterMap (·.foundBy? who)).getLast?

/-- After one more deed an actor has found last what the deed found, or what it had before. -/
theorem lastFound?_concat (who : Actor) (deeds : List Deed) (d : Deed) :
    lastFound? who (deeds ++ [d]) = (d.foundBy? who).or (lastFound? who deeds) := by
  rw [lastFound?, List.filterMap_append, List.filterMap_cons, List.filterMap_nil]
  cases d.foundBy? who <;> simp [lastFound?]

/-- What others do finds nothing for an actor. -/
theorem foundBy?_of_ne {d : Deed} {who : Actor} (hne : d.actor ≠ who) : d.foundBy? who = none := by
  unfold Deed.foundBy?
  split
  · exact if_neg hne
  · rfl

/-- The job of a number was queued by an actor for the layer whose row it had found last. -/
def QueuedFor (i : Nat) (who : Actor) (layer : Uuid) (deeds : List Deed) : Prop :=
  ∃ earlier d later, deeds = earlier ++ d :: later ∧ (Ledger.ofDeeds earlier).length = i ∧
    d.newEntry?.isSome = true ∧ d.actor = who ∧ lastFound? who earlier = some layer

/-- For what a job was queued does not change. -/
theorem QueuedFor.concat {i : Nat} {who : Actor} {layer : Uuid} {deeds : List Deed}
    (h : QueuedFor i who layer deeds) (d : Deed) : QueuedFor i who layer (deeds ++ [d]) := by
  obtain ⟨earlier, queueing, later, rfl, hrest⟩ := h
  exact ⟨earlier, queueing, later ++ [d], by simp, hrest⟩

/-- What is known of a request: the layers that it is about, and the row that it found last with
the id that it looked for. -/
structure Reading where
  layers : List Uuid
  last : Option (Uuid × Layer)

/-- What is known of a request after an action. -/
def Reading.after (r : Reading) : (a : TaskAction) → a.Answer → Reading
  | .site (.records (.statement (.findLayer id))), .ok (some l) => { r with last := some (id, l) }
  | _, _ => r

/-- What an action and its answer make of what is known of a request: a row that it finds, or
nothing new. -/
inductive Reading.Step (r : Reading) : (a : TaskAction) → a.Answer → Reading → Prop
  | found (id : Uuid) (l : Layer) :
      Step r (.site (.records (.statement (.findLayer id)))) (.ok (some l))
        { r with last := some (id, l) }
  | other {a : TaskAction} {x : a.Answer} (h : ∀ who, Deed.foundBy? who ⟨who, a, x⟩ = none) :
      Step r a x r

/-- Only finding a row adds to what is known. -/
theorem Reading.step_after (r : Reading) (a : TaskAction) (x : a.Answer) :
    r.Step a x (r.after a x) := by
  cases a with
  | site a =>
    cases a with
    | records a =>
      cases a with
      | statement st =>
        cases st with
        | findLayer id =>
          cases x with
          | error f => exact .other fun _ => rfl
          | ok found =>
            cases found with
            | none => exact .other fun _ => rfl
            | some l => exact .found id l
        | _ => exact .other fun _ => rfl
      | «begin» | commit => exact .other fun _ => rfl
    | _ => exact .other fun _ => rfl
  | _ => exact .other fun _ => rfl

/-- A request looks for its own layers, imports the layer that it found last, or tears down the
table that this layer's row names. -/
def readingMonitor : Monitor taskActions Reading where
  admits r a :=
    match a with
    | .site (.records (.statement (.findLayer id))) => id ∈ r.layers
    | .queueImport id => ∃ l, r.last = some (id, l)
    | .queueTeardown table _ => ∃ id l, r.last = some (id, l) ∧ table = l.tableName
    | a => a.isOpenToRequests
  after := Reading.after

/-- The task reads before it queues. -/
def ReadingTask {α : Type} (layers : List Uuid) (t : Task α) : Prop :=
  ∀ last, readingMonitor.Passes (fun _ r => r.layers = layers) ⟨layers, last⟩ t

/-- What a request does while it reads and queues is open to requests. -/
theorem isOpenToRequests_of_reading {r : Reading} {a : TaskAction}
    (h : readingMonitor.admits r a) : a.isOpenToRequests := by
  cases a with
  | site a =>
    cases a with
    | records a =>
      cases a with
      | statement st =>
        cases st with
        | findLayer => trivial
        | _ => exact h
      | «begin» | commit => exact h
    | _ => exact h
  | queueImport | queueTeardown => trivial
  | _ => exact h

namespace Admin.Handling

variable {α β : Type} {layers : List Uuid} {id : Uuid}

/-- Handling in sequence reads before it queues when its parts do. -/
theorem readingTask_bind {h : Handling α} {k : α → Handling β} (hh : ReadingTask layers h.run)
    (hk : ∀ a, ReadingTask layers (k a).run) : ReadingTask layers (h >>= k).run := by
  intro last
  refine (hh last).bindExcept (fun a r hr => ?_) fun _ _ hr => hr
  subst hr
  exact hk a r.last

/-- Clearing a layer's record queues nothing. -/
theorem readingTask_clearImports (id : Uuid) :
    ReadingTask layers (ofAttempt (Work.clearImports id)).run := by
  refine fun last => ⟨trivial, fun _ => ⟨trivial, fun answer => ?_⟩⟩
  cases answer <;> exact rfl

/-- Doing something for each of a list reads before it queues when doing it once does. -/
theorem readingTask_forEach {one : Uuid → Handling Placement} {ids : List Uuid}
    (h : ∀ id ∈ ids, ReadingTask layers (one id).run) :
    ReadingTask layers (forEach one ids).run := by
  induction ids with
  | nil => exact fun _ => rfl
  | cons id rest ih =>
    refine readingTask_bind (h id List.mem_cons_self) fun _ => ?_
    have hrest : ReadingTask layers (forEach one rest).run := ih fun i hi =>
      h i (List.mem_cons_of_mem id hi)
    exact readingTask_bind hrest fun _ _ => rfl

/-- A request has found last what it looked for. -/
theorem passes_findLayer (hid : id ∈ layers) (last : Option (Uuid × Layer)) :
    readingMonitor.Passes (fun answer r => r.layers = layers ∧
      ∀ l, answer = .ok (some l) → r = ⟨layers, some (id, l)⟩) ⟨layers, last⟩
      (execute (.findLayer id)).run := by
  refine ⟨hid, fun found => ?_⟩
  cases found with
  | error f => exact ⟨rfl, fun _ h => by cases h⟩
  | ok found =>
    cases found with
    | none => exact ⟨rfl, fun _ h => by cases h⟩
    | some l =>
      refine ⟨rfl, ?_⟩
      rintro _ ⟨⟩
      rfl

/-- A request that needs a layer has found it last. -/
theorem passes_layer (hid : id ∈ layers) (last : Option (Uuid × Layer)) :
    readingMonitor.Passes (fun answer r => r.layers = layers ∧
      ∀ l, answer = .ok l → r = ⟨layers, some (id, l)⟩) ⟨layers, last⟩ (layer id).run := by
  refine (passes_findLayer hid last).bindExcept ?_ fun _ _ hr => ⟨hr.1, fun _ h => by cases h⟩
  rintro found r ⟨hr, hfound⟩
  cases found with
  | none => exact ⟨hr, fun _ h => by cases h⟩
  | some l =>
    refine ⟨hr, ?_⟩
    rintro _ ⟨⟩
    exact hfound l rfl

/-- Queueing the import of one layer of a list. -/
theorem readingTask_importOne (hid : id ∈ layers) : ReadingTask layers (importOne id).run := by
  intro last
  refine (passes_findLayer hid last).bindExcept ?_ fun _ _ hr => hr.1
  rintro found r ⟨hr, hfound⟩
  cases found with
  | none => exact hr
  | some l =>
    obtain rfl := hfound l rfl
    dsimp only
    split
    · refine ⟨⟨l, rfl⟩, fun queued => ?_⟩
      cases queued <;> exact rfl
    · exact rfl

/-- Resetting one layer of a list. -/
theorem readingTask_resetOne (hid : id ∈ layers) : ReadingTask layers (resetOne id).run := by
  intro last
  refine (passes_findLayer hid last).bindExcept ?_ fun _ _ hr => hr.1
  rintro found r ⟨hr, hfound⟩
  cases found with
  | none => exact hr
  | some l =>
    obtain rfl := hfound l rfl
    dsimp only
    split
    · refine ⟨trivial, fun running => ?_⟩
      cases running with
      | some job => exact rfl
      | none =>
        refine ⟨⟨id, l, rfl, rfl⟩, fun job => ?_⟩
        have hclear : ReadingTask layers (do
            let _ ← ofAttempt (Work.clearImports id)
            return Placement.queued job : Handling Placement).run :=
          readingTask_bind (readingTask_clearImports id) fun _ _ => rfl
        exact hclear (some (id, l))
    · exact rfl

/-- Queueing an import. -/
theorem readingTask_submitImport (hid : id ∈ layers) :
    ReadingTask layers (submitImport id).run := by
  intro last
  refine (passes_layer hid last).bindExcept ?_ fun _ _ hr => hr.1
  rintro l r ⟨-, hfound⟩
  obtain rfl := hfound l rfl
  refine ⟨⟨l, rfl⟩, fun queued => ?_⟩
  cases queued <;> exact rfl

/-- Deleting a layer. -/
theorem readingTask_deleteLayer (hid : id ∈ layers) : ReadingTask layers (deleteLayer id).run := by
  intro last
  have removal : ReadingTask layers (do
      execute (.deleteAttributes id)
      execute (.deleteLayer id)
      return Response.bare 204 : Handling Response).run := by
    refine fun last => ⟨trivial, fun stripped => ?_⟩
    cases stripped with
    | error f => exact rfl
    | ok _ =>
      refine ⟨trivial, fun deleted => ?_⟩
      cases deleted <;> exact rfl
  refine (passes_layer hid last).bindExcept ?_ fun _ _ hr => hr.1
  rintro l r ⟨-, hfound⟩
  obtain rfl := hfound l rfl
  refine ⟨trivial, fun running => ?_⟩
  cases running with
  | some job => exact rfl
  | none =>
    cases himports : l.hasImports with
    | false => exact removal (some (id, l))
    | true => exact ⟨⟨id, l, rfl, rfl⟩, fun _ => removal (some (id, l))⟩

/-- Answering reads and queues as handling does. -/
theorem readingTask_answer {h : Handling Response} (hh : ReadingTask layers h.run) :
    ReadingTask layers h.answer := by
  refine fun last => (hh last).bind fun answer r hr => ?_
  cases answer <;> exact hr

end Admin.Handling

open Admin in
/-- Every request reads the row of a layer before it queues a job for it. -/
theorem JobRequest.readingTask (r : JobRequest) : ReadingTask r.layers r.task := by
  cases r with
  | submitImport layer =>
    exact Handling.readingTask_answer (Handling.readingTask_submitImport List.mem_cons_self)
  | bulkImport layers =>
    refine Handling.readingTask_answer (Handling.readingTask_bind ?_ fun _ _ => rfl)
    exact Handling.readingTask_forEach fun _ hid => Handling.readingTask_importOne hid
  | deleteLayer layer =>
    exact Handling.readingTask_answer (Handling.readingTask_deleteLayer List.mem_cons_self)
  | bulkReset layers =>
    refine Handling.readingTask_answer (Handling.readingTask_bind ?_ fun _ _ => rfl)
    exact Handling.readingTask_forEach fun _ hid => Handling.readingTask_resetOne hid

end LayerPress
