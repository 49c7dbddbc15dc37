import LayerPress.Proofs.Requests
import LayerPress.Proofs.Transcript

/-!
# Requests that spare a layer

A request meets a layer whose import is running: it finds the layer whenever it looks for it, and is
told of the running job whenever it asks. Then it does the same as another request that does not
name the layer at all. In between it looks the layer up and is turned away, and all else that it
does is about other layers.

The relation between the two is between tasks, so that it holds whatever happens beside them. It
keeps account of how many actions may still follow and of the layer that was found last.
-/

namespace LayerPress

/-- A layer as a request meets it: the job that is importing it, the rows in which it may be found,
and whether the request resets layers. Only then does it write records, and then it asks for no
imports. -/
structure Encounter where
  layer : Uuid
  job : JobId
  rows : Layer → Prop
  resets : Bool

/-- The layer that a task has found last, after one more action. -/
def foundAfter (found : Option (Uuid × Layer)) : (a : TaskAction) → a.Answer → Option (Uuid × Layer)
  | .site (.records (.statement (.findLayer id))), .ok (some l) => some (id, l)
  | _, _ => found

namespace Encounter

/-- The action is about other layers than the one that is met. A teardown is about the layer that
was found last. -/
def Avoids (e : Encounter) (found : Option (Uuid × Layer)) : TaskAction → Prop
  | .site .now => True
  | .site (.records (.statement (.findLayer id))) => id ≠ e.layer
  | .site (.records (.statement (.changeLayer id (.cleared _)))) => id ≠ e.layer ∧ e.resets = true
  | .queueImport id => id ≠ e.layer
  | .queueTeardown table entry => ∃ id l, found = some (id, l) ∧ id ≠ e.layer ∧
      table = l.tableName ∧ entry = l.catalogEntry
  | .runningImport id => id ≠ e.layer
  | _ => False

/-- The first task does what the second does, and besides only looks the layer up and is turned
away, in at most so many actions. Their results are in a relation. -/
inductive Spares (e : Encounter) {α β : Type} (R : α → β → Prop) :
    Nat → Option (Uuid × Layer) → Task α → Task β → Prop
  | result {n : Nat} {found : Option (Uuid × Layer)} {a : α} {b : β} (related : R a b) :
      Spares e R n found (.result a) (.result b)
  | both {n : Nat} {found : Option (Uuid × Layer)} {a : TaskAction} {next : a.Answer → Task α}
      {next' : a.Answer → Task β} (avoids : e.Avoids found a)
      (rest : ∀ x, Spares e R n (foundAfter found a x) (next x) (next' x)) :
      Spares e R (n + 1) found (.perform a next) (.perform a next')
  | looked {n : Nat} {found : Option (Uuid × Layer)}
      {next : Except RecordFault (Option Layer) → Task α} {other : Task β}
      (rest : ∀ l, e.rows l → Spares e R n (some (e.layer, l)) (next (.ok (some l))) other) :
      Spares e R (n + 1) found
        (.perform (.site (.records (.statement (.findLayer e.layer)))) next) other
  | asked {n : Nat} {found : Option (Uuid × Layer)} {next : Option JobId → Task α} {other : Task β}
      (rest : Spares e R n found (next (some e.job)) other) :
      Spares e R (n + 1) found (.perform (.runningImport e.layer) next) other
  | refused {n : Nat} {found : Option (Uuid × Layer)} {next : Except JobId JobId → Task α}
      {other : Task β} (imports : e.resets = false)
      (rest : Spares e R n found (next (.error e.job)) other) :
      Spares e R (n + 1) found (.perform (.queueImport e.layer) next) other

namespace Spares

variable {e : Encounter} {α β γ δ : Type} {R : α → β → Prop} {m n : Nat}
  {found : Option (Uuid × Layer)} {t : Task α} {u : Task β}

/-- More actions may be allowed, and less asked of the results. -/
theorem mono {S : α → β → Prop} (h : Spares e R m found t u) (hle : m ≤ n)
    (hRS : ∀ a b, R a b → S a b) : Spares e S n found t u := by
  obtain ⟨k, rfl⟩ := Nat.exists_eq_add_of_le hle
  clear hle
  induction h with
  | result related => exact .result (hRS _ _ related)
  | both avoids _ ih =>
    rw [Nat.succ_add]
    exact .both avoids ih
  | looked _ ih =>
    rw [Nat.succ_add]
    exact .looked ih
  | asked _ ih =>
    rw [Nat.succ_add]
    exact .asked ih
  | refused imports _ ih =>
    rw [Nat.succ_add]
    exact .refused imports ih

/-- Two sequences are related when their first parts are and what follows is, whichever layer was
found last. -/
theorem bind {S : γ → δ → Prop} {k : α → Task γ} {k' : β → Task δ}
    (h : Spares e R m found t u)
    (hk : ∀ a b found, R a b → Spares e S n found (k a) (k' b)) :
    Spares e S (m + n) found (t >>= k) (u >>= k') := by
  induction h with
  | result related => exact (hk _ _ _ related).mono (Nat.le_add_left _ _) fun _ _ hS => hS
  | @both m found a next next' avoids _ ih =>
    rw [Nat.succ_add]
    exact .both avoids ih
  | looked _ ih =>
    rw [Nat.succ_add]
    exact .looked ih
  | asked _ ih =>
    rw [Nat.succ_add]
    exact .asked ih
  | refused imports _ ih =>
    rw [Nat.succ_add]
    exact .refused imports ih

/-- What follows the first task alone must come to its end at once. -/
theorem bind_left {S : γ → β → Prop} {k : α → Task γ} (h : Spares e R m found t u)
    (hk : ∀ a b found, R a b → Spares e S 0 found (k a) (.result b)) :
    Spares e S m found (t >>= k) u := by
  have hboth : Spares e S (m + 0) found (t >>= k) (u >>= Procedure.result) := h.bind hk
  rwa [show u >>= Procedure.result = u from Procedure.andThen_result u] at hboth

end Spares

end Encounter

namespace Admin.Handling

open Encounter

variable {e : Encounter} {α β γ δ : Type} {S : γ → δ → Prop} {m n : Nat}
  {found : Option (Uuid × Layer)}

/-- Two handlings end alike: with results in a relation, or with the same internal error. -/
inductive Alike (R : α → β → Prop) : Except Response α → Except Response β → Prop
  | ok {a : α} {b : β} (related : R a b) : Alike R (.ok a) (.ok b)
  | fault (message : String) :
      Alike R (.error (Response.error 500 message)) (.error (Response.error 500 message))

/-- Handlings in sequence. -/
theorem spares_bind {R : α → β → Prop} {h : Handling α} {h' : Handling β} {k : α → Handling γ}
    {k' : β → Handling δ} (hh : e.Spares (Alike R) m found h.run h'.run)
    (hk : ∀ a b found, R a b → e.Spares (Alike S) n found (k a).run (k' b).run) :
    e.Spares (Alike S) (m + n) found (h >>= k).run (h' >>= k').run := by
  refine Spares.bind (k := _) hh fun x y found halike => ?_
  cases halike with
  | ok related => exact hk _ _ found related
  | fault message => exact .result (.fault message)

/-- A statement about another layer. -/
theorem spares_execute {s : Statement} {k : s.Value → Handling γ} {k' : s.Value → Handling δ}
    (havoids : e.Avoids found (.site (.records (.statement s))))
    (hk : ∀ v, e.Spares (Alike S) n (foundAfter found (.site (.records (.statement s))) (.ok v))
      (k v).run (k' v).run) :
    e.Spares (Alike S) (n + 1) found (execute s >>= k).run (execute s >>= k').run := by
  refine .both havoids fun x => ?_
  cases x with
  | ok v => exact hk v
  | error f =>
    exact .result (.fault f.message)

/-- An action about another layer. -/
theorem spares_ask {a : TaskAction} {k : a.Answer → Handling γ} {k' : a.Answer → Handling δ}
    (havoids : e.Avoids found a)
    (hk : ∀ x, e.Spares (Alike S) n (foundAfter found a x) (k x).run (k' x).run) :
    e.Spares (Alike S) (n + 1) found (ask a >>= k).run (ask a >>= k').run :=
  .both havoids hk

/-- Clearing the record of another layer. -/
theorem spares_clearImports {id : Uuid} (hid : id ≠ e.layer) (hresets : e.resets = true)
    {k : Layer → Handling γ} {k' : Layer → Handling δ}
    (hk : ∀ l, e.Spares (Alike S) n found (k l).run (k' l).run) :
    e.Spares (Alike S) (n + 2) found (ofAttempt (Work.clearImports id) >>= k).run
      (ofAttempt (Work.clearImports id) >>= k').run := by
  refine .both trivial fun moment => .both ⟨hid, hresets⟩ fun x => ?_
  cases x with
  | ok l => exact hk l
  | error f => exact .result (.fault _)

/-- Another layer of a list is imported as it would be without the one that is met. -/
theorem spares_importOne {id : Uuid} (hid : id ≠ e.layer) (found : Option (Uuid × Layer)) :
    e.Spares (Alike Eq) 2 found (importOne id).run (importOne id).run := by
  refine spares_execute hid fun looked => ?_
  cases looked with
  | none => exact .result (.ok rfl)
  | some l =>
    dsimp only
    split
    · refine spares_ask hid fun queued => ?_
      cases queued <;> exact .result (.ok rfl)
    · exact .result (.ok rfl)

/-- Another layer of a list is reset as it would be without the one that is met. -/
theorem spares_resetOne {id : Uuid} (hid : id ≠ e.layer) (hresets : e.resets = true)
    (found : Option (Uuid × Layer)) :
    e.Spares (Alike Eq) 5 found (resetOne id).run (resetOne id).run := by
  refine spares_execute hid fun looked => ?_
  cases looked with
  | none => exact .result (.ok rfl)
  | some l =>
    dsimp only
    split
    · refine spares_ask hid fun running => ?_
      cases running with
      | some job => exact .result (.ok rfl)
      | none =>
        refine spares_ask ⟨id, l, rfl, hid, rfl, rfl⟩ fun job => ?_
        exact spares_clearImports hid hresets fun _ => .result (.ok rfl)
    · exact .result (.ok rfl)

/-! ## The layer that is met -/

/-- What is said of the layers of a list is what is said of the list without one of them, and this
one is skipped wherever it is named, for one of some reasons. -/
inductive Woven (layer : Uuid) (reasons : String → Prop) :
    List Uuid → List Placement → List Placement → Prop
  | nil : Woven layer reasons [] [] []
  | own {ids : List Uuid} {placements others : List Placement} {reason : String}
      (hreason : reasons reason) (rest : Woven layer reasons ids placements others) :
      Woven layer reasons (layer :: ids) (.skipped layer reason :: placements) others
  | other {id : Uuid} {ids : List Uuid} {placements others : List Placement} (p : Placement)
      (hid : id ≠ layer) (rest : Woven layer reasons ids placements others) :
      Woven layer reasons (id :: ids) (p :: placements) (p :: others)

/-- The layer is skipped for one of some reasons. -/
def Skips (layer : Uuid) (reasons : String → Prop) (answer : Except Response Placement)
    (_ : Unit) : Prop :=
  ∃ reason, reasons reason ∧ answer = .ok (.skipped layer reason)

/-- The layer that is met is not imported. -/
theorem skips_importOne {reasons : String → Prop} (himports : e.resets = false)
    (hbusy : reasons s!"already importing (job_id: {e.job})")
    (hidle : ∀ l, e.rows l → hasText l.sourceFile = false → reasons "no source file")
    (found : Option (Uuid × Layer)) :
    e.Spares (Skips e.layer reasons) 2 found (importOne e.layer).run (.result ()) := by
  refine .looked fun l hl => ?_
  change e.Spares _ _ _ (ExceptT.run (if hasText l.sourceFile then _ else _)) _
  split
  · exact .refused himports (.result ⟨_, hbusy, rfl⟩)
  · next hnone => exact .result ⟨_, hidle l hl (by simpa using hnone), rfl⟩

/-- The layer that is met is not reset. -/
theorem skips_resetOne {reasons : String → Prop}
    (hbusy : reasons s!"import in progress (job_id: {e.job})")
    (hidle : ∀ l, e.rows l → l.hasImports = false → reasons "nothing to reset")
    (found : Option (Uuid × Layer)) :
    e.Spares (Skips e.layer reasons) 5 found (resetOne e.layer).run (.result ()) := by
  refine .looked fun l hl => ?_
  change e.Spares _ _ _ (ExceptT.run (if l.hasImports then _ else _)) _
  split
  · exact .asked (.result ⟨_, hbusy, rfl⟩)
  · next hnone => exact .result ⟨_, hidle l hl (by simpa using hnone), rfl⟩

/-- All layers of a list are handled as they would be without the one that is met. -/
theorem spares_forEach {one : Uuid → Handling Placement} {reasons : String → Prop} {cost : Nat}
    (hown : ∀ found, e.Spares (Skips e.layer reasons) cost found (one e.layer).run (.result ()))
    (hother : ∀ id ≠ e.layer, ∀ found, e.Spares (Alike Eq) cost found (one id).run (one id).run)
    (ids : List Uuid) (found : Option (Uuid × Layer)) :
    e.Spares (Alike (Woven e.layer reasons ids)) (cost * ids.length) found (forEach one ids).run
      (forEach one (ids.filter (· != e.layer))).run := by
  induction ids generalizing found with
  | nil => exact .result (.ok .nil)
  | cons id rest ih =>
    rw [List.length_cons, Nat.mul_succ, Nat.add_comm]
    by_cases hid : id = e.layer
    · subst hid
      rw [List.filter_cons_of_neg (by simp)]
      change e.Spares _ _ _ _ (Procedure.result () >>= fun _ => (forEach one _).run)
      refine (hown found).bind fun x _ found hskips => ?_
      obtain ⟨reason, hreason, rfl⟩ := hskips
      refine (ih found).bind_left fun x y found halike => ?_
      cases halike with
      | ok hwoven => exact .result (.ok (.own hreason hwoven))
      | fault message => exact .result (.fault message)
    · rw [List.filter_cons_of_pos (by simpa using hid)]
      refine spares_bind (hother id hid found) fun p _ found hsame => ?_
      subst hsame
      refine spares_bind (n := 0) (ih found) fun others others' _ hwoven => ?_
      exact .result (.ok (.other p hid hwoven))

end Admin.Handling

/-! ## Requests -/

namespace JobRequest

open Admin Admin.Handling Encounter

/-- The request is about the layer: it names it, or lists any layers. -/
def MayMeet (layer : Uuid) : JobRequest → Prop
  | submitImport id | deleteLayer id => id = layer
  | bulkImport _ | bulkReset _ => True

/-- The request resets layers. -/
def isReset : JobRequest → Bool
  | bulkReset _ => true
  | _ => false

/-- The layer has what the request works on. -/
def suits : JobRequest → Layer → Bool
  | bulkImport _, l => hasText l.sourceFile
  | bulkReset _, l => l.hasImports
  | _, _ => true

/-- What is said of a layer that a job is importing. -/
def refusal (job : JobId) : JobRequest → String
  | submitImport _ => s!"Import already in progress (job_id: {job})"
  | deleteLayer _ => s!"Import in progress (job_id: {job})"
  | bulkImport _ => s!"already importing (job_id: {job})"
  | bulkReset _ => s!"import in progress (job_id: {job})"

/-- What is said of a layer of a list that has nothing to work on. -/
def pretext : JobRequest → String
  | bulkImport _ => "no source file"
  | bulkReset _ => "nothing to reset"
  | _ => ""

/-- How many actions the request takes at most. -/
def cost : JobRequest → Nat
  | submitImport _ | deleteLayer _ => 2
  | bulkImport ids => 2 * ids.length
  | bulkReset ids => 5 * ids.length

/-- The request without the layer: a request for the layer alone is refused at once, and a list is
handled as if the layer were not in it. -/
def sparing (layer : Uuid) (job : JobId) : JobRequest → Task Response
  | r@(submitImport _) | r@(deleteLayer _) => .result (Response.error 409 (r.refusal job))
  | bulkImport ids => (bulkImport (ids.filter (· != layer))).task
  | bulkReset ids => (bulkReset (ids.filter (· != layer))).task

/-- Why a layer of a list is skipped that a job is importing. -/
def Excuses (job : JobId) (always : Prop) (r : JobRequest) (reason : String) : Prop :=
  reason = r.refusal job ∨ reason = r.pretext ∧ ¬always

/-- Two lists are answered alike, but for a layer that is skipped in the first. -/
def Listed (layer : Uuid) (reasons : String → Prop) (ids : List Uuid) (answer other : Response) :
    Prop :=
  ∃ placements others, Woven layer reasons ids placements others ∧
    answer = Response.json 200 (bulkDocument placements) ∧
    other = Response.json 200 (bulkDocument others)

/-- The answer to a request, beside that to the request without the layer. A request for the layer
alone is refused; the answer to a list is that to the list without the layer, and the layer is
skipped wherever it is named. If the layer always suits the request, the reason names the job. -/
def Spared (layer : Uuid) (job : JobId) (always : Prop) (r : JobRequest) (answer other : Response) :
    Prop :=
  match r with
  | submitImport _ | deleteLayer _ => answer = Response.error 409 (r.refusal job)
  | bulkImport ids | bulkReset ids => Listed layer (r.Excuses job always) ids answer other ∨
      ∃ message, answer = Response.error 500 message ∧ other = answer

/-- A list is answered as it would be without the layer that is met. -/
theorem spares_bulk {e : Encounter} {reasons : String → Prop} {ids : List Uuid} {n : Nat}
    {found : Option (Uuid × Layer)} {all others : Handling (List Placement)}
    (h : e.Spares (Alike (Woven e.layer reasons ids)) n found all.run others.run) :
    e.Spares (fun answer other => Listed e.layer reasons ids answer other ∨
        ∃ message, answer = Response.error 500 message ∧ other = answer) n found
      (do return Response.json 200 (bulkDocument (← all)) : Handling Response).answer
      (do return Response.json 200 (bulkDocument (← others)) : Handling Response).answer := by
  have hlisted : e.Spares (Alike (Listed e.layer reasons ids)) (n + 0) found
      (do return Response.json 200 (bulkDocument (← all)) : Handling Response).run
      (do return Response.json 200 (bulkDocument (← others)) : Handling Response).run :=
    spares_bind h fun placements others _ hwoven =>
      .result (.ok ⟨placements, others, hwoven, rfl, rfl⟩)
  refine hlisted.bind (n := 0) fun answer other _ halike => ?_
  cases halike with
  | ok hlisted => exact .result (.inl hlisted)
  | fault message => exact .result (.inr ⟨message, rfl, rfl⟩)

/-- Whoever meets a layer that is being imported does what would be done without it. -/
theorem spares_task {e : Encounter} {r : JobRequest} {always : Prop} (hmeets : r.MayMeet e.layer)
    (hrows : ∀ l, e.rows l → always → r.suits l = true)
    (hresets : e.resets = r.isReset) (found : Option (Uuid × Layer)) :
    e.Spares (r.Spared e.layer e.job always) r.cost found r.task (r.sparing e.layer e.job) := by
  cases r with
  | submitImport id =>
    obtain rfl : id = e.layer := hmeets
    exact .looked fun l _ => .refused hresets (.result rfl)
  | deleteLayer id =>
    obtain rfl : id = e.layer := hmeets
    exact .looked fun l _ => .asked (.result rfl)
  | bulkImport ids =>
    have hidle : ∀ l, e.rows l → hasText l.sourceFile = false →
        (bulkImport ids).Excuses e.job always "no source file" := fun l hl hnone =>
      .inr ⟨rfl, fun halways => Bool.false_ne_true (hnone.symm.trans (hrows l hl halways))⟩
    exact spares_bulk (spares_forEach
      (skips_importOne hresets (.inl rfl) hidle)
      (fun _ hid => spares_importOne hid) ids found)
  | bulkReset ids =>
    have hidle : ∀ l, e.rows l → l.hasImports = false →
        (bulkReset ids).Excuses e.job always "nothing to reset" := fun l hl hnone =>
      .inr ⟨rfl, fun halways => Bool.false_ne_true (hnone.symm.trans (hrows l hl halways))⟩
    exact spares_bulk (spares_forEach (skips_resetOne (.inl rfl) hidle)
      (fun _ hid => spares_resetOne hid hresets) ids found)

end JobRequest

end LayerPress
