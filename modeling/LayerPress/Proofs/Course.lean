import LayerPress.Jobs.Interleaving

/-!
# Courses of events

A course is a scene together with everything done so far. At each turn one request or one job's
task performs its next action, or the clock goes on; a turn of someone who has ended or must wait
changes nothing. A turn of an actor is a move of the scene.

What has been done is kept as data, so that a statement about a whole run, such as which table
was loaded after which was dropped, is a statement about the list of deeds.
-/

namespace LayerPress

/-- An action that an actor performed, with the answer it got. -/
structure Deed where
  actor : Actor
  action : TaskAction
  answer : action.Answer

/-- What happens next: an actor performs an action, or time goes by. -/
inductive Turn where
  | act (who : Actor)
  | pass (elapsed : Nat)
  deriving DecidableEq, Repr

/-- The procedure has come to its result. -/
def Procedure.hasEnded {S : Signature} {α : Type} : Procedure S α → Bool
  | .result _ => true
  | .perform .. => false

namespace Machine

variable {σ α S : Type} {office : Office σ} {m : Machine σ} {who : Actor}

/-- The next deed of a task, if it can go on, and what becomes of the task and the machine after it
when they are put in their place. -/
def turn? (office : Office σ) (m : Machine σ) (who : Actor) (task : Option (Task α))
    (place : Task α → Machine σ → S) : Option (Deed × S) :=
  match task with
  | some (.perform a next) =>
    match m.handle office who a with
    | some (x, after) => some (⟨who, a, x⟩, place (next x) after)
    | none => none
  | _ => none

/-- Whoever takes a turn performs the next action of a task, which is handled. -/
theorem turn?_eq_some {task : Option (Task α)} {place : Task α → Machine σ → S} {d : Deed} {s : S}
    (h : m.turn? office who task place = some (d, s)) :
    ∃ a next x after, task = some (.perform a next) ∧ m.handle office who a = some (x, after) ∧
      d = ⟨who, a, x⟩ ∧ s = place (next x) after := by
  unfold turn? at h
  split at h
  · next a next =>
    split at h
    · next x after hhandle =>
      cases h
      exact ⟨a, next, x, after, rfl, hhandle, rfl, rfl⟩
    · cases h
  · cases h

end Machine

namespace Scene

variable {σ ρ : Type}

/-- The next deed of an actor and the scene after it, if the actor can go on. -/
def take (office : Office σ) (s : Scene σ ρ) : Actor → Option (Deed × Scene σ ρ)
  | .job i => s.machine.turn? office (.job i) s.machine.tasks[i]? fun rest m =>
      { s with machine := { m with tasks := m.tasks.set i rest } }
  | .client i => s.machine.turn? office (.client i) s.clients[i]? fun rest m =>
      ⟨m, s.clients.set i rest⟩

/-- A deed of a job's task is the next action of that task. -/
theorem take_job_eq_some {office : Office σ} {s s' : Scene σ ρ} {i : Nat} {d : Deed}
    (h : s.take office (.job i) = some (d, s')) :
    ∃ a next x m, s.machine.tasks[i]? = some (.perform a next) ∧
      s.machine.handle office (.job i) a = some (x, m) ∧ d = ⟨.job i, a, x⟩ ∧
      s' = { s with machine := { m with tasks := m.tasks.set i (next x) } } := by
  rw [take] at h
  exact Machine.turn?_eq_some h

/-- A deed of a request is the next action of that request. -/
theorem take_client_eq_some {office : Office σ} {s s' : Scene σ ρ} {i : Nat} {d : Deed}
    (h : s.take office (.client i) = some (d, s')) :
    ∃ a next x m, s.clients[i]? = some (.perform a next) ∧
      s.machine.handle office (.client i) a = some (x, m) ∧ d = ⟨.client i, a, x⟩ ∧
      s' = ⟨m, s.clients.set i (next x)⟩ := by
  rw [take] at h
  exact Machine.turn?_eq_some h

/-- Forgetting the deed, taking a turn is the scene's own move. -/
theorem move?_eq_take (office : Office σ) (s : Scene σ ρ) (who : Actor) :
    s.move? office who = (s.take office who).map Prod.snd := by
  cases who with
  | job i =>
    simp only [move?, Machine.step, take, Machine.turn?]
    cases htask : s.machine.tasks[i]? with
    | none => rfl
    | some task =>
      cases task with
      | result a => rfl
      | perform a next =>
        simp only [Machine.advance]
        cases s.machine.handle office (.job i) a <;> rfl
  | client i =>
    simp only [move?, take, Machine.turn?]
    cases htask : s.clients[i]? with
    | none => rfl
    | some task =>
      cases task with
      | result a => rfl
      | perform a next =>
        simp only [Machine.advance]
        cases s.machine.handle office (.client i) a <;> rfl

/-- The scene after some time. -/
def later (s : Scene σ ρ) (elapsed : Nat) : Scene σ ρ :=
  { s with machine := { s.machine with now := s.machine.now + elapsed } }

/-- Everyone has ended: every queued job and every request. -/
def isOver (s : Scene σ ρ) : Bool :=
  s.machine.tasks.all Procedure.hasEnded && s.clients.all Procedure.hasEnded

end Scene

/-- A scene and all that was done on the way to it, the earliest first. -/
structure Course (σ ρ : Type) where
  scene : Scene σ ρ
  deeds : List Deed

namespace Course

variable {σ ρ : Type}

/-- The beginning of a course. -/
def start (s : Scene σ ρ) : Course σ ρ := ⟨s, []⟩

/-- The course one turn on. -/
def next (office : Office σ) (c : Course σ ρ) : Turn → Course σ ρ
  | .act who =>
    match c.scene.take office who with
    | some (d, s) => ⟨s, c.deeds ++ [d]⟩
    | none => c
  | .pass elapsed => ⟨c.scene.later elapsed, c.deeds⟩

/-- The course after a sequence of turns. -/
def run (office : Office σ) (c : Course σ ρ) (turns : List Turn) : Course σ ρ :=
  turns.foldl (next office) c

/-- One more turn is taken after all before it. -/
theorem run_concat (office : Office σ) (c : Course σ ρ) (turns : List Turn) (turn : Turn) :
    c.run office (turns ++ [turn]) = (c.run office turns).next office turn := by
  rw [run, List.foldl_append]
  rfl

/-- What every deed and every passing of time preserves holds throughout a course. -/
theorem run_induction {office : Office σ} {P : Course σ ρ → Prop} {c : Course σ ρ} (hstart : P c)
    (hact : ∀ c who d s, P c → c.scene.take office who = some (d, s) → P ⟨s, c.deeds ++ [d]⟩)
    (hpass : ∀ c elapsed, P c → P ⟨c.scene.later elapsed, c.deeds⟩) (turns : List Turn) :
    P (c.run office turns) := by
  induction turns generalizing c with
  | nil => exact hstart
  | cons turn rest ih =>
    refine ih (c := c.next office turn) ?_
    cases turn with
    | pass elapsed => exact hpass c elapsed hstart
    | act who =>
      simp only [next]
      split
      · next d s htake => exact hact c who d s hstart htake
      · exact hstart

end Course

end LayerPress
