import LayerPress.Jobs.Machine

/-!
# Requests and jobs side by side

Several requests of clients are handled at once, beside the tasks of the jobs they queue. A move
lets one request or one task perform its next action. There is no move of someone who has ended or
must wait.
-/

namespace LayerPress

/-- A machine with the requests being handled. -/
structure Scene (σ ρ : Type) where
  machine : Machine σ
  clients : List (Task ρ)

namespace Scene

variable {σ ρ : Type}

/-- One action of one actor, if it can go on. -/
def move? (office : Office σ) (s : Scene σ ρ) : Actor → Option (Scene σ ρ)
  | .job i => (s.machine.step office i).map fun m => { s with machine := m }
  | .client i =>
    match s.clients[i]? with
    | none => none
    | some task =>
      match s.machine.advance office (.client i) task with
      | some (rest, m) => some { machine := m, clients := s.clients.set i rest }
      | none => none

/-- What each request was answered, as far as it has been. -/
def answers (s : Scene σ ρ) : List (Option ρ) :=
  s.clients.map fun task =>
    match task with
    | Procedure.result r => some r
    | Procedure.perform .. => none

end Scene

end LayerPress
