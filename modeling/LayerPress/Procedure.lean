/-!
# Procedures

A procedure is a finite tree: it ends with a result, or performs an action and goes on with the
answer. What the actions are and what answers they have is a signature. The same tree can be run
to its end against one handler, or one action at a time among other procedures.
-/

namespace LayerPress

/-- Actions and the type of the answer to each. -/
structure Signature where
  Action : Type
  Answer : Action → Type

/-- A procedure over the actions of a signature. -/
inductive Procedure (S : Signature) (α : Type) where
  | result (a : α)
  | perform (action : S.Action) (next : S.Answer action → Procedure S α)

namespace Procedure

variable {S T : Signature} {α β σ : Type}

/-- The procedure that goes on with the result of another. -/
def andThen : Procedure S α → (α → Procedure S β) → Procedure S β
  | result a, k => k a
  | perform action next, k => perform action fun answer => (next answer).andThen k

instance : Monad (Procedure S) where
  pure := result
  bind := andThen

/-- One action and its answer. -/
def ask (action : S.Action) : Procedure S (S.Answer action) :=
  perform action result

/-- The procedure with every action replaced by a procedure of another signature. -/
def expand (f : (action : S.Action) → Procedure T (S.Answer action)) :
    Procedure S α → Procedure T α
  | result a => result a
  | perform action next => (f action).andThen fun answer => (next answer).expand f

/-- Runs a procedure to its end against a handler with a state. -/
def run (handler : (action : S.Action) → σ → S.Answer action × σ) : Procedure S α → σ → α × σ
  | result a, s => (a, s)
  | perform action next, s => (next (handler action s).1).run handler (handler action s).2

end Procedure

end LayerPress
