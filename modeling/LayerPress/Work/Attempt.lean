import LayerPress.Work.Site

/-!
# Attempts

An attempt is work that ends with a value or with the first failure. Here are the single actions
as work, and the loop that repeats an attempt while its failure may be worth it.
-/

namespace LayerPress

/-- Work that may fail. -/
abbrev Attempt := ExceptT Failure Work

namespace Work

/-- Notes that a stage has begun. -/
def note (stage : ImportStage) : Work Unit :=
  Procedure.ask (S := siteActions) (SiteAction.note stage)

/-- Asks whether a path leads to a regular file. -/
def isFile (p : Path) : Work Bool :=
  Procedure.ask (S := siteActions) (SiteAction.isFile p)

/-- Resolves a source file. -/
def resolve (p : Path) : Attempt ResolvedSource :=
  ExceptT.mk (Procedure.ask (S := siteActions) (SiteAction.resolve p))

/-- Discards what a resolved source keeps. -/
def release (source : ResolvedSource) : Work Unit :=
  Procedure.ask (S := siteActions) (SiteAction.release source)

/-- Calls an outside service. -/
def call (c : ServiceCall) : Work (Except Failure c.Value) :=
  Procedure.ask (S := siteActions) (SiteAction.call c)

/-- Performs a record action; its fault is a failure. -/
def records (a : RecordAction) : Attempt a.Value :=
  ExceptT.mk do
    let answer ← Procedure.ask (S := siteActions) (SiteAction.records a)
    return answer.mapError Failure.records

/-- Executes a statement. -/
def execute (s : Statement) : Attempt s.Value :=
  records (.statement s)

/-- Forgets the working copy of the records. -/
def rollback : Work Unit :=
  Procedure.ask (S := siteActions) SiteAction.rollback

/-- Reads the clock. -/
def now : Work Timestamp :=
  Procedure.ask (S := siteActions) SiteAction.now

/-- Waits before the attempt of a number, counted from one for the first repetition. -/
def pause (attempt : Nat) : Work Unit :=
  Procedure.ask (S := siteActions) (SiteAction.pause attempt)

/-- An attempt inside a transaction, which is committed at its end and forgotten when the
attempt or the commit fails. -/
def inTransaction {α : Type} (body : Attempt α) : Attempt α := do
  records .begin
  let answer ← liftM (m := Work) (body >>= fun a => do records .commit; return a).run
  match answer with
  | .ok a => return a
  | .error f => do
    liftM (m := Work) rollback
    throw f

/-- Repeats an attempt as often as allowed while its failure may be worth it; the second number
counts the repetitions made. -/
def retrying {α : Type} (attempt : Attempt α) : Nat → Nat → Work (Except Failure α)
  | 0, _ => attempt.run
  | left + 1, made => do
    match ← attempt.run with
    | .error f =>
      if f.isRetryable then do
        pause (made + 1)
        retrying attempt left (made + 1)
      else return .error f
    | .ok a => return .ok a

end Work

end LayerPress
