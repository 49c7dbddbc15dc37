import LayerPress.Procedure
import LayerPress.Records.Store
import LayerPress.Source.Resolve

/-!
# The site of an import

What an import or a teardown works on: files, layer records and the outside services. Statements
between the beginning and the commit of a transaction act on a working copy of the records,
which a rollback forgets. The surroundings decide what the services answer and which statements
fail; a failing statement changes nothing.
-/

namespace LayerPress

/-- The stages an import goes through. -/
inductive ImportStage where
  | queued
  | resolving
  | loading
  | extracting
  | updatingRecord
  | creatingAttributes
  | publishing
  | done
  deriving DecidableEq, Repr

/-- The name of a stage. -/
def ImportStage.text : ImportStage → String
  | queued => "queued"
  | resolving => "resolving"
  | loading => "loading"
  | extracting => "extracting"
  | updatingRecord => "updating_record"
  | creatingAttributes => "creating_attributes"
  | publishing => "publishing"
  | done => "done"

/-- A statement of the record store, transactions included. -/
inductive RecordAction where
  | statement (s : Statement)
  | begin
  | commit
  deriving DecidableEq, Repr

/-- What a record action answers when it does not fail. -/
abbrev RecordAction.Value : RecordAction → Type
  | statement s => s.Value
  | begin => Unit
  | commit => Unit

instance RecordAction.decidableEqValue : (a : RecordAction) → DecidableEq a.Value
  | .statement s => inferInstanceAs (DecidableEq s.Value)
  | .begin | .commit => inferInstanceAs (DecidableEq Unit)

/-- What an import or teardown may do. -/
inductive SiteAction where
  | note (stage : ImportStage)
  | isFile (path : Path)
  | resolve (path : Path)
  | release (source : ResolvedSource)
  | call (c : ServiceCall)
  | records (a : RecordAction)
  | rollback
  | now
  | pause (attempt : Nat)
  deriving DecidableEq, Repr

/-- The answers to site actions. -/
abbrev SiteAction.Answer : SiteAction → Type
  | note _ => Unit
  | isFile _ => Bool
  | resolve _ => Except Failure ResolvedSource
  | release _ => Unit
  | call c => Except Failure c.Value
  | records a => Except RecordFault a.Value
  | rollback => Unit
  | now => Timestamp
  | pause _ => Unit

/-- The signature of site actions. -/
abbrev siteActions : Signature := ⟨SiteAction, SiteAction.Answer⟩

/-- A procedure on a site. -/
abbrev Work := Procedure siteActions

/-- What lies outside: services, failing statements and the clock, each with a state of its
own. -/
structure Surroundings (σ : Type) where
  answer : (c : ServiceCall) → σ → Except Failure c.Value × σ
  recordFault : RecordAction → σ → Option RecordFault × σ
  now : σ → Timestamp × σ

/-- The files, the records and the state of the surroundings, with the stages noted so far. -/
structure Site (σ : Type) where
  disk : Disk
  scratchRoot : Path
  records : Records
  working : Option Records
  outside : σ
  stages : List ImportStage

namespace Site

variable {σ : Type}

/-- The records a statement sees. -/
def visible (s : Site σ) : Records :=
  s.working.getD s.records

/-- The site with other records where statements act. -/
def withVisible (s : Site σ) (r : Records) : Site σ :=
  match s.working with
  | some _ => { s with working := some r }
  | none => { s with records := r }

/-- A record action that does not fail by itself. -/
def perform (s : Site σ) : (a : RecordAction) → Except RecordFault a.Value × Site σ
  | .statement st =>
    match s.visible.execute st with
    | .ok (value, after) => (.ok value, s.withVisible after)
    | .error f => (.error f, s)
  | .begin => (.ok (), { s with working := some s.records })
  | .commit => (.ok (), { s with records := s.visible, working := none })

/-- The answer to a site action and the site after it. -/
def handle (env : Surroundings σ) : (a : SiteAction) → Site σ → a.Answer × Site σ
  | .note stage, s => ((), { s with stages := s.stages ++ [stage] })
  | .isFile p, s => (s.disk.isFile p, s)
  | .resolve p, s =>
    let (answer, disk) := s.disk.resolve s.scratchRoot p
    (answer, { s with disk := disk })
  | .release source, s => ((), { s with disk := s.disk.release source })
  | .call c, s =>
    let (answer, outside) := env.answer c s.outside
    (answer, { s with outside := outside })
  | .records a, s =>
    match env.recordFault a s.outside with
    | (some f, outside) => (.error f, { s with outside := outside })
    | (none, outside) => ({ s with outside := outside } : Site σ).perform a
  | .rollback, s => ((), { s with working := none })
  | .now, s =>
    let (answer, outside) := env.now s.outside
    (answer, { s with outside := outside })
  | .pause _, s => ((), s)

/-- Runs work to its end on a site. -/
def run {α : Type} (env : Surroundings σ) (w : Work α) (s : Site σ) : α × Site σ :=
  Procedure.run (handle env) w s

end Site

end LayerPress
