import LayerPress.Proofs.Transcript
import LayerPress.Work.Attempt

/-!
# The record store of a site working alone

Of a site, the proofs about single imports use the tables that are stored and, inside a
transaction, the draft of them. An answer to an action leaves the register as it is, unless it is
that of a statement that was executed or of a beginning, a commit or a rollback. What services,
files and the clock answer is left open, and so is which record actions fail.
-/

namespace LayerPress

/-- The stored tables, and the draft of an open transaction. -/
structure Register where
  stored : Records
  draft : Option Records
  deriving DecidableEq, Repr

namespace Register

/-- The tables that a statement sees. -/
def visible (r : Register) : Records :=
  r.draft.getD r.stored

/-- The register with other tables where statements act. -/
def write (r : Register) (tables : Records) : Register :=
  match r.draft with
  | some _ => { r with draft := some tables }
  | none => { r with stored := tables }

/-- What a record action may answer and makes of the register; one that fails changes nothing. -/
inductive Step : (a : RecordAction) → Except RecordFault a.Value → Register → Register → Prop
  | faulted {a : RecordAction} (f : RecordFault) (r : Register) : Step a (.error f) r r
  | executed {st : Statement} {v : st.Value} {r : Register} {tables : Records}
      (h : r.visible.execute st = .ok (v, tables)) :
      Step (.statement st) (.ok v) r (r.write tables)
  | began (r : Register) : Step .begin (.ok ()) r { r with draft := some r.stored }
  | committed (r : Register) : Step .commit (.ok ()) r ⟨r.visible, none⟩

/-- What an action may answer and makes of the register. -/
def Does : (a : SiteAction) → a.Answer → Register → Register → Prop
  | .records a, x, r, r' => Step a x r r'
  | .rollback, _, r, r' => r' = { r with draft := none }
  | _, _, r, r' => r' = r

end Register

namespace Site

variable {σ α β : Type} {env : Surroundings σ}

/-- The register of a site. -/
def register (s : Site σ) : Register := ⟨s.records, s.working⟩

/-- The exchanges of a run on a site. -/
def transcript (env : Surroundings σ) (w : Work α) (s : Site σ) : List (Exchange siteActions) :=
  Procedure.transcript (handle env) w s

/-- Work in sequence runs its second part where the first has ended. -/
theorem run_bind (env : Surroundings σ) (w : Work α) (k : α → Work β) (s : Site σ) :
    s.run env (w >>= k) = (s.run env w).2.run env (k (s.run env w).1) :=
  Procedure.run_bind w k s

/-- The transcript of work in sequence is made of those of its parts. -/
theorem transcript_bind (env : Surroundings σ) (w : Work α) (k : α → Work β) (s : Site σ) :
    s.transcript env (w >>= k) =
      s.transcript env w ++ (s.run env w).2.transcript env (k (s.run env w).1) :=
  Procedure.transcript_bind w k s

/-- Every action answers and changes the register as it may. -/
theorem does_handle (env : Surroundings σ) (a : SiteAction) (s : Site σ) :
    Register.Does a (handle env a s).1 s.register (handle env a s).2.register := by
  cases a with
  | records a =>
    simp only [handle]
    cases env.recordFault a s.outside with
    | mk fault outside =>
      cases fault with
      | some f => exact .faulted f _
      | none =>
        cases a with
        | statement st =>
          simp only [perform]
          rw [show ({ s with outside := outside } : Site σ).visible = s.register.visible from rfl]
          cases hexecute : s.register.visible.execute st with
          | error f => exact .faulted f _
          | ok answer =>
            have hwrite : (({ s with outside := outside } : Site σ).withVisible answer.2).register =
                s.register.write answer.2 := by
              obtain ⟨disk, scratchRoot, records, working, outside', stages⟩ := s
              cases working <;> rfl
            exact hwrite ▸ .executed hexecute
        | «begin» => exact .began _
        | commit => exact .committed _
  | rollback => rfl
  | _ => rfl

/-- Work on a site does what it ensures. -/
theorem run_ensures {w : Work α} {s : Site σ}
    {Q : α → Register → List (Exchange siteActions) → Prop}
    (h : Procedure.Ensures Register.Does Q s.register w) :
    Q (s.run env w).1 (s.run env w).2.register (s.transcript env w) :=
  h.run (does_handle env)

end Site

namespace Work

variable {α : Type} {r : Register}

/-- An attempt that begins with a record action ensures what it does when the action fails, and
what follows when it does not. -/
theorem ensures_records {a : RecordAction} {k : a.Value → Attempt α}
    {Q : Except Failure α → Register → List (Exchange siteActions) → Prop}
    (hfault : ∀ f, Q (.error (.records f)) r [⟨.records a, .error f⟩])
    (hok : ∀ v r', Register.Step a (.ok v) r r' →
      Procedure.Ensures Register.Does (fun b last log => Q b last (⟨.records a, .ok v⟩ :: log)) r'
        (k v).run) :
    Procedure.Ensures Register.Does Q r (records a >>= k).run := by
  intro x r' hstep
  cases x with
  | error f =>
    cases hstep
    exact hfault f
  | ok v => exact hok v r' hstep

/-- An attempt that begins with a statement ensures what it does when the statement fails, and
what follows when it is executed. -/
theorem ensures_execute {s : Statement} {k : s.Value → Attempt α}
    {Q : Except Failure α → Register → List (Exchange siteActions) → Prop}
    (hfault : ∀ f, Q (.error (.records f)) r [⟨.records (.statement s), .error f⟩])
    (hok : ∀ v tables, r.visible.execute s = .ok (v, tables) →
      Procedure.Ensures Register.Does
        (fun b last log => Q b last (⟨.records (.statement s), .ok v⟩ :: log)) (r.write tables)
        (k v).run) :
    Procedure.Ensures Register.Does Q r (execute s >>= k).run :=
  ensures_records hfault fun v _ hstep => by
    cases hstep with
    | executed h => exact hok v _ h

end Work

/-! ## Reading a transcript -/

namespace Exchange

/-- A statement was executed or failed. -/
def isStatement : Exchange siteActions → Bool
  | ⟨.records (.statement _), _⟩ => true
  | _ => false

/-- A record action failed. -/
def hasFault : Exchange siteActions → Bool
  | ⟨.records _, .error _⟩ => true
  | _ => false

/-- A transaction was committed. -/
def isCommit : Exchange siteActions → Bool
  | ⟨.records .commit, .ok _⟩ => true
  | _ => false

/-- The catalog was asked to publish a table. -/
def isPublication : Exchange siteActions → Bool
  | ⟨.call (.publish ..), _⟩ => true
  | _ => false

/-- The answer to a call. -/
def answerTo? (c : ServiceCall) : Exchange siteActions → Option (Except Failure c.Value)
  | ⟨.call c', x⟩ => if h : c' = c then some (h ▸ x) else none
  | _ => none

/-- The exchange is neither a commit nor a publication. -/
def IsEarly (e : Exchange siteActions) : Prop :=
  e.isCommit = false ∧ e.isPublication = false

/-- A failed record action is early. -/
theorem isEarly_fault (a : RecordAction) (f : RecordFault) : IsEarly ⟨.records a, .error f⟩ := by
  cases a <;> exact ⟨rfl, rfl⟩

/-- A statement is early. -/
theorem isEarly_of_isStatement {e : Exchange siteActions} (h : e.isStatement = true) :
    e.IsEarly := by
  obtain ⟨a, x⟩ := e
  cases a with
  | records a =>
    cases a with
    | statement => exact ⟨rfl, rfl⟩
    | «begin» | commit => cases h
  | _ => cases h

/-- The exchange is early, has no fault and answers no call. -/
structure IsQuiet (e : Exchange siteActions) : Prop where
  isEarly : e.IsEarly
  hasFault : e.hasFault = false
  answerTo? : ∀ c, e.answerTo? c = none

/-- A statement that is executed is quiet. -/
theorem isQuiet_of_isStatement {e : Exchange siteActions} (h : e.isStatement = true)
    (hfault : e.hasFault = false) : e.IsQuiet := by
  refine ⟨isEarly_of_isStatement h, hfault, fun c => ?_⟩
  obtain ⟨a, x⟩ := e
  cases a with
  | records => rfl
  | _ => cases h

end Exchange

/-- The answers to a call in a transcript. -/
def answersTo (c : ServiceCall) (log : List (Exchange siteActions)) :
    List (Except Failure c.Value) :=
  log.filterMap (·.answerTo? c)

/-- A transcript answers to a call what its parts do. -/
theorem answersTo_append (c : ServiceCall) (log more : List (Exchange siteActions)) :
    answersTo c (log ++ more) = answersTo c log ++ answersTo c more :=
  List.filterMap_append

/-- Quiet exchanges answer no call. -/
theorem answersTo_of_isQuiet {log : List (Exchange siteActions)} (h : ∀ e ∈ log, e.IsQuiet)
    (c : ServiceCall) : answersTo c log = [] :=
  List.filterMap_eq_nil_iff.mpr fun e he => (h e he).answerTo? c

end LayerPress
