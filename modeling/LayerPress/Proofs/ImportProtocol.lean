import LayerPress.Proofs.Monitor
import LayerPress.Work.Import

/-!
# The order of an import

An import finds its layer, converts the source into the layer's table, records the table in one
transaction, publishes it, and records the entry. Whatever it is answered it never does a later
step without the earlier ones, in any attempt, and it ends outside its transaction. The phase
keeps the layer as it was found and the row as the transaction left it.
-/

namespace LayerPress

/-- How far an attempt to import a layer has come. -/
inductive ImportPhase where
  | seeking
  | found (l : Layer)
  | loaded (l : Layer)
  | opened (l : Layer)
  | changed (l row : Layer)
  | recorded (l row : Layer)
  | published (l row : Layer)
  deriving DecidableEq, Repr

namespace ImportPhase

/-- No transaction is open. -/
def isClosed : ImportPhase → Bool
  | opened _ | changed .. => false
  | _ => true

/-- The table of the last attempt has been recorded. -/
def isRecorded : ImportPhase → Bool
  | recorded .. | published .. => true
  | _ => false

/-- A recorded table is recorded outside of the transaction. -/
theorem isClosed_of_isRecorded {phase : ImportPhase} (h : phase.isRecorded = true) :
    phase.isClosed = true := by
  cases phase with
  | recorded | published => rfl
  | _ => cases h

/-- The phase after an action and its answer. -/
def after : ImportPhase → (a : SiteAction) → a.Answer → ImportPhase
  | _, .records (.statement (.findLayer _)), .ok (some l) => found l
  | _, .records (.statement (.findLayer _)), _ => seeking
  | found l, .call (.run ..), .ok output => if output.success then loaded l else found l
  | loaded l, .records .begin, .ok _ => opened l
  | opened l, .records (.statement (.changeLayer ..)), .ok row => changed l row
  | changed l row, .records .commit, .ok _ => recorded l row
  | _, .rollback, _ => seeking
  | recorded l row, .call (.publish ..), .ok _ => published l row
  | phase, _, _ => phase

/-- A noted stage changes no phase. -/
theorem after_note (phase : ImportPhase) (stage : ImportStage) :
    phase.after (.note stage) () = phase := by
  cases phase <;> rfl

end ImportPhase

/-- The catalog entry of a layer's table. -/
def ImportSettings.entryOf (settings : ImportSettings) (l : Layer) : String :=
  settings.workspace ++ ":" ++ Naming.tableName l.slug

/-- The statements that an import may execute in a phase. -/
def Statement.isOpenToImport (settings : ImportSettings) (id : Uuid) (phase : ImportPhase) :
    Statement → Prop
  | .findLayer i => i = id ∧ phase.isClosed
  | .changeLayer i (.loaded table ..) =>
    i = id ∧ ∃ l, phase = .opened l ∧ table = Naming.tableName l.slug
  | .changeLayer i (.published entry _) =>
    ∃ l row, phase = .published l row ∧ i = row.id ∧ entry = settings.entryOf l
  | .findAttribute .. | .insertAttribute _ | .showAttribute .. => ∃ l row, phase = .changed l row
  | _ => False

/-- The calls that an import may make in a phase. -/
def ServiceCall.isOpenToImport (settings : ImportSettings) (phase : ImportPhase) :
    ServiceCall → Prop
  | .run _ args _ =>
    ∃ l source, phase = .found l ∧
      args = Work.conversionArgs settings.spatial settings.loader source (Naming.tableName l.slug)
  | .publish table _ workspace _ =>
    ∃ l row, phase = .recorded l row ∧ table = Naming.tableName l.slug ∧
      workspace = settings.workspace
  | .count _ | .geometryType _ | .extent _ | .columns _ => True
  | .drop _ | .unpublish .. | .info .. => False

/-- What an import of a layer may do in each phase. -/
def importMonitor (settings : ImportSettings) (id : Uuid) : Monitor siteActions ImportPhase where
  admits phase a :=
    match a with
    | .call c => c.isOpenToImport settings phase
    | .records (.statement s) => s.isOpenToImport settings id phase
    | .records .begin => ∃ l, phase = .loaded l
    | .records .commit => ∃ l row, phase = .changed l row
    | .rollback => phase.isClosed = false
    | _ => True
  after phase a x := phase.after a x

namespace Work

variable {settings : ImportSettings} {id : Uuid} {α : Type} {phase : ImportPhase}

/-- The work follows the order of an import from a phase on. -/
abbrev ImportWork (settings : ImportSettings) (id : Uuid) (phase : ImportPhase) (w : Work α)
    (Q : α → ImportPhase → Prop) : Prop :=
  (importMonitor settings id).Passes Q phase w

/-- Looking for the source file leaves the phase. -/
theorem importWork_sourcePath (l : Layer) :
    ImportWork settings id phase (sourcePath settings l).run fun _ last => last = phase := by
  unfold sourcePath
  cases l.sourceFile with
  | none => exact rfl
  | some raw =>
    dsimp only
    split
    · exact rfl
    · refine ⟨trivial, fun isFile => ?_⟩
      cases isFile <;> exact rfl

/-- Measuring a table leaves the phase. -/
theorem importWork_measure (table : String) :
    ImportWork settings id phase (measure table) fun _ last => last = phase := by
  refine ⟨trivial, fun features => ?_⟩
  cases features with
  | error f => cases phase <;> exact rfl
  | ok features =>
    refine ⟨trivial, fun type => ?_⟩
    cases type <;> cases phase <;> exact rfl

/-- Loading a found layer ends with its table loaded, or no further than it began. -/
theorem importWork_load (l : Layer) (source : Path) :
    ImportWork settings id (.found l)
      (load settings.spatial settings.loader source (Naming.tableName l.slug)) fun result last =>
        last = .loaded l ∨ last = .found l ∧ result.success = false := by
  refine ⟨⟨l, source, rfl, rfl⟩, fun ran => ?_⟩
  cases ran with
  | error f => exact .inr ⟨rfl, rfl⟩
  | ok output =>
    change (importMonitor settings id).Passes _ (if output.success then .loaded l else .found l)
      (if output.success then measure _ else _)
    cases output.success with
    | true => exact (importWork_measure _).mono fun _ _ hlast => .inl hlast
    | false => exact .inr ⟨rfl, rfl⟩

/-- The extent of a table leaves the phase. -/
theorem importWork_tableExtent (table : String) :
    ImportWork settings id phase (tableExtent table) fun _ last => last = phase := by
  refine ⟨trivial, fun extent => ?_⟩
  cases extent <;> cases phase <;> exact rfl

/-- The columns of a table leave the phase. -/
theorem importWork_tableColumns (table : String) :
    ImportWork settings id phase (tableColumns table) fun _ last => last = phase := by
  refine ⟨trivial, fun columns => ?_⟩
  cases columns <;> cases phase <;> exact rfl

/-- Showing the columns stays inside the transaction. -/
theorem importWork_upsertAttributes (l row : Layer) (layer : Uuid) (columns : List Column)
    (place : Nat) :
    ImportWork settings id (.changed l row) (upsertAttributes layer place columns).run
      fun _ last => last = .changed l row := by
  induction columns generalizing place with
  | nil => exact rfl
  | cons column rest ih =>
    have hone : ImportWork settings id (.changed l row) (upsertAttribute layer column place).run
        fun _ last => last = .changed l row := by
      refine ⟨⟨l, row, rfl⟩, fun found => ?_⟩
      cases found with
      | error f => exact rfl
      | ok a =>
        cases a with
        | some a => exact ⟨⟨l, row, rfl⟩, fun answer => by cases answer <;> exact rfl⟩
        | none => exact ⟨⟨l, row, rfl⟩, fun answer => by cases answer <;> exact rfl⟩
    refine hone.bindExcept (fun _ _ hlast => ?_) fun _ _ hlast => hlast
    subst hlast
    exact ih (place + 1)

/-- A transaction after which the row stands as the body left it, or which is given up. -/
theorem importWork_inTransaction {l : Layer} {body : Attempt Layer}
    (hbody : ImportWork settings id (.opened l) body.run fun answer last =>
      match answer with
      | .ok row => last = .changed l row
      | .error _ => last.isClosed = false) :
    ImportWork settings id (.loaded l) (inTransaction body).run fun answer last =>
      match answer with
      | .ok row => last = .recorded l row
      | .error _ => last.isClosed = true := by
  refine ⟨⟨l, rfl⟩, fun begun => ?_⟩
  cases begun with
  | error f => exact rfl
  | ok _ =>
    -- The body and the commit together, whose failure is followed by the rollback.
    have hcommitted : ImportWork settings id (.opened l)
        (body >>= fun row => do records .commit; return row).run fun answer last =>
          match answer with
          | .ok row => last = .recorded l row
          | .error _ => last.isClosed = false := by
      refine hbody.bindExcept (fun row last hlast => ?_) fun _ _ hlast => hlast
      subst hlast
      refine ⟨⟨l, row, rfl⟩, fun answer => ?_⟩
      cases answer <;> exact rfl
    refine Monitor.Passes.liftBind hcommitted fun answer last hlast => ?_
    cases answer with
    | ok row => exact hlast
    | error f => exact ⟨hlast, fun _ => rfl⟩

/-- Recording a loaded table ends with the row recorded, or with the transaction given up. -/
theorem importWork_recordLoad (l : Layer) (features : Int) (kind : Naming.GeometryKind)
    (extent : Option BoundingBox) (columns : List Column) :
    ImportWork settings id (.loaded l)
      (recordLoad id (Naming.tableName l.slug) features kind extent columns).run fun answer last =>
        match answer with
        | .ok row => last = .recorded l row
        | .error _ => last.isClosed = true := by
  refine importWork_inTransaction ⟨trivial, fun moment => ⟨⟨rfl, l, rfl, rfl⟩, fun changed => ?_⟩⟩
  cases changed with
  | error f => exact rfl
  | ok row =>
    refine ⟨trivial, fun _ => ?_⟩
    refine (importWork_upsertAttributes l row row.id columns 0).bindExcept (fun _ _ hlast => hlast) ?_
    rintro f last rfl
    exact rfl

/-- Publishing a recorded table ends outside the transaction with the table recorded. -/
theorem importWork_publish (l row : Layer) :
    ImportWork settings id (.recorded l row) (publish settings row (Naming.tableName l.slug)).run
      fun _ last => last.isRecorded = true := by
  refine ⟨⟨l, row, rfl, rfl, rfl⟩, fun published => ?_⟩
  cases published with
  | error f => exact rfl
  | ok action =>
    refine ⟨trivial, fun moment => ⟨⟨l, row, rfl, rfl, rfl⟩, fun changed => ?_⟩⟩
    cases changed <;> exact rfl

/-- The end of an attempt: outside the transaction, and with the table recorded if it succeeded. -/
def EndsWell (answer : Except Failure ImportOutcome) (last : ImportPhase) : Prop :=
  last.isClosed = true ∧ ∀ o, answer = .ok o → last.isRecorded = true

/-- A failed attempt ends well when it ends outside the transaction. -/
theorem EndsWell.error {f : Failure} {last : ImportPhase} (h : last.isClosed = true) :
    EndsWell (.error f) last := ⟨h, nofun⟩

/-- From a loaded table on, an attempt ends well. -/
theorem importWork_finish (l : Layer) (features : Int) (type : String) :
    ImportWork settings id (.loaded l) (do
      liftM (m := Work) (note .extracting)
      let extent ← liftM (m := Work) (tableExtent (Naming.tableName l.slug))
      let columns ← liftM (m := Work) (tableColumns (Naming.tableName l.slug))
      let kind := Naming.GeometryKind.ofType type
      liftM (m := Work) (note .updatingRecord)
      let updated ← recordLoad id (Naming.tableName l.slug) features kind extent columns
      liftM (m := Work) (note .publishing)
      let entry ← publish settings updated (Naming.tableName l.slug)
      liftM (m := Work) (note .done)
      return .loaded (Naming.tableName l.slug) features kind entry : Attempt ImportOutcome).run
      EndsWell := by
  refine ⟨trivial, fun _ => ?_⟩
  refine Monitor.Passes.liftBind (importWork_tableExtent _) fun extent last hlast => ?_
  subst hlast
  refine Monitor.Passes.liftBind (importWork_tableColumns _) fun columns last hlast => ?_
  subst hlast
  refine ⟨trivial, fun _ => ?_⟩
  refine (importWork_recordLoad l features _ extent columns).bindExcept ?_ fun _ _ hlast =>
    .error hlast
  rintro row last rfl
  refine ⟨trivial, fun _ => ?_⟩
  refine (importWork_publish l row).bindExcept (fun entry last hlast => ?_) fun f last hlast =>
    .error (ImportPhase.isClosed_of_isRecorded hlast)
  refine ⟨trivial, fun _ => ?_⟩
  have hlast' : (last.after (.note .done) ()).isRecorded = true := by
    rw [last.after_note]
    exact hlast
  exact ⟨ImportPhase.isClosed_of_isRecorded hlast', fun _ _ => hlast'⟩

/-- One attempt begins anywhere outside the transaction and ends well. -/
theorem importWork_importLayer (hclosed : phase.isClosed = true) :
    ImportWork settings id phase (importLayer settings id).run EndsWell := by
  refine ⟨⟨rfl, hclosed⟩, fun answer => ?_⟩
  cases answer with
  | error f => exact .error rfl
  | ok found =>
    cases found with
    | none => exact .error rfl
    | some l =>
      refine (importWork_sourcePath l).bindExcept (fun path _ hfound => ?_) fun _ _ hfound => ?_
      · subst hfound
        refine ⟨trivial, fun _ => ⟨trivial, fun resolved => ?_⟩⟩
        cases resolved with
        | error f => exact .error rfl
        | ok source =>
          refine ⟨trivial, fun _ => ?_⟩
          refine Monitor.Passes.liftBind (importWork_load l source.path) fun result last hlast => ?_
          refine ⟨trivial, fun _ => ?_⟩
          cases result with
          | failed f => rcases hlast with rfl | ⟨rfl, -⟩ <;> exact .error rfl
          | loaded features type =>
            rcases hlast with rfl | ⟨-, hfailed⟩
            · exact importWork_finish l features type
            · cases hfailed
      · subst hfound
        exact .error rfl

/-- Repeated attempts end well. -/
theorem importWork_retrying (left made : Nat) (hclosed : phase.isClosed = true) :
    ImportWork settings id phase (retrying (importLayer settings id) left made) EndsWell := by
  induction left generalizing phase made with
  | zero => exact importWork_importLayer hclosed
  | succ left ih =>
    refine Monitor.Passes.bind (importWork_importLayer hclosed) fun answer last hlast => ?_
    cases answer with
    | ok o => exact hlast
    | error f =>
      dsimp only
      split
      · refine ⟨trivial, fun _ => ih (made + 1) ?_⟩
        have hpaused : last.after (.pause (made + 1)) () = last := by cases last <;> rfl
        exact hpaused ▸ hlast.1
      · exact hlast

/-- An import ends outside its transaction, and with the table recorded if it succeeds. -/
theorem importWork_runImport (settings : ImportSettings) (id : Uuid) :
    ImportWork settings id .seeking (runImport settings id) fun o last =>
      last.isClosed = true ∧ (o.success = true → last.isRecorded = true) := by
  refine ⟨trivial, fun _ => ?_⟩
  have hattempts : ImportWork settings id .seeking
      (retrying (importLayer settings id) settings.maxRetries 0) EndsWell :=
    importWork_retrying settings.maxRetries 0 rfl
  refine hattempts.bind fun answer _ hlast => ?_
  cases answer with
  | ok o => exact ⟨hlast.1, fun _ => hlast.2 o rfl⟩
  | error f => exact ⟨hlast.1, nofun⟩

end Work

end LayerPress
