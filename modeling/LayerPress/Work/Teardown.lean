import LayerPress.Work.Import

/-!
# Tearing a layer down

A teardown deletes a catalog entry and drops a table, each side whatever became of the other and
neither repeated. A side without a name is not attempted, and an entry that names no workspace
and layer is refused without asking the catalog.
-/

namespace LayerPress.Work

/-- Deletes the feature type of a catalog entry. -/
def deleteEntry (settings : ImportSettings) (entry : String) : Work StepOutcome := do
  match Naming.splitEntry entry with
  | none => return ⟨false, "Malformed catalog entry: " ++ entry⟩
  | some (workspace, name) =>
    match ← call (.unpublish name workspace settings.datastore) with
    | .ok () => return ⟨true, "Layer " ++ entry ++ " deleted"⟩
    | .error f => return ⟨false, f.message⟩

/-- Drops a table. -/
def dropTable (table : String) : Work StepOutcome := do
  match ← call (.drop table) with
  | .ok () => return ⟨true, "Table " ++ table ++ " dropped"⟩
  | .error f => return ⟨false, f.message⟩

/-- A step that is attempted for a nonempty name only. -/
def stepFor (name : Option String) (step : String → Work StepOutcome) :
    Work (Option StepOutcome) :=
  match name with
  | none => return none
  | some n => if n.isEmpty then return none else do return some (← step n)

/-- Tears down a catalog entry and a table. -/
def runTeardown (settings : ImportSettings) (table entry : Option String) :
    Work TeardownOutcome := do
  let catalog ← stepFor entry (deleteEntry settings)
  let dropped ← stepFor table dropTable
  return ⟨catalog, dropped⟩

/-- Forgets everything an import filled in; the source file and the declared kinds stay. -/
def clearImports (id : Uuid) : Attempt Layer := do
  let moment ← liftM (m := Work) now
  execute (.changeLayer id (.cleared moment))

end LayerPress.Work
