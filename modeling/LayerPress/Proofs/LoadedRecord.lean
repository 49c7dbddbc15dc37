import LayerPress.Proofs.ImportAttempt
import LayerPress.Proofs.Plain

/-!
# What a successful import leaves

A successful attempt has asked for the features, the sampled geometry, the extent and the columns
of its table once each, and has published it once. Its outcome and the tables say what it was
told. An extent or columns that were asked for in vain count as none, and an attempt whose
publication was refused succeeds with the entry that the layer had.

The edges of the extent are recorded one by one. The record store has no place for an edge that is
not a number, so that a success is reported of an extent which the row does not have.
-/

namespace LayerPress

/-- The entry that a layer gets from the catalog's answer to its publication. -/
def ImportSettings.entryFrom (settings : ImportSettings) (l : Layer) :
    Except Failure PublishAction → Option String
  | .ok _ => some (settings.entryOf l)
  | .error _ => none

/-- The outcome of a successful attempt and what it has left, for a layer as it was found, what
was reported of its table, and the answer of the catalog. The row has the reported extent exactly if
all edges of that are numbers. -/
structure Imported (settings : ImportSettings) (id : Uuid) (before : Records) (o : ImportOutcome)
    (last : Register) (log : List (Exchange siteActions)) (layer : Layer) (t : TableReport)
    (published : Except Failure PublishAction) : Prop where
  found : before.layer? id = some layer
  answered : t.Answered (Naming.tableName layer.slug) log
  asked : answersTo (settings.publicationOf layer) log = [published]
  success : o.success = true
  tableName? : o.tableName? = some (Naming.tableName layer.slug)
  featureCount : o.featureCount = t.features
  geometryKind? : o.geometryKind? = some t.kind.text
  catalogEntry? : o.catalogEntry? = settings.entryFrom layer published
  isPublished : o.isPublished = o.catalogEntry?.isSome
  tables : Records.HoldsLoad id layer t
    ((settings.entryFrom layer published).or layer.catalogEntry) before last.stored
  extent : (∃ row, last.stored.layer? id = some row ∧ row.HasExtent t.extent) ↔
    ∀ box, t.extent = some box → box.IsNumeric
  draft : last.draft = none

variable {settings : ImportSettings} {id : Uuid} {layer : Layer} {before tables : Records}
  {last : Register} {log : List (Exchange siteActions)}

/-- Publishing that does not fail asks the catalog once. The tables get the entry that it gives,
or stay as they are. -/
theorem PublishEnd.of_ok {entry : Option String}
    (h : PublishEnd settings id layer tables (.ok entry) last log) :
    ∃ published, answersTo (settings.publicationOf layer) log = [published] ∧
      entry = settings.entryFrom layer published ∧
      (entry = none ∧ last = ⟨tables, none⟩ ∨
        ∃ e now, entry = some e ∧ last = ⟨tables.withEntry id e now, none⟩) := by
  cases h with
  | refused f =>
    exact ⟨.error f, by simp [answersTo, Exchange.answerTo?], rfl, .inl ⟨rfl, rfl⟩⟩
  | recorded action now row =>
    exact ⟨.ok action, by simp [answersTo, Exchange.answerTo?], rfl, .inr ⟨_, now, rfl, rfl⟩⟩

/-- Early exchanges answer no publication. -/
theorem answersTo_publicationOf_of_isEarly (hlog : ∀ e ∈ log, e.IsEarly) :
    answersTo (settings.publicationOf layer) log = [] := by
  refine List.filterMap_eq_nil_iff.mpr fun e he => ?_
  have hpublication := (hlog e he).2
  obtain ⟨a, x⟩ := e
  cases a with
  | call c =>
    have hne : c ≠ settings.publicationOf layer := by
      rintro rfl
      cases hpublication
    simp [Exchange.answerTo?, hne]
  | _ => rfl

/-- An attempt that ends with an outcome has imported its layer. -/
theorem AttemptEnd.imported {o : ImportOutcome}
    (h : AttemptEnd settings id before (.ok o) last log)
    (hkeyed : Attribute.Keyed before.attributes) :
    ∃ layer t published, Imported settings id before o last log layer t published := by
  generalize hanswer : Except.ok o = answer at h
  cases h with
  | withdrawn f hlog => cases hanswer
  | @recorded layer t now tables told publishing closing entry last hloaded hanswered hlog
      hpublished hclosing =>
    cases entry with
    | error f => cases hanswer
    | ok entry =>
      cases hanswer
      obtain ⟨published, hasked, rfl, hlast⟩ := hpublished.of_ok
      have htables : Records.HoldsLoad id layer t
          ((settings.entryFrom layer published).or layer.catalogEntry) before last.stored := by
        rcases hlast with ⟨hnone, rfl⟩ | ⟨e, moment, hsome, rfl⟩
        · rw [hnone]
          exact hloaded.holdsLoad hkeyed
        · rw [hsome]
          exact (hloaded.holdsLoad hkeyed).withEntry e moment
      refine ⟨layer, t, published, hloaded.found, hpublished.answered hanswered hclosing, ?_, rfl,
        rfl, rfl, rfl, rfl, rfl, htables, htables.hasExtent_iff, ?_⟩
      · have htold : answersTo (settings.publicationOf layer) told = [] :=
          answersTo_publicationOf_of_isEarly fun e he => (hlog e he).1
        have hrest : answersTo (settings.publicationOf layer)
            (⟨.records .commit, .ok ()⟩ :: ⟨.note .publishing, ()⟩ :: (publishing ++ closing)) =
              answersTo (settings.publicationOf layer) (publishing ++ closing) := rfl
        rw [answersTo_append, htold, hrest, answersTo_append, hasked, answersTo_of_isQuiet hclosing]
        rfl
      · rcases hlast with ⟨-, rfl⟩ | ⟨e, moment, -, rfl⟩ <;> rfl

/-- Whatever the files, the services and the record store answer, an attempt that ends with an
outcome tells what it was told of the table, and the tables show its load: all of it if the edges of
the extent are numbers, and all but the extent if one of them is not. -/
theorem imported_of_importLayer {σ : Type} (env : Surroundings σ) (settings : ImportSettings)
    (id : Uuid) (s : Site σ) (hclosed : s.working = none)
    (hkeyed : Attribute.Keyed s.records.attributes) {o : ImportOutcome}
    (hok : (s.run env (Work.importLayer settings id).run).1 = .ok o) :
    ∃ layer t published, Imported settings id s.records o
      (s.run env (Work.importLayer settings id).run).2.register
      (s.transcript env (Work.importLayer settings id).run) layer t published := by
  have hend := s.attemptEnd_importLayer env settings id hclosed
  rw [hok] at hend
  exact hend.imported hkeyed

/-- Plain surroundings that report an extent for every table. -/
def Surroundings.spanning (box : BoundingBox) : Surroundings Unit :=
  { Surroundings.plain with
    answer := fun c s =>
      (({ Rehearsal.Scripts.plain with extent := [.ok (some box)] }.answer c).1, s) }

/-- A successful attempt on the plain site. -/
theorem imported_of_importLayer_plain :
    let s := Site.plain [.plain "roads"]
    let attempt := (Work.importLayer .plain ⟨1⟩).run
    let o := ImportOutcome.loaded "roads" 0 .multi (some "gis:roads")
    (s.run .plain attempt).1 = .ok o ∧
      ∃ layer t published, Imported .plain ⟨1⟩ s.records o (s.run .plain attempt).2.register
        (s.transcript .plain attempt) layer t published :=
  have hok : ((Site.plain [.plain "roads"]).run .plain (Work.importLayer .plain ⟨1⟩).run).1 =
      .ok (.loaded "roads" 0 .multi (some "gis:roads")) := by
    decide +kernel
  ⟨hok,
    imported_of_importLayer .plain .plain ⟨1⟩ (Site.plain [.plain "roads"]) rfl ⟨.nil, .nil⟩ hok⟩

/-- An edge that is reported and is not a number is not in the row of a successful import, although
the other edges are. -/
theorem reported_edge_lost :
    let box : BoundingBox := ⟨.notANumber, .zero, .zero, .zero⟩
    let s := Site.plain [.plain "roads"]
    let attempt := (Work.importLayer .plain ⟨1⟩).run
    (s.run (.spanning box) attempt).1 = .ok (.loaded "roads" 0 .multi (some "gis:roads")) ∧
      answersTo (.extent "roads") (s.transcript (.spanning box) attempt) = [.ok (some box)] ∧
      ((s.run (.spanning box) attempt).2.records.layer? ⟨1⟩).map (·.edges) =
        some [none, some .zero, some .zero, some .zero] := by
  decide +kernel

end LayerPress
