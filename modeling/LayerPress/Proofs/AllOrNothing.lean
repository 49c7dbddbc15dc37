import LayerPress.Proofs.LoadedRecord

/-!
# A load is recorded as a whole or not at all

An attempt to import a layer may fail at any action: while the source is found and loaded, at any
statement of the transaction, at its commit, and when the entry is recorded after it. Without a
commit the tables are those from before and nothing was published. With one, all of the load is in
the tables, and the statement that records the entry is the only one that failed.

This holds of the extent only if all of its edges are numbers. An edge that is not one is left out
of a load whose other results are committed.
-/

namespace LayerPress

/-- What a failed attempt leaves of its load: nothing without a commit, and after one everything
but the entry, and but an extent with an edge that is not a number. Whether it fails or not, it
publishes nothing before the commit. -/
structure AllOrNothing (settings : ImportSettings) (id : Uuid) (before : Records)
    (answer : Except Failure ImportOutcome) (last : Register) (log : List (Exchange siteActions)) :
    Prop where
  published : ∀ e ∈ log.takeWhile (!·.isCommit), e.isPublication = false
  nothing : ∀ f, answer = .error f → (∀ e ∈ log, e.isCommit = false) →
    last = ⟨before, none⟩ ∧ ∀ e ∈ log, e.isPublication = false
  all : ∀ f, answer = .error f → (∃ e ∈ log, e.isCommit = true) →
    ∃ layer t fault now, before.layer? id = some layer ∧ f = .records fault ∧
      log.filter (·.hasFault) =
        [⟨.records (.statement (.changeLayer id (.published (settings.entryOf layer) now))),
          .error fault⟩] ∧
      t.Answered (Naming.tableName layer.slug) log ∧
      Records.HoldsLoad id layer t layer.catalogEntry before last.stored ∧
      ((∃ row, last.stored.layer? id = some row ∧ row.HasExtent t.extent) ↔
        ∀ box, t.extent = some box → box.IsNumeric) ∧
      last.draft = none

variable {settings : ImportSettings} {id : Uuid} {layer : Layer} {before tables : Records}
  {last : Register} {log : List (Exchange siteActions)}

/-- Publishing fails only at the statement that records the entry. -/
theorem PublishEnd.of_error {f : Failure}
    (h : PublishEnd settings id layer tables (.error f) last log) :
    ∃ fault now, f = .records fault ∧ last = ⟨tables, none⟩ ∧ log.filter (·.hasFault) =
      [⟨.records (.statement (.changeLayer id (.published (settings.entryOf layer) now))),
        .error fault⟩] := by
  cases h with
  | unrecorded action now fault => exact ⟨fault, now, rfl, rfl, rfl⟩

/-- However an attempt ends, it has recorded its load as a whole or not at all. -/
theorem AttemptEnd.allOrNothing {answer : Except Failure ImportOutcome}
    (h : AttemptEnd settings id before answer last log)
    (hkeyed : Attribute.Keyed before.attributes) :
    AllOrNothing settings id before answer last log := by
  cases h with
  | withdrawn f hlog =>
    have hnone : ∀ e ∈ log, e.isPublication = false := fun e he => (hlog e he).2
    refine ⟨fun e he => hnone e ((List.takeWhile_sublist _).mem he), ?_, ?_⟩
    · intro _ _ _
      exact ⟨rfl, hnone⟩
    · rintro _ _ ⟨e, he, hcommit⟩
      rw [(hlog e he).1] at hcommit
      cases hcommit
  | @recorded layer t now tables told publishing closing entry last hloaded hanswered hlog
      hpublished hclosing =>
    refine ⟨?_, ?_, ?_⟩
    · -- The commit is the first of the transcript.
      have hbefore : ∀ e ∈ told, (!e.isCommit) = true := fun e he => by rw [(hlog e he).1.1]; rfl
      rw [List.takeWhile_append_of_pos hbefore,
        List.takeWhile_cons_of_neg (by simp [Exchange.isCommit]), List.append_nil]
      exact fun e he => (hlog e he).1.2
    · intro _ _ hnone
      have := hnone _ (List.mem_append_right told List.mem_cons_self)
      cases this
    · intro f hf _
      cases entry with
      | ok entry => cases hf
      | error f' =>
        cases hf
        obtain ⟨fault, moment, rfl, rfl, hfaults⟩ := hpublished.of_error
        have htold : told.filter (·.hasFault) = [] :=
          List.filter_eq_nil_iff.mpr fun e he => by simp [(hlog e he).2]
        have hclosed : closing.filter (·.hasFault) = [] :=
          List.filter_eq_nil_iff.mpr fun e he => by simp [(hclosing e he).hasFault]
        have htables := hloaded.holdsLoad hkeyed
        refine ⟨layer, t, fault, moment, hloaded.found, rfl, ?_,
          hpublished.answered hanswered hclosing, htables, htables.hasExtent_iff, rfl⟩
        rw [List.filter_append, htold, List.nil_append,
          List.filter_cons_of_neg (by simp [Exchange.hasFault]),
          List.filter_cons_of_neg (by simp [Exchange.hasFault]), List.filter_append, hfaults,
          hclosed, List.append_nil]

/-- Whatever the files, the services and the record store answer, an attempt to import a layer
records its load as a whole or not at all, apart from an extent with an edge that is not a
number. -/
theorem importLayer_all_or_nothing {σ : Type} (env : Surroundings σ) (settings : ImportSettings)
    (id : Uuid) (s : Site σ) (hclosed : s.working = none)
    (hkeyed : Attribute.Keyed s.records.attributes) :
    AllOrNothing settings id s.records (s.run env (Work.importLayer settings id).run).1
      (s.run env (Work.importLayer settings id).run).2.register
      (s.transcript env (Work.importLayer settings id).run) :=
  (s.attemptEnd_importLayer env settings id hclosed).allOrNothing hkeyed

/-- The same surroundings, but no entry can be recorded. -/
def Surroundings.entryless (env : Surroundings Unit) : Surroundings Unit :=
  { env with
    recordFault := fun a s =>
      match a with
      | .statement (.changeLayer _ (.published ..)) => (some .unavailable, s)
      | _ => (none, s) }

/-- An attempt that fails after its commit. -/
theorem importLayer_all_or_nothing_entryless :
    let env := Surroundings.plain.entryless
    let s := Site.plain [.plain "roads"]
    let attempt := (Work.importLayer .plain ⟨1⟩).run
    (s.run env attempt).1 = .error (.records .unavailable) ∧
      (s.transcript env attempt).any (·.isCommit) = true ∧
      AllOrNothing .plain ⟨1⟩ s.records (s.run env attempt).1 (s.run env attempt).2.register
        (s.transcript env attempt) :=
  ⟨by decide +kernel, by decide +kernel,
    importLayer_all_or_nothing Surroundings.plain.entryless .plain ⟨1⟩ (Site.plain [.plain "roads"])
      rfl ⟨.nil, .nil⟩⟩

/-- After a commit only the entry could not be recorded, but of the four edges that were reported
one is not in the row. -/
theorem load_recorded_in_part :
    let box : BoundingBox := ⟨.notANumber, .zero, .zero, .zero⟩
    let env := (Surroundings.spanning box).entryless
    let s := Site.plain [.plain "roads"]
    let attempt := (Work.importLayer .plain ⟨1⟩).run
    (s.run env attempt).1 = .error (.records .unavailable) ∧
      (s.transcript env attempt).any (·.isCommit) = true ∧
      answersTo (.extent "roads") (s.transcript env attempt) = [.ok (some box)] ∧
      ((s.run env attempt).2.records.layer? ⟨1⟩).map (fun row => (row.tableName, row.edges)) =
        some (some "roads", [none, some .zero, some .zero, some .zero]) := by
  decide +kernel

end LayerPress
