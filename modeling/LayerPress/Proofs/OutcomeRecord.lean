import LayerPress.Proofs.CanonicalNames
import LayerPress.Proofs.ImportAttempt
import LayerPress.Proofs.Plain

/-!
# An outcome and the record it is about

An import repeats attempts until one succeeds, its failure is not worth another, or none is left.
An attempt that fails may have recorded its load, yet it leaves the entry of the layer as it was.
So the row that a successful import leaves agrees with the outcome in all but the entry: where the
outcome has none, the row keeps the entry from before the import. A layer whose slug is empty gets
a table without a name, and its status stays that of a layer without a table.
-/

namespace LayerPress

/-! ## Repeated attempts -/

namespace Work

/-- Repeating an attempt that keeps an invariant while it fails ends like one that succeeds, or
with the invariant. The invariant may be about what was noted of the exchanges so far, if nothing
is noted of a pause. -/
theorem ensures_retrying_noting {α N : Type} {attempt : Attempt α}
    (note : N → Exchange siteActions → N) (hpause : ∀ n made, note n ⟨.pause made, ()⟩ = n)
    {I : Register → N → Prop} {Q : α → Register → N → Prop}
    (hattempt : ∀ r n, I r n → Procedure.Ensures Register.Does (fun answer last log =>
      match answer with
      | .ok a => Q a last (log.foldl note n)
      | .error _ => I last (log.foldl note n)) r attempt.run)
    (left made : Nat) {r : Register} {n : N} (hr : I r n) :
    Procedure.Ensures Register.Does (fun answer last log =>
      match answer with
      | .ok a => Q a last (log.foldl note n)
      | .error _ => I last (log.foldl note n)) r (retrying attempt left made) := by
  induction left generalizing made r n with
  | zero => exact hattempt r n hr
  | succ left ih =>
    refine (hattempt r n hr).bind fun answer last log hanswer => ?_
    cases answer with
    | ok a =>
      change Q a last ((log ++ []).foldl note n)
      rwa [List.append_nil]
    | error f =>
      dsimp only
      split
      · rintro ⟨⟩ _ ⟨⟩
        refine (ih (made + 1) hanswer).mono fun again final more hagain => ?_
        dsimp only
        rw [List.foldl_append, List.foldl_cons, hpause]
        exact hagain
      · change I last ((log ++ []).foldl note n)
        rwa [List.append_nil]

/-- Repeating an attempt that keeps an invariant while it fails ends like one that succeeds, or
with the invariant. -/
theorem ensures_retrying {α : Type} {attempt : Attempt α} {I : Register → Prop}
    {Q : α → Register → Prop}
    (hattempt : ∀ r, I r → Procedure.Ensures Register.Does (fun answer last _ =>
      match answer with
      | .ok a => Q a last
      | .error _ => I last) r attempt.run)
    (left made : Nat) {r : Register} (hr : I r) :
    Procedure.Ensures Register.Does (fun answer last _ =>
      match answer with
      | .ok a => Q a last
      | .error _ => I last) r (retrying attempt left made) :=
  ensures_retrying_noting (fun n _ => n) (fun _ _ => rfl) (I := fun r (_ : Unit) => I r)
    (Q := fun a last _ => Q a last) (fun r _ hr => hattempt r hr) left made (n := ()) hr

end Work

/-! ## What an attempt leaves of the row -/

/-- The layers have the same slug, source file and entry. -/
structure Layer.SameEntry (former l : Layer) : Prop where
  slug : former.slug = l.slug
  sourceFile : former.sourceFile = l.sourceFile
  catalogEntry : former.catalogEntry = l.catalogEntry

/-- A layer that is stored was stored before, with the same entry. -/
def Records.KeepsEntry (id : Uuid) (before after : Records) : Prop :=
  ∀ l, after.layer? id = some l → ∃ former, before.layer? id = some former ∧ former.SameEntry l

/-- The same tables keep every entry. -/
theorem Records.KeepsEntry.refl (id : Uuid) (tables : Records) : tables.KeepsEntry id tables :=
  fun l hl => ⟨l, hl, rfl, rfl, rfl⟩

/-- What is kept twice is kept. -/
theorem Records.KeepsEntry.trans {id : Uuid} {before between after : Records}
    (h : before.KeepsEntry id between) (h' : between.KeepsEntry id after) :
    before.KeepsEntry id after := by
  intro l hl
  obtain ⟨l', hl', hsame'⟩ := h' l hl
  obtain ⟨former, hformer, hsame⟩ := h l' hl'
  exact ⟨former, hformer, hsame.slug.trans hsame'.slug, hsame.sourceFile.trans hsame'.sourceFile,
    hsame.catalogEntry.trans hsame'.catalogEntry⟩

/-- The row of a layer agrees with the outcome of its import, of which the entry may be missing
in favour of the former one. -/
structure ImportOutcome.Agrees (o : ImportOutcome) (former row : Layer) : Prop where
  tableName : row.tableName = o.tableName?
  featureCount : row.featureCount = o.featureCount
  geometryKind : some row.geometryKind = o.geometryKind?
  catalogEntry : row.catalogEntry = o.catalogEntry?.or former.catalogEntry
  importStatus : row.importStatus =
    if former.slug = "" then if hasText former.sourceFile then .pending else .noFile
    else if o.isPublished || hasText former.catalogEntry then .imported else .loaded

/-- Of the former row only the slug, the source file and the entry count. -/
theorem ImportOutcome.Agrees.of_former {o : ImportOutcome} {between former row : Layer}
    (h : o.Agrees between row) (hsame : former.SameEntry between) : o.Agrees former row :=
  { h with
    catalogEntry := hsame.catalogEntry ▸ h.catalogEntry
    importStatus := by
      rw [hsame.slug, hsame.sourceFile, hsame.catalogEntry]
      exact h.importStatus }

/-- The status of a row with the table of a slug and a published or former entry. -/
theorem importStatus_of_tableName {slug : String} {row : Layer} {entry former : Option String}
    (htable : row.tableName = some (Naming.tableName slug))
    (hentry : ∀ e, entry = some e → e ≠ "") (hrow : row.catalogEntry = entry.or former) :
    row.importStatus =
      if slug = "" then if hasText row.sourceFile then .pending else .noFile
      else if entry.isSome || hasText former then .imported else .loaded := by
  rw [Layer.importStatus, htable]
  split
  · next hname =>
    have hslug : slug ≠ "" := by
      rintro rfl
      exact absurd hname (by decide)
    rw [if_neg hslug, hrow]
    cases entry with
    | none => rfl
    | some e => simp [hasText, hentry e rfl]
  · next hname =>
    have hslug : slug = "" := by
      by_contra hne
      exact hname (by simpa [hasText] using Naming.tableName_ne_empty hne)
    rw [if_pos hslug]

section
variable {settings : ImportSettings} {id : Uuid} {before : Records} {last : Register}
  {log : List (Exchange siteActions)}

/-- A failed attempt leaves the entry. -/
theorem AttemptEnd.keepsEntry {f : Failure}
    (h : AttemptEnd settings id before (.error f) last log) :
    last.draft = none ∧ before.KeepsEntry id last.stored := by
  generalize hanswer : Except.error f = answer at h
  cases h with
  | withdrawn f hlog => exact ⟨rfl, .refl id before⟩
  | @recorded layer t now tables _ publishing _ entry last hloaded _ _ hpublished =>
    cases hpublished with
    | refused | recorded => cases hanswer
    | unrecorded =>
      refine ⟨rfl, fun l hl => ⟨layer, hloaded.found, ?_⟩⟩
      rw [hloaded.layer?] at hl
      cases hl
      exact ⟨rfl, rfl, rfl⟩

/-- A successful attempt leaves a row that agrees with its outcome. -/
theorem AttemptEnd.agrees {o : ImportOutcome}
    (h : AttemptEnd settings id before (.ok o) last log) :
    last.draft = none ∧ ∃ former row, before.layer? id = some former ∧
      last.stored.layer? id = some row ∧ o.Agrees former row := by
  generalize hanswer : Except.ok o = answer at h
  cases h with
  | withdrawn f hlog => cases hanswer
  | @recorded layer t now tables _ publishing _ entry last hloaded _ _ hpublished =>
    cases hpublished with
    | unrecorded => cases hanswer
    | refused f =>
      cases hanswer
      refine ⟨rfl, layer, _, hloaded.found, hloaded.layer?, rfl, rfl, rfl, rfl, ?_⟩
      exact importStatus_of_tableName rfl (fun e he => by cases he) rfl
    | recorded action moment row =>
      cases hanswer
      refine ⟨rfl, layer, _, hloaded.found, Records.layer?_withEntry hloaded.layer? _ moment, rfl,
        rfl, rfl, rfl, ?_⟩
      have hentry : settings.entryOf layer ≠ "" := by simp [ImportSettings.entryOf]
      exact importStatus_of_tableName rfl (fun e he => by cases he; exact hentry) rfl

end

/-! ## What an import leaves of the row -/

/-- A successful import leaves a row that agrees with its outcome. -/
theorem Work.ensures_runImport (settings : ImportSettings) (id : Uuid) (before : Records) :
    Procedure.Ensures Register.Does (fun o last _ => o.success = true →
      ∃ former row, before.layer? id = some former ∧ last.stored.layer? id = some row ∧
        o.Agrees former row) ⟨before, none⟩ (runImport settings id) := by
  rintro _ _ ⟨⟩
  refine (ensures_retrying (r := ⟨before, none⟩)
    (I := fun r => r.draft = none ∧ before.KeepsEntry id r.stored)
    (Q := fun o last => ∃ former row, before.layer? id = some former ∧
      last.stored.layer? id = some row ∧ o.Agrees former row) ?_ settings.maxRetries 0
    ⟨rfl, .refl id before⟩).bind ?_
  · rintro ⟨stored, _⟩ ⟨rfl, hkept⟩
    refine (ensures_importLayer settings id stored).mono fun answer last _ hend => ?_
    cases answer with
    | error f =>
      obtain ⟨hdraft, hlast⟩ := hend.keepsEntry
      exact ⟨hdraft, hkept.trans hlast⟩
    | ok o =>
      obtain ⟨-, between, row, hbetween, hrow, hagrees⟩ := hend.agrees
      obtain ⟨former, hformer, hsame⟩ := hkept between hbetween
      exact ⟨former, row, hformer, hrow, hagrees.of_former hsame⟩
  · intro answer last _ hanswer
    cases answer with
    | ok o => exact fun _ => hanswer
    | error f => exact nofun

/-- Whatever the files, the services and the record store answer, an import that reports success
has left a row that agrees with what it reports. -/
theorem outcome_agrees {σ : Type} (env : Surroundings σ) (settings : ImportSettings) (id : Uuid)
    (s : Site σ) (hclosed : s.working = none)
    (hsuccess : (s.run env (Work.runImport settings id)).1.success = true) :
    ∃ former row, s.records.layer? id = some former ∧
      (s.run env (Work.runImport settings id)).2.records.layer? id = some row ∧
      (s.run env (Work.runImport settings id)).1.Agrees former row := by
  have hregister : s.register = ⟨s.records, none⟩ := by rw [Site.register, hclosed]
  have himport := Work.ensures_runImport settings id s.records
  rw [← hregister] at himport
  exact Site.run_ensures himport hsuccess

/-- Plain surroundings that publish one table and refuse the next. The state counts the tables
that were published. -/
def Surroundings.publishingOnce : Surroundings Nat where
  answer c n :=
    match c, n with
    | .publish .., 0 => (.ok .created, 1)
    | .publish .., n => (.error (.catalogUnreachable "refused"), n)
    | c, n => ((Surroundings.plain.answer c ()).1, n)
  recordFault _ n := (none, n)
  now n := (⟨2020, 1, 1, 0, 0, 0, 0⟩, n)

/-- The plain site with a count of published tables. -/
def Site.plainCounting (layers : List Layer) : Site Nat :=
  { Site.plain layers with outside := 0 }

/-- Importing twice, of which the first import publishes its table and the second does not. -/
theorem outcome_agrees_twice :
    let s := (Site.plainCounting [.plain "roads"]).run .publishingOnce
      (Work.runImport .plain ⟨1⟩) |>.2
    s.working = none ∧ (s.run .publishingOnce (Work.runImport .plain ⟨1⟩)).1.success = true ∧
      ∃ former row, s.records.layer? ⟨1⟩ = some former ∧
        (s.run .publishingOnce (Work.runImport .plain ⟨1⟩)).2.records.layer? ⟨1⟩ = some row ∧
        (s.run .publishingOnce (Work.runImport .plain ⟨1⟩)).1.Agrees former row :=
  let s := (Site.plainCounting [.plain "roads"]).run .publishingOnce
    (Work.runImport .plain ⟨1⟩) |>.2
  have hclosed : s.working = none := by decide +kernel
  have hsuccess : (s.run .publishingOnce (Work.runImport .plain ⟨1⟩)).1.success = true := by
    decide +kernel
  ⟨hclosed, hsuccess, outcome_agrees .publishingOnce .plain ⟨1⟩ s hclosed hsuccess⟩

/-- The second import reports no entry, while its record has that of the first and counts as
imported. And a layer whose slug is empty is reported to be published, while it counts as one that
is still to be imported. -/
theorem former_entry_kept :
    let s := (Site.plainCounting [.plain "roads"]).run .publishingOnce
      (Work.runImport .plain ⟨1⟩) |>.2
    let again := s.run .publishingOnce (Work.runImport .plain ⟨1⟩)
    let nameless := (Site.plain [.plain ""]).run .plain (Work.runImport .plain ⟨1⟩)
    again.1 = .loaded "roads" 0 .multi none ∧
      (again.2.records.layer? ⟨1⟩).map (fun row => (row.catalogEntry, row.importStatus)) =
        some (some "gis:roads", .imported) ∧
      nameless.1 = .loaded "" 0 .multi (some "gis:") ∧
      (nameless.2.records.layer? ⟨1⟩).map (·.importStatus) = some .pending := by
  decide +kernel

end LayerPress
