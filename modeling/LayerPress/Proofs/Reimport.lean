import LayerPress.Proofs.SoundStore

/-!
# Importing again

A layer is imported, and then imported again with the same answers of files and services. The
second import finds every column shown already and records the report that the first has
recorded. It leaves the tables as they were, except for the time at which the layer was changed.
So it does when the layer is cleared in between, as long as the catalog publishes: clearing takes
no attribute and nothing else that an import does not give back.

This holds of whatever the second import does, however the record store fails. In a sound record
store the second import succeeds with what the first has reported.
-/

namespace LayerPress

/-! ## The same report again -/

section
variable {log log' : List (Exchange siteActions)}

/-- A call that is made in both of two transcripts has the same answer. -/
theorem SameAnswers.call_eq {c : ServiceCall} {x x' : Except Failure c.Value}
    (h : SameAnswers log log') (hx : (⟨.call c, x⟩ : Exchange siteActions) ∈ log)
    (hx' : (⟨.call c, x'⟩ : Exchange siteActions) ∈ log') : x = x' := by
  have hsame := h _ (List.mem_filter.mpr ⟨hx, rfl⟩) _ (List.mem_filter.mpr ⟨hx', rfl⟩) rfl
  simpa using hsame

/-- What a call is answered stands in the transcript. -/
theorem mem_of_mem_answersTo {c : ServiceCall} {x : Except Failure c.Value}
    (h : x ∈ answersTo c log) : (⟨.call c, x⟩ : Exchange siteActions) ∈ log := by
  obtain ⟨⟨a, y⟩, he, hanswer⟩ := List.mem_filterMap.mp h
  cases a with
  | call c' =>
    by_cases hc : c' = c
    · subst hc
      obtain rfl : y = x := by simpa [Exchange.answerTo?] using hanswer
      exact he
    · simp [Exchange.answerTo?, hc] at hanswer
  | _ => simp [Exchange.answerTo?] at hanswer

/-- A call that is answered once in each of two transcripts has the same answer. -/
theorem SameAnswers.answersTo_eq {c : ServiceCall} {x x' : Except Failure c.Value}
    (h : SameAnswers log log') (hlog : answersTo c log = [x]) (hlog' : answersTo c log' = [x']) :
    x = x' :=
  h.call_eq (mem_of_mem_answersTo (by simp [hlog])) (mem_of_mem_answersTo (by simp [hlog']))

/-- The same answers give the same report. -/
theorem TableReport.Answered.eq {t t' : TableReport} {table : String}
    (h : t.Answered table log) (h' : t'.Answered table log') (hsame : SameAnswers log log') :
    t = t' := by
  obtain ⟨hfeatures, htype, ⟨extent, hextent, heq⟩, columns, hcolumns, hceq⟩ := h
  obtain ⟨hfeatures', htype', ⟨extent', hextent', heq'⟩, columns', hcolumns', hceq'⟩ := h'
  have hf := hsame.answersTo_eq hfeatures hfeatures'
  have ht := hsame.answersTo_eq htype htype'
  have he := hsame.answersTo_eq hextent hextent'
  have hc := hsame.answersTo_eq hcolumns hcolumns'
  subst he hc
  obtain ⟨features, type, extent, columns⟩ := t
  obtain ⟨features', type', extent', columns'⟩ := t'
  simp_all

end

/-! ## What an attempt leaves, however it ends -/

/-- The tables hold a load of a layer with the entry that the catalog's answer gives it, or with
the one that it had. -/
structure Reported (settings : ImportSettings) (id : Uuid) (before after : Records)
    (log : List (Exchange siteActions)) (layer : Layer) (t : TableReport)
    (published : Except Failure PublishAction) (entry : Option String) : Prop where
  found : before.layer? id = some layer
  answered : t.Answered (Naming.tableName layer.slug) log
  asked : answersTo (settings.publicationOf layer) log = [published]
  tables : Records.HoldsLoad id layer t entry before after
  entry : entry = (settings.entryFrom layer published).or layer.catalogEntry ∨
    entry = layer.catalogEntry

section
variable {settings : ImportSettings} {id : Uuid} {layer : Layer} {before after tables : Records}
  {last : Register} {log : List (Exchange siteActions)} {t : TableReport}

/-- However publishing ends, the catalog was asked once, and its entry is recorded or is not. -/
theorem PublishEnd.asked {entry : Except Failure (Option String)}
    (h : PublishEnd settings id layer tables entry last log) :
    ∃ published, answersTo (settings.publicationOf layer) log = [published] ∧
      (last = ⟨tables, none⟩ ∨ ∃ now, settings.entryFrom layer published =
          some (settings.entryOf layer) ∧
        last = ⟨tables.withEntry id (settings.entryOf layer) now, none⟩) := by
  cases h with
  | refused f => exact ⟨.error f, by simp [answersTo, Exchange.answerTo?], .inl rfl⟩
  | unrecorded action now f =>
    exact ⟨.ok action, by simp [answersTo, Exchange.answerTo?], .inl rfl⟩
  | recorded action now row =>
    exact ⟨.ok action, by simp [answersTo, Exchange.answerTo?], .inr ⟨now, rfl, rfl⟩⟩

/-- The catalog is asked nothing but the publication of a recorded load. -/
theorem answersTo_publicationOf_recorded {publishing closing : List (Exchange siteActions)}
    (hlog : ∀ e ∈ log, e.IsEarly) (hclosing : ∀ e ∈ closing, e.IsQuiet) :
    answersTo (settings.publicationOf layer) (log ++ ⟨.records .commit, .ok ()⟩ ::
      ⟨.note .publishing, ()⟩ :: (publishing ++ closing)) =
        answersTo (settings.publicationOf layer) publishing := by
  have hrest : answersTo (settings.publicationOf layer) (⟨.records .commit, .ok ()⟩ ::
      ⟨.note .publishing, ()⟩ :: (publishing ++ closing)) =
        answersTo (settings.publicationOf layer) (publishing ++ closing) := rfl
  rw [answersTo_append, answersTo_publicationOf_of_isEarly hlog, hrest, answersTo_append,
    answersTo_of_isQuiet hclosing]
  simp

/-- However an attempt ends, the tables are as they were or hold what was reported. -/
theorem AttemptEnd.reported {answer : Except Failure ImportOutcome}
    (h : AttemptEnd settings id before answer last log)
    (hkeyed : Attribute.Keyed before.attributes) :
    last.draft = none ∧ (last.stored = before ∧ (∃ f, answer = .error f) ∨
      ∃ layer t published entry,
        Reported settings id before last.stored log layer t published entry) := by
  cases h with
  | withdrawn f hlog => exact ⟨rfl, .inl ⟨rfl, f, rfl⟩⟩
  | @recorded layer t now tables log publishing closing entry last hloaded hanswered hlog
      hpublished hclosing =>
    have hearly : ∀ e ∈ log, e.IsEarly := fun e he => (hlog e he).1
    have htold := hpublished.answered hanswered hclosing
    have htables := hloaded.holdsLoad hkeyed
    obtain ⟨published, hasked, hlast⟩ := hpublished.asked
    rw [← answersTo_publicationOf_recorded hearly hclosing] at hasked
    rcases hlast with rfl | ⟨moment, hentry, rfl⟩
    · exact ⟨rfl, .inr ⟨layer, t, published, layer.catalogEntry, hloaded.found, htold, hasked,
        htables, .inr rfl⟩⟩
    · refine ⟨rfl, .inr ⟨layer, t, published, some (settings.entryOf layer), hloaded.found, htold,
        hasked, htables.withEntry _ moment, .inl ?_⟩⟩
      rw [hentry]
      rfl

end

/-! ## The same tables again -/

/-- The tables differ at most in the time at which one layer was changed. -/
structure Records.SameButTime (id : Uuid) (before after : Records) : Prop where
  row : ∃ row moment, before.layer? id = some row ∧
    after.layer? id = some { row with updatedAt := moment }
  attributes : after.attributes = before.attributes
  otherLayers : after.layers.filter (·.id != id) = before.layers.filter (·.id != id)

/-- The tables, with a layer cleared or as they are. -/
inductive Records.Retried (id : Uuid) (tables : Records) : Records → Prop
  | kept : Retried id tables tables
  | cleared (moment : Timestamp) : Retried id tables
      { tables with
        layers := tables.layers.map fun row =>
          if row.id == id then (LayerChange.cleared moment).apply row else row }

section
variable {id : Uuid} {layer row : Layer} {before once again twice : Records} {t : TableReport}
  {entry : Option String}

/-- Clearing a layer leaves the attributes and the other layers. -/
theorem Records.Retried.rest (h : once.Retried id again) :
    again.attributes = once.attributes ∧
      again.layers.filter (·.id != id) = once.layers.filter (·.id != id) := by
  cases h with
  | kept => exact ⟨rfl, rfl⟩
  | cleared moment => exact ⟨rfl, filter_ne_changed id (.cleared moment) once.layers⟩

/-- Of the row of a layer, clearing leaves all that an import reads. -/
theorem Records.Retried.layer? (h : once.Retried id again) (hrow : once.layer? id = some row) :
    again.layer? id = some row ∨
      ∃ moment, again.layer? id = some ((LayerChange.cleared moment).apply row) := by
  cases h with
  | kept => exact .inl hrow
  | cleared moment => exact .inr ⟨moment, Records.layer?_changed hrow (.cleared moment)⟩

/-- A load that is recorded again with the same report and entry leaves the same tables, whether
or not its layer was cleared in between. -/
theorem Records.HoldsLoad.sameButTime (h : Records.HoldsLoad id layer t entry before once)
    (hretried : once.Retried id again) {again' : Layer} (hfound : again.layer? id = some again')
    (h' : Records.HoldsLoad id again' t entry again twice) : once.SameButTime id twice := by
  obtain ⟨hattributes, hothers⟩ := hretried.rest
  obtain ⟨now, hrow⟩ := h.row
  obtain ⟨now', hrow'⟩ := h'.row
  refine ⟨⟨_, now', hrow, ?_⟩, ?_, h'.otherLayers.trans hothers⟩
  · rw [hrow']
    rcases hretried.layer? hrow with hsame | ⟨moment, hcleared⟩
    · rw [hsame] at hfound
      cases hfound
      rfl
    · rw [hcleared] at hfound
      cases hfound
      rfl
  · rw [h'.attributes, hattributes, h.attributes, upserted_upserted]

end

/-! ## The second import -/

section
variable {settings : ImportSettings} {id : Uuid} {layer layer' : Layer} {before again : Records}
  {o o' : ImportOutcome} {last last' : Register} {log log' : List (Exchange siteActions)}
  {t t' : TableReport} {entry entry' : Option String}
  {published published' : Except Failure PublishAction} {answer : Except Failure ImportOutcome}

/-- A layer that is found again has the slug, the title and the source that it had. -/
theorem Records.HoldsLoad.found_again (h : Records.HoldsLoad id layer t entry before last.stored)
    (hretried : last.stored.Retried id again) (hfound : again.layer? id = some layer') :
    layer'.slug = layer.slug ∧ layer'.title = layer.title ∧
      layer'.sourceFile = layer.sourceFile := by
  obtain ⟨now, hrow⟩ := h.row
  rcases hretried.layer? hrow with hsame | ⟨moment, hcleared⟩
  · rw [hsame] at hfound
    cases hfound
    exact ⟨rfl, rfl, rfl⟩
  · rw [hcleared] at hfound
    cases hfound
    exact ⟨rfl, rfl, rfl⟩

/-- A layer whose load was recorded is found again. -/
theorem Records.HoldsLoad.exists_again (h : Records.HoldsLoad id layer t entry before last.stored)
    (hretried : last.stored.Retried id again) : ∃ layer', again.layer? id = some layer' := by
  obtain ⟨now, hrow⟩ := h.row
  rcases hretried.layer? hrow with hsame | ⟨moment, hcleared⟩
  · exact ⟨_, hsame⟩
  · exact ⟨_, hcleared⟩

/-- The entry that the catalog's answer gives is made of the slug. -/
theorem ImportSettings.entryFrom_congr (hslug : layer'.slug = layer.slug)
    (published : Except Failure PublishAction) :
    settings.entryFrom layer' published = settings.entryFrom layer published := by
  cases published with
  | ok action => simp only [entryFrom, entryOf, hslug]
  | error f => rfl

/-- The same answers give the same report and the same answer of the catalog again. -/
theorem Imported.reported_again
    (h : Imported settings id before o last log layer t published)
    (hretried : last.stored.Retried id again)
    (h' : Reported settings id again last'.stored log' layer' t' published' entry')
    (hsame : SameAnswers log log') : t' = t ∧ published' = published := by
  obtain ⟨hslug, htitle, -⟩ := h.tables.found_again hretried h'.found
  have hanswered := h'.answered
  have hasked := h'.asked
  unfold ImportSettings.publicationOf at hasked
  rw [hslug, htitle] at hasked
  rw [hslug] at hanswered
  exact ⟨(h.answered.eq hanswered hsame).symm, (hsame.answersTo_eq h.asked hasked).symm⟩

/-- An import that is repeated with the same answers leaves the same tables, however it ends. -/
theorem Imported.sameButTime (h : Imported settings id before o last log layer t published)
    (h' : AttemptEnd settings id last.stored answer last' log')
    (hkeyed : Attribute.Keyed last.stored.attributes) (hsame : SameAnswers log log') :
    last.stored.SameButTime id last'.stored := by
  obtain ⟨now, hrow⟩ := h.tables.row
  obtain ⟨-, ⟨hkept, -⟩ | ⟨layer', t', published', entry', hreported⟩⟩ := h'.reported hkeyed
  · rw [hkept]
    exact ⟨⟨_, now, hrow, hrow⟩, rfl, rfl⟩
  · obtain ⟨rfl, rfl⟩ := h.reported_again .kept hreported hsame
    have hfound := hreported.found
    obtain ⟨hslug, -, -⟩ := h.tables.found_again .kept hfound
    have hformer : layer'.catalogEntry =
        (settings.entryFrom layer published').or layer.catalogEntry := by
      rw [hrow] at hfound
      cases hfound
      rfl
    have hentry : entry' = (settings.entryFrom layer published').or layer.catalogEntry := by
      rcases hreported.entry with hnew | hold
      · rw [hnew, ImportSettings.entryFrom_congr hslug, hformer, ← Option.or_assoc, Option.or_self]
      · rw [hold, hformer]
    have htables := hreported.tables
    rw [hentry] at htables
    exact h.tables.sameButTime .kept hfound htables

/-- A published import that is repeated with the same answers and succeeds leaves the same tables,
also when its layer was cleared in between. -/
theorem Imported.sameButTime_of_isPublished
    (h : Imported settings id before o last log layer t published) (ho : o.isPublished = true)
    (hretried : last.stored.Retried id again)
    (h' : AttemptEnd settings id again (.ok o') last' log')
    (hkeyed : Attribute.Keyed last.stored.attributes) (hsame : SameAnswers log log') :
    last.stored.SameButTime id last'.stored := by
  have hkeyed' : Attribute.Keyed again.attributes := by
    rw [hretried.rest.1]
    exact hkeyed
  obtain ⟨layer', t', published', himported⟩ := h'.imported hkeyed'
  have hreported : Reported settings id again last'.stored log' layer' t' published' _ :=
    ⟨himported.found, himported.answered, himported.asked, himported.tables, .inl rfl⟩
  obtain ⟨rfl, rfl⟩ := h.reported_again hretried hreported hsame
  obtain ⟨hslug, -, -⟩ := h.tables.found_again hretried himported.found
  obtain ⟨e, he⟩ : ∃ e, settings.entryFrom layer published' = some e := by
    rw [h.isPublished, h.catalogEntry?] at ho
    exact Option.isSome_iff_exists.mp ho
  have hbefore := h.tables
  have hafter := himported.tables
  rw [he] at hbefore
  rw [ImportSettings.entryFrom_congr hslug, he] at hafter
  exact hbefore.sameButTime hretried himported.found hafter

/-- A layer whose columns are all shown has distinct ids with them. -/
theorem Records.HoldsLoad.distinct (h : Records.HoldsLoad id layer t entry before last.stored)
    (hretried : last.stored.Retried id again)
    (hkeyed : Attribute.Keyed last.stored.attributes) :
    Attribute.Distinct id t.columns again.attributes := by
  have hshown : upserted id 0 t.columns again.attributes = again.attributes := by
    rw [hretried.rest.1, h.attributes, upserted_upserted]
  rw [Attribute.Distinct, hshown, hretried.rest.1]
  exact hkeyed.ids

/-- In a sound record store an import that is repeated with the same answers succeeds with the same
outcome, also when its layer was cleared in between. -/
theorem SoundEnd.repeated (h : SoundEnd settings id before (.ok o) last log)
    (hkeyed : Attribute.Keyed last.stored.attributes) (hretried : last.stored.Retried id again)
    (h' : SoundEnd settings id again answer last' log') (hsame : SameAnswers log log') :
    answer = .ok o := by
  cases h with
  | @surveyed layer t _ surveyed finish _ _ hsurvey hyields hfinish =>
    cases hfinish with
    | @published published recording closing _ _ _ _ _ htables =>
      obtain ⟨layer', hfound'⟩ := htables.exists_again hretried
      obtain ⟨hslug, htitle, hsource⟩ := htables.found_again hretried hfound'
      obtain ⟨report, surveyed', finish', rfl, -, hyields', hrest⟩ := h'.of_some hfound'
      rw [Work.survey_congr hslug hsource] at hyields'
      obtain ⟨-, rfl⟩ := hsame.answeredAlike.of_records.eq_of_yields hyields hyields'
        hsurvey.isInquiry
      cases hrest with
      | clashing hclash => exact absurd (htables.distinct hretried hkeyed) hclash
      | @published published' =>
        have hpublished : published = published' := by
          unfold ImportSettings.publicationOf at hsame
          rw [hslug, htitle] at hsame
          exact hsame.call_eq (c := .publish (Naming.tableName layer.slug) layer.title
            settings.workspace settings.datastore) (by simp) (by simp)
        rw [hpublished, hslug, ImportSettings.entryFrom_congr hslug]

end

/-! ## Clearing a layer -/

/-- Clearing a layer clears it, or fails and leaves the tables. -/
theorem Work.ensures_clearImports (id : Uuid) (before : Records) :
    Procedure.Ensures Register.Does (fun _ last _ =>
      last.draft = none ∧ before.Retried id last.stored) ⟨before, none⟩ (clearImports id).run := by
  intro now r' hnow
  obtain rfl : r' = ⟨before, none⟩ := hnow
  intro x r'' hstep
  cases hstep with
  | faulted => exact ⟨rfl, .kept⟩
  | @executed _ v _ tables h =>
    change before.changeLayer id (.cleared now) = _ at h
    unfold Records.changeLayer at h
    split at h
    · cases h
    · cases h
      exact ⟨rfl, .cleared now⟩

/-- In a sound record store a stored layer is cleared. -/
theorem Work.ensures_clearImports_sound {id : Uuid} {before : Records} {layer : Layer}
    (hfound : before.layer? id = some layer) :
    Procedure.Ensures Register.Serves (fun answer _ _ => ∃ row, answer = .ok row) ⟨before, none⟩
      (clearImports id).run := by
  intro now r' hnow
  obtain rfl : r' = ⟨before, none⟩ := hnow.1
  intro x r'' hserves
  cases x with
  | ok row => exact ⟨row, rfl⟩
  | error f =>
    have hrefused : before.changeLayer id (.cleared now) = .error f := hserves.2
    rw [Records.changeLayer, hfound] at hrefused
    cases hrefused

/-! ## Importing twice -/

namespace Site

variable {σ : Type} {env : Surroundings σ} {settings : ImportSettings} {id : Uuid} {s again : Site σ}
  {o : ImportOutcome}

/-- A successful import leaves no open transaction, and attributes of which no two are for the same
field. -/
theorem exists_imported (hclosed : s.working = none)
    (hkeyed : Attribute.Keyed s.records.attributes)
    (hok : (s.run env (Work.importLayer settings id).run).1 = .ok o) :
    let once := (s.run env (Work.importLayer settings id).run).2
    once.working = none ∧ Attribute.Keyed once.records.attributes ∧
      ∃ layer t published, Imported settings id s.records o once.register
        (s.transcript env (Work.importLayer settings id).run) layer t published := by
  intro once
  have hend := s.attemptEnd_importLayer env settings id hclosed
  rw [hok] at hend
  obtain ⟨layer, t, published, himported⟩ := hend.imported hkeyed
  have hkept : once.register.Keyed := by
    have hbefore : s.register.Keyed := by
      rw [register, hclosed]
      exact ⟨hkeyed, hkeyed⟩
    exact run_keyed hbefore
  exact ⟨himported.draft, hkept.stored, layer, t, published, himported⟩

/-- In a sound record store an import that succeeded is repeated with the same answers, on tables
in which its layer may have been cleared, and has the same outcome. -/
theorem importLayer_again (hsound : env.IsSound) (hclosed : s.working = none)
    (hkeyed : Attribute.Keyed s.records.attributes)
    (hok : (s.run env (Work.importLayer settings id).run).1 = .ok o)
    (hclosed' : again.working = none)
    (hretried : (s.run env (Work.importLayer settings id).run).2.records.Retried id again.records)
    (hsame : SameAnswers (s.transcript env (Work.importLayer settings id).run)
      (again.transcript env (Work.importLayer settings id).run)) :
    (again.run env (Work.importLayer settings id).run).1 = .ok o := by
  obtain ⟨-, hkept, -⟩ := exists_imported hclosed hkeyed hok
  have hkeyed' : Attribute.Keyed again.records.attributes := by
    rw [hretried.rest.1]
    exact hkept
  have hfirst := s.soundEnd_importLayer hsound settings id hclosed hkeyed
  rw [hok] at hfirst
  exact hfirst.repeated hkept hretried
    (again.soundEnd_importLayer hsound settings id hclosed' hkeyed') hsame

end Site

/-- An import that succeeds is repeated with the same answers, at once or after its layer was
cleared. At once it leaves the tables as they are but for a time, whatever the record store
answers. After the layer was cleared it does so if it succeeds and the first import has published.
In a sound record store clearing and the second import succeed. -/
theorem reimport_sameButTime {σ : Type} (env : Surroundings σ) (settings : ImportSettings)
    (id : Uuid) (s : Site σ) (hclosed : s.working = none)
    (hkeyed : Attribute.Keyed s.records.attributes) {o : ImportOutcome}
    (hok : (s.run env (Work.importLayer settings id).run).1 = .ok o) :
    let once := (s.run env (Work.importLayer settings id).run).2
    let told := s.transcript env (Work.importLayer settings id).run
    let cleared := (once.run env (Work.clearImports id).run).2
    (SameAnswers told (once.transcript env (Work.importLayer settings id).run) →
      once.records.SameButTime id (once.run env (Work.importLayer settings id).run).2.records ∧
        (env.IsSound → (once.run env (Work.importLayer settings id).run).1 = .ok o)) ∧
    (SameAnswers told (cleared.transcript env (Work.importLayer settings id).run) →
      (o.isPublished = true → ∀ o',
        (cleared.run env (Work.importLayer settings id).run).1 = .ok o' →
          once.records.SameButTime id
            (cleared.run env (Work.importLayer settings id).run).2.records) ∧
        (env.IsSound → (∃ row, (once.run env (Work.clearImports id).run).1 = .ok row) ∧
          (cleared.run env (Work.importLayer settings id).run).1 = .ok o)) := by
  intro once told cleared
  obtain ⟨hopen, hkept, layer, t, published, himported⟩ := Site.exists_imported hclosed hkeyed hok
  have honce : once.register = ⟨once.records, none⟩ := by rw [Site.register, hopen]
  obtain ⟨hopen', hretried⟩ :
      cleared.working = none ∧ once.records.Retried id cleared.records := by
    have hclear := Work.ensures_clearImports id once.records
    rw [← honce] at hclear
    exact Site.run_ensures hclear
  constructor
  · intro hsame
    have hsecond := once.attemptEnd_importLayer env settings id hopen
    refine ⟨himported.sameButTime hsecond hkept hsame, ?_⟩
    intro hsound
    exact Site.importLayer_again hsound hclosed hkeyed hok hopen .kept hsame
  · intro hsame
    constructor
    · intro ho o' hok'
      have hsecond := cleared.attemptEnd_importLayer env settings id hopen'
      rw [hok'] at hsecond
      exact himported.sameButTime_of_isPublished ho hretried hsecond hkept hsame
    · intro hsound
      refine ⟨?_, Site.importLayer_again hsound hclosed hkeyed hok hopen' hretried hsame⟩
      obtain ⟨now, hrow⟩ := himported.tables.row
      have hclear := Work.ensures_clearImports_sound hrow
      rw [← show once.register = ⟨once.register.stored, none⟩ from honce] at hclear
      exact Site.run_serves hsound hclear

/-- The plain import, repeated at once and after its layer was cleared. -/
theorem reimport_sameButTime_plain :
    let s := Site.plain [.plain "roads"]
    let attempt := (Work.importLayer .plain ⟨1⟩).run
    let o := ImportOutcome.loaded "roads" 0 .multi (some "gis:roads")
    let once := (s.run .plain attempt).2
    let cleared := (once.run .plain (Work.clearImports ⟨1⟩).run).2
    (s.run .plain attempt).1 = .ok o ∧
      (once.records.SameButTime ⟨1⟩ (once.run .plain attempt).2.records ∧
        (once.run .plain attempt).1 = .ok o) ∧
      once.records.SameButTime ⟨1⟩ (cleared.run .plain attempt).2.records ∧
        (cleared.run .plain attempt).1 = .ok o := by
  intro s attempt o once cleared
  have hok : (s.run .plain attempt).1 = .ok o := by decide +kernel
  have hsound : Surroundings.plain.IsSound := fun _ _ => rfl
  have hsame : SameAnswers (s.transcript .plain attempt) (once.transcript .plain attempt) := by
    decide +kernel
  have hsame' : SameAnswers (s.transcript .plain attempt) (cleared.transcript .plain attempt) := by
    decide +kernel
  have hagain := reimport_sameButTime .plain .plain ⟨1⟩ s rfl ⟨.nil, .nil⟩ hok
  obtain ⟨htables, hsucceeds⟩ := hagain.1 hsame
  obtain ⟨htables', hsucceeds'⟩ := hagain.2 hsame'
  have hcleared := (hsucceeds' hsound).2
  exact ⟨hok, ⟨htables, hsucceeds hsound⟩, htables' rfl o hcleared, hcleared⟩

end LayerPress
