import LayerPress.Proofs.ImportTrace
import LayerPress.Proofs.Plain
import LayerPress.Proofs.Redated
import LayerPress.Proofs.SameAnswers

/-!
# Metadata by best effort

An import asks for the extent and the columns of the table that it has loaded, and for a sample of
its geometry. It does not depend on being answered: no answer is as good as an empty one, whatever
the failure is, and no sample is as good as one of an unknown type.

So two imports in surroundings that differ in no more than this go the same way. They make as many
attempts, show the same stages and make the same calls, end with the same outcome, and leave the
same tables, but for the time if the clocks differ.
-/

namespace LayerPress

namespace Work

variable {σ α : Type} {T : Timestamp → Timestamp → Prop} {env env' : Surroundings σ}

/-! ## Loading and surveying -/

/-- The extent of a table is the same whether it is not answered or there is none. -/
theorem paired_tableExtent (h : env.Differ T env') (table : String) :
    Paired T env env' Eq (tableExtent table) (tableExtent table) := by
  refine (paired_call h (.extent table)).bind fun x y hxy => ?_
  cases x <;> cases y <;> cases hxy <;> exact paired_pure rfl

/-- The columns of a table are the same whether they are not answered or there are none. -/
theorem paired_tableColumns (h : env.Differ T env') (table : String) :
    Paired T env env' Eq (tableColumns table) (tableColumns table) := by
  refine (paired_call h (.columns table)).bind fun x y hxy => ?_
  cases x <;> cases y <;> cases hxy <;> exact paired_pure rfl

/-- The sample of a table is the same whether there is none or it is of the unknown type. -/
theorem settled_geometryType {table : String} {x y : Except Failure (Option String)}
    (h : (ServiceCall.geometryType table).settled y = (ServiceCall.geometryType table).settled x) :
    (∃ f, x = .error f ∧ y = .error f) ∨
      ∃ type type', x = .ok type ∧ y = .ok type' ∧
        type'.getD unknownGeometry = type.getD unknownGeometry := by
  have hread (z : Option String) : (ServiceCall.geometryType table).settled (.ok z) =
      .ok (some (z.getD unknownGeometry)) := by
    cases z <;> rfl
  cases x with
  | error f =>
    cases y with
    | error g => exact .inl ⟨f, rfl, h⟩
    | ok type' =>
      rw [hread] at h
      cases h
  | ok type =>
    cases y with
    | error g =>
      rw [hread] at h
      cases h
    | ok type' =>
      rw [hread, hread] at h
      exact .inr ⟨type, type', rfl, rfl, by simpa using h⟩

/-- A table is measured the same. -/
theorem paired_measure (h : env.Differ T env') (table : String) :
    Paired T env env' Eq (measure table) (measure table) := by
  refine (paired_call h (.count table)).bind fun x y (hxy : y = x) => ?_
  subst hxy
  cases y with
  | error f => exact paired_pure rfl
  | ok features =>
    refine (paired_call h (.geometryType table)).bind fun x y hxy => ?_
    obtain ⟨f, rfl, rfl⟩ | ⟨type, type', rfl, rfl, htype⟩ := settled_geometryType hxy
    · exact paired_pure rfl
    · exact paired_pure (by rw [htype])

/-- A source is loaded the same. -/
theorem paired_load (h : env.Differ T env') (spatial : SpatialSettings) (loader : LoaderSettings)
    (source : Path) (table : String) :
    Paired T env env' Eq (load spatial loader source table) (load spatial loader source table) := by
  refine (paired_call h _).bind fun x y (hxy : y = x) => ?_
  subst hxy
  cases y with
  | error f => exact paired_pure rfl
  | ok output =>
    dsimp only
    split
    · exact paired_measure h table
    · exact paired_pure rfl

/-- A source file is looked for the same. -/
theorem paired_sourcePath (settings : ImportSettings) (layer : Layer) :
    Paired T env env' (SameEnd Eq) (sourcePath settings layer).run
      (sourcePath settings layer).run := by
  rw [sourcePath_eq]
  cases settings.sourceOf? layer with
  | none => exact paired_pure (.error _)
  | some path =>
    have hask : Paired T env env' Eq (isFile path) (isFile path) := paired_ask (.isFile path) rfl
    refine hask.liftBind fun x y hxy => ?_
    subst hxy
    cases x with
    | true => exact paired_pure (.ok rfl)
    | false => exact paired_pure (.error _)

/-- A layer is surveyed the same. -/
theorem paired_survey (h : env.Differ T env') (settings : ImportSettings) (layer : Layer) :
    Paired T env env' (SameEnd Eq) (survey settings layer).run (survey settings layer).run := by
  refine (paired_sourcePath settings layer).bindExcept fun path _ hpath => ?_
  subst hpath
  refine (paired_note .resolving).liftBind fun _ _ _ => ?_
  have hresolve : Paired T env env' (SameEnd Eq) (resolve path).run (resolve path).run :=
    (paired_ask (.resolve path) rfl).mono fun x y hxy => hxy ▸ .refl x
  refine hresolve.bindExcept fun source _ hsource => ?_
  subst hsource
  refine (paired_note .loading).liftBind fun _ _ _ => ?_
  refine (paired_load h _ _ _ _).liftBind fun result _ hresult => ?_
  subst hresult
  have hrelease : Paired T env env' Eq (release source) (release source) :=
    paired_ask (.release source) rfl
  refine hrelease.liftBind fun _ _ _ => ?_
  cases result with
  | failed f => exact paired_pure (.error f)
  | loaded features type =>
    refine (paired_note .extracting).liftBind fun _ _ _ => ?_
    refine (paired_tableExtent h _).liftBind fun extent _ hextent => ?_
    refine (paired_tableColumns h _).liftBind fun columns _ hcolumns => ?_
    subst hextent hcolumns
    exact paired_pure (.ok rfl)

/-! ## Recording and publishing -/

/-- A column is shown the same. -/
theorem paired_upsertAttribute (h : env.Differ T env') (layer : Uuid) (column : Column)
    (place : Nat) :
    Paired T env env' (SameEnd Eq) (upsertAttribute layer column place).run
      (upsertAttribute layer column place).run := by
  refine (paired_execute_self h (Statement.paired_findAttribute layer column.name)).bindExcept
    fun found _ hfound => ?_
  subst hfound
  cases found with
  | some a => exact paired_execute_self h (Statement.paired_showAttribute _ _ _)
  | none => exact paired_execute_self h (Statement.paired_insertAttribute _)

/-- Columns are shown the same. -/
theorem paired_upsertAttributes (h : env.Differ T env') (layer : Uuid) (place : Nat)
    (columns : List Column) :
    Paired T env env' (SameEnd Eq) (upsertAttributes layer place columns).run
      (upsertAttributes layer place columns).run := by
  induction columns generalizing place with
  | nil => exact paired_pure (.ok rfl)
  | cons column rest ih =>
    exact (paired_upsertAttribute h layer column place).bindExcept fun _ _ _ => ih (place + 1)

/-- A load is recorded the same but for the time. -/
theorem paired_recordLoad (h : env.Differ T env') (id : Uuid) (table : String) (features : Int)
    (kind : Naming.GeometryKind) (extent : Option BoundingBox) (columns : List Column) :
    Paired T env env' (SameEnd (Layer.Redated T))
      (recordLoad id table features kind extent columns).run
      (recordLoad id table features kind extent columns).run := by
  refine Paired.inTransaction h ?_
  refine (paired_now h).liftBind fun moment moment' hmoment => ?_
  have hchange : LayerChange.Redated T (.loaded table features kind extent moment)
      (.loaded table features kind extent moment') := .loaded _ _ _ _ hmoment
  refine (paired_execute h (.changed id hchange)
    (Statement.paired_changeLayer id hchange)).bindExcept fun row row' hrow => ?_
  refine (paired_note .creatingAttributes).liftBind fun _ _ _ => ?_
  rw [hrow.id_eq]
  exact (paired_upsertAttributes h row.id 0 columns).bindExcept fun _ _ _ =>
    paired_pure (.ok hrow)

/-- A table is published the same. -/
theorem paired_publish (h : env.Differ T env') (settings : ImportSettings) {row row' : Layer}
    (hrow : row.Redated T row') (table : String) :
    Paired T env env' (SameEnd Eq) (publish settings row table).run
      (publish settings row' table).run := by
  have htitle : row'.title = row.title := by rw [hrow.row]
  unfold publish
  rw [htitle, hrow.id_eq]
  refine (paired_call h _).liftBind fun x y (hxy : y = x) => ?_
  subst hxy
  cases y with
  | error f => exact paired_pure (.ok rfl)
  | ok action =>
    refine (paired_now h).liftBind fun moment moment' hmoment => ?_
    have hchange : LayerChange.Redated T
        (.published (settings.workspace ++ ":" ++ table) moment)
        (.published (settings.workspace ++ ":" ++ table) moment') := .published _ hmoment
    exact (paired_execute h (.changed row.id hchange)
      (Statement.paired_changeLayer row.id hchange)).bindExcept fun _ _ _ => paired_pure (.ok rfl)

/-- An attempt to import a layer goes the same way. -/
theorem paired_importLayer (h : env.Differ T env') (settings : ImportSettings) (id : Uuid) :
    Paired T env env' Eq (importLayer settings id).run (importLayer settings id).run := by
  refine Paired.mono (B := SameEnd Eq) ?_ fun x y hxy => hxy.eq.symm
  rw [importLayer_eq]
  refine (paired_execute_self h (Statement.paired_findLayer id)).bindExcept
    fun found found' hfound => ?_
  cases hfound with
  | none => exact paired_pure (.error _)
  | @some layer layer' hlayer =>
    have hslug : layer'.slug = layer.slug := by rw [hlayer.row]
    have hsource : layer'.sourceFile = layer.sourceFile := by rw [hlayer.row]
    dsimp only
    rw [survey_congr hslug hsource, hslug]
    refine (paired_survey h settings layer).bindExcept fun t _ ht => ?_
    subst ht
    refine (paired_note .updatingRecord).liftBind fun _ _ _ => ?_
    refine (paired_recordLoad h _ _ _ _ _ _).bindExcept fun row row' hrow => ?_
    refine (paired_note .publishing).liftBind fun _ _ _ => ?_
    refine (paired_publish h settings hrow _).bindExcept fun entry _ hentry => ?_
    subst hentry
    exact (paired_note .done).liftBind fun _ _ _ => paired_pure (.ok rfl)

/-- Attempts that go the same way are repeated the same way. -/
theorem Paired.retrying {attempt : Attempt α}
    (hattempt : Paired T env env' Eq attempt.run attempt.run) (left made : Nat) :
    Paired T env env' Eq (retrying attempt left made) (retrying attempt left made) := by
  induction left generalizing made with
  | zero => exact hattempt
  | succ left ih =>
    refine hattempt.bind fun answer _ hanswer => ?_
    subst hanswer
    cases answer with
    | ok a => exact paired_pure rfl
    | error f =>
      dsimp only
      split
      · have hpause : Paired T env env' Eq (pause (made + 1)) (pause (made + 1)) :=
          paired_ask (.pause (made + 1)) rfl
        exact hpause.bind fun _ _ _ => ih (made + 1)
      · exact paired_pure rfl

/-- An import goes the same way. -/
theorem paired_runImport (h : env.Differ T env') (settings : ImportSettings) (id : Uuid) :
    Paired T env env' Eq (runImport settings id) (runImport settings id) := by
  refine (paired_note .queued).bind fun _ _ _ => ?_
  refine ((paired_importLayer h settings id).retrying settings.maxRetries 0).bind
    fun answer _ hanswer => ?_
  subst hanswer
  cases answer with
  | ok o => exact paired_pure rfl
  | error f => exact paired_pure rfl

end Work

namespace Site

variable {σ α : Type} {T : Timestamp → Timestamp → Prop} {env env' : Surroundings σ}

/-- Attempts that go the same way are repeated as often, each from a site that is the same but for
times. -/
theorem exists_repeats_redated {attempt : Attempt α}
    (hattempt : Work.Paired T env env' Eq attempt.run attempt.run) (left made : Nat)
    {s s' : Site σ} (hs : s.Redated T s') :
    ∃ starts starts', Repeats env attempt left made s starts ∧
      Repeats env' attempt left made s' starts' ∧ List.Forall₂ (Site.Redated T) starts starts' := by
  have hlone : List.Forall₂ (Site.Redated T) [s] [s'] := .cons hs .nil
  induction left generalizing made s s' with
  | zero => exact ⟨[s], [s'], .single fun _ _ _ => rfl, .single fun _ _ _ => rfl, hlone⟩
  | succ left ih =>
    obtain ⟨hanswer, hlast, -⟩ := hattempt s s' hs
    by_cases hagain : ∃ f, (s.run env attempt.run).1 = .error f ∧ f.isRetryable = true
    · obtain ⟨f, hfailed, hworth⟩ := hagain
      obtain ⟨starts, starts', hrest, hrest', hpairs⟩ := ih (made + 1) hlast (.cons hlast .nil)
      have hfailed' := hanswer.symm.trans hfailed
      exact ⟨s :: starts, s' :: starts', hrest.cons hfailed hworth, hrest'.cons hfailed' hworth,
        .cons hs hpairs⟩
    · refine ⟨[s], [s'], .single fun f hf hworth => absurd ⟨f, hf, hworth⟩ hagain,
        .single fun f hf hworth => absurd ⟨f, ?_, hworth⟩ hagain, hlone⟩
      rw [hanswer]
      exact hf

end Site

/-! ## Imports -/

/-- Two imports of a layer went the same way: with the same outcome, the same stages and calls, as
many attempts, and the same tables but for the time. -/
structure SameImport {σ : Type} (T : Timestamp → Timestamp → Prop) (env env' : Surroundings σ)
    (settings : ImportSettings) (id : Uuid) (s : Site σ) : Prop where
  outcome : (s.run env' (Work.runImport settings id)).1 = (s.run env (Work.runImport settings id)).1
  stages : (s.run env' (Work.runImport settings id)).2.stages =
    (s.run env (Work.runImport settings id)).2.stages
  calls : callsOf (s.transcript env' (Work.runImport settings id)) =
    callsOf (s.transcript env (Work.runImport settings id))
  outward : outward (s.transcript env' (Work.runImport settings id)) =
    outward (s.transcript env (Work.runImport settings id))
  attempts : ∃ starts starts',
    Site.Repeats env (Work.importLayer settings id) settings.maxRetries 0 (s.queued env) starts ∧
    Site.Repeats env' (Work.importLayer settings id) settings.maxRetries 0 (s.queued env')
      starts' ∧
    starts'.length = starts.length
  records : (s.run env (Work.runImport settings id)).2.records.Redated T
    (s.run env' (Work.runImport settings id)).2.records

/-- Imports in surroundings that differ in no more than metadata and the time go the same way. -/
theorem sameImport_of_differ {σ : Type} {T : Timestamp → Timestamp → Prop}
    (hT : ∀ moment, T moment moment) {env env' : Surroundings σ} (h : env.Differ T env')
    (settings : ImportSettings) (id : Uuid) (s : Site σ) : SameImport T env env' settings id s := by
  obtain ⟨houtcome, hsite, hseen⟩ := Work.paired_runImport h settings id s s (.refl hT s)
  obtain ⟨starts, starts', hrepeats, hrepeats', hpairs⟩ :=
    Site.exists_repeats_redated (Work.paired_importLayer h settings id) settings.maxRetries 0
      (.refl hT (s.queued env))
  have hcalls : callsOf (s.transcript env' (Work.runImport settings id)) =
      callsOf (s.transcript env (Work.runImport settings id)) := by
    rw [callsOf, callsOf, hseen]
  exact ⟨houtcome.symm, hsite.stages, hcalls, hseen,
    ⟨starts, starts', hrepeats, hrepeats', hpairs.length_eq.symm⟩, hsite.records⟩

namespace Surroundings

variable {σ : Type}

/-- The surroundings with no extent, no columns and an unknown type in place of metadata that are
not answered. -/
def settled (env : Surroundings σ) : Surroundings σ :=
  { env with answer := fun c o => (c.settled (env.answer c o).1, (env.answer c o).2) }

/-- What an import takes from an answer it takes as it is. -/
theorem settled_settled (c : ServiceCall) (x : Except Failure c.Value) :
    c.settled (c.settled x) = c.settled x := by
  cases c with
  | extent | columns => cases x <;> rfl
  | geometryType =>
    cases x with
    | error => rfl
    | ok type => cases type <;> rfl
  | _ => rfl

/-- Replacing metadata that are not answered makes no more difference than that. -/
theorem differ_settled (env : Surroundings σ) : env.Differ Eq env.settled where
  answer c o := settled_settled c _
  afterAnswer _ _ := rfl
  recordFault a a' o h := by rw [h.eq]; rfl
  now _ := rfl
  afterNow _ := rfl

end Surroundings

/-- Metadata are asked for by best effort. Where they are not answered, an import is the very same
as if there were no extent, no columns and a sample of an unknown type. So are imports that differ
in some of this only, but for the time if their clocks differ. -/
theorem metadata_bestEffort {σ : Type} (env : Surroundings σ) (settings : ImportSettings)
    (id : Uuid) (s : Site σ) :
    (s.run env.settled (Work.runImport settings id) = s.run env (Work.runImport settings id) ∧
      SameImport Eq env env.settled settings id s) ∧
    ∀ (T : Timestamp → Timestamp → Prop) (env' : Surroundings σ), (∀ moment, T moment moment) →
      env.Differ T env' → SameImport T env env' settings id s := by
  refine ⟨⟨?_, sameImport_of_differ (fun _ => rfl) env.differ_settled settings id s⟩,
    fun T env' hT h => sameImport_of_differ hT h settings id s⟩
  obtain ⟨houtcome, hsite, -⟩ := Work.paired_runImport env.differ_settled settings id s s
    (.refl (fun _ => rfl) s)
  exact Prod.ext houtcome.symm hsite.eq

end LayerPress
