import LayerPress.Proofs.ImportTrace
import LayerPress.Proofs.OutcomeRecord
import LayerPress.Proofs.TextCuts

/-!
# A teardown undoes an import

An import that publishes writes the table and the catalog entry into the record of its layer, and
a teardown reads them there. A table name is read back as it is. An entry joins the workspace and
the table with a colon and is cut at its first one, so it is read back as it was written exactly
if neither part is empty and the workspace has no colon.

A teardown by such a record drops the table that the conversions were told to load and
unpublishes what was published, each once, in exactly these cases. Whatever the services answer
makes no difference to what a teardown calls.
-/

namespace LayerPress

/-! ## Entries written and read -/

/-- An entry is read as a workspace and a name if it joins them, neither is empty, and the
workspace has no colon. -/
theorem Naming.splitEntry_eq_some_iff {entry workspace name : String} :
    Naming.splitEntry entry = some (workspace, name) ↔
      entry = workspace ++ ":" ++ name ∧ name ≠ "" ∧ workspace ≠ "" ∧
        ':' ∉ workspace.toList := by
  have hjoined : entry = workspace ++ ":" ++ name ↔
      entry.toList = workspace.toList ++ ':' :: name.toList := by
    rw [← String.toList_inj]
    simp
  rw [hjoined, splitEntry]
  constructor
  · intro h
    split at h
    · next before after hsplit =>
      obtain ⟨hfree, hentry⟩ := Text.splitFirst_eq_some_iff.mp hsplit
      split at h
      · cases h
      · next hparts =>
        simp only [Option.some.injEq, Prod.mk.injEq] at h
        obtain ⟨rfl, rfl⟩ := h
        simp only [Bool.or_eq_true, List.isEmpty_iff, not_or] at hparts
        simp [hentry, hfree, hparts, ← String.toList_eq_nil_iff]
    · cases h
  · intro h
    obtain ⟨hentry, hname, hworkspace, hfree⟩ := h
    rw [Text.splitFirst_eq_some_iff.mpr ⟨hfree, hentry⟩]
    simp [hname, hworkspace]

/-! ## What a teardown calls -/

/-- The call that deletes an entry, if the entry names a workspace and a layer. -/
def ImportSettings.unpublicationOf? (settings : ImportSettings) (entry : String) :
    Option ServiceCall :=
  (Naming.splitEntry entry).map fun (workspace, name) =>
    .unpublish name workspace settings.datastore

/-- The call that drops a table, if the table has a name. -/
def ServiceCall.dropOf? (table : String) : Option ServiceCall :=
  if table = "" then none else some (.drop table)

namespace Work

variable {settings : ImportSettings} {r : Register}

/-- Deleting an entry calls the catalog once, if the entry names a workspace and a layer. -/
theorem ensures_deleteEntry_calls (entry : String) :
    Procedure.Ensures Register.Does (fun _ _ log =>
      callsOf log = (settings.unpublicationOf? entry).toList) r
      (stepFor (some entry) (deleteEntry settings)) := by
  by_cases hempty : entry = ""
  · subst hempty
    exact rfl
  · have hname : ¬entry.isEmpty = true := by simpa using hempty
    rw [stepFor, deleteEntry, ImportSettings.unpublicationOf?, if_neg hname]
    cases Naming.splitEntry entry with
    | none => exact rfl
    | some parts =>
      intro answer _ _
      cases answer with
      | ok => exact rfl
      | error => exact rfl

/-- Dropping a table calls the spatial database once, if the table has a name. -/
theorem ensures_dropTable_calls (table : String) :
    Procedure.Ensures Register.Does (fun _ _ log =>
      callsOf log = (ServiceCall.dropOf? table).toList) r (stepFor (some table) dropTable) := by
  by_cases hempty : table = ""
  · subst hempty
    exact rfl
  · have hname : ¬table.isEmpty = true := by simpa using hempty
    rw [stepFor, ServiceCall.dropOf?, if_neg hempty, if_neg hname]
    intro answer _ _
    cases answer with
    | ok => exact rfl
    | error => exact rfl

/-- A teardown calls for its entry and then for its table. -/
theorem ensures_runTeardown_calls (table entry : String) :
    Procedure.Ensures Register.Does (fun _ _ log => callsOf log =
      (settings.unpublicationOf? entry).toList ++ (ServiceCall.dropOf? table).toList) r
      (runTeardown settings (some table) (some entry)) := by
  apply (ensures_deleteEntry_calls entry).bind
  intro _ last log hlog
  apply (ensures_dropTable_calls table).bind
  intro _ final more hmore
  change callsOf (log ++ (more ++ [])) = _
  rw [List.append_nil, callsOf_append, hlog, hmore]

end Work

/-- The call drops a table. -/
def ServiceCall.isDrop : ServiceCall → Bool
  | .drop _ => true
  | _ => false

/-- The call takes a layer out of the catalog. -/
def ServiceCall.isUnpublication : ServiceCall → Bool
  | .unpublish .. => true
  | _ => false

/-- Among some calls are one that drops a table, that of the name, and one that takes a layer out
of the catalog, that of the name, the workspace and the store. -/
structure Undoes (calls : List ServiceCall) (table name workspace store : String) : Prop where
  drops : calls.filter (·.isDrop) = [.drop table]
  unpublications : calls.filter (·.isUnpublication) = [.unpublish name workspace store]

/-- The calls of a teardown undo the publication of a table exactly if the table has a name and
the entry is read as the table in the workspace. -/
theorem undoes_calls_iff (settings : ImportSettings) (table entry workspace : String) :
    Undoes ((settings.unpublicationOf? entry).toList ++ (ServiceCall.dropOf? table).toList)
        table table workspace settings.datastore ↔
      table ≠ "" ∧ Naming.splitEntry entry = some (workspace, table) := by
  have hdrops : ((settings.unpublicationOf? entry).toList ++
      (ServiceCall.dropOf? table).toList).filter (·.isDrop) =
        (ServiceCall.dropOf? table).toList := by
    unfold ImportSettings.unpublicationOf? ServiceCall.dropOf?
    cases Naming.splitEntry entry <;> split <;> rfl
  have hunpublications : ((settings.unpublicationOf? entry).toList ++
      (ServiceCall.dropOf? table).toList).filter (·.isUnpublication) =
        (settings.unpublicationOf? entry).toList := by
    unfold ImportSettings.unpublicationOf? ServiceCall.dropOf?
    cases Naming.splitEntry entry <;> split <;> rfl
  have hnamed : (ServiceCall.dropOf? table).toList = [.drop table] ↔ table ≠ "" := by
    unfold ServiceCall.dropOf?
    split <;> simp_all
  have hread : (settings.unpublicationOf? entry).toList =
      [.unpublish table workspace settings.datastore] ↔
        Naming.splitEntry entry = some (workspace, table) := by
    unfold ImportSettings.unpublicationOf?
    cases Naming.splitEntry entry with
    | none => simp
    | some parts =>
      obtain ⟨workspace', name⟩ := parts
      simp [and_comm]
  constructor
  · intro h
    exact ⟨hnamed.mp (hdrops ▸ h.drops), hread.mp (hunpublications ▸ h.unpublications)⟩
  · intro h
    exact ⟨hdrops.trans (hnamed.mpr h.1), hunpublications.trans (hread.mpr h.2)⟩

/-! ## What a published import made -/

/-- Among the calls of an import, every conversion is told to load one table, and every
publication is of one name in one workspace and one store. There is at least one of each. -/
structure Made (settings : ImportSettings) (calls : List ServiceCall)
    (table name workspace store : String) : Prop where
  converted : ∃ source, settings.conversionOf source table ∈ calls
  conversions : ∀ program args timeout, .run program args timeout ∈ calls →
    ∃ source, .run program args timeout = settings.conversionOf source table
  published : ∃ title, .publish name title workspace store ∈ calls
  publications : ∀ name' title' workspace' store',
    .publish name' title' workspace' store' ∈ calls →
      name' = name ∧ workspace' = workspace ∧ store' = store

/-- An attempt that ends with a published outcome has found a layer, to whose row it has added the
table and the entry. -/
theorem AttemptEnd.row_of_isPublished {settings : ImportSettings} {id : Uuid} {before : Records}
    {last : Register} {log : List (Exchange siteActions)} {o : ImportOutcome}
    (h : AttemptEnd settings id before (.ok o) last log) (hpublished : o.isPublished = true) :
    ∃ layer row, before.layer? id = some layer ∧ last.stored.layer? id = some row ∧
      row.tableName = some (Naming.tableName layer.slug) ∧
      row.catalogEntry = some (settings.entryOf layer) := by
  generalize hanswer : Except.ok o = answer at h
  cases h with
  | withdrawn f hlog => cases hanswer
  | @recorded layer t now tables _ publishing _ entry last hloaded _ _ hend =>
    cases hend with
    | unrecorded => cases hanswer
    | refused f =>
      cases hanswer
      cases hpublished
    | recorded action moment row =>
      exact ⟨layer, _, hloaded.found, Records.layer?_withEntry hloaded.layer? _ moment, rfl, rfl⟩

/-- Calls that are all among those of attempts for one table, of which one attempt makes all its
calls, make that table. -/
theorem made_of_attemptCalls {settings : ImportSettings} {table title : String} {source : Path}
    {calls : List ServiceCall}
    (hcalls : ∀ c ∈ calls, ∃ title source, c ∈ attemptCalls settings table title source)
    (hall : attemptCalls settings table title source ⊆ calls) :
    Made settings calls table table settings.workspace settings.datastore where
  converted := ⟨source, hall (by simp [attemptCalls])⟩
  conversions := by
    intro program args timeout hc
    obtain ⟨_, source, hc⟩ := hcalls _ hc
    exact ⟨source, by simpa [attemptCalls] using hc⟩
  published := ⟨title, hall (by simp [attemptCalls])⟩
  publications := by
    intro name title' workspace store hc
    obtain ⟨title'', source, hc⟩ := hcalls _ hc
    have hpublication : name = table ∧ title' = title'' ∧ workspace = settings.workspace ∧
        store = settings.datastore := by
      simpa [attemptCalls, ImportSettings.conversionOf] using hc
    exact ⟨hpublication.1, hpublication.2.2⟩

namespace Site

variable {σ : Type} {env : Surroundings σ} {settings : ImportSettings} {id : Uuid} {s : Site σ}
  {starts : List (Site σ)}

/-- Attempts at importing a layer all begin without an open transaction, and with the entry that
the layer had at first. -/
theorem Tries.keepsEntry (h : Tries env (Work.importLayer settings id) s starts)
    (hclosed : s.working = none) :
    ∀ t ∈ starts, t.working = none ∧ s.records.KeepsEntry id t.records := by
  refine h.invariant (I := fun t => t.working = none ∧ s.records.KeepsEntry id t.records)
    ⟨hclosed, .refl id s.records⟩ ?_
  intro t f ht hfailed
  have hend := t.attemptEnd_importLayer env settings id ht.1
  rw [hfailed] at hend
  obtain ⟨hdraft, hentry⟩ := hend.keepsEntry
  exact ⟨hdraft, ht.2.trans hentry⟩

/-- Attempts at importing a layer all show the itinerary of the table that the layer had at
first. -/
theorem Tries.attemptTrace (h : Tries env (Work.importLayer settings id) s starts)
    (hclosed : s.working = none) {former : Layer} (hformer : s.records.layer? id = some former) :
    ∀ t ∈ starts, AttemptTrace settings (Naming.tableName former.slug)
      (t.run env (Work.importLayer settings id).run).1
      (t.transcript env (Work.importLayer settings id).run) := by
  intro t ht
  obtain ⟨htClosed, hkept⟩ := h.keepsEntry hclosed t ht
  refine run_ensures (Work.ensures_importLayer_trace ?_)
  intro layer hlayer
  have hvisible : t.register.visible = t.records := by
    rw [register, htClosed]
    rfl
  rw [hvisible] at hlayer
  obtain ⟨former', hformer', hsame⟩ := hkept layer hlayer
  obtain rfl : former = former' := by simpa [hformer] using hformer'
  rw [hsame.slug]

/-- Attempts of which the final one succeeds have made the table that the layer had at first. -/
theorem Tries.made (h : Tries env (Work.importLayer settings id) s starts)
    (hclosed : s.working = none) {former : Layer} (hformer : s.records.layer? id = some former)
    {final : Site σ} (hfinal : final ∈ starts) {o : ImportOutcome}
    (hok : (final.run env (Work.importLayer settings id).run).1 = .ok o) :
    Made settings
      (starts.flatMap fun t => callsOf (t.transcript env (Work.importLayer settings id).run))
      (Naming.tableName former.slug) (Naming.tableName former.slug) settings.workspace
      settings.datastore := by
  have htraces := h.attemptTrace hclosed hformer
  obtain ⟨⟨title, source, hcourse⟩, -, -⟩ := htraces final hfinal
  rw [hok] at hcourse
  have hall : attemptCalls settings (Naming.tableName former.slug) title source ⊆
      starts.flatMap fun t => callsOf (t.transcript env (Work.importLayer settings id).run) := by
    intro c hc
    exact List.mem_flatMap.mpr ⟨final, hfinal, hcourse.callsOf_eq.symm ▸ hc⟩
  apply made_of_attemptCalls _ hall
  intro c hc
  obtain ⟨t, ht, hc⟩ := List.mem_flatMap.mp hc
  obtain ⟨⟨title, source, hcourse⟩, -, -⟩ := htraces t ht
  exact ⟨title, source, hcourse.callsOf_isPrefix.subset hc⟩

/-- The attempt with which a published import ends is published. -/
theorem exists_published {final : Site σ}
    (hrun : (s.queued env).run env (attempts settings id) =
      final.run env (Work.importLayer settings id).run)
    (hpublished : (s.run env (Work.runImport settings id)).1.isPublished = true) :
    ∃ o, (final.run env (Work.importLayer settings id).run).1 = .ok o ∧ o.isPublished = true := by
  rw [(s.runImport_eq env settings id).2.2, hrun] at hpublished
  generalize (final.run env (Work.importLayer settings id).run).1 = answer at hpublished
  cases answer with
  | ok o => exact ⟨o, rfl, hpublished⟩
  | error f => cases hpublished

/-- An import that publishes has found a layer. It has loaded and published the table of that
layer, and the row that it leaves names the table and its entry. -/
theorem made_of_isPublished (env : Surroundings σ) (settings : ImportSettings) (id : Uuid)
    (s : Site σ) (hclosed : s.working = none)
    (hpublished : (s.run env (Work.runImport settings id)).1.isPublished = true) :
    ∃ former row, s.records.layer? id = some former ∧
      (s.run env (Work.runImport settings id)).2.records.layer? id = some row ∧
      row.tableName = some (Naming.tableName former.slug) ∧
      row.catalogEntry = some (settings.entryOf former) ∧
      Made settings (callsOf (s.transcript env (Work.runImport settings id)))
        (Naming.tableName former.slug) (Naming.tableName former.slug) settings.workspace
        settings.datastore := by
  obtain ⟨starts, hrepeats⟩ :=
    exists_repeats env (Work.importLayer settings id) settings.maxRetries 0 (s.queued env)
  have hcalls := hrepeats.callsOf_runImport
  obtain ⟨htries, -, ⟨final, hfinal, hrun⟩, -, -⟩ := hrepeats
  have hmem : final ∈ starts := List.mem_of_getLast? hfinal
  obtain ⟨o, hok, ho⟩ := exists_published hrun hpublished
  -- The final attempt finds the row that the layer had at first, but for what imports record.
  obtain ⟨hfinalClosed, hkept⟩ := htries.keepsEntry hclosed final hmem
  have hend := final.attemptEnd_importLayer env settings id hfinalClosed
  rw [hok] at hend
  obtain ⟨layer, row, hlayer, hrow, htable, hentry⟩ := hend.row_of_isPublished ho
  obtain ⟨former, hformer, hsame⟩ := hkept layer hlayer
  have hrecord : (s.run env (Work.runImport settings id)).2.records.layer? id = some row := by
    rw [(s.runImport_eq env settings id).1, hrun]
    exact hrow
  have hmade := htries.made hclosed hformer hmem hok
  rw [← hcalls] at hmade
  refine ⟨former, row, hformer, hrecord, ?_, ?_, hmade⟩
  · rw [htable, hsame.slug]
  · rw [hentry, ImportSettings.entryOf, ImportSettings.entryOf, hsame.slug]

end Site

/-! ## The round trip -/

/-- After an import that published, a teardown by what the record then names drops the table that
every conversion was told to load and takes out of the catalog what was published, exactly if the
slug of the layer is not empty and the workspace is not empty and has no colon. -/
theorem undoes_made_iff {σ : Type} (env : Surroundings σ) (settings : ImportSettings) (id : Uuid)
    (s : Site σ) (hclosed : s.working = none)
    (hpublished : (s.run env (Work.runImport settings id)).1.isPublished = true) :
    ∃ former row table name workspace store, s.records.layer? id = some former ∧
      (s.run env (Work.runImport settings id)).2.records.layer? id = some row ∧
      Made settings (callsOf (s.transcript env (Work.runImport settings id))) table name workspace
        store ∧
      ∀ {τ : Type} (env' : Surroundings τ) (s' : Site τ),
        Undoes (callsOf (s'.transcript env'
            (Work.runTeardown settings row.tableName row.catalogEntry)))
          table name workspace store ↔
            former.slug ≠ "" ∧ settings.workspace ≠ "" ∧ ':' ∉ settings.workspace.toList := by
  obtain ⟨former, row, hformer, hrow, htable, hentry, hmade⟩ :=
    s.made_of_isPublished env settings id hclosed hpublished
  refine ⟨former, row, _, _, _, _, hformer, hrow, hmade, ?_⟩
  intro τ env' s'
  have hcalls : callsOf (s'.transcript env'
      (Work.runTeardown settings row.tableName row.catalogEntry)) =
        (settings.unpublicationOf? (settings.entryOf former)).toList ++
          (ServiceCall.dropOf? (Naming.tableName former.slug)).toList := by
    rw [htable, hentry]
    exact Site.run_ensures (Work.ensures_runTeardown_calls _ _)
  rw [hcalls, undoes_calls_iff, Naming.splitEntry_eq_some_iff,
    (Naming.tableName_eq_empty_iff former.slug).ne]
  constructor
  · intro h
    exact ⟨h.1, h.2.2.2⟩
  · intro h
    exact ⟨h.1, rfl, h⟩

/-- The plain import and its teardown. -/
theorem undoes_made_iff_plain :
    let s := Site.plain [.plain "roads"]
    s.working = none ∧ (s.run .plain (Work.runImport .plain ⟨1⟩)).1.isPublished = true ∧
      ∃ former row table name workspace store, s.records.layer? ⟨1⟩ = some former ∧
        (s.run .plain (Work.runImport .plain ⟨1⟩)).2.records.layer? ⟨1⟩ = some row ∧
        Made .plain (callsOf (s.transcript .plain (Work.runImport .plain ⟨1⟩))) table name
          workspace store ∧
        ∀ {τ : Type} (env' : Surroundings τ) (s' : Site τ),
          Undoes (callsOf (s'.transcript env'
              (Work.runTeardown .plain row.tableName row.catalogEntry)))
            table name workspace store ↔
              former.slug ≠ "" ∧ ImportSettings.plain.workspace ≠ "" ∧
                ':' ∉ ImportSettings.plain.workspace.toList :=
  have hpublished : ((Site.plain [.plain "roads"]).run .plain
      (Work.runImport .plain ⟨1⟩)).1.isPublished = true := by
    decide +kernel
  ⟨rfl, hpublished, undoes_made_iff .plain .plain ⟨1⟩ (Site.plain [.plain "roads"]) rfl hpublished⟩

end LayerPress
