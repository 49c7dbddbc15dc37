import LayerPress.Proofs.TeardownReversal

/-!
# The halves of a teardown

A teardown takes an entry out of the catalog and drops a table. A half is attempted exactly if its
name is there and not empty, and the catalog is asked exactly if the entry names a layer in a
workspace. What a half reports depends on its name and on the answer to its one call.

The catalog may be set apart from everything else outside, each with a state of its own. The half
for the entry then takes the catalog from one state to another whatever the others do, and the
half for the table does so with the others whatever the catalog does. Neither can keep the other
from its work.
-/

namespace LayerPress

/-! ## Entries that name a layer -/

/-- An entry names a layer in a workspace: it joins the two with its first colon, and neither is
empty. -/
structure Naming.Names (entry workspace name : String) : Prop where
  joined : entry = workspace ++ ":" ++ name
  name_ne : name ≠ ""
  workspace_ne : workspace ≠ ""
  first : ':' ∉ workspace.toList

/-- An entry is read as the workspace and the layer that it names. -/
theorem Naming.splitEntry_eq_some_iff_names {entry workspace name : String} :
    Naming.splitEntry entry = some (workspace, name) ↔ Naming.Names entry workspace name := by
  rw [Naming.splitEntry_eq_some_iff]
  constructor
  · intro h
    exact ⟨h.1, h.2.1, h.2.2.1, h.2.2.2⟩
  · intro h
    exact ⟨h.joined, h.name_ne, h.workspace_ne, h.first⟩

/-- An entry that cannot be read names no layer. -/
theorem Naming.not_names_of_splitEntry {entry : String} (h : Naming.splitEntry entry = none)
    (workspace name : String) : ¬Naming.Names entry workspace name := by
  intro hnames
  rw [← Naming.splitEntry_eq_some_iff_names, h] at hnames
  cases hnames

namespace Naming.Names

variable {entry workspace workspace' name name' : String}

/-- An entry that names a layer is not empty. -/
theorem entry_ne (h : Names entry workspace name) : entry ≠ "" := by
  intro hempty
  have hlength := congrArg String.toList (h.joined.symm.trans hempty)
  simp at hlength

/-- An entry names one layer in one workspace. -/
theorem unique (h : Names entry workspace name) (h' : Names entry workspace' name') :
    workspace = workspace' ∧ name = name' := by
  rw [← Naming.splitEntry_eq_some_iff_names] at h h'
  simpa using h.symm.trans h'

end Naming.Names

/-! ## How a half ends -/

/-- What a step reports when a system outside has answered. -/
def StepOutcome.ofAnswer (done : String) : Except Failure Unit → StepOutcome
  | .ok () => ⟨true, done⟩
  | .error f => ⟨false, f.message⟩

/-- How the half for an entry ends: not attempted, refused, or with the answer of the catalog. -/
inductive EntryEnd (settings : ImportSettings) :
    Option String → Option StepOutcome → List (Exchange siteActions) → Prop
  | absent {entry : Option String} (h : entry = none ∨ entry = some "") :
      EntryEnd settings entry none []
  | malformed {entry : String} (h : entry ≠ "")
      (hnames : ∀ workspace name, ¬Naming.Names entry workspace name) :
      EntryEnd settings (some entry) (some ⟨false, "Malformed catalog entry: " ++ entry⟩) []
  | answered {entry workspace name : String} (h : Naming.Names entry workspace name)
      (x : Except Failure Unit) :
      EntryEnd settings (some entry) (some (.ofAnswer ("Layer " ++ entry ++ " deleted") x))
        [⟨.call (.unpublish name workspace settings.datastore), x⟩]

/-- How the half for a table ends: not attempted, or with the answer of the database. -/
inductive TableEnd : Option String → Option StepOutcome → List (Exchange siteActions) → Prop
  | absent {table : Option String} (h : table = none ∨ table = some "") : TableEnd table none []
  | answered {table : String} (h : table ≠ "") (x : Except Failure Unit) :
      TableEnd (some table) (some (.ofAnswer ("Table " ++ table ++ " dropped") x))
        [⟨.call (.drop table), x⟩]

namespace Work

variable {settings : ImportSettings} {r : Register}

/-- Deleting an entry asks the catalog and reports what it answers. -/
theorem deleteEntry_eq {entry workspace name : String} (h : Naming.Names entry workspace name) :
    deleteEntry settings entry =
      call (.unpublish name workspace settings.datastore) >>= fun x =>
        pure (.ofAnswer ("Layer " ++ entry ++ " deleted") x) := by
  rw [deleteEntry, Naming.splitEntry_eq_some_iff_names.mpr h]
  apply bind_congr
  intro x
  cases x <;> rfl

/-- Dropping a table asks the database and reports what it answers. -/
theorem dropTable_eq (table : String) :
    dropTable table = call (.drop table) >>= fun x =>
      pure (.ofAnswer ("Table " ++ table ++ " dropped") x) := by
  apply bind_congr
  intro x
  cases x <;> rfl

/-- A step for a name that is not empty is attempted. -/
theorem stepFor_some {name : String} (h : name ≠ "") (step : String → Work StepOutcome) :
    stepFor (some name) step = (do return some (← step name)) := by
  rw [stepFor, if_neg (by simpa using h)]

/-- A step without a name is not attempted. -/
theorem stepFor_of_nameless {name : Option String} (h : name = none ∨ name = some "")
    (step : String → Work StepOutcome) : stepFor name step = pure none := by
  obtain rfl | rfl := h <;> rfl

/-- The half for an entry ends in one of its ways. -/
theorem ensures_entryEnd (entry : Option String) :
    Procedure.Ensures Register.Does (fun o _ log => EntryEnd settings entry o log) r
      (stepFor entry (deleteEntry settings)) := by
  by_cases habsent : entry = none ∨ entry = some ""
  · rw [stepFor_of_nameless habsent]
    exact .absent habsent
  · obtain ⟨e, rfl⟩ := Option.ne_none_iff_exists'.mp (not_or.mp habsent).1
    have hname : e ≠ "" := by simpa using habsent
    rw [stepFor_some hname]
    cases hsplit : Naming.splitEntry e with
    | none =>
      rw [deleteEntry, hsplit]
      exact .malformed hname (Naming.not_names_of_splitEntry hsplit)
    | some parts =>
      have hnames := Naming.splitEntry_eq_some_iff_names.mp hsplit
      rw [deleteEntry_eq hnames]
      intro x _ _
      exact .answered hnames x

/-- The half for a table ends in one of its ways. -/
theorem ensures_tableEnd (table : Option String) :
    Procedure.Ensures Register.Does (fun o _ log => TableEnd table o log) r
      (stepFor table dropTable) := by
  by_cases habsent : table = none ∨ table = some ""
  · rw [stepFor_of_nameless habsent]
    exact .absent habsent
  · obtain ⟨t, rfl⟩ := Option.ne_none_iff_exists'.mp (not_or.mp habsent).1
    have hname : t ≠ "" := by simpa using habsent
    rw [stepFor_some hname, dropTable_eq]
    intro x _ _
    exact .answered hname x

/-- A teardown is made of its two halves, that for the entry first. -/
theorem ensures_halves (table entry : Option String) :
    Procedure.Ensures Register.Does (fun o _ log => ∃ first second, log = first ++ second ∧
      EntryEnd settings entry o.catalog first ∧ TableEnd table o.table second) r
      (runTeardown settings table entry) := by
  apply (ensures_entryEnd entry).bind
  intro catalog _ first hfirst
  apply (ensures_tableEnd table).bind
  intro dropped _ second hsecond
  refine ⟨first, second, ?_, hfirst, hsecond⟩
  rw [List.append_nil]

end Work

/-! ## What the halves have called and report -/

/-- A service answered a call with a failure. -/
def Exchange.isRefusal : Exchange siteActions → Bool
  | ⟨.call _, .error _⟩ => true
  | _ => false

/-- A call that was not made was not answered. -/
theorem answersTo_eq_nil {c : ServiceCall} {log : List (Exchange siteActions)}
    (h : c ∉ callsOf log) : answersTo c log = [] := by
  apply List.filterMap_eq_nil_iff.mpr
  intro e he
  obtain ⟨action, x⟩ := e
  cases action with
  | call c' =>
    have hne : c' ≠ c := by
      rintro rfl
      exact h (mem_callsOf he)
    exact dif_neg hne
  | _ => rfl

/-- A call that was made once was answered once. -/
theorem answersTo_singleton (c : ServiceCall) (x : Except Failure c.Value) :
    answersTo c [⟨.call c, x⟩] = [x] := by
  simp [answersTo, Exchange.answerTo?]

/-- The call is one to the catalog. -/
def ServiceCall.isForCatalog : ServiceCall → Bool
  | .publish .. | .unpublish .. | .info .. => true
  | _ => false

section
variable {settings : ImportSettings} {table entry : Option String} {outcome : Option StepOutcome}
  {log : List (Exchange siteActions)}

namespace EntryEnd

/-- The half for an entry calls only the catalog. -/
theorem isForCatalog (h : EntryEnd settings entry outcome log) :
    ∀ c ∈ callsOf log, c.isForCatalog = true := by
  cases h with
  | absent | malformed => simp [callsOf]
  | answered => simp [callsOf, SiteAction.call?, ServiceCall.isForCatalog]

/-- An entry that names a layer is asked for once. -/
theorem callsOf_eq (h : EntryEnd settings entry outcome log) {e workspace name : String}
    (hentry : entry = some e) (hnames : Naming.Names e workspace name) :
    callsOf log = [.unpublish name workspace settings.datastore] := by
  subst hentry
  cases h with
  | absent h => simp [hnames.entry_ne] at h
  | malformed _ hnone => exact absurd hnames (hnone workspace name)
  | answered hnames' =>
    obtain ⟨rfl, rfl⟩ := hnames.unique hnames'
    rfl

/-- Without an entry that names a layer nothing is called. -/
theorem callsOf_eq_nil (h : EntryEnd settings entry outcome log)
    (hnone : ∀ e workspace name, entry = some e → ¬Naming.Names e workspace name) :
    callsOf log = [] := by
  cases h with
  | absent | malformed => rfl
  | answered hnames => exact absurd hnames (hnone _ _ _ rfl)

/-- The half for an entry is absent exactly without a name. -/
theorem eq_none_iff (h : EntryEnd settings entry outcome log) :
    outcome = none ↔ entry = none ∨ entry = some "" := by
  cases h with
  | absent h => simp [h]
  | malformed h => simp [h]
  | answered h => simp [h.entry_ne]

/-- An entry that is not empty and names no layer is refused. -/
theorem of_malformed (h : EntryEnd settings entry outcome log) {e : String}
    (hentry : entry = some e) (hname : e ≠ "")
    (hnone : ∀ workspace name, ¬Naming.Names e workspace name) :
    outcome = some ⟨false, "Malformed catalog entry: " ++ e⟩ := by
  subst hentry
  cases h with
  | absent h => simp [hname] at h
  | malformed => rfl
  | answered hnames => exact absurd hnames (hnone _ _)

/-- An entry that names a layer has the outcome that the catalog answers. -/
theorem of_names (h : EntryEnd settings entry outcome log) {e workspace name : String}
    (hentry : entry = some e) (hnames : Naming.Names e workspace name) :
    ∃ x : Except Failure Unit,
      log = [⟨.call (.unpublish name workspace settings.datastore), x⟩] ∧
      outcome = some (.ofAnswer ("Layer " ++ e ++ " deleted") x) := by
  subst hentry
  cases h with
  | absent h => simp [hnames.entry_ne] at h
  | malformed _ hnone => exact absurd hnames (hnone workspace name)
  | answered hnames' x =>
    obtain ⟨rfl, rfl⟩ := hnames.unique hnames'
    exact ⟨x, rfl, rfl⟩

/-- The half for an entry has not failed exactly if the entry is empty or names a layer, and no
call was refused. -/
theorem success_iff (h : EntryEnd settings entry outcome log) :
    (∀ step, outcome = some step → step.success = true) ↔
      (∀ e, entry = some e → e ≠ "" → ∃ workspace name, Naming.Names e workspace name) ∧
        ∀ x ∈ log, x.isRefusal = false := by
  cases h with
  | absent h => obtain rfl | rfl := h <;> simp
  | malformed h hnone => simp [h, hnone]
  | @answered e _ _ hnames x =>
    have hnamed : ∃ workspace name, Naming.Names e workspace name := ⟨_, _, hnames⟩
    cases x with
    | ok => simp [StepOutcome.ofAnswer, Exchange.isRefusal, hnamed]
    | error f => simp [StepOutcome.ofAnswer, Exchange.isRefusal]

end EntryEnd

namespace TableEnd

/-- The half for a table calls nothing of the catalog. -/
theorem isForCatalog (h : TableEnd table outcome log) :
    ∀ c ∈ callsOf log, c.isForCatalog = false := by
  cases h with
  | absent => simp [callsOf]
  | answered => simp [callsOf, SiteAction.call?, ServiceCall.isForCatalog]

/-- A table with a name is dropped once. -/
theorem callsOf_eq (h : TableEnd table outcome log) {t : String} (htable : table = some t)
    (hname : t ≠ "") : callsOf log = [.drop t] := by
  subst htable
  cases h with
  | absent h => simp [hname] at h
  | answered => rfl

/-- Without a name nothing is called. -/
theorem callsOf_eq_nil (h : TableEnd table outcome log) (hnone : table = none ∨ table = some "") :
    callsOf log = [] := by
  cases h with
  | absent => rfl
  | answered hname => simp [hname] at hnone

/-- The half for a table is absent exactly without a name. -/
theorem eq_none_iff (h : TableEnd table outcome log) :
    outcome = none ↔ table = none ∨ table = some "" := by
  cases h with
  | absent h => simp [h]
  | answered h => simp [h]

/-- A table with a name has the outcome that the database answers. -/
theorem of_name (h : TableEnd table outcome log) {t : String} (htable : table = some t)
    (hname : t ≠ "") :
    ∃ x : Except Failure Unit, log = [⟨.call (.drop t), x⟩] ∧
      outcome = some (.ofAnswer ("Table " ++ t ++ " dropped") x) := by
  subst htable
  cases h with
  | absent h => simp [hname] at h
  | answered _ x => exact ⟨x, rfl, rfl⟩

/-- The half for a table has not failed exactly if no call was refused. -/
theorem success_iff (h : TableEnd table outcome log) :
    (∀ step, outcome = some step → step.success = true) ↔ ∀ x ∈ log, x.isRefusal = false := by
  cases h with
  | absent => simp
  | answered _ x =>
    cases x with
    | ok => simp [StepOutcome.ofAnswer, Exchange.isRefusal]
    | error f => simp [StepOutcome.ofAnswer, Exchange.isRefusal]

end TableEnd

end

/-- A teardown succeeds exactly if neither of its halves has failed. -/
theorem TeardownOutcome.success_iff (o : TeardownOutcome) :
    o.success = true ↔ (∀ step, o.catalog = some step → step.success = true) ∧
      ∀ step, o.table = some step → step.success = true := by
  simp [success, steps]

/-- What a teardown has called, and what it reports about each half. -/
structure TeardownEnd (settings : ImportSettings) (table entry : Option String)
    (o : TeardownOutcome) (log : List (Exchange siteActions)) : Prop where
  unpublished : ∀ e workspace name, entry = some e → Naming.Names e workspace name →
    (callsOf log).filter (·.isForCatalog) = [.unpublish name workspace settings.datastore]
  notUnpublished : (∀ e workspace name, entry = some e → ¬Naming.Names e workspace name) →
    (callsOf log).filter (·.isForCatalog) = []
  dropped : ∀ t, table = some t → t ≠ "" → (callsOf log).filter (!·.isForCatalog) = [.drop t]
  notDropped : table = none ∨ table = some "" → (callsOf log).filter (!·.isForCatalog) = []
  catalog_eq_none_iff : o.catalog = none ↔ entry = none ∨ entry = some ""
  table_eq_none_iff : o.table = none ↔ table = none ∨ table = some ""
  malformed : ∀ e, entry = some e → e ≠ "" →
    (∀ workspace name, ¬Naming.Names e workspace name) →
      o.catalog = some ⟨false, "Malformed catalog entry: " ++ e⟩
  catalog_answered : ∀ e workspace name, entry = some e → Naming.Names e workspace name →
    ∃ x, answersTo (.unpublish name workspace settings.datastore) log = [x] ∧
      o.catalog = some (.ofAnswer ("Layer " ++ e ++ " deleted") x)
  table_answered : ∀ t, table = some t → t ≠ "" →
    ∃ x, answersTo (.drop t) log = [x] ∧
      o.table = some (.ofAnswer ("Table " ++ t ++ " dropped") x)
  success_iff : o.success = true ↔
    (∀ step, o.catalog = some step → step.success = true) ∧
      ∀ step, o.table = some step → step.success = true
  success_iff_accepted : o.success = true ↔
    (∀ e, entry = some e → e ≠ "" → ∃ workspace name, Naming.Names e workspace name) ∧
      ∀ x ∈ log, x.isRefusal = false

/-- A half for an entry and one for a table make a teardown. -/
theorem TeardownEnd.of_halves {settings : ImportSettings} {table entry : Option String}
    {o : TeardownOutcome} {first second : List (Exchange siteActions)}
    (hentry : EntryEnd settings entry o.catalog first) (htable : TableEnd table o.table second) :
    TeardownEnd settings table entry o (first ++ second) := by
  have hcatalog : (callsOf (first ++ second)).filter (·.isForCatalog) = callsOf first := by
    have hsecond : ∀ c ∈ callsOf second, ¬c.isForCatalog = true := by
      simpa using htable.isForCatalog
    rw [callsOf_append, List.filter_append, List.filter_eq_self.mpr hentry.isForCatalog,
      List.filter_eq_nil_iff.mpr hsecond, List.append_nil]
  have hothers : (callsOf (first ++ second)).filter (!·.isForCatalog) = callsOf second := by
    have hfirst : ∀ c ∈ callsOf first, ¬(!c.isForCatalog) = true := by
      simpa using hentry.isForCatalog
    have hsecond : ∀ c ∈ callsOf second, (!c.isForCatalog) = true := by
      simpa using htable.isForCatalog
    rw [callsOf_append, List.filter_append, List.filter_eq_nil_iff.mpr hfirst,
      List.filter_eq_self.mpr hsecond, List.nil_append]
  refine
    { unpublished := fun e workspace name he hnames => ?_
      notUnpublished := fun hnone => ?_
      dropped := fun t ht hname => ?_
      notDropped := fun hnone => ?_
      catalog_eq_none_iff := hentry.eq_none_iff
      table_eq_none_iff := htable.eq_none_iff
      malformed := fun e he hname hnone => hentry.of_malformed he hname hnone
      catalog_answered := fun e workspace name he hnames => ?_
      table_answered := fun t ht hname => ?_
      success_iff := o.success_iff
      success_iff_accepted := ?_ }
  · rw [hcatalog]
    exact hentry.callsOf_eq he hnames
  · rw [hcatalog]
    exact hentry.callsOf_eq_nil hnone
  · rw [hothers]
    exact htable.callsOf_eq ht hname
  · rw [hothers]
    exact htable.callsOf_eq_nil hnone
  · obtain ⟨x, hfirst, houtcome⟩ := hentry.of_names he hnames
    have hnot : ServiceCall.unpublish name workspace settings.datastore ∉ callsOf second :=
      fun hc => Bool.false_ne_true (htable.isForCatalog _ hc).symm
    refine ⟨x, ?_, houtcome⟩
    rw [answersTo_append, answersTo_eq_nil hnot, List.append_nil, hfirst, answersTo_singleton]
  · obtain ⟨x, hsecond, houtcome⟩ := htable.of_name ht hname
    have hnot : ServiceCall.drop t ∉ callsOf first :=
      fun hc => Bool.false_ne_true (hentry.isForCatalog _ hc)
    refine ⟨x, ?_, houtcome⟩
    rw [answersTo_append, answersTo_eq_nil hnot, List.nil_append, hsecond, answersTo_singleton]
  · rw [o.success_iff, hentry.success_iff, htable.success_iff, List.forall_mem_append, and_assoc]

/-- A teardown does what the names of its halves and the answers to their calls say. -/
theorem Site.teardownEnd {σ : Type} (env : Surroundings σ) (settings : ImportSettings)
    (table entry : Option String) (s : Site σ) :
    TeardownEnd settings table entry (s.run env (Work.runTeardown settings table entry)).1
      (s.transcript env (Work.runTeardown settings table entry)) := by
  have hends : ∃ first second,
      s.transcript env (Work.runTeardown settings table entry) = first ++ second ∧
        EntryEnd settings entry (s.run env (Work.runTeardown settings table entry)).1.catalog
          first ∧
        TableEnd table (s.run env (Work.runTeardown settings table entry)).1.table second :=
    run_ensures (Work.ensures_halves table entry)
  obtain ⟨first, second, hlog, hentry, htable⟩ := hends
  rw [hlog]
  exact .of_halves hentry htable

/-! ## The catalog apart from the others -/

/-- What one system outside answers to each call in each of its states, and its next state. -/
abbrev Party (κ : Type) := (c : ServiceCall) → κ → Except Failure c.Value × κ

/-- Surroundings of which the catalog is a party of its own: calls to the catalog see and change
its state alone, and everything else sees and changes the state of the others alone. -/
def Surroundings.withCatalog {κ τ : Type} (others : Surroundings τ) (catalog : Party κ) :
    Surroundings (κ × τ) where
  answer c s :=
    if c.isForCatalog then ((catalog c s.1).1, (catalog c s.1).2, s.2)
    else ((others.answer c s.2).1, s.1, (others.answer c s.2).2)
  recordFault a s := ((others.recordFault a s.2).1, s.1, (others.recordFault a s.2).2)
  now s := ((others.now s.2).1, s.1, (others.now s.2).2)

/-- The site with another state of what lies outside. -/
def Site.withOutside {σ τ : Type} (s : Site σ) (outside : τ) : Site τ :=
  { s with outside := outside }

namespace Work

/-- The half for an entry takes the catalog from one state to another with one outcome, whatever
the others do, and leaves the rest of the site. -/
theorem exists_run_entryHalf {κ : Type} (settings : ImportSettings) (entry : Option String)
    (catalog : Party κ) (k : κ) :
    ∃ (outcome : Option StepOutcome) (k' : κ), ∀ {τ υ : Type} (others : Surroundings τ) (t : τ)
      (s : Site υ),
      (s.withOutside (k, t)).run (others.withCatalog catalog)
          (stepFor entry (deleteEntry settings)) =
        (outcome, s.withOutside (k', t)) := by
  by_cases habsent : entry = none ∨ entry = some ""
  · rw [stepFor_of_nameless habsent]
    exact ⟨none, k, fun _ _ _ => rfl⟩
  · obtain ⟨e, rfl⟩ := Option.ne_none_iff_exists'.mp (not_or.mp habsent).1
    have hname : e ≠ "" := by simpa using habsent
    rw [stepFor_some hname]
    cases hsplit : Naming.splitEntry e with
    | none =>
      rw [deleteEntry, hsplit]
      exact ⟨_, k, fun _ _ _ => rfl⟩
    | some parts =>
      rw [deleteEntry_eq (Naming.splitEntry_eq_some_iff_names.mp hsplit)]
      exact ⟨some (.ofAnswer ("Layer " ++ e ++ " deleted")
          (catalog (.unpublish parts.2 parts.1 settings.datastore) k).1),
        (catalog (.unpublish parts.2 parts.1 settings.datastore) k).2, fun _ _ _ => rfl⟩

/-- The half for a table takes the others from one state to another with one outcome, whatever
the catalog does, and leaves the rest of the site. -/
theorem exists_run_tableHalf {τ : Type} (table : Option String) (others : Surroundings τ) (t : τ) :
    ∃ (outcome : Option StepOutcome) (t' : τ), ∀ {κ υ : Type} (catalog : Party κ) (k : κ)
      (s : Site υ),
      (s.withOutside (k, t)).run (others.withCatalog catalog) (stepFor table dropTable) =
        (outcome, s.withOutside (k, t')) := by
  by_cases habsent : table = none ∨ table = some ""
  · rw [stepFor_of_nameless habsent]
    exact ⟨none, t, fun _ _ _ => rfl⟩
  · obtain ⟨name, rfl⟩ := Option.ne_none_iff_exists'.mp (not_or.mp habsent).1
    have hname : name ≠ "" := by simpa using habsent
    rw [stepFor_some hname, dropTable_eq]
    exact ⟨some (.ofAnswer ("Table " ++ name ++ " dropped") (others.answer (.drop name) t).1),
      (others.answer (.drop name) t).2, fun _ _ _ => rfl⟩

end Work

/-- A teardown calls for each of its halves and reports about it as its name and the answer to
its own call say. With the catalog apart from the others, what the catalog reports and becomes is
the same whatever the others do, and so is what the others report and become whatever the catalog
does. -/
theorem teardown_halves (settings : ImportSettings) (table entry : Option String) :
    (∀ {σ : Type} (env : Surroundings σ) (s : Site σ),
      TeardownEnd settings table entry (s.run env (Work.runTeardown settings table entry)).1
        (s.transcript env (Work.runTeardown settings table entry))) ∧
    (∀ {κ τ τ' υ υ' : Type} (catalog : Party κ) (k : κ) (others : Surroundings τ)
      (others' : Surroundings τ') (t : τ) (t' : τ') (s : Site υ) (s' : Site υ'),
      let ended := (s.withOutside (k, t)).run (others.withCatalog catalog)
        (Work.runTeardown settings table entry)
      let ended' := (s'.withOutside (k, t')).run (others'.withCatalog catalog)
        (Work.runTeardown settings table entry)
      ended.1.catalog = ended'.1.catalog ∧ ended.2.outside.1 = ended'.2.outside.1) ∧
    (∀ {κ κ' τ υ υ' : Type} (catalog : Party κ) (catalog' : Party κ') (k : κ) (k' : κ')
      (others : Surroundings τ) (t : τ) (s : Site υ) (s' : Site υ'),
      let ended := (s.withOutside (k, t)).run (others.withCatalog catalog)
        (Work.runTeardown settings table entry)
      let ended' := (s'.withOutside (k', t)).run (others.withCatalog catalog')
        (Work.runTeardown settings table entry)
      ended.1.table = ended'.1.table ∧ ended.2.outside.2 = ended'.2.outside.2) := by
  refine ⟨fun env s => s.teardownEnd env settings table entry, ?_, ?_⟩
  · intro κ τ τ' υ υ' catalog k others others' t t' s s'
    obtain ⟨outcome, l, hentry⟩ := Work.exists_run_entryHalf settings entry catalog k
    obtain ⟨dropped, u, htable⟩ := Work.exists_run_tableHalf table others t
    obtain ⟨dropped', u', htable'⟩ := Work.exists_run_tableHalf table others' t'
    simp only [Work.runTeardown, Site.run_bind, hentry, htable, htable']
    exact ⟨rfl, rfl⟩
  · intro κ κ' τ υ υ' catalog catalog' k k' others t s s'
    obtain ⟨outcome, l, hentry⟩ := Work.exists_run_entryHalf settings entry catalog k
    obtain ⟨outcome', l', hentry'⟩ := Work.exists_run_entryHalf settings entry catalog' k'
    obtain ⟨dropped, u, htable⟩ := Work.exists_run_tableHalf table others t
    simp only [Work.runTeardown, Site.run_bind, hentry, hentry', htable]
    exact ⟨rfl, rfl⟩

end LayerPress
