import LayerPress.Proofs.ImportProtocol
import LayerPress.Proofs.Ledger
import LayerPress.Proofs.Watch

/-!
# Watching the work of jobs

A job is watched by its entry in the ledger together with how far its work has come: an import by
its phase, a teardown by whether it has attempted to drop its table. Imports touch nothing but
to make it, and teardowns nothing but to unmake it.
-/

namespace LayerPress

/-! ## Work inside a job -/

/-- Admits of a job's task what a monitor admits of its work; the job may end as allowed. -/
def Monitor.inJob {M : Type} (A : Monitor siteActions M) (mayEnd : JobStatus → M → Prop) :
    Monitor taskActions M where
  admits m a :=
    match a with
    | .site a => A.admits m a
    | .endJob _ status _ _ => mayEnd status m
    | .takePermit | .givePermit | .announce .. => True
    | _ => False
  after m a x :=
    match a, x with
    | .site a, x => A.after m a x
    | _, _ => m

section
variable {M α : Type} {A : Monitor siteActions M} {mayEnd : JobStatus → M → Prop}
  {Q : α → M → Prop} {m : M} {w : Work α}

/-- Work with reports passes inside a job when noted stages change nothing. -/
theorem passes_reporting_inJob (hnote : ∀ m stage, A.after m (.note stage) () = m) (channel : Nat)
    (h : A.Passes Q m w) : (A.inJob mayEnd).Passes Q m (w.expand (Task.reporting channel)) := by
  refine Monitor.Passes.expand (I := (· = ·)) h rfl ?_ fun _ _ _ hlast hQ => hlast ▸ hQ
  rintro m _ a rfl hadmits
  cases a with
  | note stage => exact ⟨trivial, fun _ => hnote m stage⟩
  | _ => exact ⟨hadmits, fun x => rfl⟩

/-- The task of a job passes when its work does and leaves the job free to end as it concludes. -/
theorem passes_inJob (hnote : ∀ m stage, A.after m (.note stage) () = m) (h : A.Passes Q m w)
    (success : α → Bool)
    (hend : ∀ o last, Q o last → mayEnd (if success o then .completed else .failed) last)
    (id : JobId) (channel : Nat) (message : α → String) (data : α → Json) :
    (A.inJob mayEnd).Passes (fun _ last => ∃ o, Q o last) m (do
      Task.takePermit
      let outcome ← w.expand (Task.reporting channel)
      Task.conclude id channel (success outcome) (message outcome) (data outcome)
      Task.givePermit) := by
  refine ⟨trivial, fun _ => ?_⟩
  refine (passes_reporting_inJob hnote channel h).bind fun outcome last hlast => ?_
  have hmay := hend outcome last hlast
  unfold Task.conclude
  cases hsuccess : success outcome with
  | true =>
    rw [hsuccess] at hmay
    exact ⟨trivial, fun _ => ⟨trivial, fun _ => ⟨hmay, fun _ => ⟨trivial, fun _ => ⟨outcome, hlast⟩⟩⟩⟩⟩
  | false =>
    rw [hsuccess] at hmay
    exact ⟨trivial, fun _ => ⟨hmay, fun _ => ⟨trivial, fun _ => ⟨outcome, hlast⟩⟩⟩⟩

end

/-! ## Teardowns -/

/-- What a teardown may do: delete entries, and once drop the table it names, if that name is not
empty. Its state tells whether it has attempted the drop. -/
def teardownMonitor (table : Option String) : Monitor siteActions Bool where
  admits attempted a :=
    match a with
    | .call (.drop name) => table = some name ∧ name ≠ "" ∧ attempted = false
    | .call (.unpublish ..) => True
    | _ => False
  after attempted a _ :=
    match a with
    | .call (.drop _) => true
    | _ => attempted

/-- Deleting the entry of a teardown attempts no drop. -/
theorem passes_deleteEntry (settings : ImportSettings) (table entry : Option String) :
    (teardownMonitor table).Passes (fun _ attempted => attempted = false) false
      (Work.stepFor entry (Work.deleteEntry settings)) := by
  cases entry with
  | none => exact rfl
  | some entry =>
    unfold Work.stepFor
    dsimp only
    split
    · exact rfl
    · unfold Work.deleteEntry
      cases Naming.splitEntry entry with
      | none => exact rfl
      | some parts => exact ⟨trivial, fun answer => by cases answer <;> exact rfl⟩

/-- Dropping the table of a teardown attempts it when the table has a name. -/
theorem passes_dropTable (table : Option String) :
    (teardownMonitor table).Passes (fun _ attempted => hasText table → attempted) false
      (Work.stepFor table Work.dropTable) := by
  cases table with
  | none => exact nofun
  | some name =>
    unfold Work.stepFor
    dsimp only
    split
    · next hempty => exact fun htext => by simp [hasText, hempty] at htext
    · next hname =>
      have hnonempty : name ≠ "" := by simpa using hname
      exact ⟨⟨rfl, hnonempty, rfl⟩, fun answer => by cases answer <;> exact fun _ => rfl⟩

/-- A teardown attempts to drop its table when that has a name. -/
theorem passes_runTeardown (settings : ImportSettings) (table entry : Option String) :
    (teardownMonitor table).Passes (fun _ attempted => hasText table → attempted) false
      (Work.runTeardown settings table entry) := by
  refine (passes_deleteEntry settings table entry).bind fun _ attempted hattempted => ?_
  subst hattempted
  exact (passes_dropTable table).bind fun _ _ h => h

/-! ## The work of any job -/

/-- How far the work of a job has come. -/
inductive WorkPhase where
  | importing (layer : Uuid) (phase : ImportPhase)
  | tearing (table : Option String) (attempted : Bool)
  deriving DecidableEq, Repr

/-- What is watched of a job. -/
structure JobState where
  entry : JobEntry
  work : WorkPhase
  deriving DecidableEq, Repr

namespace JobState

/-- The job tears something down. -/
def isTeardown (s : JobState) : Bool :=
  match s.work with
  | .importing .. => false
  | .tearing .. => true

/-- The job imports a layer and has not ended. -/
def isOpenImport (s : JobState) : Bool :=
  !s.isTeardown && s.entry.stage.isOpen

end JobState

/-- An import may end outside its transaction, and be completed with its table recorded. -/
def ImportPhase.mayEnd (status : JobStatus) (phase : ImportPhase) : Prop :=
  phase.isClosed ∧ (status = .completed → phase.isRecorded)

/-- A job keeps to its own order and to that of its work. -/
def jobMonitor (settings : ImportSettings) : Monitor taskActions JobState where
  admits s a :=
    ledgerMonitor.admits s.entry a ∧
      match s.work with
      | .importing layer phase =>
        ((importMonitor settings layer).inJob ImportPhase.mayEnd).admits phase a
      | .tearing table attempted =>
        ((teardownMonitor table).inJob fun _ attempted => hasText table → attempted).admits
          attempted a
  after s a x :=
    { entry := s.entry.after a
      work :=
        match s.work with
        | .importing layer phase =>
          .importing layer (((importMonitor settings layer).inJob ImportPhase.mayEnd).after phase a x)
        | .tearing table attempted =>
          .tearing table (((teardownMonitor table).inJob fun _ attempted =>
            hasText table → attempted).after attempted a x) }

/-- The state of a job at its end: it has given its permit back, and if it is a teardown it has
attempted to drop its table. -/
def JobState.HasEnded (s : JobState) : Prop :=
  s.entry.stage = .released ∧
    ∀ table attempted, s.work = .tearing table attempted → hasText table → attempted

/-- An import that passes as a job and as an import passes as both. -/
theorem passes_importing {settings : ImportSettings} {layer : Uuid} {e : JobEntry}
    {phase : ImportPhase} {t : Task Unit} {Q : Unit → ImportPhase → Prop} (hjob : JobTask e t)
    (hwork : ((importMonitor settings layer).inJob ImportPhase.mayEnd).Passes Q phase t) :
    (jobMonitor settings).Passes (fun _ last => last.HasEnded) ⟨e, .importing layer phase⟩ t := by
  induction t generalizing e phase with
  | result a => exact ⟨hjob, nofun⟩
  | perform a next ih => exact ⟨⟨hjob.1, hwork.1⟩, fun x => ih x (hjob.2 x) (hwork.2 x)⟩

/-- A teardown that passes as a job and as a teardown passes as both. -/
theorem passes_tearing {settings : ImportSettings} {table : Option String} {e : JobEntry}
    {attempted : Bool} {t : Task Unit} (hjob : JobTask e t)
    (hwork : ((teardownMonitor table).inJob fun _ attempted => hasText table → attempted).Passes
      (fun _ last => hasText table → last) attempted t) :
    (jobMonitor settings).Passes (fun _ last => last.HasEnded) ⟨e, .tearing table attempted⟩ t := by
  induction t generalizing e attempted with
  | result a =>
    refine ⟨hjob, ?_⟩
    rintro _ _ ⟨⟩
    exact hwork
  | perform a next ih => exact ⟨⟨hjob.1, hwork.1⟩, fun x => ih x (hjob.2 x) (hwork.2 x)⟩

/-- The first state of a queued job. -/
def Deed.newJob? : Deed → Option JobState
  | ⟨_, .queueImport layer, .ok id⟩ => some ⟨⟨id, some layer, .waiting⟩, .importing layer .seeking⟩
  | ⟨_, .queueTeardown table _, id⟩ => some ⟨⟨id, none, .waiting⟩, .tearing table false⟩
  | _ => none

/-- Jobs are watched by their work, and requests by a monitor of their own. -/
def jobWatch {R : Type} (settings : ImportSettings) (client : Monitor taskActions R) :
    Watch JobState R where
  job := jobMonitor settings
  client := client
  opening := Deed.newJob?

section
variable {settings : ImportSettings} {job : JobState} {a : TaskAction}

/-- No action changes what kind of work a job does. -/
theorem JobState.isTeardown_after (settings : ImportSettings) (job : JobState) (a : TaskAction)
    (x : a.Answer) : ((jobMonitor settings).after job a x).isTeardown = job.isTeardown := by
  obtain ⟨e, work⟩ := job
  cases work <;> rfl

/-- A later state of a job beside an earlier one: the same kind of work, and not opened since. -/
structure JobState.Follows (later earlier : JobState) : Prop where
  isTeardown : later.isTeardown = earlier.isTeardown
  isOpen : later.entry.stage.isOpen = true → earlier.entry.stage.isOpen = true
  importing : ∀ layer phase, later.work = .importing layer phase →
    ∃ before, earlier.work = .importing layer before
  tearing : ∀ table attempted, later.work = .tearing table attempted →
    ∃ before, earlier.work = .tearing table before

/-- Every state follows itself. -/
theorem JobState.Follows.refl (job : JobState) : job.Follows job :=
  ⟨rfl, id, fun _ phase h => ⟨phase, h⟩, fun _ attempted h => ⟨attempted, h⟩⟩

/-- The state after an admitted action follows the one before. -/
theorem JobState.follows_after (hadmits : (jobMonitor settings).admits job a) (x : a.Answer) :
    ((jobMonitor settings).after job a x).Follows job where
  isTeardown := JobState.isTeardown_after settings job a x
  isOpen := by
    obtain ⟨hledger, -⟩ := hadmits
    intro hopen
    cases a with
    | site | announce =>
      have hworking : job.entry.stage = .working := hledger
      rw [hworking]
      rfl
    | takePermit =>
      have hwaiting : job.entry.stage = .waiting := hledger
      rw [hwaiting]
      rfl
    | endJob id status result error =>
      rw [hledger.1]
      rfl
    | givePermit => cases hopen
    | _ => exact hledger.elim
  importing := by
    intro layer phase h
    obtain ⟨e, work⟩ := job
    cases work with
    | importing layer' before => cases h; exact ⟨before, rfl⟩
    | tearing => cases h
  tearing := by
    intro table attempted h
    obtain ⟨e, work⟩ := job
    cases work with
    | importing => cases h
    | tearing table' before => cases h; exact ⟨before, rfl⟩

/-- An open import is one in every earlier state. -/
theorem JobState.Follows.isOpenImport {later earlier : JobState} (h : later.Follows earlier)
    (hopen : later.isOpenImport = true) : earlier.isOpenImport = true := by
  unfold JobState.isOpenImport at hopen ⊢
  rw [Bool.and_eq_true] at hopen ⊢
  exact ⟨h.isTeardown ▸ hopen.1, h.isOpen hopen.2⟩

/-- The task of a job queues none. -/
theorem newJob?_eq_none_of_job {e : JobEntry} {who : Actor} {x : a.Answer}
    (h : ledgerMonitor.admits e a) : Deed.newJob? ⟨who, a, x⟩ = none := by
  cases a with
  | queueImport | queueTeardown => exact h.elim
  | _ => rfl

end

section
variable {R σ : Type}

/-- Queued jobs begin where they are watched from. -/
theorem jobWatch_fits (office : Office σ) (client : Monitor taskActions R) :
    (jobWatch office.settings client).Fits JobState.HasEnded office where
  imports _ layer id := by
    refine ⟨_, rfl, fun channel => ?_⟩
    have hend (o : ImportOutcome) (last : ImportPhase)
        (hlast : last.isClosed = true ∧ (o.success = true → last.isRecorded = true)) :
        ImportPhase.mayEnd (if o.success then .completed else .failed) last := by
      refine ⟨hlast.1, fun hstatus => hlast.2 ?_⟩
      cases hsuccess : o.success with
      | true => rfl
      | false => rw [hsuccess] at hstatus; cases hstatus
    have hwork := passes_inJob ImportPhase.after_note
      (Work.importWork_runImport office.settings layer) ImportOutcome.success hend id channel
      ImportOutcome.message ImportOutcome.document
    exact passes_importing (jobTask_importJob office.settings id channel layer) hwork
  refused _ _ _ := rfl
  teardowns _ table entry id := by
    refine ⟨_, rfl, fun channel => ?_⟩
    refine passes_tearing (jobTask_teardownJob office.settings id channel table entry) ?_
    refine (passes_inJob (fun _ _ => rfl) (passes_runTeardown office.settings table entry)
      TeardownOutcome.success (fun _ _ hlast => hlast) id channel TeardownOutcome.failureText
      TeardownOutcome.document).mono ?_
    rintro _ last ⟨_, hlast⟩
    exact hlast
  others d hqueues := by
    obtain ⟨who, a, x⟩ := d
    cases a with
    | queueImport | queueTeardown => cases hqueues
    | _ => rfl

/-- The first entry of a queued job is the entry of its first state. -/
theorem Deed.newJob?_entry (d : Deed) : d.newJob?.map (·.entry) = d.newEntry? := by
  obtain ⟨who, a, x⟩ := d
  cases a with
  | queueImport => cases x <;> rfl
  | _ => rfl

/-- The entries of the states are those of the ledger, after one more deed. -/
theorem map_entry_noteJobs (settings : ImportSettings) (client : Monitor taskActions R)
    (states : List JobState) (d : Deed) :
    ((jobWatch settings client).noteJobs states d).map (·.entry) =
      Ledger.note (states.map (·.entry)) d := by
  unfold Watch.noteJobs Ledger.note
  rw [List.map_append, ← Deed.newJob?_entry d, Option.toList_map]
  congr 1
  cases d.actor with
  | client i => rfl
  | job i =>
    refine List.ext_getElem? fun k => ?_
    by_cases hk : i = k
    · subst hk
      simp only [List.getElem?_map, List.getElem?_modify_eq]
      cases states[i]? <;> rfl
    · simp only [List.getElem?_map, List.getElem?_modify_ne _ _ hk]

end

end LayerPress
