import LayerPress.Proofs.Artifacts
import LayerPress.Proofs.JobWatch
import LayerPress.Proofs.Requests
import LayerPress.Proofs.Shelf

/-!
# What jobs have done and hold

While jobs and requests take turns, the phase of an import tells whose draft is on the shelf and
which artifacts the import has made. Nobody but a job touches an artifact: imports make and
teardowns unmake. Requests neither open transactions nor call services, whatever they are about.
-/

namespace LayerPress

/-- What an import has made when it has come to a phase. -/
def ImportPhase.Shows (settings : ImportSettings) (id : Uuid) (who : Actor) (deeds : List Deed) :
    ImportPhase → Prop
  | seeking | found _ => True
  | loaded l | opened l => (who, .made) ∈ touches (.table (Naming.tableName l.slug)) deeds
  | changed l row | recorded l row =>
    row.id = id ∧ (who, .made) ∈ touches (.table (Naming.tableName l.slug)) deeds
  | published l row =>
    row.id = id ∧ (who, .made) ∈ touches (.table (Naming.tableName l.slug)) deeds ∧
      (who, .made) ∈ touches (.entry (settings.entryOf l)) deeds

/-- The task has the draft exactly when the import is in its transaction. -/
def ImportPhase.Owns (phase : ImportPhase) (who : Actor) (s : Shelf) : Prop :=
  phase.isClosed = false ↔ ∃ layers, s.draft = some (who, layers)

namespace ImportPhase

variable {settings : ImportSettings} {id : Uuid} {who : Actor} {deeds : List Deed}
  {phase : ImportPhase} {s s' : Shelf}

/-- What was made stays made. -/
theorem Shows.concat (h : phase.Shows settings id who deeds) (d : Deed) :
    phase.Shows settings id who (deeds ++ [d]) := by
  cases phase with
  | seeking | found => trivial
  | loaded | opened => exact mem_touches_concat h d
  | changed | recorded => exact ⟨h.1, mem_touches_concat h.2 d⟩
  | published => exact ⟨h.1, mem_touches_concat h.2.1 d, mem_touches_concat h.2.2 d⟩

/-- The phase after a call shows what the call has made. -/
theorem Shows.call (h : phase.Shows settings id who deeds) {c : ServiceCall}
    (hadmits : c.isOpenToImport settings phase) (x : Except Failure c.Value) :
    (phase.after (.call c) x).Shows settings id who
      (deeds ++ [⟨who, .site (.call c), x⟩]) := by
  cases c with
  | run program args timeout =>
    obtain ⟨l, source, rfl, rfl⟩ := hadmits
    cases x with
    | error f => trivial
    | ok output =>
      simp only [after]
      split
      · next hsuccess =>
        refine mem_touches_of_touch? (d := ⟨who, _, _⟩) ?_
        simp only [Deed.touch?, ServiceCall.hasSucceeded, hsuccess, if_true]
        rfl
      · trivial
  | publish table title workspace store =>
    obtain ⟨l, row, rfl, rfl, rfl⟩ := hadmits
    cases x with
    | error f => exact h.concat _
    | ok action =>
      exact ⟨h.1, mem_touches_concat h.2 _, mem_touches_of_touch? (d := ⟨who, _, _⟩) rfl⟩
  | count | geometryType | extent | columns =>
    have hsame := h.concat ⟨who, .site (.call _), x⟩
    cases phase <;> exact hsame
  | drop | unpublish | info => exact hadmits.elim

/-- The phase after an action shows what has been made. -/
theorem Shows.act (h : phase.Shows settings id who deeds) {a : SiteAction}
    (hadmits : (importMonitor settings id).admits phase a) {x : a.Answer}
    (hdoes : Shelf.Does who (.site a) x s s') :
    (phase.after a x).Shows settings id who (deeds ++ [⟨who, .site a, x⟩]) := by
  have hsame := h.concat ⟨who, .site a, x⟩
  cases a with
  | call c => exact h.call hadmits x
  | records a =>
    cases a with
    | statement st =>
      cases st with
      | findLayer i =>
        cases x with
        | error f => trivial
        | ok found => cases found <;> trivial
      | changeLayer i change =>
        cases change with
        | loaded table features kind extent now =>
          obtain ⟨rfl, l, rfl, rfl⟩ := hadmits
          cases hdoes with
          | faulted f => exact hsame
          | executed _ heffect =>
            cases heffect with
            | @changed _ _ row _ hrow =>
              have hid : row.id = i := by simpa using List.find?_some hrow
              exact ⟨hid, hsame⟩
        | published entry now =>
          obtain ⟨l, row, rfl, -, -⟩ := hadmits
          exact hsame
        | cleared => exact hadmits.elim
      | findAttribute | insertAttribute | showAttribute =>
        obtain ⟨l, row, rfl⟩ := hadmits
        exact hsame
      | _ => exact hadmits.elim
    | «begin» =>
      obtain ⟨l, rfl⟩ := hadmits
      cases x <;> exact hsame
    | commit =>
      obtain ⟨l, row, rfl⟩ := hadmits
      cases x <;> exact hsame
  | rollback => cases phase <;> trivial
  | _ => cases phase <;> exact hsame

/-- Whose draft is on the shelf stays told as long as neither changes. -/
theorem Owns.congr (h : phase.Owns who s) {next : ImportPhase} (hnext : next.isClosed = phase.isClosed)
    (hdraft : (∃ layers, s'.draft = some (who, layers)) ↔ ∃ layers, s.draft = some (who, layers)) :
    next.Owns who s' := by
  unfold Owns at h ⊢
  rw [hnext, hdraft]
  exact h

/-- A call opens no transaction and ends none. -/
theorem isClosed_after_call {c : ServiceCall} (hadmits : c.isOpenToImport settings phase)
    (x : Except Failure c.Value) : (phase.after (.call c) x).isClosed = phase.isClosed := by
  cases c with
  | run =>
    obtain ⟨l, _, rfl, -⟩ := hadmits
    cases x with
    | error f => rfl
    | ok output =>
      simp only [after]
      split <;> rfl
  | publish =>
    obtain ⟨l, row, rfl, -⟩ := hadmits
    cases x <;> rfl
  | count | geometryType | extent | columns => cases phase <;> rfl
  | drop | unpublish | info => exact hadmits.elim

/-- A statement opens no transaction and ends none. -/
theorem isClosed_after_statement {st : Statement} (hadmits : st.isOpenToImport settings id phase)
    (x : Except RecordFault st.Value) :
    (phase.after (.records (.statement st)) x).isClosed = phase.isClosed := by
  cases st with
  | findLayer i =>
    obtain ⟨-, hclosed⟩ := hadmits
    rw [hclosed]
    cases x with
    | error f => rfl
    | ok found => cases found <;> rfl
  | changeLayer i change =>
    cases change with
    | loaded table features kind extent now =>
      obtain ⟨rfl, l, rfl, rfl⟩ := hadmits
      cases x <;> rfl
    | published entry now =>
      obtain ⟨l, row, rfl, -, -⟩ := hadmits
      rfl
    | cleared => exact hadmits.elim
  | findAttribute | insertAttribute | showAttribute =>
    obtain ⟨l, row, rfl⟩ := hadmits
    rfl
  | _ => exact hadmits.elim

/-- The draft belongs to the import that has opened it, until it commits or rolls back. -/
theorem Owns.act (h : phase.Owns who s) {a : SiteAction}
    (hadmits : (importMonitor settings id).admits phase a) {x : a.Answer}
    (hdoes : Shelf.Does who (.site a) x s s') : (phase.after a x).Owns who s' := by
  cases a with
  | call c =>
    cases hdoes
    exact h.congr (isClosed_after_call hadmits x) Iff.rfl
  | records a =>
    cases a with
    | statement st =>
      refine h.congr (isClosed_after_statement hadmits x) ?_
      cases hdoes with
      | faulted f => exact Iff.rfl
      | executed => exact Shelf.draft_put_iff
    | «begin» =>
      obtain ⟨l, rfl⟩ := hadmits
      cases hdoes with
      | faulted f => exact h
      | began => exact ⟨fun _ => ⟨_, rfl⟩, fun _ => rfl⟩
    | commit =>
      obtain ⟨l, row, rfl⟩ := hadmits
      cases hdoes with
      | faulted f => exact h
      | committed => exact ⟨by simp [after, isClosed], by simp⟩
  | rollback =>
    cases hdoes
    have hopen : phase.isClosed = false := hadmits
    obtain ⟨layers, hdraft⟩ := h.mp hopen
    have hforgot : (s.forget who).draft = none := by simp [Shelf.forget, hdraft]
    have hseeking : phase.after .rollback x = .seeking := by cases phase <;> rfl
    rw [hseeking]
    refine ⟨by simp [isClosed], ?_⟩
    rintro ⟨layers', hdraft'⟩
    rw [hforgot] at hdraft'
    cases hdraft'
  | _ =>
    cases hdoes
    cases phase <;> exact h

end ImportPhase

/-- What another task does leaves the draft of an import where it was. -/
theorem ImportPhase.Owns.of_ne {phase : ImportPhase} {who w : Actor} {a : TaskAction}
    {x : a.Answer} {s s' : Shelf} (h : phase.Owns w s) (hdoes : Shelf.Does who a x s s')
    (hne : w ≠ who) : phase.Owns w s' := by
  unfold Owns at h ⊢
  simp only [hdoes.draft_of_ne hne]
  exact h

/-! ## Touches -/

section
variable {settings : ImportSettings} {who : Actor} {a : TaskAction} {x : a.Answer} {y : Artifact}
  {how : Touch}

/-- A deed touches something by a call that succeeds. -/
theorem exists_call_of_touch? (h : Deed.touch? ⟨who, a, x⟩ = some (y, how)) :
    ∃ c, a = .site (.call c) ∧ c.touches? = some (y, how) := by
  unfold Deed.touch? at h
  split at h
  · next c answer heq =>
    cases heq
    split at h
    · exact ⟨c, rfl, h⟩
    · cases h
  · cases h

/-- Imports make what they touch. -/
theorem eq_made_of_import {layer : Uuid} {phase : ImportPhase}
    (hadmits : ((importMonitor settings layer).inJob ImportPhase.mayEnd).admits phase a)
    (h : Deed.touch? ⟨who, a, x⟩ = some (y, how)) : how = .made := by
  obtain ⟨c, rfl, hc⟩ := exists_call_of_touch? h
  cases c with
  | run program args timeout =>
    obtain ⟨l, source, -, rfl⟩ := hadmits
    cases hc
    rfl
  | publish => cases hc; rfl
  | drop | unpublish => exact hadmits.elim
  | _ => cases hc

/-- Teardowns unmake what they touch. -/
theorem eq_unmade_of_teardown {table : Option String} {attempted : Bool}
    {mayEnd : JobStatus → Bool → Prop}
    (hadmits : ((teardownMonitor table).inJob mayEnd).admits attempted a)
    (h : Deed.touch? ⟨who, a, x⟩ = some (y, how)) : how = .unmade := by
  obtain ⟨c, rfl, hc⟩ := exists_call_of_touch? h
  cases c with
  | drop | unpublish => cases hc; rfl
  | _ => exact hadmits.elim

/-- Requests touch nothing. -/
theorem touch?_eq_none_of_request (hopen : a.isOpenToRequests) :
    Deed.touch? ⟨who, a, x⟩ = none := by
  cases htouch : Deed.touch? ⟨who, a, x⟩ with
  | none => rfl
  | some touched =>
    obtain ⟨c, rfl, -⟩ := exists_call_of_touch? (y := touched.1) htouch
    exact hopen.elim

/-- A deed of a request leaves the touches as they were. -/
theorem touches_concat_of_request (hopen : a.isOpenToRequests) (y : Artifact) (deeds : List Deed) :
    touches y (deeds ++ [⟨who, a, x⟩]) = touches y deeds := by
  rw [touches_concat, Deed.touchOf?, touch?_eq_none_of_request hopen]
  exact List.append_nil _

end

/-! ## All jobs together -/

/-- An import agrees with its entry, the shelf and the deeds. -/
structure ImportAgrees (settings : ImportSettings) (s : Shelf) (deeds : List Deed) (i : Nat)
    (e : JobEntry) (layer : Uuid) (phase : ImportPhase) : Prop where
  noted : e.layer = some layer
  owns : phase.Owns (.job i) s
  working : phase.isClosed = false → e.stage = .working
  shows : phase.Shows settings layer (.job i) deeds

/-- The states of jobs agree with the shelf and the deeds: imports one by one, and nobody else
has a draft or has touched anything. -/
structure JobsAgree (settings : ImportSettings) (states : List JobState) (s : Shelf)
    (deeds : List Deed) : Prop where
  imports : ∀ (i : Nat) (job : JobState) (layer : Uuid) (phase : ImportPhase),
    states[i]? = some job → job.work = .importing layer phase →
      ImportAgrees settings s deeds i job.entry layer phase
  owned : ∀ (who : Actor) (layers : List Layer), s.draft = some (who, layers) →
    ∃ (i : Nat) (job : JobState) (layer : Uuid) (phase : ImportPhase),
      who = .job i ∧ states[i]? = some job ∧ job.work = .importing layer phase
  touched : ∀ (x : Artifact) (who : Actor) (how : Touch), (who, how) ∈ touches x deeds →
    ∃ (i : Nat) (job : JobState), who = .job i ∧ states[i]? = some job ∧
      (job.isTeardown = true ↔ how = .unmade)

namespace ImportAgrees

variable {settings : ImportSettings} {s s' : Shelf} {deeds : List Deed} {i : Nat} {e : JobEntry}
  {layer : Uuid} {phase : ImportPhase} {a : TaskAction} {x : a.Answer}

/-- What others do leaves an import in agreement. -/
theorem of_ne {who : Actor} (h : ImportAgrees settings s deeds i e layer phase)
    (hdoes : Shelf.Does who a x s s') (hne : Actor.job i ≠ who) :
    ImportAgrees settings s' (deeds ++ [⟨who, a, x⟩]) i e layer phase :=
  ⟨h.noted, h.owns.of_ne hdoes hne, h.working, h.shows.concat _⟩

/-- An import stays in agreement by what it does. -/
theorem act (h : ImportAgrees settings s deeds i e layer phase)
    (hledger : ledgerMonitor.admits e a)
    (hadmits : ((importMonitor settings layer).inJob ImportPhase.mayEnd).admits phase a)
    (hdoes : Shelf.Does (.job i) a x s s') :
    ImportAgrees settings s' (deeds ++ [⟨.job i, a, x⟩]) i (e.after a) layer
      (((importMonitor settings layer).inJob ImportPhase.mayEnd).after phase a x) where
  noted := by rw [JobEntry.after_layer, h.noted]
  owns := by
    cases a with
    | site a => exact h.owns.act hadmits hdoes
    | _ => cases hdoes; exact h.owns
  working := by
    cases a with
    | site a => exact fun _ => hledger
    | takePermit => exact fun _ => rfl
    | announce channel event => exact h.working
    | givePermit =>
      intro hopen
      have hended : e.stage = .ended := hledger
      rw [h.working hopen] at hended
      cases hended
    | endJob id status result error =>
      intro hopen
      have hclosed : phase.isClosed = true := hadmits.1
      rw [show phase.isClosed = false from hopen] at hclosed
      cases hclosed
    | _ => exact hadmits.elim
  shows := by
    cases a with
    | site a => exact h.shows.act hadmits hdoes
    | _ => exact h.shows.concat _

end ImportAgrees

/-- A job that is queued to import has not begun. -/
theorem eq_importing_of_newJob? {d : Deed} {job : JobState} {layer : Uuid} {phase : ImportPhase}
    (h : d.newJob? = some job) (himport : job.work = .importing layer phase) :
    ∃ id, job.entry = ⟨id, some layer, .waiting⟩ ∧ phase = .seeking := by
  obtain ⟨who, a, x⟩ := d
  cases a with
  | queueImport id =>
    cases x with
    | ok job => cases h; cases himport; exact ⟨_, rfl, rfl⟩
    | error running => cases h
  | queueTeardown table entry => cases h; cases himport
  | _ => cases h

/-- A request gives nobody a draft. -/
theorem Shelf.Does.draft_of_request {who w : Actor} {a : TaskAction} {x : a.Answer} {s s' : Shelf}
    (h : Shelf.Does who a x s s') (hopen : a.isOpenToRequests) {layers : List Layer}
    (hdraft : s'.draft = some (w, layers)) : ∃ held, s.draft = some (w, held) := by
  cases a with
  | site a =>
    cases a with
    | records a =>
      cases h with
      | faulted => exact ⟨layers, hdraft⟩
      | executed => exact Shelf.draft_put_iff.mp ⟨layers, hdraft⟩
      | began | committed => exact hopen.elim
    | now => cases h; exact ⟨layers, hdraft⟩
    | _ => exact hopen.elim
  | queueImport | queueTeardown | runningImport => cases h; exact ⟨layers, hdraft⟩
  | _ => exact hopen.elim

namespace JobsAgree

variable {settings : ImportSettings} {R : Type} {client : Monitor taskActions R}
  {states : List JobState} {s s' : Shelf} {deeds : List Deed} {i : Nat} {job : JobState}
  {a : TaskAction} {x : a.Answer}

/-- Nothing agrees with nothing. -/
theorem nil {s : Shelf} (h : s.draft = none) : JobsAgree settings [] s [] where
  imports i job layer phase hjob := by simp at hjob
  owned who layers hdraft := by rw [h] at hdraft; cases hdraft
  touched y who how htouched := by simp [touches] at htouched

/-- A deed of a job keeps the agreement. -/
theorem act (h : JobsAgree settings states s deeds) (hjob : states[i]? = some job)
    (hadmits : (jobMonitor settings).admits job a) (hdoes : Shelf.Does (.job i) a x s s') :
    JobsAgree settings ((jobWatch settings client).noteJobs states ⟨.job i, a, x⟩) s'
      (deeds ++ [⟨.job i, a, x⟩]) := by
  have hlookup : ∀ {k : Nat} {other : JobState},
      ((jobWatch settings client).noteJobs states ⟨.job i, a, x⟩)[k]? = some other ↔
        k = i ∧ other = (jobMonitor settings).after job a x ∨ k ≠ i ∧ states[k]? = some other :=
    Watch.getElem?_noteJobs_job hjob (newJob?_eq_none_of_job hadmits.1)
  obtain ⟨hledger, hwork⟩ := hadmits
  refine ⟨?_, ?_, ?_⟩
  · intro k other layer phase hother himport
    rcases hlookup.mp hother with ⟨rfl, rfl⟩ | ⟨hk, hother⟩
    · obtain ⟨e, work⟩ := job
      cases work with
      | importing layer' phase' =>
        cases himport
        exact (h.imports k _ layer phase' hjob rfl).act hledger hwork hdoes
      | tearing => cases himport
    · exact (h.imports k other layer phase hother himport).of_ne hdoes (by simpa using hk)
  · intro who layers hdraft
    by_cases hwho : who = .job i
    · subst hwho
      obtain ⟨e, work⟩ := job
      cases work with
      | importing layer' phase' => exact ⟨i, _, layer', _, rfl, hlookup.mpr (.inl ⟨rfl, rfl⟩), rfl⟩
      | tearing table attempted =>
        -- A teardown leaves the shelf as it is, and had no draft before.
        have hsame : s' = s := by
          cases a with
          | site a =>
            cases a with
            | call => exact hdoes
            | _ => exact hwork.elim
          | _ => exact hdoes
        subst hsame
        obtain ⟨k, other, layer, phase, hk, hother, himport⟩ := h.owned _ layers hdraft
        cases hk
        rw [hjob] at hother
        cases hother
        cases himport
    · rw [hdoes.draft_of_ne hwho] at hdraft
      obtain ⟨k, other, layer, phase, rfl, hother, himport⟩ := h.owned _ layers hdraft
      refine ⟨k, other, layer, phase, rfl, hlookup.mpr (.inr ⟨?_, hother⟩), himport⟩
      rintro rfl
      exact hwho rfl
  · intro y who how htouched
    rcases of_mem_touches_concat htouched with hearlier | ⟨rfl, htouch⟩
    · obtain ⟨k, other, rfl, hother, hkind⟩ := h.touched y who how hearlier
      by_cases hk : k = i
      · subst hk
        rw [hjob] at hother
        cases hother
        refine ⟨k, _, rfl, hlookup.mpr (.inl ⟨rfl, rfl⟩), ?_⟩
        rw [JobState.isTeardown_after]
        exact hkind
      · exact ⟨k, other, rfl, hlookup.mpr (.inr ⟨hk, hother⟩), hkind⟩
    · refine ⟨i, _, rfl, hlookup.mpr (.inl ⟨rfl, rfl⟩), ?_⟩
      rw [JobState.isTeardown_after]
      obtain ⟨e, work⟩ := job
      cases work with
      | importing layer phase => cases eq_made_of_import hwork htouch; exact ⟨nofun, nofun⟩
      | tearing table attempted =>
        cases eq_unmade_of_teardown hwork htouch
        exact ⟨fun _ => rfl, fun _ => rfl⟩

/-- A deed of a request keeps the agreement, and the job it queues begins in it. -/
theorem request (h : JobsAgree settings states s deeds) (hopen : a.isOpenToRequests)
    (hdoes : Shelf.Does (.client i) a x s s') :
    JobsAgree settings ((jobWatch settings client).noteJobs states ⟨.client i, a, x⟩) s'
      (deeds ++ [⟨.client i, a, x⟩]) := by
  have hlookup : ∀ {k : Nat} {other : JobState},
      ((jobWatch settings client).noteJobs states ⟨.client i, a, x⟩)[k]? = some other ↔
        states[k]? = some other ∨ k = states.length ∧ Deed.newJob? ⟨.client i, a, x⟩ = some other :=
    Watch.getElem?_noteJobs_client
  refine ⟨?_, ?_, ?_⟩
  · intro k other layer phase hother himport
    rcases hlookup.mp hother with hother | ⟨rfl, hnew⟩
    · exact (h.imports k other layer phase hother himport).of_ne hdoes nofun
    · obtain ⟨id, hentry, rfl⟩ := eq_importing_of_newJob? hnew himport
      refine ⟨by rw [hentry], ⟨nofun, ?_⟩, nofun, trivial⟩
      -- Whoever has a draft was queued before.
      rintro ⟨layers, hdraft⟩
      obtain ⟨held, hheld⟩ := hdoes.draft_of_request hopen hdraft
      obtain ⟨k, other', -, -, hk, hother', -⟩ := h.owned _ held hheld
      cases hk
      have hlt := (List.getElem?_eq_some_iff.mp hother').1
      omega
  · intro who layers hdraft
    obtain ⟨held, hheld⟩ := hdoes.draft_of_request hopen hdraft
    obtain ⟨k, other, layer, phase, rfl, hother, himport⟩ := h.owned _ held hheld
    exact ⟨k, other, layer, phase, rfl, hlookup.mpr (.inl hother), himport⟩
  · intro y who how htouched
    rcases of_mem_touches_concat htouched with hearlier | ⟨rfl, htouch⟩
    · obtain ⟨k, other, rfl, hother, hkind⟩ := h.touched y who how hearlier
      exact ⟨k, other, rfl, hlookup.mpr (.inl hother), hkind⟩
    · rw [touch?_eq_none_of_request hopen] at htouch
      cases htouch

end JobsAgree

end LayerPress
