import LayerPress.Proofs.TableRecords

/-!
# The steps of a deletion

A deletion reads the layer, looks for a running import, queues the teardown of what the row names
and removes the row, one step after another; whatever goes wrong ends it. It succeeds only when
the row is gone. A submitted import, which may be made beside it, does none of this.
-/

namespace LayerPress

/-- How far the deletion of a layer has come, with the row that it read; a request that is not a
deletion stands aside. -/
inductive DeletionPhase where
  | aside
  | unread
  | read (l : Layer)
  | looked (l : Layer)
  | torn (l : Layer)
  | stripped (l : Layer)
  | gone (l : Layer)
  | refused
  deriving DecidableEq, Repr

namespace DeletionPhase

/-- The row that the deletion has read. -/
def row? : DeletionPhase → Option Layer
  | aside | unread | refused => none
  | read l | looked l | torn l | stripped l | gone l => some l

/-- The row whose teardown, if there is anything to tear down, has been queued. -/
def cleaned? : DeletionPhase → Option Layer
  | torn l | stripped l | gone l => some l
  | _ => none

/-- No teardown has been queued yet. -/
def isEarly : DeletionPhase → Bool
  | unread | read _ | looked _ => true
  | _ => false

/-- The phase after an action and its answer. -/
def after : DeletionPhase → (a : TaskAction) → a.Answer → DeletionPhase
  | aside, _, _ => aside
  | unread, .site (.records (.statement (.findLayer _))), .ok (some l) => read l
  | read l, .runningImport _, none => looked l
  | looked l, .queueTeardown .., _ => torn l
  | looked l, .site (.records (.statement (.deleteAttributes _))), .ok _ => stripped l
  | torn l, .site (.records (.statement (.deleteAttributes _))), .ok _ => stripped l
  | stripped l, .site (.records (.statement (.deleteLayer _))), .ok _ => gone l
  | _, _, _ => refused

end DeletionPhase

/-- What a deletion of a layer may do in each phase, and a submitted import beside it. -/
def deletionMonitor (layer : Uuid) : Monitor taskActions DeletionPhase where
  admits phase a :=
    match a with
    | .site (.records (.statement (.findLayer id))) =>
      id = layer ∧ (phase = .aside ∨ phase = .unread)
    | .queueImport id => id = layer ∧ phase = .aside
    | .runningImport _ => ∃ l, phase = .read l
    | .queueTeardown table _ => ∃ l, phase = .looked l ∧ l.hasImports = true ∧ table = l.tableName
    | .site (.records (.statement (.deleteAttributes _))) =>
      ∃ l, phase = .torn l ∨ phase = .looked l ∧ l.hasImports = false
    | .site (.records (.statement (.deleteLayer id))) => id = layer ∧ ∃ l, phase = .stripped l
    | _ => False
  after := DeletionPhase.after

/-- One step of a deletion, from phase to phase with the action and its answer. -/
inductive DeletionStep (layer : Uuid) :
    DeletionPhase → (a : TaskAction) → a.Answer → DeletionPhase → Prop
  | read (l : Layer) :
      DeletionStep layer .unread (.site (.records (.statement (.findLayer layer)))) (.ok (some l))
        (.read l)
  | looked (l : Layer) (id : Uuid) : DeletionStep layer (.read l) (.runningImport id) none (.looked l)
  | torn (l : Layer) (entry : Option String) (job : JobId) :
      DeletionStep layer (.looked l) (.queueTeardown l.tableName entry) job (.torn l)
  | stripped (l : Layer) (id : Uuid) {phase : DeletionPhase}
      (h : phase = .torn l ∨ phase = .looked l ∧ l.hasImports = false) :
      DeletionStep layer phase (.site (.records (.statement (.deleteAttributes id)))) (.ok ())
        (.stripped l)
  | gone (l : Layer) :
      DeletionStep layer (.stripped l) (.site (.records (.statement (.deleteLayer layer)))) (.ok ())
        (.gone l)
  | refused (phase : DeletionPhase) (a : TaskAction) (x : a.Answer)
      (hnew : ∀ who, Deed.newJob? ⟨who, a, x⟩ = none) : DeletionStep layer phase a x .refused

namespace DeletionStep

variable {layer : Uuid} {phase next : DeletionPhase} {a : TaskAction} {x : a.Answer}

/-- A deletion does not step aside. -/
theorem ne_aside (h : DeletionStep layer phase a x next) : next ≠ .aside := by
  cases h <;> nofun

/-- The row is the one from before or has just been read. -/
theorem of_row? (h : DeletionStep layer phase a x next) {l : Layer} (hl : next.row? = some l) :
    phase.row? = some l ∨ ∀ who, (⟨who, a, x⟩ : Deed) =
      ⟨who, .site (.records (.statement (.findLayer layer))), .ok (some l)⟩ := by
  cases h with
  | read =>
    cases hl
    exact .inr fun _ => rfl
  | stripped l id hphase => rcases hphase with rfl | ⟨rfl, -⟩ <;> exact .inl hl
  | looked | torn | gone => exact .inl hl
  | refused => cases hl

end DeletionStep

/-- What a deletion may do is a step of it. -/
theorem step_of_deletion {layer : Uuid} {phase : DeletionPhase} {a : TaskAction}
    (h : (deletionMonitor layer).admits phase a) (hhere : phase ≠ .aside) (x : a.Answer) :
    DeletionStep layer phase a x (phase.after a x) := by
  cases a with
  | site a =>
    cases a with
    | records a =>
      cases a with
      | statement st =>
        cases st with
        | findLayer id =>
          obtain ⟨rfl, haside | rfl⟩ := h
          · exact absurd haside hhere
          · cases x with
            | error f => exact .refused _ _ _ fun _ => rfl
            | ok found =>
              cases found with
              | none => exact .refused _ _ _ fun _ => rfl
              | some l => exact .read l
        | deleteAttributes id =>
          obtain ⟨l, hphase⟩ := h
          cases x with
          | error f => rcases hphase with rfl | ⟨rfl, -⟩ <;> exact .refused _ _ _ fun _ => rfl
          | ok _ =>
            have hafter : phase.after (.site (.records (.statement (.deleteAttributes id)))) (.ok ()) =
                .stripped l := by
              rcases hphase with rfl | ⟨rfl, -⟩ <;> rfl
            exact hafter ▸ .stripped l id hphase
        | deleteLayer id =>
          obtain ⟨rfl, l, rfl⟩ := h
          cases x with
          | error f => exact .refused _ _ _ fun _ => rfl
          | ok _ => exact .gone l
        | _ => exact h.elim
      | «begin» | commit => exact h.elim
    | _ => exact h.elim
  | runningImport id =>
    obtain ⟨l, rfl⟩ := h
    cases x with
    | some running => exact .refused _ _ _ fun _ => rfl
    | none => exact .looked l id
  | queueTeardown table entry =>
    obtain ⟨l, rfl, -, rfl⟩ := h
    exact .torn l entry x
  | queueImport id => exact absurd h.2 hhere
  | _ => exact h.elim

/-- A submitted import looks for its layer and queues the import. -/
theorem eq_of_submitted {layer : Uuid} {a : TaskAction} (h : (deletionMonitor layer).admits .aside a) :
    a = .site (.records (.statement (.findLayer layer))) ∨ a = .queueImport layer := by
  cases a with
  | site a =>
    cases a with
    | records a =>
      cases a with
      | statement st =>
        cases st with
        | findLayer id => exact .inl (h.1 ▸ rfl)
        | deleteAttributes =>
          obtain ⟨l, haside | ⟨haside, -⟩⟩ := h <;> cases haside
        | deleteLayer =>
          obtain ⟨-, l, haside⟩ := h
          cases haside
        | _ => exact h.elim
      | «begin» | commit => exact h.elim
    | _ => exact h.elim
  | queueImport id => exact .inr (h.1 ▸ rfl)
  | runningImport =>
    obtain ⟨l, haside⟩ := h
    cases haside
  | queueTeardown =>
    obtain ⟨l, haside, -⟩ := h
    cases haside
  | _ => exact h.elim

/-- The actor has read this row of the layer. -/
def HasRead (who : Actor) (layer : Uuid) (l : Layer) (deeds : List Deed) : Prop :=
  ⟨who, .site (.records (.statement (.findLayer layer))), .ok (some l)⟩ ∈ deeds

/-- Only a deletion that has come to its end succeeds. -/
def SaysGone (r : Admin.Response) (last : DeletionPhase) : Prop :=
  r.status = 204 → ∃ l, last = .gone l

/-- What a deletion or an import beside it does is open to requests. -/
theorem isOpenToRequests_of_deletion {layer : Uuid} {phase : DeletionPhase} {a : TaskAction}
    (h : (deletionMonitor layer).admits phase a) : a.isOpenToRequests := by
  cases a with
  | site a =>
    cases a with
    | records a =>
      cases a with
      | statement st =>
        cases st with
        | findLayer | deleteAttributes | deleteLayer => trivial
        | _ => exact h.elim
      | «begin» | commit => exact h.elim
    | _ => exact h.elim
  | queueImport | queueTeardown | runningImport => trivial
  | _ => exact h.elim

/-- What a deletion or an import beside it does keeps names. -/
theorem keepsNames_of_deletion {layer : Uuid} {slug : String} {phase : DeletionPhase}
    {a : TaskAction} (h : (deletionMonitor layer).admits phase a) : a.KeepsNames slug := by
  unfold TaskAction.KeepsNames
  split
  · next st =>
    cases st with
    | findLayer | deleteAttributes | deleteLayer => trivial
    | _ => exact h.elim
  · trivial

namespace Admin.Handling

/-- Handling says how it ended, whether with an answer or early. -/
def EndsHonestly (answer : Except Response Response) (last : DeletionPhase) : Prop :=
  match answer with
  | .ok r | .error r => SaysGone r last

/-- An answer with a document says nothing of a deletion. -/
theorem saysGone_json {status : Nat} (h : status ≠ 204) (document : Json) (last : DeletionPhase) :
    SaysGone (Response.json status document) last := fun hstatus => absurd hstatus h

/-- Answering passes on what handling says. -/
theorem passes_answer {layer : Uuid} {phase : DeletionPhase} {h : Handling Response}
    (hh : (deletionMonitor layer).Passes EndsHonestly phase h.run) :
    (deletionMonitor layer).Passes SaysGone phase h.answer := by
  refine hh.bind fun answer last hlast => ?_
  cases answer <;> exact hlast

/-- A deletion goes through its phases, and succeeds only at the last. -/
theorem passes_deleteLayer (layer : Uuid) :
    (deletionMonitor layer).Passes EndsHonestly .unread (deleteLayer layer).run := by
  have removal (phase : DeletionPhase) (l : Layer)
      (hphase : phase = .torn l ∨ phase = .looked l ∧ l.hasImports = false) :
      (deletionMonitor layer).Passes EndsHonestly phase (do
        execute (.deleteAttributes layer)
        execute (.deleteLayer layer)
        return Response.bare 204 : Handling Response).run := by
    refine ⟨⟨l, hphase⟩, fun stripped => ?_⟩
    cases stripped with
    | error f => exact saysGone_json (by decide) _ _
    | ok _ =>
      have hnext : (deletionMonitor layer).after phase
          (.site (.records (.statement (.deleteAttributes layer)))) (.ok ()) = .stripped l := by
        rcases hphase with rfl | ⟨rfl, -⟩ <;> rfl
      rw [hnext]
      refine ⟨⟨rfl, l, rfl⟩, fun deleted => ?_⟩
      cases deleted with
      | error f => exact saysGone_json (by decide) _ _
      | ok _ => exact fun _ => ⟨l, rfl⟩
  refine ⟨⟨rfl, .inr rfl⟩, fun found => ?_⟩
  cases found with
  | error f => exact saysGone_json (by decide) _ _
  | ok found =>
    cases found with
    | none => exact saysGone_json (by decide) _ _
    | some l =>
      refine ⟨⟨l, rfl⟩, fun running => ?_⟩
      cases running with
      | some job => exact saysGone_json (by decide) _ _
      | none =>
        cases himports : l.hasImports with
        | false =>
          exact removal (.looked l) l (.inr ⟨rfl, himports⟩)
        | true =>
          exact ⟨⟨l, rfl, himports, rfl⟩, fun _ => removal (.torn l) l (.inl rfl)⟩

/-- A submitted import stands aside. -/
theorem passes_submitImport (layer : Uuid) :
    (deletionMonitor layer).Passes EndsHonestly .aside (submitImport layer).run := by
  refine ⟨⟨rfl, .inl rfl⟩, fun found => ?_⟩
  cases found with
  | error f => exact saysGone_json (by decide) _ _
  | ok found =>
    cases found with
    | none => exact saysGone_json (by decide) _ _
    | some l =>
      refine ⟨⟨rfl, rfl⟩, fun queued => ?_⟩
      cases queued <;> exact saysGone_json (by decide) _ _

end Admin.Handling

/-! ## The teardown that a deletion queues -/

/-- No teardown is queued but one, of the table in the row that the deletion has read. -/
structure CleanUp (phase : DeletionPhase) (states : List JobState) : Prop where
  early : phase.isEarly = true → ∀ (k : Nat) (job : JobState), states[k]? = some job →
    job.isTeardown = false
  single : ∀ (k n : Nat) (job other : JobState), states[k]? = some job → states[n]? = some other →
    job.isTeardown = true → other.isTeardown = true → k = n
  named : ∀ l, phase.row? = some l → ∀ (k : Nat) (job : JobState) (table : Option String)
    (attempted : Bool), states[k]? = some job → job.work = .tearing table attempted →
      table = l.tableName
  queued : ∀ l, phase.cleaned? = some l → hasText l.tableName = true →
    ∃ (k : Nat) (job : JobState) (attempted : Bool),
      states[k]? = some job ∧ job.work = .tearing l.tableName attempted

namespace CleanUp

variable {settings : ImportSettings} {client : Monitor taskActions DeletionPhase} {layer : Uuid}
  {phase next : DeletionPhase} {states : List JobState} {i : Nat} {job : JobState} {a : TaskAction}
  {x : a.Answer}

/-- Before anything has happened. -/
theorem start : CleanUp .unread [] where
  early _ _ _ h := by simp at h
  single _ _ _ _ h := by simp at h
  named _ hl := by cases hl
  queued _ hl := by cases hl

/-- The deletion goes on without queueing anything. -/
theorem advance (h : CleanUp phase states) (hearly : next.isEarly = true → phase.isEarly = true)
    (hrow : ∀ l, next.row? = some l → phase.isEarly = true ∨ phase.row? = some l)
    (hcleaned : ∀ l, next.cleaned? = some l → hasText l.tableName = true →
      phase.cleaned? = some l) : CleanUp next states where
  early hnext := h.early (hearly hnext)
  single := h.single
  named l hl k job table attempted hjob hwork := by
    rcases hrow l hl with hphase | hphase
    · have hkind := h.early hphase k job hjob
      rw [JobState.isTeardown, hwork] at hkind
      cases hkind
    · exact h.named l hphase k job table attempted hjob hwork
  queued l hl htext := h.queued l (hcleaned l hl htext) htext

/-- A newly queued import is no teardown. -/
theorem importing (h : CleanUp phase states) {job : JobState} (hkind : job.isTeardown = false) :
    CleanUp phase (states ++ [job]) := by
  have hold {k : Nat} {other : JobState} (hother : (states ++ [job])[k]? = some other)
      (htrue : other.isTeardown = true) : states[k]? = some other := by
    rcases Watch.of_getElem?_concat hother with hother | ⟨-, rfl⟩
    · exact hother
    · rw [hkind] at htrue
      cases htrue
  refine ⟨?_, ?_, ?_, ?_⟩
  · intro hphase k other hother
    rcases Watch.of_getElem?_concat hother with hother | ⟨-, rfl⟩
    · exact h.early hphase k other hother
    · exact hkind
  · intro k n job other hjob hother hteardown hteardown'
    exact h.single k n job other (hold hjob hteardown) (hold hother hteardown') hteardown hteardown'
  · intro l hl k other table attempted hother hwork
    exact h.named l hl k other table attempted
      (hold hother (by rw [JobState.isTeardown, hwork])) hwork
  · intro l hl htext
    obtain ⟨k, other, attempted, hother, hwork⟩ := h.queued l hl htext
    refine ⟨k, other, attempted, ?_, hwork⟩
    rw [List.getElem?_append_left (List.getElem?_eq_some_iff.mp hother).1]
    exact hother

/-- The teardown that is queued is the only one. -/
theorem tearing {l : Layer} (h : CleanUp (.looked l) states) (id : JobId) :
    CleanUp (.torn l) (states ++ [⟨⟨id, none, .waiting⟩, .tearing l.tableName false⟩]) := by
  have hlast {k : Nat} {other : JobState}
      (hother : (states ++ [⟨⟨id, none, .waiting⟩, .tearing l.tableName false⟩])[k]? = some other)
      (hkind : other.isTeardown = true) :
      k = states.length ∧ other = ⟨⟨id, none, .waiting⟩, .tearing l.tableName false⟩ := by
    rcases Watch.of_getElem?_concat hother with hother | hnew
    · rw [h.early rfl k other hother] at hkind
      cases hkind
    · exact hnew
  refine ⟨nofun, ?_, ?_, ?_⟩
  · intro k n job other hjob hother hteardown hteardown'
    exact (hlast hjob hteardown).1.trans (hlast hother hteardown').1.symm
  · rintro _ ⟨⟩ k other table attempted hother hwork
    obtain ⟨-, rfl⟩ := hlast hother (by rw [JobState.isTeardown, hwork])
    cases hwork
    rfl
  · rintro _ ⟨⟩ -
    exact ⟨states.length, _, false, List.getElem?_concat_length, rfl⟩

/-- A step of the deletion. -/
theorem deletion (h : CleanUp phase states) (hstep : DeletionStep layer phase a x next) :
    CleanUp next ((jobWatch settings client).noteJobs states ⟨.client i, a, x⟩) := by
  have hsame (hnone : Deed.newJob? ⟨.client i, a, x⟩ = none) :
      (jobWatch settings client).noteJobs states ⟨.client i, a, x⟩ = states :=
    Watch.noteJobs_client_of_none hnone
  cases hstep with
  | read l =>
    rw [hsame rfl]
    exact h.advance (fun _ => rfl) (fun _ _ => .inl rfl) fun _ hl => by cases hl
  | looked l id =>
    rw [hsame rfl]
    exact h.advance (fun _ => rfl) (fun _ _ => .inl rfl) fun _ hl => by cases hl
  | torn l entry job => exact h.tearing job
  | stripped l id hphase =>
    rw [hsame rfl]
    rcases hphase with rfl | ⟨rfl, himports⟩
    · exact h.advance nofun (fun _ hl => .inr hl) fun _ hl _ => hl
    · -- A row with nothing to tear down names no table.
      refine h.advance nofun (fun _ hl => .inr hl) ?_
      rintro _ ⟨⟩ htext
      rw [Layer.hasImports, htext] at himports
      cases himports
  | gone l =>
    rw [hsame rfl]
    exact h.advance nofun (fun _ hl => .inr hl) fun _ hl _ => hl
  | refused _ _ _ hnew =>
    rw [hsame (hnew _)]
    exact h.advance nofun (fun _ hl => by cases hl) fun _ hl => by cases hl

/-- What the submitted import does. -/
theorem beside (h : CleanUp phase states) (hadmits : (deletionMonitor layer).admits .aside a) :
    CleanUp phase ((jobWatch settings client).noteJobs states ⟨.client i, a, x⟩) := by
  rcases eq_of_submitted hadmits with rfl | rfl
  · rw [Watch.noteJobs_client_of_none rfl]
    exact h
  · cases x with
    | error running =>
      rw [Watch.noteJobs_client_of_none rfl]
      exact h
    | ok id => exact h.importing rfl

/-- A deed of a job. -/
theorem act (h : CleanUp phase states) (hjob : states[i]? = some job)
    (hadmits : (jobMonitor settings).admits job a) :
    CleanUp phase ((jobWatch settings client).noteJobs states ⟨.job i, a, x⟩) := by
  have hpast : ∀ {k : Nat} {later : JobState},
      ((jobWatch settings client).noteJobs states ⟨.job i, a, x⟩)[k]? = some later →
        ∃ earlier, states[k]? = some earlier ∧ later.Follows earlier :=
    exists_follows_of_noteJobs hjob hadmits
  refine ⟨?_, ?_, ?_, ?_⟩
  · intro hphase k later hlater
    obtain ⟨earlier, hearlier, hfollows⟩ := hpast hlater
    exact hfollows.isTeardown.trans (h.early hphase k earlier hearlier)
  · intro k n later other hlater hother hteardown hteardown'
    obtain ⟨earlier, hearlier, hfollows⟩ := hpast hlater
    obtain ⟨before, hbefore, hfollows'⟩ := hpast hother
    exact h.single k n earlier before hearlier hbefore (hfollows.isTeardown ▸ hteardown)
      (hfollows'.isTeardown ▸ hteardown')
  · intro l hl k later table attempted hlater hwork
    obtain ⟨earlier, hearlier, hfollows⟩ := hpast hlater
    obtain ⟨before, hbefore⟩ := hfollows.tearing table attempted hwork
    exact h.named l hl k earlier table before hearlier hbefore
  · intro l hl htext
    obtain ⟨k, other, attempted, hother, hwork⟩ := h.queued l hl htext
    have hnone : (jobWatch settings client).opening ⟨.job i, a, x⟩ = none :=
      newJob?_eq_none_of_job hadmits.1
    by_cases hk : k = i
    · subst hk
      cases hjob.symm.trans hother
      obtain ⟨e, work⟩ := job
      cases hwork
      exact ⟨k, _, _, (Watch.getElem?_noteJobs_job hjob hnone).mpr (.inl ⟨rfl, rfl⟩), rfl⟩
    · exact ⟨k, other, attempted,
        (Watch.getElem?_noteJobs_job hjob hnone).mpr (.inr ⟨hk, hother⟩), hwork⟩

end CleanUp

end LayerPress
