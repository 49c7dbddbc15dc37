import LayerPress.Proofs.IdempotentPublishing

/-!
# Publishing side by side

Several calls publish different tables against one conforming catalog, and their requests arrive in
any order. What a call does between looking for a resource and making it is not protected: when
another call makes the resource in between, the catalog refuses, and the call fails. This is the
only way to fail. It cannot happen at the feature type, which is the call's own, nor where the
workspace and the datastore are there from the beginning, and it cannot happen to all calls.
-/

namespace LayerPress.Catalog

/-- Calls that publish against one catalog, and what they have asked and been answered. -/
structure Parley (ι : Type) where
  calls : ι → Procedure exchange (Except Failure PublishAction)
  holdings : Holdings
  log : List (ι × Exchange exchange)

namespace Parley

variable {ι : Type} [DecidableEq ι]

/-- Nothing has been asked yet. -/
def start (dialogue : ι → Dialogue PublishAction) (h : Holdings) : Parley ι :=
  ⟨fun i => (dialogue i).run, h, []⟩

/-- One call makes its next request; a call that has ended does nothing. -/
def turn (server : Server Holdings) (s : Parley ι) (i : ι) : Parley ι :=
  match s.calls i with
  | .result _ => s
  | .perform request next =>
    let served := server request s.holdings
    ⟨Function.update s.calls i (next served.1), served.2, s.log ++ [(i, ⟨request, served.1⟩)]⟩

/-- The calls make their requests in the order of the turns. -/
def run (server : Server Holdings) (s : Parley ι) (turns : List ι) : Parley ι :=
  turns.foldl (turn server) s

/-- The answer of a call, if it has ended. -/
def answer? (s : Parley ι) (i : ι) : Option (Except Failure PublishAction) :=
  match s.calls i with
  | .result answer => some answer
  | .perform .. => none

end Parley

/-! ## Being outrun -/

/-- The resource was looked for and not found. -/
def Misses (root : Url) (r : Resource) (e : Exchange exchange) : Prop :=
  e.action.method = "GET" ∧ e.action.url = r.documentUrl root ∧
    ∃ reply, e.answer = .ok reply ∧ reply.status ≠ 200

/-- The resource was created. -/
def Makes (root : Url) (r : Resource) (e : Exchange exchange) : Prop :=
  ∃ d, e.action.Creates root r d ∧ ∃ reply, e.answer = .ok reply ∧ reply.status = 201

/-- The resource was asked to be created, and this was refused. -/
def Refuses (root : Url) (r : Resource) (reply : Reply) (e : Exchange exchange) : Prop :=
  ∃ d, e.action.Creates root r d ∧ e.answer = .ok reply ∧ reply.status ≠ 200 ∧ reply.status ≠ 201

/-- A call looked for a resource in vain, another call then made it, and after that the first call
asked for it to be made and was refused. -/
def Outrun {ι : Type} (root : Url) (i : ι) (r : Resource) (reply : Reply)
    (log : List (ι × Exchange exchange)) : Prop :=
  ∃ k ≠ i, ∃ missed made refused, [(i, missed), (k, made), (i, refused)].Sublist log ∧
    Misses root r missed ∧ Makes root r made ∧ Refuses root r reply refused

/-- A call that has been outrun was outrun whatever comes later. -/
theorem Outrun.append {ι : Type} {root : Url} {i : ι} {r : Resource} {reply : Reply}
    {log : List (ι × Exchange exchange)} (h : Outrun root i r reply log)
    (more : List (ι × Exchange exchange)) : Outrun root i r reply (log ++ more) := by
  obtain ⟨k, hk, missed, made, refused, hlog, hfacts⟩ := h
  exact ⟨k, hk, missed, made, refused, hlog.trans (List.sublist_append_left _ _), hfacts⟩

/-- A call looked for a resource in vain, and either it is still missing or another call has made
it since. -/
def Missed {ι : Type} (root : Url) (i : ι) (r : Resource) (s : Parley ι) : Prop :=
  ∃ missed, Misses root r missed ∧ (i, missed) ∈ s.log ∧
    (s.holdings r = none ∨
      ∃ k ≠ i, ∃ made, Makes root r made ∧ [(i, missed), (k, made)].Sublist s.log)

/-! ## Where a call stands -/

/-- Where a call stands among others. -/
inductive Standing where
  | doing (step : Step)
  | published (action : PublishAction)
  | failed (level : Level) (reply : Reply)

/-- The order in which the levels are visited. -/
def Level.rank : Level → Nat
  | workspace => 0
  | store => 1
  | type => 2

/-- The level of a step. -/
def Step.level : Step → Level
  | look level => level
  | make level => level
  | update => .type

/-- How many requests may still be made. -/
def Step.remaining : Step → Nat
  | look level => 6 - 2 * level.rank
  | make level => 5 - 2 * level.rank
  | update => 1

namespace Standing

/-- What is left of publishing. -/
def stage : Standing → Stage
  | doing step => .doing step
  | published action => .closed (.ok action)
  | failed _ reply => .closed (.error (.catalogRequestFailed reply.status reply.body))

/-- The answer of a call, if it has ended. -/
def answer? : Standing → Option (Except Failure PublishAction)
  | doing _ => none
  | published action => some (.ok action)
  | failed _ reply => some (.error (.catalogRequestFailed reply.status reply.body))

/-- Where a call stands when it has made the resource on a level. -/
def made : Level → Standing
  | .workspace => doing (.look .store)
  | .store => doing (.look .type)
  | .type => published .created

/-- Where a call stands after a reply. -/
def next : Step → Reply → Standing
  | .look level, reply => doing (if reply.status == 200 then Step.past level else .make level)
  | .make level, reply =>
    if [200, 201].contains reply.status then made level else failed level reply
  | .update, reply =>
    if [200, 201].contains reply.status then published .updated else failed .type reply

/-- The call has left the level behind it. -/
def IsPast (level : Level) : Standing → Prop
  | doing step => level.rank < step.level.rank
  | published _ => True
  | failed other _ => level.rank < other.rank

end Standing

section
variable {ι : Type} [DecidableEq ι] (c : Client) (root : Url) (p : ι → Publication)
  (before : Holdings)

/-- What is known of a call by where it stands: what its next step needs is there, its feature type
is as it was until the call succeeds, and it can have failed only by being outrun at a resource
that it shares. -/
inductive Stands (s : Parley ι) (i : ι) : Standing → Prop
  | looking {level : Level} (founded : (p i).Founded s.holdings level)
      (own : s.holdings ((p i).resource .type) = before ((p i).resource .type)) :
      Stands s i (.doing (.look level))
  | making {level : Level} (founded : (p i).Founded s.holdings level)
      (own : s.holdings ((p i).resource .type) = before ((p i).resource .type))
      (missed : Missed root i ((p i).resource level) s)
      (free : level = .type → s.holdings ((p i).resource .type) = none) :
      Stands s i (.doing (.make level))
  | updating (founded : (p i).Founded s.holdings .type)
      (own : s.holdings ((p i).resource .type) = before ((p i).resource .type))
      (has : s.holdings.Has ((p i).resource .type)) : Stands s i (.doing .update)
  | published (founded : (p i).Founded s.holdings .type)
      (own : s.holdings ((p i).resource .type) = some ((p i).featureType c)) :
      Stands s i (.published ((p i).action before))
  | failed {level : Level} {reply : Reply} (shared : level ≠ .type)
      (own : s.holdings ((p i).resource .type) = before ((p i).resource .type))
      (outrun : Outrun root i ((p i).resource level) reply s.log) :
      Stands s i (.failed level reply)

/-- What the log says of a call: a refusal has ended it, whatever it has made was missing at the
beginning and lies behind it, and it has not made more requests than it may. -/
structure Recorded (turns : List ι) (s : Parley ι) (i : ι) (standing : Standing) :
    Prop where
  refused : ∀ e, (i, e) ∈ s.log → ∀ r reply, Refuses root r reply e →
    ∃ level, r = (p i).resource level ∧ standing = .failed level reply
  made : ∀ e, (i, e) ∈ s.log → ∀ r, Makes root r e →
    before r = none ∧ ∃ level, r = (p i).resource level ∧ standing.IsPast level
  bounded : ∀ step, standing = .doing step → turns.count i + step.remaining ≤ 6

/-- One call has made the request of a step and got a reply. -/
structure Parley.Took (s s' : Parley ι) (k : ι) (step : Step) (reply : Reply) : Prop where
  served : Served c (p k) s.holdings step reply s'.holdings
  log : s'.log = s.log ++ [(k, ⟨step.request c root (p k), .ok reply⟩)]
  calls : s'.calls = Function.update s.calls k ((step.after (.ok reply)).left c (p k))

/-- What holds of calls side by side after some turns. -/
structure Parley.Kept (turns : List ι) (s : Parley ι) : Prop where
  mono : ∀ r, before.Has r → s.holdings.Has r
  calls : ∀ i, ∃ standing, s.calls i = standing.stage.left c (p i) ∧
    Stands c root p before s i standing ∧ Recorded root p before turns s i standing

end

/-! ## What one step of one call does -/

section
variable {c : Client} {root : Url} {p : Publication} {h after : Holdings} {step : Step}
  {reply : Reply} {r : Resource}

/-- Nothing that is held is lost in a step. -/
theorem Served.mono (hserved : Served c p h step reply after) (hhas : h.Has r) : after.Has r := by
  cases hserved with
  | found | missing | refused => exact hhas
  | made | updated => exact Publication.has_put_of_has hhas c p _

/-- A step leaves the resources of others as they are. -/
theorem Served.keeps (hserved : Served c p h step reply after)
    (hr : ∀ level, r ≠ p.resource level) : after r = h r := by
  cases hserved with
  | found | missing | refused => rfl
  | made | updated => exact Publication.put_of_ne (hr _) c h

/-- What a step brings into being it has made. -/
theorem Served.none_or_makes (hserved : Served c p h step reply after) (root : Url)
    (hnone : h r = none) :
    after r = none ∨ Makes root r ⟨step.request c root p, .ok reply⟩ := by
  cases hserved with
  | found | missing | refused => exact .inl hnone
  | @made level _ missing status =>
    by_cases hr : r = p.resource level
    · subst hr
      exact .inr ⟨_, Step.creates_make c root p level, reply, rfl, status⟩
    · exact .inl ((Publication.put_of_ne hr c h).trans hnone)
  | updated has status =>
    have hr : r ≠ p.resource .type := by
      rintro rfl
      exact has.ne_none hnone
    exact .inl ((Publication.put_of_ne hr c h).trans hnone)

/-- What has been created was missing. -/
theorem Served.missing_of_status {level : Level} (hserved : Served c p h (.make level) reply after)
    (hstatus : reply.status = 201) : h (p.resource level) = none := by
  cases hserved with
  | made missing => exact missing
  | refused _ status => exact absurd hstatus status.2

/-- What a step needs is not taken from it. -/
theorem Publication.Founded.mono {level : Level} (hfounded : p.Founded h level)
    (hmono : ∀ r, h.Has r → after.Has r) : p.Founded after level :=
  fun parent hparent => hmono parent (hfounded parent hparent)

/-- Only making a level is a request to create, and it creates the resource on this level. -/
theorem Step.eq_of_creates {d : r.Details} (hcreates : (step.request c root p).Creates root r d) :
    ∃ level, step = .make level ∧ r = p.resource level := by
  cases step with
  | look | update => exact absurd hcreates.1 (by simp [request])
  | make level => exact ⟨level, rfl, hcreates.eq (creates_make c root p level)⟩

/-- Where a call stands after a reply is what the dialogue makes of the reply. -/
theorem Standing.stage_next (step : Step) (reply : Reply) :
    (next step reply).stage = step.after (.ok reply) := by
  cases step with
  | look level => rfl
  | make level =>
    simp only [next, Step.after]
    split
    · cases level <;> rfl
    · rfl
  | update =>
    simp only [next, Step.after]
    split <;> rfl

/-- What has been made, and all before it, is behind the call. -/
theorem Standing.isPast_made {level other : Level} (hle : level.rank ≤ other.rank) :
    (made other).IsPast level := by
  cases other with
  | workspace | store => exact Nat.lt_succ_of_le hle
  | type => trivial

/-- What a call has left behind it stays behind it. -/
theorem Standing.IsPast.next {level : Level} (hpast : (Standing.doing step).IsPast level)
    (reply : Reply) : (Standing.next step reply).IsPast level := by
  have hlt : level.rank < step.level.rank := hpast
  cases step with
  | look other =>
    have hpast : other.rank ≤ (Step.past other).level.rank := by cases other <;> decide
    simp only [Standing.next]
    split
    · exact Nat.lt_of_lt_of_le hlt hpast
    · exact hlt
  | make other =>
    simp only [Standing.next]
    split
    · exact isPast_made (Nat.le_of_lt hlt)
    · exact hlt
  | update =>
    simp only [Standing.next]
    split
    · trivial
    · exact hlt

/-- Every step leaves fewer requests. -/
theorem Standing.remaining_next {step' : Step} (hnext : next step reply = .doing step') :
    step'.remaining < step.remaining := by
  cases step with
  | look level =>
    simp only [next, Standing.doing.injEq] at hnext
    subst hnext
    split <;> cases level <;> decide
  | make level =>
    simp only [next] at hnext
    split at hnext
    · cases level <;> cases hnext <;> decide
    · cases hnext
  | update =>
    simp only [next] at hnext
    split at hnext <;> cases hnext

end

/-! ## What one turn does to all calls -/

section
variable {ι : Type} [DecidableEq ι] {c : Client} {root : Url} {p : ι → Publication}
  {before : Holdings} {s s' : Parley ι} {i k : ι} {step : Step} {reply : Reply} {r : Resource}
  {turns : List ι}

/-- A turn of a call that has ended does nothing, and any other makes one request. -/
theorem Parley.turn_cases (hroot : Url.root? c.settings.restUrl = some root)
    (hplain : (p k).IsPlain) {server : Server Holdings} (hserver : Conforms root server)
    {standing : Standing} (hleft : s.calls k = standing.stage.left c (p k))
    (hstands : Stands c root p before s k standing) :
    (s.turn server k = s ∧ ∀ step, standing ≠ .doing step) ∨
      ∃ step reply, standing = .doing step ∧ Took c root p s (s.turn server k) k step reply := by
  have hready : ∀ step, standing = .doing step → step.Ready (p k) s.holdings := by
    rintro step rfl
    cases hstands with
    | looking founded | making founded => exact founded
    | updating founded _ has => exact ⟨founded, has⟩
  cases standing with
  | published | failed =>
    left
    refine ⟨?_, nofun⟩
    rw [turn, hleft]
    rfl
  | doing step =>
    right
    have hleft : s.calls k = Procedure.perform (S := exchange) (step.request c root (p k))
        fun answer => (step.after answer).left c (p k) :=
      hleft.trans (step.run_dialogue hroot hplain)
    obtain ⟨reply, after, hanswer, hserved⟩ := hserver.exists_served c (hready step rfl)
    have hturn : s.turn server k =
        ⟨Function.update s.calls k ((step.after (.ok reply)).left c (p k)), after,
          s.log ++ [(k, ⟨step.request c root (p k), .ok reply⟩)]⟩ := by
      rw [turn, hleft]
      simp only [hanswer]
    refine ⟨step, reply, rfl, ?_⟩
    rw [hturn]
    exact ⟨hserved, rfl, rfl⟩

/-- A resource that a call has missed is still missing after a request of another call, or that
call has made it. -/
theorem Missed.frame (htook : Parley.Took c root p s s' k step reply) (hk : k ≠ i)
    (h : Missed root i r s) : Missed root i r s' := by
  obtain ⟨missed, hmisses, hmem, hsince⟩ := h
  refine ⟨missed, hmisses, by rw [htook.log]; exact List.mem_append_left _ hmem, ?_⟩
  obtain hnone | ⟨other, hother, made, hmakes, hlog⟩ := hsince
  · obtain hstill | hmakes := htook.served.none_or_makes root hnone
    · exact .inl hstill
    · refine .inr ⟨k, hk, _, hmakes, ?_⟩
      rw [htook.log]
      exact (List.singleton_sublist.mpr hmem).append (List.Sublist.refl _)
  · refine .inr ⟨other, hother, made, hmakes, ?_⟩
    rw [htook.log]
    exact hlog.trans (List.sublist_append_left _ _)

/-- What is known of a call is not lost by a request of another call. -/
theorem Stands.frame (htook : Parley.Took c root p s s' k step reply) (hk : k ≠ i)
    (hown : ∀ level, (p i).resource .type ≠ (p k).resource level) {standing : Standing}
    (h : Stands c root p before s i standing) : Stands c root p before s' i standing := by
  have hmono : ∀ r, s.holdings.Has r → s'.holdings.Has r := fun _ => htook.served.mono
  have hkept : s'.holdings ((p i).resource .type) = s.holdings ((p i).resource .type) :=
    htook.served.keeps hown
  cases h with
  | looking founded own => exact .looking (founded.mono hmono) (hkept.trans own)
  | making founded own missed free =>
    exact .making (founded.mono hmono) (hkept.trans own) (missed.frame htook hk)
      fun hlevel => hkept.trans (free hlevel)
  | updating founded own has => exact .updating (founded.mono hmono) (hkept.trans own) (hmono _ has)
  | published founded own => exact .published (founded.mono hmono) (hkept.trans own)
  | failed shared own outrun =>
    refine .failed shared (hkept.trans own) ?_
    rw [htook.log]
    exact outrun.append _

/-- What the log says of a call is not changed by a request of another call. -/
theorem Recorded.frame (htook : Parley.Took c root p s s' k step reply) (hk : k ≠ i)
    {standing : Standing} (h : Recorded root p before turns s i standing) :
    Recorded root p before (turns ++ [k]) s' i standing := by
  have hlog : ∀ e, (i, e) ∈ s'.log → (i, e) ∈ s.log := by
    intro e hmem
    rw [htook.log, List.mem_append, List.mem_singleton] at hmem
    obtain hmem | hsame := hmem
    · exact hmem
    · exact absurd (congrArg Prod.fst hsame).symm hk
  refine ⟨fun e hmem => h.refused e (hlog e hmem), fun e hmem => h.made e (hlog e hmem), ?_⟩
  intro step hstep
  rw [List.count_append, List.count_singleton, if_neg (by simpa using hk), Nat.add_zero]
  exact h.bounded step hstep

/-- What is known of a call after its own request. -/
theorem Stands.next (htook : Parley.Took c root p s s' i step reply)
    (h : Stands c root p before s i (.doing step)) :
    Stands c root p before s' i (.next step reply) := by
  obtain ⟨calls', after, log'⟩ := s'
  obtain ⟨hserved, rfl, -⟩ := htook
  dsimp only at hserved
  cases h with
  | @looking level founded own =>
    cases hserved with
    | found has status =>
      have hnext : Standing.next (.look level) reply = .doing (Step.past level) := by
        rw [Standing.next, status]
        rfl
      rw [hnext]
      cases level with
      | workspace => exact .looking (Publication.founded_store.mpr has) own
      | store =>
        have hworkspace := Publication.founded_store.mp founded
        exact .looking (Publication.founded_type.mpr ⟨hworkspace, has⟩) own
      | type => exact .updating founded own has
    | missing missing status =>
      have hnext : Standing.next (.look level) reply = .doing (.make level) := by
        rw [Standing.next, if_neg (by simpa using status)]
      rw [hnext]
      have hmisses : Misses root ((p i).resource level)
          ⟨(Step.look level).request c root (p i), .ok reply⟩ := ⟨rfl, rfl, reply, rfl, status⟩
      refine .making founded own ⟨_, hmisses, ?_, .inl missing⟩ ?_
      · exact List.mem_append_right _ (List.mem_singleton_self _)
      · rintro rfl
        exact missing
  | @making level founded own missed free =>
    cases hserved with
    | made missing status =>
      have hnext : Standing.next (.make level) reply = .made level := by
        rw [Standing.next, status]
        rfl
      have hmade := (p i).has_put c s.holdings level
      rw [hnext]
      cases level with
      | workspace =>
        have hother : Level.workspace ≠ .type := by decide
        exact .looking (Publication.founded_store.mpr hmade)
          ((Publication.put_of_ne ((p i).type_ne_resource hother) c _).trans own)
      | store =>
        have hother : Level.store ≠ .type := by decide
        have hworkspace :=
          Publication.has_put_of_has (Publication.founded_store.mp founded) c (p i) .store
        exact .looking (Publication.founded_type.mpr ⟨hworkspace, hmade⟩)
          ((Publication.put_of_ne ((p i).type_ne_resource hother) c _).trans own)
      | type =>
        have haction : (p i).action before = .created := by
          rw [Publication.action, ← own, free rfl]
          rfl
        rw [Standing.made, ← haction]
        exact .published (founded.mono fun _ hhas => Publication.has_put_of_has hhas c (p i) .type)
          (Function.update_self ..)
    | refused has status =>
      have hnext : Standing.next (.make level) reply = .failed level reply := by
        rw [Standing.next, if_neg (by simpa using status)]
      have hnot : s.holdings ((p i).resource level) ≠ none := has.ne_none
      rw [hnext]
      refine .failed (fun hlevel => ?_) own ?_
      · subst hlevel
        exact hnot (free rfl)
      · obtain ⟨missed, hmisses, -, hnone | ⟨k, hk, made, hmakes, hlog⟩⟩ := missed
        · exact absurd hnone hnot
        · exact ⟨k, hk, missed, made, _, hlog.append (List.Sublist.refl _), hmisses, hmakes, _,
            Step.creates_make c root (p i) level, rfl, status⟩
  | updating founded own _ =>
    cases hserved with
    | updated has status =>
      have hnext : Standing.next .update reply = .published .updated := by
        rw [Standing.next, status]
        rfl
      have haction : (p i).action before = .updated := by
        rw [Publication.action, ← own]
        exact if_pos has
      rw [hnext, ← haction]
      exact .published (founded.mono fun _ hhas => Publication.has_put_of_has hhas c (p i) .type)
        (Function.update_self ..)

/-- What the log says of a call after its own request. -/
theorem Recorded.next (htook : Parley.Took c root p s s' i step reply)
    (hmono : ∀ r, before.Has r → s.holdings.Has r)
    (h : Recorded root p before turns s i (.doing step)) :
    Recorded root p before (turns ++ [i]) s' i (.next step reply) := by
  have hlog : ∀ e, (i, e) ∈ s'.log →
      (i, e) ∈ s.log ∨ e = ⟨step.request c root (p i), .ok reply⟩ := by
    intro e hmem
    rw [htook.log, List.mem_append, List.mem_singleton] at hmem
    exact hmem.imp_right fun hsame => congrArg Prod.snd hsame
  refine ⟨fun e hmem r reply' hrefuses => ?_, fun e hmem r hmakes => ?_, fun step' hstep' => ?_⟩
  · obtain hmem | rfl := hlog e hmem
    · obtain ⟨_, -, hdoing⟩ := h.refused e hmem r reply' hrefuses
      cases hdoing
    · obtain ⟨d, hcreates, hanswer, hstatus⟩ := hrefuses
      obtain ⟨level, rfl, rfl⟩ := Step.eq_of_creates hcreates
      obtain rfl := Except.ok.inj hanswer
      exact ⟨level, rfl, by rw [Standing.next, if_neg (by simpa using hstatus)]⟩
  · obtain hmem | rfl := hlog e hmem
    · obtain ⟨hfresh, level, hr, hpast⟩ := h.made e hmem r hmakes
      exact ⟨hfresh, level, hr, hpast.next reply⟩
    · obtain ⟨d, hcreates, _, hanswer, hstatus⟩ := hmakes
      obtain ⟨level, rfl, rfl⟩ := Step.eq_of_creates hcreates
      obtain rfl := Except.ok.inj hanswer
      refine ⟨?_, level, rfl, ?_⟩
      · have hmissing := htook.served.missing_of_status hstatus
        exact Holdings.eq_none fun hhas => (hmono _ hhas).ne_none hmissing
      · rw [Standing.next, hstatus]
        exact Standing.isPast_made (Nat.le_refl _)
  · have hfewer := Standing.remaining_next hstep'
    have hbounded := h.bounded step rfl
    rw [List.count_append, List.count_singleton_self]
    omega

/-- A turn of a call that has ended changes nothing that the log says. -/
theorem Recorded.wait {standing : Standing} (h : Recorded root p before turns s i standing)
    (hk : k = i → ∀ step, standing ≠ .doing step) :
    Recorded root p before (turns ++ [k]) s i standing := by
  refine ⟨h.refused, h.made, fun step hstep => ?_⟩
  have hne : k ≠ i := fun hsame => hk hsame step hstep
  rw [List.count_append, List.count_singleton, if_neg (by simpa using hne), Nat.add_zero]
  exact h.bounded step hstep

namespace Parley

/-- At the beginning every call looks for its workspace. -/
theorem kept_start (h : Holdings) :
    Kept c root p h [] (start (fun i => (p i).dialogue c) h) := by
  refine ⟨fun _ hhas => hhas, fun i => ⟨.doing (.look .workspace), rfl, ?_, ?_⟩⟩
  · exact .looking ((p i).founded_workspace h) rfl
  · refine ⟨fun _ hmem => absurd hmem List.not_mem_nil, fun _ hmem => absurd hmem List.not_mem_nil,
      fun step hstep => ?_⟩
    cases hstep
    exact Nat.le_refl 6

section
variable (hroot : Url.root? c.settings.restUrl = some root) (hplain : ∀ i, (p i).IsPlain)
  (hdistinct : Function.Injective fun i => (p i).resource .type) {server : Server Holdings}
  (hserver : Conforms root server)
include hroot hplain hdistinct hserver

/-- What holds of calls side by side is kept by a turn. -/
theorem Kept.turn (h : Kept c root p before turns s) (k : ι) :
    Kept c root p before (turns ++ [k]) (s.turn server k) := by
  obtain ⟨standing, hleft, hstands, hrecorded⟩ := h.calls k
  obtain ⟨hturn, hended⟩ | ⟨step, reply, rfl, htook⟩ :=
    turn_cases hroot (hplain k) hserver hleft hstands
  · rw [hturn]
    refine ⟨h.mono, fun i => ?_⟩
    by_cases hi : i = k
    · subst hi
      exact ⟨standing, hleft, hstands, hrecorded.wait fun _ => hended⟩
    · obtain ⟨other, hleft, hstands, hrecorded⟩ := h.calls i
      exact ⟨other, hleft, hstands, hrecorded.wait fun hsame => absurd hsame.symm hi⟩
  · refine ⟨fun r hhas => htook.served.mono (h.mono r hhas), fun i => ?_⟩
    by_cases hi : i = k
    · subst hi
      refine ⟨.next step reply, ?_, hstands.next htook, hrecorded.next htook h.mono⟩
      rw [htook.calls, Function.update_self, Standing.stage_next]
    · obtain ⟨other, hleft, hstands, hrecorded⟩ := h.calls i
      have hown : ∀ level, (p i).resource .type ≠ (p k).resource level := by
        intro level hsame
        obtain rfl := Publication.level_of_resource hsame
        exact hi (hdistinct hsame)
      refine ⟨other, ?_, hstands.frame htook (Ne.symm hi) hown, hrecorded.frame htook (Ne.symm hi)⟩
      rw [htook.calls, Function.update_of_ne hi]
      exact hleft

/-- What holds of calls side by side is kept by all turns. -/
theorem Kept.run (h : Kept c root p before turns s) (more : List ι) :
    Kept c root p before (turns ++ more) (s.run server more) := by
  induction more generalizing turns s with
  | nil => rwa [List.append_nil]
  | cons k rest ih =>
    have hnext := ih (h.turn hroot hplain hdistinct hserver k)
    rwa [List.append_assoc] at hnext

end

/-- What has been answered tells where a call stands. -/
theorem Kept.answered (h : Kept c root p before turns s)
    (hroot : Url.root? c.settings.restUrl = some root) (hplain : (p i).IsPlain) :
    ∃ standing, s.answer? i = standing.answer? ∧ Stands c root p before s i standing ∧
      Recorded root p before turns s i standing := by
  obtain ⟨standing, hleft, hstands, hrecorded⟩ := h.calls i
  refine ⟨standing, ?_, hstands, hrecorded⟩
  rw [answer?, hleft]
  cases standing with
  | doing step => rw [show (Standing.doing step).stage.left c (p i) = _ from
      step.run_dialogue hroot hplain, Standing.answer?]
  | published | failed => rfl

/-- A call has ended after six turns. -/
theorem Kept.ended (h : Kept c root p before turns s)
    (hroot : Url.root? c.settings.restUrl = some root) (hplain : (p i).IsPlain)
    (hcount : 6 ≤ turns.count i) : (s.answer? i).isSome := by
  obtain ⟨standing, hanswer, -, hrecorded⟩ := h.answered hroot hplain
  rw [hanswer]
  cases standing with
  | doing step =>
    have hbounded := hrecorded.bounded step rfl
    have hpositive : 0 < step.remaining := by
      cases step with
      | look level | make level => cases level <;> decide
      | update => decide
    omega
  | published | failed => rfl

/-- A call that has succeeded has published its table. -/
theorem Kept.published (h : Kept c root p before turns s)
    (hroot : Url.root? c.settings.restUrl = some root) (hplain : (p i).IsPlain)
    {action : PublishAction} (hok : s.answer? i = some (.ok action)) :
    action = (p i).action before ∧ (p i).Founded s.holdings .type ∧
      s.holdings ((p i).resource .type) = some ((p i).featureType c) := by
  obtain ⟨standing, hanswer, hstands, -⟩ := h.answered hroot hplain
  rw [hok] at hanswer
  cases hstands with
  | looking | making | updating | failed => cases hanswer
  | published founded own => exact ⟨Except.ok.inj (Option.some.inj hanswer), founded, own⟩

/-- A call that has failed was outrun at a resource that it shares, and has left its feature type
alone. -/
theorem Kept.failed (h : Kept c root p before turns s)
    (hroot : Url.root? c.settings.restUrl = some root) (hplain : (p i).IsPlain) {e : Failure}
    (herror : s.answer? i = some (.error e)) :
    ∃ level ≠ .type, ∃ reply, Outrun root i ((p i).resource level) reply s.log ∧
      e = .catalogRequestFailed reply.status reply.body ∧
      s.holdings ((p i).resource .type) = before ((p i).resource .type) := by
  obtain ⟨standing, hanswer, hstands, -⟩ := h.answered hroot hplain
  rw [herror] at hanswer
  cases hstands with
  | looking | making | updating | published => cases hanswer
  | @failed level reply shared own outrun =>
    exact ⟨level, shared, reply, outrun, Except.error.inj (Option.some.inj hanswer), own⟩

/-- A call that was outrun has failed. -/
theorem Kept.of_outrun (h : Kept c root p before turns s)
    (hroot : Url.root? c.settings.restUrl = some root) (hplain : (p i).IsPlain)
    (houtrun : Outrun root i r reply s.log) :
    s.answer? i = some (.error (.catalogRequestFailed reply.status reply.body)) := by
  obtain ⟨k, -, missed, made, refused, hlog, -, -, hrefuses⟩ := houtrun
  obtain ⟨standing, hanswer, -, hrecorded⟩ := h.answered hroot hplain
  obtain ⟨_, -, rfl⟩ := hrecorded.refused refused (hlog.subset (by simp)) _ _ hrefuses
  exact hanswer

/-- Nobody is outrun at what was there at the beginning. -/
theorem Kept.eq_none_of_outrun (h : Kept c root p before turns s)
    (houtrun : Outrun root i r reply s.log) : before r = none := by
  obtain ⟨k, -, missed, made, refused, hlog, -, hmakes, -⟩ := houtrun
  obtain ⟨_, -, -, hrecorded⟩ := h.calls k
  exact (hrecorded.made made (hlog.subset (by simp)) _ hmakes).1

/-- When all calls have ended, the one that has outrun another has published its table, or was
outrun further on. -/
theorem Kept.exists_further (h : Kept c root p before turns s)
    (hroot : Url.root? c.settings.restUrl = some root) (hplain : ∀ i, (p i).IsPlain)
    (hall : ∀ i, (s.answer? i).isSome) {level : Level}
    (houtrun : Outrun root i ((p i).resource level) reply s.log) :
    (∃ k action, s.answer? k = some (.ok action)) ∨
      ∃ k further reply, level.rank < further.rank ∧ further ≠ .type ∧
        Outrun root k ((p k).resource further) reply s.log := by
  obtain ⟨k, -, missed, made, refused, hlog, -, hmakes, -⟩ := houtrun
  obtain ⟨standing, hanswer, hstands, hrecorded⟩ := h.answered hroot (hplain k)
  have hmem : (k, made) ∈ s.log := hlog.subset (by simp)
  obtain ⟨-, level', hsame, hpast⟩ := hrecorded.made made hmem _ hmakes
  obtain rfl := Publication.level_of_resource hsame
  cases hstands with
  | looking | making | updating =>
    have hended := hall k
    rw [hanswer] at hended
    cases hended
  | published => exact .inl ⟨k, _, hanswer⟩
  | @failed further reply' shared _ outrun => exact .inr ⟨k, further, reply', hpast, shared, outrun⟩

/-- When all calls have ended and one has been outrun, one has published its table. -/
theorem Kept.exists_published (h : Kept c root p before turns s)
    (hroot : Url.root? c.settings.restUrl = some root) (hplain : ∀ i, (p i).IsPlain)
    (hall : ∀ i, (s.answer? i).isSome) {level : Level}
    (houtrun : Outrun root i ((p i).resource level) reply s.log) :
    ∃ k action, s.answer? k = some (.ok action) := by
  obtain hdone | ⟨k, further, reply', hlt, hshared, houtrun'⟩ :=
    h.exists_further hroot hplain hall houtrun
  · exact hdone
  · obtain hdone | ⟨_, last, _, hlt', hshared', -⟩ := h.exists_further hroot hplain hall houtrun'
    · exact hdone
    -- Two levels are shared, so that nobody is outrun on a third.
    · cases further <;> cases last <;> simp_all [Level.rank]

end Parley

end

/-- Calls that publish different feature types side by side end after at most six requests each. A
call that succeeds has its workspace, its datastore and its feature type as published, and says
whether the feature type was there. A call fails exactly if it was outrun at its workspace or its
datastore, and then its feature type is as it was. None fails whose workspace and datastore were
there at the beginning, and never do all fail. -/
theorem publishing_fails_iff_outrun {ι : Type} [DecidableEq ι] (c : Client) {root : Url}
    (hroot : Url.root? c.settings.restUrl = some root) {server : Server Holdings}
    (hserver : Conforms root server) (p : ι → Publication) (hplain : ∀ i, (p i).IsPlain)
    (hdistinct : Function.Injective fun i => (p i).resource .type) (before : Holdings)
    (turns : List ι) :
    let last := (Parley.start (fun i => (p i).dialogue c) before).run server turns
    (∀ i, 6 ≤ turns.count i → (last.answer? i).isSome) ∧
    (∀ i action, last.answer? i = some (.ok action) →
      action = (p i).action before ∧ last.holdings.Has ((p i).resource .workspace) ∧
        last.holdings.Has ((p i).resource .store) ∧
        last.holdings ((p i).resource .type) = some ((p i).featureType c)) ∧
    (∀ i e, last.answer? i = some (.error e) ↔ ∃ level ≠ .type, ∃ reply,
      Outrun root i ((p i).resource level) reply last.log ∧
        e = .catalogRequestFailed reply.status reply.body) ∧
    (∀ i e, last.answer? i = some (.error e) →
      last.holdings ((p i).resource .type) = before ((p i).resource .type) ∧
        ¬(before.Has ((p i).resource .workspace) ∧ before.Has ((p i).resource .store))) ∧
    (Nonempty ι → (∀ i, (last.answer? i).isSome) → ∃ i action, last.answer? i = some (.ok action))
    := by
  intro last
  have hkept : Parley.Kept c root p before turns last :=
    (Parley.kept_start before).run hroot hplain hdistinct hserver turns
  refine ⟨fun i => hkept.ended hroot (hplain i), fun i action hok => ?_,
    fun i e => ⟨fun herror => ?_, ?_⟩, fun i e herror => ?_, fun ⟨i⟩ hall => ?_⟩
  · obtain ⟨haction, hfounded, hown⟩ := hkept.published hroot (hplain i) hok
    obtain ⟨hworkspace, hstore⟩ := Publication.founded_type.mp hfounded
    exact ⟨haction, hworkspace, hstore, hown⟩
  · obtain ⟨level, hshared, reply, houtrun, he, -⟩ := hkept.failed hroot (hplain i) herror
    exact ⟨level, hshared, reply, houtrun, he⟩
  · rintro ⟨level, -, reply, houtrun, rfl⟩
    exact hkept.of_outrun hroot (hplain i) houtrun
  · obtain ⟨level, hshared, reply, houtrun, -, hown⟩ := hkept.failed hroot (hplain i) herror
    have hfresh := hkept.eq_none_of_outrun houtrun
    refine ⟨hown, fun ⟨hworkspace, hstore⟩ => ?_⟩
    cases level with
    | workspace => exact hworkspace.ne_none hfresh
    | store => exact hstore.ne_none hfresh
    | type => exact hshared rfl
  · obtain ⟨answer, hanswer⟩ := Option.isSome_iff_exists.mp (hall i)
    cases answer with
    | ok action => exact ⟨i, action, hanswer⟩
    | error e =>
      obtain ⟨level, -, reply, houtrun, -⟩ := hkept.failed hroot (hplain i) hanswer
      exact hkept.exists_published hroot hplain hall houtrun

/-! ## Two calls against an empty catalog -/

/-- The tables that two calls publish into one datastore. -/
def twoTables : Bool → Publication
  | true => .plain "roads"
  | false => .plain "rivers"

/-- Both calls against an empty catalog, in turns. -/
def twoInTurns (turns : List Bool) : Parley Bool :=
  (Parley.start (fun i => (twoTables i).dialogue .plain) fun _ => none).run
    (plainServer plainRoot) turns

/-- Both calls look for the workspace before one of them makes it. -/
def crossingTurns : List Bool := [true, false, true, false, true, true, true, true]

/-- The call that makes the workspace publishes its table, and the other is refused. -/
theorem twoInTurns_crossing :
    (twoInTurns crossingTurns).answer? true = some (.ok .created) ∧
      (twoInTurns crossingTurns).answer? false = some (.error (.catalogRequestFailed 409 "")) ∧
      (twoInTurns crossingTurns).holdings ((twoTables false).resource .type) = none := by
  decide +kernel

/-- Two calls that look for the workspace of an empty catalog before one of them makes it: the other
fails, and its table is not published. -/
theorem publishing_fails_in_turns :
    let last := twoInTurns crossingTurns
    Conforms plainRoot (plainServer plainRoot) ∧
      (twoTables true).workspace = (twoTables false).workspace ∧
      (twoTables true).store = (twoTables false).store ∧
      (twoTables true).table ≠ (twoTables false).table ∧
      last.answer? true = some (.ok .created) ∧
      last.answer? false = some (.error (.catalogRequestFailed 409 "")) ∧
      last.holdings ((twoTables false).resource .type) = none :=
  ⟨conforms_plainServer plainRoot, rfl, rfl, by decide, twoInTurns_crossing⟩

/-- The call that fails against an empty catalog was outrun, and the other has published its
table. -/
theorem publishing_fails_iff_outrun_plain :
    let last := twoInTurns crossingTurns
    Url.root? Client.plain.settings.restUrl = some plainRoot ∧
      Conforms plainRoot (plainServer plainRoot) ∧ (∀ i, (twoTables i).IsPlain) ∧
      Function.Injective (fun i => (twoTables i).resource .type) ∧
      (∃ level ≠ .type, ∃ reply,
        Outrun plainRoot false ((twoTables false).resource level) reply last.log) ∧
      ∃ i action, last.answer? i = some (.ok action) := by
  intro last
  have hserver := conforms_plainServer plainRoot
  have hplain : ∀ i, (twoTables i).IsPlain := by
    intro i
    cases i <;> exact Publication.isPlain_plain (by decide +kernel)
  have hdistinct : Function.Injective fun i => (twoTables i).resource .type := by
    intro i k hsame
    revert i k
    decide
  obtain ⟨hcreated, hrefused, -⟩ := twoInTurns_crossing
  have hall : ∀ i, (last.answer? i).isSome := by
    intro i
    cases i with
    | true => exact hcreated ▸ rfl
    | false => exact hrefused ▸ rfl
  obtain ⟨-, -, hfails, -, hsome⟩ := publishing_fails_iff_outrun .plain root?_plain hserver
    twoTables hplain hdistinct (fun _ => none) crossingTurns
  obtain ⟨level, hshared, reply, houtrun, -⟩ := (hfails false _).mp hrefused
  exact ⟨root?_plain, hserver, hplain, hdistinct, ⟨level, hshared, reply, houtrun⟩,
    hsome ⟨true⟩ hall⟩

end LayerPress.Catalog
