import LayerPress.Proofs.JobEndings
import Mathlib.Logic.Function.Basic

/-!
# What subscribers hear

A subscriber receives one event at a time, whenever it likes, and loses the oldest events when it
falls behind. Whatever it does, what it has received together with what it can still receive is part
of what was sent to its channel since it subscribed, and ends with the same event. The last event of
a job is its terminal event, so a subscriber that came before it cannot miss it; and as nothing is
sent after it, one that came later hears nothing at all.
-/

namespace LayerPress

/-! ## Receiving -/

/-- An event changes neither the number nor the channel of its receiver. -/
theorem Receiver.push_id_channel (r : Receiver) (e : TaskEvent) :
    (r.push e).id = r.id ∧ (r.push e).channel = r.channel := by
  unfold push
  split <;> exact ⟨rfl, rfl⟩

namespace Broadcast

variable {b : Broadcast} {n : Nat} {r : Receiver}

/-- The next unread event of a receiver, which has then been read. -/
def receive (b : Broadcast) (id : Nat) : Option TaskEvent × Broadcast :=
  match b.receiver? id with
  | none => (none, b)
  | some r =>
    (r.unread.head?,
      { b with receivers := b.receivers.map fun x =>
        if x.id == id then { x with missed := 0, unread := x.unread.tail } else x })

/-- The events received in so many attempts. -/
def receiveMany (b : Broadcast) (id : Nat) : Nat → List TaskEvent
  | 0 => []
  | n + 1 => (b.receive id).1.toList ++ (b.receive id).2.receiveMany id n

/-- What changes receivers but not their ids is seen in the receiver of an id. -/
theorem receiver?_map {f : Receiver → Receiver} (hid : ∀ x, (f x).id = x.id) (b : Broadcast)
    (n : Nat) : ({ b with receivers := b.receivers.map f } : Broadcast).receiver? n =
      (b.receiver? n).map f := by
  have hcomp : ((·.id == n) ∘ f) = (·.id == n) := by
    funext x
    simp [hid]
  rw [receiver?, List.find?_map, hcomp, receiver?]

/-- Receiving yields the oldest unread event. -/
theorem receive_fst (h : b.receiver? n = some r) : (b.receive n).1 = r.unread.head? := by
  rw [receive, h]

/-- What has been received is no longer unread. -/
theorem receiver?_receive (h : b.receiver? n = some r) (k : Nat) :
    (b.receive n).2.receiver? k = (b.receiver? k).map fun x =>
      if x.id == n then { x with missed := 0, unread := x.unread.tail } else x := by
  rw [receive, h]
  apply receiver?_map
  intro x
  split <;> rfl

/-- Sending reaches the receivers of the channel. -/
theorem receiver?_send (b : Broadcast) (channel : Nat) (e : TaskEvent) (n : Nat) :
    (b.send channel e).receiver? n =
      (b.receiver? n).map fun x => if x.channel == channel then x.push e else x := by
  apply receiver?_map
  intro x
  split
  · exact (x.push_id_channel e).1
  · rfl

/-- A new subscription leaves the others as they are. -/
theorem receiver?_subscribe (h : b.receiver? n = some r) (channel : Nat) :
    (b.subscribe channel).2.receiver? n = some r := by
  rw [receiver?, subscribe, List.find?_append, ← receiver?, h]
  rfl

/-- A new subscription makes a receiver that has heard nothing. -/
theorem receiver?_subscribe_self (hfresh : ∀ r ∈ b.receivers, r.id < b.nextReceiver)
    (channel : Nat) : (b.subscribe channel).2.receiver? b.nextReceiver =
      some ⟨b.nextReceiver, channel, 0, []⟩ := by
  have hnone : b.receivers.find? (·.id == b.nextReceiver) = none := by
    rw [List.find?_eq_none]
    intro r hr hid
    have := hfresh r hr
    rw [beq_iff_eq.mp hid] at this
    exact Nat.lt_irrefl _ this
  rw [receiver?, subscribe, List.find?_append, hnone]
  simp

end Broadcast

/-- What a receiver got of what was sent: part of it in its order, and the last of it. -/
structure Keeps (sent got : List TaskEvent) : Prop where
  part : got.Sublist sent
  last : got.getLast? = sent.getLast?

/-- Beyond its capacity a receiver loses old events and keeps the new one. -/
theorem Keeps.push {sent earlier : List TaskEvent} {r : Receiver}
    (h : Keeps sent (earlier ++ r.unread)) (e : TaskEvent) :
    Keeps (sent ++ [e]) (earlier ++ (r.push e).unread) := by
  have hpart : (earlier ++ (r.push e).unread).Sublist (sent ++ [e]) := by
    unfold Receiver.push
    split
    · rw [← List.append_assoc]
      exact h.part.append_right [e]
    · rw [← List.append_assoc]
      refine List.Sublist.append_right ?_ [e]
      exact ((List.drop_sublist 1 r.unread).append_left earlier).trans h.part
  refine ⟨hpart, ?_⟩
  unfold Receiver.push
  split <;> simp

/-- Of events that end with the only terminal one, whoever has not missed it gets it, and whoever
comes after it gets nothing. -/
theorem Keeps.terminal {before after got earlier : List TaskEvent} {last : TaskEvent}
    (h : Keeps after got) (hsplit : before ++ after = earlier ++ [last])
    (hterminal : last.isTerminal = true) (hquiet : ∀ e ∈ earlier, e.isTerminal = false) :
    ((∀ e ∈ before, e.isTerminal = false) → last ∈ got) ∧
      ((∃ e ∈ before, e.isTerminal = true) → got = []) := by
  cases after using List.reverseRecOn with
  | nil =>
    rw [List.append_nil] at hsplit
    refine ⟨fun hbefore => ?_, fun _ => List.sublist_nil.mp h.part⟩
    have hlast := hbefore last (by simp [hsplit])
    rw [hterminal] at hlast
    cases hlast
  | append_singleton rest e =>
    rw [← List.append_assoc] at hsplit
    obtain ⟨rfl, hsame⟩ := List.append_inj' hsplit rfl
    obtain rfl := List.singleton_inj.mp hsame
    constructor
    · intro _
      have hgot := h.last
      rw [List.getLast?_concat] at hgot
      exact List.mem_of_getLast? hgot
    · rintro ⟨x, hx, hxterminal⟩
      have := hquiet x (List.mem_append_left _ hx)
      rw [hxterminal] at this
      cases this

/-! ## What reaches the receivers -/

/-- The event that an action sends on a channel. -/
def TaskAction.eventOn? (channel : Nat) : TaskAction → Option TaskEvent
  | announce other e => if other = channel then some e else none
  | _ => none

/-- The events sent on a channel. -/
def sentOn (channel : Nat) (deeds : List Deed) : List TaskEvent :=
  deeds.filterMap (·.action.eventOn? channel)

/-- One more deed may send one more event. -/
theorem sentOn_concat (channel : Nat) (deeds : List Deed) (d : Deed) :
    sentOn channel (deeds ++ [d]) = sentOn channel deeds ++ (d.action.eventOn? channel).toList := by
  cases hd : d.action.eventOn? channel <;> simp [sentOn, hd]

/-- The job that a deed subscribed to, with the number of the new receiver. -/
def Deed.subscription? : Deed → Option (JobId × Nat)
  | ⟨_, .subscribe id, some receiver⟩ => some (id, receiver)
  | _ => none

section
variable {σ ρ : Type} {office : Office σ} {m m' : Machine σ} {d : Deed}

/-- What an action does to the receivers: it sends an event, it makes a receiver for a job that is
found, or it leaves them as they are. -/
inductive Machine.Heard (m : Machine σ) (d : Deed) (b : Broadcast) : Prop
  | sent {channel : Nat} {e : TaskEvent} (action : d.action = .announce channel e)
      (subscription : d.subscription? = none) (after : b = m.broadcast.send channel e)
  | joined {id : JobId} {j : Job} (silent : ∀ channel, d.action.eventOn? channel = none)
      (subscription : d.subscription? = some (id, m.broadcast.nextReceiver))
      (found : m.jobs.get? id = some j) (after : b = (m.broadcast.subscribe j.channel).2)
  | other (silent : ∀ channel, d.action.eventOn? channel = none)
      (subscription : d.subscription? = none) (receivers : b.receivers = m.broadcast.receivers)
      (nextReceiver : b.nextReceiver = m.broadcast.nextReceiver)

/-- What is quiet or queues a job sends nothing. -/
theorem TaskAction.eventOn?_eq_none {a : TaskAction} (h : a.isQuiet = true ∨ a.queues = true)
    (channel : Nat) : a.eventOn? channel = none := by
  cases a with
  | announce => simp [isQuiet, queues] at h
  | _ => rfl

/-- What is quiet or queues a job makes no receiver. -/
theorem Deed.subscription?_eq_none (h : d.action.isQuiet = true ∨ d.action.queues = true) :
    d.subscription? = none := by
  obtain ⟨who, a, x⟩ := d
  cases a with
  | subscribe => simp [TaskAction.isQuiet, TaskAction.queues] at h
  | _ => rfl

/-- Every action does one of these. -/
theorem Machine.Handled.heard (h : m.Handled office d m') : m.Heard d m'.broadcast := by
  cases h with
  | announced => exact .sent rfl rfl rfl
  | joined _ found => exact .joined (fun _ => rfl) rfl found rfl
  | ended | missed => exact .other (fun _ => rfl) rfl rfl rfl
  | quiet quiet _ broadcast =>
    exact .other (TaskAction.eventOn?_eq_none (.inl quiet))
      (Deed.subscription?_eq_none (.inl quiet)) (broadcast ▸ rfl) (broadcast ▸ rfl)
  | refused queues _ _ broadcast | queued queues _ _ _ _ broadcast =>
    exact .other (TaskAction.eventOn?_eq_none (.inr queues))
      (Deed.subscription?_eq_none (.inr queues)) (broadcast ▸ rfl) (broadcast ▸ rfl)

variable {c : Course σ ρ}

/-- What is sent on the channel of a job is what its task sends. -/
theorem Course.Enrolled.sentOn_eq (h : c.Enrolled office) {i : Nat} {job : Assignment}
    (hjob : (Roster.ofDeeds c.deeds).jobs[i]? = some job) {deeds : List Deed}
    (hdeeds : ∀ d ∈ deeds, d ∈ c.deeds) :
    sentOn job.channel deeds = eventsIn (exchangesOf (.job i) deeds) := by
  rw [sentOn, eventsIn, exchangesOf, List.filterMap_map, List.filterMap_filter]
  refine List.filterMap_congr fun d hd => ?_
  have hmem := hdeeds d hd
  cases haction : d.action with
  | announce channel e =>
    cases hactor : d.actor with
    | client k =>
      have hopen := h.requests d hmem k hactor
      rw [haction] at hopen
      exact hopen.elim
    | job k =>
      have hlt := h.actors d hmem k hactor
      obtain ⟨other, hother⟩ := h.exists_job (List.getElem?_eq_getElem hlt)
      obtain ⟨t, -, work, events, verdict, htrace⟩ := h.exists_trace hother
      have hchannel : channel = other.channel := by
        refine htrace.channel ⟨d.action, d.answer⟩ ?_ channel e haction
        exact List.mem_map.mpr ⟨d, List.mem_filter.mpr ⟨hmem, by simp [hactor]⟩, rfl⟩
      by_cases hk : k = i
      · subst hk
        obtain rfl := Option.some.inj (hother.symm.trans hjob)
        simp [TaskAction.eventOn?, TaskAction.event?, haction, hchannel]
      · have hne : channel ≠ job.channel := fun heq =>
          hk (h.eq_of_channel hother hjob (hchannel.symm.trans heq))
        simp [TaskAction.eventOn?, hne, hk]
  | _ => simp [TaskAction.eventOn?, TaskAction.event?, haction]

end

/-! ## Courses with subscribers -/

/-- A course, and what each receiver has been delivered. -/
structure Viewing (σ ρ : Type) where
  course : Course σ ρ
  delivered : Nat → List TaskEvent

/-- What happens next: someone's turn comes, or a receiver takes an event. -/
inductive Happening where
  | turn (t : Turn)
  | receive (receiver : Nat)
  deriving DecidableEq, Repr

/-- The course with other subscriptions. -/
def Course.withBroadcast {σ ρ : Type} (c : Course σ ρ) (b : Broadcast) : Course σ ρ :=
  { c with scene := { c.scene with machine := { c.scene.machine with broadcast := b } } }

/-- The roster is that of the deeds, whoever has subscribed. -/
theorem Course.Enrolled.withBroadcast {σ ρ : Type} {office : Office σ} {c : Course σ ρ}
    (h : c.Enrolled office) {b : Broadcast}
    (hchannel : b.nextChannel = c.scene.machine.broadcast.nextChannel) :
    (c.withBroadcast b).Enrolled office :=
  ⟨h.nextJob, hchannel.trans h.nextChannel, h.issued, h.increasing, h.length, h.actors, h.tasks,
    h.clients, h.requests⟩

namespace Viewing

variable {σ ρ : Type}

/-- The beginning of a course, without receivers. -/
def start (s : Scene σ ρ) : Viewing σ ρ := ⟨Course.start s, fun _ => []⟩

/-- The subscriptions at the moment. -/
def broadcast (v : Viewing σ ρ) : Broadcast := v.course.scene.machine.broadcast

/-- What happens once. -/
def next (office : Office σ) (v : Viewing σ ρ) : Happening → Viewing σ ρ
  | .turn t => { v with course := v.course.next office t }
  | .receive n =>
    let (e, b) := v.broadcast.receive n
    { course := v.course.withBroadcast b
      delivered := Function.update v.delivered n (v.delivered n ++ e.toList) }

/-- Everything that happens in turn. -/
def run (office : Office σ) (v : Viewing σ ρ) (happenings : List Happening) : Viewing σ ρ :=
  happenings.foldl (next office) v

/-- What every deed, every passing of time and every delivery preserves holds throughout. -/
theorem run_induction {office : Office σ} {P : Viewing σ ρ → Prop} {v : Viewing σ ρ} (hstart : P v)
    (hact : ∀ (v : Viewing σ ρ) who d s, P v → v.course.scene.take office who = some (d, s) →
      P ⟨⟨s, v.course.deeds ++ [d]⟩, v.delivered⟩)
    (hpass : ∀ (v : Viewing σ ρ) elapsed, P v →
      P ⟨⟨v.course.scene.later elapsed, v.course.deeds⟩, v.delivered⟩)
    (hreceive : ∀ (v : Viewing σ ρ) n, P v → P (v.next office (.receive n)))
    (happenings : List Happening) : P (v.run office happenings) := by
  induction happenings generalizing v with
  | nil => exact hstart
  | cons happening rest ih =>
    refine ih (v := v.next office happening) ?_
    cases happening with
    | receive n => exact hreceive v n hstart
    | turn t =>
      cases t with
      | pass elapsed => exact hpass v elapsed hstart
      | act who =>
        simp only [next, Course.next]
        split
        · next d s htake => exact hact v who d s hstart htake
        · exact hstart

/-- What a receiver has been delivered, and what can still be delivered to it. -/
def received (v : Viewing σ ρ) (n : Nat) : List TaskEvent :=
  v.delivered n ++ ((v.broadcast.receiver? n).map (·.unread)).getD []

/-- The receiver of each subscription is on the channel of its job, and keeps what was sent there
since. -/
structure Attended (office : Office σ) (v : Viewing σ ρ) : Prop where
  rolled : v.course.Enrolled office
  stored : v.course.Stored
  fresh : ∀ r ∈ v.broadcast.receivers, r.id < v.broadcast.nextReceiver
  unused : ∀ n, v.broadcast.nextReceiver ≤ n → v.delivered n = []
  keeps : ∀ (p : Nat) id n, (v.course.deeds[p]?.bind (·.subscription?)) = some (id, n) →
    ∃ (i : Nat) (job : Assignment) (r : Receiver),
      (Roster.ofDeeds v.course.deeds).jobs[i]? = some job ∧ job.id = id ∧
        v.broadcast.receiver? n = some r ∧ r.channel = job.channel ∧
        Keeps (sentOn job.channel (v.course.deeds.drop (p + 1))) (v.delivered n ++ r.unread)

/-- A scene in which nothing has happened is attended by nobody. -/
theorem Attended.start (office : Office σ) (site : Site σ) (workers : Nat) {clients : List (Task ρ)}
    (hclients : ∀ t ∈ clients, ClientTask t) :
    (Viewing.start ⟨Machine.start site workers, clients⟩).Attended office where
  rolled := .start office site workers hclients
  stored := .start site workers clients
  fresh := by simp [broadcast, Viewing.start, Course.start, Machine.start, Broadcast.empty]
  unused := fun _ _ => rfl
  keeps := by simp [Viewing.start, Course.start]

variable {office : Office σ} {v : Viewing σ ρ} {d : Deed}

/-- What a deed sends reaches those who have subscribed before. -/
theorem Attended.keeps_of_earlier (h : v.Attended office) {b : Broadcast}
    (hheard : v.course.scene.machine.Heard d b) {p n : Nat} {id : JobId}
    (hp : (v.course.deeds[p]?.bind (·.subscription?)) = some (id, n))
    (hlt : p < v.course.deeds.length) :
    ∃ (i : Nat) (job : Assignment) (r : Receiver),
      (Roster.ofDeeds (v.course.deeds ++ [d])).jobs[i]? = some job ∧ job.id = id ∧
        b.receiver? n = some r ∧ r.channel = job.channel ∧
        Keeps (sentOn job.channel ((v.course.deeds ++ [d]).drop (p + 1)))
          (v.delivered n ++ r.unread) := by
  obtain ⟨i, job, r, hjob, hid, hr, hchannel, hkeeps⟩ := h.keeps p id n hp
  have hjob' := Roster.getElem?_concat hjob d
  simp only [List.drop_append_of_le_length (Nat.succ_le_of_lt hlt), sentOn_concat]
  cases hheard with
  | @sent channel e action _ after =>
    have hr' : b.receiver? n = some (if r.channel == channel then r.push e else r) := by
      rw [after, Broadcast.receiver?_send, ← Viewing.broadcast, hr]
      rfl
    refine ⟨i, job, _, hjob', hid, hr', ?_⟩
    rw [action, TaskAction.eventOn?, hchannel]
    by_cases heq : job.channel = channel
    · simp only [heq, beq_self_eq_true, if_true, Option.toList_some]
      exact ⟨(r.push_id_channel e).2.trans (hchannel.trans heq), heq ▸ hkeeps.push e⟩
    · simp only [beq_eq_false_iff_ne.mpr heq, Ne.symm heq, if_false, Bool.false_eq_true,
        Option.toList_none, List.append_nil]
      exact ⟨hchannel, hkeeps⟩
  | joined silent _ _ after =>
    have hr' := Broadcast.receiver?_subscribe (b := v.broadcast) hr
    refine ⟨i, job, r, hjob', hid, after ▸ hr' _, hchannel, ?_⟩
    rw [silent, Option.toList_none, List.append_nil]
    exact hkeeps
  | other silent _ receivers _ =>
    refine ⟨i, job, r, hjob', hid, ?_, hchannel, ?_⟩
    · rw [Broadcast.receiver?, receivers]
      exact hr
    · rw [silent, Option.toList_none, List.append_nil]
      exact hkeeps

/-- Who has just subscribed has the channel of the job, and has missed nothing since. -/
theorem Attended.keeps_of_joined (h : v.Attended office) {b : Broadcast}
    (hheard : v.course.scene.machine.Heard d b) {n : Nat} {id : JobId}
    (hd : d.subscription? = some (id, n)) :
    ∃ (i : Nat) (job : Assignment) (r : Receiver),
      (Roster.ofDeeds (v.course.deeds ++ [d])).jobs[i]? = some job ∧ job.id = id ∧
        b.receiver? n = some r ∧ r.channel = job.channel ∧
        Keeps [] (v.delivered n ++ r.unread) := by
  cases hheard with
  | sent _ subscription => rw [subscription] at hd; cases hd
  | other _ subscription => rw [subscription] at hd; cases hd
  | @joined other j _ subscription found after =>
    cases Option.some.inj (subscription.symm.trans hd)
    obtain ⟨hj, hid⟩ := (JobStore.get?_eq_some_iff h.stored.sound).mp found
    obtain ⟨i, job, hjob, hshows⟩ := h.stored.shown j hj
    have hr : b.receiver? v.broadcast.nextReceiver =
        some ⟨v.broadcast.nextReceiver, j.channel, 0, []⟩ :=
      after ▸ Broadcast.receiver?_subscribe_self h.fresh j.channel
    refine ⟨i, job, _, Roster.getElem?_concat hjob d, hshows.id.symm.trans hid, hr,
      hshows.channel, ?_⟩
    rw [show v.delivered v.course.scene.machine.broadcast.nextReceiver = [] from
      h.unused _ (Nat.le_refl _)]
    exact ⟨.slnil, rfl⟩

/-- The receiver of each subscription keeps what was sent since, after one more deed. -/
theorem Attended.keeps_of_heard (h : v.Attended office) {b : Broadcast}
    (hheard : v.course.scene.machine.Heard d b) {p n : Nat} {id : JobId}
    (hp : ((v.course.deeds ++ [d])[p]?.bind (·.subscription?)) = some (id, n)) :
    ∃ (i : Nat) (job : Assignment) (r : Receiver),
      (Roster.ofDeeds (v.course.deeds ++ [d])).jobs[i]? = some job ∧ job.id = id ∧
        b.receiver? n = some r ∧ r.channel = job.channel ∧
        Keeps (sentOn job.channel ((v.course.deeds ++ [d]).drop (p + 1)))
          (v.delivered n ++ r.unread) := by
  rcases Nat.lt_or_ge p v.course.deeds.length with hlt | hge
  · rw [List.getElem?_append_left hlt] at hp
    exact h.keeps_of_earlier hheard hp hlt
  · -- The deed is the subscription itself.
    have hd : d.subscription? = some (id, n) := by
      rw [List.getElem?_append_right hge] at hp
      cases hk : p - v.course.deeds.length with
      | zero => simpa [hk] using hp
      | succ k => simp [hk] at hp
    have hnothing : (v.course.deeds ++ [d]).drop (p + 1) = [] := by
      rw [List.drop_eq_nil_iff, List.length_append, List.length_singleton]
      omega
    rw [hnothing]
    exact h.keeps_of_joined hheard hd

/-- Receivers are attended to after one more deed. -/
theorem Attended.act (h : v.Attended office) (hinj : Function.Injective office.jobId) {who : Actor}
    {s : Scene σ ρ} (htake : v.course.scene.take office who = some (d, s)) :
    Viewing.Attended office ⟨⟨s, v.course.deeds ++ [d]⟩, v.delivered⟩ := by
  obtain ⟨m, htook⟩ := Scene.exists_took htake
  have hbroadcast : s.machine.broadcast = m.broadcast := by rw [htook.machine]
  have hheard := hbroadcast ▸ htook.handled.heard
  refine ⟨h.rolled.act htake, h.stored.act h.rolled hinj htake, ?_, ?_, ?_⟩
  · change ∀ r ∈ s.machine.broadcast.receivers, r.id < s.machine.broadcast.nextReceiver
    cases hheard with
    | @sent channel e _ _ after =>
      rw [after]
      intro r hr
      obtain ⟨x, hx, rfl⟩ := List.mem_map.mp hr
      have hlt := h.fresh x hx
      split
      · rw [(x.push_id_channel e).1]
        exact hlt
      · exact hlt
    | joined _ _ _ after =>
      rw [after]
      intro r hr
      rcases List.mem_append.mp hr with hr | hr
      · exact Nat.lt_succ_of_lt (h.fresh r hr)
      · rw [List.mem_singleton.mp hr]
        exact Nat.lt_succ_self _
    | other _ _ receivers nextReceiver =>
      rw [receivers, nextReceiver]
      exact h.fresh
  · change ∀ n, s.machine.broadcast.nextReceiver ≤ n → v.delivered n = []
    have hle : v.broadcast.nextReceiver ≤ s.machine.broadcast.nextReceiver := by
      cases hheard with
      | sent _ _ after => exact Nat.le_of_eq (after ▸ rfl)
      | joined _ _ _ after => exact after ▸ Nat.le_succ _
      | other _ _ _ nextReceiver => exact Nat.le_of_eq nextReceiver.symm
    exact fun n hn => h.unused n (Nat.le_trans hle hn)
  · exact fun p id n hp => h.keeps_of_heard hheard hp

/-- Receivers are attended to while time goes by. -/
theorem Attended.later (h : v.Attended office) (elapsed : Nat) :
    Viewing.Attended office ⟨⟨v.course.scene.later elapsed, v.course.deeds⟩, v.delivered⟩ :=
  ⟨h.rolled.later elapsed, h.stored.later elapsed, h.fresh, h.unused, h.keeps⟩

/-- A number without a receiver takes nothing. -/
theorem next_receive_of_none {k : Nat} (hnone : v.broadcast.receiver? k = none) :
    v.next office (.receive k) = v := by
  simp only [next, Broadcast.receive, hnone, Option.toList_none, List.append_nil,
    Function.update_eq_self]
  rfl

/-- Who takes an event keeps what it has, and so does everyone else. -/
theorem keeps_of_receive (office : Office σ) {k n : Nat} {r x : Receiver}
    (hr : v.broadcast.receiver? n = some r) (hx : v.broadcast.receiver? k = some x)
    {sent : List TaskEvent} (h : Keeps sent (v.delivered n ++ r.unread)) :
    ∃ r', (v.next office (.receive k)).broadcast.receiver? n = some r' ∧ r'.channel = r.channel ∧
      Keeps sent ((v.next office (.receive k)).delivered n ++ r'.unread) := by
  have hid : r.id = n := by simpa using List.find?_some hr
  refine ⟨_, (Broadcast.receiver?_receive hx n).trans (by rw [hr]; rfl), ?_⟩
  change _ ∧ Keeps _ (Function.update v.delivered k (v.delivered k ++
    (v.broadcast.receive k).1.toList) n ++ _)
  by_cases hn : n = k
  · subst hn
    obtain rfl := Option.some.inj (hr.symm.trans hx)
    rw [Function.update_self, Broadcast.receive_fst hx, List.append_assoc]
    simp only [hid, beq_self_eq_true, if_true]
    refine ⟨trivial, ?_⟩
    rw [show r.unread.head?.toList ++ r.unread.tail = r.unread by cases r.unread <;> rfl]
    exact h
  · rw [Function.update_of_ne hn]
    simp only [hid, beq_eq_false_iff_ne.mpr hn, Bool.false_eq_true, if_false]
    exact ⟨trivial, h⟩

/-- A receiver that takes an event has it delivered, and the others keep what they have. -/
theorem Attended.receive (h : v.Attended office) (k : Nat) :
    (v.next office (.receive k)).Attended office := by
  cases hk : v.broadcast.receiver? k with
  | none =>
    rw [next_receive_of_none hk]
    exact h
  | some x =>
    have hafter : (v.broadcast.receive k).2 = { v.broadcast with
        receivers := v.broadcast.receivers.map fun y =>
          if y.id == k then { y with missed := 0, unread := y.unread.tail } else y } := by
      rw [Broadcast.receive, hk]
    have hchannel : (v.broadcast.receive k).2.nextChannel = v.broadcast.nextChannel := by
      rw [hafter]
    refine ⟨h.rolled.withBroadcast hchannel,
      ⟨h.stored.sound, h.stored.shown, h.stored.stored⟩, ?_, ?_, ?_⟩
    · change ∀ r ∈ (v.broadcast.receive k).2.receivers,
        r.id < (v.broadcast.receive k).2.nextReceiver
      rw [hafter]
      intro r hr
      obtain ⟨y, hy, rfl⟩ := List.mem_map.mp hr
      have hlt := h.fresh y hy
      split <;> exact hlt
    · change ∀ n, (v.broadcast.receive k).2.nextReceiver ≤ n →
        Function.update v.delivered k _ n = []
      rw [hafter]
      intro n hn
      have hid : x.id = k := by simpa using List.find?_some hk
      have hne : n ≠ k := by
        have := h.fresh x (List.mem_of_find?_eq_some hk)
        change v.broadcast.nextReceiver ≤ n at hn
        omega
      rw [Function.update_of_ne hne]
      exact h.unused n hn
    · intro p id n hp
      obtain ⟨i, job, r, hjob, hid, hr, hchannel, hkeeps⟩ := h.keeps p id n hp
      obtain ⟨r', hr', hsame, hkept⟩ := keeps_of_receive office hr hk hkeeps
      exact ⟨i, job, r', hjob, hid, hr', hsame.trans hchannel, hkept⟩

/-- Receivers are attended to throughout. -/
theorem Attended.run (h : v.Attended office) (hinj : Function.Injective office.jobId)
    (happenings : List Happening) : (v.run office happenings).Attended office :=
  run_induction h (fun _ _ _ _ hv htake => hv.act hinj htake) (fun _ elapsed hv => hv.later elapsed)
    (fun _ k hv => hv.receive k) happenings

end Viewing

/-! ## The end of a job -/

section
variable {σ ρ : Type} {office : Office σ}

/-- What was sent on a channel was sent before or after a subscription. -/
theorem sentOn_eq_append {deeds : List Deed} {p n : Nat} {id : JobId}
    (hp : (deeds[p]?.bind (·.subscription?)) = some (id, n)) (channel : Nat) :
    sentOn channel deeds =
      sentOn channel (deeds.take p) ++ sentOn channel (deeds.drop (p + 1)) := by
  obtain ⟨d, hd, hsubscription⟩ := Option.bind_eq_some_iff.mp hp
  have hsilent : d.action.eventOn? channel = none := by
    obtain ⟨who, a, x⟩ := d
    cases a with
    | announce => cases hsubscription
    | _ => rfl
  have hsplit : deeds = deeds.take p ++ d :: deeds.drop (p + 1) := by
    obtain ⟨hlt, rfl⟩ := List.getElem?_eq_some_iff.mp hd
    rw [List.getElem_cons_drop, List.take_append_drop]
  conv_lhs => rw [hsplit]
  simp [sentOn, hsilent]

/-- The end of a job reaches everyone who subscribed before it was sent, however far they fall
behind, and those who subscribe later hear nothing. -/
theorem subscriber_hears_end (office : Office σ) (hinj : Function.Injective office.jobId)
    (site : Site σ) (workers : Nat) (origins : List String) (requests : List Admin.Request)
    (happenings : List Happening) :
    let v := (Viewing.start (Scene.receiving site workers origins requests)).run office happenings
    ∀ (p n : Nat) (id : JobId), (v.course.deeds[p]?.bind (·.subscription?)) = some (id, n) →
      (∀ j, v.course.scene.machine.jobs.get? id = some j → j.isRunning = false) →
        ∃ (i : Nat) (job : Assignment) (last : TaskEvent),
          (Roster.ofDeeds v.course.deeds).jobs[i]? = some job ∧ job.id = id ∧
            (eventsIn (exchangesOf (.job i) v.course.deeds)).getLast? = some last ∧
            last.isTerminal = true ∧
            let before := eventsIn (exchangesOf (.job i) (v.course.deeds.take p))
            ((∀ e ∈ before, e.isTerminal = false) → last ∈ v.received n) ∧
              ((∃ e ∈ before, e.isTerminal = true) → v.received n = []) := by
  intro v p n id hp hended
  have h : v.Attended office := by
    apply Viewing.Attended.run _ hinj
    apply Viewing.Attended.start
    simp [Admin.clientTask_respond]
  obtain ⟨i, job, r, hjob, rfl, hr, -, hkeeps⟩ := h.keeps p id n hp
  obtain ⟨t, -, work, events, verdict, htrace⟩ := h.rolled.exists_trace hjob
  have hverdict : endingsIn (exchangesOf (.job i) v.course.deeds) ≠ [] := by
    intro hnone
    obtain ⟨j, hfound, hshows⟩ :=
      (h.stored.storeTrace h.rolled hinj hjob htrace.ended).running hnone
    have hrunning : j.isRunning = true := by simp [Job.isRunning, hshows.status]
    rw [hended j hfound] at hrunning
    cases hrunning
  obtain ⟨earlier, last, hevents, hterminal, hquiet⟩ := htrace.report.exists_terminal
  have hall := (htrace.complete hverdict).2.trans hevents
  refine ⟨i, job, last, hjob, rfl, by simp [hall], hterminal, ?_⟩
  have hreceived : v.received n = v.delivered n ++ r.unread := by rw [Viewing.received, hr]; rfl
  have hsent := sentOn_eq_append hp job.channel
  rw [h.rolled.sentOn_eq hjob (fun _ hd => hd), hall,
    h.rolled.sentOn_eq hjob (fun _ hd => List.mem_of_mem_take hd)] at hsent
  rw [hreceived]
  exact hkeeps.terminal hsent.symm hterminal hquiet

end

/-- The plain office with a name for every job. -/
def Office.named : Office Unit :=
  { Office.plain with jobId := fun n => Office.plain.jobId (n + 1) }

/-- The named office never gives two jobs the same id. -/
theorem Office.named_jobId_injective : Function.Injective Office.named.jobId := by
  intro a b h
  simpa using Office.plain_jobId_injective h

/-- A request for the events of the first job. -/
def followRequest : Admin.Request :=
  ⟨"GET", "/api/v1/jobs/j/events", [], ""⟩

/-- The plain layer is imported, and its job followed while these things happen. -/
def followed (happenings : List Happening) : Viewing Unit Admin.Response :=
  (Viewing.start (Scene.receiving (Site.plain [.plain "roads"]) 1 []
    [importRequest, followRequest])).run .named happenings

/-- The job is queued. -/
def queueing : List Happening := List.replicate 2 (.turn (.act (.client 0)))

/-- The job is done. -/
def working : List Happening := List.replicate 29 (.turn (.act (.job 0)))

/-- Someone subscribes to the job. -/
def following : List Happening := [.turn (.act (.client 1))]

/-- Someone subscribes before the job does its work, and takes two events after it. -/
def promptFollowing : List Happening :=
  queueing ++ following ++ working ++ [.receive 0, .receive 0]

/-- Who subscribes before the job does its work hears the end of it. -/
theorem subscriber_hears_end_prompt :
    Function.Injective Office.named.jobId ∧
      ((followed promptFollowing).course.deeds[2]?.bind (·.subscription?)) = some ("j", 0) ∧
      (∀ j, (followed promptFollowing).course.scene.machine.jobs.get? "j" = some j →
        j.isRunning = false) ∧
      ∃ last ∈ (followed promptFollowing).received 0, last.isTerminal = true := by
  have hp : ((followed promptFollowing).course.deeds[2]?.bind (·.subscription?)) =
      some ("j", 0) := by
    decide +kernel
  have hstatus : ((followed promptFollowing).course.scene.machine.jobs.get? "j").map (·.isRunning) =
      some false := by
    decide +kernel
  have hended : ∀ j, (followed promptFollowing).course.scene.machine.jobs.get? "j" = some j →
      j.isRunning = false := by
    intro j hj
    rw [hj] at hstatus
    exact Option.some.inj hstatus
  have hactors : ∀ d ∈ (followed promptFollowing).course.deeds.take 2, d.actor = .client 0 := by
    decide +kernel
  refine ⟨Office.named_jobId_injective, hp, hended, ?_⟩
  unfold followed at hp hended hactors ⊢
  obtain ⟨i, job, last, -, -, -, hterminal, hheard, -⟩ := subscriber_hears_end .named
    Office.named_jobId_injective _ 1 [] [importRequest, followRequest] promptFollowing 2 0 "j" hp
    hended
  refine ⟨last, hheard ?_, hterminal⟩
  rw [exchangesOf_eq_nil fun d hd => by simp [hactors d hd]]
  simp [eventsIn]

/-- Not every subscriber of a stored job hears the end of it. -/
theorem late_subscriber_hears_nothing :
    let v := followed (queueing ++ working ++ following)
    (v.course.deeds[31]?.bind (·.subscription?)) = some ("j", 0) ∧
      (v.course.scene.machine.jobs.get? "j").map (·.status) = some .completed ∧
      ¬∃ e ∈ v.received 0, e.isTerminal = true := by
  decide +kernel

end LayerPress
