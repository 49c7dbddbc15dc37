import LayerPress.Proofs.Transcript

/-!
# Monitors of procedures

A monitor follows the actions of a procedure: in each of its states it admits some actions, and
the answer to an action decides its next state. A procedure passes when every action is
admitted whatever the answers are, and its result meets a condition in the monitor's last state.

Passing is closed under sequencing, and it needs neither a handler nor a schedule. Whoever runs
the procedure, alone or one action at a time among others, may rely on it: what an admitted action
keeps between the monitor and a state holds wherever a run comes.
-/

namespace LayerPress

/-- What a monitor admits in each of its states, and its state after an answer. -/
structure Monitor (S : Signature) (M : Type) where
  admits : M → S.Action → Prop
  after : M → (a : S.Action) → S.Answer a → M

namespace Monitor

variable {S T : Signature} {M α β ε : Type} {A : Monitor S M}

/-- Every action is admitted, whatever the answers, and the result meets the condition. -/
def Passes (A : Monitor S M) (Q : α → M → Prop) : M → Procedure S α → Prop
  | m, .result a => Q a m
  | m, .perform a next => A.admits m a ∧ ∀ x, A.Passes Q (A.after m a x) (next x)

/-- Passing survives a weaker condition on the result. -/
theorem Passes.mono {Q R : α → M → Prop} {m : M} {p : Procedure S α} (h : A.Passes Q m p)
    (hQR : ∀ a m', Q a m' → R a m') : A.Passes R m p := by
  induction p generalizing m with
  | result a => exact hQR a m h
  | perform a next ih => exact ⟨h.1, fun x => ih x (h.2 x)⟩

/-- A sequence passes when its second part does from wherever the first may end. -/
theorem Passes.bind {Q : α → M → Prop} {R : β → M → Prop} {m : M} {p : Procedure S α}
    {k : α → Procedure S β} (h : A.Passes Q m p) (hk : ∀ a m', Q a m' → A.Passes R m' (k a)) :
    A.Passes R m (p >>= k) := by
  induction p generalizing m with
  | result a => exact hk a m h
  | perform a next ih => exact ⟨h.1, fun x => ih x (h.2 x)⟩

/-- Work that may stop early passes when what follows passes and the stop meets the condition. -/
theorem Passes.bindExcept {Q : Except ε α → M → Prop} {R : Except ε β → M → Prop} {m : M}
    {p : ExceptT ε (Procedure S) α} {k : α → ExceptT ε (Procedure S) β}
    (h : A.Passes Q m p.run) (hok : ∀ a m', Q (.ok a) m' → A.Passes R m' (k a).run)
    (herror : ∀ e m', Q (.error e) m' → R (.error e) m') : A.Passes R m (p >>= k).run := by
  refine Passes.bind (p := p.run) h fun answer m' hanswer => ?_
  cases answer with
  | ok a => exact hok a m' hanswer
  | error e => exact herror e m' hanswer

/-- Work that cannot stop early passes as part of work that may. -/
theorem Passes.lift {Q : Except ε α → M → Prop} {m : M} {p : Procedure S α}
    (h : A.Passes (fun a => Q (.ok a)) m p) :
    A.Passes Q m (liftM p : ExceptT ε (Procedure S) α).run :=
  Passes.bind h fun _ _ h' => h'

/-- Work that may stop early passes when it begins with work that cannot and passes from there. -/
theorem Passes.liftBind {Q : α → M → Prop} {R : Except ε β → M → Prop} {m : M}
    {p : Procedure S α} {k : α → ExceptT ε (Procedure S) β} (h : A.Passes Q m p)
    (hk : ∀ a m', Q a m' → A.Passes R m' (k a).run) :
    A.Passes R m ((liftM p : ExceptT ε (Procedure S) α) >>= k).run := by
  have hlifted : A.Passes (fun answer m' => ∃ a, answer = .ok a ∧ Q a m') m
      (liftM p : ExceptT ε (Procedure S) α).run :=
    Passes.lift (h.mono fun a _ hQ => ⟨a, rfl, hQ⟩)
  refine hlifted.bindExcept ?_ ?_
  · rintro a m' ⟨_, ⟨⟩, hQ⟩
    exact hk a m' hQ
  · rintro e m' ⟨_, ⟨⟩, _⟩

/-- What every admitted action keeps holds at the end of a run and before each of its actions. -/
theorem Passes.run {σ : Type} {handler : (a : S.Action) → σ → S.Answer a × σ}
    {I : M → σ → Prop} {Q : α → M → Prop} {m : M} {s : σ} {p : Procedure S α}
    (hkeeps : ∀ m s a, I m s → A.admits m a → I (A.after m a (handler a s).1) (handler a s).2)
    (h : A.Passes Q m p) (hI : I m s) :
    (∃ m', Q (p.run handler s).1 m' ∧ I m' (p.run handler s).2) ∧
      ∀ visit ∈ p.visits handler s, ∃ m', I m' visit.2 ∧ A.admits m' visit.1 := by
  induction p generalizing m s with
  | result a => exact ⟨⟨m, h, hI⟩, nofun⟩
  | perform a next ih =>
    obtain ⟨hend, hvisits⟩ := ih (handler a s).1 (h.2 _) (hkeeps m s a hI h.1)
    exact ⟨hend, List.forall_mem_cons.mpr ⟨⟨m, hI, h.1⟩, hvisits⟩⟩

/-- A procedure whose actions are replaced passes when each replacement does what the
source's monitor was told it would. -/
theorem Passes.expand {N : Type} {B : Monitor T N} {f : (a : S.Action) → Procedure T (S.Answer a)}
    {Q : α → M → Prop} {R : α → N → Prop} {I : M → N → Prop} {m : M} {n : N}
    {p : Procedure S α} (h : A.Passes Q m p) (hsim : I m n)
    (hf : ∀ m n a, I m n → A.admits m a →
      B.Passes (fun x n' => I (A.after m a x) n') n (f a))
    (hQR : ∀ a m n, I m n → Q a m → R a n) : B.Passes R n (p.expand f) := by
  induction p generalizing m n with
  | result a => exact hQR a m n hsim h
  | perform a next ih =>
    exact Passes.bind (hf m n a hsim h.1) fun x n' hn' => ih x (h.2 x) hn'

end Monitor

end LayerPress
