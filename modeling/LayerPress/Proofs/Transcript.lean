import LayerPress.Procedure

/-!
# Transcripts of runs

The transcript of a run lists what a procedure performed and what it was answered. A world says
which answers are possible and what becomes of it; a procedure ensures a condition when it ends
with it in every course of answers that the world allows. The condition may be about the result,
the last world and the transcript.

A handler whose answers the world allows cannot do otherwise, so what is ensured holds of its
run.
-/

namespace LayerPress

/-- An action that was performed, with the answer it got. -/
structure Exchange (S : Signature) where
  action : S.Action
  answer : S.Answer action

instance Exchange.decidableEq {S : Signature} [DecidableEq S.Action]
    [(action : S.Action) → DecidableEq (S.Answer action)] : DecidableEq (Exchange S)
  | ⟨a, x⟩, ⟨b, y⟩ =>
    if h : a = b then
      match b, h, y with
      | _, rfl, y => decidable_of_iff (x = y) (by simp)
    else isFalse fun heq => h (congrArg Exchange.action heq)

namespace Procedure

variable {S : Signature} {W σ α β γ ε : Type}

/-- Going on with nothing changes nothing. -/
theorem andThen_result (p : Procedure S α) : p.andThen result = p := by
  induction p with
  | result a => rfl
  | perform action next ih => exact congrArg (perform action) (funext ih)

/-- Of three parts in a row it does not matter which two are taken together. -/
theorem andThen_assoc (p : Procedure S α) (k : α → Procedure S β) (l : β → Procedure S γ) :
    (p.andThen k).andThen l = p.andThen fun a => (k a).andThen l := by
  induction p with
  | result a => rfl
  | perform action next ih => exact congrArg (perform action) (funext ih)

instance : LawfulMonad (Procedure S) :=
  LawfulMonad.mk' (Procedure S) andThen_result (fun _ _ => rfl) andThen_assoc

/-- What a run performs, with the answers it gets, the earliest first. -/
def transcript (handler : (action : S.Action) → σ → S.Answer action × σ) :
    Procedure S α → σ → List (Exchange S)
  | result _, _ => []
  | perform action next, s =>
    ⟨action, (handler action s).1⟩ ::
      (next (handler action s).1).transcript handler (handler action s).2

/-- What a run performs, each action with the state in which it is performed. -/
def visits (handler : (action : S.Action) → σ → S.Answer action × σ) :
    Procedure S α → σ → List (S.Action × σ)
  | result _, _ => []
  | perform action next, s =>
    (action, s) :: (next (handler action s).1).visits handler (handler action s).2

section
variable {handler : (action : S.Action) → σ → S.Answer action × σ}

/-- The second part of a sequence runs from where the first has ended. -/
theorem run_bind (p : Procedure S α) (k : α → Procedure S β) (s : σ) :
    (p >>= k).run handler s = (k (p.run handler s).1).run handler (p.run handler s).2 := by
  induction p generalizing s with
  | result a => rfl
  | perform action next ih => exact ih _ _

/-- The transcript of a sequence is made of those of its parts. -/
theorem transcript_bind (p : Procedure S α) (k : α → Procedure S β) (s : σ) :
    (p >>= k).transcript handler s =
      p.transcript handler s ++ (k (p.run handler s).1).transcript handler (p.run handler s).2 := by
  induction p generalizing s with
  | result a => rfl
  | perform action next ih => exact congrArg (List.cons _) (ih _ _)

end

/-- Whatever is answered, as far as the world allows it, the result, the last world and the
transcript meet the condition. -/
def Ensures (may : (action : S.Action) → S.Answer action → W → W → Prop) :
    (α → W → List (Exchange S) → Prop) → W → Procedure S α → Prop
  | Q, w, result a => Q a w []
  | Q, w, perform action next => ∀ x w', may action x w w' →
      Ensures may (fun a last log => Q a last (⟨action, x⟩ :: log)) w' (next x)

namespace Ensures

variable {may : (action : S.Action) → S.Answer action → W → W → Prop} {w : W}

/-- What is ensured survives a weaker condition. -/
theorem mono {Q R : α → W → List (Exchange S) → Prop} {p : Procedure S α}
    (h : Ensures may Q w p) (hQR : ∀ a last log, Q a last log → R a last log) :
    Ensures may R w p := by
  induction p generalizing w Q R with
  | result a => exact hQR a w [] h
  | perform action next ih =>
    intro x w' hmay
    exact ih x (h x w' hmay) fun a last log hQ => hQR a last (⟨action, x⟩ :: log) hQ

/-- A world that allows less ensures more. -/
theorem of_may {may' : (action : S.Action) → S.Answer action → W → W → Prop}
    {Q : α → W → List (Exchange S) → Prop} {p : Procedure S α} (h : Ensures may Q w p)
    (hmay : ∀ action x w w', may' action x w w' → may action x w w') : Ensures may' Q w p := by
  induction p generalizing w Q with
  | result a => exact h
  | perform action next ih =>
    intro x w' hstep
    exact ih x (h x w' (hmay action x w w' hstep))

/-- Two conditions that are ensured are ensured together. -/
theorem and {Q R : α → W → List (Exchange S) → Prop} {p : Procedure S α} (h : Ensures may Q w p)
    (h' : Ensures may R w p) : Ensures may (fun a last log => Q a last log ∧ R a last log) w p := by
  induction p generalizing w Q R with
  | result a => exact ⟨h, h'⟩
  | perform action next ih =>
    intro x w' hstep
    exact ih x (h x w' hstep) (h' x w' hstep)

/-- A sequence ensures what its second part does after whatever the first has ensured. -/
theorem bind {Q : α → W → List (Exchange S) → Prop} {R : β → W → List (Exchange S) → Prop}
    {p : Procedure S α} {k : α → Procedure S β} (h : Ensures may Q w p)
    (hk : ∀ a last log, Q a last log →
      Ensures may (fun b final more => R b final (log ++ more)) last (k a)) :
    Ensures may R w (p >>= k) := by
  induction p generalizing w Q R with
  | result a => exact hk a w [] h
  | perform action next ih =>
    intro x w' hmay
    exact ih x (h x w' hmay) fun a last log hQ => hk a last (⟨action, x⟩ :: log) hQ

/-- Work that may stop early ensures what follows it does, and the condition of the stop. -/
theorem bindExcept {Q : Except ε α → W → List (Exchange S) → Prop}
    {R : Except ε β → W → List (Exchange S) → Prop} {p : ExceptT ε (Procedure S) α}
    {k : α → ExceptT ε (Procedure S) β} (h : Ensures may Q w p.run)
    (hok : ∀ a last log, Q (.ok a) last log →
      Ensures may (fun b final more => R b final (log ++ more)) last (k a).run)
    (herror : ∀ e last log, Q (.error e) last log → R (.error e) last log) :
    Ensures may R w (p >>= k).run := by
  refine bind (p := p.run) h fun answer last log hanswer => ?_
  cases answer with
  | ok a => exact hok a last log hanswer
  | error e =>
    have hstop := herror e last log hanswer
    rw [← List.append_nil log] at hstop
    exact hstop

/-- Work that may stop early ensures what follows its beginning, if that cannot stop. -/
theorem liftBind {Q : α → W → List (Exchange S) → Prop}
    {R : Except ε β → W → List (Exchange S) → Prop} {p : Procedure S α}
    {k : α → ExceptT ε (Procedure S) β} (h : Ensures may Q w p)
    (hk : ∀ a last log, Q a last log →
      Ensures may (fun b final more => R b final (log ++ more)) last (k a).run) :
    Ensures may R w ((liftM p : ExceptT ε (Procedure S) α) >>= k).run := by
  have hlifted : Ensures may (fun answer last log => ∃ a, answer = .ok a ∧ Q a last log) w
      (liftM p : ExceptT ε (Procedure S) α).run := by
    refine bind h fun a last log hQ => ⟨a, rfl, ?_⟩
    rw [List.append_nil]
    exact hQ
  refine hlifted.bindExcept ?_ ?_
  · rintro a last log ⟨_, ⟨⟩, hQ⟩
    exact hk a last log hQ
  · rintro e last log ⟨_, ⟨⟩, _⟩

/-- What every action keeps holds at the end of any procedure. -/
theorem invariant {I : W → Prop}
    (hkeeps : ∀ action x w w', I w → may action x w w' → I w') (p : Procedure S α) (hw : I w) :
    Ensures may (fun _ last _ => I last) w p := by
  induction p generalizing w with
  | result a => exact hw
  | perform action next ih =>
    intro x w' hmay
    exact ih x (hkeeps action x w w' hw hmay)

/-- A run whose handler answers as its world allows meets what is ensured. -/
theorem run {Q : α → W → List (Exchange S) → Prop} {p : Procedure S α}
    {handler : (action : S.Action) → σ → S.Answer action × σ} {world : σ → W}
    (hhandler : ∀ action s, may action (handler action s).1 (world s) (world (handler action s).2))
    {s : σ} (h : Ensures may Q (world s) p) :
    Q (p.run handler s).1 (world (p.run handler s).2) (p.transcript handler s) := by
  induction p generalizing s Q with
  | result a => exact h
  | perform action next ih => exact ih _ (h _ _ (hhandler action s))

/-- What is ensured when every action is answered by a handler is met by its run. -/
theorem of_handler {Q : α → σ → List (Exchange S) → Prop} {p : Procedure S α}
    {handler : (action : S.Action) → σ → S.Answer action × σ} {s : σ}
    (h : Ensures (fun action x now next => handler action now = (x, next)) Q s p) :
    Q (p.run handler s).1 (p.run handler s).2 (p.transcript handler s) := by
  induction p generalizing s Q with
  | result a => exact h
  | perform action next ih => exact ih _ (h _ _ rfl)

end Ensures

end Procedure

end LayerPress
