import LayerPress.Proofs.Monitor
import LayerPress.Proofs.SameAnswers

/-!
# Paths through procedures

A transcript leads a procedure to what is left of it. At the end a result is left, and where every
action has some answer the end can be reached from anywhere. So a transcript that is not complete is
the beginning of a complete one, and what is known of all complete transcripts of a procedure is
known of everyone who is in the middle of it.
-/

namespace LayerPress

namespace Procedure

variable {S T : Signature} {α β : Type}

/-- A transcript leads from a procedure to what is left of it. -/
inductive Leaves : Procedure S α → List (Exchange S) → Procedure S α → Prop
  | start (p : Procedure S α) : Leaves p [] p
  | step {action : S.Action} {next : S.Answer action → Procedure S α} {x : S.Answer action}
      {log : List (Exchange S)} {left : Procedure S α} (h : Leaves (next x) log left) :
      Leaves (perform action next) (⟨action, x⟩ :: log) left

/-- A transcript that leaves an action goes on with it. -/
theorem Leaves.concat {p : Procedure S α} {log : List (Exchange S)} {action : S.Action}
    {next : S.Answer action → Procedure S α} (h : p.Leaves log (perform action next))
    (x : S.Answer action) : p.Leaves (log ++ [⟨action, x⟩]) (next x) := by
  generalize hleft : perform action next = left at h
  induction h with
  | start p =>
    subst hleft
    exact .step (.start _)
  | step h ih => exact .step (ih hleft)

/-- What is left is led on as the whole is. -/
theorem Leaves.yields {p left : Procedure S α} {log more : List (Exchange S)} {a : α}
    (h : p.Leaves log left) (hleft : left.Yields more a) : p.Yields (log ++ more) a := by
  induction h with
  | start p => exact hleft
  | step h ih => exact ⟨_, _, rfl, ih hleft⟩

/-- A transcript that leaves a result has led to it. -/
theorem Leaves.yields_result {p : Procedure S α} {log : List (Exchange S)} {a : α}
    (h : p.Leaves log (result a)) : p.Yields log a := by
  have hend : (result a : Procedure S α).Yields [] a := ⟨rfl, rfl⟩
  simpa using h.yields hend

/-- Where every action has some answer, every procedure can come to an end. -/
theorem exists_yields (hanswer : ∀ action, Nonempty (S.Answer action)) (p : Procedure S α) :
    ∃ log a, p.Yields log a := by
  induction p with
  | result a => exact ⟨[], a, rfl, rfl⟩
  | perform action next ih =>
    obtain ⟨x⟩ := hanswer action
    obtain ⟨log, a, h⟩ := ih x
    exact ⟨⟨action, x⟩ :: log, a, x, log, rfl, h⟩

/-- A sequence is led to a result by way of the result of its first part. -/
theorem yields_bind_iff (p : Procedure S α) (k : α → Procedure S β) (log : List (Exchange S))
    (b : β) : (p >>= k).Yields log b ↔
      ∃ first rest a, log = first ++ rest ∧ p.Yields first a ∧ (k a).Yields rest b := by
  induction p generalizing log with
  | result a =>
    constructor
    · intro h
      exact ⟨[], log, a, rfl, ⟨rfl, rfl⟩, h⟩
    · rintro ⟨first, rest, _, rfl, ⟨rfl, rfl⟩, h⟩
      exact h
  | perform action next ih =>
    constructor
    · rintro ⟨x, tail, rfl, h⟩
      obtain ⟨first, rest, a, rfl, hfirst, hrest⟩ := (ih x tail).mp h
      exact ⟨⟨action, x⟩ :: first, rest, a, rfl, ⟨x, first, rfl, hfirst⟩, hrest⟩
    · rintro ⟨_, rest, a, rfl, ⟨x, first, rfl, hfirst⟩, hrest⟩
      exact ⟨x, first ++ rest, rfl, (ih x _).mpr ⟨first, rest, a, rfl, hfirst, hrest⟩⟩

/-- Where each action is replaced by one other with the same answers, a transcript is replaced
exchange by exchange. -/
theorem yields_expand_iff {f : (action : S.Action) → Procedure T (S.Answer action)}
    {g : Exchange S → Exchange T}
    (hf : ∀ action more x, (f action).Yields more x ↔ more = [g ⟨action, x⟩]) (p : Procedure S α)
    (log : List (Exchange T)) (a : α) :
    (p.expand f).Yields log a ↔ ∃ source, p.Yields source a ∧ log = source.map g := by
  induction p generalizing log with
  | result b =>
    constructor
    · rintro ⟨rfl, rfl⟩
      exact ⟨[], ⟨rfl, rfl⟩, rfl⟩
    · rintro ⟨_, ⟨rfl, rfl⟩, rfl⟩
      exact ⟨rfl, rfl⟩
  | perform action next ih =>
    change ((f action) >>= fun x => (next x).expand f).Yields log a ↔ _
    rw [yields_bind_iff]
    constructor
    · rintro ⟨first, rest, x, rfl, hfirst, hrest⟩
      obtain ⟨source, hsource, rfl⟩ := (ih x rest).mp hrest
      obtain rfl := (hf action first x).mp hfirst
      exact ⟨⟨action, x⟩ :: source, ⟨x, source, rfl, hsource⟩, rfl⟩
    · rintro ⟨_, ⟨x, source, rfl, hsource⟩, rfl⟩
      exact ⟨_, _, x, rfl, (hf action _ x).mpr rfl, (ih x _).mpr ⟨source, hsource, rfl⟩⟩

/-- Only admitted actions are performed by what passes. -/
theorem Yields.exists_admits {M : Type} {A : Monitor S M} {Q : α → M → Prop} {m : M}
    {p : Procedure S α} {log : List (Exchange S)} {a : α} (h : p.Yields log a)
    (hpasses : A.Passes Q m p) : ∀ e ∈ log, ∃ m', A.admits m' e.action := by
  induction p generalizing m log with
  | result b =>
    obtain ⟨rfl, -⟩ := h
    simp
  | perform action next ih =>
    obtain ⟨x, rest, rfl, hrest⟩ := h
    simp only [List.mem_cons, forall_eq_or_imp]
    exact ⟨⟨m, hpasses.1⟩, ih x hrest (hpasses.2 x)⟩

end Procedure

end LayerPress
