import Mathlib.Data.List.Basic

/-!
# Stateful programs that keep a record

A program whose state has a record that it only appends to.  `Appends` relates what a program
returns to what it appends, wherever it starts, and composes along the program.
-/

namespace Traces

variable {σ τ α β : Type} {log : σ → List τ}

/-- Wherever `x` starts, it appends something that `P` relates to what it returns. -/
def Appends (log : σ → List τ) (x : StateM σ α) (P : α → List τ → Prop) : Prop :=
  ∀ s, ∃ new, log (x s).2 = log s ++ new ∧ P (x s).1 new

namespace Appends

variable {x : StateM σ α} {f : α → StateM σ β} {P : α → List τ → Prop} {Q : β → List τ → Prop}

theorem pure {a : α} (h : P a []) : Appends log (Pure.pure a) P :=
  fun s => ⟨[], (List.append_nil (log s)).symm, h⟩

theorem bind (hx : Appends log x P)
    (hf : ∀ a new, P a new → Appends log (f a) fun b new' => Q b (new ++ new')) :
    Appends log (x >>= f) Q := by
  intro s
  obtain ⟨new, hnew, hP⟩ := hx s
  obtain ⟨new', hnew', hQ⟩ := hf (x s).1 new hP (x s).2
  refine ⟨new ++ new', ?_, hQ⟩
  exact hnew'.trans (by rw [hnew, List.append_assoc])

theorem mono {P' : α → List τ → Prop} (hx : Appends log x P) (h : ∀ a new, P a new → P' a new) :
    Appends log x P' := by
  intro s
  obtain ⟨new, hnew, hP⟩ := hx s
  exact ⟨new, hnew, h _ new hP⟩

theorem ite {c : Prop} [Decidable c] {y : StateM σ α} (hx : c → Appends log x P)
    (hy : ¬ c → Appends log y P) : Appends log (if c then x else y) P := by
  by_cases h : c
  · rw [if_pos h]
    exact hx h
  · rw [if_neg h]
    exact hy h

/-- What is read from the state may be anything. -/
theorem get_bind {f : σ → StateM σ β} (hf : ∀ s, Appends log (f s) Q) :
    Appends log (get >>= f) Q :=
  fun s => hf s s

/-- A change behind the record. -/
theorem modify_bind {g : σ → σ} {f : PUnit → StateM σ β} (hg : ∀ s, log (g s) = log s)
    (hf : Appends log (f ⟨⟩) Q) : Appends log (modify g >>= f) Q := by
  intro s
  obtain ⟨new, hnew, hQ⟩ := hf (g s)
  exact ⟨new, hnew.trans (by rw [hg]), hQ⟩

theorem length_le (hx : Appends log x P) (s : σ) : (log s).length ≤ (log (x s).2).length := by
  obtain ⟨new, hnew, -⟩ := hx s
  rw [hnew, List.length_append]
  exact Nat.le_add_right ..

end Appends

end Traces
