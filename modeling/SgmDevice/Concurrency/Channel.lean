import Mathlib.Logic.Relation
import SgmDevice.Concurrency.Transition

/-!
# Lossy channels

A channel carries batches of messages.  It may refuse a batch, and it may lose messages of a batch
when it takes it in and when it hands it out; it neither makes up a message nor repeats one, and it
keeps their order (`inOrder_of_reaches`).

A system refines a relation on abstract states when each of its steps is a path of the relation
(`System.reaches_of_steps`).
-/

namespace Concurrency

open Relation (ReflTransGen)

/-! ## Refinement -/

namespace System

variable {σ α β : Type} {S : System σ α}

/-- If each step of a system is a path of `R` between the abstract states, each run is one. -/
theorem reaches_of_steps {R : β → β → Prop} (abs : σ → β) {I : σ → Prop}
    (keep : ∀ s a s', I s → S.step s a = some s' → I s')
    (steps : ∀ s a s', I s → S.step s a = some s' → ReflTransGen R (abs s) (abs s')) {s : σ}
    (init : I s) (acts : List α) : ReflTransGen R (abs s) (abs (S.final s acts)) := by
  induction acts generalizing s with
  | nil => exact ReflTransGen.refl
  | cons a acts ih =>
    rw [final]
    cases hs : S.step s a with
    | none => exact ih init
    | some s' => exact (steps s a s' init hs).trans (ih (keep s a s' init hs))

end System

/-! ## Channels -/

/-- What was offered to the channel, the batches on their way, the first one first, and what came
out of it. -/
structure Channel (α : Type) where
  offered : List α := []
  inFlight : List (List α) := []
  delivered : List α := []

namespace Channel

variable {α : Type}

/-- One step of a channel. -/
inductive Step : Channel α → Channel α → Prop where
  | refuse (c : Channel α) (batch : List α) :
    Step c { c with offered := c.offered ++ batch }
  | take (c : Channel α) {batch kept : List α} (kept_sublist : kept.Sublist batch) :
    Step c { c with offered := c.offered ++ batch, inFlight := c.inFlight ++ [kept] }
  | deliver (c : Channel α) {batch kept : List α} {rest : List (List α)}
    (first : c.inFlight = batch :: rest) (kept_sublist : kept.Sublist batch) :
    Step c { c with inFlight := rest, delivered := c.delivered ++ kept }

/-- What came out and what is still on its way was offered in this order, each message once. -/
def InOrder (c : Channel α) : Prop :=
  (c.delivered ++ c.inFlight.flatten).Sublist c.offered

theorem inOrder_empty : InOrder ({} : Channel α) := List.Sublist.refl []

theorem InOrder.step {c c' : Channel α} (h : InOrder c) (hs : Step c c') : InOrder c' := by
  cases hs with
  | refuse batch => exact List.Sublist.trans h (List.sublist_append_left _ _)
  | take kept_sublist =>
    unfold InOrder
    rw [List.flatten_append, List.flatten_singleton, ← List.append_assoc]
    exact h.append kept_sublist
  | @deliver batch kept rest first kept_sublist =>
    have hbefore : (c.delivered ++ (batch ++ rest.flatten)).Sublist c.offered := by
      have hflat := h
      rwa [InOrder, first, List.flatten_cons] at hflat
    have hkept : (c.delivered ++ (kept ++ rest.flatten)).Sublist
        (c.delivered ++ (batch ++ rest.flatten)) :=
      (kept_sublist.append_right _).append_left _
    unfold InOrder
    rw [List.append_assoc]
    exact hkept.trans hbefore

theorem inOrder_of_reaches {c c' : Channel α} (h : InOrder c) (hc : ReflTransGen Step c c') :
    InOrder c' := by
  induction hc with
  | refl => exact h
  | tail _ hs ih => exact ih.step hs

end Channel

end Concurrency
