import SgmDevice.Concurrency.Threads
import Mathlib.Data.Fintype.Basic
import Mathlib.Data.Finset.Insert

/-!
# Mutexes

Non-recursive mutexes `M` as a map to the thread that owns each of them.  `MutexUse` is what an
operation does with them; `held` is what a thread owns.  A use moves the thread's own `held` as
`MutexUse.move` says and leaves every other thread's unchanged (`held_exec`, `held_exec_ne`), so
`held` serves as the local view of a contract.

`Stuck` names the two ways in which a pair of threads can block for ever: a thread waits for a mutex
it owns itself, or two threads wait for one another's.
-/

namespace Concurrency

/-- What an operation does with the mutexes. -/
inductive MutexUse (M : Type) where
  | take (m : M)
  | give (m : M)
  | keep
  deriving DecidableEq, Repr

variable {M ι : Type} [DecidableEq M] [DecidableEq ι]

namespace MutexUse

/-- The owners after thread `i` has used the mutexes: a taken mutex blocks, and so does giving back
a mutex that is not one's own. -/
def exec (own : M → Option ι) (i : ι) : MutexUse M → Option (M → Option ι)
  | .take m => if own m = none then some (Function.update own m (some i)) else none
  | .give m => if own m = some i then some (Function.update own m none) else none
  | .keep => some own

/-- What the use does to the mutexes that the thread holds. -/
def move (g : Finset M) : MutexUse M → Finset M
  | .take m => insert m g
  | .give m => g.erase m
  | .keep => g

end MutexUse

variable [Fintype M]

/-- The mutexes that a thread owns. -/
def held (own : M → Option ι) (i : ι) : Finset M := Finset.univ.filter fun m => own m = some i

omit [DecidableEq M] in
@[simp] theorem mem_held {own : M → Option ι} {i : ι} {m : M} :
    m ∈ held own i ↔ own m = some i := by
  simp [held]

/-- Giving a mutex to an owner, or to nobody, concerns that mutex only. -/
theorem held_update (own : M → Option ι) (m : M) (owner : Option ι) (i : ι) :
    held (Function.update own m owner) i =
      if owner = some i then insert m (held own i) else (held own i).erase m := by
  ext n
  by_cases hn : n = m
  · subst hn
    by_cases howner : owner = some i <;> simp [howner]
  · by_cases howner : owner = some i <;> simp [howner, hn]

/-- A use moves the mutexes held by the thread itself. -/
theorem held_exec {own own' : M → Option ι} {i : ι} {u : MutexUse M}
    (h : u.exec own i = some own') : held own' i = u.move (held own i) := by
  cases u with
  | keep => cases h; rfl
  | take m =>
    simp only [MutexUse.exec, Option.ite_none_right_eq_some, Option.some.injEq] at h
    obtain ⟨-, rfl⟩ := h
    rw [held_update, if_pos rfl, MutexUse.move]
  | give m =>
    simp only [MutexUse.exec, Option.ite_none_right_eq_some, Option.some.injEq] at h
    obtain ⟨-, rfl⟩ := h
    rw [held_update, if_neg (Option.some_ne_none i).symm, MutexUse.move]

/-- A use leaves the mutexes of every other thread alone. -/
theorem held_exec_ne {own own' : M → Option ι} {i j : ι} {u : MutexUse M}
    (h : u.exec own i = some own') (hj : j ≠ i) : held own' j = held own j := by
  have hother : some i ≠ some j := fun hsame => hj (Option.some.inj hsame).symm
  cases u with
  | keep => cases h; rfl
  | take m =>
    simp only [MutexUse.exec, Option.ite_none_right_eq_some, Option.some.injEq] at h
    obtain ⟨hm, rfl⟩ := h
    rw [held_update, if_neg hother, Finset.erase_eq_of_notMem (by simp [hm])]
  | give m =>
    simp only [MutexUse.exec, Option.ite_none_right_eq_some, Option.some.injEq] at h
    obtain ⟨hm, rfl⟩ := h
    rw [held_update, if_neg (Option.some_ne_none j).symm,
      Finset.erase_eq_of_notMem (by rw [mem_held, hm]; exact hother)]

/-! ## Waiting -/

section Waiting

variable {M ι Op : Type} {Res : Op → Type} {σ : Type} {Ret : ι → Type} (lock : M → Op)
  (own : σ → M → Option ι)

/-- Thread `i` is at the point of taking `m`. -/
def Waits (c : Threads.Config Op Res σ Ret) (i : ι) (m : M) : Prop :=
  (c.prog i).next = some (lock m)

/-- A thread waits for a mutex that it owns. -/
def SelfWait (c : Threads.Config Op Res σ Ret) : Prop :=
  ∃ i m, Waits lock c i m ∧ own c.shared m = some i

/-- Two threads each wait for a mutex that the other owns. -/
def MutualWait (c : Threads.Config Op Res σ Ret) : Prop :=
  ∃ i j m n, Waits lock c i m ∧ own c.shared m = some j ∧ Waits lock c j n ∧
    own c.shared n = some i

/-- Some thread can never go on. -/
def Stuck (c : Threads.Config Op Res σ Ret) : Prop :=
  SelfWait lock own c ∨ MutualWait lock own c

end Waiting

end Concurrency
