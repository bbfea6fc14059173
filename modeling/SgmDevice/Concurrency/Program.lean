import Mathlib.Logic.Basic

/-!
# Sequential programs over atomic operations

A program is a finite tree: either it has returned, or it is about to perform an operation and
goes on with the reply.  The program that remains is at the same time the program counter of the
thread that runs it, so one text serves for uninterrupted runs (`eval`) and, through
`Concurrency.Threads`, for interleaved ones.

`Safe` is the logic of such programs.  A contract speaks about the part of the state that the
thread alone changes (its local view): what must hold before each operation, how an operation may
move the view, and what must hold at the return.
-/

namespace Concurrency

/-- A program whose operations are `Op`; the reply to `o` has type `Res o`. -/
inductive Program (Op : Type) (Res : Op → Type) (α : Type) where
  /-- The program has returned `a`. -/
  | ret (a : α)
  /-- The program is about to perform `o` and goes on with the reply. -/
  | op (o : Op) (k : Res o → Program Op Res α)

namespace Program

variable {Op Op' : Type} {Res : Op → Type} {Res' : Op' → Type} {α β σ γ : Type}

/-- Sequential composition. -/
def bind : Program Op Res α → (α → Program Op Res β) → Program Op Res β
  | .ret a, f => f a
  | .op o k, f => .op o fun r => (k r).bind f

instance : Monad (Program Op Res) where
  pure := .ret
  bind := bind

/-- The program that performs one operation and returns the reply. -/
def perform (o : Op) : Program Op Res (Res o) := .op o .ret

@[simp] theorem pure_eq (a : α) : (pure a : Program Op Res α) = .ret a := rfl

@[simp] theorem ret_bind (a : α) (f : α → Program Op Res β) : (Program.ret a >>= f) = f a := rfl

@[simp] theorem op_bind (o : Op) (k : Res o → Program Op Res α) (f : α → Program Op Res β) :
    (Program.op o k >>= f) = .op o fun r => k r >>= f := rfl

@[simp] theorem perform_bind (o : Op) (f : Res o → Program Op Res β) :
    (perform o >>= f) = .op o f := rfl

@[simp] theorem ite_bind (c : Prop) [Decidable c] (p q : Program Op Res α)
    (f : α → Program Op Res β) :
    ((if c then p else q) >>= f) = if c then p >>= f else q >>= f := by
  split <;> rfl

/-- The operation the program is about to perform. -/
def next : Program Op Res α → Option Op
  | .ret _ => none
  | .op o _ => some o

@[simp] theorem next_ret (a : α) : (Program.ret a : Program Op Res α).next = none := rfl

@[simp] theorem next_op (o : Op) (k : Res o → Program Op Res α) :
    (Program.op o k).next = some o := rfl

/-- The value a program has returned. -/
def result : Program Op Res α → Option α
  | .ret a => some a
  | .op _ _ => none

@[simp] theorem result_ret (a : α) : (Program.ret a : Program Op Res α).result = some a := rfl

@[simp] theorem result_op (o : Op) (k : Res o → Program Op Res α) :
    (Program.op o k).result = none := rfl

theorem result_ite (c : Prop) [Decidable c] (p q : Program Op Res α) :
    (if c then p else q).result = if c then p.result else q.result := by
  split <;> rfl

theorem eq_op_of_next {p : Program Op Res α} {o : Op} (h : p.next = some o) :
    ∃ k, p = .op o k := by
  cases p with
  | ret a => cases h
  | op o' k => cases h; exact ⟨k, rfl⟩

theorem eq_ret_of_result {p : Program Op Res α} {a : α} (h : p.result = some a) : p = .ret a := by
  cases p with
  | ret b => cases h; rfl
  | op o k => cases h

/-- The value a program is bound to return, when only operations with a fixed reply are left. -/
def outcome (silent : (o : Op) → Option (Res o)) : Program Op Res α → Option α
  | .ret a => some a
  | .op o k => (silent o).bind fun r => (k r).outcome silent

section Outcome

variable {silent : (o : Op) → Option (Res o)}

@[simp] theorem outcome_ret (a : α) :
    (Program.ret a : Program Op Res α).outcome silent = some a := rfl

@[simp] theorem outcome_op (o : Op) (k : Res o → Program Op Res α) :
    (Program.op o k).outcome silent = (silent o).bind fun r => (k r).outcome silent := rfl

end Outcome

/-! ## Uninterrupted runs -/

/-- Run a program to its end, each operation acting on the state as `exec` says. -/
def eval (exec : (o : Op) → σ → Res o × σ) : Program Op Res α → σ → α × σ
  | .ret a, s => (a, s)
  | .op o k, s => (k (exec o s).1).eval exec (exec o s).2

@[simp] theorem eval_ret (exec : (o : Op) → σ → Res o × σ) (a : α) (s : σ) :
    (Program.ret a : Program Op Res α).eval exec s = (a, s) := rfl

@[simp] theorem eval_op (exec : (o : Op) → σ → Res o × σ) (o : Op)
    (k : Res o → Program Op Res α) (s : σ) :
    (Program.op o k).eval exec s = (k (exec o s).1).eval exec (exec o s).2 := rfl

theorem eval_bind (exec : (o : Op) → σ → Res o × σ) (p : Program Op Res α)
    (f : α → Program Op Res β) (s : σ) :
    (p >>= f).eval exec s = (f (p.eval exec s).1).eval exec (p.eval exec s).2 := by
  induction p generalizing s with
  | ret a => rfl
  | op o k ih => exact ih _ _

/-- A part of the state on which the operations act as on a state of their own is moved by a
program in the same way. -/
theorem eval_project {exec : (o : Op) → σ → Res o × σ} {exec' : (o : Op) → γ → Res o × γ}
    {f : σ → γ} (h : ∀ o s, exec' o (f s) = ((exec o s).1, f (exec o s).2))
    (p : Program Op Res α) (s : σ) :
    p.eval exec' (f s) = ((p.eval exec s).1, f (p.eval exec s).2) := by
  induction p generalizing s with
  | ret a => rfl
  | op o k ih =>
    rw [eval_op, h, ih]
    rfl

/-- Replace every operation by a program over other operations. -/
def interp (h : (o : Op) → Program Op' Res' (Res o)) : Program Op Res α → Program Op' Res' α
  | .ret a => .ret a
  | .op o k => h o >>= fun r => (k r).interp h

@[simp] theorem interp_ret (h : (o : Op) → Program Op' Res' (Res o)) (a : α) :
    (Program.ret a : Program Op Res α).interp h = .ret a := rfl

@[simp] theorem interp_op (h : (o : Op) → Program Op' Res' (Res o)) (o : Op)
    (k : Res o → Program Op Res α) :
    (Program.op o k).interp h = h o >>= fun r => (k r).interp h := rfl

@[simp] theorem interp_ite (h : (o : Op) → Program Op' Res' (Res o)) (c : Prop) [Decidable c]
    (p q : Program Op Res α) :
    (if c then p else q).interp h = if c then p.interp h else q.interp h := by
  split <;> rfl

/-- Running the replacement is running the program with every operation acting as its
replacement does. -/
theorem eval_interp (h : (o : Op) → Program Op' Res' (Res o))
    (exec : (o : Op') → σ → Res' o × σ) (p : Program Op Res α) (s : σ) :
    (p.interp h).eval exec s = p.eval (fun o s => (h o).eval exec s) s := by
  induction p generalizing s with
  | ret a => rfl
  | op o k ih => rw [interp_op, eval_bind, ih, eval_op]

/-! ## Contracts -/

/-- What a thread promises about its local view `γ`. -/
structure Contract (Op : Type) (Res : Op → Type) (α γ : Type) where
  /-- Holds before the operation `o`, whose continuation is `k`. -/
  pre : γ → (o : Op) → (Res o → Program Op Res α) → Prop
  /-- How the operation may move the view. -/
  move : γ → (o : Op) → Res o → γ → Prop
  /-- Holds when the program has returned. -/
  post : γ → α → Prop

/-- The program keeps the contract from the view `g` on. -/
def Safe (C : Contract Op Res α γ) : Program Op Res α → γ → Prop
  | .ret a, g => C.post g a
  | .op o k, g => C.pre g o k ∧ ∀ r g', C.move g o r g' → (k r).Safe C g'

variable {C : Contract Op Res α γ}

@[simp] theorem safe_ret {a : α} {g : γ} :
    (Program.ret a : Program Op Res α).Safe C g ↔ C.post g a := Iff.rfl

@[simp] theorem safe_ite {c : Prop} [Decidable c] {p q : Program Op Res α} {g : γ} :
    (if c then p else q).Safe C g ↔ if c then p.Safe C g else q.Safe C g := by
  split <;> rfl

theorem safe_op {o : Op} {k : Res o → Program Op Res α} {g : γ} :
    (Program.op o k).Safe C g ↔ C.pre g o k ∧ ∀ r g', C.move g o r g' → (k r).Safe C g' := Iff.rfl

theorem Safe.pre {o : Op} {k : Res o → Program Op Res α} {g : γ}
    (h : (Program.op o k).Safe C g) : C.pre g o k := h.1

theorem Safe.move {o : Op} {k : Res o → Program Op Res α} {g g' : γ} {r : Res o}
    (h : (Program.op o k).Safe C g) (hm : C.move g o r g') : (k r).Safe C g' := h.2 r g' hm

end Program

end Concurrency
