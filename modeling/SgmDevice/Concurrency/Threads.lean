import SgmDevice.Concurrency.Program
import SgmDevice.Concurrency.Transition
import Mathlib.Logic.Function.Basic

/-!
# Interleaved threads

Threads run programs over one shared state, one operation at a time.  An operation that cannot go
on (a taken mutex, say) blocks its thread.  A thread that has returned may be called again, and the
environment may change the shared state at any time.

`AllSafe` says that every thread keeps its contract from its present local view on;
`AllSafe.step` is the rule that makes it an invariant.  `performed` lists the operations of a run;
`obeys_iff_performed` turns a condition on its steps into one on their order.
-/

namespace Concurrency

/-- Threads `ι` over a shared state `σ`.  `ω` is what the world decides about one operation, `Ret i`
what a program of thread `i` returns, `Call i` how it may be called again. -/
structure Threads (ι : Type) (Op : Type) (Res : Op → Type) (σ ω : Type) (Ret Call : ι → Type)
    (Env : Type) where
  /-- The effect of an operation; `none` blocks the thread. -/
  exec : ι → (o : Op) → ω → σ → Option (Res o × σ)
  /-- The program of the next call, after a return. -/
  entry : (i : ι) → Ret i → Call i → Option (Program Op Res (Ret i))
  /-- A change made by the environment. -/
  env : Env → σ → Option σ

namespace Threads

variable {ι Op : Type} {Res : Op → Type} {σ ω γ : Type} {Ret Call : ι → Type} {Env : Type}

/-- The shared state and what every thread has left to run. -/
structure Config (Op : Type) (Res : Op → Type) (σ : Type) (Ret : ι → Type) where
  shared : σ
  prog : (i : ι) → Program Op Res (Ret i)

/-- One step of the interleaving. -/
inductive Act (ω : Type) (Call : ι → Type) (Env : Type) where
  | run (i : ι) (w : ω)
  | call (i : ι) (d : Call i)
  | env (e : Env)

variable [DecidableEq ι] (T : Threads ι Op Res σ ω Ret Call Env)

/-- Thread `i` performs its next operation. -/
def runStep (c : Config Op Res σ Ret) (i : ι) (w : ω) : Option (Config Op Res σ Ret) :=
  match c.prog i with
  | .ret _ => none
  | .op o k => (T.exec i o w c.shared).map fun q => ⟨q.2, Function.update c.prog i (k q.1)⟩

/-- Thread `i`, having returned, is called again. -/
def callStep (c : Config Op Res σ Ret) (i : ι) (d : Call i) : Option (Config Op Res σ Ret) :=
  match c.prog i with
  | .ret a => (T.entry i a d).map fun p => ⟨c.shared, Function.update c.prog i p⟩
  | .op _ _ => none

/-- The interleaving as a transition system. -/
def system : System (Config Op Res σ Ret) (Act ω Call Env) where
  step c
    | .run i w => T.runStep c i w
    | .call i d => T.callStep c i d
    | .env e => (T.env e c.shared).map fun s => ⟨s, c.prog⟩

variable {T}

/-- What a step of a thread does. -/
theorem runStep_eq_some {c c' : Config Op Res σ Ret} {i : ι} {w : ω}
    (h : T.runStep c i w = some c') :
    ∃ o k r s, c.prog i = .op o k ∧ T.exec i o w c.shared = some (r, s) ∧
      c' = ⟨s, Function.update c.prog i (k r)⟩ := by
  unfold runStep at h
  cases hp : c.prog i with
  | ret a => rw [hp] at h; cases h
  | op o k =>
    rw [hp] at h
    obtain ⟨⟨r, s⟩, he, rfl⟩ := Option.map_eq_some_iff.1 h
    exact ⟨o, k, r, s, rfl, he, rfl⟩

/-- What a call does. -/
theorem callStep_eq_some {c c' : Config Op Res σ Ret} {i : ι} {d : Call i}
    (h : T.callStep c i d = some c') :
    ∃ a p, c.prog i = .ret a ∧ T.entry i a d = some p ∧
      c' = ⟨c.shared, Function.update c.prog i p⟩ := by
  unfold callStep at h
  cases hp : c.prog i with
  | op o k => rw [hp] at h; cases h
  | ret a =>
    rw [hp] at h
    obtain ⟨p, he, rfl⟩ := Option.map_eq_some_iff.1 h
    exact ⟨a, p, rfl, he, rfl⟩

/-- The outcome of an operation that never blocks. -/
theorem reply_eq {o : Op} {x : Res o × σ} {r : Res o} {s : σ} (h : some x = some (r, s)) :
    r = x.1 ∧ s = x.2 :=
  Prod.ext_iff.1 (Option.some.inj h).symm

/-! ## The operations of a run -/

/-- The operation that an action performs, with its thread. -/
def operation (c : Config Op Res σ Ret) : Act ω Call Env → Option (ι × Op)
  | .run i _ => (c.prog i).next.map (i, ·)
  | .call _ _ | .env _ => none

/-- The operations of a run, each with its thread. -/
def performed (path : List (Taken (Config Op Res σ Ret) (Act ω Call Env))) : List (ι × Op) :=
  path.filterMap fun t => operation t.before t.act

omit [DecidableEq ι] in
theorem operation_of_op {c : Config Op Res σ Ret} {i : ι} {w : ω} {o : Op}
    {k : Res o → Program Op Res (Ret i)} (hp : c.prog i = .op o k) :
    operation c (.run i w : Act ω Call Env) = some (i, o) := by
  rw [operation, hp]
  rfl

omit [DecidableEq ι] in
theorem performed_append (path path' : List (Taken (Config Op Res σ Ret) (Act ω Call Env))) :
    performed (path ++ path') = performed path ++ performed path' :=
  List.filterMap_append

omit [DecidableEq ι] in
theorem performed_cons (t : Taken (Config Op Res σ Ret) (Act ω Call Env))
    (path : List (Taken (Config Op Res σ Ret) (Act ω Call Env))) :
    performed (t :: path) = (operation t.before t.act).toList ++ performed path := by
  unfold performed
  rw [List.filterMap_cons]
  cases operation t.before t.act <;> rfl

omit [DecidableEq ι] in
/-- What stands before an operation is what was performed before its step. -/
theorem forall_performed_iff {path : List (Taken (Config Op Res σ Ret) (Act ω Call Env))}
    {R : List (ι × Op) → ι × Op → Prop} :
    (∀ before t after, path = before ++ t :: after →
        ∀ x ∈ operation t.before t.act, R (performed before) x) ↔
      ∀ before x after, performed path = before ++ x :: after → R before x := by
  constructor
  · intro h before x after hsplit
    obtain ⟨p, q, rfl, rfl, hq⟩ := List.filterMap_eq_append_iff.1 hsplit
    obtain ⟨q₁, t, q₂, rfl, hnone, hx, -⟩ := List.filterMap_eq_cons_iff.1 hq
    have hq₁ : performed q₁ = [] := List.filterMap_eq_nil_iff.2 hnone
    have hbefore := h (p ++ q₁) t q₂ (by simp) x hx
    rwa [performed_append, hq₁, List.append_nil] at hbefore
  · rintro h before t after rfl x hx
    refine h _ x (performed after) ?_
    rw [performed_append, performed_cons, hx]
    rfl

/-- A condition on the steps, told from the order of the operations: `R` says of the operations so
far and the next one what `G` says of the step. -/
theorem obeys_iff_performed {I : List (ι × Op) → Config Op Res σ Ret → Prop}
    {G : Config Op Res σ Ret → Act ω Call Env → Prop} {R : List (ι × Op) → ι × Op → Prop}
    (keep : ∀ log c a c', I log c → T.system.step c a = some c' →
      I (log ++ (operation c a).toList) c')
    (same : ∀ log c a c', I log c → T.system.step c a = some c' →
      (G c a ↔ ∀ x ∈ operation c a, R log x))
    {c : Config Op Res σ Ret} (init : I [] c) (acts : List (Act ω Call Env)) :
    T.system.Obeys c acts G ↔
      ∀ before x after, performed (T.system.path c acts) = before ++ x :: after → R before x := by
  rw [← forall_performed_iff]
  refine System.obeys_iff_history (I := fun log c => I (performed log) c) ?_ ?_ init acts
  · intro log c a c' h hs
    have hlog : performed (log ++ [⟨c, a, c'⟩]) = performed log ++ (operation c a).toList := by
      rw [performed_append, performed_cons]
      exact congrArg (performed log ++ ·) (List.append_nil _)
    rw [hlog]
    exact keep _ c a c' h hs
  · exact fun log c a c' h hs => same _ c a c' h hs

/-! ## Contracts of all threads -/

/-- Every thread keeps its contract from its present local view on. -/
def AllSafe (C : (i : ι) → Program.Contract Op Res (Ret i) γ) (view : ι → σ → γ)
    (c : Config Op Res σ Ret) : Prop :=
  ∀ i, (c.prog i).Safe (C i) (view i c.shared)

/-- What makes local views local, for the steps of the system that `K` admits. -/
structure Local (T : Threads ι Op Res σ ω Ret Call Env)
    (C : (i : ι) → Program.Contract Op Res (Ret i) γ) (view : ι → σ → γ)
    (K : Config Op Res σ Ret → Act ω Call Env → Prop) : Prop where
  /-- An operation moves the view of its own thread as the contract allows. -/
  own : ∀ c i w o k r s, K c (.run i w) → c.prog i = .op o k →
    (C i).pre (view i c.shared) o k → T.exec i o w c.shared = some (r, s) →
    (C i).move (view i c.shared) o r (view i s)
  /-- No other thread's contract is broken by it. -/
  other : ∀ c i w o k r s, K c (.run i w) → c.prog i = .op o k →
    (C i).pre (view i c.shared) o k → T.exec i o w c.shared = some (r, s) →
    ∀ j, j ≠ i → ∀ p : Program Op Res (Ret j),
      p.Safe (C j) (view j c.shared) → p.Safe (C j) (view j s)
  /-- A call starts from what the return left. -/
  entry : ∀ i a d p g, (C i).post g a → T.entry i a d = some p → p.Safe (C i) g
  /-- The environment breaks no contract. -/
  env : ∀ e s s', T.env e s = some s' → ∀ j (p : Program Op Res (Ret j)),
    p.Safe (C j) (view j s) → p.Safe (C j) (view j s')

theorem AllSafe.step {C : (i : ι) → Program.Contract Op Res (Ret i) γ} {view : ι → σ → γ}
    {K : Config Op Res σ Ret → Act ω Call Env → Prop} (loc : Local T C view K)
    {c c' : Config Op Res σ Ret} {a : Act ω Call Env} (hK : K c a) (safe : AllSafe C view c)
    (h : T.system.step c a = some c') : AllSafe C view c' := by
  cases a with
  | run i w =>
    obtain ⟨o, k, r, s, hp, he, rfl⟩ := runStep_eq_some h
    have hi : (Program.op o k).Safe (C i) (view i c.shared) := hp ▸ safe i
    intro j
    by_cases hj : j = i
    · subst hj
      simpa using hi.move (loc.own c j w o k r s hK hp hi.pre he)
    · simpa [Function.update_of_ne hj] using
        loc.other c i w o k r s hK hp hi.pre he j hj (c.prog j) (safe j)
  | call i d =>
    obtain ⟨a, p, hp, he, rfl⟩ := callStep_eq_some h
    have hi : (Program.ret a).Safe (C i) (view i c.shared) := hp ▸ safe i
    intro j
    by_cases hj : j = i
    · subst hj
      simpa using loc.entry j a d p _ hi he
    · simpa [Function.update_of_ne hj] using safe j
  | env e =>
    obtain ⟨s, he, rfl⟩ := Option.map_eq_some_iff.1 h
    exact fun j => loc.env e c.shared s he j (c.prog j) (safe j)

end Threads

end Concurrency
