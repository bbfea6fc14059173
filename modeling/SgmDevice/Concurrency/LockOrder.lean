import SgmDevice.Concurrency.Mutex
import Mathlib.Order.WellFounded
import Mathlib.Data.Fintype.Order

/-!
# Mutexes that are taken in an order

Rules for threads with mutexes: a thread takes a mutex only when it is above all those that the
thread owns, it waits for anything else only when it owns none, and it performs an operation only
when it owns the mutexes that guard it.  Threads that keep them never block one another for good:
from every state the others can go on so that a thread that is at the point of taking a mutex gets
it (`Locking.unblocked`).  And no two threads are at operations that one mutex guards
(`Locking.exclusive`).  The rules are a contract of the single programs, to be checked for each of
them alone.
-/

namespace Concurrency

open Threads

variable {ι Op : Type} {Res : Op → Type} {σ ω : Type} {Ret Call : ι → Type} {Env : Type}
  [DecidableEq ι] {M : Type} [DecidableEq M]

/-- A mutex is taken above all others and given back by its owner. -/
def MutexUse.InOrder [LT M] (g : Finset M) : MutexUse M → Prop
  | .take m => ∀ n ∈ g, n < m
  | .give m => m ∈ g
  | .keep => True

/-- What the operations of some threads do with the mutexes `M`. -/
structure Locking (T : Threads ι Op Res σ ω Ret Call Env) (M : Type) [DecidableEq M] where
  use : Op → MutexUse M
  own : σ → M → Option ι
  /-- The operations that may wait for something else. -/
  Idles : Op → Prop
  /-- What a thread must own for an operation. -/
  guards : Op → Finset M
  exec_own : ∀ i o w s r s', T.exec i o w s = some (r, s') →
    (use o).exec (own s) i = some (own s')
  exec_isSome : ∀ i o s, ¬ Idles o → ((use o).exec (own s) i).isSome →
    ∃ w, (T.exec i o w s).isSome
  env_own : ∀ e s s', T.env e s = some s' → own s' = own s

namespace Locking

variable {T : Threads ι Op Res σ ω Ret Call Env} (L : Locking T M)

/-- Thread `i` is at the point of taking `m`. -/
def Takes (c : Config Op Res σ Ret) (i : ι) (m : M) : Prop :=
  ∃ o k, c.prog i = .op o k ∧ ¬ L.Idles o ∧ L.use o = .take m

/-- The other threads can go on so that thread `i`, which stays where it is, can do so too. -/
def Unblocked (T : Threads ι Op Res σ ω Ret Call Env) (c : Config Op Res σ Ret) (i : ι) : Prop :=
  ∃ acts w, (∀ a ∈ acts, ∃ j w, a = Act.run j w) ∧
    (T.system.final c acts).prog i = c.prog i ∧
      (T.system.step (T.system.final c acts) (.run i w)).isSome

variable [Fintype M] [Preorder M]

/-- The rules, in terms of the mutexes that the thread owns, for a program that ends with `post`. -/
def rules {α : Type} (post : Finset M → α → Prop) : Program.Contract Op Res α (Finset M) where
  pre g o _ := (L.Idles o → g = ∅) ∧ L.guards o ⊆ g ∧ (L.use o).InOrder g
  move g o _ g' := g' = (L.use o).move g
  post

/-- A thread owns nothing at a return. -/
abbrev contract (i : ι) : Program.Contract Op Res (Ret i) (Finset M) := L.rules fun g _ => g = ∅

/-- Every program that is called keeps the rules. -/
def Ordered : Prop :=
  ∀ i a d p, T.entry i a d = some p → p.Safe (L.contract i) ∅

/-- All threads keep the rules from here on. -/
abbrev Safe (c : Config Op Res σ Ret) : Prop :=
  AllSafe L.contract (fun i s => held (L.own s) i) c

variable {L}

theorem Ordered.local (h : L.Ordered) :
    Local T L.contract (fun i s => held (L.own s) i) fun _ _ => True where
  own c i w o k r s _ _ _ hexec := held_exec (L.exec_own i o w c.shared r s hexec)
  other c i w o k r s _ _ _ hexec j hj p hp := by
    rwa [held_exec_ne (L.exec_own i o w c.shared r s hexec) hj]
  entry i a d p g hg hp := by
    rw [show g = ∅ from hg]
    exact h i a d p hp
  env e s s' hs j p hp := by rwa [L.env_own e s s' hs]

theorem Safe.step (ordered : L.Ordered) {c c' : Config Op Res σ Ret} {a : Act ω Call Env}
    (safe : L.Safe c) (h : T.system.step c a = some c') : L.Safe c' :=
  AllSafe.step ordered.local trivial safe h

theorem Safe.final (ordered : L.Ordered) {c : Config Op Res σ Ret} (safe : L.Safe c)
    (acts : List (Act ω Call Env)) : L.Safe (T.system.final c acts) :=
  (System.always_of_invariant (fun _ _ _ hsafe hs => hsafe.step ordered hs) safe acts).final

/-- A thread that has returned owns nothing. -/
theorem Safe.not_own_of_returned {c : Config Op Res σ Ret} (safe : L.Safe c) {i : ι} {x : Ret i}
    (hprog : c.prog i = .ret x) (m : M) : L.own c.shared m ≠ some i := by
  intro howns
  have hmem : m ∈ held (L.own c.shared) i := mem_held.2 howns
  have hpost : (Program.ret x).Safe (L.contract i) (held (L.own c.shared) i) := hprog ▸ safe i
  rw [show held (L.own c.shared) i = ∅ from hpost] at hmem
  exact absurd hmem (Finset.notMem_empty m)

/-! ## Programs that keep the rules -/

section Rules

variable {α β : Type} {post : Finset M → α → Prop} {g : Finset M}

omit [Fintype M] in
theorem safe_op_iff {o : Op} {k : Res o → Program Op Res α} :
    (Program.op o k).Safe (L.rules post) g ↔
      ((L.Idles o → g = ∅) ∧ L.guards o ⊆ g ∧ (L.use o).InOrder g) ∧
        ∀ r, (k r).Safe (L.rules post) ((L.use o).move g) := by
  simp only [Program.safe_op, rules, forall_eq]

omit [Fintype M] in
@[simp] theorem post_rules (a : α) : (L.rules post).post g a ↔ post g a := Iff.rfl

omit [Fintype M] in
/-- Sequential composition. -/
theorem safe_bind {post' : Finset M → β → Prop} {p : Program Op Res α}
    {f : α → Program Op Res β} (hp : p.Safe (L.rules post) g)
    (hf : ∀ a g', post g' a → (f a).Safe (L.rules post') g') :
    (p >>= f).Safe (L.rules post') g := by
  induction p generalizing g with
  | ret a => exact hf a g hp
  | op o k ih => exact ⟨hp.pre, fun r g' hmove => ih r (hp.move hmove)⟩

end Rules

/-! ## Threads that others pass by -/

variable (L)

/-- All that the thread owns is below `m`. -/
def Below (m : M) (c : Config Op Res σ Ret) (i : ι) : Prop := ∀ n ∈ held (L.own c.shared) i, n < m

/-- The thread is where it was, with what it owned. -/
structure Untouched (i : ι) (c c' : Config Op Res σ Ret) : Prop where
  prog : c'.prog i = c.prog i
  held : held (L.own c'.shared) i = held (L.own c.shared) i

/-- Some threads can go on so that `m` becomes free, and those below it are left alone. -/
def Freeable (m : M) (c : Config Op Res σ Ret) : Prop :=
  ∃ acts, (∀ a ∈ acts, ∃ j w, a = Act.run j w) ∧ L.own (T.system.final c acts).shared m = none ∧
    ∀ i, L.Below m c i → L.Untouched i c (T.system.final c acts)

variable {L} {c : Config Op Res σ Ret} {i j : ι} {m : M}

omit [Preorder M] in
theorem Untouched.trans {c₁ c₂ : Config Op Res σ Ret} (h : L.Untouched i c c₁)
    (h' : L.Untouched i c₁ c₂) : L.Untouched i c c₂ :=
  ⟨h'.prog.trans h.prog, h'.held.trans h.held⟩

theorem Below.congr {c' : Config Op Res σ Ret} (h : L.Below m c i) (same : L.Untouched i c c') :
    L.Below m c' i := by
  unfold Below
  rw [same.held]
  exact h

/-- A thread is not below what it owns. -/
theorem Below.ne (h : L.Below m c i) (howned : L.own c.shared m = some j) : i ≠ j := by
  rintro rfl
  exact lt_irrefl m (h m (mem_held.2 howned))

omit [Preorder M] in
/-- A step leaves the other threads alone. -/
theorem untouched_step {c' : Config Op Res σ Ret} {w : ω}
    (h : T.system.step c (.run j w) = some c') (hne : i ≠ j) : L.Untouched i c c' := by
  obtain ⟨o, k, r, s, -, hexec, rfl⟩ := runStep_eq_some h
  exact ⟨Function.update_of_ne hne _ _, held_exec_ne (L.exec_own j o w c.shared r s hexec) hne⟩

theorem freeable_of_own (h : L.own c.shared m = none) : L.Freeable m c :=
  ⟨[], fun _ ha => absurd ha List.not_mem_nil, h, fun _ _ => ⟨rfl, rfl⟩⟩

/-- Steps that leave the threads below `m` alone may come first. -/
theorem Freeable.prepend {acts : List (Act ω Call Env)} (hruns : ∀ a ∈ acts, ∃ j w, a = Act.run j w)
    (huntouched : ∀ i, L.Below m c i → L.Untouched i c (T.system.final c acts))
    (h : L.Freeable m (T.system.final c acts)) : L.Freeable m c := by
  obtain ⟨acts', hruns', hfree, hafter⟩ := h
  refine ⟨acts ++ acts', ?_, ?_, fun i hi => ?_⟩
  · intro a ha
    exact (List.mem_append.1 ha).elim (hruns a) (hruns' a)
  · rwa [System.final_append]
  · rw [System.final_append]
    have hfirst := huntouched i hi
    exact hfirst.trans (hafter i (hi.congr hfirst))

/-- The owner of `m` may go on first. -/
theorem Freeable.prependStep {c' : Config Op Res σ Ret} {w : ω}
    (hs : T.system.step c (.run j w) = some c') (howned : L.own c.shared m = some j)
    (h : L.Freeable m c') : L.Freeable m c := by
  have hfinal : T.system.final c [.run j w] = c' := by
    rw [System.final, hs]
    rfl
  have huntouched : ∀ i, L.Below m c i → L.Untouched i c (T.system.final c [.run j w]) := by
    intro i hi
    rw [hfinal]
    exact untouched_step hs (hi.ne howned)
  refine Freeable.prepend (fun a ha => ⟨j, w, List.mem_singleton.1 ha⟩) huntouched ?_
  rwa [hfinal]

/-! ## Going on -/

omit [Fintype M] [Preorder M] in
/-- A thread whose use of the mutexes is possible can go on. -/
theorem exists_step {o : Op} {k : Res o → Program Op Res (Ret j)} {own' : M → Option ι}
    (hprog : c.prog j = .op o k) (hidle : ¬ L.Idles o)
    (huse : (L.use o).exec (L.own c.shared) j = some own') :
    ∃ w r c', T.system.step c (.run j w) = some c' ∧ c'.prog j = k r ∧ L.own c'.shared = own' := by
  have huse' : ((L.use o).exec (L.own c.shared) j).isSome := by rw [huse]; rfl
  obtain ⟨w, hsome⟩ := L.exec_isSome j o c.shared hidle huse'
  obtain ⟨⟨r, s⟩, hexec⟩ := Option.isSome_iff_exists.1 hsome
  have hown := L.exec_own j o w c.shared r s hexec
  refine ⟨w, r, ⟨s, Function.update c.prog j (k r)⟩, ?_, Function.update_self _ _ _, ?_⟩
  · change T.runStep c j w = _
    unfold runStep
    rw [hprog]
    dsimp only
    rw [hexec]
    rfl
  · exact Option.some.inj (hown.symm.trans huse)

/-- A mutex that is owned can be freed.  The induction is on the mutex, from above, and on what its
owner has left to run: where that takes another mutex, it is a higher one. -/
theorem freeable (ordered : L.Ordered) (safe : L.Safe c) (m : M) : L.Freeable m c := by
  induction m using WellFoundedGT.induction generalizing c with
  | ind m ihm =>
  cases howned : L.own c.shared m with
  | none => exact freeable_of_own howned
  | some j =>
  generalize hprog : c.prog j = p
  induction p generalizing c with
  | ret a => exact absurd howned (safe.not_own_of_returned hprog m)
  | op o k ihk =>
    have hop : (Program.op o k).Safe (L.contract j) (held (L.own c.shared) j) := hprog ▸ safe j
    obtain ⟨hidles, -, hpre⟩ := hop.pre
    have hidle : ¬ L.Idles o := fun h => by
      have hmem : m ∈ held (L.own c.shared) j := mem_held.2 howned
      rw [hidles h] at hmem
      exact Finset.notMem_empty m hmem
    -- the owner goes on with an operation that leaves it `m`
    have hgoesOn : ∀ {c' : Config Op Res σ Ret} {own' : M → Option ι}, L.Safe c' →
        L.own c'.shared m = some j → c'.prog j = .op o k →
        (L.use o).exec (L.own c'.shared) j = some own' → own' m = some j → L.Freeable m c' := by
      intro c' own' safe' howned' hprog' huse hkept
      obtain ⟨w, r, c'', hs, hprog'', hown⟩ := exists_step hprog' hidle huse
      exact Freeable.prependStep hs howned'
        (ihk r (safe'.step ordered hs) (by rw [hown, hkept]) hprog'')
    cases huse : L.use o with
    | keep => exact hgoesOn safe howned hprog (by rw [huse]; rfl) howned
    | give n =>
      rw [huse] at hpre
      have hexec : (L.use o).exec (L.own c.shared) j =
          some (Function.update (L.own c.shared) n none) := by
        rw [huse, MutexUse.exec, if_pos (mem_held.1 hpre)]
      by_cases hn : m = n
      · subst hn
        obtain ⟨w, r, c', hs, -, hown⟩ := exists_step hprog hidle hexec
        exact Freeable.prependStep hs howned (freeable_of_own (by rw [hown, Function.update_self]))
      · exact hgoesOn safe howned hprog hexec (by rw [Function.update_of_ne hn, howned])
    | take n =>
      rw [huse] at hpre
      have hlt : m < n := hpre m (mem_held.2 howned)
      obtain ⟨acts, hruns, hfree, huntouched⟩ := ihm n hlt safe
      -- the owner waits for `n` and is left alone while that is freed
      obtain ⟨hstays, hkeeps⟩ := huntouched j hpre
      refine Freeable.prepend hruns
        (fun i hi => huntouched i fun n' hn' => (hi n' hn').trans hlt) ?_
      have howned' : L.own (T.system.final c acts).shared m = some j := by
        rw [← mem_held, hkeeps, mem_held, howned]
      have hexec : (L.use o).exec (L.own (T.system.final c acts).shared) j =
          some (Function.update (L.own (T.system.final c acts).shared) n (some j)) := by
        rw [huse, MutexUse.exec, if_pos hfree]
      exact hgoesOn (safe.final ordered acts) howned' (hstays.trans hprog) hexec
        (by rw [Function.update_of_ne hlt.ne, howned'])

/-- A thread that is at the point of taking a mutex gets it, if the others go on. -/
theorem unblocked (ordered : L.Ordered) (safe : L.Safe c) (h : L.Takes c i m) :
    Unblocked T c i := by
  obtain ⟨o, k, hprog, hidle, huse⟩ := h
  have hop : (Program.op o k).Safe (L.contract i) (held (L.own c.shared) i) := hprog ▸ safe i
  have hbelow : L.Below m c i := by
    have hpre := hop.pre.2.2
    rwa [huse] at hpre
  obtain ⟨acts, hruns, hfree, huntouched⟩ := freeable ordered safe m
  have hstays := (huntouched i hbelow).prog
  have hexec : (L.use o).exec (L.own (T.system.final c acts).shared) i =
      some (Function.update (L.own (T.system.final c acts).shared) m (some i)) := by
    rw [huse, MutexUse.exec, if_pos hfree]
  obtain ⟨w, r, c', hs, -⟩ := exists_step (hstays.trans hprog) hidle hexec
  exact ⟨acts, w, hruns, hstays, by rw [hs]; rfl⟩

/-- A thread owns what guards its next operation. -/
theorem owned (safe : L.Safe c) {o : Op} (hnext : (c.prog i).next = some o)
    (hm : m ∈ L.guards o) : L.own c.shared m = some i := by
  obtain ⟨k, hk⟩ := Program.eq_op_of_next hnext
  have hop : (Program.op o k).Safe (L.contract i) (held (L.own c.shared) i) := hk ▸ safe i
  exact mem_held.1 (hop.pre.2.1 hm)

/-- No two threads are at operations that a mutex guards. -/
theorem exclusive (safe : L.Safe c) (hne : i ≠ j) {o o' : Op}
    (hi : (c.prog i).next = some o) (hj : (c.prog j).next = some o') :
    Disjoint (L.guards o) (L.guards o') := by
  rw [Finset.disjoint_left]
  intro m hm hm'
  exact hne (Option.some.inj ((owned safe hi hm).symm.trans (owned safe hj hm')))

end Locking

end Concurrency
