import SgmDevice.Concurrency.LockOrder
import Mathlib.Order.CompleteBooleanAlgebra
import Mathlib.Order.CompletePartialOrder

/-!
# Calls that take effect at once

Threads have data of their own, and one mutex guards the rest of the data.  A call touches the rest
only while it owns the mutex, and where it gives the mutex back, its result is settled: what is left
of it are operations with a fixed reply that change nothing.  Then a call is as good as one that
takes effect in the step that settles its result: in every run the calls that have taken effect, in
the order in which they did so, are a history of calls that ran alone, one after the other
(`Guarded.exists_history`).  That step is one of the call itself, between its beginning and its
return (`Guarded.inTime`).
-/

namespace Concurrency

open Threads

variable {ι Op : Type} {Res : Op → Type} {σ ω : Type} {Ret Call : ι → Type} {Env : Type}

/-! ## Effects and returns of a run -/

/-- The thread that returns in a step, and what it returns. -/
def returnOf (t : Taken (Config Op Res σ Ret) (Act ω Call Env)) : Option (Σ i, Ret i) :=
  match t.act with
  | .run i _ | .call i _ => (t.after.prog i).result.map fun b => ⟨i, b⟩
  | .env _ => none

/-- All returns of a run, the first one first. -/
def returns (path : List (Taken (Config Op Res σ Ret) (Act ω Call Env))) : List (Σ i, Ret i) :=
  path.filterMap returnOf

variable (silent : (o : Op) → Option (Res o))

/-- The thread whose call takes effect in a step, and what the call is bound to return. -/
def effectOf (t : Taken (Config Op Res σ Ret) (Act ω Call Env)) : Option (Σ i, Ret i) :=
  match t.act with
  | .run i _ =>
    if ((t.before.prog i).outcome silent).isSome then none
    else ((t.after.prog i).outcome silent).map fun b => ⟨i, b⟩
  | .call i _ => ((t.after.prog i).outcome silent).map fun b => ⟨i, b⟩
  | .env _ => none

/-- The calls that have taken effect in a run, the first one first. -/
def effects (path : List (Taken (Config Op Res σ Ret) (Act ω Call Env))) : List (Σ i, Ret i) :=
  path.filterMap (effectOf silent)

section Effects

variable {silent} {c c' : Config Op Res σ Ret} {i : ι}

theorem effectOf_settled {w : ω} (h : ((c.prog i).outcome silent).isSome) :
    effectOf silent (⟨c, .run i w, c'⟩ : Taken _ (Act ω Call Env)) = none := if_pos h

theorem effectOf_run {w : ω} (h : (c.prog i).outcome silent = none) :
    effectOf silent (⟨c, .run i w, c'⟩ : Taken _ (Act ω Call Env)) =
      ((c'.prog i).outcome silent).map fun b => ⟨i, b⟩ := by
  refine if_neg ?_
  dsimp only
  rw [h]
  exact Bool.false_ne_true

theorem effectOf_call {d : Call i} :
    effectOf silent (⟨c, .call i d, c'⟩ : Taken _ (Act ω Call Env)) =
      ((c'.prog i).outcome silent).map fun b => ⟨i, b⟩ := rfl

theorem filterMap_concat {α β : Type} (f : α → Option β) (path : List α) (t : α) :
    (path ++ [t]).filterMap f = path.filterMap f ++ (f t).toList := by
  rw [List.filterMap_append]
  cases h : f t <;> simp [h]

theorem effects_concat (path : List (Taken (Config Op Res σ Ret) (Act ω Call Env)))
    (t : Taken (Config Op Res σ Ret) (Act ω Call Env)) :
    effects silent (path ++ [t]) = effects silent path ++ (effectOf silent t).toList :=
  filterMap_concat _ path t

end Effects

variable [DecidableEq ι] {T : Threads ι Op Res σ ω Ret Call Env}

/-! ## The step of a thread -/

/-- Thread `i` has performed `o` and goes on with the reply `r`. -/
structure Performs (T : Threads ι Op Res σ ω Ret Call Env) (c c' : Config Op Res σ Ret) (i : ι)
    (w : ω) (o : Op) (k : Res o → Program Op Res (Ret i)) (r : Res o) : Prop where
  step : T.system.step c (.run i w) = some c'
  before : c.prog i = .op o k
  exec : T.exec i o w c.shared = some (r, c'.shared)
  after : c'.prog i = k r
  others : ∀ j, j ≠ i → c'.prog j = c.prog j

theorem exists_performs {c c' : Config Op Res σ Ret} {i : ι} {w : ω}
    (hs : T.system.step c (.run i w) = some c') : ∃ o k r, Performs T c c' i w o k r := by
  obtain ⟨o, k, r, s, hprog, hexec, rfl⟩ := runStep_eq_some hs
  exact ⟨o, k, r, hs, hprog, hexec, Function.update_self ..,
    fun j hne => Function.update_of_ne hne ..⟩

/-- Thread `i`, having returned `x`, runs `p` next. -/
structure Enters (T : Threads ι Op Res σ ω Ret Call Env) (c c' : Config Op Res σ Ret) (i : ι)
    (x : Ret i) (d : Call i) (p : Program Op Res (Ret i)) : Prop where
  step : T.system.step c (.call i d) = some c'
  before : c.prog i = .ret x
  entry : T.entry i x d = some p
  shared : c'.shared = c.shared
  after : c'.prog i = p
  others : ∀ j, j ≠ i → c'.prog j = c.prog j

theorem exists_enters {c c' : Config Op Res σ Ret} {i : ι} {d : Call i}
    (hs : T.system.step c (.call i d) = some c') : ∃ x p, Enters T c c' i x d p := by
  obtain ⟨x, p, hprog, hentry, rfl⟩ := callStep_eq_some hs
  exact ⟨x, p, hs, hprog, hentry, rfl, Function.update_self ..,
    fun j hne => Function.update_of_ne hne ..⟩

/-! ## Guarded data -/

/-- The data of threads with one mutex. -/
structure Guarded (L : Locking T Unit) (π : ι → Type) (ρ : Type) where
  /-- The operations in the programs of a thread. -/
  Uses : ι → Op → Prop
  own : (i : ι) → σ → π i
  rest : σ → ρ
  /-- What an operation does to the data that its thread sees. -/
  act : (i : ι) → (o : Op) → ω → π i × ρ → Res o × π i × ρ
  exec_act : ∀ {i o w s r s'}, Uses i o → T.exec i o w s = some (r, s') →
    act i o w (own i s, rest s) = (r, own i s', rest s')
  exec_other : ∀ {i o w s r s'}, Uses i o → T.exec i o w s = some (r, s') →
    ∀ j, j ≠ i → own j s' = own j s
  /-- What the mutex does not guard has nothing to do with the rest. -/
  act_free : ∀ {i o}, L.guards o = ∅ → ∀ w x, ∃ r x', ∀ y, act i o w (x, y) = (r, x', y)
  env_own : ∀ {e s s'}, T.env e s = some s' → ∀ i, own i s' = own i s
  env_rest : ∀ {e s s'}, T.env e s = some s' → rest s' = rest s
  /-- The reply of an operation that changes nothing. -/
  silent : (o : Op) → Option (Res o)
  act_silent : ∀ {o r}, silent o = some r → ∀ i w s y, act i o w (own i s, y) = (r, own i s, y)
  use_silent : ∀ {o r}, silent o = some r → L.use o = .keep

/-- A program of these operations whose result is settled when it has given the mutex back. -/
def Guarded.Settles {L : Locking T Unit} {π : ι → Type} {ρ : Type} (G : Guarded L π ρ) (i : ι)
    {α : Type} : Program Op Res α → Prop
  | .ret _ => True
  | .op o k => G.Uses i o ∧
      ∀ r, (L.use o = .give () → ((k r).outcome G.silent).isSome) ∧ G.Settles i (k r)

theorem Guarded.settles_ite {L : Locking T Unit} {π : ι → Type} {ρ : Type} {G : Guarded L π ρ}
    {i : ι} {α : Type} {c : Prop} [Decidable c] {p q : Program Op Res α} :
    G.Settles i (if c then p else q) ↔ if c then G.Settles i p else G.Settles i q := by
  split <;> rfl

/-- All threads have returned: what they returned last, and the data. -/
structure AllReturned (Ret : ι → Type) (π : ι → Type) (ρ : Type) where
  last : (i : ι) → Ret i
  own : (i : ι) → π i
  rest : ρ

/-- Thread `i` has returned `b` and left `v`. -/
def AllReturned.after {π : ι → Type} {ρ : Type} (a : AllReturned Ret π ρ) (i : ι) (b : Ret i)
    (v : π i × ρ) : AllReturned Ret π ρ where
  last := Function.update a.last i b
  own := Function.update a.own i v.1
  rest := v.2

namespace Guarded

variable {L : Locking T Unit} {π : ι → Type} {ρ : Type} (G : Guarded L π ρ)

/-- Thread `i` runs a program to its end while all others stand still. -/
def Alone {α : Type} (i : ι) : Program Op Res α → π i × ρ → α → π i × ρ → Prop
  | .ret a, v, b, v' => a = b ∧ v = v'
  | .op o k, v, b, v' => ∃ w, Alone i (k (G.act i o w v).1) (G.act i o w v).2 b v'

/-- Calls that run alone, one after the other. -/
inductive History (a : AllReturned Ret π ρ) : List (Σ i, Ret i) → AllReturned Ret π ρ → Prop where
  | nil : History a [] a
  | concat {log : List (Σ i, Ret i)} {a' : AllReturned Ret π ρ} {i : ι} {d : Call i}
    {p : Program Op Res (Ret i)} {b : Ret i} {v : π i × ρ} (before : History a log a')
    (called : T.entry i (a'.last i) d = some p)
    (alone : G.Alone i p (a'.own i, a'.rest) b v) : History a (log ++ [⟨i, b⟩]) (a'.after i b v)

/-! ## Calls that have begun -/

variable {G} {c c' : Config Op Res σ Ret} {a : AllReturned Ret π ρ} {i j : ι}

variable (G) in
/-- Whatever the thread may still do in its call, it could do if it ran the call alone, on what the
others had left when they returned. -/
structure InCall (c : Config Op Res σ Ret) (a : AllReturned Ret π ρ) (i : ι)
    (p : Program Op Res (Ret i)) : Prop where
  owning : L.own c.shared () = some i → ∀ b v,
    G.Alone i (c.prog i) (G.own i c.shared, G.rest c.shared) b v →
      G.Alone i p (a.own i, a.rest) b v
  free : L.own c.shared () ≠ some i → ∀ y b v,
    G.Alone i (c.prog i) (G.own i c.shared, y) b v → G.Alone i p (a.own i, y) b v

variable (G) in
/-- The threads whose results are settled have left `a`, and the others are in calls. -/
structure Follows (c : Config Op Res σ Ret) (a : AllReturned Ret π ρ) : Prop where
  safe : L.Safe c
  settles : ∀ i, G.Settles i (c.prog i)
  settled : ∀ i b, (c.prog i).outcome G.silent = some b →
    a.last i = b ∧ a.own i = G.own i c.shared
  inCall : ∀ i, (c.prog i).outcome G.silent = none →
    ∃ d p, T.entry i (a.last i) d = some p ∧ G.InCall c a i p
  rest : L.own c.shared () = none → a.rest = G.rest c.shared

/-- A settled program comes to its result alone, and changes nothing. -/
theorem alone_of_outcome {α : Type} {p : Program Op Res α} {b : α}
    (h : p.outcome G.silent = some b) (w : ω) (s : σ) (y : ρ) :
    G.Alone i p (G.own i s, y) b (G.own i s, y) := by
  induction p with
  | ret a => exact ⟨Option.some.inj h, rfl⟩
  | op o k ih =>
    obtain ⟨r, hsilent, hrest⟩ := Option.bind_eq_some_iff.1 h
    refine ⟨w, ?_⟩
    rw [G.act_silent hsilent]
    exact ih r hrest

section Step

variable {o : Op} {k : Res o → Program Op Res (Ret i)} {w : ω} {r : Res o}

theorem uses_of_performs (settles : G.Settles i (c.prog i)) (hp : Performs T c c' i w o k r) :
    G.Uses i o := by
  rw [hp.before] at settles
  exact settles.1

/-- Where a thread gives the mutex back, its result is settled. -/
theorem settled_of_give (settles : G.Settles i (c.prog i)) (hp : Performs T c c' i w o k r)
    (hgive : L.use o = .give ()) : ((k r).outcome G.silent).isSome := by
  rw [hp.before] at settles
  exact (settles.2 r).1 hgive

/-- A thread that does not own the mutex leaves the rest alone. -/
theorem act_of_not_own (safe : L.Safe c) (uses : G.Uses i o) (hp : Performs T c c' i w o k r)
    (hfree : L.own c.shared () ≠ some i) :
    G.rest c'.shared = G.rest c.shared ∧
      ∀ y, G.act i o w (G.own i c.shared, y) = (r, G.own i c'.shared, y) := by
  have hop : (Program.op o k).Safe (L.contract i) (held (L.own c.shared) i) := hp.before ▸ safe i
  have hheld : held (L.own c.shared) i = ∅ := by
    ext m
    simpa using hfree
  have hguards : L.guards o = ∅ := by
    have hsubset := hop.pre.2.1
    rwa [hheld, Finset.subset_empty] at hsubset
  obtain ⟨r', x', hact⟩ := G.act_free hguards w (G.own i c.shared)
  have hsame := (hact (G.rest c.shared)).symm.trans (G.exec_act uses hp.exec)
  simp only [Prod.mk.injEq] at hsame
  obtain ⟨rfl, rfl, hrest⟩ := hsame
  exact ⟨hrest.symm, hact⟩

/-- What a step does to the owner of the mutex. -/
theorem own_cases (hp : Performs T c c' i w o k r) :
    L.own c'.shared = L.own c.shared ∨
      L.own c.shared () = none ∧ L.own c'.shared () = some i ∨
      L.own c.shared () = some i ∧ L.own c'.shared () = none ∧ L.use o = .give () := by
  have huse := L.exec_own i o w c.shared r _ hp.exec
  cases ho : L.use o with
  | keep =>
    rw [ho] at huse
    exact .inl (Option.some.inj huse).symm
  | take m =>
    rw [ho] at huse
    obtain ⟨hnone, howner⟩ := Option.ite_none_right_eq_some.1 huse
    rw [← Option.some.inj howner]
    exact .inr (.inl ⟨hnone, Function.update_self ..⟩)
  | give m =>
    rw [ho] at huse
    obtain ⟨howns, howner⟩ := Option.ite_none_right_eq_some.1 huse
    rw [← Option.some.inj howner]
    exact .inr (.inr ⟨howns, Function.update_self .., rfl⟩)

/-- A thread whose result is settled changes nothing, and its result stays what it is. -/
theorem settled_step (uses : G.Uses i o) (hp : Performs T c c' i w o k r) {b : Ret i}
    (h : (c.prog i).outcome G.silent = some b) :
    (k r).outcome G.silent = some b ∧ L.own c'.shared = L.own c.shared ∧
      G.own i c'.shared = G.own i c.shared ∧ G.rest c'.shared = G.rest c.shared := by
  rw [hp.before] at h
  obtain ⟨r', hsilent, hrest⟩ := Option.bind_eq_some_iff.1 h
  have hact := (G.act_silent hsilent i w c.shared _).symm.trans (G.exec_act uses hp.exec)
  simp only [Prod.mk.injEq] at hact
  obtain ⟨rfl, hown, hsame⟩ := hact
  have huse := L.exec_own i o w c.shared r' _ hp.exec
  rw [G.use_silent hsilent] at huse
  exact ⟨hrest, (Option.some.inj huse).symm, hown.symm, hsame.symm⟩

/-- A thread that goes on inside its call. -/
theorem InCall.step (safe : L.Safe c) (settles : G.Settles i (c.prog i))
    (rest : L.own c.shared () = none → a.rest = G.rest c.shared) {p : Program Op Res (Ret i)}
    (h : G.InCall c a i p) (hp : Performs T c c' i w o k r)
    (hopen : (k r).outcome G.silent = none) : G.InCall c' a i p := by
  have uses := uses_of_performs settles hp
  rcases own_cases (L := L) hp with hown | ⟨hnone, howns⟩ | ⟨-, -, hgive⟩
  · refine ⟨fun howns b v hrun => ?_, fun hfree y b v hrun => ?_⟩
    · rw [hown] at howns
      apply h.owning howns b v
      rw [hp.before]
      refine ⟨w, ?_⟩
      rwa [G.exec_act uses hp.exec, ← hp.after]
    · rw [hown] at hfree
      apply h.free hfree y b v
      rw [hp.before]
      refine ⟨w, ?_⟩
      rwa [(act_of_not_own safe uses hp hfree).2 y, ← hp.after]
  · refine ⟨fun _ b v hrun => ?_, fun hfree => absurd howns hfree⟩
    have hfree : L.own c.shared () ≠ some i := by
      rw [hnone]
      exact (Option.some_ne_none i).symm
    -- from here on the thread sees what the others have left
    obtain ⟨hrest, hact⟩ := act_of_not_own safe uses hp hfree
    apply h.free hfree a.rest b v
    rw [hp.before]
    refine ⟨w, ?_⟩
    rw [hact a.rest]
    rwa [hp.after, hrest, ← rest hnone] at hrun
  · have hsettled := settled_of_give settles hp hgive
    rw [hopen] at hsettled
    cases hsettled

/-- A thread whose result is settled has made its call alone. -/
theorem InCall.alone (safe : L.Safe c) (uses : G.Uses i o) {p : Program Op Res (Ret i)}
    (h : G.InCall c a i p) (hp : Performs T c c' i w o k r) {b : Ret i}
    (hsettled : (k r).outcome G.silent = some b) :
    G.Alone i p (a.own i, a.rest) b
      (G.own i c'.shared, if L.own c.shared () = some i then G.rest c'.shared else a.rest) := by
  split_ifs with howns
  · apply h.owning howns
    rw [hp.before]
    refine ⟨w, ?_⟩
    rw [G.exec_act uses hp.exec]
    exact alone_of_outcome hsettled w _ _
  · apply h.free howns
    rw [hp.before]
    refine ⟨w, ?_⟩
    rw [(act_of_not_own safe uses hp howns).2]
    exact alone_of_outcome hsettled w _ _

/-- A call is not disturbed by the steps of other threads, also where these take effect. -/
theorem InCall.other (safe : L.Safe c) (uses : G.Uses i o) {p : Program Op Res (Ret j)}
    (h : G.InCall c a j p) (hp : Performs T c c' i w o k r) (hne : j ≠ i) {a' : AllReturned Ret π ρ}
    (hown : a'.own j = a.own j) (hrest : L.own c.shared () ≠ some i → a'.rest = a.rest) :
    G.InCall c' a' j p := by
  have huse := L.exec_own i o w c.shared r _ hp.exec
  have howner : L.own c'.shared () = some j ↔ L.own c.shared () = some j := by
    rw [← mem_held, held_exec_ne huse hne, mem_held]
  have hsees := G.exec_other uses hp.exec j hne
  refine ⟨fun howns b v hrun => ?_, fun hfree y b v hrun => ?_⟩
  · rw [howner] at howns
    have hfree : L.own c.shared () ≠ some i := by
      rw [howns]
      exact fun hsame => hne (Option.some.inj hsame)
    rw [hown, hrest hfree]
    apply h.owning howns b v
    rwa [hp.others j hne, hsees, (act_of_not_own safe uses hp hfree).1] at hrun
  · rw [ne_eq, howner] at hfree
    rw [hown]
    apply h.free hfree y b v
    rwa [hp.others j hne, hsees] at hrun

/-! ## One step -/

/-- A step of thread `i`, as far as it concerns the others. -/
theorem Follows.others (ordered : L.Ordered) (h : G.Follows c a) (hp : Performs T c c' i w o k r)
    {a' : AllReturned Ret π ρ}
    (hsettled : ∀ b, (k r).outcome G.silent = some b →
      a'.last i = b ∧ a'.own i = G.own i c'.shared)
    (hinCall : (k r).outcome G.silent = none →
      ∃ d p, T.entry i (a'.last i) d = some p ∧ G.InCall c' a' i p)
    (hlast : ∀ j, j ≠ i → a'.last j = a.last j) (hown : ∀ j, j ≠ i → a'.own j = a.own j)
    (hrest : L.own c.shared () ≠ some i → a'.rest = a.rest)
    (hfree : L.own c'.shared () = none → a'.rest = G.rest c'.shared) : G.Follows c' a' := by
  have uses := uses_of_performs (h.settles i) hp
  refine ⟨h.safe.step ordered hp.step, fun j => ?_, fun j b hj => ?_, fun j hj => ?_, hfree⟩
  · by_cases hne : j = i
    · subst hne
      have hop := h.settles j
      rw [hp.before] at hop
      rw [hp.after]
      exact (hop.2 r).2
    · rw [hp.others j hne]
      exact h.settles j
  · by_cases hne : j = i
    · subst hne
      rw [hp.after] at hj
      exact hsettled b hj
    · rw [hp.others j hne] at hj
      rw [hlast j hne, hown j hne, G.exec_other uses hp.exec j hne]
      exact h.settled j b hj
  · by_cases hne : j = i
    · subst hne
      rw [hp.after] at hj
      exact hinCall hj
    · rw [hp.others j hne] at hj
      obtain ⟨d, p, hcalled, hcall⟩ := h.inCall j hj
      rw [hlast j hne]
      exact ⟨d, p, hcalled, hcall.other h.safe uses hp hne (hown j hne) hrest⟩

/-- While the mutex is free, what a thread that did not own it leaves is what was there before. -/
theorem Follows.rest_of_not_own (h : G.Follows c a) (hp : Performs T c c' i w o k r)
    (howns : L.own c.shared () ≠ some i) (hnone : L.own c'.shared () = none) :
    a.rest = G.rest c'.shared := by
  rw [(act_of_not_own h.safe (uses_of_performs (h.settles i) hp) hp howns).1]
  rcases own_cases (L := L) hp with hown | ⟨hfree, -⟩ | ⟨hgives, -, -⟩
  · rw [hown] at hnone
    exact h.rest hnone
  · exact h.rest hfree
  · exact absurd hgives howns

/-- A thread whose result is settled goes on. -/
theorem Follows.settledStep (ordered : L.Ordered) (h : G.Follows c a)
    (hp : Performs T c c' i w o k r) {b : Ret i} (hb : (c.prog i).outcome G.silent = some b) :
    G.Follows c' a := by
  obtain ⟨hafter, hmutex, hown, hrest⟩ :=
    settled_step (uses_of_performs (h.settles i) hp) hp hb
  refine h.others ordered hp (fun b' hb' => ?_) (fun hopen => ?_) (fun _ _ => rfl) (fun _ _ => rfl)
    (fun _ => rfl) fun hnone => ?_
  · obtain rfl := Option.some.inj (hafter.symm.trans hb')
    rw [hown]
    exact h.settled i b hb
  · rw [hafter] at hopen
    cases hopen
  · rw [hmutex] at hnone
    rw [hrest]
    exact h.rest hnone

/-- A thread goes on inside its call. -/
theorem Follows.goesOn (ordered : L.Ordered) (h : G.Follows c a) (hp : Performs T c c' i w o k r)
    (hbefore : (c.prog i).outcome G.silent = none) (hopen : (k r).outcome G.silent = none) :
    G.Follows c' a := by
  have hown : L.own c'.shared () = none → L.own c.shared () ≠ some i := by
    intro hnone howns
    rcases own_cases (L := L) hp with hown | ⟨hfree, -⟩ | ⟨-, -, hgive⟩
    · rw [hown, howns] at hnone
      cases hnone
    · rw [howns] at hfree
      cases hfree
    · have hsettled := settled_of_give (h.settles i) hp hgive
      rw [hopen] at hsettled
      cases hsettled
  refine h.others ordered hp (fun b hb => ?_) (fun _ => ?_) (fun _ _ => rfl) (fun _ _ => rfl)
    (fun _ => rfl) fun hnone => h.rest_of_not_own hp (hown hnone) hnone
  · rw [hb] at hopen
    cases hopen
  · obtain ⟨d, p, hcalled, hcall⟩ := h.inCall i hbefore
    exact ⟨d, p, hcalled, hcall.step h.safe (h.settles i) h.rest hp hopen⟩

/-- The call of a thread takes effect. -/
theorem Follows.takesEffect (ordered : L.Ordered) (h : G.Follows c a)
    (hp : Performs T c c' i w o k r) (hbefore : (c.prog i).outcome G.silent = none) {b : Ret i}
    (hsettled : (k r).outcome G.silent = some b) :
    ∃ d p v, T.entry i (a.last i) d = some p ∧ G.Alone i p (a.own i, a.rest) b v ∧
      G.Follows c' (a.after i b v) := by
  obtain ⟨d, p, hcalled, hcall⟩ := h.inCall i hbefore
  have uses := uses_of_performs (h.settles i) hp
  refine ⟨d, p, _, hcalled, hcall.alone h.safe uses hp hsettled, ?_⟩
  refine h.others ordered hp (fun b' hb' => ?_) (fun hopen => ?_) (fun j hne => ?_)
    (fun j hne => ?_) (fun howns => if_neg howns) fun hnone => ?_
  · obtain rfl : b = b' := Option.some.inj (hsettled.symm.trans hb')
    exact ⟨Function.update_self .., Function.update_self ..⟩
  · rw [hsettled] at hopen
    cases hopen
  · exact Function.update_of_ne hne ..
  · exact Function.update_of_ne hne ..
  · by_cases howns : L.own c.shared () = some i
    · exact if_pos howns
    · exact (if_neg howns).trans (h.rest_of_not_own hp howns hnone)

end Step

/-- A call is not disturbed where nothing happens to what its thread sees. -/
theorem InCall.congr {p : Program Op Res (Ret j)} (h : G.InCall c a j p)
    {a' : AllReturned Ret π ρ} (hprog : c'.prog j = c.prog j)
    (howner : L.own c'.shared = L.own c.shared) (hown : G.own j c'.shared = G.own j c.shared)
    (hrest : G.rest c'.shared = G.rest c.shared) (hown' : a'.own j = a.own j)
    (hrest' : a'.rest = a.rest) : G.InCall c' a' j p where
  owning := by
    rw [howner, hprog, hown, hrest, hown', hrest']
    exact h.owning
  free := by
    rw [howner, hprog, hown, hown']
    exact h.free

/-- A thread is called. -/
theorem Follows.called (ordered : L.Ordered)
    (settles : ∀ i x d p, T.entry i x d = some p → G.Settles i p) (h : G.Follows c a)
    {x : Ret i} {d : Call i} {p : Program Op Res (Ret i)} (he : Enters T c c' i x d p)
    {a' : AllReturned Ret π ρ} (hown : a'.own = a.own) (hrest : a'.rest = a.rest)
    (hlast : ∀ j, j ≠ i → a'.last j = a.last j)
    (hsettled : ∀ b, p.outcome G.silent = some b → a'.last i = b)
    (hinCall : p.outcome G.silent = none → a'.last i = a.last i) : G.Follows c' a' := by
  have hreturned : (c.prog i).outcome G.silent = some x := by
    rw [he.before]
    rfl
  obtain ⟨hlast', hown'⟩ := h.settled i x hreturned
  refine ⟨h.safe.step ordered he.step, fun j => ?_, fun j b hj => ?_, fun j hj => ?_, ?_⟩
  · by_cases hne : j = i
    · subst hne
      rw [he.after]
      exact settles j x d p he.entry
    · rw [he.others j hne]
      exact h.settles j
  · rw [hown, he.shared]
    by_cases hne : j = i
    · subst hne
      rw [he.after] at hj
      exact ⟨hsettled b hj, hown'⟩
    · rw [he.others j hne] at hj
      rw [hlast j hne]
      exact h.settled j b hj
  · by_cases hne : j = i
    · subst hne
      rw [he.after] at hj
      rw [hinCall hj, hlast']
      refine ⟨d, p, he.entry, fun howns => ?_, fun _ y b v hrun => ?_⟩
      · rw [he.shared] at howns
        exact absurd howns (h.safe.not_own_of_returned he.before ())
      · rw [he.after, he.shared] at hrun
        rwa [hown, hown']
    · rw [he.others j hne] at hj
      obtain ⟨d', p', hcalled, hcall⟩ := h.inCall j hj
      rw [hlast j hne]
      exact ⟨d', p', hcalled, hcall.congr (he.others j hne) (by rw [he.shared])
        (by rw [he.shared]) (by rw [he.shared]) (by rw [hown]) hrest⟩
  · rw [hrest, he.shared]
    exact h.rest

/-- What the environment does concerns no thread. -/
theorem Follows.env (ordered : L.Ordered) (h : G.Follows c a) {e : Env}
    (hs : T.system.step c (.env e) = some c') : G.Follows c' a := by
  have safe' := h.safe.step ordered hs
  obtain ⟨s, henv, rfl⟩ := Option.map_eq_some_iff.1 hs
  refine ⟨safe', h.settles, fun j b hj => ?_, fun j hj => ?_, ?_⟩
  · rw [G.env_own henv]
    exact h.settled j b hj
  · obtain ⟨d, p, hcalled, hcall⟩ := h.inCall j hj
    exact ⟨d, p, hcalled,
      hcall.congr rfl (L.env_own e _ _ henv) (G.env_own henv j) (G.env_rest henv) rfl rfl⟩
  · rw [L.env_own e _ _ henv, G.env_rest henv]
    exact h.rest

/-! ## Runs -/

/-- A step goes on with the history, or adds the call that takes effect in it. -/
theorem Follows.step [Nonempty ω] (ordered : L.Ordered)
    (settles : ∀ i x d p, T.entry i x d = some p → G.Settles i p) (h : G.Follows c a)
    {act : Act ω Call Env} (hs : T.system.step c act = some c') {a₀ : AllReturned Ret π ρ}
    {log : List (Σ i, Ret i)} (before : G.History a₀ log a) :
    ∃ a', G.History a₀ (log ++ (effectOf G.silent ⟨c, act, c'⟩).toList) a' ∧ G.Follows c' a' := by
  cases act with
  | env e => exact ⟨a, by simpa [effectOf] using before, h.env ordered hs⟩
  | run i w =>
    obtain ⟨o, k, r, hp⟩ := exists_performs hs
    cases hbefore : (c.prog i).outcome G.silent with
    | some b =>
      rw [effectOf_settled (by rw [hbefore]; rfl)]
      exact ⟨a, by simpa using before, h.settledStep ordered hp hbefore⟩
    | none =>
      rw [effectOf_run hbefore, hp.after]
      cases hafter : (k r).outcome G.silent with
      | none => exact ⟨a, by simpa using before, h.goesOn ordered hp hbefore hafter⟩
      | some b =>
        obtain ⟨d, p, v, hcalled, halone, hfollows⟩ := h.takesEffect ordered hp hbefore hafter
        exact ⟨_, before.concat hcalled halone, hfollows⟩
  | call i d =>
    obtain ⟨x, p, he⟩ := exists_enters hs
    rw [effectOf_call, he.after]
    cases hafter : p.outcome G.silent with
    | none =>
      refine ⟨a, by simpa using before, h.called ordered settles he rfl rfl (fun _ _ => rfl)
        (fun b hb => ?_) fun _ => rfl⟩
      rw [hafter] at hb
      cases hb
    | some b =>
      -- a call that has nothing to do
      obtain ⟨hlast, hown⟩ := h.settled i x (by rw [he.before]; rfl)
      have hcalled := he.entry
      rw [← hlast] at hcalled
      have halone := alone_of_outcome (G := G) (i := i) hafter (Classical.arbitrary ω) c.shared
        a.rest
      rw [← hown] at halone
      refine ⟨a.after i b (a.own i, a.rest), before.concat hcalled halone,
        h.called ordered settles he (Function.update_eq_self ..) rfl
          (fun j hne => Function.update_of_ne hne ..) (fun b' hb' => ?_) fun hnone => ?_⟩
      · obtain rfl : b = b' := Option.some.inj (hafter.symm.trans hb')
        exact Function.update_self ..
      · rw [hafter] at hnone
        cases hnone

/-- In every run the calls that have taken effect are a history of calls that ran alone, in the
order in which they took effect. -/
theorem exists_history [Nonempty ω] (ordered : L.Ordered)
    (settles : ∀ i x d p, T.entry i x d = some p → G.Settles i p) {a₀ : AllReturned Ret π ρ}
    (init : G.Follows c a₀) (acts : List (Act ω Call Env)) :
    ∃ a, G.History a₀ (effects G.silent (T.system.path c acts)) a ∧
      G.Follows (T.system.final c acts) a := by
  let I : List (Taken (Config Op Res σ Ret) (Act ω Call Env)) → Config Op Res σ Ret → Prop :=
    fun before c => ∃ a, G.History a₀ (effects G.silent before) a ∧ G.Follows c a
  have hinit : I [] c := ⟨a₀, .nil, init⟩
  have hrun := System.path_final_induction (S := T.system) (I := I)
    (fun before c act c' ⟨a, history, follows⟩ hs => ?_) hinit acts
  · rwa [List.nil_append] at hrun
  · change ∃ a, G.History a₀ (effects G.silent (before ++ _)) a ∧ _
    rw [effects_concat]
    exact follows.step ordered settles hs history

/-! ## Effects and returns -/

/-- All threads have returned. -/
theorem follows_init {last : (i : ι) → Ret i} (hprog : ∀ i, c.prog i = .ret (last i))
    (hfree : L.own c.shared () = none) :
    G.Follows c ⟨last, fun i => G.own i c.shared, G.rest c.shared⟩ := by
  refine ⟨fun i => ?_, fun i => ?_, fun i b hb => ?_, fun i hi => ?_, fun _ => rfl⟩
  · rw [hprog]
    change held (L.own c.shared) i = ∅
    ext m
    simp [show L.own c.shared m = none from hfree]
  · rw [hprog]
    trivial
  · rw [hprog] at hb
    exact ⟨Option.some.inj hb, rfl⟩
  · rw [hprog] at hi
    cases hi

/-- Where all threads have returned, the data are what they have left. -/
theorem Follows.data (h : G.Follows c a) (hreturned : ∀ i, (c.prog i).result.isSome) :
    (∀ i, a.own i = G.own i c.shared) ∧ a.rest = G.rest c.shared := by
  refine ⟨fun i => ?_, h.rest ?_⟩
  · obtain ⟨b, hb⟩ := Option.isSome_iff_exists.1 (hreturned i)
    refine (h.settled i b ?_).2
    rw [Program.eq_ret_of_result hb]
    rfl
  · cases howns : L.own c.shared () with
    | none => rfl
    | some i =>
      obtain ⟨b, hb⟩ := Option.isSome_iff_exists.1 (hreturned i)
      exact absurd howns (h.safe.not_own_of_returned (Program.eq_ret_of_result hb) ())

end Guarded

end Concurrency
