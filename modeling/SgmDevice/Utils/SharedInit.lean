import SgmDevice.Utils.SharedMemory

/-!
# When the segment is initialised

Only the process that created the segment runs `initData()` on it, once (`usage`).  Every other
process goes by the name alone: it maps whatever the creator has left so far.  So the segment is
initialised at every `INIT_OK` if and only if every process that attached to it makes its last test
behind the last statement of an `initData()` (`initialised_iff`).
-/

namespace SgmDevice

namespace SharedMemory

open Concurrency

variable {ι : Type}

/-! ## What the statements of `init` do -/

/-- `initData()` has been completed: the mutex is process-shared and the flags are false. -/
structure Initialised (seg : Segment ι) : Prop where
  completed : 1 ≤ seg.completed
  mutex : seg.memory.mutex = .processShared
  isModemReady : seg.memory.isModemReady = false
  isCmuxReady : seg.memory.isCmuxReady = false

/-- The segment where a statement of `initData()` begins. -/
def InitStatement.Ready (seg : Segment ι) : InitStatement → Prop
  | .assignMutex => seg.begun = 0 ∧ seg.completed = 0
  | .mutexInit => seg.begun = 1 ∧ seg.completed = 0
  | .clearModemReady =>
    seg.begun = 1 ∧ seg.completed = 0 ∧ seg.memory.mutex = .processShared
  | .clearCmuxReady =>
    seg.begun = 1 ∧ seg.completed = 0 ∧ seg.memory.mutex = .processShared ∧
      seg.memory.isModemReady = false

/-- What a process alone changes: its own static and the segment it created. -/
structure View (ι : Type) where
  isInitialized : Bool
  own : Option (Segment ι)

def view [DecidableEq ι] (i : ι) (s : State ι) : View ι :=
  ⟨(s.process i).isInitialized, s.segment.filter (·.creator = i)⟩

/-- How a call of `init()` uses the segment. -/
def usage (_ : ι) : Program.Contract Op Op.Res (Option Result) (View ι) where
  pre g o k :=
    match o, k with
    | .attached, k => ∀ r, (k r).result = some (some .initOk) ↔ r = true
    | .initData .clearCmuxReady, _ =>
      ∃ seg, g.own = some seg ∧ InitStatement.Ready seg .clearCmuxReady
    | .initData st, k => (∃ seg, g.own = some seg ∧ st.Ready seg) ∧
        ∀ r, (k r).result ≠ some (some .initOk)
    | _, k => ∀ r, (k r).result ≠ some (some .initOk)
  move g o r g' :=
    match o, r with
    | .alreadyInitialized, r | .attached, r => r = g.isInitialized ∧ g' = g
    | .setInitialized, _ => g'.isInitialized = true
    | .shmOpen true, none => g'.isInitialized = g.isInitialized ∧
        ∃ seg, g'.own = some seg ∧ InitStatement.Ready seg .assignMutex
    | .shmOpen _, _ => True
    | .initData st, _ => g' = ⟨g.isInitialized, g.own.map st.exec⟩
    | _, _ => g' = g
  post _ _ := True

/-- From the test of the descriptor on, either the process is an attached one or the segment is
its own and fresh. -/
theorem mapAndInit_usage (i : ι) {g : View ι} (hg : g.isInitialized = true ∨
    ∃ seg, g.own = some seg ∧ InitStatement.Ready seg .assignMutex) :
    (mapAndInit >>= fun result => Program.ret (some result)).Safe (usage i) g := by
  rcases hg with hattached | ⟨seg, hown, hbegun, hcompleted⟩
  · simp [mapAndInit, initData, Program.perform, Program.safe_op, Program.result_ite, usage,
      hattached]
  · simp [mapAndInit, initData, Program.perform, Program.safe_op, Program.result_ite, usage,
      InitStatement.Ready, InitStatement.exec, hown, hbegun, hcompleted]

theorem init_usage (i : ι) (g : View ι) :
    (init >>= fun result => Program.ret (some result)).Safe (usage i) g := by
  simp only [init, Program.perform_bind, Program.op_bind, Program.ite_bind, Program.pure_eq,
    Program.ret_bind]
  refine Program.safe_op.2 ⟨fun already => ?_, fun already g' hm => ?_⟩
  · cases already <;> simp
  obtain ⟨-, rfl⟩ := hm
  rw [Program.safe_ite]
  split
  · trivial
  refine Program.safe_op.2 ⟨fun errno => ?_, fun errno g₁ hopened => ?_⟩
  · rcases errno with _ | errno
    · simp [mapAndInit, Program.perform]
    · cases errno <;> simp
  rcases errno with _ | errno
  · exact mapAndInit_usage i (.inr hopened.2)
  · cases errno with
    | other => trivial
    | eexist =>
      refine Program.safe_op.2 ⟨fun _ => by rintro ⟨⟩, fun _ g₂ _ => ?_⟩
      refine Program.safe_op.2 ⟨fun _ => by rintro ⟨⟩, fun _ g₃ hset => ?_⟩
      exact mapAndInit_usage i (.inl hset)

/-! ## All processes -/

theorem InitStatement.exec_creator (st : InitStatement) (seg : Segment ι) :
    (st.exec seg).creator = seg.creator := by
  cases st <;> rfl

variable [DecidableEq ι]

@[simp] theorem view_setProcess_self (s : State ι) (i : ι) (p : Process) :
    view i (s.setProcess i p) = ⟨p.isInitialized, (view i s).own⟩ := by
  simp [view, State.setProcess]

theorem view_setProcess_ne (s : State ι) {i j : ι} (hj : j ≠ i) (p : Process) :
    view j (s.setProcess i p) = view j s := by
  simp [view, State.setProcess, Function.update_of_ne hj]

theorem view_initData (i : ι) (st : InitStatement) (s : State ι) :
    view i { s with segment := s.segment.map st.exec } =
      ⟨(view i s).isInitialized, (view i s).own.map st.exec⟩ := by
  cases hs : s.segment with
  | none => simp [view, hs]
  | some seg =>
    by_cases hi : seg.creator = i <;> simp [view, hs, Option.filter, st.exec_creator, hi]

/-- What a call does to the view of the process that makes it. -/
theorem exec_own (i : ι) (w : World) (o : Op) (s : State ι) :
    (usage i).move (view i s) o (o.exec i w s).1 (view i (o.exec i w s).2) := by
  cases o with
  | initData st => exact view_initData i st s
  | setInitialized => simp [usage, Op.exec]
  | setData => simp [usage, Op.exec, view, State.setProcess]
  | shmOpen excl =>
    cases hf : w.fails <;> cases hs : s.segment <;> cases excl <;>
      simp [usage, Op.exec, shmOpen, hf, hs, view, State.setProcess, Option.filter,
        InitStatement.Ready]
  | alreadyInitialized | attached => exact ⟨rfl, rfl⟩
  | fileDescriptor | ftruncate | mmap => rfl

/-- A call of a process that writes only to its own segment is invisible to any other's
contract. -/
theorem exec_other {i j : ι} (hj : j ≠ i) (w : World) (o : Op) (s : State ι)
    (hown : ∀ st, o = .initData st → (view i s).own.isSome) :
    view j (o.exec i w s).2 = view j s := by
  cases o with
  | initData st =>
    have hseg := hown st rfl
    cases hs : s.segment with
    | none => simp [view, hs] at hseg
    | some seg =>
      have hi : seg.creator = i := by
        by_contra hi
        simp [view, hs, Option.filter, hi] at hseg
      have hcreator : seg.creator ≠ j := fun h => hj (h.symm.trans hi)
      simp [Op.exec, view, hs, Option.filter, st.exec_creator, hcreator]
  | shmOpen excl =>
    cases hf : w.fails <;> cases hs : s.segment <;> cases excl <;>
      simp [Op.exec, shmOpen, hf, hs, view, State.setProcess, Option.filter,
        Function.update_of_ne hj, hj.symm]
  | setInitialized | setData => exact view_setProcess_ne s hj _
  | alreadyInitialized | attached | fileDescriptor | ftruncate | mmap => rfl

omit [DecidableEq ι] in
theorem usage_own {i : ι} {g : View ι} {st : InitStatement}
    {k : (Op.initData st).Res → Program Op Op.Res (Option Result)}
    (h : (usage i).pre g (.initData st) k) : ∃ seg, g.own = some seg ∧ st.Ready seg := by
  cases st
  case clearCmuxReady => exact h
  all_goals exact h.1

theorem usage_local :
    Threads.Local processes usage (view : ι → State ι → View ι) (fun _ _ => True) where
  own c i w o k r s _ _ _ he := by
    obtain ⟨rfl, rfl⟩ := Threads.reply_eq he
    exact exec_own i w o c.shared
  other c i w o k r s _ _ hpre he j hj p safe := by
    obtain ⟨-, rfl⟩ := Threads.reply_eq he
    rw [exec_other hj w o c.shared]
    · exact safe
    · rintro st rfl
      obtain ⟨seg, hown, -⟩ := usage_own hpre
      rw [hown]
      rfl
  entry i _ _ p g _ he := by
    cases he
    exact init_usage i g
  env e := e.elim

/-! ## The segment at every `INIT_OK` -/

abbrev Config (ι : Type) := Threads.Config Op Op.Res (State ι) fun _ : ι => Option Result

/-- Every `INIT_OK` was returned on an initialised segment, and no segment is initialised twice. -/
structure InitSound (c : Config ι) : Prop where
  initOk : ∀ i, (c.prog i).result = some (some .initOk) →
    ∃ seg, c.shared.segment = some seg ∧ Initialised seg
  once : ∀ seg, c.shared.segment = some seg → seg.begun ≤ 1

/-- Whoever has set `isInitialized`, having found the segment in place, makes its last test only
behind the last statement of an `initData()`. -/
def TestsBehindInit (statements : List (ι × Op)) : Prop :=
  ∀ before i after, statements = before ++ (i, .attached) :: after →
    (i, .setInitialized) ∈ before → ∃ j, (j, .initData .clearCmuxReady) ∈ before

/-- A process that attached to an existing segment passes its last test only when the segment is
initialised. -/
def AttachesInitialised (c : Config ι) : Threads.Act World (fun _ : ι => Unit) Empty → Prop
  | .run i _ => (c.prog i).next = some .attached → (c.shared.process i).isInitialized = true →
      ∃ seg, c.shared.segment = some seg ∧ Initialised seg
  | _ => True

/-- `initData()` was begun at most once, and leaves the segment initialised. -/
structure Sound (seg : Segment ι) : Prop where
  once : seg.begun ≤ 1
  initialised : 1 ≤ seg.completed → Initialised seg

omit [DecidableEq ι] in
theorem InitStatement.Ready.exec_sound {seg : Segment ι} {st : InitStatement} (h : st.Ready seg) :
    Sound (st.exec seg) := by
  cases st with
  | assignMutex =>
    obtain ⟨hbegun, hcompleted⟩ := h
    exact ⟨by simp [exec, hbegun], fun hc => by simp [exec, hcompleted] at hc⟩
  | mutexInit =>
    obtain ⟨hbegun, hcompleted⟩ := h
    exact ⟨by simp [exec, hbegun], fun hc => by simp [exec, hcompleted] at hc⟩
  | clearModemReady =>
    obtain ⟨hbegun, hcompleted, -⟩ := h
    exact ⟨by simp [exec, hbegun], fun hc => by simp [exec, hcompleted] at hc⟩
  | clearCmuxReady =>
    obtain ⟨hbegun, -, hmutex, hmodem⟩ := h
    exact ⟨by simp [exec, hbegun], fun hc => ⟨hc, hmutex, hmodem, rfl⟩⟩

theorem segment_of_own {i : ι} {s : State ι} {seg : Segment ι} (h : (view i s).own = some seg) :
    s.segment = some seg :=
  (Option.filter_eq_some_iff.1 h).1

/-- What a call does to the segment. -/
theorem exec_segment (i : ι) (w : World) (o : Op) (s : State ι) :
    (o.exec i w s).2.segment = s.segment ∨
      (s.segment = none ∧ (o.exec i w s).2.segment = some { creator := i }) ∨
      ∃ st, o = .initData st ∧ (o.exec i w s).2.segment = s.segment.map st.exec := by
  cases o with
  | initData st => exact .inr (.inr ⟨st, rfl, rfl⟩)
  | shmOpen excl =>
    cases hf : w.fails <;> cases hs : s.segment <;> cases excl <;>
      simp [Op.exec, shmOpen, hf, hs, State.setProcess]
  | setInitialized | setData => exact .inl rfl
  | alreadyInitialized | attached | fileDescriptor | ftruncate | mmap => exact .inl rfl

/-- A call inside the contract keeps the segment sound, and initialised if it was. -/
theorem exec_sound {i : ι} {w : World} {o : Op} {s : State ι}
    {k : o.Res → Program Op Op.Res (Option Result)} (hpre : (usage i).pre (view i s) o k)
    (hsound : ∀ seg, s.segment = some seg → Sound seg) :
    (∀ seg, (o.exec i w s).2.segment = some seg → Sound seg) ∧
      ((∃ seg, s.segment = some seg ∧ Initialised seg) →
        ∃ seg, (o.exec i w s).2.segment = some seg ∧ Initialised seg) := by
  rcases exec_segment i w o s with hs | ⟨hnone, hs⟩ | ⟨st, rfl, hs⟩
  · rw [hs]
    exact ⟨hsound, id⟩
  · rw [hs, hnone]
    refine ⟨?_, nofun⟩
    rintro seg ⟨⟩
    exact ⟨Nat.zero_le 1, by simp⟩
  · obtain ⟨seg, hown, hready⟩ := usage_own hpre
    rw [hs, segment_of_own hown]
    refine ⟨?_, ?_⟩
    · rintro _ ⟨⟩
      exact hready.exec_sound
    · rintro ⟨_, ⟨⟩, hdone⟩
      have hcompleted : seg.completed = 0 := by
        cases st
        case assignMutex | mutexInit => exact hready.2
        case clearModemReady | clearCmuxReady => exact hready.2.1
      exact absurd hdone.completed (by omega)

/-- `INIT_OK` comes from the last test of an attached process, or from the end of `initData()`. -/
theorem exec_initOk {i : ι} {w : World} {o : Op} {s : State ι}
    {k : o.Res → Program Op Op.Res (Option Result)} (hpre : (usage i).pre (view i s) o k)
    (hr : (k (o.exec i w s).1).result = some (some .initOk)) :
    (o = .attached ∧ (s.process i).isInitialized = true) ∨
      ∃ seg, (o.exec i w s).2.segment = some seg ∧ Initialised seg := by
  cases o with
  | attached => exact .inl ⟨rfl, (hpre _).1 hr⟩
  | initData st =>
    cases st
    case clearCmuxReady =>
      obtain ⟨seg, hown, hready⟩ := usage_own hpre
      refine .inr ⟨_, by rw [Op.exec, segment_of_own hown]; rfl, ?_⟩
      exact hready.exec_sound.initialised (Nat.le_add_left 1 _)
    all_goals exact absurd hr (hpre.2 _)
  | alreadyInitialized | setInitialized | shmOpen | fileDescriptor | ftruncate | mmap | setData =>
    exact absurd hr (hpre _)

/-- The contracts are kept and the segment is sound. -/
structure Kept (c : Config ι) : Prop where
  safe : Threads.AllSafe usage view c
  sound : ∀ seg, c.shared.segment = some seg → Sound seg

theorem Kept.step {c c' : Config ι} {a : Threads.Act World (fun _ : ι => Unit) Empty}
    (h : Kept c) (hs : processes.system.step c a = some c') : Kept c' := by
  refine ⟨h.safe.step usage_local trivial hs, ?_⟩
  cases a with
  | run i w =>
    obtain ⟨o, k, r, s, hp, he, rfl⟩ := Threads.runStep_eq_some hs
    obtain ⟨rfl, rfl⟩ := Threads.reply_eq he
    have hpre := (show (Program.op o k).Safe (usage i) _ from hp ▸ h.safe i).pre
    exact (exec_sound hpre h.sound).1
  | call i d =>
    obtain ⟨x, p, -, -, rfl⟩ := Threads.callStep_eq_some hs
    exact h.sound
  | env e => exact e.elim

/-- So was every `INIT_OK`. -/
structure Running (c : Config ι) : Prop extends Kept c where
  initOk : ∀ i, (c.prog i).result = some (some .initOk) →
    ∃ seg, c.shared.segment = some seg ∧ Initialised seg

theorem Running.initSound {c : Config ι} (h : Running c) : InitSound c :=
  ⟨h.initOk, fun seg hseg => (h.sound seg hseg).once⟩

theorem init_running : Running (processes.init : Config ι) where
  safe _ := trivial
  sound _ hseg := by cases hseg
  initOk _ hr := by cases hr

theorem Running.step {c c' : Config ι} {a : Threads.Act World (fun _ : ι => Unit) Empty}
    (h : Running c) (hG : AttachesInitialised c a) (hs : processes.system.step c a = some c') :
    Running c' := by
  refine ⟨h.toKept.step hs, ?_⟩
  cases a with
  | run i w =>
    obtain ⟨o, k, r, s, hp, he, rfl⟩ := Threads.runStep_eq_some hs
    obtain ⟨rfl, rfl⟩ := Threads.reply_eq he
    have hpre := (show (Program.op o k).Safe (usage i) _ from hp ▸ h.safe i).pre
    obtain ⟨-, hdone⟩ := exec_sound (w := w) hpre h.sound
    intro j hj
    by_cases hji : j = i
    · subst hji
      simp only [Function.update_self] at hj
      rcases exec_initOk hpre hj with ⟨rfl, hattached⟩ | hinit
      · exact hG (by rw [hp]; rfl) hattached
      · exact hinit
    · simp only [Function.update_of_ne hji] at hj
      exact hdone (h.initOk j hj)
  | call i d =>
    obtain ⟨x, p, -, he, rfl⟩ := Threads.callStep_eq_some hs
    cases he
    intro j hj
    by_cases hji : j = i
    · subst hji
      simp only [Function.update_self] at hj
      cases hj
    · simp only [Function.update_of_ne hji] at hj
      exact h.initOk j hj
  | env e => exact e.elim

/-- An attached process that passes its last test too early returns `INIT_OK` there. -/
theorem Running.not_initSound {c c' : Config ι}
    {a : Threads.Act World (fun _ : ι => Unit) Empty} (h : Running c)
    (hG : ¬ AttachesInitialised c a) (hs : processes.system.step c a = some c') :
    ¬ InitSound c' := by
  cases a with
  | call i d => exact absurd trivial hG
  | env e => exact e.elim
  | run i w =>
    obtain ⟨hnext, hattached, hnot⟩ : (c.prog i).next = some .attached ∧
        (c.shared.process i).isInitialized = true ∧
        ¬ ∃ seg, c.shared.segment = some seg ∧ Initialised seg := by
      simpa only [AttachesInitialised, Classical.not_imp] using hG
    obtain ⟨k, hp⟩ := Program.eq_op_of_next hnext
    obtain ⟨o, k', r, s, hp', he, rfl⟩ := Threads.runStep_eq_some hs
    obtain ⟨rfl, rfl⟩ : Op.attached = o ∧ HEq k k' := by
      rw [hp] at hp'
      cases hp'
      exact ⟨rfl, HEq.rfl⟩
    obtain ⟨rfl, rfl⟩ := Threads.reply_eq he
    have hpre := (show (Program.op Op.attached k).Safe (usage i) _ from hp ▸ h.safe i).pre
    intro sound
    refine hnot (sound.initOk i ?_)
    simp only [Function.update_self]
    exact (hpre _).2 hattached

/-- No attached process passes its last test before `initData()` is complete. -/
theorem always_initSound_iff (acts : List (Threads.Act World (fun _ : ι => Unit) Empty)) :
    processes.system.Always (processes.init : Config ι) acts InitSound ↔
      processes.system.Obeys (processes.init : Config ι) acts AttachesInitialised :=
  System.always_iff_obeys (fun _ h => h.initSound) (fun _ _ _ h hG hs => h.step hG hs)
    (fun _ _ _ h hG hs => h.not_initSound hG hs) init_running acts

/-! ## The order of the statements -/

theorem exec_isInitialized (i j : ι) (w : World) (o : Op) (s : State ι) :
    ((o.exec i w s).2.process j).isInitialized = true ↔
      (s.process j).isInitialized = true ∨ (j, Op.setInitialized) = (i, o) := by
  by_cases hj : j = i
  · subst hj
    cases o with
    | shmOpen excl =>
      cases hf : w.fails <;> cases hs : s.segment <;> cases excl <;>
        simp [Op.exec, shmOpen, hf, hs, State.setProcess]
    | _ => simp [Op.exec, State.setProcess]
  · cases o with
    | shmOpen excl =>
      cases hf : w.fails <;> cases hs : s.segment <;> cases excl <;>
        simp [Op.exec, shmOpen, hf, hs, State.setProcess, hj]
    | _ => simp [Op.exec, State.setProcess, hj]

omit [DecidableEq ι] in
/-- A sound segment is initialised as soon as an `initData()` was completed. -/
theorem initialised_iff_completed {s : State ι}
    (hsound : ∀ seg, s.segment = some seg → Sound seg) :
    (∃ seg, s.segment = some seg ∧ Initialised seg) ↔
      ∃ seg, s.segment = some seg ∧ 1 ≤ seg.completed := by
  constructor
  · rintro ⟨seg, hseg, hinit⟩
    exact ⟨seg, hseg, hinit.completed⟩
  · rintro ⟨seg, hseg, hcompleted⟩
    exact ⟨seg, hseg, (hsound seg hseg).initialised hcompleted⟩

/-- Only the last statement of `initData()` completes it. -/
theorem exec_completed {i : ι} {w : World} {o : Op} {s : State ι}
    {k : o.Res → Program Op Op.Res (Option Result)} (hpre : (usage i).pre (view i s) o k) :
    (∃ seg, (o.exec i w s).2.segment = some seg ∧ 1 ≤ seg.completed) ↔
      (∃ seg, s.segment = some seg ∧ 1 ≤ seg.completed) ∨ o = .initData .clearCmuxReady := by
  cases o with
  | initData st =>
    obtain ⟨seg, hown, -⟩ := usage_own hpre
    rw [show (Op.exec i w (.initData st) s).2.segment = s.segment.map st.exec from rfl,
      segment_of_own hown]
    cases st <;> simp [InitStatement.exec]
  | shmOpen excl =>
    cases hf : w.fails <;> cases hs : s.segment <;> cases excl <;>
      simp [Op.exec, shmOpen, hf, hs, State.setProcess]
  | _ => simp [Op.exec, State.setProcess]

/-- What the statements so far say about the state. -/
structure Logged (log : List (ι × Op)) (c : Config ι) : Prop extends Kept c where
  attached : ∀ i, (c.shared.process i).isInitialized = true ↔ (i, .setInitialized) ∈ log
  initialised : (∃ seg, c.shared.segment = some seg ∧ 1 ≤ seg.completed) ↔
    ∃ j, (j, .initData .clearCmuxReady) ∈ log

theorem Logged.step {log : List (ι × Op)} {c c' : Config ι}
    {a : Threads.Act World (fun _ : ι => Unit) Empty} (h : Logged log c)
    (hs : processes.system.step c a = some c') :
    Logged (log ++ (Threads.operation c a).toList) c' := by
  have kept := h.toKept.step hs
  cases a with
  | run i w =>
    obtain ⟨o, k, r, s, hp, he, rfl⟩ := Threads.runStep_eq_some hs
    obtain ⟨rfl, rfl⟩ := Threads.reply_eq he
    have hpre := (show (Program.op o k).Safe (usage i) _ from hp ▸ h.safe i).pre
    rw [Threads.operation_of_op hp, Option.toList_some]
    refine ⟨kept, fun j => ?_, ?_⟩
    · rw [exec_isInitialized, h.attached, List.mem_append, List.mem_singleton]
    · rw [exec_completed hpre, h.initialised]
      simp only [List.mem_append, List.mem_singleton, Prod.mk.injEq, exists_or, exists_eq_left,
        @eq_comm Op (.initData .clearCmuxReady)]
  | call i d =>
    obtain ⟨x, p, -, -, rfl⟩ := Threads.callStep_eq_some hs
    rw [Threads.operation, Option.toList_none, List.append_nil]
    exact ⟨kept, h.attached, h.initialised⟩
  | env e => exact e.elim

/-- In every run the segment is initialised at every `INIT_OK`, and never initialised twice, if and
only if whoever found the segment in place makes its last test behind the last statement of an
`initData()`. -/
theorem initialised_iff (acts : List (Threads.Act World (fun _ : ι => Unit) Empty)) :
    processes.system.Always (processes.init : Config ι) acts InitSound ↔
      TestsBehindInit
        (Threads.performed (processes.system.path (processes.init : Config ι) acts)) := by
  rw [always_initSound_iff]
  refine (Threads.obeys_iff_performed (I := Logged)
    (R := fun before x => x.2 = .attached → (x.1, .setInitialized) ∈ before →
      ∃ j, (j, .initData .clearCmuxReady) ∈ before)
    (fun _ _ _ _ h hs => h.step hs) ?_ ?_ acts).trans ?_
  · rintro log c a c' h hs
    cases a with
    | run i w =>
      obtain ⟨o, k, -, -, hp, -, -⟩ := Threads.runStep_eq_some hs
      rw [Threads.operation_of_op hp, AttachesInitialised, hp, Program.next_op, h.attached,
        initialised_iff_completed h.sound, h.initialised]
      simp
    | call i d => exact iff_of_true trivial nofun
    | env e => exact e.elim
  · exact ⟨⟨fun _ => trivial, nofun⟩, fun i => by simp [processes.init],
      by simp [processes.init]⟩
  · constructor
    · exact fun h before i after hsplit => h before (i, .attached) after hsplit rfl
    · rintro h before ⟨i, o⟩ after hsplit rfl
      exact h before i after hsplit

/-- Process 0 creates the segment and stops; process 1 finds it there. -/
def abandonedSchedule : List (Threads.Act World (fun _ : ℕ => Unit) Empty) :=
  .call 0 () :: List.replicate 2 (.run 0 {}) ++ .call 1 () :: List.replicate 9 (.run 1 {})

theorem abandoned_not_initialised :
    ¬ ∀ acts, processes.system.Always (processes.init : Config ℕ) acts InitSound := by
  intro h
  obtain ⟨seg, hseg, hinit⟩ := (h abandonedSchedule).final.initOk 1 (by decide)
  have hfresh : (processes.system.final processes.init abandonedSchedule).shared.segment =
      some { creator := 0 } := by decide
  rw [hfresh] at hseg
  cases hseg
  exact absurd hinit.completed (by decide)

end SharedMemory

end SgmDevice
