import SgmDevice.Sink.PppThreads

/-!
# The two mutexes of a `PppConnection`

The user takes `itsEventMutex` first and `itsMonitoringMutex` inside it; the monitor takes them the
other way round, and a restored device makes it take `itsMonitoringMutex` a second time.  So the
threads can block for ever (`restored_blocks`).  `LockSafe` names the steps that lead there, and
`never_blocked_iff` says that they are the only ones.
-/

namespace SgmDevice

namespace PppConnection

open Concurrency

/-! ## The lock discipline -/

/-- The mutex a thread takes first. -/
def Thread.first : Thread → Mutex
  | .user => .itsEventMutex
  | .monitor => .itsMonitoringMutex

/-- The mutex it takes while it holds the first one. -/
def Thread.second : Thread → Mutex
  | .user => .itsMonitoringMutex
  | .monitor => .itsEventMutex

/-- The calls of a tick that take `itsMonitoringMutex`. -/
def Op.switchesMonitor : Op → Bool
  | .call .startPowerMonitor | .call .pausePowerMonitor => true
  | _ => false

/-- The calls whose bodies begin by taking the thread's second mutex. -/
def Thread.nests : Thread → Op → Bool
  | .user, o => o.switchesMonitor
  | .monitor, .call (.stateMachineTick _) => true
  | .monitor, _ => false

/-- The mutexes a thread holds between its programs. -/
def Thread.heldAt : (t : Thread) → t.Ret → Finset Mutex
  | .monitor, .waiting | .monitor, .awake => {.itsMonitoringMutex}
  | _, _ => ∅

/-- How the threads use the mutexes, as long as the monitor does not switch itself on. -/
def discipline (t : Thread) : Program.Contract Op Op.Res t.Ret (Finset Mutex) where
  pre g o k :=
    (∀ m, o.mutexUse = .take m → m = t.first ∧ g = ∅ ∨ m = t.second ∧ g = {t.first}) ∧
    (∀ m, o.mutexUse = .give m → m ∈ g) ∧
    ((∃ r, (k r).next = some (.lock t.second)) → t.nests o) ∧
    (t.nests o → g = {t.first} ∧ ∀ r, (k r).next = some (.lock t.second)) ∧
    (t = .monitor → o.switchesMonitor →
      .itsMonitoringMutex ∈ g ∧ ∀ r, (k r).next = some (.lock .itsMonitoringMutex))
  move g o _ g' := ¬ (t = .monitor ∧ o.switchesMonitor) ∧ g' = o.mutexUse.move g
  post g a := g = t.heldAt a

theorem code_disciplined (d : UserCall) :
    (d.code.interp Call.inline).Safe (discipline .user) ∅ := by
  cases d <;>
    simp [UserCall.code, connect, disconnect, Program.perform, Call.inline,
      Program.safe_op, discipline, stateMachineTick, tickBody, startPowerMonitor,
      pausePowerMonitor, returnCurrentState, State.forall_iff, Op.mutexUse, MutexUse.move,
      Thread.nests, Op.switchesMonitor, Thread.first, Thread.second, Thread.heldAt]

theorem powerMonitorThread_disciplined {point : MonitorPoint}
    {p : Program Call Call.Res MonitorPoint} (h : powerMonitorThread point = some p) :
    (p.interp Call.inline).Safe (discipline .monitor) (Thread.heldAt .monitor point) := by
  cases point <;> cases h <;>
    simp [powerMonitorStart, powerMonitorLock, powerMonitorWait, powerMonitorBody,
      Program.perform, Call.inline, Program.safe_op, discipline, stateMachineTick, tickBody,
      startPowerMonitor, returnCurrentState, HistoricalValue.forall_iff, HistoricalValue.hasChanged,
      HistoricalValue.get, Op.mutexUse, MutexUse.move, Thread.nests, Op.switchesMonitor,
      Thread.first, Thread.second, Thread.heldAt]

/-! ## The steps that block nobody -/

/-- The configurations of the two threads. -/
abbrev Locks := Threads.Config Op Op.Res Shared Thread.Ret

/-- The mutex that a thread is at the point of taking. -/
abbrev WaitsFor (c : Locks) (t : Thread) (m : Mutex) : Prop := Waits Op.lock c t m

/-- The monitor does not switch itself on, and no thread begins to take its second mutex while the
other one waits for its own second mutex. -/
def LockSafe (c : Locks) : Act → Prop
  | .run .user _ => (c.prog .user).next.any (Thread.nests .user) →
      ¬ WaitsFor c .monitor .itsEventMutex
  | .run .monitor _ => ¬ (c.prog .monitor).next.any Op.switchesMonitor ∧
      ((c.prog .monitor).next.any (Thread.nests .monitor) →
        ¬ WaitsFor c .user .itsMonitoringMutex)
  | _ => True

/-- A thread waits for a mutex it holds, or each of the two waits for one the other holds. -/
abbrev Blocked (c : Locks) : Prop := Stuck Op.lock Shared.owner c

/-- Both threads keep the discipline, and they do not both wait for their second mutex. -/
structure Disciplined (c : Locks) : Prop where
  safe : Threads.AllSafe discipline (fun t s => held s.owner t) c
  apart : ¬ (WaitsFor c .user .itsMonitoringMutex ∧ WaitsFor c .monitor .itsEventMutex)

theorem discipline_local :
    Threads.Local statements discipline (fun t s => held s.owner t) LockSafe where
  own c t w o k r s hK hp _ he := by
    obtain ⟨owner, hm, hs⟩ := Option.map_eq_some_iff.1 he
    cases hs
    refine ⟨?_, held_exec hm⟩
    rintro ⟨rfl, ho⟩
    simp only [LockSafe, hp, Program.next_op, Option.any_some] at hK
    exact hK.1 ho
  other c t w o k r s _ _ _ he j hj p safe := by
    obtain ⟨owner, hm, hs⟩ := Option.map_eq_some_iff.1 he
    cases hs
    simpa only [held_exec_ne hm hj] using safe
  entry t a d p g hg he := by
    obtain ⟨q, hq, rfl⟩ := Option.map_eq_some_iff.1 he
    obtain rfl : g = t.heldAt a := hg
    cases t with
    | user => cases hq; exact code_disciplined d
    | monitor => exact powerMonitorThread_disciplined hq
  env b s s' he j p safe := by
    cases he
    exact safe

/-- What a thread holds while it waits. -/
theorem Disciplined.waits {c : Locks} (h : Disciplined c) {t : Thread} {m : Mutex}
    (hw : WaitsFor c t m) :
    m = t.first ∧ held c.shared.owner t = ∅ ∨
      m = t.second ∧ held c.shared.owner t = {t.first} := by
  obtain ⟨k, hk⟩ := Program.eq_op_of_next hw
  have safe := h.safe t
  rw [hk] at safe
  exact safe.pre.1 m rfl

theorem Disciplined.not_blocked {c : Locks} (h : Disciplined c) : ¬ Blocked c := by
  have noSelf : ∀ t m, WaitsFor c t m → c.shared.owner m ≠ some t := by
    intro t m hw ho
    have hm : m ∈ held c.shared.owner t := mem_held.2 ho
    rcases h.waits hw with ⟨-, hg⟩ | ⟨rfl, hg⟩
    · simp [hg] at hm
    · cases t <;> simp [hg, Thread.first, Thread.second] at hm
  -- Of two threads that wait for one another's mutex, each holds one, hence waits for its second.
  have second : ∀ t m n, WaitsFor c t m → c.shared.owner n = some t → m = t.second := by
    intro t m n hw ho
    have hn : n ∈ held c.shared.owner t := mem_held.2 ho
    rcases h.waits hw with ⟨-, hg⟩ | ⟨hm, -⟩
    · simp [hg] at hn
    · exact hm
  rintro (⟨t, m, hw, ho⟩ | ⟨t, u, m, n, hm, hu, hn, ht⟩)
  · exact noSelf t m hw ho
  · obtain rfl := second t m n hm ht
    obtain rfl := second u n _ hn hu
    cases t <;> cases u
    · exact noSelf _ _ hm hu
    · exact h.apart ⟨hm, hn⟩
    · exact h.apart ⟨hn, hm⟩
    · exact noSelf _ _ hm hu

theorem init_disciplined (flag : Bool) : Disciplined (statements.init flag) where
  safe t := by
    show held (fun _ => none) t = t.heldAt t.start
    cases t <;> rfl
  apart h := by cases h.1

/-- A step inside `LockSafe` keeps the discipline. -/
theorem Disciplined.step {c c' : Locks} {a : Act}
    (h : Disciplined c) (hK : LockSafe c a) (hs : statements.system.step c a = some c') :
    Disciplined c' := by
  refine ⟨h.safe.step discipline_local hK hs, ?_⟩
  rintro ⟨hu, hm⟩
  cases a with
  | run t w =>
    obtain ⟨o, k, r, s, hp, -, rfl⟩ := Threads.runStep_eq_some hs
    have hpre := (hp ▸ h.safe t : (Program.op o k).Safe _ _).pre
    cases t with
    | user =>
      have hn : Thread.nests .user o := hpre.2.2.1 ⟨r, by simpa [Waits, Thread.second] using hu⟩
      simp only [LockSafe, hp, Program.next_op, Option.any_some] at hK
      exact hK hn (by simpa [Waits] using hm)
    | monitor =>
      have hn : Thread.nests .monitor o := hpre.2.2.1 ⟨r, by simpa [Waits, Thread.second] using hm⟩
      simp only [LockSafe, hp, Program.next_op, Option.any_some] at hK
      exact hK.2 hn (by simpa [Waits] using hu)
  | call t d =>
    obtain ⟨x, p, hp, he, rfl⟩ := Threads.callStep_eq_some hs
    obtain ⟨q, hq, rfl⟩ := Option.map_eq_some_iff.1 he
    cases t with
    | user =>
      cases hq
      cases d <;> cases hu
    | monitor =>
      simp only [Waits, Function.update_self] at hm
      cases x <;> cases hq <;> cases hm
  | env e =>
    cases hs
    exact h.apart ⟨hu, hm⟩

theorem mutexUse_of_nests {t : Thread} {o : Op} (h : t.nests o) : o.mutexUse = .keep := by
  cases o <;> cases t <;> simp_all [Thread.nests, Op.switchesMonitor, Op.mutexUse]

/-- A thread that begins to take its second mutex while the other one waits for its own second
mutex blocks both. -/
theorem Disciplined.blocked_of_nests {c c' : Locks} (h : Disciplined c) {t u : Thread} {w : World}
    (hut : u ≠ t) (hw : WaitsFor c u u.second) (hn : (c.prog t).next.any t.nests)
    (hs : statements.system.step c (.run t w) = some c') : Blocked c' := by
  obtain ⟨o, k, r, s, hp, he, rfl⟩ := Threads.runStep_eq_some hs
  rw [hp, Program.next_op, Option.any_some] at hn
  obtain ⟨owner, ho, hs⟩ := Option.map_eq_some_iff.1 he
  rw [mutexUse_of_nests hn] at ho
  cases ho
  cases hs
  have hpre := (hp ▸ h.safe t : (Program.op o k).Safe _ _).pre
  obtain ⟨hg, hk⟩ := hpre.2.2.2.1 hn
  have hu : held c.shared.owner u = {u.first} := by
    rcases h.waits hw with ⟨hm, -⟩ | ⟨-, hg⟩
    · cases u <;> cases hm
    · exact hg
  have owns : ∀ {v : Thread}, held c.shared.owner v = {v.first} →
      c.shared.owner v.first = some v := fun {v} hv => mem_held.1 (by rw [hv]; simp)
  have crossed : t.second = u.first ∧ u.second = t.first := by
    cases t <;> cases u <;> first | exact absurd rfl hut | exact ⟨rfl, rfl⟩
  refine .inr ⟨t, u, t.second, u.second, ?_, ?_, ?_, ?_⟩
  · simpa [Waits] using hk _
  · rw [crossed.1]
    exact owns hu
  · simpa [Waits, Function.update_of_ne hut] using hw
  · rw [crossed.2]
    exact owns hg

/-- A monitor that switches itself on blocks itself. -/
theorem Disciplined.blocked_of_switches {c c' : Locks} (h : Disciplined c) {w : World}
    (hn : (c.prog .monitor).next.any Op.switchesMonitor)
    (hs : statements.system.step c (.run .monitor w) = some c') : Blocked c' := by
  obtain ⟨o, k, r, s, hp, he, rfl⟩ := Threads.runStep_eq_some hs
  rw [hp, Program.next_op, Option.any_some] at hn
  obtain ⟨owner, ho, hs⟩ := Option.map_eq_some_iff.1 he
  rw [mutexUse_of_nests (t := .user) hn] at ho
  cases ho
  cases hs
  have hpre := (hp ▸ h.safe .monitor : (Program.op o k).Safe _ _).pre
  obtain ⟨hg, hk⟩ := hpre.2.2.2.2 rfl hn
  refine .inl ⟨.monitor, .itsMonitoringMutex, ?_, mem_held.1 hg⟩
  simpa [Waits] using hk _

/-- A step outside `LockSafe` blocks a thread for ever. -/
theorem Disciplined.blocked {c c' : Locks} {a : Act}
    (h : Disciplined c) (hK : ¬ LockSafe c a) (hs : statements.system.step c a = some c') :
    Blocked c' := by
  cases a with
  | call t d => exact absurd trivial hK
  | env e => exact absurd trivial hK
  | run t w =>
    cases t with
    | user =>
      obtain ⟨hnests, hwaits⟩ := Classical.not_imp.1 hK
      exact h.blocked_of_nests (u := .monitor) (by decide) (not_not.1 hwaits) hnests hs
    | monitor =>
      by_cases hn : (c.prog .monitor).next.any Op.switchesMonitor
      · exact h.blocked_of_switches hn hs
      · obtain ⟨hnests, hwaits⟩ := Classical.not_imp.1 fun hsafe => hK ⟨hn, hsafe⟩
        exact h.blocked_of_nests (u := .user) (by decide) (not_not.1 hwaits) hnests hs

/-- In every run the threads are never blocked for ever, in any state, if and only if every step
is inside `LockSafe`. -/
theorem never_blocked_iff (flag : Bool) (acts : List Act) :
    statements.system.Always (statements.init flag) acts (fun c => ¬ Blocked c) ↔
      statements.system.Obeys (statements.init flag) acts LockSafe :=
  System.always_iff_obeys (fun _ h => h.not_blocked) (fun _ _ _ h hK hs => h.step hK hs)
    (fun _ _ _ h hK hs hb => hb (h.blocked hK hs)) (init_disciplined flag) acts

/-- The CMUX comes up while the monitor looks on, and pppd starts: the monitor, which holds
`itsMonitoringMutex` through its tick, takes it again in `startPowerMonitor()`. -/
def restoredSchedule : List Act :=
  .call .monitor () :: steps .monitor 1 ++ .env (.setCmuxReady true) ::
    .call .monitor () :: steps .monitor 1 ++ .call .monitor () :: steps .monitor 4 ++
    .call .monitor () :: steps .monitor 6

theorem restored_blocks :
    ¬ ∀ flag acts, statements.system.Always (statements.init flag) acts fun c => ¬ Blocked c := by
  intro h
  refine (h false restoredSchedule).final (.inl ⟨.monitor, .itsMonitoringMutex, ?_, ?_⟩)
  · show ((statements.system.final _ restoredSchedule).prog .monitor).next = _
    decide
  · decide

end PppConnection

end SgmDevice
