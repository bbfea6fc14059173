import SgmDevice.Sink.PppThreads

/-!
# Runs of whole ticks

What one tick does (`tick_spec`), and which ticks and tests the threads make.  The contract `usage`
says the latter; `Used` is the invariant that every thread keeps it.
-/

namespace SgmDevice

namespace PppConnection

open Concurrency PppEndpoint

/-! ## What a tick does -/

/-- The state machine behind `stateMachineTick`, given what `open()` returns. -/
def nextState (opened : Bool) : Event → State → State
  | .connectRequest, .noConnection => if opened then .connected else .noConnection
  | .disconnectRequest, .connected => .noConnection
  | .disconnectRequest, .connectionLost => .noConnection
  | .deviceLost, _ => .connectionLost
  | .deviceRestored, _ => if opened then .connected else .noConnection
  | _, st => st

/-- The endpoint calls of a tick. -/
def endpointUse (opened : Bool) : Event → State → List EndpointCall
  | .connectRequest, .noConnection => [.opened opened]
  | .disconnectRequest, .connected => [.closed]
  | .disconnectRequest, .connectionLost => [.closed]
  | .deviceLost, _ => [.closed]
  | .deviceRestored, _ => [.opened opened]
  | _, _ => []

/-- The status that a tick reports, if it reports one. -/
def notice (opened : Bool) : Event → State → Option NetworkStatus
  | .connectRequest, .noConnection => some (if opened then .connected else .connectionError)
  | .disconnectRequest, .connected => some .disconnected
  | .disconnectRequest, .connectionLost => some .disconnected
  | .deviceLost, _ => some .deviceUnavailable
  | .deviceRestored, _ => some (if opened then .connected else .connectionError)
  | _, _ => none

/-- What a tick sets `isPowerMonitorOn` to, if it does. -/
def monitorSwitch (opened : Bool) : Event → State → Option Bool
  | .connectRequest, .noConnection => if opened then some true else none
  | .disconnectRequest, .connected => some false
  | .disconnectRequest, .connectionLost => some false
  | .deviceRestored, _ => if opened then some true else none
  | _, _ => none

section Tick

variable (w : World) (ev : Event) (d : Data)

/-- A tick returns the state it leaves, and touches neither the CMUX flag nor the monitor's reading
of it. -/
theorem tick_spec :
    tick w ev d = (nextState (openResult w.returncode) ev d.itsCurrentState,
      { d with
        itsCurrentState := nextState (openResult w.returncode) ev d.itsCurrentState
        endpointCalls :=
          endpointUse (openResult w.returncode) ev d.itsCurrentState ++ d.endpointCalls
        isPowerMonitorOn :=
          (monitorSwitch (openResult w.returncode) ev d.itsCurrentState).getD d.isPowerMonitorOn
        notifications :=
          (notice (openResult w.returncode) ev d.itsCurrentState).elim d.notifications fun status =>
            (d.callbackList.map (·, status)).reverse ++ d.notifications }) := by
  obtain ⟨st, calls, callbacks, notified, on, terminate, flag, ready⟩ := d
  unfold tick
  generalize hopened : openResult w.returncode = opened
  cases ev <;> cases st
  case connectRequest.noConnection | deviceRestored.noConnection | deviceRestored.connected
      | deviceRestored.connectionLost | deviceRestored.deviceUnavailable =>
    cases opened <;>
      simp [stateMachineTick, tickBody, startPowerMonitor, returnCurrentState, Program.perform,
        Op.exec, nextState, endpointUse, notice, monitorSwitch, hopened]
  -- without `open()` the tick computes
  all_goals rfl

theorem tick_state :
    (tick w ev d).2.itsCurrentState = nextState (openResult w.returncode) ev d.itsCurrentState := by
  rw [tick_spec]

theorem tick_endpointCalls :
    (tick w ev d).2.endpointCalls =
      endpointUse (openResult w.returncode) ev d.itsCurrentState ++ d.endpointCalls := by
  rw [tick_spec]

theorem tick_flags :
    (tick w ev d).2.cmuxReadyFlag = d.cmuxReadyFlag ∧
      (tick w ev d).2.isCmuxReady = d.isCmuxReady := by
  rw [tick_spec]
  exact ⟨rfl, rfl⟩

theorem tick_notifications :
    (tick w ev d).2.callbackList = d.callbackList ∧
      (tick w ev d).2.notifications =
        (notice (openResult w.returncode) ev d.itsCurrentState).elim d.notifications fun status =>
          (d.callbackList.map (·, status)).reverse ++ d.notifications := by
  rw [tick_spec]
  exact ⟨rfl, rfl⟩

end Tick

/-! ## Which ticks and tests the threads make -/

/-- The statements that leave the state, pppd, the callbacks and the pause of the monitor alone. -/
def Op.observes : Op → Bool
  | .setCurrentState _ | .openEndpoint | .closeEndpoint | .notifyByCallback _
  | .setPowerMonitorOn _ => false
  | _ => true

/-- The event of a tick that a program is about to make. -/
def pendingTick {α : Type} (p : Program Call Call.Res α) : Option Event :=
  match p.next with
  | some (.stateMachineTick ev) => some ev
  | _ => none

@[simp] theorem pendingTick_plain {α : Type} (o : Op) (k : o.Res → Program Call Call.Res α) :
    pendingTick (.op (.plain o) k) = none := rfl

theorem exists_of_pendingTick {α : Type} {p : Program Call Call.Res α} {ev : Event}
    (h : pendingTick p = some ev) : ∃ k, p = .op (.stateMachineTick ev) k := by
  cases p with
  | ret a => cases h
  | op o k =>
    cases o with
    | plain o => cases h
    | stateMachineTick ev' =>
      cases h
      exact ⟨k, rfl⟩

/-- The event by which the monitor reports a reading of the CMUX flag. -/
def reading : Bool → Event
  | true => .deviceRestored
  | false => .deviceLost

/-- What the monitor last read. -/
def latestSample (flag : Option (HistoricalValue Bool)) : Option Bool := flag.map (·.get)

/-- The user never reports a restored device, and returns only after a tick or a test that came
out true. -/
def userUsage : Program.Contract Call Call.Res (Option NetworkStatus)
    (Option (HistoricalValue Bool)) where
  pre _ c k :=
    match c, k with
    | .plain .isDeviceAvailable, k => ∀ r, (k r).result = none
    | .plain (.currentStateIs st), k =>
      (st = .connected ∨ st = .noConnection) ∧ ∀ r, (k r).result.isSome = r
    | .plain _, _ => False
    | .stateMachineTick ev, k => ev ≠ .deviceRestored ∧ ∀ r, (k r).result.isSome
  move _ _ _ _ := True
  post _ _ := True

/-- The monitor reads the flag first, once; it ticks directly after a sample that has changed, and
reports the sampled value. -/
def monitorUsage : Program.Contract Call Call.Res MonitorPoint
    (Option (HistoricalValue Bool)) where
  pre g c k :=
    match c, k with
    | .plain .sampleCmuxReady, k =>
      g.isSome ∧ ∀ r, pendingTick (k r) = if r.hasChanged then some (reading r.get) else none
    | .plain .initCmuxReadyFlag, k => g = none ∧ ∀ r, pendingTick (k r) = none
    | .plain o, k => o.observes ∧ ∀ r, pendingTick (k r) = none
    | .stateMachineTick ev, k =>
      (latestSample g).map reading = some ev ∧ ∀ r, pendingTick (k r) = none
  move g c r g' :=
    match c, r with
    | .plain .initCmuxReadyFlag, _ => g'.isSome
    | .plain .sampleCmuxReady, r => g' = some r
    | _, _ => g' = g
  post g point := g.isSome ↔ point ≠ .start

def usage : (t : Thread) → Program.Contract Call Call.Res t.Ret (Option (HistoricalValue Bool))
  | .user => userUsage
  | .monitor => monitorUsage

theorem code_usage (d : UserCall) (g : Option (HistoricalValue Bool)) :
    d.code.Safe userUsage g := by
  cases d <;>
    simp [UserCall.code, connect, disconnect, Program.perform, Program.safe_op, userUsage,
      State.forall_iff]

theorem powerMonitorThread_usage {point : MonitorPoint} {p : Program Call Call.Res MonitorPoint}
    {g : Option (HistoricalValue Bool)} (h : powerMonitorThread point = some p)
    (hg : g.isSome ↔ point ≠ .start) : p.Safe monitorUsage g := by
  cases point <;> cases h <;>
    simp_all [powerMonitorStart, powerMonitorLock, powerMonitorWait, powerMonitorBody,
      Program.perform, Program.safe_op, monitorUsage, pendingTick, reading, latestSample,
      Op.observes, HistoricalValue.forall_iff, HistoricalValue.hasChanged, HistoricalValue.get]

/-- Only the monitor's reading of the CMUX flag is part of a contract. -/
def sampled : Thread → Data → Option (HistoricalValue Bool)
  | .user, _ => none
  | .monitor, d => d.cmuxReadyFlag

theorem exec_cmuxReadyFlag {c : Call} (hinit : c ≠ .plain .initCmuxReadyFlag)
    (hsample : c ≠ .plain .sampleCmuxReady) (w : World) (d : Data) :
    (c.exec w d).2.cmuxReadyFlag = d.cmuxReadyFlag := by
  cases c with
  | stateMachineTick ev => exact (tick_flags w ev d).1
  | plain o => cases o <;> first | rfl | exact absurd rfl hinit | exact absurd rfl hsample

theorem usage_local :
    Threads.Local calls usage sampled (fun _ _ => True) where
  own c t w o k r d _ _ _ he := by
    obtain ⟨rfl, rfl⟩ := Threads.reply_eq he
    cases t with
    | user => trivial
    | monitor =>
      cases o with
      | stateMachineTick ev => exact (tick_flags w ev _).1
      | plain o => cases o <;> rfl
  other c t w o k r d _ _ hpre he u hu p safe := by
    obtain ⟨rfl, rfl⟩ := Threads.reply_eq he
    cases u with
    | user => exact safe
    | monitor =>
      obtain rfl : t = .user := by cases t <;> first | rfl | exact absurd rfl hu
      have hflag : (o.exec w c.shared).2.cmuxReadyFlag = c.shared.cmuxReadyFlag := by
        refine exec_cmuxReadyFlag ?_ ?_ w c.shared <;> rintro rfl <;> exact hpre
      simpa only [sampled, hflag] using safe
  entry t a d p g hg he := by
    cases t with
    | user => cases he; exact code_usage d g
    | monitor => exact powerMonitorThread_usage he hg
  env b d d' he t p safe := by
    cases he
    cases t <;> cases b <;> exact safe

/-- The configurations between the calls. -/
abbrev Config := Threads.Config Call Call.Res Data Thread.Ret

abbrev Used (c : Config) : Prop := Threads.AllSafe usage sampled c

theorem init_used (flag : Bool) : Used (calls.init flag) := by
  intro t
  cases t with
  | user => trivial
  | monitor => exact iff_of_false Bool.false_ne_true fun hne => hne rfl

theorem Used.step {c c' : Config} {a : Act} (h : Used c)
    (hs : calls.system.step c a = some c') : Used c' :=
  Threads.AllSafe.step usage_local trivial h hs

/-- No thread touches the state or pppd outside a tick. -/
theorem Used.observes {c : Config} (h : Used c) {t : Thread} {o : Op}
    {k : o.Res → Program Call Call.Res t.Ret} (hp : c.prog t = .op (.plain o) k) : o.observes := by
  have safe := h t
  rw [hp] at safe
  have hpre := safe.pre
  cases t <;> cases o <;> first | rfl | exact hpre.elim | exact hpre.1

theorem exec_observes {o : Op} (ho : o.observes) (w : World) (d : Data) :
    (o.exec w d).2.itsCurrentState = d.itsCurrentState ∧
      (o.exec w d).2.endpointCalls = d.endpointCalls := by
  cases o <;> first | exact ⟨rfl, rfl⟩ | cases ho

theorem exec_observes_callbacks {o : Op} (ho : o.observes) (w : World) (d : Data) :
    (o.exec w d).2.callbackList = d.callbackList ∧
      (o.exec w d).2.notifications = d.notifications := by
  cases o <;> first | exact ⟨rfl, rfl⟩ | cases ho

/-- What a step does to the state: a tick moves it and leaves the monitor's reading of the CMUX flag
alone, every other step leaves the state alone. -/
theorem step_state {c c' : Config} {a : Act} (hu : Used c)
    (hs : calls.system.step c a = some c') :
    (∃ t w ev, a = .run t w ∧ pendingTick (c.prog t) = some ev ∧
      c'.shared.itsCurrentState =
        nextState (openResult w.returncode) ev c.shared.itsCurrentState ∧
      c'.shared.cmuxReadyFlag = c.shared.cmuxReadyFlag) ∨
    ((∀ t w, a = .run t w → pendingTick (c.prog t) = none) ∧
      c'.shared.itsCurrentState = c.shared.itsCurrentState) := by
  cases a with
  | run t w =>
    obtain ⟨o, k, r, d, hp, he, rfl⟩ := Threads.runStep_eq_some hs
    obtain ⟨rfl, rfl⟩ := Threads.reply_eq he
    cases o with
    | stateMachineTick ev =>
      exact .inl ⟨t, w, ev, rfl, by rw [hp]; rfl, tick_state w ev c.shared,
        (tick_flags w ev c.shared).1⟩
    | plain o =>
      refine .inr ⟨?_, (exec_observes (hu.observes hp) w c.shared).1⟩
      rintro t' w' ⟨rfl, rfl⟩
      rw [hp, pendingTick_plain]
  | call t d =>
    obtain ⟨x, p, -, -, rfl⟩ := Threads.callStep_eq_some hs
    exact .inr ⟨fun _ _ h => (by cases h), rfl⟩
  | env e =>
    cases hs
    exact .inr ⟨fun _ _ h => (by cases h), (by cases e <;> rfl)⟩

/-- The monitor reports what it has just read. -/
theorem monitor_reads {c : Config} (hu : Used c) {ev : Event}
    (htick : pendingTick (c.prog .monitor) = some ev) :
    ∃ flag, latestSample c.shared.cmuxReadyFlag = some flag ∧ reading flag = ev := by
  obtain ⟨k, hp⟩ := exists_of_pendingTick htick
  have safe := hu .monitor
  rw [hp] at safe
  exact Option.map_eq_some_iff.1 safe.pre.1

/-- The user never reports a restored device. -/
theorem user_restores_nothing {c : Config} (hu : Used c) :
    pendingTick (c.prog .user) ≠ some .deviceRestored := by
  intro htick
  obtain ⟨k, hp⟩ := exists_of_pendingTick htick
  have safe := hu .user
  rw [hp] at safe
  exact safe.pre.1 rfl

end PppConnection

end SgmDevice
