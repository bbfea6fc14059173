import SgmDevice.Concurrency.Mutex
import SgmDevice.Utils.HistoricalValue

/-!
# `PppConnection`

The PPP connection of the sink, written statement by statement.  A method is a program over the
operations `Op`; what its callers see is a program over `Call`, in which `stateMachineTick` is one
operation.  `Call.inline` puts the body of the tick back in its place.

| source | here |
|---|---|
| `stateMachineTick`, `startPowerMonitor`, `pausePowerMonitor` | programs over `Op` |
| `connect`, `disconnect` | programs over `Call` |
| `powerMonitorThread` | `powerMonitorStart` and the three pieces of its `while(1)` loop |

Logging and the one-second bound of the timed wait leave no trace in the state.
-/

namespace SgmDevice

open Concurrency (Program)

/-- `INetworkProvider::NetworkStatus`. -/
inductive NetworkStatus where
  | connected
  | disconnected
  | connectionError
  | tooManyAttempts
  | deviceUnavailable
  | unknownError
  deriving DecidableEq, Repr

/-- The callbacks a user may register: `MqttProtocol::onNetworkStatusChange`, or any other. -/
inductive NetworkStatusCallback where
  | onNetworkStatusChange
  | other (n : ℕ)
  deriving DecidableEq, Repr

namespace PppEndpoint

/-- A call of the endpoint; an `open` carries what it returned. -/
inductive EndpointCall where
  | opened (result : Bool)
  | closed
  deriving DecidableEq, Repr

/-- `PppEndpoint::open` judges the return code of `system("pppd")`. -/
def openResult (returncode : Int) : Bool :=
  match returncode with
  | 0 => true
  | _ => false

/-- Whether a pppd is running after some calls, the latest one first: an `open` that returned
`true` starts it, a `close` kills it. -/
def running : List EndpointCall → Bool
  | [] => false
  | .opened true :: _ => true
  | .opened false :: calls => running calls
  | .closed :: _ => false

/-- Every `open` was made while no pppd was running. -/
def NeverDoubled : List EndpointCall → Prop
  | [] => True
  | .opened _ :: calls => running calls = false ∧ NeverDoubled calls
  | .closed :: calls => NeverDoubled calls

end PppEndpoint

namespace PppConnection

/-- `PppConnection::State`. -/
inductive State where
  | noConnection
  | connected
  | deviceUnavailable
  | connectionLost
  deriving DecidableEq, Repr

theorem State.forall_iff {P : State → Prop} :
    (∀ st, P st) ↔ P .noConnection ∧ P .connected ∧ P .deviceUnavailable ∧ P .connectionLost :=
  ⟨fun h => ⟨h _, h _, h _, h _⟩, fun ⟨h₁, h₂, h₃, h₄⟩ st => by cases st <;> assumption⟩

/-- `PppConnection::Event`. -/
inductive Event where
  | connectRequest
  | disconnectRequest
  | deviceLost
  | deviceRestored
  deriving DecidableEq, Repr

/-- The two mutexes of the connection. -/
inductive Mutex where
  | itsEventMutex
  | itsMonitoringMutex
  deriving DecidableEq, Repr

instance : Fintype Mutex where
  elems := {.itsEventMutex, .itsMonitoringMutex}
  complete m := by cases m <;> decide

/-- The member functions that take a mutex. -/
inductive Callee where
  | stateMachineTick (ev : Event)
  | startPowerMonitor
  | pausePowerMonitor
  deriving DecidableEq, Repr

/-- One statement of the methods. -/
inductive Op where
  /-- Control enters a member function. -/
  | call (f : Callee)
  | lock (m : Mutex)
  | unlock (m : Mutex)
  /-- `wait_for` gives `itsMonitoringMutex` back and sleeps. -/
  | sleep
  /-- The sleep ends; the reply tells whether the second has passed. -/
  | wake
  /-- The predicate of the wait, `isPowerMonitorOn || terminate`. -/
  | waitPredicate
  | terminate
  /-- `cmuxReadyFlag` is constructed from `getCmuxReady()`. -/
  | initCmuxReadyFlag
  /-- `cmuxReadyFlag.set(sData.getCmuxReady())`; the reply is the flag after it. -/
  | sampleCmuxReady
  | isDeviceAvailable
  | itsCurrentState
  /-- The test `itsCurrentState == st`. -/
  | currentStateIs (st : State)
  | setCurrentState (st : State)
  | setPowerMonitorOn (b : Bool)
  | openEndpoint
  | closeEndpoint
  | notifyByCallback (status : NetworkStatus)
  deriving DecidableEq, Repr

/-- The replies. -/
@[reducible] def Op.Res : Op → Type
  | .wake | .waitPredicate | .terminate | .isDeviceAvailable | .currentStateIs _
  | .openEndpoint => Bool
  | .sampleCmuxReady => HistoricalValue Bool
  | .itsCurrentState => State
  | _ => Unit

abbrev stmt (o : Op) : Program Op Op.Res o.Res := Program.perform o

/-- What the callers of the tick perform: single statements and whole ticks. -/
inductive Call where
  | plain (o : Op)
  | stateMachineTick (ev : Event)
  deriving DecidableEq, Repr

@[reducible] def Call.Res : Call → Type
  | .plain o => o.Res
  | .stateMachineTick _ => State

abbrev plain (o : Op) : Program Call Call.Res o.Res := Program.perform (Call.plain o)

abbrev callTick (ev : Event) : Program Call Call.Res State :=
  Program.perform (Call.stateMachineTick ev)

/-! ## The state machine tick -/

def startPowerMonitor : Program Op Op.Res Unit := do
  stmt (.call .startPowerMonitor)
  stmt (.lock .itsMonitoringMutex)
  stmt (.setPowerMonitorOn true)
  stmt (.unlock .itsMonitoringMutex)

def pausePowerMonitor : Program Op Op.Res Unit := do
  stmt (.call .pausePowerMonitor)
  stmt (.lock .itsMonitoringMutex)
  stmt (.setPowerMonitorOn false)
  stmt (.unlock .itsMonitoringMutex)

/-- `return itsCurrentState;`, after which the lock guard gives `itsEventMutex` back. -/
def returnCurrentState : Program Op Op.Res State := do
  let st ← stmt .itsCurrentState
  stmt (.unlock .itsEventMutex)
  return st

/-- The cases of the `switch` in `stateMachineTick`. -/
def tickBody : Event → Program Op Op.Res Unit
  | .connectRequest => do
    let st ← stmt .itsCurrentState
    if st ≠ .noConnection then return ()
    else do
      let opened ← stmt .openEndpoint
      if opened then do
        stmt (.setCurrentState .connected)
        startPowerMonitor
        stmt (.notifyByCallback .connected)
      else do
        stmt (.setCurrentState .noConnection)
        stmt (.notifyByCallback .connectionError)
  | .disconnectRequest => do
    let st ← stmt .itsCurrentState
    if st = .connected ∨ st = .connectionLost then do
      pausePowerMonitor
      stmt (.setCurrentState .noConnection)
      stmt (.notifyByCallback .disconnected)
      stmt .closeEndpoint
    else return ()
  | .deviceLost => do
    stmt .closeEndpoint
    stmt (.setCurrentState .connectionLost)
    stmt (.notifyByCallback .deviceUnavailable)
  | .deviceRestored => do
    let opened ← stmt .openEndpoint
    if opened then do
      startPowerMonitor
      stmt (.setCurrentState .connected)
      stmt (.notifyByCallback .connected)
    else do
      stmt (.setCurrentState .noConnection)
      stmt (.notifyByCallback .connectionError)

def stateMachineTick (ev : Event) : Program Op Op.Res State := do
  stmt (.call (.stateMachineTick ev))
  stmt (.lock .itsEventMutex)
  tickBody ev
  returnCurrentState

/-- The statements of a caller, with the tick written out. -/
def Call.inline : (c : Call) → Program Op Op.Res c.Res
  | .plain o => stmt o
  | .stateMachineTick ev => PppConnection.stateMachineTick ev

/-! ## The calls of the user -/

def connect : Program Call Call.Res NetworkStatus := do
  let available ← plain .isDeviceAvailable
  if !available then do
    let _ ← callTick .deviceLost
    return .deviceUnavailable
  else do
    let isConnected ← plain (.currentStateIs .connected)
    if isConnected then return .connected
    else do
      let st ← callTick .connectRequest
      if st = .connected then return .connected else return .connectionError

def disconnect : Program Call Call.Res NetworkStatus := do
  let available ← plain .isDeviceAvailable
  if !available then do
    let _ ← callTick .deviceLost
    return .disconnected
  else do
    let isNotConnected ← plain (.currentStateIs .noConnection)
    if isNotConnected then return .disconnected
    else do
      let st ← callTick .disconnectRequest
      if st = .connected then return .disconnected else return .connectionError

/-! ## The monitor thread -/

/-- Where `powerMonitorThread` goes on: at its start, at the top of `while(1)`, at the test of the
wait, behind the wait, or nowhere. -/
inductive MonitorPoint where
  | start
  | whileTrue
  | waiting
  | awake
  | exited
  deriving DecidableEq, Repr

def powerMonitorStart : Program Call Call.Res MonitorPoint := do
  plain .initCmuxReadyFlag
  return .whileTrue

def powerMonitorLock : Program Call Call.Res MonitorPoint := do
  plain (.lock .itsMonitoringMutex)
  return .waiting

/-- One turn of `wait_for` with a predicate: a timeout ends it whatever the predicate says. -/
def powerMonitorWait : Program Call Call.Res MonitorPoint := do
  let on ← plain .waitPredicate
  if on then return .awake
  else do
    plain .sleep
    let timedOut ← plain .wake
    plain (.lock .itsMonitoringMutex)
    if timedOut then return .awake else return .waiting

def powerMonitorBody : Program Call Call.Res MonitorPoint := do
  let stop ← plain .terminate
  if stop then do
    plain (.unlock .itsMonitoringMutex)
    return .exited
  else do
    let cmuxReadyFlag ← plain .sampleCmuxReady
    if cmuxReadyFlag.hasChanged then do
      if cmuxReadyFlag.get then do
        let _ ← callTick .deviceRestored
        plain (.unlock .itsMonitoringMutex)
        return .whileTrue
      else do
        let _ ← callTick .deviceLost
        plain (.unlock .itsMonitoringMutex)
        return .whileTrue
    else do
      plain (.unlock .itsMonitoringMutex)
      return .whileTrue

def powerMonitorThread : MonitorPoint → Option (Program Call Call.Res MonitorPoint)
  | .start => some powerMonitorStart
  | .whileTrue => some powerMonitorLock
  | .waiting => some powerMonitorWait
  | .awake => some powerMonitorBody
  | .exited => none

/-! ## What the statements do to the data -/

/-- The data the statements act on: the members of the object, the calls it made, the monitor's
local flag and the readiness flag in shared memory. -/
structure Data where
  itsCurrentState : State := .noConnection
  /-- The calls of `itsPppEndpoint`, the latest one first. -/
  endpointCalls : List PppEndpoint.EndpointCall := []
  callbackList : List NetworkStatusCallback := []
  /-- The callbacks made, the latest one first. -/
  notifications : List (NetworkStatusCallback × NetworkStatus) := []
  isPowerMonitorOn : Bool := false
  terminate : Bool := false
  /-- `cmuxReadyFlag` of the monitor thread, once it is constructed. -/
  cmuxReadyFlag : Option (HistoricalValue Bool) := none
  isCmuxReady : Bool
  deriving DecidableEq, Repr

/-- What the world decides about a statement. -/
structure World where
  /-- The return code of `system("pppd")`. -/
  returncode : Int := 0
  timedOut : Bool := true
  deriving DecidableEq, Repr

/-- The effect of one statement on the data. -/
def Op.exec (w : World) : (o : Op) → Data → o.Res × Data
  | .call _, d | .lock _, d | .unlock _, d | .sleep, d => ((), d)
  | .wake, d => (w.timedOut, d)
  | .waitPredicate, d => (d.isPowerMonitorOn || d.terminate, d)
  | .terminate, d => (d.terminate, d)
  | .initCmuxReadyFlag, d => ((), { d with cmuxReadyFlag := some (.make d.isCmuxReady) })
  | .sampleCmuxReady, d =>
    let flag := (d.cmuxReadyFlag.getD (.make d.isCmuxReady)).set d.isCmuxReady
    (flag, { d with cmuxReadyFlag := some flag })
  | .isDeviceAvailable, d => (d.isCmuxReady, d)
  | .itsCurrentState, d => (d.itsCurrentState, d)
  | .currentStateIs st, d => (d.itsCurrentState = st, d)
  | .setCurrentState st, d => ((), { d with itsCurrentState := st })
  | .setPowerMonitorOn b, d => ((), { d with isPowerMonitorOn := b })
  | .openEndpoint, d =>
    let result := PppEndpoint.openResult w.returncode
    (result, { d with endpointCalls := .opened result :: d.endpointCalls })
  | .closeEndpoint, d => ((), { d with endpointCalls := .closed :: d.endpointCalls })
  | .notifyByCallback status, d =>
    ((), { d with
      notifications := (d.callbackList.map (·, status)).reverse ++ d.notifications })

def registerUserCallback (netCallback : NetworkStatusCallback) (d : Data) : Data :=
  { d with callbackList := d.callbackList ++ [netCallback] }

/-- The effect of a whole tick, run without interruption. -/
def tick (w : World) (ev : Event) (d : Data) : State × Data :=
  (stateMachineTick ev).eval (Op.exec w) d

def Call.exec (w : World) : (c : Call) → Data → c.Res × Data
  | .plain o, d => o.exec w d
  | .stateMachineTick ev, d => tick w ev d

/-- Statement by statement a caller does, without interruption, what it does by whole ticks. -/
theorem eval_inline {α : Type} (w : World) (p : Program Call Call.Res α) (d : Data) :
    (p.interp Call.inline).eval (Op.exec w) d = p.eval (Call.exec w) d := by
  rw [Program.eval_interp]
  congr 1
  funext c d
  cases c <;> rfl

end PppConnection

end SgmDevice
