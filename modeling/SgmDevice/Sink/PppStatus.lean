import SgmDevice.Concurrency.Transition
import SgmDevice.Sink.PppCalls

/-!
# The status of a `PppConnection`

Whole calls, one at a time: `connect()`, `disconnect()` and the turns of the monitor, between which
the CMUX flag may be set and callbacks registered.  `disconnect()` takes `CONNECTED` for the state
that a disconnect request leaves, so it returns `CONNECTION_ERROR` where it has disconnected
(`status_agrees_iff`).
-/

namespace SgmDevice

namespace PppConnection

open Concurrency PppEndpoint

def queryStatus (d : Data) : NetworkStatus :=
  match d.itsCurrentState with
  | .connected => .connected
  | .deviceUnavailable => .deviceUnavailable
  | .noConnection => .disconnected
  | .connectionLost => .deviceUnavailable

/-- What happens while nobody is inside a call. -/
inductive Turn where
  | connect (w : World)
  | disconnect (w : World)
  | monitor (w : World)
  | env (e : Env)

/-- The data and where the monitor goes on. -/
structure AtRest where
  data : Data
  point : MonitorPoint := .start

def turns : System AtRest Turn where
  step s
  | .connect w => some { s with data := (connect.eval (Call.exec w) s.data).2 }
  | .disconnect w => some { s with data := (disconnect.eval (Call.exec w) s.data).2 }
  | .monitor w => (powerMonitorThread s.point).map fun piece =>
    ⟨(piece.eval (Call.exec w) s.data).2, (piece.eval (Call.exec w) s.data).1⟩
  | .env e => some { s with data := e.exec s.data }

/-- A call reports a connection, or that there is none, exactly when `queryStatus()` does right
after it. -/
def StatusAgrees (s : AtRest) : Turn → Prop
  | .connect w =>
    let (status, d) := connect.eval (Call.exec w) s.data
    status = .connected ↔ queryStatus d = .connected
  | .disconnect w =>
    let (status, d) := disconnect.eval (Call.exec w) s.data
    status = .disconnected ↔ queryStatus d ≠ .connected
  | _ => True

/-- A disconnect finds the device gone or nothing to do. -/
def DisconnectIdle (s : AtRest) : Turn → Prop
  | .disconnect _ => s.data.isCmuxReady = false ∨ s.data.itsCurrentState = .noConnection
  | _ => True

instance (s : AtRest) (turn : Turn) : Decidable (StatusAgrees s turn) := by
  cases turn <;> unfold StatusAgrees <;> infer_instance

theorem queryStatus_connected (d : Data) :
    queryStatus d = .connected ↔ d.itsCurrentState = .connected := by
  unfold queryStatus
  cases d.itsCurrentState <;> decide

section Calls

variable (w : World) (d : Data)

/-- The early returns of `connect()`, and the tick behind them. -/
theorem connect_spec :
    connect.eval (Call.exec w) d =
      if d.isCmuxReady = false then (.deviceUnavailable, (tick w .deviceLost d).2)
      else if d.itsCurrentState = .connected then (.connected, d)
      else (if (tick w .connectRequest d).1 = .connected then .connected else .connectionError,
        (tick w .connectRequest d).2) := by
  by_cases hready : d.isCmuxReady = false
  · simp [connect, Program.perform, Call.exec, Op.exec, hready]
  · by_cases hstate : d.itsCurrentState = .connected
    · simp [connect, Program.perform, Call.exec, Op.exec, hready, hstate]
    · by_cases hopened : (tick w .connectRequest d).1 = .connected <;>
        simp [connect, Program.perform, Call.exec, Op.exec, hready, hstate, hopened]

theorem disconnect_spec :
    disconnect.eval (Call.exec w) d =
      if d.isCmuxReady = false then (.disconnected, (tick w .deviceLost d).2)
      else if d.itsCurrentState = .noConnection then (.disconnected, d)
      else (if (tick w .disconnectRequest d).1 = .connected then .disconnected
        else .connectionError, (tick w .disconnectRequest d).2) := by
  by_cases hready : d.isCmuxReady = false
  · simp [disconnect, Program.perform, Call.exec, Op.exec, hready]
  · by_cases hstate : d.itsCurrentState = .noConnection
    · simp [disconnect, Program.perform, Call.exec, Op.exec, hready, hstate]
    · by_cases hopened : (tick w .disconnectRequest d).1 = .connected <;>
        simp [disconnect, Program.perform, Call.exec, Op.exec, hready, hstate, hopened]

/-- A tick returns the state it leaves. -/
theorem tick_returns (ev : Event) : (tick w ev d).1 = (tick w ev d).2.itsCurrentState := by
  rw [tick_spec]

theorem tick_deviceLost : (tick w .deviceLost d).2.itsCurrentState = .connectionLost := by
  rw [tick_state]
  cases d.itsCurrentState <;> rfl

/-- A disconnect request never leaves a connection. -/
theorem tick_disconnectRequest : (tick w .disconnectRequest d).2.itsCurrentState ≠ .connected := by
  rw [tick_state]
  cases d.itsCurrentState <;> simp [nextState]

theorem connect_agrees :
    (connect.eval (Call.exec w) d).1 = .connected ↔
      queryStatus (connect.eval (Call.exec w) d).2 = .connected := by
  rw [queryStatus_connected, connect_spec]
  split
  · simp [tick_deviceLost]
  · split
    · simpa
    · rw [← tick_returns]
      by_cases hopened : (tick w .connectRequest d).1 = .connected <;> simp [hopened]

/-- A disconnect is never followed by a connection, and it reports that when it finds the device
gone or nothing to do. -/
theorem disconnect_agrees :
    ((disconnect.eval (Call.exec w) d).1 = .disconnected ↔
        queryStatus (disconnect.eval (Call.exec w) d).2 ≠ .connected) ↔
      d.isCmuxReady = false ∨ d.itsCurrentState = .noConnection := by
  rw [Ne, queryStatus_connected, disconnect_spec]
  by_cases hready : d.isCmuxReady = false
  · simp [tick_deviceLost, hready]
  · by_cases hstate : d.itsCurrentState = .noConnection
    · simp [hready, hstate]
    · have hreturned : (tick w .disconnectRequest d).1 ≠ .connected := by
        rw [tick_returns]
        exact tick_disconnectRequest w d
      simp [tick_disconnectRequest, hready, hstate, hreturned]

end Calls

theorem statusAgrees_iff (s : AtRest) (turn : Turn) :
    StatusAgrees s turn ↔ DisconnectIdle s turn := by
  cases turn with
  | connect w => exact iff_true_intro (connect_agrees w s.data)
  | disconnect w => exact disconnect_agrees w s.data
  | monitor w => exact Iff.rfl
  | env e => exact Iff.rfl

/-- Every call agrees with the status right after it if and only if every `disconnect()` finds the
device gone or nothing to do. -/
theorem status_agrees_iff (flag : Bool) (acts : List Turn) :
    turns.Obeys ⟨{ isCmuxReady := flag }, .start⟩ acts StatusAgrees ↔
      turns.Obeys ⟨{ isCmuxReady := flag }, .start⟩ acts DisconnectIdle :=
  System.obeys_congr (fun s turn _ _ => statusAgrees_iff s turn) _ acts

/-- What was connected is disconnected, and yet `disconnect()` returns `CONNECTION_ERROR`. -/
theorem disconnect_disagrees :
    ¬ turns.Obeys ⟨{ isCmuxReady := true }, .start⟩ [.connect {}, .disconnect {}] StatusAgrees := by
  decide

end PppConnection

end SgmDevice
