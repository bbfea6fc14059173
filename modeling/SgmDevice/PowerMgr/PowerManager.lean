import SgmDevice.PowerMgr.ModemPowerController

/-!
# `PowerManager`

The manager stores the power state it hears of (`onPowerIndChange`), decides from it and from the
device state what is to be done (`computeEvent`), and does it (`processIncomingEvent`).
-/

namespace SgmDevice

namespace PowerManager

open Concurrency (Program)
open PowerMgr

/-- `PowerManager::Event`. -/
inductive Event where
  | reqTurnOn
  | reqTurnOff
  | asyncTurnOn
  | asyncTurnOff
  | none
  | undefined
  deriving DecidableEq, Repr

def onPowerIndChange : Program Op Op.Res Unit := do
  let currentPowerState ← stmt .getPowerState
  stmt (.lock .eventMutex)
  stmt (.setStoredPowerState currentPowerState)
  let storedPowerState ← stmt .storedPowerState
  if storedPowerState.hasChanged then do
    stmt (.unlock .eventMutex)
    stmt .notifyAll
  else stmt (.unlock .eventMutex)

def computeEvent (itsDeviceState : HistoricalValue DeviceState)
    (storedPowerState : HistoricalValue PowerState) : Event :=
  if !itsDeviceState.hasChanged then .none
  else
    match itsDeviceState.get with
    | .modemOff => if storedPowerState.is .enabled then .asyncTurnOn else .none
    | .modemReady | .modemCmux =>
      if storedPowerState.is .disabledPowered || storedPowerState.is .disabledUnpowered then
        .asyncTurnOff
      else .none
    | _ => .undefined

def processIncomingEvent : Event → Program Op Op.Res Unit
  | .asyncTurnOff => do
    stmt .startAccess
    stmt (.setCmuxReady false)
    stmt .endAccess
    stmt .cmuxTurnOff
    stmt (.setDeviceState .modemOff)
  | .asyncTurnOn => do
    let result ← stmt .cmuxTurnOn
    if result = .muxOn then do
      stmt .startAccess
      stmt (.setCmuxReady true)
      stmt .endAccess
      stmt (.setDeviceState .modemCmux)
      stmt .sdNotifyReady
    else stmt (.setDeviceState .modemFailed)
  | _ => return ()

/-- `processIncomingEvent(computeEvent())`. -/
def processRound : Program Op Op.Res Unit := do
  let itsDeviceState ← stmt .deviceState
  let storedPowerState ← stmt .storedPowerState
  processIncomingEvent (computeEvent itsDeviceState storedPowerState)

/-- The device state that `determineInitialConditions` sets for a stored power state. -/
def initialDeviceState : PowerState → Option DeviceState
  | .enabled => some .modemReady
  | .disabledPowered | .disabledUnpowered => some .modemOff
  | .undefined => none

def determineInitialConditions : Program Op Op.Res Unit := do
  let powerState ← stmt .getPowerState
  stmt (.setStoredPowerState powerState)
  let storedPowerState ← stmt .storedPowerState
  match initialDeviceState storedPowerState.get with
  | some st => stmt (.setDeviceState st)
  | none => return ()

/-! ## The events -/

section Event

variable {itsDeviceState : HistoricalValue DeviceState}
  {storedPowerState : HistoricalValue PowerState}

/-- Only the latest power state counts. -/
theorem computeEvent_congr {stored : HistoricalValue PowerState}
    (h : stored.get = storedPowerState.get) :
    computeEvent itsDeviceState stored = computeEvent itsDeviceState storedPowerState := by
  have his : ∀ st, stored.is st = storedPowerState.is st := fun st => by
    rw [Bool.eq_iff_iff, HistoricalValue.is_iff, HistoricalValue.is_iff, h]
  simp only [computeEvent, his]

theorem computeEvent_unchanged (h : itsDeviceState.hasChanged = false) :
    computeEvent itsDeviceState storedPowerState = .none := by
  simp [computeEvent, h]

theorem computeEvent_modemOff (h : itsDeviceState.hasChanged = true)
    (hst : itsDeviceState.get = .modemOff) :
    computeEvent itsDeviceState storedPowerState =
      if storedPowerState.get = .enabled then .asyncTurnOn else .none := by
  simp [computeEvent, h, hst]

/-- In the states that the modem is on in, it is switched off when the power is gone. -/
theorem computeEvent_on (h : itsDeviceState.hasChanged = true)
    (hst : itsDeviceState.get = .modemReady ∨ itsDeviceState.get = .modemCmux) :
    computeEvent itsDeviceState storedPowerState =
      if storedPowerState.get = .disabledPowered ∨ storedPowerState.get = .disabledUnpowered then
        .asyncTurnOff
      else .none := by
  rcases hst with hst | hst <;> simp [computeEvent, h, hst]

theorem computeEvent_eq_asyncTurnOn
    (h : computeEvent itsDeviceState storedPowerState = .asyncTurnOn) :
    itsDeviceState.get = .modemOff ∧ storedPowerState.get = .enabled := by
  cases hc : itsDeviceState.hasChanged <;> cases hst : itsDeviceState.get <;>
    cases hp : storedPowerState.get <;> simp_all [computeEvent]

theorem computeEvent_eq_asyncTurnOff
    (h : computeEvent itsDeviceState storedPowerState = .asyncTurnOff) :
    (itsDeviceState.get = .modemReady ∨ itsDeviceState.get = .modemCmux) ∧
      (storedPowerState.get = .disabledPowered ∨ storedPowerState.get = .disabledUnpowered) := by
  cases hc : itsDeviceState.hasChanged <;> cases hst : itsDeviceState.get <;>
    cases hp : storedPowerState.get <;> simp_all [computeEvent]

end Event

/-! ## Whole rounds -/

section Round

variable (w : World) (d : Data)

theorem run_processRound :
    run w processRound d =
      run w (processIncomingEvent (computeEvent d.itsDeviceState d.storedPowerState)) d := rfl

theorem run_asyncTurnOff :
    run w (processIncomingEvent .asyncTurnOff) d =
      { d with
        shared := { d.shared with isCmuxReady := false }
        driverCalls := .turnOff :: d.driverCalls
        itsDeviceState := d.itsDeviceState.set .modemOff } := rfl

theorem run_asyncTurnOn_muxOn (h : w.cmuxTurnOn d.driverCalls.length = .muxOn) :
    run w (processIncomingEvent .asyncTurnOn) d =
      { d with
        shared := { d.shared with isCmuxReady := true }
        driverCalls := .turnOn .muxOn :: d.driverCalls
        itsDeviceState := d.itsDeviceState.set .modemCmux
        notifiedReady := true } := by
  simp [run, processIncomingEvent, Program.perform, Op.exec, h]

theorem run_asyncTurnOn_failed (h : w.cmuxTurnOn d.driverCalls.length ≠ .muxOn) :
    run w (processIncomingEvent .asyncTurnOn) d =
      { d with
        driverCalls := .turnOn (w.cmuxTurnOn d.driverCalls.length) :: d.driverCalls
        itsDeviceState := d.itsDeviceState.set .modemFailed } := by
  simp [run, processIncomingEvent, Program.perform, Op.exec, h]

/-- Every other event leaves all data as it is. -/
theorem run_idle {ev : Event} (hon : ev ≠ .asyncTurnOn) (hoff : ev ≠ .asyncTurnOff) :
    run w (processIncomingEvent ev) d = d := by
  cases ev <;> first | rfl | exact absurd rfl hon | exact absurd rfl hoff

/-- Whatever is done, the power states stay as they are. -/
theorem run_processIncomingEvent_powerState (ev : Event) :
    (run w (processIncomingEvent ev) d).itsPowerState = d.itsPowerState ∧
      (run w (processIncomingEvent ev) d).storedPowerState = d.storedPowerState := by
  cases ev with
  | asyncTurnOn =>
    by_cases hon : w.cmuxTurnOn d.driverCalls.length = .muxOn
    · rw [run_asyncTurnOn_muxOn w d hon]
      exact ⟨rfl, rfl⟩
    · rw [run_asyncTurnOn_failed w d hon]
      exact ⟨rfl, rfl⟩
  | _ => exact ⟨rfl, rfl⟩

theorem run_onPowerIndChange :
    run w onPowerIndChange d =
      { d with storedPowerState := d.storedPowerState.set d.itsPowerState } := by
  cases h : (d.storedPowerState.set d.itsPowerState).hasChanged <;>
    simp [run, onPowerIndChange, Program.perform, Op.exec, h]

theorem run_determineInitialConditions :
    run w determineInitialConditions d =
      { d with
        storedPowerState := d.storedPowerState.set d.itsPowerState
        itsDeviceState := match initialDeviceState d.itsPowerState with
          | some st => d.itsDeviceState.set st
          | none => d.itsDeviceState } := by
  cases hst : d.itsPowerState <;>
    simp [run, determineInitialConditions, Program.perform, Op.exec, initialDeviceState, hst]

end Round

end PowerManager

end SgmDevice
