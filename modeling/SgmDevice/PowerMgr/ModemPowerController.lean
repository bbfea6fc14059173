import SgmDevice.PowerMgr.PowerStatements

/-!
# `ModemPowerController`

The indication pin reads 0 while the modem is active.  `stabilizePowerState` and
`powerIndChangeHandler` follow it; the handler ends in the callback of the power manager.
-/

namespace SgmDevice

namespace ModemPowerController

open Concurrency (Program)
open PowerMgr

def MODEM_IGNITION : Int := 1
def MODEM_LINE_IDLE : Int := 0
def MODEM_POWER_ON : Int := 1
def MODEM_POWER_OFF : Int := 0
def MODEM_IND_POWER_ON : Int := 0
def MODEM_IND_POWER_OFF : Int := 1

theorem ind_off_ne_on : MODEM_IND_POWER_OFF ≠ MODEM_IND_POWER_ON := by decide

def stabilizePowerState : Program Op Op.Res Unit := do
  let modemPowerIndication ← stmt .readPowerInd
  if modemPowerIndication = MODEM_IND_POWER_ON then do
    let modemQueryResult ← stmt .runModemQuery
    if modemQueryResult = .okRaw then do
      stmt (.setPowerState .enabled)
      stmt (.writeModemEnable MODEM_LINE_IDLE)
      stmt (.writeModemPowerSet MODEM_POWER_ON)
      stmt .startAccess
      stmt (.setModemReady true)
      stmt .endAccess
    else do
      stmt .startAccess
      stmt (.setModemReady false)
      stmt .endAccess
      stmt (.writeModemPowerSet MODEM_POWER_OFF)
      stmt (.writeModemEnable MODEM_LINE_IDLE)
      stmt (.writeModemPowerSet MODEM_POWER_ON)
      stmt (.setPowerState .disabledUnpowered)
  else if modemPowerIndication = MODEM_IND_POWER_OFF then do
    stmt .startAccess
    stmt (.setModemReady false)
    stmt .endAccess
    -- the source writes the indication constant here, which is the level `MODEM_POWER_ON`
    stmt (.writeModemPowerSet MODEM_IND_POWER_OFF)
    stmt (.writeModemEnable MODEM_LINE_IDLE)
    stmt (.setPowerState .disabledPowered)
  else return ()

/-- The body of the constructor. -/
def construct : Program Op Op.Res Unit := do
  let modemPowerInd ← stmt .readPowerInd
  if modemPowerInd = MODEM_IND_POWER_ON then do
    stmt (.modemEnableDir .dirOut)
    stmt (.modemPowerSetDir .dirOutHigh)
    stabilizePowerState
  else do
    stmt (.modemPowerSetDir .dirOutLow)
    stmt (.modemEnableDir .dirOutLow)
    stmt (.setPowerState .disabledUnpowered)

/-- `turnOn()`; the statement `std::unique_lock<std::mutex>(itsLockingMutex);` only declares a
lock of that name and takes nothing. -/
def turnOn : Program Op Op.Res PowerState := do
  stmt (.writeModemEnable MODEM_IGNITION)
  stmt (.writeModemPowerSet MODEM_POWER_ON)
  return .enabled

/-- `turnOffHw(keepPower)`, which keeps no power and takes no lock either. -/
def turnOffHw (_keepPower : Bool) : Program Op Op.Res PowerState := do
  stmt (.writeModemPowerSet MODEM_POWER_OFF)
  return .disabledPowered

/-- `resetHw()`, without a lock like `turnOn()`. -/
def resetHw : Program Op Op.Res PowerState := do
  stmt (.writeModemPowerSet MODEM_POWER_OFF)
  stmt (.writeModemEnable MODEM_LINE_IDLE)
  stmt (.writeModemPowerSet MODEM_POWER_ON)
  stmt (.writeModemEnable MODEM_IGNITION)
  let modemPowerIndication ← stmt .readPowerInd
  if MODEM_IND_POWER_ON = modemPowerIndication then return .enabled
  else do
    let modemPowerIndication ← stmt .readPowerInd
    if MODEM_IND_POWER_OFF = modemPowerIndication then return .undefined
    else return .enabled

/-- `powerIndChangeHandler`, given the callback. -/
def powerIndChangeHandler (itsIsrCallback : Program Op Op.Res Unit) : Program Op Op.Res Unit := do
  let modemPowerIndicationValue ← stmt .readPowerInd
  stmt .startAccess
  if modemPowerIndicationValue = MODEM_IND_POWER_OFF then do
    stmt (.writeModemEnable MODEM_LINE_IDLE)
    stmt (.writeModemPowerSet MODEM_POWER_OFF)
    stmt (.setModemReady false)
    stmt (.setPowerState .disabledPowered)
    stmt .endAccess
    itsIsrCallback
  else if modemPowerIndicationValue = MODEM_IND_POWER_ON then do
    stmt (.writeModemEnable MODEM_LINE_IDLE)
    stmt (.setPowerState .enabled)
    stmt (.setModemReady true)
    stmt .endAccess
    itsIsrCallback
  else do
    stmt .endAccess
    itsIsrCallback

/-- What a handled indication makes of the power state. -/
def indicated (modemPowerIndicationValue : Int) (st : PowerState) : PowerState :=
  if modemPowerIndicationValue = MODEM_IND_POWER_OFF then .disabledPowered
  else if modemPowerIndicationValue = MODEM_IND_POWER_ON then .enabled
  else st

/-- The power state and the flag that a handled indication leaves, before the callback runs. -/
theorem run_powerIndChangeHandler (w : World) (itsIsrCallback : Program Op Op.Res Unit) (d : Data) :
    ∃ d', run w (powerIndChangeHandler itsIsrCallback) d = run w itsIsrCallback d' ∧
      d'.itsPowerState = indicated (w.powerInd d.readings) d.itsPowerState ∧
      d'.storedPowerState = d.storedPowerState ∧ d'.itsDeviceState = d.itsDeviceState ∧
      d'.shared.isCmuxReady = d.shared.isCmuxReady ∧
      ((d.shared.isModemReady = true ↔ d.itsPowerState = .enabled) →
        (d'.shared.isModemReady = true ↔ d'.itsPowerState = .enabled)) := by
  unfold powerIndChangeHandler
  by_cases hoff : w.powerInd d.readings = MODEM_IND_POWER_OFF
  · refine ⟨_, by simp [run, Program.perform, Op.exec, hoff]; rfl, ?_⟩
    simp [indicated, hoff]
  · by_cases hon : w.powerInd d.readings = MODEM_IND_POWER_ON
    · refine ⟨_, by simp [run, Program.perform, Op.exec, hon, ind_off_ne_on.symm]; rfl, ?_⟩
      simp [indicated, hon, ind_off_ne_on.symm]
    · refine ⟨_, by simp [run, Program.perform, Op.exec, hoff, hon]; rfl, ?_⟩
      simp [indicated, hoff, hon]

end ModemPowerController

end SgmDevice
