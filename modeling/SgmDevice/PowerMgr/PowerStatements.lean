import SgmDevice.Concurrency.Program
import SgmDevice.Utils.HistoricalValue
import SgmDevice.Utils.SharedMemory

/-!
# The statements of the power manager

`ModemPowerController` and `PowerManager` run in one process and share its data, so their methods
are programs over one set of statements.  What the world answers (the indication pin, the modem
query, the CMUX driver) is a sequence that is read in order.

Logging and sleeping leave no trace in the data, and neither do the battery pin, which nothing
reads, and the registration of the interrupt.
-/

namespace SgmDevice

open Concurrency (Program)

namespace IModemQuery

inductive Result where
  | okRaw
  | okCmux
  | nok
  deriving DecidableEq, Repr

end IModemQuery

namespace ICMuxDriver

inductive Result where
  | muxOn
  | muxOff
  | muxError
  deriving DecidableEq, Repr

/-- A call of the driver; a `turnOn` carries what it returned. -/
inductive DriverCall where
  | turnOn (result : Result)
  | turnOff
  deriving DecidableEq, Repr

end ICMuxDriver

/-- `mraa::Dir`, as far as it is used for outputs. -/
inductive GpioDir where
  | dirOut
  | dirOutHigh
  | dirOutLow
  deriving DecidableEq, Repr

/-- `ModemPowerController::PowerState`. -/
inductive PowerState where
  | undefined
  | disabledPowered
  | enabled
  | disabledUnpowered
  deriving DecidableEq, Repr

/-- `PowerManager::DeviceState`. -/
inductive DeviceState where
  | undefined
  | modemReady
  | modemCmux
  | modemOff
  | modemFailed
  deriving DecidableEq, Repr

namespace PowerMgr

/-- The mutexes inside the process. -/
inductive Mutex where
  | itsLockingMutex
  | eventMutex
  | processingMutex
  deriving DecidableEq, Repr

inductive Op where
  | readPowerInd
  | modemEnableDir (dir : GpioDir)
  | modemPowerSetDir (dir : GpioDir)
  | writeModemEnable (level : Int)
  | writeModemPowerSet (level : Int)
  | runModemQuery
  /-- The mutex in shared memory is taken and given back. -/
  | startAccess
  | endAccess
  | setModemReady (flag : Bool)
  | setCmuxReady (flag : Bool)
  | setPowerState (st : PowerState)
  | getPowerState
  | setStoredPowerState (st : PowerState)
  | storedPowerState
  | setDeviceState (st : DeviceState)
  | deviceState
  | cmuxTurnOn
  | cmuxTurnOff
  /-- `sd_notify(0, "READY=1")`. -/
  | sdNotifyReady
  | lock (m : Mutex)
  | unlock (m : Mutex)
  | notifyAll
  deriving DecidableEq, Repr

@[reducible] def Op.Res : Op → Type
  | .readPowerInd => Int
  | .runModemQuery => IModemQuery.Result
  | .getPowerState => PowerState
  | .storedPowerState => HistoricalValue PowerState
  | .deviceState => HistoricalValue DeviceState
  | .cmuxTurnOn => ICMuxDriver.Result
  | _ => Unit

abbrev stmt (o : Op) : Program Op Op.Res o.Res := Program.perform o

/-- What the world answers, the `n`-th time it is asked; the driver counts all its calls. -/
structure World where
  powerInd : ℕ → Int := fun _ => 0
  modemQuery : ℕ → IModemQuery.Result := fun _ => .okRaw
  cmuxTurnOn : ℕ → ICMuxDriver.Result := fun _ => .muxOn

/-- The members of the two objects and the shared segment. -/
structure Data where
  itsPowerState : PowerState := .undefined
  storedPowerState : HistoricalValue PowerState := .make .undefined
  itsDeviceState : HistoricalValue DeviceState := .make .undefined
  shared : SGMShared := {}
  /-- The levels last written to the two output pins. -/
  modemEnablePin : Option Int := none
  modemPowerSetPin : Option Int := none
  /-- How often the indication pin and the modem have been asked. -/
  readings : ℕ := 0
  queries : ℕ := 0
  /-- The calls of the CMUX driver, the latest one first. -/
  driverCalls : List ICMuxDriver.DriverCall := []
  /-- The service has told the init system that it is ready. -/
  notifiedReady : Bool := false
  deriving DecidableEq, Repr

/-- The level of an output pin after its direction is set; `DIR_OUT` keeps it. -/
def GpioDir.level (level : Option Int) : GpioDir → Option Int
  | .dirOut => level
  | .dirOutHigh => some 1
  | .dirOutLow => some 0

def Op.exec (w : World) : (o : Op) → Data → o.Res × Data
  | .readPowerInd, d => (w.powerInd d.readings, { d with readings := d.readings + 1 })
  | .modemEnableDir dir, d =>
    ((), { d with modemEnablePin := GpioDir.level d.modemEnablePin dir })
  | .modemPowerSetDir dir, d =>
    ((), { d with modemPowerSetPin := GpioDir.level d.modemPowerSetPin dir })
  | .writeModemEnable level, d => ((), { d with modemEnablePin := some level })
  | .writeModemPowerSet level, d => ((), { d with modemPowerSetPin := some level })
  | .runModemQuery, d => (w.modemQuery d.queries, { d with queries := d.queries + 1 })
  | .startAccess, d | .endAccess, d => ((), d)
  | .setModemReady flag, d => ((), { d with shared := { d.shared with isModemReady := flag } })
  | .setCmuxReady flag, d => ((), { d with shared := { d.shared with isCmuxReady := flag } })
  | .setPowerState st, d => ((), { d with itsPowerState := st })
  | .getPowerState, d => (d.itsPowerState, d)
  | .setStoredPowerState st, d => ((), { d with storedPowerState := d.storedPowerState.set st })
  | .storedPowerState, d => (d.storedPowerState, d)
  | .setDeviceState st, d => ((), { d with itsDeviceState := d.itsDeviceState.set st })
  | .deviceState, d => (d.itsDeviceState, d)
  | .cmuxTurnOn, d =>
    let result := w.cmuxTurnOn d.driverCalls.length
    (result, { d with driverCalls := .turnOn result :: d.driverCalls })
  | .cmuxTurnOff, d => ((), { d with driverCalls := .turnOff :: d.driverCalls })
  | .sdNotifyReady, d => ((), { d with notifiedReady := true })
  | .lock _, d | .unlock _, d | .notifyAll, d => ((), d)

/-- A program run without interruption; its result is not looked at. -/
def run {α : Type} (w : World) (p : Program Op Op.Res α) (d : Data) : Data :=
  (p.eval (Op.exec w) d).2

end PowerMgr

end SgmDevice
