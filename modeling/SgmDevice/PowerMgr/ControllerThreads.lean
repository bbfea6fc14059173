import SgmDevice.Concurrency.Threads
import SgmDevice.PowerMgr.PowerManager

/-!
# The threads of a `ModemPowerController`

* `caller` calls `turnOn`, `turnOffHw` and `resetHw` in any order.  None of them takes
  `itsLockingMutex`: `std::unique_lock<std::mutex>(itsLockingMutex);` declares a lock of that name.
* `controller` runs `operator()()`, whose wait may also wake up for no reason.
* `isr` runs `powerIndicationIsr` once for each change of the indication pin.

The pin may change at any time, and a reading of it finds the present level.  A step is one
statement; the mutexes of the power manager and of the shared segment never block here.
-/

namespace SgmDevice

namespace ControllerThreads

open Concurrency PowerMgr ModemPowerController

inductive Thread where
  | caller
  | controller
  | isr
  deriving DecidableEq, Repr

/-- The public operations of the controller. -/
inductive Request where
  | turnOn
  | turnOffHw (keepPower : Bool)
  | resetHw
  deriving DecidableEq, Repr

def Request.code : Request → Program Op Op.Res PowerState
  | .turnOn => ModemPowerController.turnOn
  | .turnOffHw keepPower => ModemPowerController.turnOffHw keepPower
  | .resetHw => ModemPowerController.resetHw

/-- A statement of the threads. -/
inductive Stmt where
  | plain (o : Op)
  /-- The caller enters an operation. -/
  | enter (request : Request)
  /-- `itsLockingMutex` is taken and given back. -/
  | lock
  | unlock
  | powerStateChanged
  | setPowerStateChanged (b : Bool)
  /-- The wait gives `itsLockingMutex` back and sleeps. -/
  | sleep
  /-- The sleep ends. -/
  | wake
  /-- `itsCondVar.notify_all()`. -/
  | notifyAll
  /-- The next change of the pin is delivered. -/
  | awaitDelivery
  deriving DecidableEq, Repr

@[reducible] def Stmt.Res : Stmt → Type
  | .plain o => o.Res
  | .powerStateChanged => Bool
  | _ => Unit

abbrev perform (o : Stmt) : Program Stmt Stmt.Res o.Res := Program.perform o

/-- The statements of a method. -/
def method {α : Type} (p : Program Op Op.Res α) : Program Stmt Stmt.Res α :=
  p.interp fun o => Program.perform (Stmt.plain o)

/-- Where `operator()()` goes on: at the top of `while(1)`, at the test of the wait or behind it. -/
inductive ControllerPoint where
  | whileTrue
  | waiting
  | awake
  deriving DecidableEq, Repr

@[reducible] def Thread.Ret : Thread → Type
  | .caller | .isr => Unit
  | .controller => ControllerPoint

@[reducible] def Thread.Ask : Thread → Type
  | .caller => Request
  | .controller | .isr => Unit

/-- A whole call of an operation, whose result is not looked at. -/
def Request.call (request : Request) : Program Stmt Stmt.Res Unit := do
  perform (.enter request)
  let _ ← method request.code
  return ()

def controllerLock : Program Stmt Stmt.Res ControllerPoint := do
  perform .lock
  return .waiting

/-- One turn of the wait with its predicate. -/
def controllerWait : Program Stmt Stmt.Res ControllerPoint := do
  let changed ← perform .powerStateChanged
  if changed then return .awake
  else do
    perform .sleep
    perform .wake
    perform .lock
    return .waiting

def controllerBody : Program Stmt Stmt.Res ControllerPoint := do
  method (powerIndChangeHandler PowerManager.onPowerIndChange)
  perform (.setPowerStateChanged false)
  perform .unlock
  return .whileTrue

/-- `operator()()`. -/
def controllerThread : ControllerPoint → Program Stmt Stmt.Res ControllerPoint
  | .whileTrue => controllerLock
  | .waiting => controllerWait
  | .awake => controllerBody

def powerIndicationIsr : Program Stmt Stmt.Res Unit := do
  perform .awaitDelivery
  perform .lock
  perform (.setPowerStateChanged true)
  perform .unlock
  perform .notifyAll

def Thread.code : (t : Thread) → t.Ret → t.Ask → Program Stmt Stmt.Res t.Ret
  | .caller, _, request => request.call
  | .controller, point, _ => controllerThread point
  | .isr, _, _ => powerIndicationIsr

/-! ## What the statements do -/

/-- The pin writes of an operation, in order. -/
def Request.pinWrites : Request → List Op
  | .turnOn => [.writeModemEnable MODEM_IGNITION, .writeModemPowerSet MODEM_POWER_ON]
  | .turnOffHw _ => [.writeModemPowerSet MODEM_POWER_OFF]
  | .resetHw => [.writeModemPowerSet MODEM_POWER_OFF, .writeModemEnable MODEM_LINE_IDLE,
      .writeModemPowerSet MODEM_POWER_ON, .writeModemEnable MODEM_IGNITION]

/-- The pin writes of a run of the handler that has read `reading`. -/
def handlerWrites (reading : Int) : List Op :=
  if reading = MODEM_IND_POWER_OFF then
    [.writeModemEnable MODEM_LINE_IDLE, .writeModemPowerSet MODEM_POWER_OFF]
  else if reading = MODEM_IND_POWER_ON then [.writeModemEnable MODEM_LINE_IDLE]
  else []

/-- What the threads share.  The last five fields only record what has happened. -/
structure Shared where
  data : Data
  powerStateChanged : Bool := false
  /-- The sleeping controller has been notified. -/
  notified : Bool := false
  /-- The indication pin says that the modem is on. -/
  active : Bool
  /-- The changes of the pin that have not been delivered yet. -/
  deliveries : ℕ := 0
  /-- The owner of `itsLockingMutex`. -/
  owner : Option Thread := none
  /-- The operations entered, the first one first. -/
  operations : List Request := []
  /-- What the runs of the handler have read, the first one first. -/
  readings : List Int := []
  /-- The reading that is being handled. -/
  handling : Option Int := none
  /-- The pin writes that a thread still has to make in its operation or run of the handler. -/
  left : Thread → List Op := fun _ => []
  /-- The pin writes that have been made, the first one first. -/
  pinLog : List (Thread × Op) := []

/-- The reading of the indication pin. -/
def indication (active : Bool) : Int := if active then MODEM_IND_POWER_ON else MODEM_IND_POWER_OFF

theorem indication_eq (active : Bool) :
    indication active = MODEM_IND_POWER_ON ∨ indication active = MODEM_IND_POWER_OFF := by
  cases active with
  | true => exact .inl rfl
  | false => exact .inr rfl

/-- Keep the record of the pin writes that thread `t` has to make. -/
def Shared.begin (t : Thread) (writes : List Op) (s : Shared) : Shared :=
  { s with left := Function.update s.left t writes }

def Op.isPinWrite : Op → Bool
  | .writeModemEnable _ | .writeModemPowerSet _ => true
  | _ => false

/-- Keep the record of a plain statement. -/
def Shared.note (t : Thread) (o : Op) (s : Shared) : Shared :=
  if o = .readPowerInd ∧ t = .controller then
    { s.begin t (handlerWrites (indication s.active)) with
      readings := s.readings ++ [indication s.active]
      handling := some (indication s.active) }
  else if Op.isPinWrite o then
    { s.begin t (s.left t).tail with pinLog := s.pinLog ++ [(t, o)] }
  else s

section Note

variable (t : Thread) (o : Op) (s : Shared)

@[simp] theorem note_data : (Shared.note t o s).data = s.data := by
  unfold Shared.note
  split_ifs <;> rfl

@[simp] theorem note_powerStateChanged :
    (Shared.note t o s).powerStateChanged = s.powerStateChanged := by
  unfold Shared.note
  split_ifs <;> rfl

@[simp] theorem note_active : (Shared.note t o s).active = s.active := by
  unfold Shared.note
  split_ifs <;> rfl

@[simp] theorem note_deliveries : (Shared.note t o s).deliveries = s.deliveries := by
  unfold Shared.note
  split_ifs <;> rfl

@[simp] theorem note_owner : (Shared.note t o s).owner = s.owner := by
  unfold Shared.note
  split_ifs <;> rfl

theorem note_handling : (Shared.note t o s).handling =
    if o = .readPowerInd ∧ t = .controller then some (indication s.active) else s.handling := by
  unfold Shared.note
  split_ifs <;> rfl

theorem note_left : (Shared.note t o s).left =
    if o = .readPowerInd ∧ t = .controller then
      Function.update s.left t (handlerWrites (indication s.active))
    else if Op.isPinWrite o then Function.update s.left t (s.left t).tail
    else s.left := by
  unfold Shared.note
  split_ifs <;> rfl

theorem note_of_pinWrite (h : Op.isPinWrite o = true) :
    Shared.note t o s = { s.begin t (s.left t).tail with pinLog := s.pinLog ++ [(t, o)] } := by
  unfold Shared.note
  rw [if_neg (by rintro ⟨rfl, -⟩; cases h), if_pos h]

theorem note_of_ne (h : Op.isPinWrite o = false) (hread : o = .readPowerInd → t ≠ .controller) :
    Shared.note t o s = s := by
  unfold Shared.note
  rw [if_neg fun hr => hread hr.1 hr.2, if_neg (Bool.eq_false_iff.1 h)]

end Note

/-- The world may end a sleep for no reason. -/
structure Wake where
  spurious : Bool := false

/-- The statement does not block. -/
def Stmt.enabled (t : Thread) (w : Wake) (s : Shared) : Stmt → Bool
  | .lock => s.owner = none
  | .unlock | .sleep => s.owner = some t
  | .wake => s.notified || w.spurious
  | .awaitDelivery => s.deliveries ≠ 0
  | _ => true

def Stmt.effect (t : Thread) (s : Shared) : (o : Stmt) → o.Res × Shared
  | .plain o =>
    let (r, data) := o.exec { powerInd := fun _ => indication s.active } s.data
    (r, Shared.note t o { s with data := data })
  | .enter request =>
    ((), { s.begin t request.pinWrites with operations := s.operations ++ [request] })
  | .lock => ((), { s with owner := some t })
  | .unlock => ((), { s with owner := none })
  | .powerStateChanged => (s.powerStateChanged, s)
  | .setPowerStateChanged b =>
    ((), { s with powerStateChanged := b, handling := if b then s.handling else none })
  | .sleep => ((), { s with owner := none, notified := false })
  | .wake => ((), s)
  | .notifyAll => ((), { s with notified := true })
  | .awaitDelivery => ((), { s with deliveries := s.deliveries - 1 })

def Stmt.exec (t : Thread) (w : Wake) (o : Stmt) (s : Shared) : Option (o.Res × Shared) :=
  if o.enabled t w s then some (o.effect t s) else none

theorem exec_eq_some {t : Thread} {w : Wake} {o : Stmt} {s s' : Shared} {r : o.Res}
    (h : o.exec t w s = some (r, s')) :
    o.enabled t w s = true ∧ r = (o.effect t s).1 ∧ s' = (o.effect t s).2 := by
  obtain ⟨henabled, heffect⟩ := Option.ite_none_right_eq_some.1 h
  exact ⟨henabled, Threads.reply_eq heffect⟩

/-- The level of the indication pin changes. -/
inductive Env where
  | toggle
  deriving DecidableEq, Repr

def Env.exec : Env → Shared → Shared
  | .toggle, s => { s with active := !s.active, deliveries := s.deliveries + 1 }

def threads : Threads Thread Stmt Stmt.Res Shared Wake Thread.Ret Thread.Ask Env where
  exec t o w s := o.exec t w s
  entry t a d := some (t.code a d)
  env e s := some (e.exec s)

abbrev Config := Threads.Config Stmt Stmt.Res Shared Thread.Ret

abbrev Act := Threads.Act Wake Thread.Ask Env

def Thread.start : (t : Thread) → t.Ret
  | .caller | .isr => ()
  | .controller => .whileTrue

/-- The threads have not begun, and the pin has the given level. -/
def threads.init (active : Bool) (d : Data) : Config :=
  ⟨{ data := d, active := active }, fun t => .ret t.start⟩

/-- `n` statements of one thread in a row. -/
def steps (t : Thread) (n : ℕ) : List Act := List.replicate n (.run t {})

end ControllerThreads

end SgmDevice
