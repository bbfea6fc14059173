import SgmDevice.Concurrency.LockOrder
import SgmDevice.PowerMgr.PowerManager

/-!
# The process of the power manager

Its three threads with all the mutexes they take, `run()` being the one of `main`:

| thread | mutexes, each inside the one before it |
|---|---|
| `run` | `eventMutex`, `processingMutex`, the one of the segment |
| `controller` | `itsLockingMutex`, and in it the one of the segment and then `eventMutex` |
| `isr` | `itsLockingMutex` |

A step is one statement.  Whatever the indication pin does and whenever a wait wakes up, nobody is
blocked for good (`never_blocked`), and the flags of the segment and `powerStateChanged` are never
accessed by two threads at once (`accesses_exclusive`).
-/

namespace SgmDevice

namespace PowerProcess

open Concurrency PowerMgr ModemPowerController PowerManager

inductive Thread where
  | run
  | controller
  | isr
  deriving DecidableEq, Repr

/-- The mutexes: members of the two objects, and the one in shared memory. -/
inductive Lock where
  | member (m : Mutex)
  | segment
  deriving DecidableEq, Repr

instance : Fintype Lock where
  elems := {.member .itsLockingMutex, .member .eventMutex, .member .processingMutex, .segment}
  complete l := by
    obtain (_ | _ | _) | _ := l <;> decide

/-- The order in which the threads take them. -/
def Lock.rank : Lock → ℕ
  | .member .itsLockingMutex => 0
  | .member .eventMutex => 1
  | .member .processingMutex => 2
  | .segment => 3

instance : Preorder Lock := Preorder.lift Lock.rank

theorem Lock.lt_iff {l l' : Lock} : l < l' ↔ l.rank < l'.rank := Iff.rfl

/-- A statement of the threads. -/
inductive Stmt where
  | plain (o : Op)
  | powerStateChanged
  | setPowerStateChanged (b : Bool)
  /-- A wait gives its mutex back and sleeps. -/
  | sleep (m : Mutex)
  /-- The sleep ends. -/
  | wake (m : Mutex)
  /-- `itsCondVar.notify_all()` of the controller. -/
  | notifyController
  /-- The next change of the pin is delivered. -/
  | awaitDelivery
  deriving DecidableEq, Repr

@[reducible] def Stmt.Res : Stmt → Type
  | .plain o => o.Res
  | .powerStateChanged => Bool
  | _ => Unit

abbrev perform (o : Stmt) : Program Stmt Stmt.Res o.Res := Program.perform o

/-- The statements of a method. -/
def method {α : Type} (p : Program Op Op.Res α) : Program Stmt Stmt.Res α :=
  p.interp fun o => Program.perform (Stmt.plain o)

abbrev lock (m : Mutex) : Program Stmt Stmt.Res Unit := perform (.plain (.lock m))

abbrev unlock (m : Mutex) : Program Stmt Stmt.Res Unit := perform (.plain (.unlock m))

/-! ## The threads -/

/-- Where a thread goes on: at its start, at the top of its loop, or in the wait of the loop. -/
inductive Point where
  | start
  | whileTrue
  | asleep
  deriving DecidableEq, Repr

/-- The round of `run()`, under both of its mutexes. -/
def runRound : Program Stmt Stmt.Res Point := do
  method processRound
  unlock .processingMutex
  unlock .eventMutex
  return .whileTrue

/-- `run()`. -/
def runThread : Point → Program Stmt Stmt.Res Point
  | .start => do
    method determineInitialConditions
    let _ ← method turnOn
    return .whileTrue
  | .whileTrue => do
    lock .eventMutex
    perform (.sleep .eventMutex)
    return .asleep
  | .asleep => do
    perform (.wake .eventMutex)
    lock .eventMutex
    lock .processingMutex
    runRound

def controllerBody : Program Stmt Stmt.Res Point := do
  method (powerIndChangeHandler onPowerIndChange)
  perform (.setPowerStateChanged false)
  unlock .itsLockingMutex
  return .whileTrue

/-- The test of the wait of `operator()()`, and what follows it. -/
def controllerTest : Program Stmt Stmt.Res Point := do
  let changed ← perform .powerStateChanged
  if changed then controllerBody
  else do
    perform (.sleep .itsLockingMutex)
    return .asleep

/-- `operator()()`. -/
def controllerThread : Point → Program Stmt Stmt.Res Point
  | .start | .whileTrue => do
    lock .itsLockingMutex
    controllerTest
  | .asleep => do
    perform (.wake .itsLockingMutex)
    lock .itsLockingMutex
    controllerTest

def powerIndicationIsr : Program Stmt Stmt.Res Point := do
  perform .awaitDelivery
  lock .itsLockingMutex
  perform (.setPowerStateChanged true)
  unlock .itsLockingMutex
  perform .notifyController
  return .whileTrue

def Thread.code : Thread → Point → Program Stmt Stmt.Res Point
  | .run, point => runThread point
  | .controller, point => controllerThread point
  | .isr, _ => powerIndicationIsr

/-! ## What the statements do -/

structure Shared where
  data : Data
  powerStateChanged : Bool := false
  /-- The thread that sleeps with this mutex has been notified. -/
  notified : Mutex → Bool := fun _ => false
  /-- The indication pin says that the modem is on. -/
  active : Bool
  /-- The changes of the pin that have not been delivered yet. -/
  deliveries : ℕ := 0
  owner : Lock → Option Thread := fun _ => none

/-- What the world decides about one statement. -/
structure Choice where
  /-- A sleep ends for no reason. -/
  spurious : Bool := false
  /-- What the CMUX driver returns. -/
  cmuxTurnOn : ICMuxDriver.Result := .muxOn

def Stmt.mutexUse : Stmt → MutexUse Lock
  | .plain (.lock m) => .take (.member m)
  | .plain (.unlock m) => .give (.member m)
  | .plain .startAccess => .take .segment
  | .plain .endAccess => .give .segment
  | .sleep m => .give (.member m)
  | _ => .keep

/-- The statement does not wait for a notification or a delivery. -/
def Stmt.enabled (w : Choice) (s : Shared) : Stmt → Bool
  | .wake m => s.notified m || w.spurious
  | .awaitDelivery => s.deliveries ≠ 0
  | _ => true

def Stmt.effect (w : Choice) (s : Shared) : (o : Stmt) → o.Res × Shared
  | .plain o =>
    let reading := if s.active then MODEM_IND_POWER_ON else MODEM_IND_POWER_OFF
    let (r, data) :=
      o.exec { powerInd := fun _ => reading, cmuxTurnOn := fun _ => w.cmuxTurnOn } s.data
    let notified :=
      if o = .notifyAll then Function.update s.notified .eventMutex true else s.notified
    (r, { s with data, notified })
  | .powerStateChanged => (s.powerStateChanged, s)
  | .setPowerStateChanged b => ((), { s with powerStateChanged := b })
  | .sleep m => ((), { s with notified := Function.update s.notified m false })
  | .wake _ => ((), s)
  | .notifyController =>
    ((), { s with notified := Function.update s.notified .itsLockingMutex true })
  | .awaitDelivery => ((), { s with deliveries := s.deliveries - 1 })

def Stmt.exec (t : Thread) (w : Choice) (o : Stmt) (s : Shared) : Option (o.Res × Shared) :=
  if o.enabled w s then
    (o.mutexUse.exec s.owner t).map fun owner =>
      ((o.effect w s).1, { (o.effect w s).2 with owner })
  else none

/-- The level of the indication pin changes. -/
inductive Env where
  | toggle
  deriving DecidableEq, Repr

def Env.exec : Env → Shared → Shared
  | .toggle, s => { s with active := !s.active, deliveries := s.deliveries + 1 }

def threads : Threads Thread Stmt Stmt.Res Shared Choice (fun _ => Point) (fun _ => Unit) Env where
  exec t o w s := o.exec t w s
  entry t point _ := some (t.code point)
  env e s := some (e.exec s)

abbrev Config := Threads.Config Stmt Stmt.Res Shared (fun _ : Thread => Point)

abbrev Act := Threads.Act Choice (fun _ : Thread => Unit) Env

/-- `run()` is called behind the constructors, and the pin has the given level. -/
def threads.init (active : Bool) (d : Data) : Config :=
  ⟨{ data := d, active }, fun _ => .ret .start⟩

end PowerProcess

end SgmDevice
