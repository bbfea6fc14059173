import SgmDevice.Sink.PppConnection

/-!
# The threads of a `PppConnection`

A user thread that calls `connect()` and `disconnect()` in any order and the monitor thread started
by the constructor.  At any time another process may set the CMUX flag, and callbacks may be
registered.

* `statements`: one step is one statement, and the two mutexes are taken and given back where the
  lock guards of the source stand.
* `calls`: one step is one statement of a caller or one whole tick; the mutexes are left out.
-/

namespace SgmDevice

namespace PppConnection

open Concurrency

inductive Thread where
  | user
  | monitor
  deriving DecidableEq, Repr

/-- The calls of the user thread. -/
inductive UserCall where
  | connect
  | disconnect
  deriving DecidableEq, Repr

/-- What happens besides the two threads. -/
inductive Env where
  | setCmuxReady (flag : Bool)
  | registerUserCallback (netCallback : NetworkStatusCallback)
  deriving DecidableEq, Repr

def Env.exec : Env → Data → Data
  | .setCmuxReady flag, d => { d with isCmuxReady := flag }
  | .registerUserCallback netCallback, d => PppConnection.registerUserCallback netCallback d

/-- The user thread returns the network status of its last call. -/
@[reducible] def Thread.Ret : Thread → Type
  | .user => Option NetworkStatus
  | .monitor => MonitorPoint

@[reducible] def Thread.Ask : Thread → Type
  | .user => UserCall
  | .monitor => Unit

def UserCall.code : UserCall → Program Call Call.Res (Option NetworkStatus)
  | .connect => PppConnection.connect >>= fun status => .ret (some status)
  | .disconnect => PppConnection.disconnect >>= fun status => .ret (some status)

/-- What a thread runs next after it has returned. -/
def Thread.code : (t : Thread) → t.Ret → t.Ask → Option (Program Call Call.Res t.Ret)
  | .user, _, d => some d.code
  | .monitor, point, _ => powerMonitorThread point

/-- Before its first call a thread stands where a return would leave it. -/
def Thread.start : (t : Thread) → t.Ret
  | .user => none
  | .monitor => .start

/-! ## Whole ticks -/

def calls : Threads Thread Call Call.Res Data World Thread.Ret Thread.Ask Env where
  exec _ c w d := some (c.exec w d)
  entry := Thread.code
  env e d := some (e.exec d)

/-- The object has been constructed while the CMUX flag read `flag`. -/
def calls.init (flag : Bool) : Threads.Config Call Call.Res Data Thread.Ret :=
  ⟨{ isCmuxReady := flag }, fun t => .ret t.start⟩

/-! ## Single statements -/

/-- What a statement does with the mutexes. -/
def Op.mutexUse : Op → MutexUse Mutex
  | .lock m => .take m
  | .unlock m => .give m
  | .sleep => .give .itsMonitoringMutex
  | _ => .keep

/-- The data and the owners of the mutexes. -/
structure Shared where
  data : Data
  owner : Mutex → Option Thread

def statements : Threads Thread Op Op.Res Shared World Thread.Ret Thread.Ask Env where
  exec t o w s := (o.mutexUse.exec s.owner t).map fun owner =>
    ((o.exec w s.data).1, ⟨(o.exec w s.data).2, owner⟩)
  entry t a d := (t.code a d).map (Program.interp Call.inline)
  env e s := some { s with data := e.exec s.data }

def statements.init (flag : Bool) : Threads.Config Op Op.Res Shared Thread.Ret :=
  ⟨⟨{ isCmuxReady := flag }, fun _ => none⟩, fun t => .ret t.start⟩

abbrev Act := Threads.Act World Thread.Ask Env

/-- `n` statements of one thread in a row, in which nothing fails. -/
def steps (t : Thread) (n : ℕ) : List Act := List.replicate n (.run t {})

end PppConnection

end SgmDevice
