import SgmDevice.Concurrency.Threads

/-!
# `SharedMemory`

The segment that the processes share, and `SharedMemory::init()` with one step for each system call
and each statement of `initData()`.  The statics of the class are per process; the segment belongs
to nobody and is never removed.
-/

namespace SgmDevice

open Concurrency

/-- What is in the place of the mutex: zeroes, the static initializer, or a mutex that processes
may share. -/
inductive PthreadMutex where
  | zeroes
  | initializer
  | processShared
  deriving DecidableEq, Repr

/-- `SGMShared_t`. -/
structure SGMShared where
  mutex : PthreadMutex := .zeroes
  isModemReady : Bool := false
  isCmuxReady : Bool := false
  isNetworkReady : Bool := false
  deriving DecidableEq, Repr

namespace SharedMemory

inductive Result where
  | initOk
  | initError
  deriving DecidableEq, Repr

inductive Errno where
  | eexist
  | other
  deriving DecidableEq, Repr

/-- The statements of `initData()` that write to the segment. -/
inductive InitStatement where
  | assignMutex
  | mutexInit
  | clearModemReady
  | clearCmuxReady
  deriving DecidableEq, Repr

inductive Op where
  /-- `if(isInitialized)` at the entry. -/
  | alreadyInitialized
  /-- `if (!isInitialized)` behind the mapping. -/
  | attached
  | setInitialized
  /-- `fileDescriptor = shm_open(…)`, with or without `O_EXCL`; the reply is `errno`. -/
  | shmOpen (excl : Bool)
  | fileDescriptor
  | ftruncate
  | mmap
  | setData
  | initData (st : InitStatement)
  deriving DecidableEq, Repr

@[reducible] def Op.Res : Op → Type
  | .alreadyInitialized | .attached => Bool
  | .shmOpen _ => Option Errno
  | .fileDescriptor | .ftruncate | .mmap => Int
  | _ => Unit

abbrev stmt (o : Op) : Program Op Op.Res o.Res := Program.perform o

def initData : Program Op Op.Res Unit := do
  stmt (.initData .assignMutex)
  stmt (.initData .mutexInit)
  stmt (.initData .clearModemReady)
  stmt (.initData .clearCmuxReady)

/-- `init()` from the test of the descriptor on. -/
def mapAndInit : Program Op Op.Res Result := do
  let fileDescriptor ← stmt .fileDescriptor
  if fileDescriptor = -1 then return .initError
  else do
    let truncated ← stmt .ftruncate
    if truncated = -1 then return .initError
    else do
      let mappedMem ← stmt .mmap
      if mappedMem = -1 then return .initError
      else do
        stmt .setData
        let isInitialized ← stmt .attached
        if isInitialized then return .initOk
        else do
          initData
          return .initOk

def init : Program Op Op.Res Result := do
  let isInitialized ← stmt .alreadyInitialized
  if isInitialized then return .initError
  else do
    let errno ← stmt (.shmOpen true)
    match errno with
    | none => mapAndInit
    | some .eexist => do
      let _ ← stmt (.shmOpen false)
      stmt .setInitialized
      mapAndInit
    | some .other => return .initError

/-! ## The segment and the processes -/

/-- The segment since its creation by `creator`. -/
structure Segment (ι : Type) where
  creator : ι
  memory : SGMShared := {}
  /-- How many times `initData()` was begun and completed. -/
  begun : ℕ := 0
  completed : ℕ := 0
  deriving DecidableEq, Repr

/-- The statics of the class in one process. -/
structure Process where
  isInitialized : Bool := false
  fileDescriptor : Int := -1
  /-- The descriptors of the process that are open. -/
  descriptors : List ℕ := []
  /-- `sharedDataInstance` points to the segment. -/
  mapped : Bool := false
  deriving DecidableEq, Repr

structure State (ι : Type) where
  segment : Option (Segment ι) := none
  process : ι → Process := fun _ => {}

/-- What the world decides about a system call: that it fails, or the descriptor it returns. -/
structure World where
  fails : Bool := false
  descriptor : ℕ := 3
  deriving DecidableEq, Repr

def InitStatement.exec {ι : Type} (st : InitStatement) (seg : Segment ι) : Segment ι :=
  match st with
  | .assignMutex =>
    { seg with memory := { seg.memory with mutex := .initializer }, begun := seg.begun + 1 }
  | .mutexInit => { seg with memory := { seg.memory with mutex := .processShared } }
  | .clearModemReady => { seg with memory := { seg.memory with isModemReady := false } }
  | .clearCmuxReady =>
    { seg with
      memory := { seg.memory with isCmuxReady := false }
      completed := seg.completed + 1 }

section Exec

variable {ι : Type} [DecidableEq ι]

def State.setProcess (s : State ι) (i : ι) (p : Process) : State ι :=
  { s with process := Function.update s.process i p }

/-- `shm_open`: without `O_EXCL` an existing segment is opened. -/
def shmOpen (i : ι) (excl : Bool) (w : World) (s : State ι) : Option Errno × State ι :=
  let failed := s.setProcess i { s.process i with fileDescriptor := -1 }
  let opened := s.setProcess i { s.process i with
    fileDescriptor := w.descriptor
    descriptors := w.descriptor :: (s.process i).descriptors }
  if w.fails then (some .other, failed)
  else
    match s.segment with
    | none => (none, { opened with segment := some { creator := i } })
    | some _ => if excl then (some .eexist, failed) else (none, opened)

def Op.exec (i : ι) (w : World) : (o : Op) → State ι → o.Res × State ι
  | .alreadyInitialized, s | .attached, s => ((s.process i).isInitialized, s)
  | .setInitialized, s => ((), s.setProcess i { s.process i with isInitialized := true })
  | .shmOpen excl, s => SharedMemory.shmOpen i excl w s
  | .fileDescriptor, s => ((s.process i).fileDescriptor, s)
  | .ftruncate, s | .mmap, s => (if w.fails then -1 else 0, s)
  | .setData, s => ((), s.setProcess i { s.process i with mapped := true })
  | .initData st, s => ((), { s with segment := s.segment.map st.exec })

/-- Any processes, each of which calls `init()` any number of times. -/
def processes : Threads ι Op Op.Res (State ι) World (fun _ => Option Result) (fun _ => Unit)
    Empty where
  exec i o w s := some (o.exec i w s)
  entry _ _ _ := some (init >>= fun result => .ret (some result))
  env e := e.elim

/-- No segment yet, and no call made. -/
def processes.init : Threads.Config Op Op.Res (State ι) fun _ : ι => Option Result :=
  ⟨{}, fun _ => .ret none⟩

end Exec

end SharedMemory

end SgmDevice
