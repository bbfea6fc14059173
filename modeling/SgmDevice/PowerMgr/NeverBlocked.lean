import SgmDevice.PowerMgr.ProcessThreads

/-!
# Nobody is blocked for good

All threads of the power manager take their mutexes in the order of `Lock.rank`, and a thread that
sleeps or waits for a delivery owns none.  So a thread that is at the point of taking a mutex always
gets it when the others go on (`never_blocked`), unlike in a `PppConnection`.  The flags of the
segment are set under its mutex only and `powerStateChanged` under `itsLockingMutex`, so they are
never accessed by two threads at once (`accesses_exclusive`).
-/

namespace SgmDevice

namespace PowerProcess

open Concurrency PowerMgr ModemPowerController PowerManager

/-- Members that several threads access. -/
inductive Member where
  | isModemReady
  | isCmuxReady
  | powerStateChanged
  deriving DecidableEq, Repr

def Stmt.accesses : Stmt → Option Member
  | .plain (.setModemReady _) => some .isModemReady
  | .plain (.setCmuxReady _) => some .isCmuxReady
  | .powerStateChanged | .setPowerStateChanged _ => some .powerStateChanged
  | _ => none

def Member.guard : Member → Lock
  | .isModemReady | .isCmuxReady => .segment
  | .powerStateChanged => .member .itsLockingMutex

/-- The statements that wait for something else than a mutex. -/
def Stmt.Idles : Stmt → Prop
  | .wake _ | .awaitDelivery => True
  | _ => False

/-! ## The rules for the three threads -/

theorem exec_isSome_iff {t : Thread} {w : Choice} {o : Stmt} {s : Shared} :
    (o.exec t w s).isSome ↔ o.enabled w s = true ∧ (o.mutexUse.exec s.owner t).isSome := by
  unfold Stmt.exec
  split_ifs with h <;> simp [h]

def locking : Locking threads Lock where
  use := Stmt.mutexUse
  own s := s.owner
  Idles := Stmt.Idles
  guards o := (o.accesses.map Member.guard).toFinset
  exec_own t o w s r s' h := by
    obtain ⟨-, howner⟩ := Option.ite_none_right_eq_some.1 h
    obtain ⟨owner, huse, hs⟩ := Option.map_eq_some_iff.1 howner
    cases hs
    exact huse
  exec_isSome t o s hidle huse := by
    refine ⟨{}, exec_isSome_iff.2 ⟨?_, huse⟩⟩
    cases o with
    | wake m => exact absurd trivial hidle
    | awaitDelivery => exact absurd trivial hidle
    | _ => rfl
  env_own e s s' h := by
    cases h
    cases e
    rfl

/-- What a statement asks of the mutexes `g` that its thread owns. -/
def Stmt.Allowed (g : Finset Lock) (o : Stmt) : Prop :=
  (o.Idles → g = ∅) ∧ (∀ m, o.accesses = some m → m.guard ∈ g) ∧ o.mutexUse.InOrder g

section Rules

variable {α : Type} {post : Finset Lock → α → Prop} {g : Finset Lock}

theorem safe_stmt_iff {o : Stmt} {k : o.Res → Program Stmt Stmt.Res α} :
    (Program.op o k).Safe (locking.rules post) g ↔
      o.Allowed g ∧ ∀ r, (k r).Safe (locking.rules post) (o.mutexUse.move g) := by
  have hguards : locking.guards o ⊆ g ↔ ∀ m, o.accesses = some m → m.guard ∈ g := by
    change (o.accesses.map Member.guard).toFinset ⊆ g ↔ _
    cases o.accesses <;> simp
  rw [Locking.safe_op_iff, hguards]
  rfl

end Rules

/-! ## The methods

Each of them ends with the mutexes that it begins with. -/

section Methods

-- what a program asks of the mutexes, statement by statement
attribute [local simp] method Program.perform safe_stmt_iff Stmt.Allowed Stmt.Idles Stmt.accesses
  Member.guard Stmt.mutexUse MutexUse.InOrder MutexUse.move Lock.lt_iff Lock.rank

theorem determineInitialConditions_keeps :
    (method determineInitialConditions).Safe (locking.rules fun g _ => g = ∅) ∅ := by
  simp [determineInitialConditions]
  intro st storedPowerState
  cases initialDeviceState storedPowerState.get <;> simp

theorem processIncomingEvent_keeps (ev : Event) :
    (method (processIncomingEvent ev)).Safe
      (locking.rules fun g _ => g = {.member .processingMutex, .member .eventMutex})
      {.member .processingMutex, .member .eventMutex} := by
  cases ev <;> simp [processIncomingEvent]

theorem onPowerIndChange_keeps :
    (method onPowerIndChange).Safe (locking.rules fun g _ => g = {.member .itsLockingMutex})
      {.member .itsLockingMutex} := by
  simp [onPowerIndChange]

theorem powerIndChangeHandler_keeps :
    (method (powerIndChangeHandler onPowerIndChange)).Safe
      (locking.rules fun g _ => g = {.member .itsLockingMutex}) {.member .itsLockingMutex} := by
  have hcallback := onPowerIndChange_keeps
  simp only [method, Program.perform] at hcallback
  simp [powerIndChangeHandler, hcallback]

theorem processRound_keeps :
    (method processRound).Safe
      (locking.rules fun g _ => g = {.member .processingMutex, .member .eventMutex})
      {.member .processingMutex, .member .eventMutex} := by
  have hevent := processIncomingEvent_keeps
  simp only [method, Program.perform] at hevent
  simp [processRound, hevent]

/-! ## The threads -/

theorem runRound_ordered :
    runRound.Safe (locking.contract .run) {.member .processingMutex, .member .eventMutex} := by
  refine Locking.safe_bind processRound_keeps ?_
  rintro - g rfl
  simp

theorem runThread_ordered (point : Point) :
    (runThread point).Safe (locking.contract .run) ∅ := by
  cases point with
  | start =>
    refine Locking.safe_bind determineInitialConditions_keeps ?_
    rintro - g rfl
    simp [turnOn]
  | whileTrue => simp [runThread]
  | asleep => simp [runThread, runRound_ordered]

theorem controllerBody_ordered :
    controllerBody.Safe (locking.contract .controller) {.member .itsLockingMutex} := by
  refine Locking.safe_bind powerIndChangeHandler_keeps ?_
  rintro - g rfl
  simp

theorem controllerTest_ordered :
    controllerTest.Safe (locking.contract .controller) {.member .itsLockingMutex} := by
  simp [controllerTest, controllerBody_ordered]

theorem controllerThread_ordered (point : Point) :
    (controllerThread point).Safe (locking.contract .controller) ∅ := by
  have htest := controllerTest_ordered
  cases point <;> simp [controllerThread, htest]

theorem powerIndicationIsr_ordered :
    powerIndicationIsr.Safe (locking.contract .isr) ∅ := by
  simp [powerIndicationIsr]

end Methods

theorem ordered : locking.Ordered := by
  intro t point _ p h
  cases h
  cases t with
  | run => exact runThread_ordered point
  | controller => exact controllerThread_ordered point
  | isr => exact powerIndicationIsr_ordered

theorem init_safe (active : Bool) (d : Data) : locking.Safe (threads.init active d) := by
  intro t
  have hnone : held (locking.own (threads.init active d).shared) t = ∅ := by
    cases t <;> rfl
  exact hnone

/-! ## Runs -/

/-- A thread that is at the point of taking a mutex gets it if the others go on. -/
def NeverBlocked (c : Config) : Prop :=
  ∀ t m, locking.Takes c t m → Locking.Unblocked threads c t

/-- A thread that is at an access of a member owns its mutex. -/
def Guarded (c : Config) : Prop :=
  ∀ t o m, (c.prog t).next = some o → o.accesses = some m → c.shared.owner m.guard = some t

/-- No two threads are at accesses of one member. -/
def Exclusive (c : Config) : Prop :=
  ∀ t t' o o', t ≠ t' → (c.prog t).next = some o → (c.prog t').next = some o' →
    ∀ m, o.accesses = some m → o'.accesses ≠ some m

theorem always_safe (active : Bool) (d : Data) (acts : List Act) :
    threads.system.Always (threads.init active d) acts locking.Safe :=
  System.always_of_invariant (fun _ _ _ safe hs => safe.step ordered hs) (init_safe active d) acts

theorem never_blocked (active : Bool) (d : Data) (acts : List Act) :
    threads.system.Always (threads.init active d) acts NeverBlocked :=
  (always_safe active d acts).mono fun _ safe _ _ htakes => Locking.unblocked ordered safe htakes

theorem guard_mem_guards {o : Stmt} {m : Member} (h : o.accesses = some m) :
    m.guard ∈ locking.guards o := by
  change m.guard ∈ (o.accesses.map Member.guard).toFinset
  rw [h]
  simp

/-- Every access finds its mutex in the hands of its own thread, and so in nobody else's. -/
theorem accesses_exclusive (active : Bool) (d : Data) (acts : List Act) :
    threads.system.Always (threads.init active d) acts fun c => Guarded c ∧ Exclusive c := by
  refine (always_safe active d acts).mono fun c safe => ⟨fun t o m hnext hm => ?_, ?_⟩
  · exact Locking.owned safe hnext (guard_mem_guards hm)
  · intro t t' o o' hne hnext hnext' m hm hm'
    have hdisjoint := Locking.exclusive safe hne hnext hnext'
    exact Finset.disjoint_left.1 hdisjoint (guard_mem_guards hm) (guard_mem_guards hm')

end PowerProcess

end SgmDevice
