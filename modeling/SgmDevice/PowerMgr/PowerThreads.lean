import SgmDevice.PowerMgr.PowerManager
import SgmDevice.Concurrency.Transition

/-!
# The two threads of the power manager

`run()` stores the first power state without a lock and later waits without a predicate, so a power
change can be missed in two places: its store can be overwritten by the older first one, and its
`notify_all` can come while `run()` is not blocked in the wait.  `HeardInTime` excludes both, and
then no change is lost; each excluded step leads to a loss (`no_change_lost`).

A step is one access to what the threads share.  The device state belongs to `run()` alone, so the
`switch` of `determineInitialConditions` and a whole `processIncomingEvent` are one step each.
-/

namespace SgmDevice

namespace PowerManager

open Concurrency PowerMgr ModemPowerController

inductive Thread where
  | run
  | controller
  deriving DecidableEq, Repr

/-- Where `run()` goes on. -/
inductive RunPoint where
  | getPowerState
  | store (powerState : PowerState)
  | initialState
  | turnOn
  | whileTrue
  | wait
  /-- In the wait, with no wake-up pending. -/
  | blocked
  /-- In the wait, to take `eventMutex` again. -/
  | woken
  | compute
  | process (ev : Event)
  | unlock
  deriving DecidableEq, Repr

/-- Where the controller thread goes on inside `onPowerIndChange`. -/
inductive ControllerPoint where
  | idle
  | getPowerState
  | lock (currentPowerState : PowerState)
  | store (currentPowerState : PowerState)
  | hasChanged
  | unlock (changed : Bool)
  | notify
  deriving DecidableEq, Repr

structure State where
  data : Data
  run : RunPoint := .getPowerState
  controller : ControllerPoint := .idle
  eventMutex : Option Thread := none
  deriving DecidableEq, Repr

inductive Act where
  | run
  | controller
  /-- The controller handles an indication and calls `onPowerIndChange`. -/
  | indication
  | spuriousWakeUp
  deriving DecidableEq, Repr

/-- The data after the `switch` of `determineInitialConditions`. -/
def setInitialState (d : Data) : Data :=
  match initialDeviceState d.storedPowerState.get with
  | some st => { d with itsDeviceState := d.itsDeviceState.set st }
  | none => d

def storePowerState (st : PowerState) (d : Data) : Data :=
  { d with storedPowerState := d.storedPowerState.set st }

def runStep (w : World) (s : State) : Option State :=
  match s.run with
  | .getPowerState => some { s with run := .store s.data.itsPowerState }
  | .store st => some { s with data := storePowerState st s.data, run := .initialState }
  | .initialState => some { s with data := setInitialState s.data, run := .turnOn }
  | .turnOn => some { s with data := PowerMgr.run w turnOn s.data, run := .whileTrue }
  | .whileTrue =>
    if s.eventMutex = none then some { s with eventMutex := some .run, run := .wait } else none
  | .wait => some { s with eventMutex := none, run := .blocked }
  | .blocked => none
  | .woken =>
    if s.eventMutex = none then some { s with eventMutex := some .run, run := .compute } else none
  | .compute =>
    some { s with run := .process (computeEvent s.data.itsDeviceState s.data.storedPowerState) }
  | .process ev =>
    some { s with data := PowerMgr.run w (processIncomingEvent ev) s.data, run := .unlock }
  | .unlock => some { s with eventMutex := none, run := .whileTrue }

/-- `notify_all` wakes only a thread that is blocked. -/
def RunPoint.notified : RunPoint → RunPoint
  | .blocked => .woken
  | point => point

def controllerStep (s : State) : Option State :=
  match s.controller with
  | .idle => none
  | .getPowerState => some { s with controller := .lock s.data.itsPowerState }
  | .lock st =>
    if s.eventMutex = none then
      some { s with eventMutex := some .controller, controller := .store st }
    else none
  | .store st => some { s with data := storePowerState st s.data, controller := .hasChanged }
  | .hasChanged => some { s with controller := .unlock s.data.storedPowerState.hasChanged }
  | .unlock changed =>
    some { s with eventMutex := none, controller := if changed then .notify else .idle }
  | .notify => some { s with run := s.run.notified, controller := .idle }

def threads (w : World) : System State Act where
  step s
    | .run => runStep w s
    | .controller => controllerStep s
    | .indication =>
      if s.controller = .idle then
        some { s with
          data := PowerMgr.run w (powerIndChangeHandler (.ret ())) s.data
          controller := .getPowerState }
      else none
    | .spuriousWakeUp => if s.run = .blocked then some { s with run := .woken } else none

/-- The objects are constructed and the controller thread has been started. -/
def threads.init (st : PowerState) : State := { data := { itsPowerState := st } }

/-- `computeEvent()` would have the modem switched. -/
def Due (d : Data) : Prop :=
  computeEvent d.itsDeviceState d.storedPowerState = .asyncTurnOn ∨
    computeEvent d.itsDeviceState d.storedPowerState = .asyncTurnOff

instance (d : Data) : Decidable (Due d) := inferInstanceAs (Decidable (_ ∨ _))

/-- While `run()` is blocked and no change is being reported, the stored power state is the present
one and nothing is left to do. -/
def NoChangeLost (s : State) : Prop :=
  s.run = .blocked → s.controller = .idle →
    s.data.storedPowerState.get = s.data.itsPowerState ∧ ¬ Due s.data

/-- The steps of the controller by which `run()` misses nothing. -/
def HeardAt (d : Data) : ControllerPoint → RunPoint → Prop
  -- the store falls between the first reading and the first store of `run()`
  | .store st, .store first => st = first
  -- the notification falls on the way of `run()` into the wait
  | .notify, .turnOn | .notify, .whileTrue | .notify, .wait => ¬ Due d
  | _, _ => True

instance (d : Data) (c : ControllerPoint) (r : RunPoint) : Decidable (HeardAt d c r) := by
  cases c <;> cases r <;> first
    | exact .isTrue trivial
    | exact inferInstanceAs (Decidable (_ = _))
    | exact inferInstanceAs (Decidable (¬ Due d))

def HeardInTime (s : State) : Act → Prop
  | .controller => HeardAt s.data s.controller s.run
  | _ => True

instance (s : State) : (a : Act) → Decidable (HeardInTime s a)
  | .controller => inferInstanceAs (Decidable (HeardAt s.data s.controller s.run))
  | .run | .indication | .spuriousWakeUp => .isTrue trivial

theorem setInitialState_powerState (d : Data) :
    (setInitialState d).itsPowerState = d.itsPowerState ∧
      (setInitialState d).storedPowerState = d.storedPowerState := by
  unfold setInitialState
  split <;> exact ⟨rfl, rfl⟩

/-! ## The methods step by step -/

section Methods

variable (w : World) (d : Data) (point : RunPoint) (controller : ControllerPoint)
  (eventMutex : Option Thread)

/-- The first three steps of `run()` are `determineInitialConditions`. -/
theorem final_determineInitialConditions :
    (threads w).final ⟨d, .getPowerState, controller, eventMutex⟩ [.run, .run, .run] =
      ⟨PowerMgr.run w determineInitialConditions d, .turnOn, controller, eventMutex⟩ := by
  have hsame : setInitialState (storePowerState d.itsPowerState d) =
      PowerMgr.run w determineInitialConditions d := by
    rw [run_determineInitialConditions]
    cases hst : d.itsPowerState <;>
      simp [setInitialState, storePowerState, initialDeviceState, hst]
  rw [← hsame]
  rfl

/-- The two steps behind a wake-up are one round. -/
theorem final_processRound :
    (threads w).final ⟨d, .compute, controller, eventMutex⟩ [.run, .run] =
      ⟨PowerMgr.run w processRound d, .unlock, controller, eventMutex⟩ := rfl

/-- The steps of the controller, taken alone, are `onPowerIndChange`. -/
theorem final_onPowerIndChange :
    ((threads w).final ⟨d, point, .getPowerState, none⟩ (List.replicate 6 .controller)).data =
      PowerMgr.run w onPowerIndChange d := by
  rw [run_onPowerIndChange]
  cases hchanged : (d.storedPowerState.set d.itsPowerState).hasChanged <;>
    simp [System.final, threads, controllerStep, storePowerState, hchanged]

end Methods

/-! ## What is due -/

/-- What there is to do tells the device state and the stored power state. -/
theorem Due.cases {d : Data} (h : Due d) :
    (d.itsDeviceState.get = .modemOff ∧ d.storedPowerState.get = .enabled) ∨
      (d.itsDeviceState.get = .modemReady ∨ d.itsDeviceState.get = .modemCmux) ∧
        (d.storedPowerState.get = .disabledPowered ∨
          d.storedPowerState.get = .disabledUnpowered) :=
  h.imp computeEvent_eq_asyncTurnOn computeEvent_eq_asyncTurnOff

/-- Nothing is due in the device state that was chosen for the stored power state. -/
theorem not_due_setInitialState {d : Data} (h : d.itsDeviceState = .make .undefined) :
    ¬ Due (setInitialState d) := by
  intro hdue
  have hcases := hdue.cases
  cases hst : d.storedPowerState.get <;>
    simp [setInitialState, initialDeviceState, hst, h] at hcases

/-- Nothing is due after the event that was due. -/
theorem not_due_process (w : World) (d : Data) :
    ¬ Due (PowerMgr.run w
      (processIncomingEvent (computeEvent d.itsDeviceState d.storedPowerState)) d) := by
  cases hev : computeEvent d.itsDeviceState d.storedPowerState with
  | asyncTurnOn =>
    obtain ⟨-, henabled⟩ := computeEvent_eq_asyncTurnOn hev
    by_cases hon : w.cmuxTurnOn d.driverCalls.length = .muxOn
    · rw [run_asyncTurnOn_muxOn w d hon]
      intro hdue
      simpa [henabled] using hdue.cases
    · rw [run_asyncTurnOn_failed w d hon]
      intro hdue
      simpa using hdue.cases
  | asyncTurnOff =>
    obtain ⟨-, hdisabled⟩ := computeEvent_eq_asyncTurnOff hev
    rw [run_asyncTurnOff]
    intro hdue
    rcases hdisabled with hst | hst <;> simpa [hst] using hdue.cases
  | none | undefined | reqTurnOn | reqTurnOff =>
    rw [run_idle w d (by decide) (by decide), Due, hev]
    decide

/-- A store that changes nothing makes nothing due. -/
theorem due_storePowerState {d : Data} {st : PowerState} (h : Due (storePowerState st d)) :
    Due d ∨ (storePowerState st d).storedPowerState.hasChanged = true := by
  by_cases hst : st = d.storedPowerState.get
  · left
    have hcongr : computeEvent d.itsDeviceState (d.storedPowerState.set st) =
        computeEvent d.itsDeviceState d.storedPowerState := computeEvent_congr hst
    rw [Due, ← hcongr]
    exact h
  · right
    simpa [storePowerState] using hst

/-! ## The invariant -/

/-- `run()` holds `eventMutex`. -/
def RunPoint.owns : RunPoint → Bool
  | .wait | .compute | .process _ | .unlock => true
  | _ => false

/-- The controller thread holds `eventMutex`. -/
def ControllerPoint.owns : ControllerPoint → Bool
  | .store _ | .hasChanged | .unlock _ => true
  | _ => false

/-- The power state that the controller has read but not stored. -/
def ControllerPoint.carried : ControllerPoint → Option PowerState
  | .lock st | .store st => some st
  | _ => none

/-- The controller has stored its latest power state. -/
def ControllerPoint.hasStored : ControllerPoint → Bool
  | .idle | .hasChanged | .unlock _ | .notify => true
  | _ => false

/-- The controller is going to notify. -/
def ControllerPoint.WillNotify (d : Data) : ControllerPoint → Prop
  | .hasChanged => d.storedPowerState.hasChanged = true
  | .unlock changed => changed = true
  | .notify => True
  | _ => False

/-- What `run()` has stored, or is about to store, is the present power state. -/
def RunPoint.UpToDate (d : Data) : RunPoint → Prop
  | .getPowerState => True
  | .store st => st = d.itsPowerState
  | _ => d.storedPowerState.get = d.itsPowerState

/-- On its way into the wait `run()` leaves nothing due that nobody will notify it of. -/
def RunPoint.Attends (d : Data) (controller : ControllerPoint) : RunPoint → Prop
  | .getPowerState | .store _ | .initialState => d.itsDeviceState = .make .undefined
  | .turnOn | .whileTrue | .wait | .blocked => Due d → controller.WillNotify d
  | .woken | .compute => True
  | .process ev => ev = computeEvent d.itsDeviceState d.storedPowerState
  | .unlock => ¬ Due d

structure Heard (s : State) : Prop where
  runOwns : s.run.owns = true → s.eventMutex = some .run
  controllerOwns : s.controller.owns = true → s.eventMutex = some .controller
  free : s.run.owns = false → s.controller.owns = false → s.eventMutex = none
  carried : ∀ st, s.controller.carried = some st → st = s.data.itsPowerState
  upToDate : s.controller.hasStored = true → s.run.UpToDate s.data
  attends : s.run.Attends s.data s.controller

theorem Heard.noChangeLost {s : State} (h : Heard s) : NoChangeLost s := by
  intro hrun hcontroller
  have hstored := h.upToDate (by rw [hcontroller]; rfl)
  have hattends := h.attends
  rw [hrun] at hstored hattends
  rw [hcontroller] at hattends
  exact ⟨hstored, hattends⟩

theorem init_heard (st : PowerState) : Heard (threads.init st) :=
  ⟨nofun, nofun, fun _ _ => rfl, nofun, fun _ => trivial, rfl⟩

theorem Heard.not_owns {s : State} (h : Heard s) (hfree : s.eventMutex = none) :
    s.controller.owns = false := by
  by_contra howns
  have hmutex := h.controllerOwns (by simpa using howns)
  rw [hfree] at hmutex
  cases hmutex

/-- The two threads do not hold the mutex at once. -/
theorem Heard.apart {s : State} (h : Heard s) (howns : s.run.owns = true) :
    s.controller.owns = false := by
  by_contra hc
  have hmutex := (h.runOwns howns).symm.trans (h.controllerOwns (by simpa using hc))
  cases hmutex

/-- `run()` takes the free mutex. -/
theorem Heard.runTakes {s : State} {point : RunPoint} (h : Heard s) (hnone : s.eventMutex = none)
    (hpoint : point.owns = true) (hup : s.controller.hasStored = true → point.UpToDate s.data)
    (hattends : point.Attends s.data s.controller) :
    Heard { s with eventMutex := some .run, run := point } := by
  have hout : s.controller.owns = false := h.not_owns hnone
  refine ⟨fun _ => rfl, fun howns => ?_, fun hnot => ?_, h.carried, hup, hattends⟩
  · exact absurd (hout.symm.trans howns) Bool.false_ne_true
  · exact absurd (hnot.symm.trans hpoint) Bool.false_ne_true

/-- `run()` gives the mutex back. -/
theorem Heard.runGives {s : State} {point : RunPoint} (h : Heard s) (howns : s.run.owns = true)
    (hpoint : point.owns = false) (hup : s.controller.hasStored = true → point.UpToDate s.data)
    (hattends : point.Attends s.data s.controller) :
    Heard { s with eventMutex := none, run := point } := by
  have hout : s.controller.owns = false := h.apart howns
  refine ⟨fun howns => ?_, fun howns => ?_, fun _ _ => rfl, h.carried, hup, hattends⟩
  · exact absurd (hpoint.symm.trans howns) Bool.false_ne_true
  · exact absurd (hout.symm.trans howns) Bool.false_ne_true

/-- `run()` goes on without touching the mutex or the power states. -/
theorem Heard.runGoesOn {s : State} {point : RunPoint} {d : Data} (h : Heard s)
    (hpower : d.itsPowerState = s.data.itsPowerState) (howns : point.owns = s.run.owns)
    (hup : s.controller.hasStored = true → point.UpToDate d)
    (hattends : point.Attends d s.controller) :
    Heard { s with data := d, run := point } := by
  refine ⟨?_, h.controllerOwns, ?_, ?_, hup, hattends⟩
  · simp only [howns]
    exact h.runOwns
  · simp only [howns]
    exact h.free
  · simp only [hpower]
    exact h.carried

/-- A step of `run()`. -/
theorem Heard.runStep {s s' : State} (h : Heard s) {w : World}
    (hs : PowerManager.runStep w s = some s') : Heard s' := by
  have hup := h.upToDate
  have hattends := h.attends
  unfold PowerManager.runStep at hs
  cases hpoint : s.run with
  | getPowerState =>
    simp only [hpoint] at hs hattends
    cases hs
    exact h.runGoesOn rfl (by rw [hpoint]; rfl) (fun _ => rfl) hattends
  | store st =>
    simp only [hpoint] at hs hup hattends
    cases hs
    exact h.runGoesOn rfl (by rw [hpoint]; rfl) hup hattends
  | initialState =>
    simp only [hpoint] at hs hup hattends
    cases hs
    obtain ⟨hpower, hsame⟩ := setInitialState_powerState s.data
    refine h.runGoesOn hpower (by rw [hpoint]; rfl) ?_
      fun hdue => absurd hdue (not_due_setInitialState hattends)
    simp only [RunPoint.UpToDate, hpower, hsame]
    exact hup
  | turnOn =>
    simp only [hpoint] at hs hup hattends
    cases hs
    exact h.runGoesOn rfl (by rw [hpoint]; rfl) hup hattends
  | whileTrue =>
    simp only [hpoint, Option.ite_none_right_eq_some] at hs hup hattends
    obtain ⟨hnone, ⟨⟩⟩ := hs
    exact h.runTakes hnone rfl hup hattends
  | wait =>
    simp only [hpoint] at hs hup hattends
    cases hs
    exact h.runGives (by rw [hpoint]; rfl) rfl hup hattends
  | blocked =>
    simp only [hpoint] at hs
    cases hs
  | woken =>
    simp only [hpoint, Option.ite_none_right_eq_some] at hs hup
    obtain ⟨hnone, ⟨⟩⟩ := hs
    exact h.runTakes hnone rfl hup trivial
  | compute =>
    simp only [hpoint] at hs hup
    cases hs
    exact h.runGoesOn rfl (by rw [hpoint]; rfl) hup rfl
  | process ev =>
    simp only [hpoint] at hs hup hattends
    cases hs
    obtain ⟨hpower, hsame⟩ := run_processIncomingEvent_powerState w s.data ev
    refine h.runGoesOn hpower (by rw [hpoint]; rfl) ?_ ?_
    · simp only [RunPoint.UpToDate, hpower, hsame]
      exact hup
    · rw [show ev = _ from hattends]
      exact not_due_process w s.data
  | unlock =>
    simp only [hpoint] at hs hup hattends
    cases hs
    exact h.runGives (by rw [hpoint]; rfl) rfl hup fun hdue => absurd hdue hattends

theorem RunPoint.owns_notified (point : RunPoint) : point.notified.owns = point.owns := by
  cases point <;> rfl

theorem RunPoint.upToDate_notified (point : RunPoint) (d : Data) :
    point.notified.UpToDate d ↔ point.UpToDate d := by
  cases point <;> rfl

theorem RunPoint.Attends.mono {d : Data} {c c' : ControllerPoint} {point : RunPoint}
    (h : point.Attends d c) (hc : c.WillNotify d → c'.WillNotify d) : point.Attends d c' := by
  cases point
  case turnOn | whileTrue | wait | blocked => exact fun hdue => hc (h hdue)
  all_goals exact h

/-- The controller reads the power state. -/
theorem Heard.getPowerState {s : State} (h : Heard s) (hpoint : s.controller = .getPowerState) :
    Heard { s with controller := .lock s.data.itsPowerState } := by
  obtain ⟨hrun, -, hfree, -, -, hattends⟩ := h
  rw [hpoint] at hfree hattends
  refine ⟨hrun, nofun, hfree, ?_, nofun, hattends⟩
  rintro st ⟨⟩
  rfl

/-- The controller takes the free mutex. -/
theorem Heard.lock {s : State} {st : PowerState} (h : Heard s) (hnone : s.eventMutex = none)
    (hpoint : s.controller = .lock st) :
    Heard { s with eventMutex := some .controller, controller := .store st } := by
  obtain ⟨hrun, -, -, hcarried, -, hattends⟩ := h
  rw [hpoint] at hcarried hattends
  refine ⟨fun howns => ?_, fun _ => rfl, fun _ => nofun, hcarried, nofun, hattends⟩
  have hmutex := hrun howns
  rw [hnone] at hmutex
  cases hmutex

/-- The controller stores the power state that it carries. -/
theorem Heard.store {s : State} {st : PowerState} (h : Heard s)
    (hG : HeardInTime s .controller) (hpoint : s.controller = .store st) :
    Heard { s with data := storePowerState st s.data, controller := .hasChanged } := by
  have apart := h.apart
  obtain ⟨hrun, hcontroller, -, hcarried, -, hattends⟩ := h
  have hst : st = s.data.itsPowerState := hcarried st (by rw [hpoint]; rfl)
  have hout : s.run.owns = false := by
    by_contra howns
    have hc := apart (by simpa using howns)
    rw [hpoint] at hc
    cases hc
  have hmutex : s.eventMutex = some .controller := hcontroller (by rw [hpoint]; rfl)
  refine ⟨hrun, fun _ => hmutex, fun _ => nofun, nofun, fun _ => ?_, ?_⟩
  · cases hr : s.run
    case getPowerState => trivial
    case store first =>
      have hsame : st = first := by simpa only [HeardInTime, hpoint, hr, HeardAt] using hG
      exact hsame.symm.trans hst
    all_goals exact hst
  · -- what the store makes due, it is going to notify of
    have hnew : (Due s.data → False) → Due (storePowerState st s.data) →
        ControllerPoint.hasChanged.WillNotify (storePowerState st s.data) := fun hnot hdue =>
      (due_storePowerState hdue).resolve_left hnot
    cases hr : s.run <;> rw [hr] at hout hattends <;> rw [hpoint] at hattends
    case getPowerState | store | initialState => exact hattends
    case turnOn | whileTrue | wait | blocked => exact hnew hattends
    case woken | compute => trivial
    case process | unlock => cases hout

/-- The controller asks whether the stored power state has changed. -/
theorem Heard.hasChanged {s : State} (h : Heard s) (hpoint : s.controller = .hasChanged) :
    Heard { s with controller := .unlock s.data.storedPowerState.hasChanged } := by
  obtain ⟨hrun, hcontroller, -, -, hstored, hattends⟩ := h
  rw [hpoint] at hcontroller hstored hattends
  exact ⟨hrun, hcontroller, fun _ => nofun, nofun, hstored, hattends.mono id⟩

/-- The controller gives the mutex back, and goes on to notify or has done. -/
theorem Heard.unlock {s : State} {changed : Bool} (h : Heard s)
    (hpoint : s.controller = .unlock changed) :
    Heard { s with eventMutex := none, controller := if changed then .notify else .idle } := by
  have hout : s.run.owns = true → False := fun howns => by
    have hc := h.apart howns
    rw [hpoint] at hc
    cases hc
  have hup := h.upToDate (by rw [hpoint]; rfl)
  have hattends := h.attends
  rw [hpoint] at hattends
  cases changed with
  | true =>
    exact ⟨fun howns => (hout howns).elim, nofun, fun _ _ => rfl, nofun, fun _ => hup,
      hattends.mono fun _ => trivial⟩
  | false =>
    exact ⟨fun howns => (hout howns).elim, nofun, fun _ _ => rfl, nofun, fun _ => hup,
      hattends.mono nofun⟩

/-- The controller notifies `run()`. -/
theorem Heard.notify {s : State} (h : Heard s) (hG : HeardInTime s .controller)
    (hpoint : s.controller = .notify) :
    Heard { s with run := s.run.notified, controller := .idle } := by
  obtain ⟨hrun, -, hfree, -, hstored, hattends⟩ := h
  have hup := hstored (by rw [hpoint]; rfl)
  rw [hpoint] at hfree hattends
  refine ⟨?_, nofun, ?_, nofun, fun _ => ?_, ?_⟩
  · simp only [RunPoint.owns_notified]
    exact hrun
  · simp only [RunPoint.owns_notified]
    exact hfree
  · exact (RunPoint.upToDate_notified _ _).2 hup
  · simp only [HeardInTime, hpoint] at hG
    cases hr : s.run <;> simp only [hr, HeardAt] at hG hattends
    case getPowerState | store | initialState => exact hattends
    case turnOn | whileTrue | wait => exact fun hdue => absurd hdue hG
    case blocked | woken | compute => trivial
    case process | unlock => exact hattends

/-- A step of the controller thread inside `HeardInTime`. -/
theorem Heard.controllerStep {s s' : State} (h : Heard s) (hG : HeardInTime s .controller)
    (hs : PowerManager.controllerStep s = some s') : Heard s' := by
  unfold PowerManager.controllerStep at hs
  cases hpoint : s.controller with
  | idle =>
    simp only [hpoint] at hs
    cases hs
  | getPowerState =>
    simp only [hpoint] at hs
    cases hs
    exact h.getPowerState hpoint
  | lock st =>
    simp only [hpoint, Option.ite_none_right_eq_some] at hs
    obtain ⟨hnone, ⟨⟩⟩ := hs
    exact h.lock hnone hpoint
  | store st =>
    simp only [hpoint] at hs
    cases hs
    exact h.store hG hpoint
  | hasChanged =>
    simp only [hpoint] at hs
    cases hs
    exact h.hasChanged hpoint
  | unlock changed =>
    simp only [hpoint] at hs
    cases hs
    exact h.unlock hpoint
  | notify =>
    simp only [hpoint] at hs
    cases hs
    exact h.notify hG hpoint

theorem Heard.step {s s' : State} {a : Act} (h : Heard s) (w : World) (hG : HeardInTime s a)
    (hs : (threads w).step s a = some s') : Heard s' := by
  cases a with
  | run => exact h.runStep hs
  | controller => exact h.controllerStep hG hs
  | indication =>
    obtain ⟨hidle, ⟨⟩⟩ := Option.ite_none_right_eq_some.1 hs
    obtain ⟨d', hd, -, hsame, hdev, -, -⟩ := run_powerIndChangeHandler w (.ret ()) s.data
    have hnew : PowerMgr.run w (powerIndChangeHandler (.ret ())) s.data = d' := hd
    have hattends := h.attends
    have hfree := h.free
    rw [hidle] at hattends hfree
    refine ⟨h.runOwns, nofun, hfree, nofun, nofun, ?_⟩
    show s.run.Attends (PowerMgr.run w (powerIndChangeHandler (.ret ())) s.data) .getPowerState
    rw [hnew]
    cases hr : s.run <;> rw [hr] at hattends
    case woken | compute => trivial
    all_goals
      simpa only [RunPoint.Attends, Due, ControllerPoint.WillNotify, hsame, hdev] using hattends
  | spuriousWakeUp =>
    obtain ⟨hblocked, ⟨⟩⟩ := Option.ite_none_right_eq_some.1 hs
    have hup := h.upToDate
    have hfree := h.free
    rw [hblocked] at hup hfree
    exact ⟨nofun, h.controllerOwns, hfree, h.carried, hup, trivial⟩

/-! ## The excluded steps -/

/-- `run()`, left alone on its way into the wait while something is due, misses it. -/
theorem lost_on_the_way (w : World) {s : State} (hidle : s.controller = .idle)
    (hmutex : s.run = .wait ∨ s.eventMutex = none) (hdue : Due s.data)
    (hway : s.run = .turnOn ∨ s.run = .whileTrue ∨ s.run = .wait) :
    ¬ NoChangeLost ((threads w).final s [.run, .run, .run]) := by
  obtain ⟨d, point, c, mutex⟩ := s
  obtain rfl : c = .idle := hidle
  have hturnOn : Due (PowerMgr.run w turnOn d) := hdue
  rcases hway with rfl | rfl | rfl
  · obtain rfl : mutex = none := hmutex.resolve_left nofun
    exact fun h => (h rfl rfl).2 hturnOn
  · obtain rfl : mutex = none := hmutex.resolve_left nofun
    exact fun h => (h rfl rfl).2 hdue
  · exact fun h => (h rfl rfl).2 hdue

/-- The controller ends its report while `run()` does not wait. -/
theorem final_reported (w : World) (d : Data) (first : PowerState) :
    (threads w).final ⟨d, .store first, .hasChanged, some .controller⟩
        (List.replicate 3 .controller) = ⟨d, .store first, .idle, none⟩ := by
  cases hchanged : d.storedPowerState.hasChanged <;>
    simp [System.final, threads, controllerStep, RunPoint.notified, hchanged]

/-- Every excluded step can be continued, without another power change, to a state in which the
power change is lost. -/
theorem Heard.lost_of_missed {s s' : State} {a : Act} (h : Heard s) (w : World)
    (hG : ¬ HeardInTime s a) (hs : (threads w).step s a = some s') :
    ∃ more, (∀ b ∈ more, b = .run ∨ b = .controller) ∧
      ¬ NoChangeLost ((threads w).final s' more) := by
  cases a with
  | run | indication | spuriousWakeUp => exact absurd trivial hG
  | controller =>
    obtain ⟨-, hcontroller, hfree, hcarried, -, -⟩ := h
    obtain ⟨d, point, c, mutex⟩ := s
    cases c
    case store st =>
      cases point
      case store first =>
        have hne : st ≠ first := hG
        obtain rfl : st = d.itsPowerState := hcarried st rfl
        obtain rfl : mutex = some .controller := hcontroller rfl
        cases hs
        refine ⟨List.replicate 3 .controller ++ List.replicate 5 .run, by simp, fun hlost => ?_⟩
        rw [System.final_append, final_reported] at hlost
        obtain ⟨hpower, hsame⟩ :=
          setInitialState_powerState (storePowerState first (storePowerState d.itsPowerState d))
        have hstored := (hlost rfl rfl).1
        exact hne ((hpower.symm.trans hstored.symm).trans (congrArg HistoricalValue.get hsame))
      all_goals exact absurd trivial hG
    case notify =>
      cases hs
      refine ⟨[.run, .run, .run], by simp, ?_⟩
      cases point
      case turnOn =>
        exact lost_on_the_way w rfl (.inr (hfree rfl rfl)) (not_not.1 hG) (.inl rfl)
      case whileTrue =>
        exact lost_on_the_way w rfl (.inr (hfree rfl rfl)) (not_not.1 hG) (.inr (.inl rfl))
      case wait => exact lost_on_the_way w rfl (.inl rfl) (not_not.1 hG) (.inr (.inr rfl))
      all_goals exact absurd trivial hG
    all_goals exact absurd trivial hG

/-- A run whose power changes are all heard in time loses none, in any state; any other run has a
beginning that the two threads can continue, without another power change, to a state with a lost
one. -/
theorem no_change_lost (w : World) (st : PowerState) (acts : List Act) :
    ((threads w).Obeys (threads.init st) acts HeardInTime →
        (threads w).Always (threads.init st) acts NoChangeLost) ∧
      (¬ (threads w).Obeys (threads.init st) acts HeardInTime →
        ∃ before more, before <+: acts ∧ (∀ a ∈ more, a = .run ∨ a = .controller) ∧
          ¬ NoChangeLost ((threads w).final (threads.init st) (before ++ more))) := by
  have heard : ∀ acts, (threads w).Obeys (threads.init st) acts HeardInTime →
      (threads w).Always (threads.init st) acts Heard := fun acts =>
    System.always_of_obeys (fun s a s' h hG hs => h.step w hG hs) (init_heard st)
  refine ⟨fun obeys => (heard acts obeys).mono fun s h => h.noChangeLost, fun missed => ?_⟩
  obtain ⟨before, a, after, s', rfl, obeys, hs, hG⟩ := System.exists_first_of_not_obeys missed
  obtain ⟨more, hmore, hlost⟩ := (heard before obeys).final.lost_of_missed w hG hs
  refine ⟨before ++ [a], more, ⟨after, by simp⟩, hmore, ?_⟩
  rw [System.final_append, System.final_append]
  show ¬ NoChangeLost ((threads w).final ((((threads w).step _ a).getD _)) more)
  rw [hs]
  exact hlost

/-- The modem comes on after `run()` is blocked, and goes off again while it is switched on. -/
def heardSchedule : List Act :=
  List.replicate 6 .run ++ .indication :: List.replicate 6 .controller ++
    List.replicate 3 .run ++ .indication :: List.replicate 6 .controller

theorem no_change_lost_heardSchedule :
    (threads { powerInd := fun n => n }).Always (threads.init .disabledUnpowered) heardSchedule
      NoChangeLost :=
  (no_change_lost _ _ _).1 (by decide)

/-- The modem comes on when `run()` has turned it on but does not wait yet. -/
def missedSchedule : List Act :=
  List.replicate 4 .run ++ .indication :: List.replicate 6 .controller ++ List.replicate 2 .run

theorem missed_change_lost :
    ¬ ∀ w st acts, (threads w).Always (threads.init st) acts NoChangeLost := by
  intro h
  obtain ⟨-, hdue⟩ := (h {} .disabledUnpowered missedSchedule).final (by decide) (by decide)
  exact hdue (by decide)

end PowerManager

end SgmDevice
