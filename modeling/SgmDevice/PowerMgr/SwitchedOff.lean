import SgmDevice.PowerMgr.PowerCuts

/-!
# A disabled modem and its lines

`DISABLED_POWERED` is set by `stabilizePowerState` and by `powerIndChangeHandler`.  The handler
switches the modem off before it sets the state; `stabilizePowerState`, which meets a modem that is
off only when the pin changes during the construction, writes the constant of the indication pin to
the power pin (`switchedOff_iff`).
-/

namespace SgmDevice

namespace ModemPowerController

open Concurrency PowerMgr

/-- The operations that are called after the construction. -/
inductive Request where
  | turnOn
  | turnOffHw (keepPower : Bool)
  | resetHw
  | powerIndChangeHandler
  deriving DecidableEq, Repr

def Request.operation : Request → Operation
  | .turnOn => .turnOn
  | .turnOffHw keepPower => .turnOffHw keepPower
  | .resetHw => .resetHw
  | .powerIndChangeHandler => .powerIndChangeHandler

/-- The requests that switch the modem on. -/
def Request.switchesOn : Request → Bool
  | .turnOn | .resetHw => true
  | _ => false

/-- The data, whether `turnOn` and `resetHw` have not been called since the power state was set, and
what is left of the operation under way. -/
structure Lines where
  data : Data
  untouched : Bool := true
  prog : Program Op Op.Res Unit := .ret ()

inductive LinesAct where
  | statement
  | call (request : Request)
  deriving DecidableEq, Repr

/-- A statement that sets the power state. -/
def setsPowerState : Op → Bool
  | .setPowerState _ => true
  | _ => false

/-- The operations one after the other, a statement at a step. -/
def lines (w : World) : System Lines LinesAct where
  step s
  | .statement =>
    match s.prog with
    | .ret _ => none
    | .op o k =>
      some ⟨(o.exec w s.data).2, s.untouched || setsPowerState o, k (o.exec w s.data).1⟩
  | .call request =>
    match s.prog with
    | .ret _ =>
      some ⟨s.data, s.untouched && !request.switchesOn, request.operation.code⟩
    | .op _ _ => none

/-- The controller that was constructed on a segment. -/
def constructed (w : World) (segment : SGMShared) : Lines :=
  { data := run w construct { shared := segment } }

/-- What the invariant looks at. -/
structure LinesView where
  itsPowerState : PowerState
  untouched : Bool
  modemPowerSetPin : Option Int
  modemEnablePin : Option Int
  isModemReady : Bool

def linesView (d : Data) (untouched : Bool) : LinesView :=
  ⟨d.itsPowerState, untouched, d.modemPowerSetPin, d.modemEnablePin, d.shared.isModemReady⟩

/-- A modem that is recorded as disabled, and that nobody has switched on since, is off on the
lines. -/
def LinesView.SwitchedOff (g : LinesView) : Prop :=
  g.itsPowerState = .disabledPowered → g.untouched = true →
    g.modemPowerSetPin = some MODEM_POWER_OFF ∧ g.modemEnablePin = some MODEM_LINE_IDLE ∧
      g.isModemReady = false

def SwitchedOff (s : Lines) : Prop := (linesView s.data s.untouched).SwitchedOff

/-- The view after a statement. -/
def LinesView.after (g : LinesView) : Op → LinesView
  | .modemEnableDir dir => { g with modemEnablePin := GpioDir.level g.modemEnablePin dir }
  | .modemPowerSetDir dir => { g with modemPowerSetPin := GpioDir.level g.modemPowerSetPin dir }
  | .writeModemEnable level => { g with modemEnablePin := some level }
  | .writeModemPowerSet level => { g with modemPowerSetPin := some level }
  | .setModemReady flag => { g with isModemReady := flag }
  | .setPowerState st => { g with itsPowerState := st, untouched := true }
  | _ => g

theorem exec_linesView (w : World) (o : Op) (d : Data) (untouched : Bool) :
    linesView (o.exec w d).2 (untouched || setsPowerState o) =
      (linesView d untouched).after o := by
  cases o <;> simp [linesView, Op.exec, setsPowerState, LinesView.after]

/-- Every statement finds and leaves the modem off if it is recorded so. -/
def offUse : Program.Contract Op Op.Res Unit LinesView where
  pre g _ _ := g.SwitchedOff
  move g o _ g' := g' = g.after o
  post g _ := g.SwitchedOff

/-! ## The operations -/

/-- Switching on is the business of the caller until the power state is set again. -/
theorem switchesOn_off {g : LinesView} (h : g.untouched = false) {request : Request}
    (hon : request.switchesOn = true) : request.operation.code.Safe offUse g := by
  cases request with
  | turnOn | resetHw =>
    simp [Request.operation, Operation.code, turnOn, resetHw, Program.perform, Program.safe_op,
      offUse, LinesView.after, LinesView.SwitchedOff, h]
  | turnOffHw | powerIndChangeHandler => cases hon

theorem turnOffHw_off {g : LinesView} (h : g.SwitchedOff) (keepPower : Bool) :
    (Operation.turnOffHw keepPower).code.Safe offUse g := by
  unfold LinesView.SwitchedOff at h
  simp +contextual [Operation.code, turnOffHw, Program.perform, Program.safe_op, offUse,
    LinesView.after, LinesView.SwitchedOff, h]

/-- The handler writes both lines before it records the modem as disabled. -/
theorem powerIndChangeHandler_off {g : LinesView} (h : g.SwitchedOff) :
    Operation.powerIndChangeHandler.code.Safe offUse g := by
  unfold LinesView.SwitchedOff at h
  simp +contextual [Operation.code, powerIndChangeHandler, PowerManager.onPowerIndChange,
    Program.perform, Program.safe_op, offUse, LinesView.after, LinesView.SwitchedOff, h]

/-- The rest of the operation under way keeps the modem off. -/
def OffOn (s : Lines) : Prop := s.prog.Safe offUse (linesView s.data s.untouched)

theorem switchedOff_of_offOn {s : Lines} (h : OffOn s) : SwitchedOff s := by
  unfold OffOn at h
  cases hp : s.prog with
  | ret a =>
    rw [hp] at h
    exact h
  | op o k =>
    rw [hp] at h
    exact h.pre

theorem code_off {s : Lines} (h : SwitchedOff s) (request : Request) :
    request.operation.code.Safe offUse (linesView s.data (s.untouched && !request.switchesOn)) := by
  cases request with
  | turnOn | resetHw => exact switchesOn_off (Bool.and_false _) rfl
  | turnOffHw keepPower =>
    apply turnOffHw_off
    simpa [Request.switchesOn, SwitchedOff] using h
  | powerIndChangeHandler =>
    apply powerIndChangeHandler_off
    simpa [Request.switchesOn, SwitchedOff] using h

theorem OffOn.step {w : World} {s s' : Lines} {act : LinesAct} (h : OffOn s)
    (hs : (lines w).step s act = some s') : OffOn s' := by
  have hoff : SwitchedOff s := switchedOff_of_offOn h
  unfold OffOn at h
  cases act with
  | statement =>
    cases hp : s.prog with
    | ret a => simp [lines, hp] at hs
    | op o k =>
      simp only [lines, hp, Option.some.injEq] at hs
      rw [hp] at h
      rw [← hs]
      exact h.move (exec_linesView w o s.data s.untouched)
  | call request =>
    cases hp : s.prog with
    | op o k => simp [lines, hp] at hs
    | ret a =>
      simp only [lines, hp, Option.some.injEq] at hs
      rw [← hs]
      exact code_off hoff request

/-! ## The construction -/

/-- The indication and the power pin have opposite polarity. -/
theorem ind_off_ne_power_off : MODEM_IND_POWER_OFF ≠ MODEM_POWER_OFF := by decide

/-- The construction records a modem that is on the lines still when it read the pin as on and
`stabilizePowerState` then reads it as off. -/
theorem switchedOff_constructed (w : World) (segment : SGMShared) :
    SwitchedOff (constructed w segment) ↔
      ¬ (w.powerInd 0 = MODEM_IND_POWER_ON ∧ w.powerInd 1 = MODEM_IND_POWER_OFF) := by
  unfold SwitchedOff constructed construct stabilizePowerState
  by_cases hfirst : w.powerInd 0 = MODEM_IND_POWER_ON
  · by_cases hon : w.powerInd 1 = MODEM_IND_POWER_ON
    · by_cases hquery : w.modemQuery 0 = .okRaw <;>
        simp [run, Program.perform, Op.exec, LinesView.SwitchedOff, linesView, hfirst, hon, hquery,
          ind_off_ne_on.symm]
    · by_cases hoff : w.powerInd 1 = MODEM_IND_POWER_OFF
      · simp [run, Program.perform, Op.exec, LinesView.SwitchedOff, linesView, hfirst, hoff,
          ind_off_ne_on, ind_off_ne_power_off]
      · simp [run, Program.perform, Op.exec, LinesView.SwitchedOff, linesView, hfirst, hon, hoff]
  · simp [run, Program.perform, Op.exec, LinesView.SwitchedOff, linesView, hfirst]

/-- Through every run a modem that is recorded as disabled is off on the lines, unless the pin
changed from on to off between the two readings of the construction. -/
theorem switchedOff_iff (w : World) (segment : SGMShared) (acts : List LinesAct) :
    (lines w).Always (constructed w segment) acts SwitchedOff ↔
      ¬ (w.powerInd 0 = MODEM_IND_POWER_ON ∧ w.powerInd 1 = MODEM_IND_POWER_OFF) := by
  rw [← switchedOff_constructed w segment]
  constructor
  · intro h
    exact h.1
  · intro h
    have init : OffOn (constructed w segment) := h
    exact (System.always_of_invariant (fun _ _ _ h hs => OffOn.step h hs) init acts).mono
      fun _ => switchedOff_of_offOn

/-- The modem goes off between the two readings: it is recorded as disabled and the power pin is
left on the level of `MODEM_POWER_ON`. -/
theorem stabilized_on :
    (run { powerInd := fun n => n } construct {}).itsPowerState = .disabledPowered ∧
      (run { powerInd := fun n => n } construct {}).modemPowerSetPin = some MODEM_POWER_ON ∧
      ¬ ∀ (w : World) (segment : SGMShared) (acts : List LinesAct),
        (lines w).Always (constructed w segment) acts SwitchedOff := by
  refine ⟨rfl, rfl, fun h => ?_⟩
  have hstart := (h { powerInd := fun n => n } {} []).1
  exact absurd (switchedOff_constructed _ _ |>.1 hstart) (by decide)

end ModemPowerController

end SgmDevice
