import SgmDevice.PowerMgr.BGS2CMux
import SgmDevice.PowerMgr.ReadinessFlags

/-!
# The multiplexer as the manager announces it

`PowerManager` with a `BGS2CMux` as its driver.  `turnOn` drops what `cMuxOn` returned, so that the
manager runs as with a driver that always succeeds (`eval_data`), and it announces CMUX truthfully
exactly in the runs in which no step of a `cMuxOn` fails (`announced_iff`).
-/

namespace SgmDevice

namespace PowerManager

open Concurrency PowerMgr ModemPowerController
open ICMuxDriver (Result)

/-- The data of the process and its driver. -/
structure CmuxManager where
  data : Data := {}
  driver : BGS2CMux := {}
  deriving DecidableEq, Repr

namespace CmuxManager

/-- What the driver is answered comes with each step; what the other devices answer is `pw`. -/
def exec (pw : World) (w : BGS2CMux.World) : (o : Op) → CmuxManager → o.Res × CmuxManager
  | .cmuxTurnOn, s =>
    let (result, driver) := s.driver.turnOn w
    (result, { data := { s.data with driverCalls := .turnOn result :: s.data.driverCalls }
               driver })
  | .cmuxTurnOff, s =>
    ((), { data := { s.data with driverCalls := .turnOff :: s.data.driverCalls }
           driver := s.driver.turnOff.2 })
  | o, s => ((o.exec pw s.data).1, { s with data := (o.exec pw s.data).2 })

/-- What is run on the manager. -/
inductive Step where
  | determineInitialConditions
  | indication
  | turnOn
  | processIncomingEvent (evType : Event)
  deriving DecidableEq, Repr

def Step.program : Step → Program Op Op.Res Unit
  | .determineInitialConditions => PowerManager.determineInitialConditions
  | .indication => powerIndChangeHandler onPowerIndChange
  | .turnOn => ModemPowerController.turnOn >>= fun _ => .ret ()
  | .processIncomingEvent evType => PowerManager.processIncomingEvent evType

/-- A step, and what the system and the modem answer the driver meanwhile. -/
structure Turn where
  step : Step
  answers : BGS2CMux.World

def after (pw : World) (s : CmuxManager) (t : Turn) : CmuxManager :=
  (t.step.program.eval (exec pw t.answers) s).2

def runs (pw : World) : System CmuxManager Turn where
  step s t := some (after pw s t)

/-- `ASYNC_TURN_ON` announces CMUX if and only if this run of `cMuxOn` returned `MUX_ON`; otherwise
the device has failed, and the flag stays as it was. -/
def Announced (pw : World) (s : CmuxManager) (t : Turn) : Prop :=
  t.step = .processIncomingEvent .asyncTurnOn →
    (((after pw s t).data.shared.isCmuxReady = true ∧
        (after pw s t).data.itsDeviceState.get = .modemCmux) ↔
      (s.driver.cMuxOn t.answers).1 = .muxOn) ∧
    ((s.driver.cMuxOn t.answers).1 ≠ .muxOn →
      (after pw s t).data.itsDeviceState.get = .modemFailed ∧
        (after pw s t).data.shared.isCmuxReady = s.data.shared.isCmuxReady)

/-- The port can be opened, and no later step of `cMuxOn` fails. -/
def Established (t : Turn) : Prop :=
  t.step = .processIncomingEvent .asyncTurnOn →
    t.answers.open_ ≠ -1 ∧ BGS2CMux.StepsSucceed t.answers

/-- The data move as with a driver that always succeeds. -/
theorem eval_data {α : Type} (pw : World) (w : BGS2CMux.World) (p : Program Op Op.Res α)
    (s : CmuxManager) :
    (p.eval (exec pw w) s).2.data = run { pw with cmuxTurnOn := fun _ => .muxOn } p s.data := by
  have hstep : ∀ (o : Op) (s : CmuxManager),
      o.exec { pw with cmuxTurnOn := fun _ => .muxOn } s.data =
        ((exec pw w o s).1, (exec pw w o s).2.data) := by
    intro o s
    cases o <;> rfl
  exact (congrArg Prod.snd (Program.eval_project hstep p s)).symm

/-- CMUX is announced, whatever `cMuxOn` returned. -/
theorem after_asyncTurnOn (pw : World) (s : CmuxManager) (w : BGS2CMux.World) :
    (after pw s ⟨.processIncomingEvent .asyncTurnOn, w⟩).data.shared.isCmuxReady = true ∧
      (after pw s ⟨.processIncomingEvent .asyncTurnOn, w⟩).data.itsDeviceState.get =
        .modemCmux := by
  have hdata : (after pw s ⟨.processIncomingEvent .asyncTurnOn, w⟩).data =
      run { pw with cmuxTurnOn := fun _ => .muxOn }
        (PowerManager.processIncomingEvent .asyncTurnOn) s.data :=
    eval_data pw w _ s
  rw [hdata, run_asyncTurnOn_muxOn _ _ rfl]
  exact ⟨rfl, rfl⟩

theorem announced_step_iff (pw : World) (s : CmuxManager) (t : Turn) :
    Announced pw s t ↔ Established t := by
  obtain ⟨step, w⟩ := t
  refine forall_congr' ?_
  rintro ⟨rfl⟩
  rw [← BGS2CMux.cMuxOn_eq_muxOn_iff w s.driver]
  obtain ⟨hready, hcmux⟩ := after_asyncTurnOn pw s w
  constructor
  · rintro ⟨hiff, -⟩
    exact hiff.1 ⟨hready, hcmux⟩
  · intro hon
    exact ⟨iff_of_true ⟨hready, hcmux⟩ hon, fun hnot => absurd hon hnot⟩

/-- In every run of the manager every `ASYNC_TURN_ON` announces what `cMuxOn` returned if and only
if no step of any of these `cMuxOn` fails. -/
theorem announced_iff (pw : World) (s : CmuxManager) (turns : List Turn) :
    (runs pw).Obeys s turns (Announced pw) ↔ (runs pw).Obeys s turns fun _ t => Established t :=
  System.obeys_congr (fun s t _ _ => announced_step_iff pw s t) s turns

/-- The port cannot be opened, and CMUX is announced. -/
theorem unopened_port_announced :
    ¬ ∀ pw s turns, (runs pw).Obeys s turns (Announced pw) := by
  intro h
  let t : Turn := ⟨.processIncomingEvent .asyncTurnOn, { open_ := -1, procDevices := none }⟩
  have hannounced := h {} {} [t] ⟨{}, t, after {} {} t⟩ (List.mem_singleton.2 rfl) rfl
  exact absurd (hannounced.1.1 (after_asyncTurnOn {} {} t.answers)) (by decide)

end CmuxManager

end PowerManager

end SgmDevice
