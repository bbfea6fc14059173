import SgmDevice.PowerMgr.PowerManager
import SgmDevice.Concurrency.Transition

/-!
# The readiness flags after a start

The power manager attaches to a segment that an earlier run may have left behind.  Every step keeps
the two flags true to the power state and the device state (`FlagsTruthful.step`); the start makes
them so if and only if the old flags do no harm (`flags_truthful_iff`).
-/

namespace SgmDevice

namespace PowerManager

open Concurrency PowerMgr ModemPowerController

/-- The steps of the service: an indication is handled and stored, a round is run, or the modem is
turned on. -/
inductive ServiceStep where
  | indication
  | round
  | turnOn
  deriving DecidableEq, Repr

def ServiceStep.program : ServiceStep → Program Op Op.Res Unit
  | .indication => powerIndChangeHandler onPowerIndChange
  | .round => processRound
  | .turnOn => ModemPowerController.turnOn >>= fun _ => .ret ()

def service (w : World) : System Data ServiceStep where
  step d a := some (run w a.program d)

/-- The objects are constructed over the old segment, and `determineInitialConditions` returns. -/
def serviceStart (w : World) (old : SGMShared) : Data :=
  run w determineInitialConditions (run w construct { shared := old })

structure FlagsTruthful (d : Data) : Prop where
  modemReady : d.shared.isModemReady = true ↔ d.itsPowerState = .enabled
  cmuxReady : d.shared.isCmuxReady = true ↔ d.itsDeviceState.get = .modemCmux

/-- The old flags do no harm: CMUX was not announced, and the modem was not either, unless the
constructor finds the modem active and a second reading says whether it is. -/
def HarmlessStart (w : World) (old : SGMShared) : Prop :=
  old.isCmuxReady = false ∧
    (old.isModemReady = false ∨ w.powerInd 0 = MODEM_IND_POWER_ON ∧
      (w.powerInd 1 = MODEM_IND_POWER_ON ∨ w.powerInd 1 = MODEM_IND_POWER_OFF))

/-- What the constructor makes of the power state and its flag; it leaves the rest alone. -/
theorem run_construct (w : World) (old : SGMShared) :
    (((run w construct { shared := old }).shared.isModemReady = true ↔
        (run w construct { shared := old }).itsPowerState = .enabled) ↔
      old.isModemReady = false ∨ w.powerInd 0 = MODEM_IND_POWER_ON ∧
        (w.powerInd 1 = MODEM_IND_POWER_ON ∨ w.powerInd 1 = MODEM_IND_POWER_OFF)) ∧
      (run w construct { shared := old }).shared.isCmuxReady = old.isCmuxReady ∧
      (run w construct { shared := old }).itsDeviceState = .make .undefined := by
  by_cases hfirst : w.powerInd 0 = MODEM_IND_POWER_ON
  · by_cases hon : w.powerInd 1 = MODEM_IND_POWER_ON
    · by_cases hquery : w.modemQuery 0 = .okRaw <;>
        simp [run, construct, stabilizePowerState, Program.perform, Op.exec, hfirst, hon, hquery]
    · by_cases hoff : w.powerInd 1 = MODEM_IND_POWER_OFF <;>
        simp [run, construct, stabilizePowerState, Program.perform, Op.exec, hfirst, hon, hoff,
          ind_off_ne_on]
  · simp [run, construct, Program.perform, Op.exec, hfirst]

/-- The start does not choose `MODEM_CMUX`. -/
theorem not_cmux_determineInitialConditions (w : World) {d : Data}
    (h : d.itsDeviceState = .make .undefined) :
    (run w determineInitialConditions d).itsDeviceState.get ≠ .modemCmux := by
  rw [run_determineInitialConditions]
  cases hst : d.itsPowerState <;> simp [initialDeviceState, h]

/-- The flags are true after the start exactly when the old ones did no harm. -/
theorem serviceStart_truthful_iff (w : World) (old : SGMShared) :
    FlagsTruthful (serviceStart w old) ↔ HarmlessStart w old := by
  obtain ⟨hmodem, hcmux, hdev⟩ := run_construct w old
  have hnot : (serviceStart w old).itsDeviceState.get ≠ .modemCmux :=
    not_cmux_determineInitialConditions w hdev
  -- `determineInitialConditions` writes neither the flags nor the power state
  have hshared : (serviceStart w old).shared = (run w construct { shared := old }).shared := by
    rw [serviceStart, run_determineInitialConditions]
  have hpower : (serviceStart w old).itsPowerState =
      (run w construct { shared := old }).itsPowerState := by
    rw [serviceStart, run_determineInitialConditions]
  unfold HarmlessStart
  rw [← hmodem, ← hshared, ← hpower]
  rw [← hshared] at hcmux
  constructor
  · rintro ⟨hready, hflag⟩
    refine ⟨?_, hready⟩
    by_contra hold
    exact hnot (hflag.1 (hcmux.trans (by simpa using hold)))
  · rintro ⟨hold, hready⟩
    refine ⟨hready, iff_of_false ?_ hnot⟩
    rw [hcmux, hold]
    exact Bool.false_ne_true

/-- Every step keeps the flags true. -/
theorem FlagsTruthful.step {d : Data} (h : FlagsTruthful d) (w : World) (a : ServiceStep) :
    FlagsTruthful (run w a.program d) := by
  obtain ⟨hmodem, hcmux⟩ := h
  cases a with
  | turnOn => exact ⟨hmodem, hcmux⟩
  | indication =>
    obtain ⟨d', hrun, -, -, hdev, hflag, hready⟩ :=
      run_powerIndChangeHandler w onPowerIndChange d
    show FlagsTruthful (run w (powerIndChangeHandler onPowerIndChange) d)
    rw [hrun, run_onPowerIndChange]
    refine ⟨hready hmodem, ?_⟩
    show d'.shared.isCmuxReady = true ↔ d'.itsDeviceState.get = .modemCmux
    rw [hflag, hdev]
    exact hcmux
  | round =>
    show FlagsTruthful (run w processRound d)
    rw [run_processRound]
    cases hev : computeEvent d.itsDeviceState d.storedPowerState with
    | asyncTurnOff => exact ⟨hmodem, iff_of_false Bool.false_ne_true nofun⟩
    | asyncTurnOn =>
      obtain ⟨hoff, -⟩ := computeEvent_eq_asyncTurnOn hev
      by_cases hon : w.cmuxTurnOn d.driverCalls.length = .muxOn
      · rw [run_asyncTurnOn_muxOn w d hon]
        exact ⟨hmodem, iff_of_true rfl rfl⟩
      · rw [run_asyncTurnOn_failed w d hon]
        refine ⟨hmodem, iff_of_false ?_ nofun⟩
        show ¬ d.shared.isCmuxReady = true
        rw [hcmux, hoff]
        decide
    | none | undefined | reqTurnOn | reqTurnOff =>
      rw [run_idle w d (by decide) (by decide)]
      exact ⟨hmodem, hcmux⟩

/-- In every run of the service the flags are true after every step if and only if the old flags
did no harm. -/
theorem flags_truthful_iff (w : World) (old : SGMShared) (steps : List ServiceStep) :
    (service w).Always (serviceStart w old) steps FlagsTruthful ↔ HarmlessStart w old := by
  rw [← serviceStart_truthful_iff]
  constructor
  · exact fun always => always.1
  · intro start
    refine System.always_of_invariant (fun d a d' h hs => ?_) start steps
    cases hs
    exact h.step w a

/-- The modem is off, but the segment still says that it is ready. -/
theorem stale_flag_not_truthful :
    ¬ ∀ w old steps, (service w).Always (serviceStart w old) steps FlagsTruthful := by
  intro h
  have hready := (h { powerInd := fun _ => 1 } { isModemReady := true } []).1.modemReady
  exact absurd (hready.1 (by decide)) (by decide)

end PowerManager

end SgmDevice
