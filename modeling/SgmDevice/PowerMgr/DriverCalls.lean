import SgmDevice.PowerMgr.PowerManager
import SgmDevice.Concurrency.Threads
import Mathlib.Data.List.Chain

/-!
# The calls of the CMUX driver

Power states are stored at any time and rounds are run at any time, one statement after the other.
In every state CMUX is announced only behind a `turnOn` that succeeded, and the driver is switched
on and off in turn (`driver_calls_sound`).
-/

namespace SgmDevice

namespace ICMuxDriver.DriverCall

def isTurnOn : DriverCall → Bool
  | .turnOn _ => true
  | .turnOff => false

end ICMuxDriver.DriverCall

namespace PowerManager

open Concurrency PowerMgr ICMuxDriver

/-! ## The manager, statement by statement -/

/-- One thread that runs rounds; what is stored comes from outside. -/
def manager (w : World) : Threads Unit Op Op.Res Data Unit (fun _ => Unit) (fun _ => Unit)
    PowerState where
  exec _ o _ d := some (o.exec w d)
  entry _ _ _ := some processRound
  env st d := some { d with storedPowerState := d.storedPowerState.set st }

/-- `determineInitialConditions` has returned, and the CMUX flag was false before it. -/
def manager.init (w : World) (st : PowerState) (shared : SGMShared) :
    Threads.Config Op Op.Res Data fun _ : Unit => Unit where
  shared := run w determineInitialConditions
    { itsPowerState := st, shared := { shared with isCmuxReady := false } }
  prog _ := .ret ()

/-! ## The contract of a round -/

/-- What the round alone changes. -/
structure DriverView where
  device : HistoricalValue DeviceState
  isCmuxReady : Bool
  driverCalls : List DriverCall

def driverView (d : Data) : DriverView := ⟨d.itsDeviceState, d.shared.isCmuxReady, d.driverCalls⟩

/-- CMUX is announced only behind a `turnOn` that succeeded, and the calls alternate. -/
structure DriverSound (g : DriverView) : Prop where
  ready : g.isCmuxReady = true → g.driverCalls.head? = some (.turnOn .muxOn)
  alternate : g.driverCalls.IsChain fun call earlier => call.isTurnOn ≠ earlier.isTurnOn

/-- Between the rounds the device state tells which call was the latest. -/
structure BetweenRounds (g : DriverView) : Prop extends DriverSound g where
  off : g.device.get = .modemOff → ∀ call ∈ g.driverCalls.head?, call.isTurnOn = false
  on : g.device.get = .modemReady ∨ g.device.get = .modemCmux →
    ∀ call ∈ g.driverCalls.head?, call.isTurnOn = true
  notReady : g.device.get ≠ .modemCmux → g.isCmuxReady = false

def driverUse (_ : Unit) : Program.Contract Op Op.Res Unit DriverView where
  pre g _ _ := DriverSound g
  move g o r g' :=
    match o, r with
    | .setCmuxReady flag, _ => g' = { g with isCmuxReady := flag }
    | .setDeviceState st, _ => g' = { g with device := g.device.set st }
    | .cmuxTurnOn, r => g' = { g with driverCalls := .turnOn r :: g.driverCalls }
    | .cmuxTurnOff, _ => g' = { g with driverCalls := .turnOff :: g.driverCalls }
    | .deviceState, r => r = g.device ∧ g' = g
    | _, _ => g' = g
  post g _ := BetweenRounds g

theorem exec_driverUse (w : World) (o : Op) (d : Data) :
    (driverUse ()).move (driverView d) o (o.exec w d).1 (driverView (o.exec w d).2) := by
  cases o
  case deviceState => exact ⟨rfl, rfl⟩
  all_goals rfl

theorem DriverSound.of_safe {p : Program Op Op.Res Unit} {g : DriverView}
    (h : p.Safe (driverUse ()) g) : DriverSound g := by
  cases p with
  | ret a => exact BetweenRounds.toDriverSound h
  | op o k => exact h.pre

/-- A call of the driver that was not made the last time. -/
theorem DriverSound.call {g : DriverView} (h : DriverSound g) (call : DriverCall)
    (hcmux : g.isCmuxReady = false) (hhead : ∀ earlier ∈ g.driverCalls.head?,
      earlier.isTurnOn = !call.isTurnOn) :
    DriverSound { g with driverCalls := call :: g.driverCalls } where
  ready hready := absurd (hcmux.symm.trans hready) Bool.false_ne_true
  alternate := h.alternate.cons fun earlier hearlier => by
    rw [hhead earlier hearlier]
    cases call.isTurnOn <;> decide

/-- CMUX is withdrawn before the driver is switched off. -/
theorem asyncTurnOff_safe {g : DriverView} (h : BetweenRounds g)
    (hon : g.device.get = .modemReady ∨ g.device.get = .modemCmux) :
    (processIncomingEvent .asyncTurnOff).Safe (driverUse ()) g := by
  have hclear : DriverSound { g with isCmuxReady := false } :=
    ⟨fun hready => absurd hready Bool.false_ne_true, h.alternate⟩
  have hcall := hclear.call .turnOff rfl fun earlier hearlier => h.on hon earlier hearlier
  refine ⟨h.toDriverSound, ?_⟩
  rintro _ _ rfl
  refine ⟨h.toDriverSound, ?_⟩
  rintro _ _ rfl
  refine ⟨hclear, ?_⟩
  rintro _ _ rfl
  refine ⟨hclear, ?_⟩
  rintro _ _ rfl
  refine ⟨hcall, ?_⟩
  rintro _ _ rfl
  exact ⟨⟨hcall.ready, hcall.alternate⟩, by simp [DriverCall.isTurnOn], by simp, by simp⟩

/-- CMUX is announced behind a `turnOn` that succeeded. -/
theorem asyncTurnOn_safe {g : DriverView} (h : BetweenRounds g)
    (hoff : g.device.get = .modemOff) :
    (processIncomingEvent .asyncTurnOn).Safe (driverUse ()) g := by
  have hcmux : g.isCmuxReady = false := h.notReady (by rw [hoff]; decide)
  refine ⟨h.toDriverSound, ?_⟩
  rintro result _ rfl
  have hcall := h.toDriverSound.call (.turnOn result) hcmux (h.off hoff)
  show (if result = .muxOn then _ else _ : Program Op Op.Res Unit).Safe _ _
  rw [Program.safe_ite]
  split
  · rename_i hresult
    subst hresult
    have hready : DriverSound
        { g with driverCalls := .turnOn .muxOn :: g.driverCalls, isCmuxReady := true } :=
      ⟨fun _ => rfl, hcall.alternate⟩
    refine ⟨hcall, ?_⟩
    rintro _ _ rfl
    refine ⟨hcall, ?_⟩
    rintro _ _ rfl
    refine ⟨hready, ?_⟩
    rintro _ _ rfl
    refine ⟨hready, ?_⟩
    rintro _ _ rfl
    refine ⟨⟨hready.ready, hready.alternate⟩, ?_⟩
    rintro _ _ rfl
    exact ⟨⟨hready.ready, hready.alternate⟩, by simp, by simp [DriverCall.isTurnOn], by simp⟩
  · refine ⟨hcall, ?_⟩
    rintro _ _ rfl
    exact ⟨⟨hcall.ready, hcall.alternate⟩, by simp, by simp, fun _ => hcmux⟩

theorem processRound_safe {g : DriverView} (h : BetweenRounds g) :
    processRound.Safe (driverUse ()) g := by
  refine ⟨h.toDriverSound, ?_⟩
  rintro device _ ⟨rfl, rfl⟩
  refine ⟨h.toDriverSound, ?_⟩
  rintro stored g' rfl
  show (processIncomingEvent (computeEvent g'.device stored)).Safe _ g'
  cases hev : computeEvent g'.device stored with
  | asyncTurnOn => exact asyncTurnOn_safe h (computeEvent_eq_asyncTurnOn hev).1
  | asyncTurnOff => exact asyncTurnOff_safe h (computeEvent_eq_asyncTurnOff hev).1
  | none | undefined | reqTurnOn | reqTurnOff => exact h

/-! ## Every run -/

theorem driverUse_local (w : World) :
    Threads.Local (manager w) driverUse (fun _ => driverView) (fun _ _ => True) where
  own c _ _ o k r s _ _ _ he := by
    obtain ⟨rfl, rfl⟩ := Threads.reply_eq he
    exact exec_driverUse w o c.shared
  other _ i _ _ _ _ _ _ _ _ _ j hj := absurd (Subsingleton.elim j i) hj
  entry _ _ _ p g hg he := by
    cases he
    exact processRound_safe hg
  env st d d' he _ p safe := by
    cases he
    exact safe

theorem init_betweenRounds (w : World) (st : PowerState) (shared : SGMShared) :
    BetweenRounds (driverView (manager.init w st shared).shared) := by
  rw [manager.init, run_determineInitialConditions]
  refine ⟨⟨?_, ?_⟩, ?_, ?_, ?_⟩ <;> simp [driverView]

/-- Whatever is stored and whenever rounds are run, in every state between two statements CMUX is
announced only if the latest call of the driver is a `turnOn` that returned `MUX_ON`, and the calls
alternate. -/
theorem driver_calls_sound (w : World) (st : PowerState) (shared : SGMShared)
    (acts : List (Threads.Act Unit (fun _ : Unit => Unit) PowerState)) :
    (manager w).system.Always (manager.init w st shared) acts
      fun c => DriverSound (driverView c.shared) := by
  have init : Threads.AllSafe driverUse (fun _ => driverView) (manager.init w st shared) :=
    fun _ => init_betweenRounds w st shared
  have always := System.always_of_invariant (S := (manager w).system)
    (fun c a c' h hs => h.step (driverUse_local w) trivial hs) init acts
  exact always.mono fun c h => DriverSound.of_safe (h ())

end PowerManager

end SgmDevice
