import SgmDevice.PowerMgr.PowerManager
import SgmDevice.Concurrency.Transition

/-!
# Does CMUX follow the power state?

Each later power state is stored and processed before the next one comes, and every `turnOn` of the
driver succeeds.  Then CMUX is up exactly while the modem is on, if and only if the first power
state was not `ENABLED` and the later ones take a path on which the manager has a transition
(`cmux_follows_power_iff`).
-/

namespace SgmDevice

namespace PowerManager

open Concurrency PowerMgr

/-- A world in which CMUX always comes up. -/
def alwaysOn (w : World) : World := { w with cmuxTurnOn := fun _ => .muxOn }

/-- Store a power state and process it. -/
def storeAndProcess (w : World) (st : PowerState) (d : Data) : Data :=
  run w processRound { d with storedPowerState := d.storedPowerState.set st }

/-- The actions are the power states that come in. -/
def rounds (w : World) : System Data PowerState where
  step d st := some (storeAndProcess w st d)

/-- The first power state has been stored by `determineInitialConditions` and processed. -/
def started (w : World) (st : PowerState) : Data :=
  run w processRound (run w determineInitialConditions { itsPowerState := st })

def CmuxFollowsPower (d : Data) : Prop :=
  d.shared.isCmuxReady = true ↔ d.storedPowerState.get = .enabled

/-- From a known off state the states that follow are followed, except an `UNDEFINED` directly after
`ENABLED`; from an `UNDEFINED` one nothing is. -/
def Followed : PowerState → List PowerState → Prop
  | .enabled, _ => False
  | .undefined, later => .enabled ∉ later
  | st, later => (st :: later).IsChain fun st st' => st = .enabled → st' ≠ .undefined

/-- The device is off, or on with CMUX, and the flag says which. -/
structure OffOrCmux (d : Data) : Prop where
  changed : d.itsDeviceState.hasChanged = true
  state : (d.shared.isCmuxReady = false ∧ d.itsDeviceState.get = .modemOff) ∨
    (d.shared.isCmuxReady = true ∧ d.itsDeviceState.get = .modemCmux)

/-- A round from there leads there again; only `UNDEFINED` leaves CMUX as it was. -/
theorem OffOrCmux.round {d : Data} (h : OffOrCmux d) (w : World) (st : PowerState) :
    OffOrCmux (storeAndProcess (alwaysOn w) st d) ∧
      (storeAndProcess (alwaysOn w) st d).storedPowerState.get = st ∧
      ((storeAndProcess (alwaysOn w) st d).shared.isCmuxReady = true ↔
        st = .enabled ∨ st = .undefined ∧ d.shared.isCmuxReady = true) := by
  obtain ⟨hchanged, hstate⟩ := h
  unfold storeAndProcess
  rw [run_processRound]
  rcases hstate with ⟨hcmux, hdev⟩ | ⟨hcmux, hdev⟩
  · rw [computeEvent_modemOff hchanged hdev]
    by_cases hst : st = .enabled
    · rw [if_pos (by simpa using hst), run_asyncTurnOn_muxOn _ _ rfl]
      exact ⟨⟨by simp [hdev], .inr ⟨rfl, rfl⟩⟩, rfl, by simp [hst]⟩
    · rw [if_neg (by simpa using hst), run_idle _ _ (by decide) (by decide)]
      exact ⟨⟨hchanged, .inl ⟨hcmux, hdev⟩⟩, rfl, by simp [hcmux, hst]⟩
  · rw [computeEvent_on hchanged (.inr hdev)]
    by_cases hst : st = .disabledPowered ∨ st = .disabledUnpowered
    · rw [if_pos (by simpa using hst), run_asyncTurnOff]
      refine ⟨⟨by simp [hdev], .inl ⟨rfl, rfl⟩⟩, rfl, ?_⟩
      rcases hst with rfl | rfl <;> simp
    · rw [if_neg (by simpa using hst), run_idle _ _ (by decide) (by decide)]
      refine ⟨⟨hchanged, .inr ⟨hcmux, hdev⟩⟩, rfl, ?_⟩
      cases st <;> simp_all

theorem always_of_offOrCmux (w : World) (later : List PowerState) {d : Data} (h : OffOrCmux d)
    (hd : CmuxFollowsPower d) :
    (rounds (alwaysOn w)).Always d later CmuxFollowsPower ↔
      (d.storedPowerState.get :: later).IsChain fun st st' => st = .enabled → st' ≠ .undefined := by
  induction later generalizing d with
  | nil => simp [System.always_nil, hd]
  | cons st later ih =>
    obtain ⟨hnext, hstored, hcmux⟩ := h.round w st
    rw [System.always_cons, List.isChain_cons_cons]
    have hfollow : CmuxFollowsPower (storeAndProcess (alwaysOn w) st d) ↔
        (d.storedPowerState.get = .enabled → st ≠ .undefined) := by
      unfold CmuxFollowsPower at hd ⊢
      rw [hcmux, hstored, hd]
      cases st <;> simp
    constructor
    · rintro ⟨-, hrest⟩
      have hgood : CmuxFollowsPower (storeAndProcess (alwaysOn w) st d) := hrest.1
      refine ⟨hfollow.1 hgood, ?_⟩
      simpa only [hstored] using (ih hnext hgood).1 hrest
    · rintro ⟨hst, hrest⟩
      refine ⟨hd, (ih hnext (hfollow.2 hst)).2 ?_⟩
      simpa only [hstored] using hrest

/-- An unknown device state is left by no event. -/
theorem always_of_undefined (w : World) (later : List PowerState) {d : Data}
    (hdev : d.itsDeviceState.hasChanged = false) (hcmux : d.shared.isCmuxReady = false)
    (hd : CmuxFollowsPower d) :
    (rounds w).Always d later CmuxFollowsPower ↔ .enabled ∉ later := by
  induction later generalizing d with
  | nil => simp [System.always_nil, hd]
  | cons st later ih =>
    have hround : storeAndProcess w st d =
        { d with storedPowerState := d.storedPowerState.set st } := by
      rw [storeAndProcess, run_processRound, computeEvent_unchanged hdev,
        run_idle _ _ (by decide) (by decide)]
    have hfollow : CmuxFollowsPower (storeAndProcess w st d) ↔ st ≠ .enabled := by
      rw [hround]
      simp [CmuxFollowsPower, hcmux]
    rw [System.always_cons, List.mem_cons, not_or]
    constructor
    · rintro ⟨-, hrest⟩
      have hgood : CmuxFollowsPower (storeAndProcess w st d) := hrest.1
      refine ⟨(hfollow.1 hgood).symm, (ih ?_ ?_ hgood).1 hrest⟩
      · rw [hround]; exact hdev
      · rw [hround]; exact hcmux
    · rintro ⟨hst, hrest⟩
      refine ⟨hd, (ih ?_ ?_ (hfollow.2 (Ne.symm hst))).2 hrest⟩
      · rw [hround]; exact hdev
      · rw [hround]; exact hcmux

/-- After every round CMUX is ready exactly when the latest power state is `ENABLED`, if and only if
the first power state and the later ones are `Followed`. -/
theorem cmux_follows_power_iff (w : World) (st : PowerState) (later : List PowerState) :
    (rounds (alwaysOn w)).Always (started (alwaysOn w) st) later CmuxFollowsPower ↔
      Followed st later := by
  cases st with
  | enabled =>
    refine iff_of_false (fun always => ?_) id
    have hready : false = true := always.1.2 rfl
    exact Bool.false_ne_true hready
  | undefined =>
    exact always_of_undefined _ later rfl rfl ⟨nofun, nofun⟩
  | disabledPowered | disabledUnpowered =>
    exact always_of_offOrCmux w later ⟨rfl, .inl ⟨rfl, rfl⟩⟩ ⟨nofun, nofun⟩

/-- A modem that is on when the manager starts has no transition to CMUX. -/
theorem enabled_not_followed :
    ¬ ∀ w st later, (rounds (alwaysOn w)).Always (started (alwaysOn w) st) later
      CmuxFollowsPower := by
  intro h
  exact absurd ((h {} .enabled []).1.2 (by decide)) (by decide)

end PowerManager

end SgmDevice
