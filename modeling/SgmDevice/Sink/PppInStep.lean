import SgmDevice.Sink.PppCalls

/-!
# What stays in step with the PPP state

* pppd: it runs if and only if the state is `CONNECTED`, and no second one is started
  (`pppd_in_step_iff`).
* The device: once the monitor has caught up, a ready CMUX excludes `CONNECTION_LOST` and a CMUX
  that is not ready excludes `CONNECTED` (`device_in_step_iff`).

Neither holds in every run; the theorems name the steps, and the orders of steps, that break them.
-/

namespace SgmDevice

namespace PppConnection

open Concurrency PppEndpoint

/-! ## pppd -/

/-- One pppd runs in state `CONNECTED` and none in any other, and none was started twice. -/
def PppdInStep (d : Data) : Prop :=
  NeverDoubled d.endpointCalls ∧ (running d.endpointCalls = true ↔ d.itsCurrentState = .connected)

/-- A restored device is reported only while there is no connection. -/
def RestoresOnlyLost (c : Config) : Act → Prop
  | .run t _ => pendingTick (c.prog t) = some .deviceRestored →
      c.shared.itsCurrentState ≠ .connected
  | _ => True

theorem PppdInStep.tick {d : Data} (h : PppdInStep d) (w : World) {ev : Event}
    (hev : ev = .deviceRestored → d.itsCurrentState ≠ .connected) :
    PppdInStep (PppConnection.tick w ev d).2 := by
  obtain ⟨hdoubled, hrun⟩ := h
  unfold PppdInStep
  rw [tick_state, tick_endpointCalls]
  cases hst : d.itsCurrentState <;> cases openResult w.returncode <;> cases ev <;>
    simp_all [nextState, endpointUse, NeverDoubled, running]

/-- A restored device reported in state `CONNECTED` starts a second pppd. -/
theorem PppdInStep.not_tick {d : Data} (h : PppdInStep d) (w : World)
    (hst : d.itsCurrentState = .connected) :
    ¬ PppdInStep (PppConnection.tick w .deviceRestored d).2 := by
  have hrun : running d.endpointCalls = true := h.2.2 hst
  rintro ⟨hdoubled, -⟩
  rw [tick_endpointCalls, hst] at hdoubled
  have hstopped : running d.endpointCalls = false := hdoubled.1
  exact Bool.false_ne_true (hstopped.symm.trans hrun)

theorem PppdInStep.observes {d : Data} (h : PppdInStep d) {o : Op} (ho : o.observes) (w : World) :
    PppdInStep (o.exec w d).2 := by
  obtain ⟨hst, hcalls⟩ := exec_observes ho w d
  unfold PppdInStep
  rw [hst, hcalls]
  exact h

theorem PppdInStep.step {c c' : Config} {a : Act} (hu : Used c) (h : PppdInStep c.shared)
    (hG : RestoresOnlyLost c a) (hs : calls.system.step c a = some c') : PppdInStep c'.shared := by
  cases a with
  | run t w =>
    obtain ⟨o, k, r, d, hp, he, rfl⟩ := Threads.runStep_eq_some hs
    obtain ⟨rfl, rfl⟩ := Threads.reply_eq he
    cases o with
    | plain o => exact h.observes (hu.observes hp) w
    | stateMachineTick ev =>
      refine h.tick w ?_
      rintro rfl
      exact hG (by rw [hp]; rfl)
  | call t d =>
    obtain ⟨x, p, -, -, rfl⟩ := Threads.callStep_eq_some hs
    exact h
  | env e =>
    cases hs
    cases e <;> exact h

theorem PppdInStep.not_step {c c' : Config} {a : Act} (h : PppdInStep c.shared)
    (hG : ¬ RestoresOnlyLost c a) (hs : calls.system.step c a = some c') :
    ¬ PppdInStep c'.shared := by
  cases a with
  | call t d => exact absurd trivial hG
  | env e => exact absurd trivial hG
  | run t w =>
    obtain ⟨htick, hst⟩ := Classical.not_imp.1 hG
    obtain ⟨o, k, r, d, hp, he, rfl⟩ := Threads.runStep_eq_some hs
    obtain ⟨rfl, rfl⟩ := Threads.reply_eq he
    rw [hp] at htick
    obtain rfl : o = .stateMachineTick .deviceRestored := by
      cases o <;> cases htick
      rfl
    exact h.not_tick w (not_not.1 hst)

/-- In every run pppd stays in step with the state if and only if the device is never reported
restored in state `CONNECTED`. -/
theorem pppd_in_step_iff (flag : Bool) (acts : List Act) :
    calls.system.Always (calls.init flag) acts (fun c => PppdInStep c.shared) ↔
      calls.system.Obeys (calls.init flag) acts RestoresOnlyLost :=
  System.always_iff_obeys (I := fun c => Used c ∧ PppdInStep c.shared) (fun _ h => h.2)
    (fun _ _ _ h hG hs => ⟨h.1.step hs, h.2.step h.1 hG hs⟩)
    (fun _ _ _ h hG hs => h.2.not_step hG hs)
    ⟨init_used flag, trivial, by simp [calls.init, running]⟩ acts

/-- `connect()` starts pppd between two readings of the monitor, and the restored device then makes
the monitor start another one, which fails and leaves the first one running. -/
def doubledSchedule : List Act :=
  .call .monitor () :: steps .monitor 1 ++ .env (.setCmuxReady true) ::
    .call .user .connect :: steps .user 3 ++
    .call .monitor () :: steps .monitor 1 ++ .call .monitor () :: steps .monitor 1 ++
    .call .monitor () :: steps .monitor 2 ++ [.run .monitor ⟨1, true⟩]

theorem restored_doubles_pppd :
    ¬ ∀ flag acts, calls.system.Always (calls.init flag) acts fun c => PppdInStep c.shared := by
  intro h
  obtain ⟨hdoubled, -⟩ := (h false doubledSchedule).final
  have hcalls : (calls.system.final (calls.init false) doubledSchedule).shared.endpointCalls =
      [.opened false, .opened true] := by decide
  rw [hcalls] at hdoubled
  exact absurd hdoubled.1 (by decide)

/-! ## The device -/

/-- What a reading of the CMUX flag excludes. -/
def Matches (flag : Bool) (st : State) : Prop :=
  (flag = true → st ≠ .connectionLost) ∧ (flag = false → st ≠ .connected)

/-- No call is under way and the monitor has dealt with its latest sample. -/
def Quiet (c : Config) : Prop :=
  (c.prog .user).result.isSome ∧ pendingTick (c.prog .monitor) = none

/-- Once the monitor has caught up, the state matches the CMUX flag. -/
def DeviceInStep (c : Config) : Prop :=
  Quiet c → latestSample c.shared.cmuxReadyFlag = some c.shared.isCmuxReady →
    Matches c.shared.isCmuxReady c.shared.itsCurrentState

/-- `connect()` or `disconnect()` ticks `DEVICE_LOST`. -/
def LosesDevice (c : Config) : Act → Prop
  | .run .user _ => pendingTick (c.prog .user) = some .deviceLost
  | _ => False

/-- `connect()` opens pppd. -/
def OpensConnection (c : Config) : Act → Prop
  | .run .user w => pendingTick (c.prog .user) = some .connectRequest ∧
      c.shared.itsCurrentState = .noConnection ∧ openResult w.returncode = true
  | _ => False

/-- A tick of either thread other than `CONNECT_REQUEST`. -/
def TicksAnew (c : Config) : Act → Prop
  | .run t _ => ∃ ev, pendingTick (c.prog t) = some ev ∧ ev ≠ .connectRequest
  | _ => False

/-- The state that a ready CMUX excludes, and the one that a CMUX that is not ready excludes. -/
def excluded : Bool → State
  | true => .connectionLost
  | false => .connected

/-- The monitor reads the CMUX flag as `value`. -/
def Samples (value : Bool) (c : Config) : Act → Prop
  | .run .monitor _ => ((c.prog .monitor).next = some (.plain .initCmuxReadyFlag) ∨
      (c.prog .monitor).next = some (.plain .sampleCmuxReady)) ∧ c.shared.isCmuxReady = value
  | _ => False

/-- A step `A` that goes by a flag of `value`, which the monitor's latest sample is not. -/
def Unseen (value : Bool) (A : Config → Act → Prop) (c : Config) (a : Act) : Prop :=
  A c a ∧ latestSample c.shared.cmuxReadyFlag ≠ some value

/-- The monitor has sampled `value`, or the state is ticked anew. -/
def CatchesUp (value : Bool) (c : Config) (a : Act) : Prop := Samples value c a ∨ TicksAnew c a

/-- The flag reads `value` while no call or tick is under way, and the monitor has begun to sample
it. -/
def Shows (value : Bool) (c : Config) : Prop :=
  Quiet c ∧ c.shared.cmuxReadyFlag.isSome ∧ c.shared.isCmuxReady = value

/-- The excluded state, with no sample of the other value that would still have to be followed. -/
def LeftBehind (value : Bool) (c : Config) : Prop :=
  c.shared.itsCurrentState = excluded value ∧ latestSample c.shared.cmuxReadyFlag ≠ some (!value)

theorem deviceInStep_iff {c : Config} :
    DeviceInStep c ↔
      (LeftBehind true c → ¬ Shows true c) ∧ (LeftBehind false c → ¬ Shows false c) := by
  unfold DeviceInStep LeftBehind Shows Matches excluded latestSample
  cases c.shared.cmuxReadyFlag with
  | none => simp
  | some v => cases c.shared.isCmuxReady <;> cases hv : v.get <;> simp [hv] <;> grind

/-- What a step does to the latest sample: where the monitor reads another value than before, it is
about to report it. -/
theorem latestSample_step {c c' : Config} {a : Act} (hu : Used c)
    (hs : calls.system.step c a = some c') :
    (∃ value, Samples value c a ∧ latestSample c'.shared.cmuxReadyFlag = some value ∧
      (latestSample c.shared.cmuxReadyFlag = some (!value) →
        pendingTick (c'.prog .monitor) = some (reading value))) ∨
    ((∀ value, ¬ Samples value c a) ∧
      latestSample c'.shared.cmuxReadyFlag = latestSample c.shared.cmuxReadyFlag) := by
  cases a with
  | env e =>
    cases hs
    exact .inr ⟨fun _ => id, by cases e <;> rfl⟩
  | call t d =>
    obtain ⟨x, p, -, -, rfl⟩ := Threads.callStep_eq_some hs
    exact .inr ⟨fun _ => id, rfl⟩
  | run t w =>
    obtain ⟨o, k, r, d, hp, he, rfl⟩ := Threads.runStep_eq_some hs
    obtain ⟨rfl, rfl⟩ := Threads.reply_eq he
    have hpre := (show (Program.op o k).Safe (usage t) _ from hp ▸ hu t).pre
    by_cases hinit : o = .plain .initCmuxReadyFlag
    · subst hinit
      cases t with
      | user => exact hpre.elim
      | monitor =>
        refine .inl ⟨c.shared.isCmuxReady, ⟨.inl (by rw [hp]; rfl), rfl⟩, rfl, fun h => ?_⟩
        rw [show c.shared.cmuxReadyFlag = none from hpre.1] at h
        cases h
    by_cases hsample : o = .plain .sampleCmuxReady
    · subst hsample
      cases t with
      | user => exact hpre.elim
      | monitor =>
        obtain ⟨v, hv⟩ : ∃ v, c.shared.cmuxReadyFlag = some v :=
          Option.isSome_iff_exists.1 hpre.1
        refine .inl ⟨c.shared.isCmuxReady, ⟨.inr (by rw [hp]; rfl), rfl⟩,
          by simp [Call.exec, Op.exec, hv, latestSample], fun h => ?_⟩
        have hget : v.get = !c.shared.isCmuxReady := by
          rw [hv] at h
          exact Option.some.inj h
        simp only [Function.update_self, hpre.2]
        simp [Call.exec, Op.exec, hv, hget]
    · refine .inr ⟨fun value h => ?_, congrArg latestSample
        (exec_cmuxReadyFlag hinit hsample w c.shared)⟩
      cases t with
      | user => exact h
      | monitor =>
        rw [Samples, hp] at h
        rcases h.1 with h | h
        · exact hinit (Option.some.inj h)
        · exact hsample (Option.some.inj h)

theorem Samples.unique {value value' : Bool} {c : Config} {a : Act} (h : Samples value c a)
    (h' : Samples value' c a) : value = value' := by
  cases a with
  | run t w =>
    cases t with
    | user => exact h.elim
    | monitor => exact h.2.symm.trans h'.2
  | call t d => exact h.elim
  | env e => exact h.elim

theorem latestSample_of_tick {c c' : Config} {t : Thread} {w : World} {ev : Event} (hu : Used c)
    (hs : calls.system.step c (.run t w) = some c') (htick : pendingTick (c.prog t) = some ev) :
    latestSample c'.shared.cmuxReadyFlag = latestSample c.shared.cmuxReadyFlag := by
  rcases step_state hu hs with ⟨-, -, -, -, -, -, hflag⟩ | ⟨hnone, -⟩
  · rw [hflag]
  · exact absurd ((hnone t w rfl).symm.trans htick) (by simp)

/-- A tick other than `CONNECT_REQUEST` that leaves the excluded state behind it: `DEVICE_LOST` of
the user, or a report of the other value. -/
theorem excluded_of_tick {value : Bool} {c c' : Config} {a : Act} (hu : Used c)
    (hs : calls.system.step c a = some c') (hE : TicksAnew c a)
    (hst : c'.shared.itsCurrentState = excluded value) :
    latestSample c'.shared.cmuxReadyFlag = some (!value) ∨ value = true ∧ LosesDevice c a := by
  rcases step_state hu hs with ⟨t, w, ev, rfl, htick, hstate, hflag⟩ | ⟨hnone, -⟩
  · obtain ⟨ev', hev, hne⟩ := hE
    obtain rfl : ev = ev' := Option.some.inj (htick.symm.trans hev)
    rw [hst] at hstate
    cases t with
    | monitor =>
      obtain ⟨v, hlatest, rfl⟩ := monitor_reads hu htick
      refine .inl ?_
      rw [hflag, hlatest]
      cases value <;> cases v <;> first | rfl | exact absurd hstate (by
        cases openResult w.returncode <;> simp [nextState, reading, excluded])
    | user =>
      refine .inr ?_
      have hrestored : ev ≠ .deviceRestored := by
        rintro rfl
        exact user_restores_nothing hu htick
      cases value <;> cases ev <;> cases hst : c.shared.itsCurrentState <;>
        simp_all [nextState, excluded, LosesDevice]
  · cases a with
    | run t w =>
      obtain ⟨ev, hev, -⟩ := hE
      rw [hnone t w rfl] at hev
      cases hev
    | call t d => exact hE.elim
    | env e => exact hE.elim

/-- Every other step stays in the excluded state, and enters it only where `connect()` opens
pppd. -/
theorem excluded_of_not_tick {value : Bool} {c c' : Config} {a : Act} (hu : Used c)
    (hs : calls.system.step c a = some c') (hE : ¬ TicksAnew c a) :
    (c.shared.itsCurrentState = excluded value → c'.shared.itsCurrentState = excluded value) ∧
      (c'.shared.itsCurrentState = excluded value →
        c.shared.itsCurrentState = excluded value ∨ value = false ∧ OpensConnection c a) := by
  rcases step_state hu hs with ⟨t, w, ev, rfl, htick, hstate, hflag⟩ | ⟨hnone, hstate⟩
  · obtain rfl : ev = .connectRequest := by
      by_contra hne
      exact hE ⟨ev, htick, hne⟩
    rw [hstate]
    cases t with
    | monitor =>
      obtain ⟨v, -, hv⟩ := monitor_reads hu htick
      cases v <;> cases hv
    | user =>
      cases value <;> cases hst : c.shared.itsCurrentState <;>
        cases hopened : openResult w.returncode <;>
        simp_all [nextState, excluded, OpensConnection]
  · rw [hstate]
    exact ⟨id, .inl⟩

/-- The step by which the user enters the excluded state. -/
def enters : Bool → Config → Act → Prop
  | true => LosesDevice
  | false => OpensConnection

theorem exists_of_enters {value : Bool} {c : Config} {a : Act} (h : enters value c a) :
    ∃ w ev, a = .run .user w ∧ pendingTick (c.prog .user) = some ev := by
  cases a with
  | call t d => cases value <;> exact h.elim
  | env e => cases value <;> exact h.elim
  | run t w =>
    cases t with
    | monitor => cases value <;> exact h.elim
    | user =>
      cases value with
      | true => exact ⟨w, _, rfl, h⟩
      | false => exact ⟨w, _, rfl, h.1⟩

theorem unseen_of_enters {value : Bool} {c c' : Config} {a : Act} (hu : Used c)
    (hs : calls.system.step c a = some c') (h : enters value c a)
    (hlatest : latestSample c'.shared.cmuxReadyFlag ≠ some (!value)) :
    Unseen (!value) (enters value) c a := by
  obtain ⟨w, ev, rfl, htick⟩ := exists_of_enters h
  refine ⟨h, ?_⟩
  rwa [← latestSample_of_tick hu hs htick]

theorem leftBehind_of_enters {value : Bool} {c c' : Config} {a : Act} (hu : Used c)
    (hs : calls.system.step c a = some c') (hA : Unseen (!value) (enters value) c a) :
    LeftBehind value c' := by
  obtain ⟨hentered, hunseen⟩ := hA
  obtain ⟨w, ev, rfl, htick⟩ := exists_of_enters hentered
  refine ⟨?_, latestSample_of_tick hu hs htick ▸ hunseen⟩
  rcases step_state hu hs with ⟨t, w', ev', hact, htick', hstate, -⟩ | ⟨hnone, -⟩
  · cases hact
    rw [hstate]
    cases value with
    | true =>
      obtain rfl : Event.deviceLost = ev' := Option.some.inj (Eq.trans hentered.symm htick')
      cases c.shared.itsCurrentState <;> rfl
    | false =>
      obtain ⟨hrequest, hnoConnection, hopened⟩ := hentered
      obtain rfl : Event.connectRequest = ev' := Option.some.inj (hrequest.symm.trans htick')
      rw [hnoConnection, hopened]
      rfl
  · exact absurd ((hnone _ w rfl).symm.trans htick) (by simp)

/-- Where a step leaves the excluded state behind it, that was so before, or the user has just
entered it unseen, or the monitor is about to report what it has read. -/
theorem leftBehind_step {value : Bool} {c c' : Config} {a : Act} (hu : Used c)
    (hA : ¬ Unseen (!value) (enters value) c a) (hs : calls.system.step c a = some c')
    (h : LeftBehind value c') :
    ¬ CatchesUp (!value) c a ∧ LeftBehind value c ∨
      pendingTick (c'.prog .monitor) = some (reading value) := by
  obtain ⟨hst, hlatest⟩ := h
  have hnot : ¬ enters value c a := fun hin => hA (unseen_of_enters hu hs hin hlatest)
  have htick : ¬ TicksAnew c a := by
    intro hE
    rcases excluded_of_tick hu hs hE hst with hother | ⟨rfl, hloses⟩
    · exact hlatest hother
    · exact hnot hloses
  have hbefore : c.shared.itsCurrentState = excluded value := by
    refine ((excluded_of_not_tick hu hs htick).2 hst).resolve_right ?_
    rintro ⟨rfl, hopens⟩
    exact hnot hopens
  rcases latestSample_step hu hs with ⟨v, hsample, hnow, hreport⟩ | ⟨hnone, hsame⟩
  · obtain rfl : v = value := by
      by_contra hne
      exact hlatest (hnow.trans (congrArg some (Bool.eq_not_of_ne hne)))
    by_cases hother : latestSample c.shared.cmuxReadyFlag = some (!v)
    · exact .inr (hreport hother)
    · refine .inl ⟨?_, hbefore, hother⟩
      rintro (hsees | hE)
      · exact absurd (hsees.unique hsample) (by cases v <;> decide)
      · exact htick hE
  · refine .inl ⟨?_, hbefore, hsame ▸ hlatest⟩
    rintro (hsees | hE)
    · exact hnone _ hsees
    · exact htick hE

/-- As long as the monitor has not caught up, the excluded state stays. -/
theorem LeftBehind.step {value : Bool} {c c' : Config} {a : Act} (hu : Used c)
    (h : LeftBehind value c) (hE : ¬ CatchesUp (!value) c a)
    (hs : calls.system.step c a = some c') : LeftBehind value c' := by
  refine ⟨(excluded_of_not_tick hu hs (hE ∘ .inr)).1 h.1, ?_⟩
  rcases latestSample_step hu hs with ⟨v, hsample, hnow, -⟩ | ⟨-, hsame⟩
  · rw [hnow]
    rintro hv
    obtain rfl : v = !value := Option.some.inj hv
    exact hE (.inl hsample)
  · rw [hsame]
    exact h.2

theorem pendingTick_step {ev : Event} {c c' : Config} {a : Act}
    (h : pendingTick (c.prog .monitor) = some ev) (hev : ev ≠ .connectRequest)
    (hE : ¬ TicksAnew c a) (hs : calls.system.step c a = some c') :
    pendingTick (c'.prog .monitor) = some ev := by
  cases a with
  | env e =>
    cases hs
    exact h
  | call t d =>
    obtain ⟨x, p, hp, -, rfl⟩ := Threads.callStep_eq_some hs
    cases t with
    | user => exact h
    | monitor =>
      rw [hp] at h
      cases h
  | run t w =>
    obtain ⟨o, k, r, d, -, -, rfl⟩ := Threads.runStep_eq_some hs
    cases t with
    | user => exact h
    | monitor => exact absurd ⟨ev, h, hev⟩ hE

/-- The excluded state is left before the flag shows the value that excludes it, if and only if
the monitor catches up in time with every step by which the user enters that state unseen. -/
theorem leftBehind_iff (value flag : Bool) (acts : List Act) :
    calls.system.Always (calls.init flag) acts (fun c => LeftBehind value c → ¬ Shows value c) ↔
      calls.system.After (calls.init flag) acts (Unseen (!value) (enters value))
        (CatchesUp (!value)) fun c => ¬ Shows value c := by
  refine System.always_iff_after (I := Used)
    (K := fun c => pendingTick (c.prog .monitor) = some (reading value))
    (fun _ _ _ => Used.step) ?_ ?_ ?_ ?_ ?_ ?_ (init_used flag) ?_ acts
  · exact fun c a c' hu hA hs => leftBehind_of_enters hu hs hA
  · exact fun c a c' hu hA hs h => (leftBehind_step hu hA hs h).imp And.right id
  · exact fun c a c' hu hA hE hs h => (leftBehind_step hu hA hs h).resolve_left fun h => h.1 hE
  · exact fun c a c' hu hE hs h => h.step hu hE hs
  · exact fun c a c' hu hE hs h => pendingTick_step h (by cases value <;> decide) (hE ∘ .inr) hs
  · rintro c hreport ⟨⟨-, hpending⟩, -⟩
    exact absurd (hpending.symm.trans hreport) (by simp)
  · cases value <;> simp [calls.init, LeftBehind, excluded]

/-- In every run the state stays in step with the device if and only if the monitor sees what the
user's ticks went by: after a `DEVICE_LOST` of `connect()` or `disconnect()` that the monitor has
not sampled, it samples the missing CMUX, or a tick other than `CONNECT_REQUEST` comes, before the
flag shows true; and after `connect()` has opened pppd with a CMUX that the monitor has not sampled
as ready, it samples that, or such a tick comes, before the flag shows false. -/
theorem device_in_step_iff (flag : Bool) (acts : List Act) :
    calls.system.Always (calls.init flag) acts DeviceInStep ↔
      calls.system.After (calls.init flag) acts (Unseen false LosesDevice) (CatchesUp false)
          (fun c => ¬ Shows true c) ∧
        calls.system.After (calls.init flag) acts (Unseen true OpensConnection) (CatchesUp true)
          (fun c => ¬ Shows false c) := by
  have hin : DeviceInStep = _ := funext fun c => propext (deviceInStep_iff (c := c))
  rw [hin, System.always_and]
  exact and_congr (leftBehind_iff true flag acts) (leftBehind_iff false flag acts)

/-- `connect()` sees a pulse of the flag that falls between two samples of the monitor: nothing
will report the device restored. -/
def pulseSchedule : List Act :=
  .call .monitor () :: steps .monitor 1 ++ .env (.setCmuxReady false) ::
    .call .user .connect :: steps .user 2 ++ [.env (.setCmuxReady true)]

theorem pulse_loses_connection :
    ¬ ∀ flag acts, calls.system.Always (calls.init flag) acts DeviceInStep := by
  intro h
  have hin := (h true pulseSchedule).final ⟨by decide, by decide⟩ (by decide)
  exact hin.1 (by decide) (by decide)

end PppConnection

end SgmDevice
