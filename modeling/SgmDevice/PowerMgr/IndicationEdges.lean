import SgmDevice.PowerMgr.ControllerThreads

/-!
# No change of the power indication is lost

The handler reads the pin, and only later is the flag withdrawn; a change in between is not
forgotten because its interrupt needs `itsLockingMutex`, which the controller holds all the while.
So what the handler has read is the level of the pin as long as no delivery is on its way, and the
withdrawn flag leaves a power state that agrees with the pin (`no_edge_lost`).
-/

namespace SgmDevice

namespace ControllerThreads

open Concurrency PowerMgr ModemPowerController

/-- The power state says `ENABLED` if and only if the pin reads that the modem is on. -/
def Agrees (s : Shared) : Prop :=
  s.data.itsPowerState = .enabled ↔ indication s.active = MODEM_IND_POWER_ON

/-- A change of the pin has not been delivered, or its interrupt has not set the flag yet. -/
def Pending (c : Config) : Prop :=
  c.shared.deliveries ≠ 0 ∨ (c.prog .isr).next = some .lock ∨
    (c.prog .isr).next = some (.setPowerStateChanged true)

/-- The controller sleeps, or is about to, or needs the mutex to look at the flag again. -/
def Waiting (c : Config) : Prop :=
  (c.prog .controller).next = some .sleep ∨ (c.prog .controller).next = some .wake ∨
    (c.prog .controller).next = some .lock

/-- When the controller waits and nothing is on its way to it, it has followed the pin. -/
def EdgesFollowed (c : Config) : Prop :=
  Waiting c → c.shared.powerStateChanged = false → ¬ Pending c → Agrees c.shared

/-! ## The contract of the threads -/

/-- Whether a thread holds the mutex, and, for the controller, what it handles and has set. -/
structure EdgeView where
  holds : Bool
  handling : Option Int
  itsPowerState : PowerState
  deriving DecidableEq, Repr

def edgeView (t : Thread) (s : Shared) : EdgeView where
  holds := s.owner = some t
  handling := if t = .controller then s.handling else none
  itsPowerState := if t = .controller then s.data.itsPowerState else .undefined

/-- What a statement may find. -/
def EdgeView.allows (t : Thread) (g : EdgeView) : Stmt → Prop
  | .plain (.setPowerState _) => g.handling ≠ none
  | .lock | .sleep | .wake => g.handling = none
  | .setPowerStateChanged true => t = .isr ∧ g.holds
  | .awaitDelivery => t = .isr
  | .setPowerStateChanged false =>
    ∃ v, g.handling = some v ∧ (g.itsPowerState = .enabled ↔ v = MODEM_IND_POWER_ON)
  | _ => True

/-- How an interrupt goes on until it has set the flag. -/
def SetsFlag (o : Stmt) (next : Option Stmt) : Prop :=
  (o = .awaitDelivery → next = some .lock) ∧ (o = .lock → next = some (.setPowerStateChanged true))

/-- The view after a statement. -/
def EdgeView.after (t : Thread) (g : EdgeView) : (o : Stmt) → o.Res → EdgeView
  | .plain .readPowerInd, v => if t = .controller then { g with handling := some v } else g
  | .plain (.setPowerState st), _ => { g with itsPowerState := st }
  | .lock, _ => { g with holds := true }
  | .unlock, _ | .sleep, _ => { g with holds := false }
  | .setPowerStateChanged false, _ => { g with handling := none }
  | _, _ => g

/-- The pin reads one of two values. -/
def Readable : (o : Stmt) → o.Res → Prop
  | .plain .readPowerInd, v => v = MODEM_IND_POWER_ON ∨ v = MODEM_IND_POWER_OFF
  | _, _ => True

/-- Between the parts of `operator()()` the controller keeps the mutex. -/
def Thread.holdsAt : (t : Thread) → t.Ret → Bool
  | .controller, .waiting | .controller, .awake => true
  | _, _ => false

def edgeUse (t : Thread) : Program.Contract Stmt Stmt.Res t.Ret EdgeView where
  pre g o k := (g.handling ≠ none → g.holds = true) ∧ g.allows t o ∧
    (t = .isr → ∀ r, SetsFlag o (k r).next)
  move g o r g' := g' = g.after t o r ∧ Readable o r
  post g a := g.handling = none ∧ (t.holdsAt a = true → g.holds = true)

theorem call_edges (request : Request) {g : EdgeView} (hg : g.handling = none) :
    request.call.Safe (edgeUse .caller) g := by
  cases request <;>
    simp [Request.call, Request.code, method, turnOn, turnOffHw, resetHw, Program.perform,
      Program.safe_op, edgeUse, EdgeView.allows, EdgeView.after, Thread.holdsAt, hg]

theorem controllerThread_edges (point : ControllerPoint) {g : EdgeView}
    (hg : g.handling = none) (hheld : Thread.holdsAt .controller point = true → g.holds = true) :
    (controllerThread point).Safe (edgeUse .controller) g := by
  cases point with
  | whileTrue =>
    simp [controllerThread, controllerLock, Program.perform, Program.safe_op, edgeUse,
      EdgeView.allows, EdgeView.after, hg]
  | waiting =>
    have holds := hheld rfl
    simp [controllerThread, controllerWait, Program.perform, Program.safe_op, edgeUse,
      EdgeView.allows, EdgeView.after, hg, holds]
  | awake =>
    have holds := hheld rfl
    simp only [controllerThread, controllerBody, method, powerIndChangeHandler, Program.perform,
      Program.op_bind, Program.ret_bind, Program.interp_op]
    apply Program.safe_op.2
    refine ⟨⟨fun _ => holds, trivial, fun ht => absurd ht (by decide)⟩, ?_⟩
    intro v g' hmove
    rw [hmove.1]
    rcases hmove.2 with rfl | rfl <;>
      simp [PowerManager.onPowerIndChange, Program.perform, Program.safe_op, edgeUse,
        EdgeView.allows, EdgeView.after, Thread.holdsAt, holds, ind_off_ne_on, ind_off_ne_on.symm]

theorem powerIndicationIsr_edges {g : EdgeView} (hg : g.handling = none) :
    powerIndicationIsr.Safe (edgeUse .isr) g := by
  simp [powerIndicationIsr, Program.perform, Program.safe_op, edgeUse, EdgeView.allows,
    EdgeView.after, SetsFlag, Thread.holdsAt, hg]

/-! ## What a statement does to the views -/

theorem handling_of_view {t : Thread} {s : Shared} {v : Int}
    (h : (edgeView t s).handling = some v) : t = .controller ∧ s.handling = some v := by
  cases t with
  | controller => exact ⟨rfl, h⟩
  | caller | isr => cases h

theorem effect_edgeView {t : Thread} {w : Wake} {o : Stmt} {s : Shared}
    (h : (edgeView t s).allows t o) (henabled : o.enabled t w s = true) :
    edgeView t (o.effect t s).2 = (edgeView t s).after t o (o.effect t s).1 ∧
      Readable o (o.effect t s).1 := by
  cases o with
  | plain o =>
    cases o with
    | readPowerInd =>
      refine ⟨?_, indication_eq s.active⟩
      cases t <;> simp [edgeView, EdgeView.after, Stmt.effect, Op.exec, note_handling]
    | setPowerState st =>
      cases t with
      | controller => exact ⟨rfl, trivial⟩
      | caller | isr => exact absurd rfl h
    | _ => cases t <;> exact ⟨rfl, trivial⟩
  | setPowerStateChanged b => cases t <;> cases b <;> exact ⟨rfl, trivial⟩
  | lock | unlock | sleep => exact ⟨by simp [edgeView, EdgeView.after, Stmt.effect], trivial⟩
  | enter | powerStateChanged | wake | notifyAll | awaitDelivery => exact ⟨rfl, trivial⟩

theorem effect_edgeView_ne {t u : Thread} {w : Wake} {o : Stmt} {s : Shared}
    (h : (edgeView t s).allows t o) (henabled : o.enabled t w s = true) (hu : u ≠ t) :
    edgeView u (o.effect t s).2 = edgeView u s := by
  cases o with
  | plain o =>
    cases u with
    | caller | isr => simp [edgeView, Stmt.effect]
    | controller =>
      cases o with
      | setPowerState st => exact absurd (if_neg hu.symm) h
      | _ => simp [edgeView, Stmt.effect, Op.exec, note_handling, hu.symm]
  | setPowerStateChanged b =>
    cases b with
    | true => simp [edgeView, Stmt.effect]
    | false =>
      obtain ⟨v, hv, -⟩ := h
      have ht : t = .controller := (handling_of_view hv).1
      simp [edgeView, Stmt.effect, ht ▸ hu]
  | lock =>
    have hfree : s.owner = none := of_decide_eq_true henabled
    simp [edgeView, Stmt.effect, hfree, hu.symm]
  | unlock | sleep =>
    have howner : s.owner = some t := of_decide_eq_true henabled
    simp [edgeView, Stmt.effect, howner, hu.symm]
  | enter | powerStateChanged | wake | notifyAll | awaitDelivery => rfl

theorem edge_local : Threads.Local threads edgeUse edgeView fun _ _ => True where
  own c t w o k r s _ _ hpre he := by
    obtain ⟨henabled, rfl, rfl⟩ := exec_eq_some he
    exact effect_edgeView hpre.2.1 henabled
  other c t w o k r s _ _ hpre he u hu p safe := by
    obtain ⟨henabled, rfl, rfl⟩ := exec_eq_some he
    rwa [effect_edgeView_ne hpre.2.1 henabled hu]
  entry t a d p g hg he := by
    cases he
    cases t with
    | caller => exact call_edges d hg.1
    | controller => exact controllerThread_edges a hg.1 hg.2
    | isr => exact powerIndicationIsr_edges hg.1
  env e s s' he t p safe := by
    cases he
    exact safe

/-! ## The invariant -/

/-- What the controller handles is the level of the pin, and after it the power state is, unless
something is on its way. -/
structure Accounted (c : Config) : Prop where
  handled : ∀ v, c.shared.handling = some v →
    Pending c ∨ (v = MODEM_IND_POWER_ON ↔ indication c.shared.active = MODEM_IND_POWER_ON)
  settled : c.shared.handling = none →
    Pending c ∨ c.shared.powerStateChanged = true ∨ Agrees c.shared

structure Followed (c : Config) : Prop extends Accounted c where
  safe : Threads.AllSafe edgeUse edgeView c

theorem init_followed {active : Bool} {d : Data}
    (agrees : d.itsPowerState = .enabled ↔ indication active = MODEM_IND_POWER_ON) :
    Followed (threads.init active d) where
  safe t := by cases t <;> exact ⟨rfl, nofun⟩
  handled v hv := by cases hv
  settled _ := .inr (.inr agrees)

/-- While a reading is handled the controller holds the mutex. -/
theorem Followed.owner {c : Config} {v : Int} (h : Followed c) (hv : c.shared.handling = some v) :
    c.shared.owner = some .controller := by
  have safe := h.safe .controller
  cases hp : c.prog .controller with
  | ret a =>
    rw [hp] at safe
    cases hv.symm.trans safe.1
  | op o k =>
    rw [hp] at safe
    simpa [edgeView] using safe.pre.1 (by simp [edgeView, hv])

theorem Followed.edgesFollowed {c : Config} (h : Followed c) : EdgesFollowed c := by
  intro hwait hflag hpending
  have hnone : c.shared.handling = none := by
    have safe := h.safe .controller
    rcases hwait with hnext | hnext | hnext <;>
    · obtain ⟨k, hp⟩ := Program.eq_op_of_next hnext
      rw [hp] at safe
      exact safe.pre.2.1
  rcases h.settled hnone with hp | hf | ha
  · exact absurd hp hpending
  · rw [hflag] at hf
    cases hf
  · exact ha

/-! ## Every step -/

theorem effect_deliveries {t : Thread} {o : Stmt} (s : Shared) (ho : o ≠ .awaitDelivery) :
    (o.effect t s).2.deliveries = s.deliveries := by
  cases o with
  | plain o => exact note_deliveries ..
  | awaitDelivery => exact absurd rfl ho
  | _ => rfl

/-- Only the flag ends what is on its way. -/
theorem Pending.run {c : Config} {t : Thread} {o : Stmt} {k : o.Res → Program Stmt Stmt.Res t.Ret}
    (h : Pending c) (hp : c.prog t = .op o k) (hpre : (edgeUse t).pre (edgeView t c.shared) o k)
    (ho : o ≠ .setPowerStateChanged true) (r : o.Res) :
    Pending ⟨(o.effect t c.shared).2, Function.update c.prog t (k r)⟩ := by
  by_cases ht : t = .isr
  · subst ht
    obtain ⟨hdelivery, hlock⟩ := hpre.2.2 rfl r
    by_cases hd : o = .awaitDelivery
    · exact .inr (.inl (by simpa using hdelivery hd))
    by_cases hl : o = .lock
    · exact .inr (.inr (by simpa using hlock hl))
    rw [Pending, hp, Program.next_op] at h
    rcases h with h | h | h
    · exact .inl (by rwa [effect_deliveries _ hd])
    · exact absurd (Option.some.inj h) hl
    · exact absurd (Option.some.inj h) ho
  · have hd : o ≠ .awaitDelivery := by
      rintro rfl
      exact ht hpre.2.1
    rcases h with h | h
    · exact .inl (by rwa [effect_deliveries _ hd])
    · exact .inr (by simpa [Function.update_of_ne (Ne.symm ht)] using h)

/-- The statements that neither set the power state nor the flag and read no level to handle. -/
def Quiet (t : Thread) : Stmt → Prop
  | .plain .readPowerInd => t ≠ .controller
  | .plain (.setPowerState _) | .setPowerStateChanged _ => False
  | _ => True

theorem effect_of_quiet {t : Thread} {o : Stmt} (s : Shared) (ho : Quiet t o) :
    (o.effect t s).2.handling = s.handling ∧
      (o.effect t s).2.powerStateChanged = s.powerStateChanged ∧
      (o.effect t s).2.active = s.active ∧
      (o.effect t s).2.data.itsPowerState = s.data.itsPowerState := by
  cases o with
  | plain o =>
    cases o with
    | readPowerInd =>
      have ht : t ≠ .controller := ho
      simp [Stmt.effect, Op.exec, note_handling, ht]
    | setPowerState st => exact ho.elim
    | _ => simp [Stmt.effect, Op.exec, note_handling]
  | setPowerStateChanged b => exact ho.elim
  | _ => exact ⟨rfl, rfl, rfl, rfl⟩

/-- The configuration after a statement of thread `t`, which goes on with `p`. -/
def Config.after (c : Config) (t : Thread) (o : Stmt) (p : Program Stmt Stmt.Res t.Ret) : Config :=
  ⟨(o.effect t c.shared).2, Function.update c.prog t p⟩

theorem Accounted.quiet {c : Config} {t : Thread} {o : Stmt} {p : Program Stmt Stmt.Res t.Ret}
    (h : Accounted c) (hquiet : Quiet t o) (hpending : Pending c → Pending (c.after t o p)) :
    Accounted (c.after t o p) := by
  obtain ⟨hhandling, hflag, hactive, hstate⟩ := effect_of_quiet c.shared hquiet
  constructor
  · intro v hv
    rw [Config.after, hactive]
    exact (h.handled v (hhandling.symm.trans hv)).imp_left hpending
  · intro hnone
    rw [Config.after, Agrees, hflag, hactive, hstate]
    exact (h.settled (hhandling.symm.trans hnone)).imp_left hpending

/-- What the controller reads is the level of the pin. -/
theorem accounted_readPowerInd (c : Config) (p : Program Stmt Stmt.Res ControllerPoint) :
    Accounted (c.after .controller (.plain .readPowerInd) p) where
  handled v hv := by
    cases hv
    exact .inr Iff.rfl
  settled hnone := by cases hnone

/-- The power state is set while a reading is handled, and compared with the pin after that. -/
theorem Accounted.setPowerState {c : Config} {st : PowerState} {v : Int}
    {p : Program Stmt Stmt.Res ControllerPoint} (h : Accounted c)
    (hv : c.shared.handling = some v)
    (hpending : Pending c → Pending (c.after .controller (.plain (.setPowerState st)) p)) :
    Accounted (c.after .controller (.plain (.setPowerState st)) p) where
  handled v' hv' := (h.handled v' hv').imp_left hpending
  settled hnone := absurd (hv.symm.trans hnone) (Option.some_ne_none v)

/-- The interrupt holds the mutex when it sets the flag, so nothing is being handled. -/
theorem Followed.setFlag {c : Config} {p : Program Stmt Stmt.Res Unit} (h : Followed c)
    (howner : c.shared.owner = some .isr) :
    Accounted (c.after .isr (.setPowerStateChanged true) p) where
  handled v hv := by
    have hcontroller := h.owner hv
    rw [howner] at hcontroller
    cases hcontroller
  settled _ := .inr (.inl rfl)

/-- The flag is withdrawn when the power state says what has been read. -/
theorem Accounted.withdrawFlag {c : Config} {v : Int} {p : Program Stmt Stmt.Res ControllerPoint}
    (h : Accounted c) (hv : c.shared.handling = some v)
    (hstate : c.shared.data.itsPowerState = .enabled ↔ v = MODEM_IND_POWER_ON)
    (hpending : Pending c → Pending (c.after .controller (.setPowerStateChanged false) p)) :
    Accounted (c.after .controller (.setPowerStateChanged false) p) where
  handled v' hv' := by cases hv'
  settled _ := by
    rcases h.handled v hv with hc | hread
    · exact .inl (hpending hc)
    · exact .inr (.inr (hstate.trans hread))

/-- A statement that is not quiet is the interrupt's or one of the handler's. -/
theorem Followed.run {c : Config} {t : Thread} {o : Stmt} {k : o.Res → Program Stmt Stmt.Res t.Ret}
    (h : Followed c) (hp : c.prog t = .op o k)
    (hpre : (edgeUse t).pre (edgeView t c.shared) o k) (r : o.Res) :
    Accounted (c.after t o (k r)) := by
  have hpending : o ≠ .setPowerStateChanged true → Pending c → Pending (c.after t o (k r)) :=
    fun ho hc => hc.run hp hpre ho r
  by_cases hquiet : Quiet t o
  · apply h.quiet hquiet
    apply hpending
    rintro rfl
    exact hquiet
  · cases o with
    | plain o =>
      cases o with
      | readPowerInd =>
        obtain rfl : t = .controller := not_not.1 hquiet
        exact accounted_readPowerInd c (k r)
      | setPowerState st =>
        obtain ⟨v, hv⟩ := Option.ne_none_iff_exists'.1 hpre.2.1
        obtain ⟨rfl, hv⟩ := handling_of_view hv
        exact h.setPowerState hv (hpending (by simp))
      | _ => exact absurd trivial hquiet
    | setPowerStateChanged b =>
      cases b with
      | true =>
        obtain ⟨rfl, hheld⟩ := hpre.2.1
        exact h.setFlag (by simpa [edgeView] using hheld)
      | false =>
        obtain ⟨v, hv, hstate⟩ := hpre.2.1
        obtain ⟨rfl, hv⟩ := handling_of_view hv
        exact h.withdrawFlag hv hstate (hpending (by decide))
    | _ => exact absurd trivial hquiet

theorem Followed.step {c c' : Config} {a : Act} (h : Followed c)
    (hs : threads.system.step c a = some c') : Followed c' := by
  have safe := h.safe.step edge_local trivial hs
  cases a with
  | run t w =>
    obtain ⟨o, k, r, s, hp, he, rfl⟩ := Threads.runStep_eq_some hs
    have hpre := (hp ▸ h.safe t : (Program.op o k).Safe _ _).pre
    obtain ⟨-, rfl, rfl⟩ := exec_eq_some he
    exact ⟨h.run hp hpre _, safe⟩
  | call t d =>
    obtain ⟨a, p, hp, he, rfl⟩ := Threads.callStep_eq_some hs
    have hpending : Pending c → Pending ⟨c.shared, Function.update c.prog t p⟩ := by
      rintro (hd | hnext)
      · exact .inl hd
      · refine .inr ?_
        by_cases ht : t = .isr
        · subst ht
          rw [hp] at hnext
          simp at hnext
        · simpa [Function.update_of_ne (Ne.symm ht)] using hnext
    exact ⟨⟨fun v hv => (h.handled v hv).imp_left hpending,
      fun hv => (h.settled hv).imp_left hpending⟩, safe⟩
  | env e =>
    cases hs
    have hpending : Pending ⟨e.exec c.shared, c.prog⟩ := .inl (Nat.succ_ne_zero _)
    exact ⟨⟨fun _ _ => .inl hpending, fun _ => .inl hpending⟩, safe⟩

/-- From a power state that agrees with the pin, in every run, however often and whenever the pin
changes: a controller that waits without its flag, with nothing on its way, agrees with the pin. -/
theorem no_edge_lost (active : Bool) (d : Data)
    (agrees : d.itsPowerState = .enabled ↔ indication active = MODEM_IND_POWER_ON)
    (acts : List Act) :
    threads.system.Always (threads.init active d) acts EdgesFollowed :=
  (System.always_of_invariant (fun _ _ _ h hs => Followed.step h hs) (init_followed agrees)
    acts).mono fun _ h => h.edgesFollowed

/-- The modem goes off, and the controller handles that and waits again. -/
def switchedOffSchedule : List Act :=
  .env .toggle :: .call .isr () :: steps .isr 5 ++ .call .controller () :: steps .controller 1 ++
    .call .controller () :: steps .controller 1 ++ .call .controller () :: steps .controller 15 ++
    .call .controller () :: steps .controller 1 ++ .call .controller () :: steps .controller 2

theorem no_edge_lost_switchedOff :
    Agrees (threads.system.final (threads.init true { itsPowerState := .enabled })
      switchedOffSchedule).shared := by
  apply (no_edge_lost true { itsPowerState := .enabled } (by decide) switchedOffSchedule).final
  · right
    left
    decide
  · decide
  · show ¬ (_ ∨ ((threads.system.final _ _).prog .isr).next = _ ∨ _)
    decide

end ControllerThreads

end SgmDevice
