import SgmDevice.PowerMgr.PowerManager
import SgmDevice.Concurrency.Threads

/-!
# When the modem power is cut

`stabilizePowerState` and `powerIndChangeHandler` withdraw `isModemReady` before the shared mutex is
free while the power is off; `turnOffHw` and `resetHw` do not touch the flag.  So the power is cut
safely if and only if these two are called only when the flag is down (`power_cut_safely_iff`).
-/

namespace SgmDevice

namespace ModemPowerController

open Concurrency PowerMgr

/-- The operations of the controller. -/
inductive Operation where
  | turnOn
  | turnOffHw (keepPower : Bool)
  | resetHw
  | stabilizePowerState
  | powerIndChangeHandler
  deriving DecidableEq, Repr

/-- The statements of an operation, whose result is not looked at. -/
def Operation.code : Operation → Program Op Op.Res Unit
  | .turnOn => ModemPowerController.turnOn >>= fun _ => .ret ()
  | .turnOffHw keepPower => ModemPowerController.turnOffHw keepPower >>= fun _ => .ret ()
  | .resetHw => ModemPowerController.resetHw >>= fun _ => .ret ()
  | .stabilizePowerState => ModemPowerController.stabilizePowerState
  | .powerIndChangeHandler =>
    ModemPowerController.powerIndChangeHandler PowerManager.onPowerIndChange

/-- The data, and whether the controller holds the mutex in shared memory. -/
structure Held where
  data : Data
  access : Bool := false

/-- What a statement makes of the mutex in shared memory. -/
def heldAfter (access : Bool) : Op → Bool
  | .startAccess => true
  | .endAccess => false
  | _ => access

/-- The controller runs its operations one after the other, a statement at a step. -/
def controller (w : World) : Threads Unit Op Op.Res Held Unit (fun _ => Unit) (fun _ => Operation)
    Empty where
  exec _ o _ s := some ((o.exec w s.data).1, ⟨(o.exec w s.data).2, heldAfter s.access o⟩)
  entry _ _ operation := some operation.code
  env e _ := e.elim

abbrev ControllerConfig := Threads.Config Op Op.Res Held fun _ : Unit => Unit

abbrev ControllerAct := Threads.Act Unit (fun _ : Unit => Operation) Empty

/-- No operation is under way. -/
def controller.init (d : Data) : ControllerConfig := ⟨⟨d, false⟩, fun _ => .ret ()⟩

/-- The program executes `setModemReady(false)` before it gives the shared mutex back. -/
def WithdrawsReady {α : Type} : Program Op Op.Res α → Prop
  | .ret _ => False
  | .op o k => o = .setModemReady false ∨ o ≠ .endAccess ∧ ∀ r, WithdrawsReady (k r)

/-- When the next statement cuts the power, the flag is down, or it goes down before the mutex is
free. -/
def CutsSafely (c : ControllerConfig) : Prop :=
  (c.prog ()).next = some (.writeModemPowerSet MODEM_POWER_OFF) →
    c.shared.data.shared.isModemReady = false ∨
      c.shared.access = true ∧ WithdrawsReady (c.prog ())

/-- `turnOffHw` and `resetHw` are called only while the flag is down. -/
def CalledUnready (c : ControllerConfig) : ControllerAct → Prop
  | .call _ (.turnOffHw _) | .call _ .resetHw => c.shared.data.shared.isModemReady = false
  | _ => True

/-! ## The contract of the operations -/

/-- The flag, and whether the mutex is held. -/
structure ReadyView where
  isModemReady : Bool
  access : Bool
  deriving DecidableEq, Repr

def readyView (s : Held) : ReadyView := ⟨s.data.shared.isModemReady, s.access⟩

/-- The view after a statement. -/
def ReadyView.after (g : ReadyView) : Op → ReadyView
  | .setModemReady flag => { g with isModemReady := flag }
  | o => { g with access := heldAfter g.access o }

/-- The power is cut safely. -/
def cutUse : Program.Contract Op Op.Res Unit ReadyView where
  pre g o k := o = .writeModemPowerSet MODEM_POWER_OFF →
    g.isModemReady = false ∨ g.access = true ∧ WithdrawsReady (.op o k)
  move g o _ g' := g' = g.after o
  post _ _ := True

theorem exec_readyView (w : World) (o : Op) (s : Held) :
    readyView ⟨(o.exec w s.data).2, heldAfter s.access o⟩ = (readyView s).after o := by
  cases o <;> rfl

theorem cutsSafely_of_safe {c : ControllerConfig}
    (h : (c.prog ()).Safe cutUse (readyView c.shared)) : CutsSafely c := by
  intro hnext
  obtain ⟨k, hp⟩ := Program.eq_op_of_next hnext
  rw [hp] at h ⊢
  exact h.pre rfl

theorem turnOn_safe (g : ReadyView) : Operation.turnOn.code.Safe cutUse g := by
  simp [Operation.code, turnOn, Program.perform, Program.safe_op, cutUse, MODEM_POWER_ON,
    MODEM_POWER_OFF]

/-- The hard shutdown comes after the flag has gone down. -/
theorem stabilizePowerState_safe (g : ReadyView) :
    Operation.stabilizePowerState.code.Safe cutUse g := by
  simp [Operation.code, stabilizePowerState, Program.perform, Program.safe_op, cutUse,
    ReadyView.after, heldAfter, MODEM_POWER_ON, MODEM_POWER_OFF, MODEM_IND_POWER_OFF]

/-- The handler holds the mutex until the flag has gone down. -/
theorem powerIndChangeHandler_safe (g : ReadyView) :
    Operation.powerIndChangeHandler.code.Safe cutUse g := by
  simp [Operation.code, powerIndChangeHandler, PowerManager.onPowerIndChange, Program.perform,
    Program.safe_op, cutUse, ReadyView.after, heldAfter, WithdrawsReady, MODEM_POWER_OFF]

theorem WithdrawsReady.rest {α : Type} {o : Op} {k : o.Res → Program Op Op.Res α}
    (h : WithdrawsReady (.op o k)) (ho : o ≠ .setModemReady false) (r : o.Res) :
    WithdrawsReady (k r) :=
  (h.resolve_left ho).2 r

/-- The other two begin by cutting the power, and never touch the flag. -/
theorem turnOffHw_next (keepPower : Bool) :
    (Operation.turnOffHw keepPower).code.next = some (.writeModemPowerSet MODEM_POWER_OFF) ∧
      ¬ WithdrawsReady (Operation.turnOffHw keepPower).code := by
  refine ⟨rfl, ?_⟩
  simp [Operation.code, turnOffHw, Program.perform, WithdrawsReady]

theorem resetHw_next :
    Operation.resetHw.code.next = some (.writeModemPowerSet MODEM_POWER_OFF) ∧
      ¬ WithdrawsReady Operation.resetHw.code := by
  refine ⟨rfl, fun hcut => ?_⟩
  have hidle := hcut.rest (by decide) ()
  have hon := hidle.rest (by decide) ()
  have hignition := hon.rest (by decide) ()
  have hread := hignition.rest (by decide) ()
  -- the operation may return after its first reading
  exact hread.rest (by decide) MODEM_IND_POWER_ON

theorem turnOffHw_safe {g : ReadyView} (hready : g.isModemReady = false) (keepPower : Bool) :
    (Operation.turnOffHw keepPower).code.Safe cutUse g := by
  simp [Operation.code, turnOffHw, Program.perform, Program.safe_op, cutUse, hready]

theorem resetHw_safe {g : ReadyView} (hready : g.isModemReady = false) :
    Operation.resetHw.code.Safe cutUse g := by
  simp [Operation.code, resetHw, Program.perform, Program.safe_op, cutUse, hready, MODEM_POWER_ON,
    MODEM_POWER_OFF]

/-! ## Every sequence of operations -/

theorem code_safe {c : ControllerConfig} {operation : Operation}
    (hG : CalledUnready c (.call () operation)) :
    operation.code.Safe cutUse (readyView c.shared) := by
  cases operation with
  | turnOn => exact turnOn_safe _
  | turnOffHw keepPower =>
    apply turnOffHw_safe
    exact hG
  | resetHw =>
    apply resetHw_safe
    exact hG
  | stabilizePowerState => exact stabilizePowerState_safe _
  | powerIndChangeHandler => exact powerIndChangeHandler_safe _

/-- The rest of the operation under way cuts the power safely. -/
def CutsOn (c : ControllerConfig) : Prop := (c.prog ()).Safe cutUse (readyView c.shared)

theorem CutsOn.step {w : World} {c c' : ControllerConfig} {a : ControllerAct} (h : CutsOn c)
    (hG : CalledUnready c a) (hs : (controller w).system.step c a = some c') : CutsOn c' := by
  cases a with
  | run t w' =>
    obtain ⟨o, k, r, s, hp, he, rfl⟩ := Threads.runStep_eq_some hs
    obtain ⟨rfl, rfl⟩ := Threads.reply_eq he
    have safe : (Program.op o k).Safe cutUse (readyView c.shared) := hp ▸ h
    have hview := exec_readyView w o c.shared
    simpa [CutsOn] using safe.move hview
  | call t operation =>
    obtain ⟨a, p, -, he, rfl⟩ := Threads.callStep_eq_some hs
    cases he
    simpa [CutsOn] using code_safe hG
  | env e => exact e.elim

/-- A call of `turnOffHw` or `resetHw` while the flag is up. -/
theorem not_cutsSafely_of_call {w : World} {c c' : ControllerConfig} {operation : Operation}
    (hready : c.shared.data.shared.isModemReady = true)
    (hnext : operation.code.next = some (.writeModemPowerSet MODEM_POWER_OFF) ∧
      ¬ WithdrawsReady operation.code)
    (hs : (controller w).system.step c (.call () operation) = some c') : ¬ CutsSafely c' := by
  obtain ⟨a, p, -, he, rfl⟩ := Threads.callStep_eq_some hs
  cases he
  intro hcuts
  rcases hcuts (by simpa using hnext.1) with hdown | ⟨-, hwithdraws⟩
  · rw [hready] at hdown
    cases hdown
  · exact hnext.2 (by simpa using hwithdraws)

theorem not_cutsSafely {w : World} {c c' : ControllerConfig} {a : ControllerAct}
    (hG : ¬ CalledUnready c a) (hs : (controller w).system.step c a = some c') :
    ¬ CutsSafely c' := by
  cases a with
  | run t w' => exact absurd trivial hG
  | env e => exact e.elim
  | call t operation =>
    cases operation with
    | turnOffHw keepPower =>
      exact not_cutsSafely_of_call (eq_true_of_ne_false hG) (turnOffHw_next keepPower) hs
    | resetHw => exact not_cutsSafely_of_call (eq_true_of_ne_false hG) resetHw_next hs
    | turnOn | stabilizePowerState | powerIndChangeHandler => exact absurd trivial hG

/-- Whatever the pins and the modem answer, every sequence of operations cuts the power safely if
and only if `turnOffHw` and `resetHw` are called only while the flag is down. -/
theorem power_cut_safely_iff (w : World) (d : Data) (acts : List ControllerAct) :
    (controller w).system.Always (controller.init d) acts CutsSafely ↔
      (controller w).system.Obeys (controller.init d) acts CalledUnready := by
  have init : CutsOn (controller.init d) := trivial
  exact System.always_iff_obeys (fun _ => cutsSafely_of_safe)
    (fun _ _ _ h hG hs => CutsOn.step h hG hs) (fun _ _ _ _ hG hs => not_cutsSafely hG hs) init acts

/-- `turnOffHw` with a modem that is ready. -/
theorem turnOffHw_cuts_ready :
    ¬ ∀ (w : World) (d : Data) (acts : List ControllerAct),
      (controller w).system.Always (controller.init d) acts CutsSafely := by
  intro h
  have hcuts := (h {} { shared := { isModemReady := true } }
    [.call () (.turnOffHw false)]).final
  rcases hcuts rfl with hdown | ⟨hheld, -⟩
  · exact absurd hdown (by decide)
  · exact absurd hheld (by decide)

end ModemPowerController

end SgmDevice
