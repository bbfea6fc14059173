import SgmDevice.PowerMgr.DeviceNodes
import SgmDevice.Concurrency.Transition

/-!
# The descriptor of the serial port

`cMuxOn` keeps the port open when a later step fails, `turnOff` closes whatever `serial_fd` says,
and a second `turnOn` forgets the first port.  Which descriptors are open is read off the list of
calls.  The descriptor is accounted for exactly in the runs that turn the driver on only while
nothing is open, with no failure behind the call of `open`, and off only while the port is open
(`accounted_iff`).
-/

namespace SgmDevice

open Concurrency
open ICMuxDriver (Result)

namespace BGS2CMux

/-- The descriptors that are open after the calls, the latest call first. -/
def openPorts : List SystemCall → List Int
  | [] => []
  | .open_ _ fd :: calls => if fd = -1 then openPorts calls else fd :: openPorts calls
  | .close fd :: calls => (openPorts calls).erase fd
  | _ :: calls => openPorts calls

/-- No call of `close` was made on a descriptor that was not open. -/
def ClosesOpen : List SystemCall → Prop
  | [] => True
  | .close fd :: calls => fd ∈ openPorts calls ∧ ClosesOpen calls
  | _ :: calls => ClosesOpen calls

/-- Between the two states only device nodes were created or removed. -/
structure OnlyNodes (d d' : BGS2CMux) : Prop where
  serial_fd : d'.serial_fd = d.serial_fd
  openPorts : openPorts d'.systemCalls = openPorts d.systemCalls
  closesOpen : ClosesOpen d'.systemCalls ↔ ClosesOpen d.systemCalls

/-- A call of the driver, with what the system and the modem answer it. -/
inductive PortCall where
  | turnOn (w : World)
  | turnOff

/-- The driver between two calls, and what `cMuxOn` returned if the last call ran it. -/
structure PortUse where
  driver : BGS2CMux := {}
  cMuxResult : Option Result := none
  deriving DecidableEq, Repr

namespace PortUse

abbrev calls (s : PortUse) : List SystemCall := s.driver.systemCalls

/-- `open` fails, or it gives a descriptor that is not in use. -/
def Opens (s : PortUse) (w : World) : Prop :=
  w.open_ = -1 ∨ 0 ≤ w.open_ ∧ w.open_ ∉ openPorts s.calls

instance (s : PortUse) (w : World) : Decidable (s.Opens w) :=
  inferInstanceAs (Decidable (_ ∨ _))

def uses : System PortUse PortCall where
  step s a :=
    match a with
    | .turnOn w =>
      if s.Opens w then
        some { driver := (turnOn w s.driver).2, cMuxResult := some (cMuxOn w s.driver).1 }
      else none
    | .turnOff => some { driver := (turnOff s.driver).2 }

/-- At most one descriptor is open, none after a failure, and none was closed that was not open. -/
structure Accounted (s : PortUse) : Prop where
  atMostOne : (openPorts s.calls).length ≤ 1
  noneAfterError : s.cMuxResult = some .muxError → openPorts s.calls = []
  closesOpen : ClosesOpen s.calls

/-- The driver is turned on while nothing is open, and nothing fails behind the call of `open`; it
is turned off while the port is open. -/
def Careful (s : PortUse) : PortCall → Prop
  | .turnOn w => openPorts s.calls = [] ∧ (w.open_ ≠ -1 → StepsSucceed w)
  | .turnOff => openPorts s.calls ≠ []

/-- What is open is the port that the driver remembers. -/
structure Remembered (s : PortUse) : Prop extends Accounted s where
  remembered : openPorts s.calls = [] ∨ openPorts s.calls = [s.driver.serial_fd]

end PortUse

/-! ## The calls on the device nodes -/

theorem OnlyNodes.refl (d : BGS2CMux) : OnlyNodes d d := ⟨rfl, rfl, Iff.rfl⟩

theorem OnlyNodes.trans {d d' d'' : BGS2CMux} (h : OnlyNodes d d') (h' : OnlyNodes d' d'') :
    OnlyNodes d d'' :=
  ⟨h'.serial_fd.trans h.serial_fd, h'.openPorts.trans h.openPorts,
    h'.closesOpen.trans h.closesOpen⟩

theorem onlyNodes_makeNodesLoop (w : World) (major : Int) (basename : String) (minors : List ℕ)
    (created : ℕ) (d : BGS2CMux) :
    OnlyNodes d (makeNodesLoop w major basename minors (created, d)).2 := by
  induction minors generalizing created d with
  | nil => exact OnlyNodes.refl d
  | cons minor minors ih =>
    have hnode : OnlyNodes d
        { d with systemCalls := .mknod (nodeName basename minor) major minor :: d.systemCalls } :=
      ⟨rfl, rfl, Iff.rfl⟩
    exact hnode.trans (ih _ _)

theorem onlyNodes_establish (w : World) (d : BGS2CMux) : OnlyNodes d (establish w d).2 := by
  rcases establish_eq w d with ⟨-, hnodes⟩ | hsame
  · rw [hnodes]
    exact onlyNodes_makeNodesLoop w _ _ _ _ d
  · rw [hsame]
    exact OnlyNodes.refl d

theorem onlyNodes_unlink (d : BGS2CMux) {nodes : List SystemCall}
    (hnodes : ∀ c ∈ nodes, ∃ nodeName, c = .unlink nodeName) :
    OnlyNodes d { d with systemCalls := nodes ++ d.systemCalls } := by
  induction nodes with
  | nil => exact OnlyNodes.refl d
  | cons c nodes ih =>
    obtain ⟨⟨nodeName, rfl⟩, hrest⟩ := List.forall_mem_cons.1 hnodes
    exact (ih hrest).trans ⟨rfl, rfl, Iff.rfl⟩

theorem onlyNodes_removeNodes (basename : String) (numberNodes : ℕ) (d : BGS2CMux) :
    OnlyNodes d (removeNodes basename numberNodes d) := by
  refine onlyNodes_unlink d fun c hc => ?_
  obtain ⟨node, -, rfl⟩ := List.mem_map.1 (List.mem_reverse.1 hc)
  exact ⟨_, rfl⟩

theorem onlyNodes_performEarlyCleanup (w : World) (d : BGS2CMux) :
    OnlyNodes d (performEarlyCleanup w d) := by
  unfold performEarlyCleanup
  split_ifs
  · exact onlyNodes_removeNodes _ _ d
  · exact OnlyNodes.refl d

/-! ## The calls of the driver -/

/-- `cMuxOn` opens one descriptor and closes none. -/
theorem cMuxOn_ports (w : World) (d : BGS2CMux) :
    (cMuxOn w d).2.serial_fd = w.open_ ∧
      openPorts (cMuxOn w d).2.systemCalls =
        (if w.open_ = -1 then openPorts d.systemCalls else w.open_ :: openPorts d.systemCalls) ∧
      (ClosesOpen (cMuxOn w d).2.systemCalls ↔ ClosesOpen d.systemCalls) := by
  have hcleanup := onlyNodes_performEarlyCleanup w d
  let opened : BGS2CMux :=
    { serial_fd := w.open_
      systemCalls := .open_ SERIAL_PORT w.open_ :: (performEarlyCleanup w d).systemCalls }
  have hafter : OnlyNodes opened (cMuxOn w d).2 := by
    show OnlyNodes opened (if w.open_ = -1 then (.muxError, opened) else establish w opened).2
    split_ifs
    · exact OnlyNodes.refl opened
    · exact onlyNodes_establish w opened
  refine ⟨hafter.serial_fd, ?_, hafter.closesOpen.trans hcleanup.closesOpen⟩
  rw [hafter.openPorts, ← hcleanup.openPorts]
  rfl

/-- `turnOff` closes what `serial_fd` says. -/
theorem turnOff_ports (d : BGS2CMux) :
    openPorts (turnOff d).2.systemCalls = (openPorts d.systemCalls).erase d.serial_fd ∧
      (ClosesOpen (turnOff d).2.systemCalls ↔
        d.serial_fd ∈ openPorts d.systemCalls ∧ ClosesOpen d.systemCalls) := by
  have hnodes := onlyNodes_removeNodes BASENAME_NODES NUM_NODES d
  constructor
  · show (openPorts (removeNodes BASENAME_NODES NUM_NODES d).systemCalls).erase d.serial_fd = _
    rw [hnodes.openPorts]
  · show (d.serial_fd ∈ openPorts (removeNodes BASENAME_NODES NUM_NODES d).systemCalls ∧ _) ↔ _
    rw [hnodes.openPorts]
    exact and_congr_right fun _ => hnodes.closesOpen

namespace PortUse

theorem uses_turnOn {s s' : PortUse} {w : World} (h : uses.step s (.turnOn w) = some s') :
    s.Opens w ∧
      s' = { driver := (cMuxOn w s.driver).2, cMuxResult := some (cMuxOn w s.driver).1 } := by
  obtain ⟨hopens, hs⟩ := Option.ite_none_right_eq_some.1 h
  exact ⟨hopens, (Option.some.inj hs).symm⟩

/-- The driver is turned on with nothing open, and no failure leaves the port open. -/
theorem Remembered.turnOn {s : PortUse} (h : Remembered s) {w : World}
    (careful : Careful s (.turnOn w)) :
    Remembered
      { driver := (cMuxOn w s.driver).2, cMuxResult := some (cMuxOn w s.driver).1 } := by
  obtain ⟨hnone, hsteps⟩ := careful
  obtain ⟨hfd, hports, hcloses⟩ := cMuxOn_ports w s.driver
  rw [show openPorts s.driver.systemCalls = [] from hnone] at hports
  by_cases hopen : w.open_ = -1
  · rw [if_pos hopen] at hports
    refine ⟨⟨?_, fun _ => hports, hcloses.2 h.closesOpen⟩, Or.inl hports⟩
    rw [hports]
    decide
  · rw [if_neg hopen] at hports
    have hon : (cMuxOn w s.driver).1 = .muxOn :=
      (cMuxOn_eq_muxOn_iff w s.driver).2 ⟨hopen, hsteps hopen⟩
    refine ⟨⟨?_, fun herror => ?_, hcloses.2 h.closesOpen⟩, Or.inr ?_⟩
    · rw [hports]
      exact le_rfl
    · rw [hon] at herror
      cases herror
    · rw [hports, hfd]

/-- The port is turned off while it is open. -/
theorem Remembered.turnOff {s : PortUse} (h : Remembered s) (careful : Careful s .turnOff) :
    Remembered { driver := (turnOff s.driver).2 } := by
  have hopen : openPorts s.driver.systemCalls = [s.driver.serial_fd] :=
    h.remembered.resolve_left careful
  obtain ⟨hports, hcloses⟩ := turnOff_ports s.driver
  rw [hopen, List.erase_cons_head] at hports
  refine ⟨⟨?_, fun _ => hports, hcloses.2 ⟨?_, h.closesOpen⟩⟩, Or.inl hports⟩
  · rw [hports]
    decide
  · rw [hopen]
    exact List.mem_singleton_self _

theorem Remembered.step {s s' : PortUse} {a : PortCall} (h : Remembered s) (careful : Careful s a)
    (hs : uses.step s a = some s') : Remembered s' := by
  cases a with
  | turnOn w =>
    obtain ⟨-, rfl⟩ := uses_turnOn hs
    exact h.turnOn careful
  | turnOff =>
    obtain rfl := Option.some.inj hs
    exact h.turnOff careful

/-- Every other call loses a descriptor, or closes one that is not open. -/
theorem not_accounted_of_careless {s s' : PortUse} {a : PortCall}
    (careless : ¬ Careful s a) (hs : uses.step s a = some s') : ¬ Accounted s' := by
  intro accounted
  cases a with
  | turnOn w =>
    obtain ⟨-, rfl⟩ := uses_turnOn hs
    obtain ⟨-, hports, -⟩ := cMuxOn_ports w s.driver
    by_cases hopen : w.open_ = -1
    · -- `open` fails while a port is open
      have herror : (cMuxOn w s.driver).1 = .muxError :=
        (cMuxOn_eq_muxOn_or w s.driver).resolve_left fun hon =>
          ((cMuxOn_eq_muxOn_iff w s.driver).1 hon).1 hopen
      have hnone := accounted.noneAfterError (congrArg some herror)
      rw [show openPorts _ = _ from hports, if_pos hopen] at hnone
      exact careless ⟨hnone, fun hopens => absurd hopen hopens⟩
    · rw [if_neg hopen] at hports
      have hlen := accounted.atMostOne
      rw [show openPorts _ = _ from hports, List.length_cons] at hlen
      have hnone : openPorts s.driver.systemCalls = [] :=
        List.eq_nil_of_length_eq_zero (by omega)
      -- a later step fails with the port open
      have herror : (cMuxOn w s.driver).1 = .muxError :=
        (cMuxOn_eq_muxOn_or w s.driver).resolve_left fun hon =>
          careless ⟨hnone, fun _ => ((cMuxOn_eq_muxOn_iff w s.driver).1 hon).2⟩
      have hclosed := accounted.noneAfterError (congrArg some herror)
      rw [show openPorts _ = _ from hports] at hclosed
      cases hclosed
  | turnOff =>
    obtain rfl := Option.some.inj hs
    have hnone : openPorts s.driver.systemCalls = [] := not_not.1 careless
    obtain ⟨hmem, -⟩ := (turnOff_ports s.driver).2.1 accounted.closesOpen
    rw [hnone] at hmem
    cases hmem

theorem remembered_start : Remembered {} :=
  ⟨⟨by decide, fun _ => rfl, trivial⟩, Or.inl rfl⟩

/-- The descriptor is accounted for at every call boundary if and only if every call is careful. -/
theorem accounted_iff (calls : List PortCall) :
    uses.Always {} calls Accounted ↔ uses.Obeys {} calls Careful :=
  System.always_iff_obeys (fun _ h => h.toAccounted) (fun _ _ _ h => h.step)
    (fun _ _ _ _ => not_accounted_of_careless) remembered_start calls

/-- The modem does not answer, and the port stays open. -/
theorem unanswered_command_leaves_open : ¬ ∀ calls, uses.Always {} calls Accounted := by
  intro h
  let w : World := { sendAtCommand := fun _ => -1, procDevices := none }
  let s : PortUse := { driver := (cMuxOn w {}).2, cMuxResult := some .muxError }
  have haccounted : Accounted s :=
    (h [.turnOn w]).2 ⟨{}, .turnOn w, s⟩ (List.mem_singleton.2 rfl)
  exact absurd (haccounted.noneAfterError rfl) (by decide)

end PortUse

end BGS2CMux

end SgmDevice
