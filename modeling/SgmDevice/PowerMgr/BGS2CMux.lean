import SgmDevice.PowerMgr.PowerStatements
import SgmDevice.Utils.CStrings

/-!
# `BGS2CMux`

How `cMuxOn` brings the multiplexer up: it opens the serial port, sends the commands, sets the line
discipline, looks the major number of the driver up in `/proc/devices` and creates the device nodes.
What the system and the modem answer in one run is given by a `World`; the calls that leave
something behind are kept in a list.
-/

namespace SgmDevice

open ICMuxDriver (Result)

namespace BGS2CMux

def SERIAL_PORT : String := "/dev/ttyMFD1"
def BASENAME_NODES : String := "/dev/ttyGSM"
def NUM_NODES : ℕ := 4
def DRIVER_NAME : List Char := "gsmtty".toList
def EXIT_FAILURE : Int := 1

/-- `sizeof(device)` in `get_major`. -/
def DEVICE_SIZE : ℕ := 20

/-- The calls that leave something behind. -/
inductive SystemCall where
  | open_ (path : String) (fd : Int)
  | close (fd : Int)
  | mknod (nodeName : String) (major minor : Int)
  | unlink (nodeName : String)
  deriving DecidableEq, Repr

/-- What one run of `cMuxOn` is answered. -/
structure World where
  /-- `access("/dev/ttyGSM1", F_OK)`. -/
  access : Int := -1
  open_ : Int := 3
  tcgetattr : Int := 0
  cfsetospeed : Int := 0
  cfsetispeed : Int := 0
  tcsetattr : Int := 0
  /-- What `send_at_command` returns for each command. -/
  sendAtCommand : String → Int := fun _ => 0
  /-- The three `ioctl`s. -/
  tiocsetd : Int := 0
  gsmiocGetconf : Int := 0
  gsmiocSetconf : Int := 0
  /-- The lines of `/proc/devices`, a character for each byte, if it can be opened. -/
  procDevices : Option (List (List Char))
  /-- What comes of `get_major` if `%s` has run over the end of `device`. -/
  strayMajor : Int := -1
  /-- `mknod` for each minor number. -/
  mknod : ℕ → Int := fun _ => 0

end BGS2CMux

structure BGS2CMux where
  serial_fd : Int := -1
  /-- The calls made, the latest one first. -/
  systemCalls : List BGS2CMux.SystemCall := []
  deriving DecidableEq, Repr

namespace BGS2CMux

/-- The body of the loop of `get_major`.  What `%s` stores is not looked at, but a word that does
not fit into `device` runs over its end. -/
def scanMajor (driver line : List Char) (major : Int) : Option Int :=
  if CStrings.strstr (CStrings.text line) driver then
    match CStrings.scanInt (CStrings.text line) with
    | none => some (-1)
    | some (number, rest) =>
      match CStrings.scanWord rest with
      | none => some (-1)
      | some (device, _) => if device.length < DEVICE_SIZE then some number else none
  else some major

/-- The loop of `get_major`. -/
def getMajorLoop (driver : List Char) : List (List Char) → Int → Option Int
  | [], major => some major
  | line :: lines, major =>
    if major = -1 then (scanMajor driver line major).bind (getMajorLoop driver lines)
    else some major

/-- `none` if `device` has been overrun. -/
def getMajor (driver : List Char) : Option (List (List Char)) → Option Int
  | none => some EXIT_FAILURE
  | some lines => getMajorLoop driver lines (-1)

/-- The major number that `cMuxOn` is given. -/
def World.major (w : World) : Int := (getMajor DRIVER_NAME w.procDevices).getD w.strayMajor

def nodeName (basename : String) (minor : ℕ) : String := basename ++ toString minor

/-- The loop of `make_nodes`, over the minor numbers. -/
def makeNodesLoop (w : World) (major : Int) (basename : String) :
    List ℕ → ℕ × BGS2CMux → ℕ × BGS2CMux
  | [], acc => acc
  | minor :: minors, (created, d) =>
    let d := { d with
      systemCalls := .mknod (nodeName basename minor) major minor :: d.systemCalls }
    makeNodesLoop w major basename minors (if w.mknod minor ≠ 0 then created else created + 1, d)

def makeNodes (w : World) (major : Int) (basename : String) (numberNodes : ℕ) (d : BGS2CMux) :
    ℕ × BGS2CMux :=
  makeNodesLoop w major basename (List.range' 1 numberNodes) (0, d)

def removeNodes (basename : String) (numberNodes : ℕ) (d : BGS2CMux) : BGS2CMux :=
  { d with systemCalls :=
      ((List.range' 1 numberNodes).map fun node => .unlink (nodeName basename node)).reverse ++
        d.systemCalls }

def performEarlyCleanup (w : World) (d : BGS2CMux) : BGS2CMux :=
  if 0 = w.access then removeNodes BASENAME_NODES NUM_NODES d else d

/-- `cMuxOn`, behind the call of `open`. -/
def establish (w : World) (d : BGS2CMux) : Result × BGS2CMux :=
  if w.tcgetattr = -1 then (.muxError, d)
  else if w.cfsetospeed < 0 ∨ w.cfsetispeed < 0 then (.muxError, d)
  else if w.tcsetattr = -1 then (.muxError, d)
  else if w.sendAtCommand "AT\\Q3\r\n" = -1 then (.muxError, d)
  else if w.sendAtCommand "AT\r" = -1 then (.muxError, d)
  else if w.sendAtCommand "AT+IPR=115200\r" = -1 then (.muxError, d)
  else if w.sendAtCommand "AT+CMUX=0\r" = -1 then (.muxError, d)
  else if w.tiocsetd < 0 then (.muxError, d)
  else if w.gsmiocGetconf < 0 then (.muxError, d)
  else if w.gsmiocSetconf < 0 then (.muxError, d)
  else
    if w.major < 0 then (.muxError, d)
    else (.muxOn, (makeNodes w w.major BASENAME_NODES NUM_NODES d).2)

def cMuxOn (w : World) (d : BGS2CMux) : Result × BGS2CMux :=
  let d := performEarlyCleanup w d
  let d := { d with
    serial_fd := w.open_
    systemCalls := .open_ SERIAL_PORT w.open_ :: d.systemCalls }
  if d.serial_fd = -1 then (.muxError, d) else establish w d

/-- What `cMuxOn` returns is only logged. -/
def turnOn (w : World) (d : BGS2CMux) : Result × BGS2CMux :=
  (.muxOn, (cMuxOn w d).2)

def turnOff (d : BGS2CMux) : Result × BGS2CMux :=
  let d := removeNodes BASENAME_NODES NUM_NODES d
  (.muxOff, { d with systemCalls := .close d.serial_fd :: d.systemCalls })

/-! ## When `cMuxOn` succeeds -/

/-- No step behind the call of `open` fails. -/
structure StepsSucceed (w : World) : Prop where
  tcgetattr : w.tcgetattr ≠ -1
  cfsetospeed : 0 ≤ w.cfsetospeed
  cfsetispeed : 0 ≤ w.cfsetispeed
  tcsetattr : w.tcsetattr ≠ -1
  sendAtCommand : ∀ command ∈ ["AT\\Q3\r\n", "AT\r", "AT+IPR=115200\r", "AT+CMUX=0\r"],
    w.sendAtCommand command ≠ -1
  tiocsetd : 0 ≤ w.tiocsetd
  gsmiocGetconf : 0 ≤ w.gsmiocGetconf
  gsmiocSetconf : 0 ≤ w.gsmiocSetconf
  getMajor : 0 ≤ w.major

/-- An early return is not taken. -/
theorem ite_muxError_iff {c : Prop} [Decidable c] {d : BGS2CMux} {q : Result × BGS2CMux} :
    (if c then (.muxError, d) else q).1 = .muxOn ↔ ¬ c ∧ q.1 = .muxOn := by
  split_ifs with hc
  · exact iff_of_false (by decide) fun h => h.1 hc
  · exact (and_iff_right hc).symm

theorem establish_eq_muxOn_iff (w : World) (d : BGS2CMux) :
    (establish w d).1 = .muxOn ↔ StepsSucceed w := by
  unfold establish
  simp only [ite_muxError_iff, not_or, not_lt, and_true]
  constructor
  · rintro ⟨hget, ⟨hospeed, hispeed⟩, hset, hq3, hat, hipr, hcmux, hldisc, hgetconf, hsetconf,
      hmajor⟩
    refine ⟨hget, hospeed, hispeed, hset, ?_, hldisc, hgetconf, hsetconf, hmajor⟩
    simp only [List.forall_mem_cons]
    exact ⟨hq3, hat, hipr, hcmux, List.forall_mem_nil _⟩
  · intro h
    have hcommands := h.sendAtCommand
    simp only [List.forall_mem_cons] at hcommands
    obtain ⟨hq3, hat, hipr, hcmux, -⟩ := hcommands
    exact ⟨h.tcgetattr, ⟨h.cfsetospeed, h.cfsetispeed⟩, h.tcsetattr, hq3, hat, hipr, hcmux,
      h.tiocsetd, h.gsmiocGetconf, h.gsmiocSetconf, h.getMajor⟩

/-- `cMuxOn` never returns `MUX_OFF`. -/
theorem cMuxOn_eq_muxOn_or (w : World) (d : BGS2CMux) :
    (cMuxOn w d).1 = .muxOn ∨ (cMuxOn w d).1 = .muxError := by
  let P : Result × BGS2CMux → Prop := fun q => q.1 = .muxOn ∨ q.1 = .muxError
  have herror : ∀ d, P (.muxError, d) := fun _ => Or.inr rfl
  show P (cMuxOn w d)
  unfold cMuxOn establish
  iterate 12 refine iteInduction (fun _ => herror _) fun _ => ?_
  exact Or.inl rfl

/-- `cMuxOn` returns `MUX_ON` if and only if the port can be opened and no later step fails. -/
theorem cMuxOn_eq_muxOn_iff (w : World) (d : BGS2CMux) :
    (cMuxOn w d).1 = .muxOn ↔ w.open_ ≠ -1 ∧ StepsSucceed w := by
  unfold cMuxOn
  dsimp only
  split_ifs with hopen
  · exact iff_of_false (by decide) fun h => h.1 hopen
  · exact (establish_eq_muxOn_iff w _).trans (iff_and_self.2 fun _ => hopen)

end BGS2CMux

end SgmDevice
