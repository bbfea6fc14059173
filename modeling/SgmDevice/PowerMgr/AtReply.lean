import SgmDevice.PowerMgr.BGS2CMux

/-!
# `send_at_command`

The answer of the modem is read into a buffer of zeroes and scanned up to its first NUL, in a copy
without line ends and then for `OK\r`.  The read may take the whole buffer, which leaves no room for
the NUL (`judgesReceived_iff`).
-/

namespace SgmDevice

namespace BGS2CMux

open CStrings (content)

def SIZE_BUF : ℕ := 256

/-- What `read(serial_fd, buf, sizeof(buf))` brings. -/
inductive SerialRead where
  | failed
  | received (bytes : { bytes : List UInt8 // bytes.length ≤ SIZE_BUF })

namespace SerialRead

def bytes : SerialRead → List UInt8
  | .failed => []
  | .received bytes => bytes

def result : SerialRead → Int
  | .failed => -1
  | .received bytes => bytes.val.length

end SerialRead

/-- What the serial line answers to a command. -/
structure SerialLine where
  write : String → Int
  read : SerialRead

namespace CArray

/-- `strlen`; there is no result when the scan leaves the array. -/
def strlen (array : List UInt8) : Option ℕ := array.findIdx? (· = 0)

/-- `strstr(array, needle) != NULL`, likewise. -/
def strstr (array needle : List UInt8) : Option Bool :=
  (strlen array).map fun _ => decide (needle <:+: content array)

end CArray

open CArray

/-- The loop that replaces the line ends, from the index `i` on; `strlen` is called before every
turn. -/
def stripFrom (i : ℕ) (bufp : List UInt8) : Option (List UInt8) :=
  match hlength : strlen bufp with
  | none => none
  | some n =>
    if h : i < n then
      stripFrom (i + 1) (if bufp[i]? = some 13 ∨ bufp[i]? = some 10 then bufp.set i 32 else bufp)
    else some bufp
termination_by bufp.length - i
decreasing_by
  have hn : n < bufp.length := by
    obtain ⟨hn, -⟩ := List.findIdx?_eq_some_iff_getElem.1 hlength
    exact hn
  split
  · rw [List.length_set]
    omega
  · omega

/-- `OK\r`. -/
def okReturn : List UInt8 := [79, 75, 13]

/-- The buffer after `memset` and `read`. -/
def readInto (read : SerialRead) : List UInt8 :=
  read.bytes ++ List.replicate (SIZE_BUF - read.bytes.length) 0

/-- There is no result when a scan leaves its buffer.  What `write` returns is only logged. -/
def sendAtCommand (line : SerialLine) (command : String) : Option Int :=
  let _ := line.write command
  let buf := readInto line.read
  if line.read.result = 0 then some (-1)
  else do
    let _ ← stripFrom 0 buf
    let found ← strstr buf okReturn
    return if found then 0 else -1

/-- No scan leaves its buffer, and the result tells whether the bytes that were read hold `OK\r`. -/
def JudgesReceived (line : SerialLine) (command : String) : Prop :=
  ∃ result, sendAtCommand line command = some result ∧
    (result = 0 ↔ line.read.bytes ≠ [] ∧ okReturn <:+: content line.read.bytes)

/-! ## The scans -/

theorem strlen_eq_none_iff {array : List UInt8} : strlen array = none ↔ 0 ∉ array := by
  rw [strlen, List.findIdx?_eq_none_iff]
  constructor
  · intro h hmem
    exact absurd (h 0 hmem) (by decide)
  · intro h byte hmem
    rw [decide_eq_false_iff_not]
    rintro rfl
    exact h hmem

/-- A blank in the place of a line end leaves the NUL where it is. -/
theorem mem_blank {i : ℕ} {bufp : List UInt8} (hzero : 0 ∈ bufp)
    (h : bufp[i]? = some 13 ∨ bufp[i]? = some 10) : 0 ∈ bufp.set i 32 := by
  obtain ⟨j, hj⟩ := List.mem_iff_getElem?.1 hzero
  have hne : i ≠ j := by
    rintro rfl
    rw [hj] at h
    exact absurd h (by decide)
  rw [List.mem_iff_getElem?]
  exact ⟨j, by rw [List.getElem?_set_ne hne, hj]⟩

/-- The loop ends, and stays inside a buffer that holds a NUL. -/
theorem stripFrom_of_zero {i : ℕ} {bufp : List UInt8} (hzero : 0 ∈ bufp) :
    ∃ bufp', stripFrom i bufp = some bufp' := by
  fun_induction stripFrom i bufp with
  | case1 i bufp hlength => exact absurd hzero (strlen_eq_none_iff.1 hlength)
  | case2 i bufp n hlength hi ih =>
    apply ih
    split
    · exact mem_blank hzero ‹_›
    · exact hzero
  | case3 i bufp n hlength hi => exact ⟨bufp, rfl⟩

theorem stripFrom_of_not_zero {i : ℕ} {bufp : List UInt8} (h : 0 ∉ bufp) :
    stripFrom i bufp = none := by
  rw [stripFrom]
  split
  · rfl
  · rename_i n hlength
    rw [strlen_eq_none_iff.2 h] at hlength
    cases hlength

theorem strstr_of_zero {array : List UInt8} (needle : List UInt8) (hzero : 0 ∈ array) :
    strstr array needle = some (decide (needle <:+: content array)) := by
  cases hlength : strlen array with
  | none => exact absurd hzero (strlen_eq_none_iff.1 hlength)
  | some n => rw [strstr, hlength, Option.map_some]

/-! ## The buffer -/

/-- The read leaves room for the NUL, or brings one. -/
theorem zero_mem_readInto (read : SerialRead) :
    0 ∈ readInto read ↔ read.bytes.length < SIZE_BUF ∨ 0 ∈ read.bytes := by
  rw [readInto, List.mem_append, List.mem_replicate, or_comm, and_iff_left rfl]
  exact or_congr (by omega) Iff.rfl

theorem length_bytes_le (read : SerialRead) : read.bytes.length ≤ SIZE_BUF := by
  cases read with
  | failed => exact Nat.zero_le _
  | received bytes => exact bytes.property

theorem content_readInto (read : SerialRead) : content (readInto read) = content read.bytes := by
  rw [readInto]
  cases SIZE_BUF - read.bytes.length with
  | zero => rw [List.replicate_zero, List.append_nil]
  | succ n => rw [List.replicate_succ, CStrings.content_terminated]

/-- What a command returns when the buffer holds a NUL. -/
theorem sendAtCommand_of_zero (line : SerialLine) (command : String)
    (hzero : 0 ∈ readInto line.read) (hresult : line.read.result ≠ 0) :
    sendAtCommand line command =
      some (if okReturn <:+: content line.read.bytes then 0 else -1) := by
  obtain ⟨bufp, hstrip⟩ := stripFrom_of_zero (i := 0) hzero
  unfold sendAtCommand
  rw [if_neg hresult, hstrip, strstr_of_zero okReturn hzero, content_readInto]
  by_cases hfound : okReturn <:+: content line.read.bytes <;> simp [hfound]

theorem bytes_of_result {read : SerialRead} (h : read.result = 0) : read.bytes = [] := by
  cases read with
  | failed => cases h
  | received bytes => exact List.length_eq_zero_iff.1 (Int.natCast_eq_zero.1 h)

/-- Without a NUL in the buffer the first scan leaves it. -/
theorem not_judgesReceived (line : SerialLine) (command : String) (hzero : 0 ∉ readInto line.read) :
    ¬ JudgesReceived line command := by
  rintro ⟨result, hreturned, -⟩
  have hresult : line.read.result ≠ 0 := by
    intro hresult
    -- an empty answer leaves the zeroes
    exact hzero ((zero_mem_readInto _).2 (.inl (by rw [bytes_of_result hresult]; decide)))
  rw [sendAtCommand, stripFrom_of_not_zero hzero, if_neg hresult] at hreturned
  cases hreturned

/-- A command is judged by the bytes that it received, and by nothing outside the buffers, if and
only if they do not fill the buffer without a NUL. -/
theorem judgesReceived_iff (line : SerialLine) (command : String) :
    JudgesReceived line command ↔
      ¬ (line.read.bytes.length = SIZE_BUF ∧ ∀ byte ∈ line.read.bytes, byte ≠ 0) := by
  have hroom : 0 ∈ readInto line.read ↔
      ¬ (line.read.bytes.length = SIZE_BUF ∧ ∀ byte ∈ line.read.bytes, byte ≠ 0) := by
    have hbytes : (∀ byte ∈ line.read.bytes, byte ≠ 0) ↔ 0 ∉ line.read.bytes :=
      ⟨fun h hmem => h 0 hmem rfl, fun h byte hmem hbyte => h (hbyte ▸ hmem)⟩
    have hlength := length_bytes_le line.read
    rw [zero_mem_readInto, hbytes, not_and_or, not_not]
    exact or_congr (by omega) Iff.rfl
  have hempty : ¬ okReturn <:+: content [] := by decide
  rw [← hroom]
  constructor
  · intro h
    by_contra hzero
    exact not_judgesReceived line command hzero h
  · intro hzero
    by_cases hresult : line.read.result = 0
    · refine ⟨-1, if_pos hresult, ?_⟩
      simp [bytes_of_result hresult]
    · refine ⟨_, sendAtCommand_of_zero line command hzero hresult, ?_⟩
      by_cases hfound : okReturn <:+: content line.read.bytes
      · have hne : line.read.bytes ≠ [] := by
          intro hnil
          rw [hnil] at hfound
          exact hempty hfound
        simp [hfound, hne]
      · simp [hfound]

/-- A modem that fills the buffer with text. -/
def fullAnswer : SerialLine where
  write _ := 3
  read := .received ⟨List.replicate SIZE_BUF 65, by rw [List.length_replicate]⟩

/-- A full buffer has no end for `strlen`. -/
theorem full_answer_overread : ¬ JudgesReceived fullAnswer "AT\r" := by
  apply not_judgesReceived
  rw [zero_mem_readInto]
  rintro (hroom | hzero)
  · exact absurd List.length_replicate (Nat.ne_of_lt hroom)
  · exact absurd (List.eq_of_mem_replicate hzero) (by decide)

end BGS2CMux

end SgmDevice
