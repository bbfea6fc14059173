import Mathlib.Data.List.Basic
import Mathlib.Data.UInt

/-!
# `AtCommand`

`sendAt` renders a command into the buffer that all commands of an instantiation share, writes it to
the UART and reads the answer into the same buffer.  Every read asks for `RX_BUF_SIZE` bytes,
however many have come already, so the answers alone decide whether it stays inside the buffer
(`sendAt_inside_iff`).
-/

namespace SgmDevice

namespace IAtCommand

def RX_BUF_SIZE : ℕ := 200

inductive Result where
  | atSent
  | atUartError
  | atUnknownError
  deriving DecidableEq, Repr

inductive CommandType where
  | atExecute
  | atRead
  | atTest
  | atWrite
  | atInvalid
  deriving DecidableEq, Repr

end IAtCommand

open IAtCommand

/-- What `renderCommand` puts into the buffer, and the length that it returns. -/
structure Rendered where
  text : List UInt8
  length : Int
  deriving DecidableEq, Repr

/-- The template parameter `AtSpec`. -/
class AtSpec (S : Type) where
  renderCommand : S → CommandType → Rendered

namespace Bgs2

/-- `bgs2::At`, which has no members. -/
structure At where
  deriving DecidableEq, Repr

instance : AtSpec At where
  renderCommand _ cmdType :=
    match cmdType with
    | .atExecute => ⟨[65, 84, 13, 10], 4⟩
    | _ => ⟨[], -1⟩

end Bgs2

/-- What `read(p, RX_BUF_SIZE)` returns. -/
inductive ReadResult where
  | failed
  | received (data : { data : List UInt8 // data.length ≤ RX_BUF_SIZE })
  deriving DecidableEq

namespace ReadResult

def data : ReadResult → List UInt8
  | .failed => []
  | .received data => data

def returned : ReadResult → Int
  | .failed => -1
  | .received data => data.val.length

end ReadResult

/-- What the UART answers in one call. -/
structure Uart where
  /-- What `write` returns. -/
  write : Int
  /-- The reads, one for each time that data is available. -/
  reads : List ReadResult

/-- The shared buffer, with the indices at which the reads and the terminator store and what the
UART is given to write, the latest first. -/
structure TxRxBuffer where
  bytes : Vector UInt8 RX_BUF_SIZE := Vector.replicate RX_BUF_SIZE 0
  stored : List ℕ := []
  written : List (List UInt8) := []

namespace TxRxBuffer

/-- `txRxBuffer[i] = byte`; a store outside the buffer is only noted. -/
def store (i : ℕ) (byte : UInt8) (buffer : TxRxBuffer) : TxRxBuffer :=
  { buffer with bytes := buffer.bytes.setIfInBounds i byte, stored := i :: buffer.stored }

/-- The stores of a read, from the index `i` on. -/
def storeAll : ℕ → List UInt8 → TxRxBuffer → TxRxBuffer
  | _, [], buffer => buffer
  | i, byte :: rest, buffer => storeAll (i + 1) rest (store i byte buffer)

/-- Every noted store is inside the buffer. -/
def Inside (buffer : TxRxBuffer) : Prop := ∀ i ∈ buffer.stored, i < RX_BUF_SIZE

end TxRxBuffer

structure AtCommand (S : Type) where
  itsAtSpec : S
  lastSentCommandType : CommandType := .atInvalid

namespace AtCommand

/-- The loop of `sendAt`, from the value of `readBytes` on. -/
def readAll : List ReadResult → UInt32 → TxRxBuffer → UInt32 × TxRxBuffer
  | [], readBytes, buffer => (readBytes, buffer)
  | read :: rest, readBytes, buffer =>
    readAll rest (readBytes + .ofInt read.returned) (buffer.storeAll readBytes.toNat read.data)

/-- The effect of `renderCommand` on the buffer. -/
def copyCommand (text : List UInt8) (bytes : Vector UInt8 RX_BUF_SIZE) :
    Vector UInt8 RX_BUF_SIZE :=
  .ofFn fun i => (text[i.val]?).getD bytes[i]

def sendAt {S : Type} [AtSpec S] (command : AtCommand S) (uart : Uart) (cmdType : CommandType)
    (buffer : TxRxBuffer) : Result × TxRxBuffer :=
  let rendered := AtSpec.renderCommand command.itsAtSpec cmdType
  let buffer := { buffer with bytes := copyCommand rendered.text buffer.bytes }
  if 0 > rendered.length then (.atUartError, buffer)
  else
    let buffer := { buffer with
      written := buffer.bytes.toList.take rendered.length.toNat :: buffer.written }
    if uart.write ≠ rendered.length then (.atUartError, buffer)
    else
      let (readBytes, buffer) := readAll uart.reads 0 buffer
      (.atSent, buffer.store readBytes.toNat 0)

/-! ## Where the bytes are stored -/

/-- The sum of what some reads returned, as an `unsigned int`. -/
def total : List ReadResult → UInt32
  | [] => 0
  | read :: rest => .ofInt read.returned + total rest

/-- Each read that brings bytes ends inside the buffer, and so does the whole answer with its
terminator. -/
def Fits (reads : List ReadResult) : Prop :=
  (∀ before read after, reads = before ++ read :: after → read.data ≠ [] →
    (total before).toNat + read.data.length ≤ RX_BUF_SIZE) ∧
  (total reads).toNat < RX_BUF_SIZE

/-- The command was rendered and written, so that the answer is read. -/
def Sent {S : Type} [AtSpec S] (command : AtCommand S) (uart : Uart) (cmdType : CommandType) :
    Prop :=
  0 ≤ (AtSpec.renderCommand command.itsAtSpec cmdType).length ∧
    uart.write = (AtSpec.renderCommand command.itsAtSpec cmdType).length

theorem inside_store {i : ℕ} {byte : UInt8} {buffer : TxRxBuffer} :
    (buffer.store i byte).Inside ↔ i < RX_BUF_SIZE ∧ buffer.Inside :=
  List.forall_mem_cons

theorem inside_storeAll {i : ℕ} {data : List UInt8} {buffer : TxRxBuffer} :
    (buffer.storeAll i data).Inside ↔
      (data ≠ [] → i + data.length ≤ RX_BUF_SIZE) ∧ buffer.Inside := by
  induction data generalizing i buffer with
  | nil => simp [TxRxBuffer.storeAll]
  | cons byte rest ih =>
    rw [TxRxBuffer.storeAll, ih, inside_store, ← and_assoc]
    apply and_congr_left
    intro _
    cases rest with
    | nil => exact ⟨fun h _ => h.2, fun h => ⟨fun hne => absurd rfl hne, h (List.cons_ne_nil _ _)⟩⟩
    | cons byte' rest' =>
      simp only [ne_eq, reduceCtorEq, not_false_eq_true, forall_const, List.length_cons]
      omega

theorem readAll_total (reads : List ReadResult) (readBytes : UInt32) (buffer : TxRxBuffer) :
    (readAll reads readBytes buffer).1 = readBytes + total reads := by
  induction reads generalizing readBytes buffer with
  | nil => simp [readAll, total]
  | cons read rest ih => rw [readAll, ih, total, add_assoc]

theorem inside_readAll (reads : List ReadResult) (readBytes : UInt32) (buffer : TxRxBuffer) :
    (readAll reads readBytes buffer).2.Inside ↔
      (∀ before read after, reads = before ++ read :: after → read.data ≠ [] →
        (readBytes + total before).toNat + read.data.length ≤ RX_BUF_SIZE) ∧ buffer.Inside := by
  induction reads generalizing readBytes buffer with
  | nil => simp [readAll]
  | cons read rest ih =>
    rw [readAll, ih, inside_storeAll, ← and_assoc]
    apply and_congr_left
    intro _
    constructor
    · rintro ⟨hrest, hfirst⟩ before read' after hsplit hdata
      cases before with
      | nil =>
        obtain ⟨rfl, rfl⟩ := List.cons.inj hsplit
        simpa [total] using hfirst hdata
      | cons first before =>
        obtain ⟨rfl, rfl⟩ := List.cons.inj hsplit
        rw [total, ← add_assoc]
        exact hrest before read' after rfl hdata
    · intro h
      refine ⟨fun before read' after hsplit hdata => ?_, fun hdata => ?_⟩
      · subst hsplit
        have hread := h (read :: before) read' after rfl hdata
        rwa [total, ← add_assoc] at hread
      · have hread := h [] read rest rfl hdata
        rwa [total, add_zero] at hread

section Send

variable {S : Type} [AtSpec S] (command : AtCommand S) (uart : Uart) (cmdType : CommandType)
  (buffer : TxRxBuffer)

/-- Without a command on the wire nothing is stored behind it. -/
theorem sendAt_of_not_sent (h : ¬ Sent command uart cmdType) :
    (sendAt command uart cmdType buffer).1 = .atUartError ∧
      (sendAt command uart cmdType buffer).2.bytes =
        copyCommand (AtSpec.renderCommand command.itsAtSpec cmdType).text buffer.bytes ∧
      (sendAt command uart cmdType buffer).2.stored = buffer.stored := by
  unfold Sent at h
  unfold sendAt
  dsimp only
  split
  · exact ⟨rfl, rfl, rfl⟩
  · rw [if_pos (by omega)]
    exact ⟨rfl, rfl, rfl⟩

/-- The answer is read into the buffer that the command has left. -/
theorem sendAt_of_sent (h : Sent command uart cmdType) :
    ∃ buffer', buffer'.stored = buffer.stored ∧ sendAt command uart cmdType buffer =
      (.atSent,
        (readAll uart.reads 0 buffer').2.store (readAll uart.reads 0 buffer').1.toNat 0) := by
  obtain ⟨hlength, hwrite⟩ := h
  unfold sendAt
  dsimp only
  rw [if_neg (by omega), if_neg (by simpa using hwrite)]
  refine ⟨_, ?_, rfl⟩
  rfl

end Send

/-- Everything that the reads and the terminator store is inside the buffer if and only if the
command is not sent or its answer fits. -/
theorem sendAt_inside_iff {S : Type} [AtSpec S] (command : AtCommand S) (uart : Uart)
    (cmdType : CommandType) (bytes : Vector UInt8 RX_BUF_SIZE) (written : List (List UInt8)) :
    (sendAt command uart cmdType ⟨bytes, [], written⟩).2.Inside ↔
      (Sent command uart cmdType → Fits uart.reads) := by
  by_cases hsent : Sent command uart cmdType
  · obtain ⟨buffer', hstored, hsend⟩ :=
      sendAt_of_sent command uart cmdType ⟨bytes, [], written⟩ hsent
    have hempty : buffer'.Inside := by
      intro i hi
      rw [hstored] at hi
      exact absurd hi List.not_mem_nil
    rw [hsend, inside_store, inside_readAll, readAll_total]
    simp only [zero_add, Fits, hsent, hempty, and_true, forall_const]
    exact and_comm
  · refine iff_of_true (fun i hi => ?_) fun h => absurd h hsent
    rw [(sendAt_of_not_sent _ _ _ _ hsent).2.2] at hi
    exact absurd hi List.not_mem_nil

/-- A full buffer leaves no room for the terminator. -/
theorem full_answer_overruns :
    ¬ ∀ (S : Type) [AtSpec S] (command : AtCommand S) (uart : Uart) (cmdType : CommandType)
      (bytes : Vector UInt8 RX_BUF_SIZE) (written : List (List UInt8)),
      (AtSpec.renderCommand command.itsAtSpec cmdType).text.length ≤ RX_BUF_SIZE →
        (sendAt command uart cmdType ⟨bytes, [], written⟩).2.Inside := by
  intro h
  let full : ReadResult := .received ⟨List.replicate RX_BUF_SIZE 0, by simp⟩
  have hinside := h Bgs2.At ⟨{}, .atInvalid⟩ ⟨4, [full]⟩ .atExecute (.replicate _ 0) [] (by decide)
  obtain ⟨buffer', -, hsend⟩ := sendAt_of_sent (⟨{}, .atInvalid⟩ : AtCommand Bgs2.At) ⟨4, [full]⟩
    .atExecute ⟨.replicate _ 0, [], []⟩ ⟨by decide, by decide⟩
  have htotal : total [full] = .ofInt RX_BUF_SIZE + 0 := by
    simp only [total, full, ReadResult.returned, List.length_replicate]
  rw [hsend, inside_store, readAll_total, htotal] at hinside
  exact absurd hinside.1 (by decide)

end AtCommand

end SgmDevice
