import Mathlib.Logic.Function.Basic
import SgmDevice.Concurrency.Transition
import SgmDevice.Utils.PlainAtInterpreter

/-!
# Responses of `AtCommand`

Several commands of one instantiation share the buffer into which `sendAt` renders and reads, and
`getResponse` hands out whatever it holds, with a command type that is never set.  Responses belong
to their commands in every sequence of calls that asks for each one in time
(`responses_belong_of_asksInTime`).
-/

namespace SgmDevice

open IAtCommand Concurrency CStrings

namespace TxRxBuffer

theorem toList_store {i : ℕ} (byte : UInt8) (buffer : TxRxBuffer) (h : i < RX_BUF_SIZE) :
    (buffer.store i byte).bytes.toList =
      buffer.bytes.toList.take i ++ byte :: buffer.bytes.toList.drop (i + 1) := by
  have hlength : i < buffer.bytes.toList.length := by rwa [Vector.length_toList]
  refine Vector.toList_setIfInBounds.trans ?_
  rw [List.set_eq_take_append_cons_drop, if_pos hlength]

/-- The bytes of a read take the place of what the buffer held. -/
theorem toList_storeAll (i : ℕ) (data : List UInt8) (buffer : TxRxBuffer)
    (h : i + data.length ≤ RX_BUF_SIZE) :
    (buffer.storeAll i data).bytes.toList =
      buffer.bytes.toList.take i ++ data ++ buffer.bytes.toList.drop (i + data.length) := by
  induction data generalizing i buffer with
  | nil => simp [storeAll]
  | cons byte rest ih =>
    rw [List.length_cons] at h
    have hbefore : (buffer.bytes.toList.take i ++ [byte]).length = i + 1 := by
      rw [List.length_append, List.length_take, Vector.length_toList, List.length_singleton]
      omega
    have hstore : (buffer.store i byte).bytes.toList =
        (buffer.bytes.toList.take i ++ [byte]) ++ buffer.bytes.toList.drop (i + 1) := by
      rw [toList_store _ _ (by omega), List.append_assoc, List.singleton_append]
    rw [storeAll, ih (i + 1) _ (by omega), hstore, List.take_left' hbefore, ← List.drop_drop,
      List.drop_left' hbefore, List.drop_drop, List.length_cons, Nat.add_right_comm i 1,
      Nat.add_assoc i, List.append_assoc _ [byte], List.singleton_append]

theorem storeAll_append (i : ℕ) (data data' : List UInt8) (buffer : TxRxBuffer) :
    buffer.storeAll i (data ++ data') =
      (buffer.storeAll i data).storeAll (i + data.length) data' := by
  induction data generalizing i buffer with
  | nil => rfl
  | cons byte rest ih =>
    rw [List.cons_append, storeAll, ih, storeAll, List.length_cons, Nat.add_right_comm,
      Nat.add_assoc]

/-- The answer from the start of the buffer on, with its terminator. -/
theorem content_answer {data : List UInt8} (buffer : TxRxBuffer) (h : data.length < RX_BUF_SIZE) :
    content ((buffer.storeAll 0 data).store data.length 0).bytes.toList = content data := by
  have hdata : (buffer.storeAll 0 data).bytes.toList.take data.length = data := by
    rw [toList_storeAll 0 data buffer (by omega), List.take_zero, List.nil_append, List.take_left]
  rw [toList_store 0 _ h, hdata, content_terminated]

end TxRxBuffer

namespace AtCommand

/-- The bytes of some reads. -/
def received (reads : List ReadResult) : List UInt8 := reads.flatMap ReadResult.data

section Answers

variable {reads : List ReadResult}

theorem received_cons (read : ReadResult) (rest : List ReadResult) :
    received (read :: rest) = read.data ++ received rest := List.flatMap_cons

theorem ofInt_returned {read : ReadResult} (h : read ≠ .failed) :
    UInt32.ofInt read.returned = UInt32.ofNat read.data.length := by
  cases read with
  | failed => exact absurd rfl h
  | received data =>
    have hmod : ((data.val.length : Int) % 2 ^ 32).toNat = data.val.length % 2 ^ 32 := by omega
    change UInt32.ofNat ((data.val.length : Int) % 2 ^ 32).toNat = .ofNat data.val.length
    rw [hmod, ← UInt32.toNat_inj, UInt32.toNat_ofNat', UInt32.toNat_ofNat', Nat.mod_mod]

theorem total_of_received (h : ∀ read ∈ reads, read ≠ .failed) :
    total reads = UInt32.ofNat (received reads).length := by
  induction reads with
  | nil => rfl
  | cons read rest ih =>
    obtain ⟨hread, hrest⟩ := List.forall_mem_cons.1 h
    rw [total, ih hrest, ofInt_returned hread, received_cons, List.length_append,
      UInt32.ofNat_add]

theorem toNat_total (h : ∀ read ∈ reads, read ≠ .failed)
    (hshort : (received reads).length < RX_BUF_SIZE) :
    (total reads).toNat = (received reads).length := by
  rw [total_of_received h, UInt32.toNat_ofNat']
  unfold RX_BUF_SIZE at hshort
  omega

/-- What arrives without a failing read inside the buffer is counted without an overflow. -/
theorem toNat_add_total (h : ∀ read ∈ reads, read ≠ .failed) {readBytes : UInt32}
    (hstart : readBytes.toNat ≤ RX_BUF_SIZE)
    (hinside : ∀ before read after, reads = before ++ read :: after → read.data ≠ [] →
      (readBytes + total before).toNat + read.data.length ≤ RX_BUF_SIZE) :
    (readBytes + total reads).toNat = readBytes.toNat + (received reads).length := by
  induction reads generalizing readBytes with
  | nil => simp [total, received]
  | cons read rest ih =>
    obtain ⟨hread, hrest⟩ := List.forall_mem_cons.1 h
    have hfirst : readBytes.toNat + read.data.length ≤ RX_BUF_SIZE := by
      by_cases hempty : read.data = []
      · rw [hempty]
        exact hstart
      · simpa [total] using hinside [] read rest rfl hempty
    have hindex : (readBytes + UInt32.ofInt read.returned).toNat =
        readBytes.toNat + read.data.length := by
      unfold RX_BUF_SIZE at hfirst
      rw [ofInt_returned hread, UInt32.toNat_add, UInt32.toNat_ofNat']
      omega
    rw [total, ← add_assoc, ih hrest (hindex ▸ hfirst), hindex, received_cons,
      List.length_append, Nat.add_assoc]
    intro before read' after hsplit hdata
    have hnext := hinside (read :: before) read' after (by rw [hsplit, List.cons_append]) hdata
    rwa [total, ← add_assoc] at hnext

/-- An answer without failing reads that fits is short. -/
theorem length_received_of_fits (h : ∀ read ∈ reads, read ≠ .failed) (fits : Fits reads) :
    (received reads).length < RX_BUF_SIZE := by
  have hstart : (0 : UInt32).toNat ≤ RX_BUF_SIZE := Nat.zero_le _
  have hcount := toNat_add_total h hstart (by simpa using fits.1)
  rw [zero_add, UInt32.toNat_zero, Nat.zero_add] at hcount
  exact hcount ▸ fits.2

/-- A short answer without failing reads fits. -/
theorem fits_of_received (h : ∀ read ∈ reads, read ≠ .failed)
    (hshort : (received reads).length < RX_BUF_SIZE) : Fits reads := by
  refine ⟨?_, by rwa [toNat_total h hshort]⟩
  rintro before read after rfl -
  have hlength : (received (before ++ read :: after)).length =
      (received before).length + (read.data.length + (received after).length) := by
    unfold received
    rw [List.flatMap_append, List.flatMap_cons, List.length_append, List.length_append]
  rw [toNat_total (fun read' hmem => h read' (List.mem_append_left _ hmem)) (by omega)]
  omega

/-- Reads that do not fail store one after the other. -/
theorem readAll_received (h : ∀ read ∈ reads, read ≠ .failed) (readBytes : UInt32)
    (hshort : readBytes.toNat + (received reads).length < RX_BUF_SIZE) (buffer : TxRxBuffer) :
    (readAll reads readBytes buffer).2 = buffer.storeAll readBytes.toNat (received reads) := by
  induction reads generalizing readBytes buffer with
  | nil => rfl
  | cons read rest ih =>
    obtain ⟨hread, hrest⟩ := List.forall_mem_cons.1 h
    rw [received_cons, List.length_append] at hshort
    have hindex : (readBytes + UInt32.ofInt read.returned).toNat =
        readBytes.toNat + read.data.length := by
      unfold RX_BUF_SIZE at hshort
      rw [ofInt_returned hread, UInt32.toNat_add, UInt32.toNat_ofNat']
      omega
    rw [readAll, ih hrest _ (by omega), hindex, received_cons,
      TxRxBuffer.storeAll_append]

end Answers

/-! ## Several objects -/

/-- What the constructors make of a specification. -/
def construct {S : Type} (spec : S) : AtCommand S := { itsAtSpec := spec }

/-- The response interpreter is given the buffer as a C string. -/
def getResponse {S R : Type} (interpreter : List UInt8 → CommandType → R) (command : AtCommand S)
    (buffer : TxRxBuffer) : R :=
  interpreter (content buffer.bytes.toList) command.lastSentCommandType

/-- The calls on the objects of an instantiation, with answers of the UART that fit the buffer. -/
inductive Call (ι : Type) where
  | sendAt (object : ι) (uart : Uart) (fits : Fits uart.reads) (cmdType : CommandType)
  | getResponse (object : ι)

/-- The buffer of an instantiation and, for each object, what its latest `sendAt` that returned
`AT_SENT` has received and been asked for. -/
structure Exchange (ι : Type) where
  txRxBuffer : TxRxBuffer := {}
  latest : ι → Option (List UInt8 × CommandType) := fun _ => none

variable {S ι R : Type} (specs : ι → S) (interpreter : List UInt8 → CommandType → R)

/-- The response of an object is made of what it has received and been asked for. -/
def Belongs (s : Exchange ι) : Call ι → Prop
  | .sendAt .. => True
  | .getResponse object => ∀ bytes cmdType, s.latest object = some (bytes, cmdType) →
    getResponse interpreter (construct (specs object)) s.txRxBuffer =
      interpreter (content bytes) cmdType

variable [AtSpec S]

/-- The call is a `sendAt` of the object that gets onto the wire. -/
def SentBy (object : ι) : Call ι → Prop
  | .sendAt object' uart _ cmdType =>
    object' = object ∧ Sent (construct (specs object)) uart cmdType
  | .getResponse _ => False

/-- The call leaves the buffer alone: nothing is rendered and nothing gets onto the wire. -/
def LeavesBuffer : Call ι → Prop
  | .sendAt object uart _ cmdType => ¬ Sent (construct (specs object)) uart cmdType ∧
      (AtSpec.renderCommand (specs object) cmdType).text = []
  | .getResponse _ => True

/-- Each response of an object that has sent a command is asked for before any other call touches
the buffer, after an answer without failing reads from which the interpreter makes the same response
for `AT_INVALID` as for the type of the command. -/
def AsksInTime (calls : List (Call ι)) : Prop :=
  ∀ before object after, calls = before ++ .getResponse object :: after →
    (∃ call ∈ before, SentBy specs object call) →
    ∃ earlier uart fits cmdType since,
      before = earlier ++ .sendAt object uart fits cmdType :: since ∧
      Sent (construct (specs object)) uart cmdType ∧
      (∀ read ∈ uart.reads, read ≠ .failed) ∧
      (∀ call ∈ since, LeavesBuffer specs call) ∧
      interpreter (content (received uart.reads)) .atInvalid =
        interpreter (content (received uart.reads)) cmdType

variable [DecidableEq ι]

def exchanges : System (Exchange ι) (Call ι) where
  step s
  | .sendAt object uart _ cmdType =>
    let (result, txRxBuffer) := sendAt (construct (specs object)) uart cmdType s.txRxBuffer
    let latest := if result = .atSent then
      Function.update s.latest object (some (received uart.reads, cmdType)) else s.latest
    some { txRxBuffer, latest }
  | .getResponse _ => some s

variable {specs interpreter}

theorem step_sendAt (s : Exchange ι) (object : ι) (uart : Uart) (fits : Fits uart.reads)
    (cmdType : CommandType) :
    (exchanges specs).step s (.sendAt object uart fits cmdType) = some
      { txRxBuffer := (sendAt (construct (specs object)) uart cmdType s.txRxBuffer).2
        latest := if (sendAt (construct (specs object)) uart cmdType s.txRxBuffer).1 = .atSent then
          Function.update s.latest object (some (received uart.reads, cmdType)) else s.latest } :=
  rfl

theorem copyCommand_nil (bytes : Vector UInt8 RX_BUF_SIZE) : copyCommand [] bytes = bytes := by
  ext i hi
  simp [copyCommand]

theorem step_leavesBuffer {s s' : Exchange ι} {call : Call ι} (h : LeavesBuffer specs call)
    (hs : (exchanges specs).step s call = some s') :
    s'.txRxBuffer.bytes = s.txRxBuffer.bytes ∧ s'.latest = s.latest := by
  cases call with
  | getResponse object =>
    cases hs
    exact ⟨rfl, rfl⟩
  | sendAt object uart fits cmdType =>
    obtain ⟨hsent, htext⟩ := h
    obtain ⟨hresult, hbytes, -⟩ :=
      sendAt_of_not_sent (construct (specs object)) uart cmdType s.txRxBuffer hsent
    rw [step_sendAt] at hs
    obtain rfl := Option.some.inj hs
    refine ⟨?_, ?_⟩
    · rw [show (construct (specs object)).itsAtSpec = specs object from rfl, htext,
        copyCommand_nil] at hbytes
      exact hbytes
    · exact if_neg (by rw [hresult]; decide)

/-- Right after a command that was sent the buffer holds what it received. -/
theorem step_sent {s s' : Exchange ι} {object : ι} {uart : Uart} {fits : Fits uart.reads}
    {cmdType : CommandType} (hsent : Sent (construct (specs object)) uart cmdType)
    (hreads : ∀ read ∈ uart.reads, read ≠ .failed)
    (hs : (exchanges specs).step s (.sendAt object uart fits cmdType) = some s') :
    content s'.txRxBuffer.bytes.toList = content (received uart.reads) ∧
      s'.latest object = some (received uart.reads, cmdType) := by
  have hshort := length_received_of_fits hreads fits
  obtain ⟨buffer, -, hsend⟩ :=
    sendAt_of_sent (construct (specs object)) uart cmdType s.txRxBuffer hsent
  rw [readAll_received hreads 0 (by simpa using hshort), readAll_total, zero_add,
    toNat_total hreads hshort] at hsend
  rw [step_sendAt] at hs
  obtain rfl := Option.some.inj hs
  refine ⟨?_, ?_⟩
  · dsimp only
    rw [hsend]
    exact TxRxBuffer.content_answer buffer hshort
  · dsimp only
    rw [hsend, if_pos rfl, Function.update_self]

theorem exists_step (specs : ι → S) (s : Exchange ι) (call : Call ι) :
    ∃ s', (exchanges specs).step s call = some s' := by
  cases call <;> exact ⟨_, rfl⟩

theorem final_leavesBuffer {calls : List (Call ι)} (h : ∀ call ∈ calls, LeavesBuffer specs call)
    (s : Exchange ι) :
    ((exchanges specs).final s calls).txRxBuffer.bytes = s.txRxBuffer.bytes ∧
      ((exchanges specs).final s calls).latest = s.latest := by
  induction calls generalizing s with
  | nil => exact ⟨rfl, rfl⟩
  | cons call calls ih =>
    obtain ⟨hcall, hcalls⟩ := List.forall_mem_cons.1 h
    obtain ⟨s', hs⟩ := exists_step specs s call
    obtain ⟨hbytes, hlatest⟩ := step_leavesBuffer hcall hs
    obtain ⟨hbytes', hlatest'⟩ := ih hcalls s'
    rw [System.final, hs, Option.getD_some]
    exact ⟨hbytes'.trans hbytes, hlatest'.trans hlatest⟩

/-- An object that has sent no command has nothing to be answered. -/
theorem final_latest {object : ι} {calls : List (Call ι)}
    (h : ∀ call ∈ calls, ¬ SentBy specs object call) (s : Exchange ι) :
    ((exchanges specs).final s calls).latest object = s.latest object := by
  induction calls generalizing s with
  | nil => rfl
  | cons call calls ih =>
    obtain ⟨hcall, hcalls⟩ := List.forall_mem_cons.1 h
    rw [System.final, ih hcalls]
    cases call with
    | getResponse object' => rfl
    | sendAt object' uart fits cmdType =>
      rw [step_sendAt, Option.getD_some]
      by_cases hobject : object' = object
      · subst hobject
        have hsent : ¬ Sent (construct (specs object')) uart cmdType := fun hsent =>
          hcall ⟨rfl, hsent⟩
        dsimp only
        rw [(sendAt_of_not_sent _ _ _ s.txRxBuffer hsent).1, if_neg (by decide)]
      · dsimp only
        split_ifs
        · rw [Function.update_of_ne (Ne.symm hobject)]
        · rfl

/-- In every sequence of calls that asks for each response in time, every response belongs to the
command that asked for it. -/
theorem responses_belong_of_asksInTime (calls : List (Call ι))
    (h : AsksInTime specs interpreter calls) :
    (exchanges specs).Obeys {} calls (Belongs specs interpreter) := by
  rw [System.obeys_iff_forall_split]
  rintro before call after hsplit -
  cases call with
  | sendAt object uart fits cmdType => trivial
  | getResponse object =>
    intro bytes cmdType hlatest
    have hsentBy : ∃ call ∈ before, SentBy specs object call := by
      by_contra hnone
      rw [final_latest (by simpa using hnone)] at hlatest
      cases hlatest
    obtain ⟨earlier, uart, fits, cmdType', since, rfl, hsent, hreads, hsince, hsame⟩ :=
      h before object after hsplit hsentBy
    obtain ⟨s', hs⟩ := exists_step specs ((exchanges specs).final {} earlier)
      (.sendAt object uart fits cmdType')
    obtain ⟨hcontent, hsentLatest⟩ := step_sent hsent hreads hs
    obtain ⟨hbytes, hkept⟩ := final_leavesBuffer hsince s'
    rw [System.final_append, System.final, hs, Option.getD_some] at hlatest ⊢
    obtain ⟨rfl, rfl⟩ : received uart.reads = bytes ∧ cmdType' = cmdType := by
      rw [hkept, hsentLatest] at hlatest
      exact Prod.mk.inj (Option.some.inj hlatest)
    rw [getResponse, hbytes, hcontent]
    exact hsame

/-- An `AT` that is answered with `OK`. -/
def answeredOk : Uart where
  write := 4
  reads := [.received ⟨[13, 10, 79, 75, 13, 10], by decide⟩]

/-- Two objects. -/
def ats : Bool → Bgs2.At := fun _ => {}

theorem answeredOk_fits : Fits answeredOk.reads := fits_of_received (by decide) (by decide)

/-- A command whose rendering fails leaves the answer of the other object in place. -/
def askedInTime : List (Call Bool) :=
  [.sendAt true answeredOk answeredOk_fits .atExecute,
    .sendAt false answeredOk answeredOk_fits .atRead, .getResponse true]

theorem asked_in_time_belongs :
    AsksInTime ats Bgs2.PlainAtInterpreter.getResponse askedInTime ∧
      (exchanges ats).Obeys {} askedInTime (Belongs ats Bgs2.PlainAtInterpreter.getResponse) := by
  have hasks : AsksInTime ats Bgs2.PlainAtInterpreter.getResponse askedInTime := by
    intro before object after hsplit _
    -- only the last call asks for a response
    rcases before with _ | ⟨first, _ | ⟨second, _ | ⟨third, before⟩⟩⟩ <;>
      simp [askedInTime] at hsplit
    obtain ⟨rfl, rfl, rfl, -⟩ := hsplit
    refine ⟨[], answeredOk, answeredOk_fits, .atExecute, _, rfl, ⟨by decide, by decide⟩,
      by decide, ?_, rfl⟩
    rw [List.forall_mem_singleton]
    exact ⟨fun hsent => absurd hsent.1 (by decide), rfl⟩
  exact ⟨hasks, responses_belong_of_asksInTime askedInTime hasks⟩

/-! ## A failed command behind an answer -/

/-- An `AT` that does not get onto the wire. -/
def unwritten : Uart where
  write := -1
  reads := []

/-- The failed command of one object takes the answer of the other: its response is made of
`AT\r\n\r\n` instead of `\r\nOK\r\n`, and so it is an incorrect one.  And without the failed command
an interpreter that looks at the type is given another one. -/
theorem answer_overwritten :
    ¬ (exchanges ats).Obeys {}
      [.sendAt true answeredOk answeredOk_fits .atExecute,
        .sendAt false unwritten (fits_of_received (by decide) (by decide)) .atExecute,
        .getResponse true] (Belongs ats Bgs2.PlainAtInterpreter.getResponse) ∧
      ¬ (exchanges ats).Obeys {}
        [.sendAt true answeredOk answeredOk_fits .atExecute, .getResponse true]
        (Belongs ats fun _ cmdType => cmdType) := by
  constructor
  · intro h
    have hresponse := h _ (List.mem_cons_of_mem _ (List.mem_cons_of_mem _ List.mem_cons_self))
      [13, 10, 79, 75, 13, 10] .atExecute rfl
    exact absurd hresponse (by decide +kernel)
  · intro h
    have hresponse := h _ (List.mem_cons_of_mem _ List.mem_cons_self)
      [13, 10, 79, 75, 13, 10] .atExecute rfl
    exact absurd hresponse (by decide)

end AtCommand

end SgmDevice
