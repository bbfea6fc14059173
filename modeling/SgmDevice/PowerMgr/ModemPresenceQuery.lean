import SgmDevice.PowerMgr.ModemPowerController
import SgmDevice.Utils.AtResponses

/-!
# `ModemPresenceQuery`

The query by which the power controller finds out whether an active modem answers: an `AT` on the
serial line, unless the device nodes of an earlier CMUX are still there.  What a query returns
depends on the bytes of its own answer and on nothing that the shared buffer held before
(`run_eq_okRaw_iff`), so the state that the controller starts with can be read off the pin and the
line (`enabled_at_start_iff`).
-/

namespace SgmDevice

open IAtCommand CStrings

namespace ModemPresenceQuery

/-- What one `run()` is answered. -/
structure Line where
  /-- `access("/dev/ttyGSM2", F_OK)`. -/
  access : Int := -1
  itsUartPort : Uart

/-- `commandAT`, whose constructor makes its specification. -/
def commandAT : AtCommand Bgs2.At := AtCommand.construct {}

def isCmuxPotentiallyActive (line : Line) : Bool := 0 = line.access

def run (line : Line) (txRxBuffer : TxRxBuffer) : IModemQuery.Result × TxRxBuffer :=
  if isCmuxPotentiallyActive line then (.nok, txRxBuffer)
  else
    let (result, txRxBuffer) := commandAT.sendAt line.itsUartPort .atExecute txRxBuffer
    if .atSent ≠ result then (.nok, txRxBuffer)
    else
      let resp := AtCommand.getResponse Bgs2.PlainAtInterpreter.getResponse commandAT txRxBuffer
      if resp.getReturnCode ≠ .ok then (.nok, txRxBuffer) else (.okRaw, txRxBuffer)

/-! ## The answer -/

/-- The bytes that some reads leave behind the bytes `bytes`: a failing read takes the last byte
back.  Nothing, if they leave the buffer. -/
def answerFrom : List ReadResult → List UInt8 → Option (List UInt8)
  | [], bytes => if bytes.length < RX_BUF_SIZE then some bytes else none
  | .failed :: reads, bytes => if bytes = [] then none else answerFrom reads bytes.dropLast
  | .received data :: reads, bytes =>
    if bytes.length + data.val.length ≤ RX_BUF_SIZE then answerFrom reads (bytes ++ data.val)
    else none

/-- The answer in the buffer. -/
def answer (uart : Uart) : Option (List UInt8) := answerFrom uart.reads []

/-- The line is free and takes the `AT`. -/
def Line.Takes (line : Line) : Prop := line.access ≠ 0 ∧ line.itsUartPort.write = 4

theorem length_of_answerFrom {reads : List ReadResult} {bytes final : List UInt8}
    (h : answerFrom reads bytes = some final) : final.length < RX_BUF_SIZE := by
  induction reads generalizing bytes with
  | nil =>
    obtain ⟨hlength, hbytes⟩ := Option.ite_none_right_eq_some.1 h
    rwa [← Option.some.inj hbytes]
  | cons read reads ih =>
    cases read with
    | failed => exact ih (Option.ite_none_left_eq_some.1 h).2
    | received data => exact ih (Option.ite_none_right_eq_some.1 h).2

/-- The loop of `sendAt` counts the bytes of the answer and leaves them at the start of the
buffer. -/
theorem readAll_answerFrom {reads : List ReadResult} {bytes final : List UInt8}
    (h : answerFrom reads bytes = some final) {readBytes : UInt32} {buffer : TxRxBuffer}
    (hcount : readBytes.toNat = bytes.length)
    (hstored : buffer.bytes.toList.take bytes.length = bytes) :
    (AtCommand.readAll reads readBytes buffer).1.toNat = final.length ∧
      (AtCommand.readAll reads readBytes buffer).2.bytes.toList.take final.length = final := by
  induction reads generalizing bytes readBytes buffer with
  | nil =>
    obtain ⟨-, hbytes⟩ := Option.ite_none_right_eq_some.1 h
    rw [← Option.some.inj hbytes]
    exact ⟨hcount, hstored⟩
  | cons read reads ih =>
    cases read with
    | failed =>
      obtain ⟨hne, hrest⟩ := Option.ite_none_left_eq_some.1 h
      have hpos : 0 < bytes.length := List.length_pos_of_ne_nil hne
      rw [AtCommand.readAll]
      refine ih hrest ?_ ?_
      · have hback : (UInt32.ofInt ReadResult.failed.returned).toNat = 4294967295 := by
          decide
        have hbound := readBytes.toNat_lt
        rw [UInt32.toNat_add, hback, List.length_dropLast]
        omega
      · rw [List.length_dropLast, List.dropLast_eq_take]
        have htake := congrArg (List.take (bytes.length - 1)) hstored
        rwa [List.take_take, Nat.min_eq_left (Nat.sub_le _ _)] at htake
    | received data =>
      obtain ⟨hroom, hrest⟩ := Option.ite_none_right_eq_some.1 h
      have hsize : RX_BUF_SIZE = 200 := rfl
      rw [AtCommand.readAll]
      refine ih hrest ?_ ?_
      · have hreturned : UInt32.ofInt (ReadResult.received data).returned =
            UInt32.ofNat data.val.length := AtCommand.ofInt_returned (by simp)
        rw [hreturned, UInt32.toNat_add, UInt32.toNat_ofNat', List.length_append]
        omega
      · have hstore := TxRxBuffer.toList_storeAll readBytes.toNat data.val buffer (by omega)
        change List.take _ (buffer.storeAll readBytes.toNat data.val).bytes.toList = _
        rw [hstore, hcount, hstored, List.length_append]
        exact List.take_left' (List.length_append)

/-- What the response interpreter is given. -/
theorem content_sendAt {uart : Uart} {bytes : List UInt8} (h : answer uart = some bytes)
    (hwrite : uart.write = 4) (txRxBuffer : TxRxBuffer) :
    (commandAT.sendAt uart .atExecute txRxBuffer).1 = .atSent ∧
      content (commandAT.sendAt uart .atExecute txRxBuffer).2.bytes.toList = content bytes := by
  have hsent : AtCommand.Sent commandAT uart .atExecute := ⟨by decide, hwrite⟩
  obtain ⟨buffer, -, hsend⟩ := AtCommand.sendAt_of_sent commandAT uart .atExecute txRxBuffer hsent
  have hnone : buffer.bytes.toList.take ([] : List UInt8).length = [] := rfl
  obtain ⟨hcount, hstored⟩ := readAll_answerFrom h UInt32.toNat_zero hnone
  refine ⟨by rw [hsend], ?_⟩
  rw [hsend, TxRxBuffer.toList_store _ _ (hcount ▸ length_of_answerFrom h), hcount, hstored,
    content_terminated]

theorem length_at : (AtSpec.renderCommand commandAT.itsAtSpec .atExecute).length = 4 := rfl

theorem sendAt_of_not_written {uart : Uart} (hwrite : uart.write ≠ 4) (txRxBuffer : TxRxBuffer) :
    (commandAT.sendAt uart .atExecute txRxBuffer).1 = .atUartError := by
  unfold AtCommand.sendAt
  dsimp only
  rw [length_at, if_neg (by decide), if_pos hwrite]

/-- The query finds the modem if and only if the line is free and takes the command and its answer
ends with a line `OK`. -/
theorem run_eq_okRaw_iff {line : Line} {bytes : List UInt8}
    (h : answer line.itsUartPort = some bytes) (txRxBuffer : TxRxBuffer) :
    (run line txRxBuffer).1 = .okRaw ↔
      line.Takes ∧ Bgs2.PlainAtInterpreter.EndsWith Bgs2.PlainAtInterpreter.okCode
        (content bytes) := by
  unfold run isCmuxPotentiallyActive Line.Takes
  by_cases haccess : 0 = line.access
  · simp [haccess.symm]
  by_cases hwrite : line.itsUartPort.write = 4
  · obtain ⟨hsent, hcontent⟩ := content_sendAt h hwrite txRxBuffer
    have hcode : (AtCommand.getResponse Bgs2.PlainAtInterpreter.getResponse commandAT
        (commandAT.sendAt line.itsUartPort .atExecute txRxBuffer).2).getReturnCode = .ok ↔
          Bgs2.PlainAtInterpreter.EndsWith Bgs2.PlainAtInterpreter.okCode (content bytes) := by
      have hresponse := (Bgs2.PlainAtInterpreter.getResponse_iff (content bytes)
        commandAT.lastSentCommandType).2
      rw [AtCommand.getResponse, hcontent]
      rwa [content, content, List.takeWhile_idem] at hresponse
    rw [if_neg (by simpa using haccess)]
    dsimp only
    rw [hsent, if_neg (by simp), ← hcode]
    split_ifs with hok
    · simp [hok]
    · simp [Ne.symm haccess, hwrite, not_not.1 hok]
  · have hfailed := sendAt_of_not_written hwrite txRxBuffer
    simp [haccess, hwrite, hfailed]

/-! ## The start of the controller -/

/-- The constructor of the controller, behind whose query there is this line; the static buffer
holds whatever earlier commands have left. -/
def started (powerInd : ℕ → Int) (line : Line) (txRxBuffer : TxRxBuffer) (segment : SGMShared) :
    PowerMgr.Data :=
  PowerMgr.run { powerInd, modemQuery := fun _ => (run line txRxBuffer).1 }
    ModemPowerController.construct { shared := segment }

open ModemPowerController

/-- The constructor finds the modem enabled if and only if the pin says so twice and the query
finds it. -/
theorem construct_enabled_iff (w : PowerMgr.World) (segment : SGMShared) :
    (PowerMgr.run w construct { shared := segment }).itsPowerState = .enabled ↔
      w.powerInd 0 = MODEM_IND_POWER_ON ∧ w.powerInd 1 = MODEM_IND_POWER_ON ∧
        w.modemQuery 0 = .okRaw := by
  by_cases hfirst : w.powerInd 0 = MODEM_IND_POWER_ON
  · by_cases hon : w.powerInd 1 = MODEM_IND_POWER_ON
    · by_cases hquery : w.modemQuery 0 = .okRaw <;>
        simp [PowerMgr.run, construct, stabilizePowerState, Concurrency.Program.perform,
          PowerMgr.Op.exec, hfirst, hon, hquery]
    · by_cases hoff : w.powerInd 1 = MODEM_IND_POWER_OFF <;>
        simp [PowerMgr.run, construct, stabilizePowerState, Concurrency.Program.perform,
          PowerMgr.Op.exec, hfirst, hon, hoff, ind_off_ne_on]
  · simp [PowerMgr.run, construct, Concurrency.Program.perform, PowerMgr.Op.exec, hfirst]

/-- The controller starts with an enabled modem if and only if the pin says so twice, no device
node of CMUX is there, the line takes the `AT`, and the bytes that come back, up to the first NUL,
end with a line `OK`; the buffer may hold anything. -/
theorem enabled_at_start_iff (powerInd : ℕ → Int) (line : Line) (txRxBuffer : TxRxBuffer)
    (segment : SGMShared) {bytes : List UInt8} (h : answer line.itsUartPort = some bytes) :
    (started powerInd line txRxBuffer segment).itsPowerState = .enabled ↔
      powerInd 0 = MODEM_IND_POWER_ON ∧ powerInd 1 = MODEM_IND_POWER_ON ∧ line.Takes ∧
        Bgs2.PlainAtInterpreter.EndsWith Bgs2.PlainAtInterpreter.okCode (content bytes) := by
  rw [started, construct_enabled_iff, ← run_eq_okRaw_iff h txRxBuffer]

/-- The answer comes in two parts, after a read that failed. -/
theorem enabled_at_start_answered :
    (started (fun _ => 0) ⟨-1, 4, [.received ⟨[65, 84, 13, 10], by decide⟩, .failed,
      .received ⟨[10, 13, 10, 79, 75, 13, 10], by decide⟩]⟩ {} {}).itsPowerState = .enabled :=
  (enabled_at_start_iff _ _ {} {} rfl).2 ⟨rfl, rfl, ⟨by decide, rfl⟩, by decide⟩

end ModemPresenceQuery

end SgmDevice
