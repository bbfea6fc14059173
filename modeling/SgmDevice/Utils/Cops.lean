import SgmDevice.Text.Decimal
import SgmDevice.Utils.AtCommand
import SgmDevice.Utils.CStrings

/-!
# `Cops`

The command that selects a network operator, by a number or by a name.  The number is kept as an
`int`; the name is copied as far as a pointer is long, and never rendered; and the write command is
rendered by a function that returns nothing (`namesNetwork_iff`).
-/

namespace SgmDevice

open IAtCommand Text

namespace Bgs2

structure Cops where
  mode : Int32 := 0
  format : Int32 := 0
  networkId : Int32 := 0
  networkName : Vector UInt8 10 := .replicate 10 0

namespace Cops

def COPS_COMMAND : List UInt8 := ascii "AT+COPS"

/-- `sizeof(_networkName)`, which is a pointer. -/
def sizeofNetworkName : ℕ := 4

/-- `Cops(unsigned int)`. -/
def ofNetworkId (networkId : UInt32) : Cops where
  mode := 1
  format := 2
  networkId := networkId.toInt32

/-- `Cops(char[])`, given the bytes from the pointer on. -/
def ofNetworkName (networkName : List UInt8) : Cops where
  mode := 1
  format := 2
  networkName := .ofFn fun i => if i.val < sizeofNetworkName then networkName.getD i 0 else 0

def lineEnd : List UInt8 := ascii "\r\n"

/-- What `prepareWriteCommand` returns and makes of the text.  It has a `return` for the mode 0
only; behind the others the caller finds `leftover`. -/
def prepareWriteCommand (cops : Cops) (leftover : Bool) (command : List UInt8) :
    Bool × List UInt8 :=
  let command := command ++ ascii "="
  if cops.mode = 0 then (true, command ++ ascii "0\r\n")
  else
    let command :=
      if cops.mode = 1 then
        if cops.format = 0 then
          command ++ ascii "1,0," ++ CStrings.content cops.networkName.toList
        else if cops.format = 2 then
          command ++ ascii "1,2," ++ signedDecimal cops.networkId.toInt
        else command
      else command
    (leftover, command ++ lineEnd)

def prepareReadCommand (command : List UInt8) : Bool × List UInt8 :=
  (true, command ++ ascii "=?\r\n")

def renderCommand (cops : Cops) (leftover : Bool) (cmdType : CommandType) : Rendered :=
  let (isCommandRendered, commandText) :=
    match cmdType with
    | .atRead => prepareReadCommand COPS_COMMAND
    | .atWrite => cops.prepareWriteCommand leftover COPS_COMMAND
    | _ => (false, COPS_COMMAND)
  if isCommandRendered then ⟨commandText, commandText.length⟩ else ⟨[], 0⟩

/-- A command with what is left where `prepareWriteCommand` returns nothing. -/
structure Compiled where
  cops : Cops
  leftover : Bool

instance : AtSpec Compiled where
  renderCommand spec cmdType := spec.cops.renderCommand spec.leftover cmdType

/-- A name of at most nine characters. -/
abbrev Name := { name : List UInt8 // name.length ≤ 9 ∧ 0 ∉ name }

/-- The types of which `renderCommand` renders nothing. -/
def Unrenderable : CommandType → Prop
  | .atExecute | .atTest | .atInvalid => True
  | _ => False

/-- The text of the write command. -/
def writeCommand (cops : Cops) (leftover : Bool) : List UInt8 :=
  (cops.renderCommand leftover .atWrite).text

/-- The number behind `AT+COPS=1,2,`. -/
def readNetworkId (text : List UInt8) : ℕ :=
  value ((text.drop (ascii "AT+COPS=1,2,").length).takeWhile isDigit)

/-- The write command names the network it was built for, and what is not rendered is not sent. -/
structure NamesNetwork (leftover : Bool) (networkId : UInt32) (name : Name) (cmdType : CommandType)
    (uart : Uart) : Prop where
  written : writeCommand (ofNetworkId networkId) leftover =
    ascii "AT+COPS=1,2," ++ decimal networkId.toNat ++ lineEnd
  distinct : ∀ other : UInt32,
    writeCommand (ofNetworkId other) leftover = writeCommand (ofNetworkId networkId) leftover →
      other = networkId
  readBack : readNetworkId (writeCommand (ofNetworkId networkId) leftover) = networkId.toNat
  named : ∀ behind : List UInt8,
    name.val <:+: writeCommand (ofNetworkName (name.val ++ 0 :: behind)) leftover
  length : ∀ cops : Cops, (cops.renderCommand leftover cmdType).length =
    (cops.renderCommand leftover cmdType).text.length
  refused : Unrenderable cmdType → ∀ (cops : Cops) (buffer : TxRxBuffer),
    let (result, buffer') := AtCommand.sendAt ⟨Compiled.mk cops leftover, .atInvalid⟩ uart cmdType
      buffer
    result = .atUartError ∧ buffer'.written.flatten = buffer.written.flatten

/-! ## The write command -/

theorem writeCommand_of_not_leftover {cops : Cops} (hmode : cops.mode ≠ 0) :
    writeCommand cops false = [] := by
  simp [writeCommand, renderCommand, prepareWriteCommand, hmode]

/-- Both constructors with an argument choose the numeric format. -/
theorem writeCommand_numeric {cops : Cops} (hmode : cops.mode = 1) (hformat : cops.format = 2) :
    writeCommand cops true =
      ascii "AT+COPS=1,2," ++ signedDecimal cops.networkId.toInt ++ lineEnd := by
  have hprefix : COPS_COMMAND ++ ascii "=" ++ ascii "1,2," = ascii "AT+COPS=1,2," := by decide
  have hone : (1 : Int32) ≠ 0 := by decide
  have htwo : (2 : Int32) ≠ 0 := by decide
  simp only [writeCommand, renderCommand, prepareWriteCommand, hmode, hformat, if_neg hone,
    if_neg htwo, if_true, hprefix]

theorem length_renderCommand (cops : Cops) (leftover : Bool) (cmdType : CommandType) :
    (cops.renderCommand leftover cmdType).length =
      (cops.renderCommand leftover cmdType).text.length := by
  unfold renderCommand
  cases cmdType with
  | atWrite =>
    dsimp only
    split <;> rfl
  | atRead | atExecute | atTest | atInvalid => rfl

/-- The `int` is the number up to 2147483647. -/
theorem toInt_toInt32_eq_iff (n : UInt32) : n.toInt32.toInt = n.toNat ↔ n.toNat < 2 ^ 31 := by
  have hn := n.toNat_lt
  have hbits : n.toInt32.toInt = (n.toNat : Int).bmod (2 ^ 32) := BitVec.toInt_eq_toNat_bmod _
  rw [hbits, Int.bmod_def]
  omega

theorem toInt32_inj {m n : UInt32} (h : m.toInt32.toInt = n.toInt32.toInt) : m = n := by
  rw [← UInt32.toUInt32_toInt32 m, Int32.toInt_inj.1 h, UInt32.toUInt32_toInt32]

theorem append_numeral_inj {v w : List UInt8}
    (h : ascii "AT+COPS=1,2," ++ v ++ lineEnd = ascii "AT+COPS=1,2," ++ w ++ lineEnd) : v = w :=
  List.append_cancel_left (List.append_cancel_right h)

/-- The digits can be told from the line end. -/
theorem readNetworkId_decimal (n : ℕ) :
    readNetworkId (ascii "AT+COPS=1,2," ++ decimal n ++ lineEnd) = n := by
  have hend : ∀ byte ∈ lineEnd.head?, isDigit byte = false := by
    intro byte hbyte
    obtain rfl : 13 = byte := Option.some.inj hbyte
    decide
  rw [readNetworkId, List.append_assoc, List.drop_left, takeWhile_decimal n hend, value_decimal]

/-- A number that is no `int` is rendered as a negative one. -/
theorem written_iff (leftover : Bool) (networkId : UInt32) :
    writeCommand (ofNetworkId networkId) leftover =
        ascii "AT+COPS=1,2," ++ decimal networkId.toNat ++ lineEnd ↔
      leftover = true ∧ networkId.toNat < 2 ^ 31 := by
  cases leftover with
  | false =>
    have hmode : (ofNetworkId networkId).mode ≠ 0 := show (1 : Int32) ≠ 0 by decide
    rw [writeCommand_of_not_leftover hmode]
    refine iff_of_false (fun h => ?_) fun h => absurd h.1 Bool.false_ne_true
    have hlength := congrArg List.length h
    rw [List.length_append, List.length_append] at hlength
    have hprefix : (ascii "AT+COPS=1,2,").length = 12 := by decide
    rw [List.length_nil] at hlength
    omega
  | true =>
    rw [writeCommand_numeric rfl rfl, ← signedDecimal_natCast, eq_self_iff_true, true_and,
      ← toInt_toInt32_eq_iff]
    constructor
    · intro h
      exact signedDecimal_inj (append_numeral_inj h)
    · intro h
      change ascii "AT+COPS=1,2," ++ signedDecimal networkId.toInt32.toInt ++ lineEnd = _
      rw [h]

/-- The name is looked for in the command of the network 0. -/
theorem writeCommand_ofNetworkName (networkName : List UInt8) :
    writeCommand (ofNetworkName networkName) true = ascii "AT+COPS=1,2,0\r\n" := by
  rw [writeCommand_numeric rfl rfl]
  change ascii "AT+COPS=1,2," ++ signedDecimal (0 : Int32).toInt ++ lineEnd = _
  decide

theorem distinct_of_leftover {networkId other : UInt32}
    (h : writeCommand (ofNetworkId other) true = writeCommand (ofNetworkId networkId) true) :
    other = networkId := by
  rw [writeCommand_numeric rfl rfl, writeCommand_numeric rfl rfl] at h
  exact toInt32_inj (signedDecimal_inj (append_numeral_inj h))

/-! ## Commands that are not rendered -/

theorem renderCommand_of_unrenderable {cmdType : CommandType} (h : Unrenderable cmdType)
    (cops : Cops) (leftover : Bool) : cops.renderCommand leftover cmdType = ⟨[], 0⟩ := by
  cases cmdType with
  | atRead | atWrite => exact h.elim
  | atExecute | atTest | atInvalid => rfl

/-- A command of length 0 is written all the same, and sent if the UART says that it wrote
nothing. -/
theorem refused_iff {cmdType : CommandType} (h : Unrenderable cmdType) (leftover : Bool)
    (uart : Uart) (cops : Cops) (buffer : TxRxBuffer) :
    let (result, buffer') := AtCommand.sendAt ⟨Compiled.mk cops leftover, .atInvalid⟩ uart cmdType
      buffer
    (result = .atUartError ∧ buffer'.written.flatten = buffer.written.flatten) ↔
      uart.write ≠ 0 := by
  have hrender : AtSpec.renderCommand (Compiled.mk cops leftover) cmdType = ⟨[], 0⟩ :=
    renderCommand_of_unrenderable h cops leftover
  unfold AtCommand.sendAt
  rw [hrender]
  dsimp only
  rw [if_neg (lt_irrefl 0)]
  by_cases hwrite : uart.write ≠ 0
  · rw [if_pos hwrite]
    exact iff_of_true ⟨rfl, rfl⟩ hwrite
  · rw [if_neg hwrite]
    have hsent : Result.atSent ≠ .atUartError := by decide
    exact iff_of_false (fun h => hsent h.1) hwrite

/-! ## When the command names its network -/

theorem namesNetwork_iff (leftover : Bool) (networkId : UInt32) (name : Name)
    (cmdType : CommandType) (uart : Uart) :
    NamesNetwork leftover networkId name cmdType uart ↔
      leftover = true ∧ networkId.toNat < 2 ^ 31 ∧
        name.val <:+: ascii "AT+COPS=1,2,0\r\n" ∧ (Unrenderable cmdType → uart.write ≠ 0) := by
  constructor
  · intro h
    obtain ⟨rfl, hsmall⟩ := (written_iff leftover networkId).1 h.written
    refine ⟨rfl, hsmall, ?_, fun hcmdType => ?_⟩
    · have hnamed := h.named []
      rwa [writeCommand_ofNetworkName] at hnamed
    · exact (refused_iff hcmdType true uart {} {}).1 (h.refused hcmdType {} {})
  · rintro ⟨rfl, hsmall, hname, hwrite⟩
    have hwritten := (written_iff true networkId).2 ⟨rfl, hsmall⟩
    exact
      { written := hwritten
        distinct := fun _ => distinct_of_leftover
        readBack := by rw [hwritten, readNetworkId_decimal]
        named := fun behind => by rwa [writeCommand_ofNetworkName]
        length := fun cops => length_renderCommand cops true cmdType
        refused := fun hcmdType cops buffer =>
          (refused_iff hcmdType true uart cops buffer).2 (hwrite hcmdType) }

/-- The name `Plus`. -/
def plus : Name := ⟨ascii "Plus", by decide⟩

/-- The number 4294967295 becomes -1, the name `Plus` is in no command, and the test command, of
which nothing is rendered, is sent. -/
theorem network_unnamed :
    writeCommand (ofNetworkId 4294967295) true = ascii "AT+COPS=1,2,-1\r\n" ∧
    ¬ plus.val <:+: writeCommand (ofNetworkName (plus.val ++ [0])) true ∧
    (AtCommand.sendAt ⟨Compiled.mk {} true, .atInvalid⟩ ⟨0, []⟩ .atTest {}).1 = .atSent ∧
    (∀ leftover, ¬ NamesNetwork leftover 4294967295 plus .atTest ⟨0, []⟩) := by
  refine ⟨by decide, ?_, by decide, fun leftover h => ?_⟩
  · rw [writeCommand_ofNetworkName]
    decide
  · exact absurd ((written_iff leftover 4294967295).1 h.written).2 (by decide)

end Cops

end Bgs2

end SgmDevice
