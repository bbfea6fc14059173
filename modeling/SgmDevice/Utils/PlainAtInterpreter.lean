import SgmDevice.Text.Regex
import SgmDevice.Utils.AtCommand
import SgmDevice.Utils.CStrings

/-!
# `PlainAtInterpreter`

A response is matched with an expression that takes any text before the result code.  However many
codes and line ends come earlier, the match ends with the text, so the last code decides
(`getResponse_iff`).
-/

namespace SgmDevice

open IAtCommand Text

/-- `AtGenericResponse::ReturnCode`. -/
inductive ReturnCode where
  | ok
  | error
  | cmeError
  | cmsError
  deriving DecidableEq, Repr

structure AtGenericResponse where
  responseCorrect : Bool := false
  commandReturnCode : ReturnCode := .error
  errorNumber : Int := 0
  deriving DecidableEq, Repr

namespace AtGenericResponse

def isResponseCorrect (response : AtGenericResponse) : Bool := response.responseCorrect

def getReturnCode (response : AtGenericResponse) : ReturnCode := response.commandReturnCode

def getErrorNumber (response : AtGenericResponse) : Int := response.errorNumber

end AtGenericResponse

namespace Bgs2

namespace PlainAtInterpreter

/-- `\r\n`. -/
def lineEnd : List UInt8 := [13, 10]

/-- `OK`. -/
def okCode : List UInt8 := [79, 75]

/-- `ERROR`. -/
def errorCode : List UInt8 := [69, 82, 82, 79, 82]

/-- `([^]*?)\r\n(OK|ERROR)\r\n`. -/
def EXEC_REGEX : Regex UInt8 :=
  .seq (.group 1 (.star true (.cls fun _ => true))) <| .seq (.lit lineEnd) <|
    .seq (.group 2 (.alt (.lit okCode) (.lit errorCode))) (.lit lineEnd)

/-- The length of a group, which is 0 for one that took no part in the match. -/
def groupLength (baseMatch : Groups UInt8) (i : ℕ) : ℕ := ((baseMatch.lookup i).getD []).length

/-- The type of the command is not looked at. -/
def getResponse (rxBuf : List UInt8) (_cmdType : CommandType) : AtGenericResponse :=
  match EXEC_REGEX.regexMatch (CStrings.content rxBuf) with
  | none => {}
  | some baseMatch =>
    let isResponseCorrect := true
    let commandReturnCode : ReturnCode := if 2 = groupLength baseMatch 2 then .ok else .error
    ⟨isResponseCorrect, commandReturnCode, 0⟩

theorem length_okCode : okCode.length = 2 := rfl

theorem length_errorCode : errorCode.length = 5 := rfl

/-! ## The last result code -/

/-- The text ends with the result code, between two line ends. -/
def EndsWith (code s : List UInt8) : Prop := lineEnd ++ (code ++ lineEnd) <:+ s

instance (code s : List UInt8) : Decidable (EndsWith code s) :=
  inferInstanceAs (Decidable (_ <:+ _))

/-- A match takes the code in front of the last line end. -/
theorem of_derives {s : List UInt8} {baseMatch : Groups UInt8}
    (h : EXEC_REGEX.Derives s baseMatch) :
    ∃ code, (code = okCode ∨ code = errorCode) ∧ EndsWith code s ∧
      groupLength baseMatch 2 = code.length := by
  obtain ⟨before, g₁, rest, g₂, -, hrest, rfl, rfl⟩ := h
  obtain ⟨_, _, rest, _, hfirst, hrest, rfl, rfl⟩ := hrest
  obtain ⟨code, _, _, _, ⟨g, hcode, rfl⟩, hlast, rfl, rfl⟩ := hrest
  obtain ⟨rfl, rfl⟩ := (Regex.derives_lit _ _ _).1 hfirst
  obtain ⟨rfl, rfl⟩ := (Regex.derives_lit _ _ _).1 hlast
  refine ⟨code, ?_, ⟨before, rfl⟩, rfl⟩
  rcases hcode with hok | herror
  · exact .inl ((Regex.derives_lit _ _ _).1 hok).1
  · exact .inr ((Regex.derives_lit _ _ _).1 herror).1

theorem exists_derives {code s : List UInt8} (hcode : code = okCode ∨ code = errorCode)
    (h : EndsWith code s) : ∃ baseMatch, EXEC_REGEX.Derives s baseMatch := by
  obtain ⟨before, rfl⟩ := h
  obtain ⟨g, hbefore⟩ : ∃ g, (Regex.star true (.cls fun _ => true)).Derives before g :=
    Regex.derives_star_cls fun _ _ => rfl
  have halt : (Regex.alt (.lit okCode) (.lit errorCode)).Derives code [] := by
    rcases hcode with rfl | rfl
    · exact .inl ((Regex.derives_lit _ _ _).2 ⟨rfl, rfl⟩)
    · exact .inr ((Regex.derives_lit _ _ _).2 ⟨rfl, rfl⟩)
  have hend : (Regex.lit lineEnd).Derives lineEnd [] := (Regex.derives_lit _ _ _).2 ⟨rfl, rfl⟩
  exact ⟨_, before, _, lineEnd ++ (code ++ lineEnd), _, ⟨g, hbefore, rfl⟩,
    ⟨lineEnd, [], code ++ lineEnd, _, hend,
      ⟨code, _, lineEnd, [], ⟨[], halt, rfl⟩, hend, rfl, rfl⟩, rfl, rfl⟩, rfl, rfl⟩

/-- A text cannot end with both codes. -/
theorem not_endsWith_ok {s : List UInt8} (h : EndsWith errorCode s) : ¬ EndsWith okCode s := by
  intro hok
  have hshort : lineEnd ++ (okCode ++ lineEnd) <:+ lineEnd ++ (errorCode ++ lineEnd) :=
    List.suffix_of_suffix_length_le hok h (by decide)
  exact absurd hshort (by decide)

/-- A response is correct if and only if it ends with a result code, and its return code is `OK` if
and only if that is the last one. -/
theorem getResponse_iff (rxBuf : List UInt8) (cmdType : CommandType) :
    ((getResponse rxBuf cmdType).isResponseCorrect = true ↔
        EndsWith okCode (CStrings.content rxBuf) ∨ EndsWith errorCode (CStrings.content rxBuf)) ∧
      ((getResponse rxBuf cmdType).getReturnCode = .ok ↔
        EndsWith okCode (CStrings.content rxBuf)) := by
  unfold getResponse
  cases hmatch : EXEC_REGEX.regexMatch (CStrings.content rxBuf) with
  | none =>
    have hrefused := Regex.regexMatch_eq_none_iff.1 hmatch
    have hnone : ∀ code, code = okCode ∨ code = errorCode →
        ¬ EndsWith code (CStrings.content rxBuf) := by
      intro code hcode hends
      obtain ⟨baseMatch, hderives⟩ := exists_derives hcode hends
      exact hrefused baseMatch hderives
    have hok := hnone okCode (.inl rfl)
    have herror := hnone errorCode (.inr rfl)
    simp [AtGenericResponse.isResponseCorrect, AtGenericResponse.getReturnCode, hok, herror]
  | some baseMatch =>
    obtain ⟨code, hcode, hends, hlength⟩ := of_derives (Regex.derives_of_regexMatch hmatch)
    rcases hcode with rfl | rfl
    · simp [AtGenericResponse.isResponseCorrect, AtGenericResponse.getReturnCode, hends, hlength,
        length_okCode]
    · have hok := not_endsWith_ok hends
      simp [AtGenericResponse.isResponseCorrect, AtGenericResponse.getReturnCode, hends, hok,
        hlength, length_errorCode]

/-- An echo with a result code of its own before the last one. -/
example : getResponse ([65, 84] ++ lineEnd ++ okCode ++ lineEnd ++ errorCode ++ lineEnd) .atRead =
    ⟨true, .error, 0⟩ := by decide

end PlainAtInterpreter

end Bgs2

end SgmDevice
