import Mathlib.Logic.Basic

/-!
# `HistoricalValue`

A value together with the one it replaced.
-/

namespace SgmDevice

/-- `HistoricalValue<Contained>`: `value` is `values[0]`, `history` is `values[1]`. -/
structure HistoricalValue (Contained : Type) where
  value : Contained
  history : Contained
  deriving DecidableEq, Repr

namespace HistoricalValue

section Access

variable {Contained : Type}

/-- The constructor fills both places. -/
def make (val : Contained) : HistoricalValue Contained := ⟨val, val⟩

def set (v : HistoricalValue Contained) (newVal : Contained) : HistoricalValue Contained :=
  ⟨newVal, v.value⟩

def get (v : HistoricalValue Contained) : Contained := v.value

def getHistory (v : HistoricalValue Contained) : Contained := v.history

theorem forall_iff {P : HistoricalValue Contained → Prop} :
    (∀ v, P v) ↔ ∀ value history, P ⟨value, history⟩ :=
  ⟨fun h _ _ => h _, fun h v => h v.value v.history⟩

@[simp] theorem get_make (val : Contained) : (make val).get = val := rfl

@[simp] theorem get_set (v : HistoricalValue Contained) (newVal : Contained) :
    (v.set newVal).get = newVal := rfl

@[simp] theorem getHistory_set (v : HistoricalValue Contained) (newVal : Contained) :
    (v.set newVal).getHistory = v.get := rfl

end Access

section Compare

variable {Contained : Type} [DecidableEq Contained]

def is (v : HistoricalValue Contained) (testVal : Contained) : Bool := testVal = v.value

def hasChanged (v : HistoricalValue Contained) : Bool := v.value ≠ v.history

@[simp] theorem is_iff (v : HistoricalValue Contained) (testVal : Contained) :
    v.is testVal = true ↔ v.get = testVal := by
  simp [is, get, eq_comm]

@[simp] theorem hasChanged_make (val : Contained) : (make val).hasChanged = false := by
  simp [hasChanged, make]

@[simp] theorem hasChanged_set (v : HistoricalValue Contained) (newVal : Contained) :
    (v.set newVal).hasChanged = true ↔ newVal ≠ v.get :=
  decide_eq_true_iff

end Compare

end HistoricalValue

end SgmDevice
