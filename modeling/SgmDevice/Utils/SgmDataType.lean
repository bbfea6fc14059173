import Mathlib.Algebra.Group.Nat.Defs
import Mathlib.Data.List.Basic

/-!
# `SGMDataType`

A packet is the 32 bytes of an `SgmProcessData`, as they lie in memory: the fields at their offsets,
little-endian, with two bytes of padding behind `divider` and behind `crc`.

The name tables are `std::map`s: reading a missing key with `operator[]` adds it.
-/

namespace SgmDevice

namespace Sgm

inductive PhysQuantity where
  | PRESSURE
  | TEMPERATURE
  | HUMIDITY
  | LIGHT
  deriving DecidableEq, Repr

inductive MeasurementPoint where
  | SOIL
  | AIR
  | DEVICE
  | NONE
  deriving DecidableEq, Repr

/-- The value of an enumerator in a packet. -/
def PhysQuantity.word : PhysQuantity → UInt32
  | .PRESSURE => 0
  | .TEMPERATURE => 1
  | .HUMIDITY => 2
  | .LIGHT => 3

def MeasurementPoint.word : MeasurementPoint → UInt32
  | .SOIL => 0
  | .AIR => 1
  | .DEVICE => 2
  | .NONE => 3

theorem MeasurementPoint.word_injective : Function.Injective MeasurementPoint.word := by
  intro point point' h
  cases point <;> cases point' <;> first | rfl | exact absurd h (by decide)

theorem PhysQuantity.word_injective : Function.Injective PhysQuantity.word := by
  intro quantity quantity' h
  cases quantity <;> cases quantity' <;> first | rfl | exact absurd h (by decide)

/-- `sgm::Unit`. -/
inductive SgmUnit where
  | hPa
  | Celsius
  | Percent
  | Lumen
  deriving DecidableEq, Repr

def SgmUnit.word : SgmUnit → UInt32
  | .hPa => 0
  | .Celsius => 1
  | .Percent => 2
  | .Lumen => 3

/-- `std::map` from an enumeration, whose keys may be any word, to strings. -/
abbrev StringMap := List (UInt32 × String)

namespace StringMap

/-- `operator[]`, of which only the side effect is kept. -/
def index (m : StringMap) (key : UInt32) : StringMap :=
  if (m.lookup key).isSome then m else m ++ [(key, "")]

/-- `at`; it throws for a missing key, which the model renders as the empty string. -/
def at_ (m : StringMap) (key : UInt32) : String := (m.lookup key).getD ""

/-- Reading a table with `operator[]` changes no entry that is there. -/
theorem lookup_index {m : StringMap} {key known : UInt32} (h : (m.lookup known).isSome) :
    (m.index key).lookup known = m.lookup known := by
  unfold index
  split
  · rfl
  · rw [List.lookup_append, Option.or_of_isSome h]

end StringMap

def measPointStringMap : StringMap :=
  [(MeasurementPoint.SOIL.word, "soil"), (MeasurementPoint.AIR.word, "air"),
    (MeasurementPoint.DEVICE.word, "dev")]

def physicalStringMap : StringMap :=
  [(PhysQuantity.PRESSURE.word, "press"), (PhysQuantity.TEMPERATURE.word, "temp"),
    (PhysQuantity.HUMIDITY.word, "humid"), (PhysQuantity.LIGHT.word, "light")]

/-- The pairs that are measured, in the order of the multimap. -/
def unitMap : List (MeasurementPoint × PhysQuantity) :=
  [(.SOIL, .HUMIDITY), (.AIR, .PRESSURE), (.AIR, .TEMPERATURE), (.AIR, .HUMIDITY), (.AIR, .LIGHT),
    (.DEVICE, .TEMPERATURE)]

/-- `sizeof(SgmProcessData)`. -/
abbrev sizeofSgmProcessData : ℕ := 32

abbrev SgmProcessData := Vector UInt8 sizeofSgmProcessData

namespace SgmProcessData

/-- The bytes of a field. -/
def field (data : SgmProcessData) (offset size : ℕ) : List UInt8 :=
  (data.toList.drop offset).take size

/-- The word with the given bytes, the least significant one first. -/
def ofLE : List UInt8 → ℕ
  | [] => 0
  | b :: bs => b.toNat + 256 * ofLE bs

def measPoint (data : SgmProcessData) : UInt32 := .ofNat (ofLE (field data 4 4))

def physQuantityType (data : SgmProcessData) : UInt32 := .ofNat (ofLE (field data 8 4))

def unit (data : SgmProcessData) : List UInt8 := field data 12 4

def value (data : SgmProcessData) : List UInt8 := field data 16 4

def divider (data : SgmProcessData) : List UInt8 := field data 20 2

def timestamp (data : SgmProcessData) : List UInt8 := field data 24 4

/-- The bytes of a number in a field of the given size. -/
def toLE : ℕ → ℕ → List UInt8
  | 0, _ => []
  | size + 1, n => .ofNat n :: toLE size (n / 256)

/-- The packet with the given fields; the padding is 0. -/
def ofFields (packetId : UInt32) (measPoint : MeasurementPoint) (physQuantityType : PhysQuantity)
    (unit : SgmUnit) (value : UInt32) (divider : UInt16) (timestamp : UInt32) (crc : UInt16) :
    SgmProcessData :=
  ⟨(toLE 4 packetId.toNat ++ (toLE 4 measPoint.word.toNat ++ (toLE 4 physQuantityType.word.toNat ++
    (toLE 4 unit.word.toNat ++ (toLE 4 value.toNat ++ (toLE 2 divider.toNat ++ ([0, 0] ++
    (toLE 4 timestamp.toNat ++ (toLE 2 crc.toNat ++ [0, 0]))))))))).toArray, rfl⟩

theorem length_toLE (size n : ℕ) : (toLE size n).length = size := by
  induction size generalizing n with
  | zero => rfl
  | succ size ih => rw [toLE, List.length_cons, ih]

theorem ofLE_toLE (size : ℕ) {n : ℕ} (h : n < 256 ^ size) : ofLE (toLE size n) = n := by
  induction size generalizing n with
  | zero => exact (Nat.lt_one_iff.1 h).symm
  | succ size ih =>
    have hdiv : n / 256 < 256 ^ size := Nat.div_lt_of_lt_mul (by rwa [Nat.pow_succ'] at h)
    rw [toLE, ofLE, ih hdiv, UInt8.toNat_ofNat']
    omega

/-- A field is found between what stands before and behind it. -/
theorem field_eq {data : SgmProcessData} (before : List UInt8) {bytes after : List UInt8}
    {offset size : ℕ} (h : data.toList = before ++ (bytes ++ after))
    (hbefore : before.length = offset) (hbytes : bytes.length = size) :
    field data offset size = bytes := by
  rw [field, h, List.drop_left' hbefore, List.take_left' hbytes]

theorem ofLE_toLE_word (w : UInt32) : ofLE (toLE 4 w.toNat) = w.toNat := ofLE_toLE 4 w.toNat_lt

theorem toLE_word_inj {w w' : UInt32} (h : toLE 4 w.toNat = toLE 4 w'.toNat) : w = w' := by
  have hnat := congrArg ofLE h
  rw [ofLE_toLE_word, ofLE_toLE_word] at hnat
  exact UInt32.toNat_inj.1 hnat

section Fields

variable (packetId : UInt32) (point : MeasurementPoint) (quantity : PhysQuantity)
  (unit' : SgmUnit) (value' : UInt32) (divider' : UInt16) (timestamp' : UInt32) (crc : UInt16)

theorem measPoint_ofFields :
    (ofFields packetId point quantity unit' value' divider' timestamp' crc).measPoint =
      point.word := by
  have hfield : field (ofFields packetId point quantity unit' value' divider' timestamp' crc) 4 4 =
      toLE 4 point.word.toNat :=
    field_eq (toLE 4 packetId.toNat) rfl (length_toLE 4 _) (length_toLE 4 _)
  rw [measPoint, hfield, ofLE_toLE_word, UInt32.ofNat_toNat]

theorem physQuantityType_ofFields :
    (ofFields packetId point quantity unit' value' divider' timestamp' crc).physQuantityType =
      quantity.word := by
  have hfield : field (ofFields packetId point quantity unit' value' divider' timestamp' crc) 8 4 =
      toLE 4 quantity.word.toNat :=
    field_eq (toLE 4 packetId.toNat ++ toLE 4 point.word.toNat) rfl (by simp [length_toLE])
      (length_toLE 4 _)
  rw [physQuantityType, hfield, ofLE_toLE_word, UInt32.ofNat_toNat]

theorem value_ofFields :
    (ofFields packetId point quantity unit' value' divider' timestamp' crc).value =
      toLE 4 value'.toNat :=
  field_eq (toLE 4 packetId.toNat ++ (toLE 4 point.word.toNat ++ (toLE 4 quantity.word.toNat ++
    toLE 4 unit'.word.toNat))) rfl (by simp [length_toLE]) (length_toLE 4 _)

theorem unit_ofFields :
    (ofFields packetId point quantity unit' value' divider' timestamp' crc).unit =
      toLE 4 unit'.word.toNat :=
  field_eq (toLE 4 packetId.toNat ++ (toLE 4 point.word.toNat ++ toLE 4 quantity.word.toNat)) rfl
    (by simp [length_toLE]) (length_toLE 4 _)

theorem divider_ofFields :
    (ofFields packetId point quantity unit' value' divider' timestamp' crc).divider =
      toLE 2 divider'.toNat :=
  field_eq (toLE 4 packetId.toNat ++ (toLE 4 point.word.toNat ++ (toLE 4 quantity.word.toNat ++
    (toLE 4 unit'.word.toNat ++ toLE 4 value'.toNat)))) rfl (by simp [length_toLE])
    (length_toLE 2 _)

theorem timestamp_ofFields :
    (ofFields packetId point quantity unit' value' divider' timestamp' crc).timestamp =
      toLE 4 timestamp'.toNat :=
  field_eq (toLE 4 packetId.toNat ++ (toLE 4 point.word.toNat ++ (toLE 4 quantity.word.toNat ++
    (toLE 4 unit'.word.toNat ++ (toLE 4 value'.toNat ++ (toLE 2 divider'.toNat ++ [0, 0])))))) rfl
    (by simp [length_toLE]) (length_toLE 4 _)

end Fields

theorem length_field (data : SgmProcessData) {offset size : ℕ}
    (h : offset + size ≤ sizeofSgmProcessData) : (field data offset size).length = size := by
  have hdata : data.toList.length = sizeofSgmProcessData := by simp
  rw [field, List.length_take, List.length_drop, hdata]
  omega

end SgmProcessData

end Sgm

end SgmDevice
