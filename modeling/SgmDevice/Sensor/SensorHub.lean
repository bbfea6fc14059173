import SgmDevice.Utils.SgmDataType

/-!
# `SensorHub`

The hub keeps its sensors twice: by measurement point and quantity in `itsSensorList`, where the
first sensor of a key stays, and one after the other in `itsSensorVector`.  The sensors `σ` are any
objects behind `ISensorDevice`; their calls may change a state `τ`.
-/

namespace SgmDevice

open Sgm

/-- `ISensorDevice`: what the hub calls.  What `isReady` answers is given for each call. -/
structure ISensorDevice (σ τ : Type) where
  queryMeasurementPoint : σ → MeasurementPoint
  queryCapabilities : σ → List PhysQuantity
  /-- `acquire(data)`. -/
  acquire : σ → List SgmProcessData → τ → List SgmProcessData × τ
  /-- `acquire(quantity, data)`. -/
  acquireOne : σ → PhysQuantity → SgmProcessData → τ → SgmProcessData × τ

abbrev IdTuple := MeasurementPoint × PhysQuantity

/-- `itsSensorList` maps to pointers, of which `operator[]` may add null ones. -/
structure SensorHub (σ : Type) where
  itsSensorList : List (IdTuple × Option σ) := []
  itsSensorVector : List σ := []

namespace SensorHub

inductive RegistrationResult where
  | registered
  | deviceOverlapped
  | deviceUnavailable
  | registrationError
  deriving DecidableEq, Repr

variable {σ τ : Type} (dev : ISensorDevice σ τ)

/-- `std::map::emplace`, and whether it added the pair. -/
def emplace (id : IdTuple) (sensor : σ) (list : List (IdTuple × Option σ)) :
    List (IdTuple × Option σ) × Bool :=
  if (list.lookup id).isSome then (list, false) else (list ++ [(id, some sensor)], true)

/-- The loop over `queryCapabilities()`. -/
def emplaceAll (measPoint : MeasurementPoint) (sensor : σ) :
    List PhysQuantity → RegistrationResult × List (IdTuple × Option σ) →
      RegistrationResult × List (IdTuple × Option σ)
  | [], acc => acc
  | physQuantity :: rest, (regResult, list) =>
    let (list, added) := emplace (measPoint, physQuantity) sensor list
    emplaceAll measPoint sensor rest (if added then regResult else .deviceOverlapped, list)

def registerSensor (ready : Bool) (sensor : σ) (hub : SensorHub σ) :
    RegistrationResult × SensorHub σ :=
  if !ready then (.deviceUnavailable, hub)
  else
    let (regResult, list) := emplaceAll (dev.queryMeasurementPoint sensor) sensor
      (dev.queryCapabilities sensor) (.deviceUnavailable, hub.itsSensorList)
    (regResult, ⟨list, hub.itsSensorVector ++ [sensor]⟩)

/-- The loop of `acquireAll`. -/
def acquireEach : List σ → List SgmProcessData → τ → List SgmProcessData × τ
  | [], data, w => (data, w)
  | sensor :: rest, data, w =>
    let (data, w) := dev.acquire sensor data w
    acquireEach rest data w

def acquireAll (measurementData : List SgmProcessData) (hub : SensorHub σ) (w : τ) :
    List SgmProcessData × τ :=
  acquireEach dev hub.itsSensorVector measurementData w

/-- `acquireOneSensor`; there is no result when the pointer is null. -/
def acquireOneSensor (id : IdTuple) (measurement : SgmProcessData) (hub : SensorHub σ) (w : τ) :
    Option (SgmProcessData × τ) × SensorHub σ :=
  match hub.itsSensorList.lookup id with
  | some (some sensor) => (some (dev.acquireOne sensor id.2 measurement w), hub)
  | some none => (none, hub)
  | none => (none, { hub with itsSensorList := hub.itsSensorList ++ [(id, none)] })

/-- A hub after some registrations, each with what `isReady` answered in it. -/
def registerAll : List (σ × Bool) → SensorHub σ → SensorHub σ
  | [], hub => hub
  | (sensor, ready) :: rest, hub => registerAll rest (registerSensor dev ready sensor hub).2

/-! ## What the registrations leave -/

/-- The sensor measures the quantity at the point. -/
def provides (sensor : σ) (id : IdTuple) : Bool :=
  dev.queryMeasurementPoint sensor = id.1 && (dev.queryCapabilities sensor).contains id.2

theorem provides_iff {sensor : σ} {id : IdTuple} :
    provides dev sensor id ↔
      dev.queryMeasurementPoint sensor = id.1 ∧ id.2 ∈ dev.queryCapabilities sensor := by
  simp [provides]

/-- The sensors that were ready when they were registered. -/
def readyOnes : List (σ × Bool) → List σ
  | [] => []
  | (sensor, ready) :: rest => if ready then sensor :: readyOnes rest else readyOnes rest

theorem lookup_emplace (id key : IdTuple) (sensor : σ) (list : List (IdTuple × Option σ)) :
    (emplace id sensor list).1.lookup key =
      (list.lookup key).or (if id = key then some (some sensor) else none) := by
  unfold emplace
  by_cases hkey : id = key
  · subst hkey
    cases hid : list.lookup id with
    | none => simp [List.lookup_append, hid]
    | some held => simp [hid]
  · have hne : (key == id) = false := by simpa using Ne.symm hkey
    cases list.lookup id <;> simp [List.lookup_append, List.lookup_cons, hne, hkey]

theorem lookup_emplaceAll (measPoint : MeasurementPoint) (sensor : σ)
    (capabilities : List PhysQuantity) (regResult : RegistrationResult)
    (list : List (IdTuple × Option σ)) (key : IdTuple) :
    (emplaceAll measPoint sensor capabilities (regResult, list)).2.lookup key =
      (list.lookup key).or
        (if measPoint = key.1 ∧ key.2 ∈ capabilities then some (some sensor) else none) := by
  induction capabilities generalizing regResult list with
  | nil => simp [emplaceAll]
  | cons physQuantity rest ih =>
    rw [emplaceAll, ih, lookup_emplace, Option.or_assoc]
    congr 1
    obtain ⟨point, quantity⟩ := key
    by_cases hpoint : measPoint = point <;> by_cases hquantity : physQuantity = quantity <;>
      simp [hpoint, hquantity, eq_comm]

theorem registerSensor_ready (sensor : σ) (hub : SensorHub σ) (key : IdTuple) :
    ((registerSensor dev true sensor hub).2.itsSensorList.lookup key =
      (hub.itsSensorList.lookup key).or
        (if provides dev sensor key then some (some sensor) else none)) ∧
      (registerSensor dev true sensor hub).2.itsSensorVector = hub.itsSensorVector ++ [sensor] := by
  refine ⟨?_, rfl⟩
  have hlookup := lookup_emplaceAll (dev.queryMeasurementPoint sensor) sensor
    (dev.queryCapabilities sensor) .deviceUnavailable hub.itsSensorList key
  simpa [registerSensor, provides] using hlookup

/-- The map holds the first ready sensor of a key, the vector every ready sensor. -/
theorem registerAll_eq (calls : List (σ × Bool)) (hub : SensorHub σ) (key : IdTuple) :
    (registerAll dev calls hub).itsSensorList.lookup key =
        (hub.itsSensorList.lookup key).or
          (((readyOnes calls).find? (provides dev · key)).map some) ∧
      (registerAll dev calls hub).itsSensorVector = hub.itsSensorVector ++ readyOnes calls := by
  induction calls generalizing hub with
  | nil => simp [registerAll, readyOnes]
  | cons call rest ih =>
    obtain ⟨sensor, ready⟩ := call
    obtain ⟨hlist, hvector⟩ := ih (registerSensor dev ready sensor hub).2
    rw [registerAll, hlist, hvector]
    cases ready with
    | false => exact ⟨rfl, rfl⟩
    | true =>
      obtain ⟨hlist', hvector'⟩ := registerSensor_ready dev sensor hub key
      rw [hlist', hvector', readyOnes, if_pos rfl, List.find?_cons, Option.or_assoc]
      cases provides dev sensor key <;> simp

end SensorHub

end SgmDevice
