import SgmDevice.Concurrency.Transition
import SgmDevice.Sensor.SensorHub

/-!
# The calls of the hub

`registerSensor` never returns `REGISTERED`, and it keeps a sensor that is ready whatever its keys
met, so that it is all or nothing only for a sensor that is not ready (`all_or_nothing_iff`).
`acquireOneSensor` reads the map with `operator[]`, which adds a null pointer for a missing key;
every pointer is that of a registered sensor exactly in the runs that ask for registered keys only
(`calls_registered_iff`).
-/

namespace SgmDevice

open Sgm Concurrency

namespace SensorHub

variable {σ τ : Type} (dev : ISensorDevice σ τ)

/-! ## One registration -/

/-- `REGISTERED` means that the sensor was ready and its keys were free, and now belong to it; with
any other result nothing has changed. -/
structure AllOrNothing (ready : Bool) (sensor : σ) (hub : SensorHub σ) : Prop where
  registered : (registerSensor dev ready sensor hub).1 = .registered ↔
    ready = true ∧ ∀ id, provides dev sensor id → hub.itsSensorList.lookup id = none
  complete : (registerSensor dev ready sensor hub).1 = .registered →
    (∀ id, provides dev sensor id →
        (registerSensor dev ready sensor hub).2.itsSensorList.lookup id = some (some sensor)) ∧
      sensor ∈ (registerSensor dev ready sensor hub).2.itsSensorVector
  unchanged : (registerSensor dev ready sensor hub).1 ≠ .registered →
    (registerSensor dev ready sensor hub).2 = hub

theorem emplaceAll_ne_registered (measPoint : MeasurementPoint) (sensor : σ)
    (capabilities : List PhysQuantity) {regResult : RegistrationResult}
    (h : regResult ≠ .registered) (list : List (IdTuple × Option σ)) :
    (emplaceAll measPoint sensor capabilities (regResult, list)).1 ≠ .registered := by
  induction capabilities generalizing regResult list with
  | nil => exact h
  | cons physQuantity rest ih =>
    apply ih
    split_ifs
    · exact h
    · decide

/-- The loop starts with `DEVICE_UNAVAILABLE` and never sets `REGISTERED`. -/
theorem registerSensor_ne_registered (ready : Bool) (sensor : σ) (hub : SensorHub σ) :
    (registerSensor dev ready sensor hub).1 ≠ .registered := by
  cases ready with
  | false => exact fun h => by cases h
  | true => exact emplaceAll_ne_registered _ sensor _ (by decide) _

/-- A registration is all or nothing if and only if the sensor is not ready. -/
theorem all_or_nothing_iff (ready : Bool) (sensor : σ) (hub : SensorHub σ) :
    AllOrNothing dev ready sensor hub ↔ ready = false := by
  have hnot := registerSensor_ne_registered dev ready sensor hub
  constructor
  · intro h
    by_contra hready
    obtain rfl : ready = true := by simpa using hready
    -- the vector has grown
    have hvector : (registerSensor dev true sensor hub).2.itsSensorVector =
        hub.itsSensorVector ++ [sensor] := rfl
    rw [h.unchanged hnot] at hvector
    exact absurd (congrArg List.length hvector) (by simp)
  · rintro rfl
    exact ⟨iff_of_false hnot fun h => by simp at h, fun h => absurd h hnot, fun _ => rfl⟩

/-- Two sensors of the temperature of the air. -/
def airSensors : ISensorDevice Bool Unit where
  queryMeasurementPoint _ := .AIR
  queryCapabilities _ := [.TEMPERATURE]
  acquire _ data w := (data, w)
  acquireOne _ _ data w := (data, w)

/-- A sensor that is ready and meets no other one is kept, but reported as unavailable. -/
theorem kept_but_unavailable :
    ¬ ∀ (σ τ : Type) (dev : ISensorDevice σ τ) (ready : Bool) (sensor : σ) (hub : SensorHub σ),
      AllOrNothing dev ready sensor hub := by
  intro h
  have hfree := (h Bool Unit airSensors true true {}).registered.2 ⟨rfl, fun _ _ => rfl⟩
  exact absurd hfree (by decide)

/-! ## Runs -/

/-- A call of one of the three methods; what `isReady` answers comes with the registration. -/
inductive HubCall (σ : Type) where
  | registerSensor (sensor : σ) (ready : Bool)
  | acquireAll (measurementData : List SgmProcessData)
  | acquireOneSensor (id : IdTuple) (measurement : SgmProcessData)

/-- The hub in a run. -/
structure HubRun (σ τ : Type) where
  hub : SensorHub σ := {}
  sensors : τ
  /-- The sensors passed to `registerSensor`. -/
  passed : List σ := []
  /-- The pointers through which `acquire` was called. -/
  called : List (Option σ) := []

/-- The run after one more call. -/
def HubRun.after (s : HubRun σ τ) : HubCall σ → HubRun σ τ
  | .registerSensor sensor ready =>
    { s with
      hub := (registerSensor dev ready sensor s.hub).2
      passed := sensor :: s.passed }
  | .acquireAll measurementData =>
    { s with
      sensors := (acquireAll dev measurementData s.hub s.sensors).2
      called := s.hub.itsSensorVector.map some ++ s.called }
  | .acquireOneSensor id measurement =>
    { s with
      hub := (acquireOneSensor dev id measurement s.hub s.sensors).2
      sensors := (acquireOneSensor dev id measurement s.hub s.sensors).1.elim s.sensors Prod.snd
      called := (s.hub.itsSensorList.lookup id).join :: s.called }

def hubRuns : System (HubRun σ τ) (HubCall σ) where
  step s call := some (s.after dev call)

def HubCall.IsQuery : HubCall σ → Prop
  | .registerSensor _ _ => False
  | .acquireAll _ | .acquireOneSensor _ _ => True

/-- The pointer is that of a sensor passed to `registerSensor`. -/
def HubRun.Passed (s : HubRun σ τ) (pointer : Option σ) : Prop :=
  ∃ sensor ∈ s.passed, pointer = some sensor

/-- After the call every pointer of the map, and every one called through, is that of a sensor
passed before; and a query has left the map as it was. -/
structure CallsRegistered (s : HubRun σ τ) (call : HubCall σ) : Prop where
  stored : ∀ entry ∈ (s.after dev call).hub.itsSensorList, (s.after dev call).Passed entry.2
  called : ∀ pointer ∈ (s.after dev call).called, (s.after dev call).Passed pointer
  kept : call.IsQuery → (s.after dev call).hub.itsSensorList = s.hub.itsSensorList

/-- `acquireOneSensor` is asked for a key of the map. -/
def AsksForKey (s : HubRun σ τ) : HubCall σ → Prop
  | .acquireOneSensor id _ => (s.hub.itsSensorList.lookup id).isSome
  | _ => True

/-- Every sensor of the hub was passed to it. -/
structure AllPassed (s : HubRun σ τ) : Prop where
  stored : ∀ entry ∈ s.hub.itsSensorList, s.Passed entry.2
  listed : ∀ sensor ∈ s.hub.itsSensorVector, sensor ∈ s.passed
  called : ∀ pointer ∈ s.called, s.Passed pointer

theorem mem_emplace {id : IdTuple} {sensor : σ} {list : List (IdTuple × Option σ)}
    {entry : IdTuple × Option σ} (h : entry ∈ (emplace id sensor list).1) :
    entry ∈ list ∨ entry.2 = some sensor := by
  unfold emplace at h
  split_ifs at h
  · exact Or.inl h
  · refine (List.mem_append.1 h).imp_right fun hnew => ?_
    rw [List.mem_singleton.1 hnew]

theorem mem_emplaceAll {measPoint : MeasurementPoint} {sensor : σ}
    {capabilities : List PhysQuantity} {regResult : RegistrationResult}
    {list : List (IdTuple × Option σ)} {entry : IdTuple × Option σ}
    (h : entry ∈ (emplaceAll measPoint sensor capabilities (regResult, list)).2) :
    entry ∈ list ∨ entry.2 = some sensor := by
  induction capabilities generalizing regResult list with
  | nil => exact Or.inl h
  | cons physQuantity rest ih =>
    rcases ih h with hlist | hsensor
    · exact mem_emplace hlist
    · exact Or.inr hsensor

variable {dev}

/-- One more sensor has been passed. -/
theorem HubRun.Passed.cons {s : HubRun σ τ} {pointer : Option σ} (h : s.Passed pointer)
    (sensor : σ) (ready : Bool) : (s.after dev (.registerSensor sensor ready)).Passed pointer := by
  obtain ⟨sensor', hmem, rfl⟩ := h
  exact ⟨sensor', List.mem_cons_of_mem _ hmem, rfl⟩

theorem AllPassed.registerSensor {s : HubRun σ τ} (h : AllPassed s) (sensor : σ) (ready : Bool) :
    AllPassed (s.after dev (.registerSensor sensor ready)) := by
  refine ⟨fun entry hentry => ?_, fun sensor' hsensor => ?_, fun pointer hpointer =>
    (h.called pointer hpointer).cons sensor ready⟩
  · cases ready with
    | false => exact (h.stored entry hentry).cons sensor false
    | true =>
      rcases mem_emplaceAll hentry with hold | hnew
      · exact (h.stored entry hold).cons sensor true
      · exact ⟨sensor, List.mem_cons_self, hnew⟩
  · cases ready with
    | false => exact List.mem_cons_of_mem _ (h.listed sensor' hsensor)
    | true =>
      rcases List.mem_append.1 hsensor with hold | hnew
      · exact List.mem_cons_of_mem _ (h.listed sensor' hold)
      · rw [List.mem_singleton.1 hnew]
        exact List.mem_cons_self

theorem AllPassed.acquireAll {s : HubRun σ τ} (h : AllPassed s)
    (measurementData : List SgmProcessData) :
    AllPassed (s.after dev (.acquireAll measurementData)) := by
  refine ⟨h.stored, h.listed, fun pointer hpointer => ?_⟩
  rcases List.mem_append.1 hpointer with hnew | hold
  · obtain ⟨sensor, hsensor, rfl⟩ := List.mem_map.1 hnew
    exact ⟨sensor, h.listed sensor hsensor, rfl⟩
  · exact h.called pointer hold

/-- A key of the map leads to a sensor, and the map stays as it is. -/
theorem AllPassed.acquireOneSensor {s : HubRun σ τ} (h : AllPassed s) {id : IdTuple}
    (measurement : SgmProcessData) (hkey : (s.hub.itsSensorList.lookup id).isSome) :
    (s.after dev (.acquireOneSensor id measurement)).hub = s.hub ∧
      AllPassed (s.after dev (.acquireOneSensor id measurement)) := by
  obtain ⟨pointer, hpointer⟩ := Option.isSome_iff_exists.1 hkey
  obtain ⟨before, after, hlist, -⟩ := List.lookup_eq_some_iff.1 hpointer
  obtain ⟨sensor, hsensor, rfl⟩ := h.stored (id, pointer) (by rw [hlist]; simp)
  have hhub : (s.after dev (.acquireOneSensor id measurement)).hub = s.hub := by
    simp only [HubRun.after, SensorHub.acquireOneSensor, hpointer]
  refine ⟨hhub, fun entry hentry => ?_, fun sensor' hsensor' => ?_, fun pointer hmem => ?_⟩
  · rw [hhub] at hentry
    exact h.stored entry hentry
  · rw [hhub] at hsensor'
    exact h.listed sensor' hsensor'
  · rcases List.mem_cons.1 hmem with rfl | hold
    · rw [hpointer]
      exact ⟨sensor, hsensor, rfl⟩
    · exact h.called pointer hold

theorem AllPassed.step {s : HubRun σ τ} {call : HubCall σ} (h : AllPassed s)
    (hkey : AsksForKey s call) : AllPassed (s.after dev call) := by
  cases call with
  | registerSensor sensor ready => exact h.registerSensor sensor ready
  | acquireAll measurementData => exact h.acquireAll measurementData
  | acquireOneSensor id measurement => exact (h.acquireOneSensor measurement hkey).2

variable (dev) in
/-- A missing key puts a null pointer into the map. -/
theorem callsRegistered_iff {s : HubRun σ τ} (h : AllPassed s) (call : HubCall σ) :
    CallsRegistered dev s call ↔ AsksForKey s call := by
  constructor
  · intro hcalls
    cases call with
    | registerSensor sensor ready => trivial
    | acquireAll measurementData => trivial
    | acquireOneSensor id measurement =>
      by_contra hkey
      have hnone : s.hub.itsSensorList.lookup id = none := Option.not_isSome_iff_eq_none.1 hkey
      have hlist := hcalls.kept trivial
      simp only [HubRun.after, SensorHub.acquireOneSensor, hnone] at hlist
      exact absurd (congrArg List.length hlist) (by simp)
  · intro hkey
    have hpassed : AllPassed (s.after dev call) := h.step hkey
    refine ⟨hpassed.stored, hpassed.called, fun hquery => ?_⟩
    cases call with
    | registerSensor sensor ready => exact hquery.elim
    | acquireAll measurementData => rfl
    | acquireOneSensor id measurement =>
      rw [(h.acquireOneSensor measurement hkey).1]

variable (dev) in
/-- In every run of the hub all pointers are those of sensors passed to it, and queries leave the
map alone, if and only if every `acquireOneSensor` asks for a key of the map. -/
theorem calls_registered_iff (w : τ) (calls : List (HubCall σ)) :
    (hubRuns dev).Obeys { sensors := w } calls (CallsRegistered dev) ↔
      (hubRuns dev).Obeys { sensors := w } calls AsksForKey := by
  have init : AllPassed ({ sensors := w } : HubRun σ τ) :=
    ⟨List.forall_mem_nil _, List.forall_mem_nil _, List.forall_mem_nil _⟩
  refine System.obeys_iff_obeys (I := AllPassed)
    (fun s call _ h _ => callsRegistered_iff dev h call) (fun s call s' h hkey hs => ?_) init calls
  obtain rfl := Option.some.inj hs
  exact h.step hkey

/-- A query of an empty hub. -/
theorem query_adds_null :
    ¬ ∀ (σ τ : Type) (dev : ISensorDevice σ τ) (w : τ) (calls : List (HubCall σ)),
      (hubRuns dev).Obeys { sensors := w } calls (CallsRegistered dev) := by
  intro h
  let call : HubCall Bool := .acquireOneSensor (.AIR, .TEMPERATURE) (Vector.replicate _ 0)
  have hcalls := (System.obeys_cons.1 (h Bool Unit airSensors () [call])).1 rfl
  exact absurd (hcalls.kept trivial) (by decide)

end SensorHub

end SgmDevice
