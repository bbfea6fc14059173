import SgmDevice.Sensor.SensorHub

/-!
# The readings of `acquireAll`

`acquireAll` asks every sensor of the vector, whatever the map holds.  It brings one reading for
each key of the map, from the sensor of the map, if and only if the registered sensors have no key
in common (`one_reading_per_key_iff`).
-/

namespace SgmDevice

open Sgm

/-- The reading is one of the quantity at the point. -/
def Sgm.SgmProcessData.isAt (id : IdTuple) (data : SgmProcessData) : Bool :=
  data.measPoint = id.1.word && data.physQuantityType = id.2.word

/-- What the hub takes for granted: `acquire(data)` appends one reading for each quantity of the
sensor, at its point. -/
def ISensorDevice.ReadsOnce {σ τ : Type} (dev : ISensorDevice σ τ) : Prop :=
  ∀ sensor data w, ∃ new, (dev.acquire sensor data w).1 = data ++ new ∧
    ∀ id, new.countP (SgmProcessData.isAt id) = if SensorHub.provides dev sensor id then 1 else 0

namespace SensorHub

variable {σ τ : Type} (dev : ISensorDevice σ τ)

/-- What each call of `acquire` in `acquireAll` appends, and the sensor that is called. -/
def sources : List σ → List SgmProcessData → τ → List (σ × SgmProcessData)
  | [], _, _ => []
  | sensor :: rest, data, w =>
    ((dev.acquire sensor data w).1.drop data.length).map (sensor, ·) ++
      sources rest (dev.acquire sensor data w).1 (dev.acquire sensor data w).2

/-- `acquireAll` appends one reading for every key of the map, and the sensor that the map holds
for the key has made it. -/
def OneReadingPerKey (measurementData : List SgmProcessData) (hub : SensorHub σ) (w : τ) : Prop :=
  ∀ id pointer, hub.itsSensorList.lookup id = some pointer →
    ∃ sensor reading, pointer = some sensor ∧
      ((acquireAll dev measurementData hub w).1.drop measurementData.length).filter
        (SgmProcessData.isAt id) = [reading] ∧
      (sensor, reading) ∈ sources dev hub.itsSensorVector measurementData w

/-- No two of the sensors have a key in common. -/
def Disjoint (sensors : List σ) : Prop :=
  sensors.Pairwise fun s s' => ∀ id, ¬ (provides dev s id ∧ provides dev s' id)

variable {dev}

/-- The readings that `acquireAll` appends are those of its sources. -/
theorem acquireEach_eq (h : dev.ReadsOnce) (sensors : List σ) (data : List SgmProcessData) (w : τ) :
    (acquireEach dev sensors data w).1 = data ++ (sources dev sensors data w).map Prod.snd := by
  induction sensors generalizing data w with
  | nil => simp [acquireEach, sources]
  | cons sensor rest ih =>
    obtain ⟨new, hnew, -⟩ := h sensor data w
    rw [acquireEach, ih, sources, hnew, List.drop_left]
    simp [Function.comp_def]

/-- The readings of one key come, one each, from the sensors that provide it. -/
theorem sources_isAt (h : dev.ReadsOnce) (sensors : List σ) (data : List SgmProcessData) (w : τ)
    (id : IdTuple) :
    ((sources dev sensors data w).filter (SgmProcessData.isAt id ·.2)).map Prod.fst =
      sensors.filter (provides dev · id) := by
  induction sensors generalizing data w with
  | nil => rfl
  | cons sensor rest ih =>
    obtain ⟨new, hnew, hcount⟩ := h sensor data w
    have hfirst : ((new.map (sensor, ·)).filter (SgmProcessData.isAt id ·.2)).map Prod.fst =
        if provides dev sensor id then [sensor] else [] := by
      have hlength := hcount id
      rw [List.countP_eq_length_filter] at hlength
      rw [List.filter_map, List.map_map]
      change (new.filter (SgmProcessData.isAt id)).map (fun _ => sensor) = _
      rw [List.map_const', hlength]
      split <;> rfl
    rw [sources, hnew, List.drop_left, List.filter_append, List.map_append, hfirst, ih,
      List.filter_cons]
    split <;> rfl

/-- Among the elements with a property the first is the only one. -/
theorem find?_unique_iff {α : Type} (p : α → Bool) (l : List α) :
    (∀ a, l.find? p = some a → l.filter p = [a]) ↔ l.Pairwise fun a b => ¬ (p a ∧ p b) := by
  induction l with
  | nil => simp
  | cons a l ih =>
    rw [List.pairwise_cons, List.find?_cons, List.filter_cons]
    cases hp : p a with
    | false => simpa using ih
    | true =>
      simp only [Option.some.injEq, forall_eq', if_pos, List.cons.injEq, true_and,
        List.filter_eq_nil_iff]
      refine ⟨fun hnone => ⟨hnone, ?_⟩, fun hpair => hpair.1⟩
      exact List.pairwise_of_forall_mem_list fun b hb c _ hbc => hnone b hb hbc.1

/-- One of the tagged elements has the property, and `tag` is its tag. -/
theorem single_tagged_iff {α β : Type} (p : β → Bool) (l : List (α × β)) (tag : α) :
    (∃ b, (l.map Prod.snd).filter p = [b] ∧ (tag, b) ∈ l) ↔
      (l.filter (p ·.2)).map Prod.fst = [tag] := by
  rw [List.filter_map]
  constructor
  · rintro ⟨b, hsingle, hmem⟩
    obtain ⟨q, hq, rfl⟩ := List.map_eq_singleton_iff.1 hsingle
    have hmem' : q ∈ l.filter (p ∘ Prod.snd) := hq ▸ List.mem_singleton_self q
    have hp : p q.2 := (List.mem_filter.1 hmem').2
    have htag : (tag, q.2) ∈ l.filter (p ∘ Prod.snd) := List.mem_filter.2 ⟨hmem, hp⟩
    rw [hq, List.mem_singleton] at htag
    change (l.filter (p ∘ Prod.snd)).map Prod.fst = [tag]
    rw [hq, ← htag]
    rfl
  · intro hsingle
    obtain ⟨q, hq, rfl⟩ := List.map_eq_singleton_iff.1 hsingle
    have hq' : l.filter (p ∘ Prod.snd) = [q] := hq
    exact ⟨q.2, by rw [hq']; rfl, (List.mem_filter.1 (hq ▸ List.mem_singleton_self q)).1⟩

/-- After any registrations `acquireAll` brings one reading for each key if and only if the sensors
that were ready have no key in common. -/
theorem one_reading_per_key_iff (dev : ISensorDevice σ τ) (h : dev.ReadsOnce)
    (calls : List (σ × Bool)) (measurementData : List SgmProcessData) (w : τ) :
    OneReadingPerKey dev measurementData (registerAll dev calls {}) w ↔
      Disjoint dev (readyOnes calls) := by
  have hunique : Disjoint dev (readyOnes calls) ↔ ∀ id sensor,
      (readyOnes calls).find? (provides dev · id) = some sensor →
        (readyOnes calls).filter (provides dev · id) = [sensor] := by
    simp only [find?_unique_iff, Disjoint, List.pairwise_iff_forall_sublist]
    exact ⟨fun h id a b hab => h hab id, fun h a b hab id => h id hab⟩
  have hlookup := fun id => (registerAll_eq dev calls {} id).1
  have hvector : (registerAll dev calls {}).itsSensorVector = readyOnes calls :=
    (registerAll_eq dev calls {} (.NONE, .LIGHT)).2
  rw [hunique]
  apply forall_congr'
  intro id
  have happended : (acquireAll dev measurementData (registerAll dev calls {}) w).1.drop
      measurementData.length = (sources dev (readyOnes calls) measurementData w).map Prod.snd := by
    rw [acquireAll, hvector, acquireEach_eq h, List.drop_left]
  have hsources := sources_isAt h (readyOnes calls) measurementData w id
  rw [hlookup id, happended, hvector, ← hsources]
  simp only [List.lookup_nil, Option.none_or, Option.map_eq_some_iff, ← single_tagged_iff]
  constructor
  · intro hone sensor hfound
    obtain ⟨sensor', reading, hpointer, hreading⟩ := hone (some sensor) ⟨sensor, hfound, rfl⟩
    obtain rfl := Option.some.inj hpointer
    exact ⟨reading, hreading⟩
  · rintro hone pointer ⟨sensor, hfound, rfl⟩
    obtain ⟨reading, hreading⟩ := hone sensor hfound
    exact ⟨sensor, reading, rfl, hreading⟩

/-! ## A sensor for three quantities -/

/-- A packet with a measurement point and a quantity, and nothing else. -/
def readingOf (id : IdTuple) : SgmProcessData :=
  Vector.ofFn fun i =>
    if i.val = 4 then id.1.word.toUInt8 else if i.val = 8 then id.2.word.toUInt8 else 0

/-- A sensor at a point that measures what `Bme280Sensor` does, in its order. -/
def threeQuantities : ISensorDevice MeasurementPoint Unit where
  queryMeasurementPoint point := point
  queryCapabilities _ := [.PRESSURE, .TEMPERATURE, .HUMIDITY]
  acquire point data w :=
    (data ++ [readingOf (point, .TEMPERATURE), readingOf (point, .PRESSURE),
      readingOf (point, .HUMIDITY)], w)
  acquireOne _ _ data w := (data, w)

theorem isAt_readingOf (id id' : IdTuple) :
    SgmProcessData.isAt id' (readingOf id) = decide (id = id') := by
  obtain ⟨point, quantity⟩ := id
  have hpoint : (readingOf (point, quantity)).measPoint = point.word := by
    cases point <;> cases quantity <;> decide
  have hquantity : (readingOf (point, quantity)).physQuantityType = quantity.word := by
    cases point <;> cases quantity <;> decide
  obtain ⟨point', quantity'⟩ := id'
  simp [SgmProcessData.isAt, hpoint, hquantity, MeasurementPoint.word_injective.eq_iff,
    PhysQuantity.word_injective.eq_iff]

theorem threeQuantities_readsOnce : threeQuantities.ReadsOnce := by
  intro point data w
  refine ⟨_, rfl, fun id => ?_⟩
  obtain ⟨point', quantity⟩ := id
  simp only [List.countP_cons, isAt_readingOf]
  cases point <;> cases point' <;> cases quantity <;> decide

/-- Sensors at different points share no key. -/
theorem one_reading_per_key_airSoil :
    OneReadingPerKey threeQuantities []
      (registerAll threeQuantities [(.AIR, true), (.SOIL, true)] {}) () :=
  (one_reading_per_key_iff threeQuantities threeQuantities_readsOnce _ _ _).2 <| by
    apply List.pairwise_pair.2
    intro id hboth
    simp only [provides_iff] at hboth
    exact absurd (hboth.1.1.trans hboth.2.1.symm) (by decide)

/-- A sensor that is registered twice is read twice. -/
theorem registered_twice_read_twice :
    ¬ ∀ (σ τ : Type) (dev : ISensorDevice σ τ), dev.ReadsOnce → ∀ calls measurementData w,
      OneReadingPerKey dev measurementData (registerAll dev calls {}) w := by
  intro h
  obtain ⟨sensor, reading, -, hone, -⟩ := h _ _ threeQuantities threeQuantities_readsOnce
    [(.AIR, true), (.AIR, true)] [] () (.AIR, .HUMIDITY) (some .AIR) (by decide)
  have hlength : 2 = [reading].length := congrArg List.length hone
  exact absurd hlength (by simp)

end SensorHub

end SgmDevice
