import SgmDevice.Sensor.Bme280Sensor

/-!
# `SensorServiceApplication`

The service reads all sensors and sends each measurement to the sink.  It looks for a loss by
comparing a size with the result of `sendPacket`, which C++ turns into a size first, so that -1 is
the largest of all (`losses_reported_iff`).  Sizes and `int` have 32 bits.
-/

namespace SgmDevice

open Sgm

/-- What `send` returns for a packet: -1, or how many of its bytes were sent. -/
abbrev TxBytes :=
  { txBytes : Int32 // txBytes = -1 ∨ 0 ≤ txBytes ∧ txBytes ≤ .ofNat sizeofSgmProcessData }

/-- What the socket of the sink answers to `connect` and to each `send`. -/
structure SinkAnswers where
  connect : Int32 := 0
  send : ℕ → TxBytes

namespace ClientSocket

/-- The constructor, with the text of the exception that it throws. -/
def construct (answers : SinkAnswers) : Except String Unit :=
  if -1 = answers.connect then .error "error during socket connection" else .ok ()

/-- The `n`-th packet of the socket. -/
def sendPacket (answers : SinkAnswers) (n : ℕ) : Int32 := answers.send n

end ClientSocket

namespace SensorServiceApplication

/-- One turn of the loop, and whether it warned of a possible transmission error. -/
structure Attempt where
  measurement : SgmProcessData
  txBytes : Int32
  warned : Bool
  deriving DecidableEq

/-- What the routine does, with the exception that it catches. -/
structure Routine where
  attempts : List Attempt
  caught : Option String := none

/-- `sizeof(measurement) > sinkSocket.sendPacket(&measurement)`. -/
def isTransmissionError (txBytes : Int32) : Bool :=
  decide (UInt32.ofNat sizeofSgmProcessData > txBytes.toUInt32)

/-- The loop over the measurements, `n` of which are sent already. -/
def sendEach (answers : SinkAnswers) : List SgmProcessData → ℕ → List Attempt
  | [], _ => []
  | measurement :: measurementsData, n =>
    let txBytes := ClientSocket.sendPacket answers n
    ⟨measurement, txBytes, isTransmissionError txBytes⟩ ::
      sendEach answers measurementsData (n + 1)

variable {σ τ : Type} (dev : ISensorDevice σ τ)

def executeAcquisitionRoutine (answers : SinkAnswers) (itsSensorHub : SensorHub σ) (w : τ) :
    Routine :=
  let (measurementsData, _) := SensorHub.acquireAll dev [] itsSensorHub w
  match ClientSocket.construct answers with
  | .error what => ⟨[], some what⟩
  | .ok () => ⟨sendEach answers measurementsData 0, none⟩

/-- `run()` of a service that has just been constructed, with what `isReady` answers. -/
def run (ready : Bool) (answers : SinkAnswers) (itsBmeSensor : σ) (w : τ) : Routine :=
  let (_, itsSensorHub) := SensorHub.registerSensor dev ready itsBmeSensor {}
  executeAcquisitionRoutine dev answers itsSensorHub w

/-- Every measurement is attempted once, in the order of the list, and the routine warns of exactly
those that were not sent as a whole. -/
structure LossesReported (routine : Routine) (measurementsData : List SgmProcessData) : Prop where
  attempted : routine.attempts.map Attempt.measurement = measurementsData
  warned : ∀ attempt ∈ routine.attempts,
    attempt.warned = true ↔ attempt.txBytes ≠ .ofNat sizeofSgmProcessData

theorem toInt_sizeof : (Int32.ofNat sizeofSgmProcessData).toInt = 32 := by decide

/-- The comparison overlooks -1 and nothing else. -/
theorem isTransmissionError_iff (txBytes : TxBytes) :
    (isTransmissionError txBytes = true ↔ txBytes.val ≠ .ofNat sizeofSgmProcessData) ↔
      txBytes.val ≠ -1 := by
  obtain ⟨txBytes, rfl | ⟨hlow, hhigh⟩⟩ := txBytes
  · decide
  · have hsize : txBytes.toUInt32.toNat = txBytes.toInt.toNat := Int32.toNat_toUInt32_of_le hlow
    have hfull : txBytes = .ofNat sizeofSgmProcessData ↔ txBytes.toInt = 32 := by
      rw [← Int32.toInt_inj, toInt_sizeof]
    have hfailed : txBytes = -1 ↔ txBytes.toInt = -1 := Int32.toInt_inj.symm
    have hzero : (0 : Int32).toInt = 0 := by decide
    have hbound : (UInt32.ofNat sizeofSgmProcessData).toNat = 32 := by decide
    rw [Int32.le_iff_toInt_le] at hlow hhigh
    rw [toInt_sizeof] at hhigh
    rw [isTransmissionError, decide_eq_true_iff, gt_iff_lt, UInt32.lt_iff_toNat_lt, hsize, hbound,
      Ne, Ne, hfull, hfailed]
    omega

theorem attempted_sendEach (answers : SinkAnswers) (measurementsData : List SgmProcessData)
    (n : ℕ) :
    (sendEach answers measurementsData n).map Attempt.measurement = measurementsData := by
  induction measurementsData generalizing n with
  | nil => rfl
  | cons measurement rest ih => rw [sendEach, List.map_cons, ih]

/-- The attempts carry the results of their own packets. -/
theorem forall_sendEach {P : Int32 → Bool → Prop} (answers : SinkAnswers)
    (measurementsData : List SgmProcessData) (n : ℕ) :
    (∀ attempt ∈ sendEach answers measurementsData n, P attempt.txBytes attempt.warned) ↔
      ∀ k < measurementsData.length,
        P (answers.send (n + k)) (isTransmissionError (answers.send (n + k))) := by
  induction measurementsData generalizing n with
  | nil => simp [sendEach]
  | cons measurement rest ih =>
    rw [sendEach, List.forall_mem_cons, ih, List.length_cons, Nat.forall_lt_succ_left]
    simp only [Nat.add_zero, Nat.add_assoc, Nat.add_comm 1]
    rfl

theorem lossesReported_sendEach (answers : SinkAnswers) (measurementsData : List SgmProcessData) :
    LossesReported ⟨sendEach answers measurementsData 0, none⟩ measurementsData ↔
      ∀ n < measurementsData.length, (answers.send n).val ≠ -1 := by
  have hwarned := forall_sendEach
    (P := fun txBytes warned => warned = true ↔ txBytes ≠ .ofNat sizeofSgmProcessData)
    answers measurementsData 0
  simp only [Nat.zero_add, isTransmissionError_iff] at hwarned
  rw [← hwarned]
  exact ⟨fun h => h.warned, fun h => ⟨attempted_sendEach answers measurementsData 0, h⟩⟩

/-- Without a connection nothing is attempted. -/
theorem lossesReported_caught (what : String) (measurementsData : List SgmProcessData) :
    LossesReported ⟨[], some what⟩ measurementsData ↔ measurementsData = [] :=
  ⟨fun h => h.attempted.symm, fun h => ⟨h.symm, by simp⟩⟩

/-- Every measurement that was not sent is reported if and only if there is none, or the sink is
connected and no `send` returns -1. -/
theorem losses_reported_iff (answers : SinkAnswers) (itsSensorHub : SensorHub σ) (w : τ) :
    LossesReported (executeAcquisitionRoutine dev answers itsSensorHub w)
        (SensorHub.acquireAll dev [] itsSensorHub w).1 ↔
      (SensorHub.acquireAll dev [] itsSensorHub w).1 = [] ∨ answers.connect ≠ -1 ∧
        ∀ n < (SensorHub.acquireAll dev [] itsSensorHub w).1.length,
          (answers.send n).val ≠ -1 := by
  generalize hdata : (SensorHub.acquireAll dev [] itsSensorHub w).1 = measurementsData
  unfold executeAcquisitionRoutine ClientSocket.construct
  simp only [hdata]
  by_cases hconnect : -1 = answers.connect
  · rw [if_pos hconnect, lossesReported_caught]
    simp [hconnect.symm]
  · rw [if_neg hconnect, lossesReported_sendEach]
    have hconnect' : answers.connect ≠ -1 := Ne.symm hconnect
    constructor
    · intro h
      exact .inr ⟨hconnect', h⟩
    · rintro (rfl | ⟨-, h⟩)
      · simp
      · exact h

/-- The service with the sensor of the device, of whose packets the sink takes none. -/
def unheard : SinkAnswers where
  send _ := ⟨-1, .inl rfl⟩

/-- All three readings are lost and nobody is warned. -/
theorem failed_send_unreported :
    ¬ LossesReported
      (executeAcquisitionRoutine (Bme280Sensor.device Bme280Sensor.someDriver) unheard
        ⟨[], [Bme280Sensor.airSensor]⟩ ⟨0, 0, 0⟩)
      (SensorHub.acquireAll (Bme280Sensor.device Bme280Sensor.someDriver) []
        ⟨[], [Bme280Sensor.airSensor]⟩ ⟨0, 0, 0⟩).1 := by
  intro h
  have hfirst := h.warned _ List.mem_cons_self
  exact absurd (hfirst.2 (by decide)) (by decide)

end SensorServiceApplication

end SgmDevice
