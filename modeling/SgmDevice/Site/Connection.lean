import SgmDevice.Sensor.SensorService
import SgmDevice.Sink.MessageQueue

/-!
# The connection between the service and the sink

The socket keeps the boundaries of the packets.  What the service sends on one connection the sink
finds there as a sequence of datagrams with the end of the stream behind it, or less if its `recv`
fails on the way.  A packet that `send` did not take is missing, and one that it took in part ends
the queue of the sink, so that the packets behind it are lost too (`packets_stream`).
-/

namespace SgmDevice

open Sgm

namespace SensorServiceApplication

/-- What a `send` puts on the connection: nothing if it fails, or as many bytes of the packet as it
returns. -/
def Attempt.datagram (attempt : Attempt) : Option (List UInt8) :=
  if attempt.txBytes = -1 then none
  else some (attempt.measurement.toList.take attempt.txBytes.toInt.toNat)

/-- What the sink finds on the connection of a routine; the destructor of the socket ends it. -/
def stream (attempts : List Attempt) : List RecvOutcome :=
  (attempts.filterMap Attempt.datagram).map RecvOutcome.datagram ++ [.datagram []]

/-- What the sink finds if its `recv` fails with `errno` behind the first `k` datagrams. -/
def cutShort (interruption : Option (ℕ × Int)) (outcomes : List RecvOutcome) : List RecvOutcome :=
  match interruption with
  | none => outcomes
  | some (k, errno) => outcomes.take k ++ [.error errno]

/-- The packets that were sent as a whole, up to the first that was sent in part, when `n` went
before. -/
def sentWhole (answers : SinkAnswers) : List SgmProcessData → ℕ → List SgmProcessData
  | [], _ => []
  | measurement :: measurementsData, n =>
    if (answers.send n).val = .ofNat sizeofSgmProcessData then
      measurement :: sentWhole answers measurementsData (n + 1)
    else if (answers.send n).val = -1 then sentWhole answers measurementsData (n + 1)
    else []

/-- The packets of the full datagrams that come first. -/
def packets (outcomes : List RecvOutcome) : List SgmProcessData :=
  (SgmSink.leadingDatagrams outcomes).map SgmSink.FullDatagram.packet

theorem sentWhole_sublist (answers : SinkAnswers) (measurementsData : List SgmProcessData) (n : ℕ) :
    (sentWhole answers measurementsData n).Sublist measurementsData := by
  induction measurementsData generalizing n with
  | nil => exact List.Sublist.refl []
  | cons measurement measurementsData ih =>
    rw [sentWhole]
    split_ifs
    · exact (ih (n + 1)).cons_cons measurement
    · exact (ih (n + 1)).cons measurement
    · exact List.nil_sublist _

/-- Nothing is missing if and only if each `send` took the whole packet. -/
theorem sentWhole_eq_iff (answers : SinkAnswers) (measurementsData : List SgmProcessData) (n : ℕ) :
    sentWhole answers measurementsData n = measurementsData ↔
      ∀ k < measurementsData.length,
        (answers.send (n + k)).val = .ofNat sizeofSgmProcessData := by
  induction measurementsData generalizing n with
  | nil => simp [sentWhole]
  | cons measurement measurementsData ih =>
    have hrest := ih (n + 1)
    simp only [Nat.add_assoc, Nat.add_comm 1] at hrest
    rw [List.length_cons, Nat.forall_lt_succ_left, sentWhole, ← hrest, Nat.add_zero]
    by_cases hwhole : (answers.send n).val = .ofNat sizeofSgmProcessData
    · simp [hwhole]
    · -- what is left is shorter than the list
      have hshort : ∀ {rest : List SgmProcessData}, rest.Sublist measurementsData →
          rest ≠ measurement :: measurementsData := by
        rintro rest hrest rfl
        have hlength := hrest.length_le
        rw [List.length_cons] at hlength
        omega
      have hne : (if (answers.send n).val = -1 then sentWhole answers measurementsData (n + 1)
          else []) ≠ measurement :: measurementsData := by
        split_ifs
        · exact hshort (sentWhole_sublist answers measurementsData (n + 1))
        · exact hshort (List.nil_sublist _)
      simp [hwhole, hne]

/-! ## The packets that the sink finds -/

theorem packets_full (measurement : SgmProcessData) (outcomes : List RecvOutcome) :
    packets (.datagram measurement.toList :: outcomes) = measurement :: packets outcomes := by
  have hlength : sizeofSgmProcessData ≤ measurement.toList.length := by simp
  have hpacket : SgmSink.FullDatagram.packet ⟨measurement.toList, hlength⟩ = measurement := by
    have hbytes : measurement.toList.take sizeofSgmProcessData = measurement.toList :=
      List.take_of_length_le (by simp)
    apply Vector.toArray_inj.1
    exact congrArg List.toArray hbytes
  have hleading := SgmSink.leadingDatagrams_full ⟨measurement.toList, hlength⟩ outcomes
  rw [packets, hleading, List.map_cons, hpacket]
  rfl

theorem packets_short {bytes : List UInt8} (h : bytes.length < sizeofSgmProcessData)
    (outcomes : List RecvOutcome) : packets (.datagram bytes :: outcomes) = [] := by
  have hother : ∀ bytes', RecvOutcome.datagram bytes = .datagram bytes' →
      bytes'.length < sizeofSgmProcessData := by
    rintro _ ⟨rfl⟩
    exact h
  rw [packets, SgmSink.leadingDatagrams_other hother]
  rfl

theorem stream_cons (attempt : Attempt) (attempts : List Attempt) :
    stream (attempt :: attempts) =
      (attempt.datagram.map RecvOutcome.datagram).toList ++ stream attempts := by
  unfold stream
  rw [List.filterMap_cons]
  cases attempt.datagram <;> rfl

/-- The sink finds the packets that were sent as a whole before one was sent in part. -/
theorem packets_stream (answers : SinkAnswers) (measurementsData : List SgmProcessData) (n : ℕ) :
    packets (stream (sendEach answers measurementsData n)) =
      sentWhole answers measurementsData n := by
  induction measurementsData generalizing n with
  | nil =>
    have hempty : ([] : List UInt8).length < sizeofSgmProcessData := by decide
    exact packets_short hempty []
  | cons measurement measurementsData ih =>
    rw [sendEach, stream_cons, sentWhole, ← ih (n + 1)]
    dsimp only [ClientSocket.sendPacket, Attempt.datagram]
    obtain ⟨txBytes, rfl | ⟨hlow, hhigh⟩⟩ := answers.send n
    · rfl
    · have hfailed : txBytes ≠ -1 := by
        rintro rfl
        exact absurd hlow (by decide)
      have hlow' : 0 ≤ txBytes.toInt := Int32.le_iff_toInt_le.1 hlow
      have hhigh' : txBytes.toInt ≤ 32 := (Int32.le_iff_toInt_le.1 hhigh).trans_eq toInt_sizeof
      rw [if_neg hfailed, if_neg hfailed]
      change packets (.datagram (measurement.toList.take txBytes.toInt.toNat) :: _) = _
      by_cases hwhole : txBytes = .ofNat sizeofSgmProcessData
      · have hsize : txBytes.toInt.toNat = measurement.toList.length := by
          rw [hwhole, toInt_sizeof]
          simp
        rw [if_pos hwhole, hsize, List.take_length, packets_full]
        rfl
      · have hsize : txBytes.toInt ≠ 32 := by
          rw [← toInt_sizeof]
          exact mt Int32.toInt_inj.1 hwhole
        rw [if_neg hwhole]
        apply packets_short
        rw [List.length_take]
        show min txBytes.toInt.toNat _ < 32
        omega

/-- Where nothing comes behind `k` datagrams, the first `k` packets are left. -/
theorem packets_take (k : ℕ) {rest : List RecvOutcome} (h : packets rest = [])
    (outcomes : List RecvOutcome) :
    packets (outcomes.take k ++ rest) = (packets outcomes).take k := by
  induction outcomes generalizing k with
  | nil =>
    rw [List.take_nil, List.nil_append, h]
    exact List.take_nil.symm
  | cons outcome outcomes ih =>
    cases k with
    | zero => exact h
    | succ k =>
      rw [List.take_succ_cons, List.cons_append]
      rcases SgmSink.full_or_other outcome with ⟨d, rfl⟩ | hother
      · have hrest := ih k
        simp only [packets] at hrest
        simp only [packets, SgmSink.leadingDatagrams_full, List.map_cons, List.take_succ_cons,
          hrest]
      · simp [packets, SgmSink.leadingDatagrams_other hother]

theorem packets_cutShort (interruption : Option (ℕ × Int)) (outcomes : List RecvOutcome) :
    (packets (cutShort interruption outcomes)).Sublist (packets outcomes) := by
  cases interruption with
  | none => exact List.Sublist.refl _
  | some interruption =>
    rw [cutShort, packets_take _ rfl]
    exact List.take_sublist _ _

theorem packets_cutShort_eq_iff (interruption : Option (ℕ × Int)) (outcomes : List RecvOutcome) :
    packets (cutShort interruption outcomes) = packets outcomes ↔
      ∀ k errno, interruption = some (k, errno) → (packets outcomes).length ≤ k := by
  cases interruption with
  | none => simp [cutShort]
  | some interruption =>
    obtain ⟨k, errno⟩ := interruption
    rw [cutShort, packets_take _ rfl, List.take_eq_self_iff]
    simp

end SensorServiceApplication

end SgmDevice
