import SgmDevice.Sink.SinkSocket
import SgmDevice.Sink.TopicAndPayload

/-!
# The name tables

`sendMessage` reads the tables with `at` for the topic and with `operator[]` for the log, which adds
every key that is missing.  A packet comes from the socket as it is, so its fields may be any words
(`tables_kept_iff`).
-/

namespace SgmDevice

open Sgm

namespace Sgm.StringMap

variable {m : StringMap} {key : UInt32}

theorem index_of_isSome (h : (m.lookup key).isSome) : m.index key = m := if_pos h

/-- The keys of an enumeration are the words below its size. -/
theorem isSome_lookup_iff_lt {n : UInt32}
    (hkeys : m.map Prod.fst = (List.range n.toNat).map UInt32.ofNat) (key : UInt32) :
    (m.lookup key).isSome ↔ key < n := by
  have hmem : (m.lookup key).isSome ↔ key ∈ m.map Prod.fst := by
    rw [List.lookup_isSome_iff, List.mem_map]
    exact exists_congr fun _ => and_congr_right fun _ => beq_iff_eq.trans eq_comm
  rw [hmem, hkeys, List.mem_map, UInt32.lt_iff_toNat_lt]
  constructor
  · rintro ⟨k, hk, rfl⟩
    rw [UInt32.toNat_ofNat_of_lt' (Nat.lt_trans (List.mem_range.1 hk) n.toNat_lt)]
    exact List.mem_range.1 hk
  · intro hlt
    exact ⟨key.toNat, List.mem_range.2 hlt, UInt32.ofNat_toNat⟩

theorem length_le_index : m.length ≤ (m.index key).length := by
  unfold index
  split
  · exact Nat.le_refl _
  · rw [List.length_append]
    omega

/-- Reading some keys one after the other. -/
def indexAll (m : StringMap) (keys : List UInt32) : StringMap := keys.foldl index m

theorem length_le_indexAll (m : StringMap) (keys : List UInt32) :
    m.length ≤ (m.indexAll keys).length := by
  induction keys generalizing m with
  | nil => exact Nat.le_refl _
  | cons key keys ih => exact Nat.le_trans length_le_index (ih (m.index key))

/-- A table stays as it is if and only if every key that is read is in it. -/
theorem indexAll_eq_iff (m : StringMap) (keys : List UInt32) :
    m.indexAll keys = m ↔ ∀ key ∈ keys, (m.lookup key).isSome := by
  induction keys with
  | nil => simp [indexAll]
  | cons key keys ih =>
    rw [List.forall_mem_cons, ← ih]
    by_cases hkey : (m.lookup key).isSome
    · have hcons : m.indexAll (key :: keys) = m.indexAll keys := by
        rw [indexAll, List.foldl_cons, index_of_isSome hkey, indexAll]
      rw [hcons, and_iff_right hkey]
    · refine iff_of_false (fun heq => ?_) fun h => hkey h.1
      -- the missing key is added, and nothing takes it away
      have hlonger : m.length < (m.indexAll (key :: keys)).length := by
        have hrest := length_le_indexAll (m.index key) keys
        rw [index, if_neg hkey, List.length_append, List.length_singleton] at hrest
        rw [indexAll, List.foldl_cons, index, if_neg hkey]
        exact hrest
      rw [heq] at hlonger
      exact Nat.lt_irrefl _ hlonger

end Sgm.StringMap

namespace MqttProtocol

/-- The two maps of the names and the multimap of what is measured, which nothing writes to. -/
def tables (p : MqttProtocol) :
    StringMap × StringMap × List (MeasurementPoint × PhysQuantity) :=
  (p.measPointStringMap, p.physicalStringMap, unitMap)

/-- The point and the quantity of a packet have names; `NONE` has none. -/
def Named (data : SgmProcessData) : Prop :=
  data.measPoint < 3 ∧ data.physQuantityType < 4

theorem point_named (point : UInt32) :
    (Sgm.measPointStringMap.lookup point).isSome ↔ point < 3 :=
  Sgm.StringMap.isSome_lookup_iff_lt (by decide) point

theorem quantity_named (quantity : UInt32) :
    (Sgm.physicalStringMap.lookup quantity).isSome ↔ quantity < 4 :=
  Sgm.StringMap.isSome_lookup_iff_lt (by decide) quantity

theorem sendMessage_tables (w : ℕ → World) (data : SgmProcessData) (p : MqttProtocol) :
    ((protocol w).sendMessage data p).2.measPointStringMap =
        p.measPointStringMap.index data.measPoint ∧
      ((protocol w).sendMessage data p).2.physicalStringMap =
        p.physicalStringMap.index data.physQuantityType := by
  have hprepare : ∀ p : MqttProtocol,
      (prepareTopic data p).2.measPointStringMap = p.measPointStringMap.index data.measPoint ∧
        (prepareTopic data p).2.physicalStringMap =
          p.physicalStringMap.index data.physQuantityType := by
    intro p
    unfold prepareTopic
    cases findMapper data <;> exact ⟨rfl, rfl⟩
  have hstatus : ∀ status, (onNetworkStatusChange status p).measPointStringMap =
        p.measPointStringMap ∧
      (onNetworkStatusChange status p).physicalStringMap = p.physicalStringMap := by
    intro status
    cases status <;> exact ⟨rfl, rfl⟩
  obtain ⟨-, hpoints, hquantities⟩ := sendMessage_names (w p.sends) data
    { onNetworkStatusChange (w p.sends).networkStatus p with sends := p.sends + 1 }
  obtain ⟨hpoint, hquantity⟩ := hprepare
    { onNetworkStatusChange (w p.sends).networkStatus p with sends := p.sends + 1 }
  rw [(hstatus _).1] at hpoint
  rw [(hstatus _).2] at hquantity
  exact ⟨hpoints.trans hpoint, hquantities.trans hquantity⟩

/-- The packets are looked up one after the other. -/
theorem tables_after (clientId : String) (w : ℕ → World) (packets : List SgmProcessData) :
    tables (after clientId w packets) =
      (Sgm.measPointStringMap.indexAll (packets.map SgmProcessData.measPoint),
        Sgm.physicalStringMap.indexAll (packets.map SgmProcessData.physQuantityType), unitMap) := by
  have hrun : ∀ p : MqttProtocol,
      tables (packets.foldl (fun p packet => ((protocol w).sendMessage packet p).2) p) =
        (p.measPointStringMap.indexAll (packets.map SgmProcessData.measPoint),
          p.physicalStringMap.indexAll (packets.map SgmProcessData.physQuantityType), unitMap) := by
    induction packets with
    | nil => exact fun _ => rfl
    | cons packet packets ih =>
      intro p
      obtain ⟨hpoints, hquantities⟩ := sendMessage_tables w packet p
      rw [List.foldl_cons, ih, hpoints, hquantities]
      rfl
  exact hrun { mqttClientId := clientId }

/-- Whatever the client and the library answer, the tables are the initial ones after some packets
from the socket if and only if all of them are about a named point and a named quantity. -/
theorem tables_kept_iff (clientId : String) (w : ℕ → World)
    (buffers : List (Vector UInt8 sizeofRxBuffer)) :
    tables (after clientId w (buffers.map SinkSocket.translateByteStreamToStructure)) =
        tables { mqttClientId := clientId } ↔
      ∀ buffer ∈ buffers, Named (SinkSocket.translateByteStreamToStructure buffer) := by
  rw [tables_after, tables, Prod.mk.injEq, Prod.mk.injEq, Sgm.StringMap.indexAll_eq_iff,
    Sgm.StringMap.indexAll_eq_iff]
  simp only [List.forall_mem_map, point_named, quantity_named, and_true, Named, forall_and]

/-- A datagram about the point 7. -/
def strayPoint : Vector UInt8 sizeofRxBuffer :=
  (Vector.replicate _ 0).set 4 7

/-- One packet about an unknown point makes the table grow. -/
theorem stray_point_grows :
    tables (after "" (fun _ => {}) [SinkSocket.translateByteStreamToStructure strayPoint]) ≠
      tables {} := by
  decide +kernel

end MqttProtocol

end SgmDevice
