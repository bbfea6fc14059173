import SgmDevice.Sink.AtomicCalls

/-!
# The protocol as the sink sees it

The reports of the monitor take effect between the calls of the sink.  So the sink may take the
protocol for an `IMessageProtocol` that it has for itself, and that knows in each `sendMessage`
which status was reported last (`calls_served`).
-/

namespace SgmDevice

open Sgm Concurrency

namespace MqttThreads

open MqttProtocol (World Answers answered)

/-- The calls of the sink in a log, made through the interface, each with the result that it had. -/
def Served {τ : Type} (P : IMessageProtocol τ) : List Returned → τ → τ → Prop
  | [], q, q' => q' = q
  | ⟨.sendMessage data, res⟩ :: log, q, q' =>
    (P.sendMessage data q).1 = res ∧ Served P log (P.sendMessage data q).2 q'
  | ⟨.connect, res⟩ :: log, q, q' => (P.connect q).1 = res ∧ Served P log (P.connect q).2 q'
  | ⟨.disconnect, res⟩ :: log, q, q' =>
    (P.disconnect q).1 = res ∧ Served P log (P.disconnect q).2 q'
  | ⟨.yield, _⟩ :: log, q, q' => Served P log (P.yield q) q'
  | ⟨.onNetworkStatusChange _, _⟩ :: log, q, q' => Served P log q q'

/-- For each `sendMessage` of a log, the status that was reported last. -/
def lastReports : NetworkStatus → List Returned → List NetworkStatus
  | _, [] => []
  | _, ⟨.onNetworkStatusChange status, _⟩ :: log => lastReports status log
  | status, ⟨.sendMessage _, _⟩ :: log => status :: lastReports status log
  | status, ⟨.connect, _⟩ :: log | status, ⟨.disconnect, _⟩ :: log | status, ⟨.yield, _⟩ :: log =>
    lastReports status log

/-! ## One call -/

/-- `p` with the counters of `q`. -/
def counting (q p : MqttProtocol) : MqttProtocol :=
  { p with sends := q.sends, connects := q.connects, disconnects := q.disconnects }

/-- `p` with the counters of `q`, and with the report that `q` knows of. -/
def tracking (q p : MqttProtocol) : MqttProtocol :=
  { counting q p with isNetworkReady := q.isNetworkReady }

/-- The interface counts its calls, and learns of a report when it is called. -/
structure Alike (status : NetworkStatus) (p q : MqttProtocol) : Prop where
  eq : q = tracking q p
  ready : p.isNetworkReady = decide (status = .connected)

theorem sendMessage_counting (w : World) (data : SgmProcessData) (q p : MqttProtocol) :
    MqttProtocol.sendMessage w data (counting q p) =
      ((MqttProtocol.sendMessage w data p).1,
        counting q (MqttProtocol.sendMessage w data p).2) := by
  unfold MqttProtocol.sendMessage MqttProtocol.prepareTopic
  cases MqttProtocol.findMapper data with
  | none => rfl
  | some pair =>
    cases w.isClientConnected with
    | false => rfl
    | true =>
      cases hready : p.isNetworkReady <;>
        simp [counting, hready, MqttProtocol.prepareMessage, MqttProtocol.publishMessage]

variable {status : NetworkStatus} {p q : MqttProtocol} {a : Answers} {w : World}

/-- A report reaches the interface with the next `sendMessage`. -/
theorem Alike.reported (h : Alike status p q) (n : ℕ) :
    { MqttProtocol.onNetworkStatusChange status q with sends := n } =
      counting { q with sends := n } p := by
  have hready := h.ready
  rw [h.eq]
  cases status <;> simp_all [MqttProtocol.onNetworkStatusChange, tracking, counting]

/-- A call counts, and nothing else changes by that. -/
theorem Alike.counted (h : Alike status p q) (sends connects disconnects : ℕ) :
    { q with sends, connects, disconnects } =
      tracking { q with sends, connects, disconnects } p := by
  conv_lhs => rw [h.eq]
  rfl

theorem Alike.onNetworkStatusChange (h : Alike status p q) (status' : NetworkStatus) :
    Alike status' (MqttProtocol.onNetworkStatusChange status' p) q where
  eq := by
    rw [h.eq]
    cases status' <;> rfl
  ready := MqttProtocol.isNetworkReady_onNetworkStatusChange status' p

theorem Alike.sent (h : Alike status p q) (w : World) (data : SgmProcessData) :
    Alike status (MqttProtocol.sendMessage w data p).2
      (counting { q with sends := q.sends + 1 } (MqttProtocol.sendMessage w data p).2) where
  eq := rfl
  ready := isNetworkReady_run (.sendMessage data) w h.ready

theorem Alike.connected (h : Alike status p q) (w : World) :
    Alike status (MqttProtocol.connect w p).2
      (tracking { q with connects := q.connects + 1 } (MqttProtocol.connect w p).2) where
  eq := rfl
  ready := isNetworkReady_run .connect w h.ready

theorem Alike.disconnected (h : Alike status p q) (w : World) :
    Alike status (MqttProtocol.disconnect w p).2
      (tracking { q with disconnects := q.disconnects + 1 } (MqttProtocol.disconnect w p).2) where
  eq := rfl
  ready := isNetworkReady_run .disconnect w h.ready

theorem Alike.sendMessage (h : Alike status p q)
    (hw : a.sends q.sends = { w with networkStatus := status }) (data : SgmProcessData) :
    (answered a).sendMessage data q =
      ((MqttProtocol.sendMessage w data p).1,
        counting { q with sends := q.sends + 1 } (MqttProtocol.sendMessage w data p).2) := by
  have hcall : (answered a).sendMessage data q =
      MqttProtocol.sendMessage { w with networkStatus := status } data
        (counting { q with sends := q.sends + 1 } p) := by
    rw [← h.reported]
    change MqttProtocol.sendMessage (a.sends q.sends) data _ = _
    rw [hw]
  rw [hcall, sendMessage_counting]
  rfl

theorem Alike.connect (h : Alike status p q) :
    (answered a).connect q =
      ((MqttProtocol.connect (a.connects q.connects) p).1,
        tracking { q with connects := q.connects + 1 }
          (MqttProtocol.connect (a.connects q.connects) p).2) := by
  change MqttProtocol.connect (a.connects q.connects) { q with connects := q.connects + 1 } = _
  rw [h.counted q.sends (q.connects + 1) q.disconnects]
  unfold MqttProtocol.connect
  split_ifs <;> first | rfl | contradiction

theorem Alike.disconnect (h : Alike status p q) :
    (answered a).disconnect q =
      ((MqttProtocol.disconnect (a.disconnects q.disconnects) p).1,
        tracking { q with disconnects := q.disconnects + 1 }
          (MqttProtocol.disconnect (a.disconnects q.disconnects) p).2) := by
  change MqttProtocol.disconnect (a.disconnects q.disconnects) _ = _
  rw [h.counted q.sends q.connects (q.disconnects + 1)]
  rfl

/-! ## The calls of a log -/

/-- The answers agree on the calls that are still to come. -/
structure SameAhead (q : MqttProtocol) (a a' : Answers) : Prop where
  sends : ∀ n, q.sends ≤ n → a'.sends n = a.sends n
  connects : ∀ n, q.connects ≤ n → a'.connects n = a.connects n
  disconnects : ∀ n, q.disconnects ≤ n → a'.disconnects n = a.disconnects n

theorem eq_update_ahead {f f' : ℕ → World} {n : ℕ}
    (h : ∀ m, n ≤ m → f' m = Function.update f n w m) :
    f' n = w ∧ ∀ m, n + 1 ≤ m → f' m = f m := by
  refine ⟨?_, fun m hm => ?_⟩
  · rw [h n le_rfl, Function.update_self]
  · rw [h m (Nat.le_of_succ_le hm), Function.update_of_ne (Nat.ne_of_gt hm)]

/-- The answers serve a log of calls that have left `p'`. -/
structure Serves (a : Answers) (status : NetworkStatus) (log : List Returned)
    (q p' : MqttProtocol) : Prop where
  reports : ∀ n s, (lastReports status log)[n]? = some s → (a.sends (q.sends + n)).networkStatus = s
  served : ∃ q', Served (answered a) log q q' ∧ q'.published = p'.published

theorem exists_serves {log : List Returned} {p' : MqttProtocol} (h : Sequential log p p')
    (alike : Alike status p q) : ∃ a, ∀ a', SameAhead q a a' → Serves a' status log q p' := by
  induction log generalizing p q status with
  | nil =>
    cases h
    refine ⟨{}, fun a' _ => ⟨fun n s hs => ?_, q, rfl, ?_⟩⟩
    · cases hs
    · rw [alike.eq]
      rfl
  | cons r log ih =>
    obtain ⟨call, res⟩ := r
    obtain ⟨w, rfl, h⟩ := h
    cases call with
    | yield =>
      obtain ⟨a, hserves⟩ := ih h alike
      exact ⟨a, fun a' same => ⟨(hserves a' same).reports, (hserves a' same).served⟩⟩
    | onNetworkStatusChange status' =>
      obtain ⟨a, hserves⟩ := ih h (alike.onNetworkStatusChange status')
      exact ⟨a, fun a' same => ⟨(hserves a' same).reports, (hserves a' same).served⟩⟩
    | connect =>
      obtain ⟨a, hserves⟩ := ih h (alike.connected w)
      refine ⟨{ a with connects := Function.update a.connects q.connects w }, fun a' same => ?_⟩
      obtain ⟨hw, hlater⟩ := eq_update_ahead same.connects
      obtain ⟨hreports, q', hserved, hpublished⟩ :=
        hserves a' ⟨same.sends, hlater, same.disconnects⟩
      refine ⟨hreports, q', ?_, hpublished⟩
      rw [Served, alike.connect, hw]
      exact ⟨rfl, hserved⟩
    | disconnect =>
      obtain ⟨a, hserves⟩ := ih h (alike.disconnected w)
      refine ⟨{ a with disconnects := Function.update a.disconnects q.disconnects w },
        fun a' same => ?_⟩
      obtain ⟨hw, hlater⟩ := eq_update_ahead same.disconnects
      obtain ⟨hreports, q', hserved, hpublished⟩ :=
        hserves a' ⟨same.sends, same.connects, hlater⟩
      refine ⟨hreports, q', ?_, hpublished⟩
      rw [Served, alike.disconnect, hw]
      exact ⟨rfl, hserved⟩
    | sendMessage data =>
      obtain ⟨a, hserves⟩ := ih h (alike.sent w data)
      let w' := { w with networkStatus := status }
      refine ⟨{ a with sends := Function.update a.sends q.sends w' }, fun a' same => ?_⟩
      obtain ⟨hw, hlater⟩ := eq_update_ahead same.sends
      obtain ⟨hreports, q', hserved, hpublished⟩ :=
        hserves a' ⟨hlater, same.connects, same.disconnects⟩
      refine ⟨fun n s hs => ?_, q', ?_, hpublished⟩
      · cases n with
        | zero =>
          obtain rfl := Option.some.inj hs
          exact congrArg World.networkStatus hw
        | succ n =>
          rw [← Nat.add_assoc, Nat.add_right_comm]
          exact hreports n s hs
      · rw [Served, alike.sendMessage hw]
        exact ⟨rfl, hserved⟩

/-- In every run the sink is served as by an `IMessageProtocol` that it has for itself. -/
theorem calls_served (mqttClientId : String) (acts : List Act) :
    let log := tookEffect (threads.system.path (init mqttClientId) acts)
    let c := threads.system.final (init mqttClientId) acts
    ∃ a q, Served (answered a) log { mqttClientId } q ∧
      (∀ n status, (lastReports .disconnected log)[n]? = some status →
        (a.sends n).networkStatus = status) ∧
      ((∀ t, (c.prog t).result.isSome) → q.published = c.shared.data.published) := by
  intro log c
  obtain ⟨_, history, follows⟩ := exists_untouched_history mqttClientId acts
  obtain ⟨p, hlog, hown, hrest⟩ := sequential_of_history history
  have halike : Alike .disconnected { mqttClientId } { mqttClientId } := ⟨rfl, rfl⟩
  obtain ⟨a, hserves⟩ := exists_serves hlog halike
  obtain ⟨hreports, q, hserved, hpublished⟩ :=
    hserves a ⟨fun _ _ => rfl, fun _ _ => rfl, fun _ _ => rfl⟩
  refine ⟨a, q, hserved, fun n status hs => ?_, fun hreturned => ?_⟩
  · have hstatus := hreports n status hs
    rwa [Nat.zero_add] at hstatus
  · rw [data_of_follows follows hown hrest hreturned]
    exact hpublished

end MqttThreads

end SgmDevice
