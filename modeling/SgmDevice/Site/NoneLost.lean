import SgmDevice.Site.Delivery

/-!
# Runs without loss

A measurement can be lost at every stage: the service finds no socket, a `send` takes less than the
packet, the sink mistakes the result of `connect()`, its `recv` fails or it is killed, the pair is
unknown, the client is not connected or the network is not ready.  Nothing else loses one on the way
to `publishMessage`: in every run all that was measured is handed to it or waits for the sink if and
only if none of these happens (`none_lost_iff`).
-/

namespace SgmDevice

open Sgm Concurrency SensorServiceApplication

namespace MqttProtocol

/-- From the `n`-th call on, each packet has a known pair and finds the client connected and the
network ready. -/
def Arrives (w : ℕ → World) : ℕ → List SgmProcessData → Prop
  | _, [] => True
  | n, packet :: packets =>
    ((findMapper packet).isSome ∧ (w n).isClientConnected = true ∧
      (w n).networkStatus = .connected) ∧ Arrives w (n + 1) packets

theorem reported_eq_iff (a : Answers) (packets : List SgmProcessData) (p : MqttProtocol) :
    SgmSink.reported (SgmSink.handedOn (answered a) packets p) = packets ↔
      Arrives a.sends p.sends packets := by
  induction packets generalizing p with
  | nil => exact iff_of_true rfl trivial
  | cons packet packets ih =>
    obtain ⟨hcount, hresult⟩ := protocol_sendMessage a.sends packet p
    have hsends : ((answered a).sendMessage packet p).2.sends = p.sends + 1 := hcount
    have hrest := ih ((answered a).sendMessage packet p).2
    have hsent : ((answered a).sendMessage packet p).1 = .messageSent ↔
        (findMapper packet).isSome ∧ (a.sends p.sends).isClientConnected = true ∧
          (a.sends p.sends).networkStatus = .connected := by
      change ((protocol a.sends).sendMessage packet p).1 = _ ↔ _
      rw [hresult]
      by_cases hnetwork : (a.sends p.sends).networkStatus = .connected <;>
        cases findMapper packet <;> cases (a.sends p.sends).isClientConnected <;> simp [hnetwork]
    rw [hsends] at hrest
    rw [SgmSink.handedOn, ← List.singleton_append, SgmSink.reported_append, Arrives, ← hsent,
      ← hrest]
    by_cases hpublished : ((answered a).sendMessage packet p).1 = .messageSent
    · simp [SgmSink.reported, hpublished]
    · -- the packet is missing, and so there are too few
      refine iff_of_false (fun heq => ?_) fun h => hpublished h.1
      have hsublist : (SgmSink.reported (if ((answered a).sendMessage packet p).1 = .noConnection
          then [] else SgmSink.handedOn (answered a) packets
            ((answered a).sendMessage packet p).2)).Sublist packets := by
        split_ifs
        · exact List.nil_sublist _
        · exact SgmSink.reported_handedOn _ _
      have hfirst : SgmSink.reported [(packet, ((answered a).sendMessage packet p).1)] = [] := by
        simp [SgmSink.reported, hpublished]
      have hlength := hsublist.length_le
      rw [hfirst, List.nil_append] at heq
      rw [heq, List.length_cons] at hlength
      omega

end MqttProtocol

namespace Site

variable {σ τ : Type} (dev : ISensorDevice σ τ) (clientId : String) (itsBmeSensor : σ)

/-- The packets that wait for the sink. -/
def waiting (s : State) : List SgmProcessData := (s.backlog.map packets).flatten

/-- All that was measured is handed to `publishMessage` or waits, in its order. -/
def NoneLost (s : State) : Prop :=
  (publications s).map some ++ (waiting s).map (MqttProtocol.publication clientId) =
    s.acquired.map (MqttProtocol.publication clientId)

/-- A tick that takes a connection comes to `publishMessage` with all of its packets, if `recv`
returns all of them. -/
def ReachesLibrary (s : State) (listening : Listening) (received : Prop) : Prop :=
  takes s listening = true → packets (s.backlog.headD []) = [] ∨
    listening.leftover ≠ EAGAIN ∧ received ∧
      MqttProtocol.Arrives s.world.sends s.sink.itsSinkProtocol.sends
        (packets (s.backlog.headD []))

/-- The step loses nothing of what is measured or waits first. -/
def Keeps (s : State) : Act τ → Prop
  | .service ready answers w =>
    measurements dev itsBmeSensor ready w = [] ∨ answers.connect ≠ -1 ∧
      ∀ n < (measurements dev itsBmeSensor ready w).length,
        (answers.send n).val = .ofNat sizeofSgmProcessData
  | .tick _ listening interruption =>
    ReachesLibrary s listening (∀ k errno, interruption = some (k, errno) →
      (packets (s.backlog.headD [])).length ≤ k)
  | .killed _ listening k _ _ =>
    ReachesLibrary s listening ((packets (s.backlog.headD [])).length ≤ k)
  | .restart _ _ => True

variable {dev clientId itsBmeSensor} {s s' : State}

/-- Nothing is lost if and only if what was delivered and what waits is all that was measured. -/
theorem noneLost_iff (h : Invariant clientId s) :
    NoneLost clientId s ↔ delivered s ++ waiting s = s.acquired := by
  have hsublist : (delivered s ++ waiting s).Sublist s.acquired := h.inOrder
  rw [NoneLost, h.faithful.published, ← List.map_append]
  constructor
  · intro heq
    have hlength := congrArg List.length heq
    rw [List.length_map, List.length_map] at hlength
    exact hsublist.eq_of_length hlength
  · intro heq
    rw [heq]

/-! ## The steps that lose something -/

theorem service_keeps {ready : Bool} {answers : SinkAnswers} {w : τ}
    (hs : (system dev clientId itsBmeSensor).step s (.service ready answers w) = some s')
    (h : delivered s ++ waiting s = s.acquired) :
    delivered s' ++ waiting s' = s'.acquired ↔
      Keeps dev itsBmeSensor s (.service ready answers w) := by
  obtain rfl := Option.some.inj hs
  have hsame : ∀ kept, (delivered s ++ (waiting s ++ kept) =
      s.acquired ++ measurements dev itsBmeSensor ready w ↔
        kept = measurements dev itsBmeSensor ready w) := fun kept => by
    rw [← h, List.append_assoc, List.append_cancel_left_eq, List.append_cancel_left_eq]
  rw [run_eq, ClientSocket.construct, Keeps]
  by_cases hconnect : -1 = answers.connect
  · rw [if_pos hconnect]
    change delivered s ++ waiting s = _ ↔ _
    have hrefused := hsame []
    rw [List.append_nil] at hrefused
    rw [hrefused]
    constructor
    · exact fun hnone => Or.inl hnone.symm
    · rintro (hnone | ⟨hconnected, -⟩)
      · exact hnone.symm
      · exact absurd hconnect.symm hconnected
  · rw [if_neg hconnect]
    have hwaiting : ((s.backlog ++
        [stream (sendEach answers (measurements dev itsBmeSensor ready w) 0)]).map
          packets).flatten =
        waiting s ++ sentWhole answers (measurements dev itsBmeSensor ready w) 0 := by
      rw [List.map_append, List.flatten_append, List.map_singleton, List.flatten_singleton,
        packets_stream, waiting]
    change delivered s ++ ((s.backlog ++ [_]).map packets).flatten = _ ↔ _
    rw [hwaiting, hsame, sentWhole_eq_iff]
    simp only [Nat.zero_add, ne_eq, Ne.symm hconnect, not_false_iff, true_and]
    constructor
    · exact Or.inr
    · rintro (hnone | hsends)
      · rw [hnone]
        intro n hn
        exact absurd hn (Nat.not_lt_zero n)
      · exact hsends

theorem handedOver_eq_iff (s : State) (listening : Listening) {outcomes : List RecvOutcome}
    (received : (packets outcomes).Sublist (packets (s.backlog.headD []))) :
    handedOver s listening outcomes = packets (s.backlog.headD []) ↔
      packets (s.backlog.headD []) = [] ∨ listening.leftover ≠ EAGAIN ∧
        packets outcomes = packets (s.backlog.headD []) ∧
        MqttProtocol.Arrives s.world.sends s.sink.itsSinkProtocol.sends
          (packets (s.backlog.headD [])) := by
  rw [← MqttProtocol.reported_eq_iff]
  by_cases hnone : packets (s.backlog.headD []) = []
  · have hsublist := (handedOver_sublist s listening outcomes).trans received
    rw [hnone] at hsublist ⊢
    exact iff_of_true (List.sublist_nil.1 hsublist) (Or.inl rfl)
  · rw [or_iff_right hnone, handedOver]
    by_cases hleftover : listening.leftover = EAGAIN
    · rw [if_pos hleftover]
      exact iff_of_false (fun h => hnone h.symm) fun h => h.1 hleftover
    · rw [if_neg hleftover, and_iff_right hleftover]
      constructor
      · intro heq
        -- the sublists in between are equal too
        have hall : packets outcomes = packets (s.backlog.headD []) := by
          apply received.eq_of_length_le
          rw [← congrArg List.length heq]
          exact (SgmSink.reported_handedOn _ _).length_le
        rw [hall] at heq
        exact ⟨hall, heq⟩
      · rintro ⟨hall, heq⟩
        rw [hall, heq]

theorem ticked_keeps {w : SgmSink.TickWorld} (waits : takes s w.listening = true → s.backlog ≠ [])
    (received : (packets w.outcomes).Sublist (packets (s.backlog.headD [])))
    (hs : s' = ticked s w.listening (SgmSink.tick (MqttProtocol.answered s.world) w s.sink))
    (h : delivered s ++ waiting s = s.acquired) :
    delivered s' ++ waiting s' = s'.acquired ↔
      ReachesLibrary s w.listening (packets w.outcomes = packets (s.backlog.headD [])) := by
  by_cases htakes : takes s w.listening = true
  · obtain ⟨first, rest, hbacklog, hbacklog', hdelivered, hacquired⟩ :=
      ticked_takes (waits htakes) htakes hs
    have hwaiting : waiting s = packets first ++ (rest.map packets).flatten := by
      rw [waiting, hbacklog]
      rfl
    have hwaiting' : waiting s' = (rest.map packets).flatten := by rw [waiting, hbacklog']
    rw [ReachesLibrary, forall_prop_of_true htakes, ← handedOver_eq_iff s w.listening received,
      hdelivered, hacquired, ← h, hwaiting, hwaiting', List.append_assoc,
      List.append_cancel_left_eq, List.append_cancel_right_eq, hbacklog, List.headD_cons]
  · obtain ⟨hbacklog, hdelivered, hacquired⟩ := ticked_none htakes hs
    rw [waiting, hbacklog, hdelivered, hacquired]
    exact iff_of_true h fun htakes' => absurd htakes' htakes

/-- A restart by itself loses nothing. -/
theorem restarted_keeps (s : State) (packet : SgmProcessData) (world : MqttProtocol.Answers) :
    delivered (restarted clientId s packet world) ++ waiting (restarted clientId s packet world) =
        (restarted clientId s packet world).acquired ↔
      delivered s ++ waiting s = s.acquired := by
  rw [delivered_restarted]
  rfl

theorem step_keeps {a : Act τ} (hs : (system dev clientId itsBmeSensor).step s a = some s')
    (h : delivered s ++ waiting s = s.acquired) :
    delivered s' ++ waiting s' = s'.acquired ↔ Keeps dev itsBmeSensor s a := by
  cases a with
  | service ready answers w => exact service_keeps hs h
  | tick status listening interruption =>
    obtain ⟨waits, -, hticked⟩ := step_tick hs
    rw [ticked_keeps waits (packets_cutShort interruption _) hticked h, Keeps,
      packets_cutShort_eq_iff]
  | killed status listening k packet world =>
    obtain ⟨waits, rfl⟩ := step_killed hs
    have hreceived : (packets ((s.backlog.headD []).take k)).Sublist
        (packets (s.backlog.headD [])) := by
      rw [packets_killed]
      exact List.take_sublist _ _
    have hticked := ticked_keeps
      (w := { status, listening, outcomes := (s.backlog.headD []).take k }) waits hreceived rfl h
    rw [restarted_keeps, hticked, Keeps, packets_killed, List.take_eq_self_iff]
  | restart packet world =>
    obtain rfl := Option.some.inj hs
    exact iff_of_true ((restarted_keeps s packet world).2 h) trivial

/-! ## Runs -/

/-- In every run all that was measured is handed to `publishMessage` or waits in every state if and
only if no step loses anything. -/
theorem none_lost_iff (dev : ISensorDevice σ τ) (clientId : String) (itsBmeSensor : σ)
    (packet : SgmProcessData) (world : MqttProtocol.Answers) (acts : List (Act τ)) :
    (system dev clientId itsBmeSensor).Always (init clientId packet world) acts
        (NoneLost clientId) ↔
      (system dev clientId itsBmeSensor).Obeys (init clientId packet world) acts
        (Keeps dev itsBmeSensor) := by
  let I : State → Prop := fun s =>
    Invariant clientId s ∧ delivered s ++ waiting s = s.acquired
  have hinit : I (init clientId packet world) := ⟨.init clientId packet world, rfl⟩
  refine System.always_iff_obeys (I := I) ?_ ?_ ?_ hinit acts
  · intro s h
    exact (noneLost_iff h.1).2 h.2
  · intro s a s' h hkeeps hs
    exact ⟨h.1.step hs, (step_keeps hs h.2).2 hkeeps⟩
  · intro s a s' h hloses hs hnone
    exact hloses ((step_keeps hs h.2).1 ((noneLost_iff (h.1.step hs)).1 hnone))

end Site

end SgmDevice
