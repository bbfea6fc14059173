import SgmDevice.Sink.AcceptedSocket

/-!
# How the queue of a connection ends

`receive` returns one number for a size, an error and the end of the stream, so that a datagram of
11 bytes, an empty one and every error of `recv` read as the end of the queue.  The end is told
apart from bad packets exactly when none of these stops the loop (`told_apart_iff`).
-/

namespace SgmDevice

open Sgm

namespace SgmSink

/-- What happens on the accepted connection, as `recv` reports it. -/
inductive QueueEvent where
  | datagram (bytes : List UInt8)
  /-- The peer has closed the stream. -/
  | closed
  | error (errno : Int)
  deriving DecidableEq, Repr

/-- An empty datagram reads as the end of the stream. -/
def QueueEvent.outcome : QueueEvent → RecvOutcome
  | .datagram bytes => .datagram bytes
  | .closed => .datagram []
  | .error errno => .error errno

/-- The first event that is no datagram with a whole packet. -/
def firstOther : List QueueEvent → Option QueueEvent
  | [] => none
  | .datagram bytes :: events =>
    if sizeofSgmProcessData ≤ bytes.length then firstOther events else some (.datagram bytes)
  | event :: _ => some event

variable {τ : Type} (P : IMessageProtocol τ)

/-- A packet of the leading datagrams finds no connection. -/
def FindsNoConnection (outcomes : List RecvOutcome) (t : τ) : Prop :=
  ∃ call ∈ handedOn P ((leadingDatagrams outcomes).map FullDatagram.packet) t,
    call.2 = .noConnection

/-- The event at which the loop stops. -/
def StopsAt (events : List QueueEvent) (s : SgmSink τ) (event : QueueEvent) : Prop :=
  ¬ FindsNoConnection P (events.map QueueEvent.outcome) s.itsSinkProtocol ∧
    firstOther events = some event

def processEvents (l : Listening) (events : List QueueEvent) (s : SgmSink τ) :
    Exit × SgmSink τ :=
  processMessageQueue P l (events.map QueueEvent.outcome) s

/-- The round ends normally, with the accepted socket disconnected, only at the end of the stream or
when nothing has come; a datagram without a whole packet and every other error throw. -/
structure ToldApart (l : Listening) (events : List QueueEvent) (s : SgmSink τ) : Prop where
  ends : (processEvents P l events s).1 = .returned →
    (processEvents P l events s).2.itsSinkSocket.acceptedSocketDescriptor = -1 ∧
      (StopsAt P events s .closed ∨ StopsAt P events s (.error EAGAIN))
  mismatch : ∀ bytes, StopsAt P events s (.datagram bytes) →
    (processEvents P l events s).1 = .runtimeError "Bad packet received : size mismatch"
  reported : ∀ errno, StopsAt P events s (.error errno) → errno ≠ EAGAIN →
    ∃ what, (processEvents P l events s).1 = .runtimeError what

/-- The event that stops the loop is read for what it is. -/
def QueueEvent.Readable : QueueEvent → Prop
  | .datagram bytes => bytes.length ≠ 0 ∧ bytes.length ≠ 11
  | .closed => True
  | .error errno => errno = EAGAIN

/-! ## How the loop exits -/

theorem findsNoConnection_full (d : FullDatagram) (outcomes : List RecvOutcome) (t : τ) :
    FindsNoConnection P (.datagram d.1 :: outcomes) t ↔
      (P.sendMessage d.packet t).1 = .noConnection ∨
        FindsNoConnection P outcomes (P.sendMessage d.packet t).2 := by
  rw [FindsNoConnection, FindsNoConnection, leadingDatagrams_full, List.map_cons, handedOn]
  by_cases hlost : (P.sendMessage d.packet t).1 = .noConnection <;> simp [hlost]

/-- Unless a packet finds no connection, the outcome behind the leading datagrams decides. -/
theorem exit_receiveLoop_behind (outcomes : List RecvOutcome) (s : SgmSink τ)
    (hfinds : ¬ FindsNoConnection P outcomes s.itsSinkProtocol) :
    (behindDatagrams outcomes = none → (receiveLoop P outcomes s).1 = .receiving) ∧
      ∀ outcome, behindDatagrams outcomes = some outcome →
        (ShortDatagram outcome → (receiveLoop P outcomes s).1 =
          .runtimeError "Bad packet received : size mismatch") ∧
        (¬ ShortDatagram outcome → (receiveLoop P outcomes s).1 = .returned) := by
  induction outcomes generalizing s with
  | nil => exact ⟨fun _ => rfl, fun outcome hnone => by cases hnone⟩
  | cons outcome outcomes ih =>
    rcases full_or_other outcome with ⟨d, rfl⟩ | hother
    · obtain ⟨s', -, hprotocol, -, hloop⟩ := receiveLoop_full P d outcomes s
      rw [findsNoConnection_full, not_or, ← hprotocol] at hfinds
      rw [hloop, if_neg hfinds.1, behindDatagrams_full]
      exact ih s' hfinds.2
    · rw [behindDatagrams_other hother]
      refine ⟨fun hnone => absurd hnone (Option.some_ne_none _), fun outcome' hsome => ?_⟩
      obtain rfl := Option.some.inj hsome
      constructor
      · intro hshort
        rw [receiveLoop_short P hshort]
      · intro hend
        rw [receiveLoop_ended P hother hend]

/-! ## The events of a connection -/

theorem behindDatagrams_map (events : List QueueEvent) :
    behindDatagrams (events.map QueueEvent.outcome) =
      (firstOther events).map QueueEvent.outcome := by
  induction events with
  | nil => rfl
  | cons event events ih =>
    cases event with
    | closed => rfl
    | error errno => rfl
    | datagram bytes =>
      by_cases hfull : sizeofSgmProcessData ≤ bytes.length
      · rw [firstOther, if_pos hfull, ← ih]
        exact if_pos hfull
      · rw [firstOther, if_neg hfull]
        exact if_neg hfull

theorem firstOther_short {events : List QueueEvent} {bytes : List UInt8}
    (h : firstOther events = some (.datagram bytes)) : bytes.length < sizeofSgmProcessData := by
  induction events with
  | nil => cases h
  | cons event events ih =>
    cases event with
    | closed => cases h
    | error errno => cases h
    | datagram bytes' =>
      rw [firstOther] at h
      split_ifs at h with hfull
      · exact ih h
      · cases h
        exact not_le.1 hfull

/-- The loop ends normally at every event but the datagrams that it recognises as too short. -/
theorem exit_of_stopsAt {events : List QueueEvent} {s : SgmSink τ} {event : QueueEvent}
    (h : StopsAt P events s event) :
    (ShortDatagram event.outcome →
        (receiveLoop P (events.map QueueEvent.outcome) s).1 =
          .runtimeError "Bad packet received : size mismatch") ∧
      (¬ ShortDatagram event.outcome →
        (receiveLoop P (events.map QueueEvent.outcome) s).1 = .returned) := by
  refine (exit_receiveLoop_behind P _ s h.1).2 event.outcome ?_
  rw [behindDatagrams_map, h.2]
  rfl

theorem shortDatagram_iff {events : List QueueEvent} {bytes : List UInt8}
    (h : firstOther events = some (.datagram bytes)) :
    ShortDatagram (QueueEvent.datagram bytes).outcome ↔ (QueueEvent.datagram bytes).Readable := by
  have hlength := firstOther_short h
  show (∃ bytes', RecvOutcome.datagram bytes = .datagram bytes' ∧ _ ∧ _ ∧ _) ↔ _ ∧ _
  constructor
  · rintro ⟨_, ⟨rfl⟩, -, hempty, hagain⟩
    exact ⟨hempty, fun heleven => hagain (by rw [heleven]; rfl)⟩
  · rintro ⟨hempty, heleven⟩
    refine ⟨bytes, rfl, hlength, hempty, fun hagain => heleven ?_⟩
    exact Int.ofNat.inj hagain

/-- The loop ends with an exception or normally. -/
theorem returned_iff_not_breaks {outcomes : List RecvOutcome} {s : SgmSink τ}
    (ended : (receiveLoop P outcomes s).1 ≠ .receiving) :
    (receiveLoop P outcomes s).1 = .returned ↔ ¬ Breaks P outcomes s.itsSinkProtocol := by
  constructor
  · rintro hreturned (hlost | ⟨outcome, hbehind, hshort⟩)
    · rw [(exit_receiveLoop P outcomes s).2 hlost] at hreturned
      cases hreturned
    · have hfinds : ¬ FindsNoConnection P outcomes s.itsSinkProtocol := fun hlost => by
        rw [(exit_receiveLoop P outcomes s).2 hlost] at hreturned
        cases hreturned
      rw [((exit_receiveLoop_behind P outcomes s hfinds).2 outcome hbehind).1 hshort] at hreturned
      cases hreturned
  · intro hbreaks
    obtain ⟨hfinds, hshort⟩ := not_or.1 hbreaks
    obtain ⟨hwaits, hstops⟩ := exit_receiveLoop_behind P outcomes s hfinds
    cases hbehind : behindDatagrams outcomes with
    | none => exact absurd (hwaits hbehind) ended
    | some outcome =>
      exact (hstops outcome hbehind).2 fun hmem => hshort ⟨outcome, hbehind, hmem⟩

/-- The loop ends normally only with the accepted socket disconnected. -/
theorem disconnected_of_returned {outcomes : List RecvOutcome} {s : SgmSink τ}
    (h : (receiveLoop P outcomes s).1 = .returned) :
    (receiveLoop P outcomes s).2.itsSinkSocket.acceptedSocketDescriptor = -1 ∧
      ¬ FindsNoConnection P outcomes s.itsSinkProtocol := by
  have hended : (receiveLoop P outcomes s).1 ≠ .receiving := by
    rw [h]
    decide
  have hbreaks := (returned_iff_not_breaks P hended).1 h
  have hdescriptors := (receiveLoop_descriptors P outcomes s hended).2 hbreaks
  exact ⟨congrArg Prod.fst hdescriptors, fun hlost => hbreaks (Or.inl hlost)⟩

/-- In the loop the end of the queue is told apart from bad packets if the event that stops it is
readable. -/
theorem toldApart_of_readable {l : Listening} {events : List QueueEvent} {s s' : SgmSink τ}
    (hqueue : processEvents P l events s = receiveLoop P (events.map QueueEvent.outcome) s')
    (hprotocol : s'.itsSinkProtocol = s.itsSinkProtocol)
    (readable : ∀ event, StopsAt P events s event → event.Readable) : ToldApart P l events s := by
  have hstops : ∀ event, StopsAt P events s event → StopsAt P events s' event := fun event h =>
    ⟨by rw [hprotocol]; exact h.1, h.2⟩
  refine ⟨fun hreturned => ?_, fun bytes hstop => ?_, fun errno hstop herrno => ?_⟩
  · rw [hqueue] at hreturned ⊢
    obtain ⟨hdisconnected, hfinds⟩ := disconnected_of_returned P hreturned
    refine ⟨hdisconnected, ?_⟩
    cases hother : firstOther events with
    | none =>
      have hbehind : behindDatagrams (events.map QueueEvent.outcome) = none := by
        rw [behindDatagrams_map, hother]
        rfl
      rw [(exit_receiveLoop_behind P _ s' hfinds).1 hbehind] at hreturned
      cases hreturned
    | some event =>
      have hstop : StopsAt P events s event := ⟨by rw [← hprotocol]; exact hfinds, hother⟩
      have hreadable := readable event hstop
      cases event with
      | closed => exact Or.inl hstop
      | error errno =>
        obtain rfl : errno = EAGAIN := hreadable
        exact Or.inr hstop
      | datagram bytes =>
        rw [(exit_of_stopsAt P (hstops _ hstop)).1 ((shortDatagram_iff hother).2 hreadable)]
          at hreturned
        cases hreturned
  · rw [hqueue]
    exact (exit_of_stopsAt P (hstops _ hstop)).1
      ((shortDatagram_iff hstop.2).2 (readable _ hstop))
  · exact absurd (readable _ hstop) herrno

/-- The event at which the loop stops is readable if the end of the queue is told apart. -/
theorem readable_of_toldApart {l : Listening} {events : List QueueEvent} {s s' : SgmSink τ}
    (hqueue : processEvents P l events s = receiveLoop P (events.map QueueEvent.outcome) s')
    (hprotocol : s'.itsSinkProtocol = s.itsSinkProtocol) (h : ToldApart P l events s)
    (event : QueueEvent) (hstop : StopsAt P events s event) : event.Readable := by
  have hexit := (exit_of_stopsAt P (s := s') ⟨by rw [hprotocol]; exact hstop.1, hstop.2⟩).2
  rw [← hqueue] at hexit
  cases event with
  | closed => trivial
  | error errno =>
    by_contra herrno
    obtain ⟨what, hthrown⟩ := h.reported errno hstop herrno
    rw [hexit (by simp [ShortDatagram, QueueEvent.outcome])] at hthrown
    cases hthrown
  | datagram bytes =>
    by_contra hunread
    have hthrown := h.mismatch bytes hstop
    rw [hexit (mt (shortDatagram_iff hstop.2).1 hunread)] at hthrown
    cases hthrown

/-- A result that is mistaken leaves the accepted socket open. -/
theorem leftover_of_toldApart {l : Listening} {events : List QueueEvent} {s : SgmSink τ}
    (listens : SinkSocket.Listens l) {accepted : ℕ} (haccept : l.accept = .ok accepted)
    (h : ToldApart P l events s) : l.leftover ≠ EAGAIN := by
  intro hmistaken
  obtain ⟨fd, hresult, hdescriptors⟩ :=
    SinkSocket.connect_accepted listens haccept s.itsSinkSocket
  rw [hmistaken] at hresult
  have hqueue : processEvents P l events s = _ := processMessageQueue_again P _ hresult
  obtain ⟨hdisconnected, -⟩ := h.ends (by rw [hqueue])
  rw [hqueue] at hdisconnected
  have hopen : (s.itsSinkSocket.connect l).2.acceptedSocketDescriptor = accepted :=
    congrArg Prod.fst hdescriptors
  have hnone : (s.itsSinkSocket.connect l).2.acceptedSocketDescriptor = -1 := hdisconnected
  omega

/-- The end of the queue is told apart from bad packets if and only if `connect()` does not leave
`EAGAIN` behind, and the first event without a whole packet, unless a packet before it finds no
connection, is the end of the stream, `EAGAIN`, or a datagram of neither 0 nor 11 bytes. -/
theorem told_apart_iff (l : Listening) (events : List QueueEvent) (s : SgmSink τ)
    (listens : SinkSocket.Listens l) (haccept : ∃ accepted, l.accept = .ok accepted) :
    ToldApart P l events s ↔
      l.leftover ≠ EAGAIN ∧ ∀ event, StopsAt P events s event → event.Readable := by
  obtain ⟨accepted, haccept⟩ := haccept
  have hentered : l.leftover ≠ EAGAIN → processEvents P l events s = _ := fun hleftover =>
    processMessageQueue_entered P listens haccept hleftover _ s
  constructor
  · intro h
    have hleftover := leftover_of_toldApart P listens haccept h
    exact ⟨hleftover, readable_of_toldApart P (hentered hleftover) rfl h⟩
  · rintro ⟨hleftover, readable⟩
    exact toldApart_of_readable P (hentered hleftover) rfl readable

/-- A datagram of one byte throws, and the end of the stream ends the round. -/
theorem told_apart_one_byte :
    ToldApart (MqttProtocol.protocol fun _ => {}) {} [.datagram [7], .closed] listeningSink :=
  (told_apart_iff _ {} _ listeningSink ⟨3, rfl⟩ ⟨4, rfl⟩).2 ⟨by decide, by
    rintro event ⟨-, hstop⟩
    obtain rfl := Option.some.inj hstop
    exact ⟨by decide, by decide⟩⟩

/-- A datagram of 11 bytes reads as `EAGAIN`. -/
theorem eleven_bytes_end_queue :
    ¬ ∀ (τ : Type) (P : IMessageProtocol τ) (l : Listening) (events : List QueueEvent)
      (s : SgmSink τ), SinkSocket.Listens l → (∃ accepted, l.accept = .ok accepted) →
      ToldApart P l events s := by
  intro h
  have hstop : StopsAt (MqttProtocol.protocol fun _ => {})
      [.datagram (List.replicate 11 7)] listeningSink (.datagram (List.replicate 11 7)) := by
    refine ⟨?_, rfl⟩
    rintro ⟨call, hcall, -⟩
    exact absurd hcall List.not_mem_nil
  have hthrown := (h _ (MqttProtocol.protocol fun _ => {}) {} _ listeningSink ⟨3, rfl⟩
    ⟨4, rfl⟩).mismatch _ hstop
  exact absurd hthrown (by decide)

end SgmSink

end SgmDevice
