import SgmDevice.Concurrency.Transition
import SgmDevice.Sink.MessageQueue

/-!
# The accepted descriptor

`connect` overwrites the descriptor that it accepted last, and only the normal end of the receive
loop closes it.  So a descriptor is lost when a tick that left it open is followed by one that
accepts again (`accepts_released_iff`).
-/

namespace SgmDevice

open Sgm Concurrency

namespace SinkSocket

/-- Every accepted descriptor has been closed once, before the next call of `accept`. -/
def AllClosed : List DescriptorCall → Prop
  | [] => True
  | .accept _ none :: calls => AllClosed calls
  | .close fd :: .accept _ (some accepted) :: calls => fd = accepted ∧ AllClosed calls
  | _ => False

/-- Nothing that was accepted is open any more. -/
def Released (s : SinkSocket) : Prop :=
  s.acceptedSocketDescriptor = -1 ∧ AllClosed s.descriptorCalls

theorem released_iff {s : SinkSocket} {fd : Int} {calls : List DescriptorCall}
    (h : s.descriptors = (fd, calls)) : s.Released ↔ fd = -1 ∧ AllClosed calls := by
  obtain ⟨rfl, rfl⟩ := Prod.ext_iff.1 h
  exact Iff.rfl

theorem released_congr {s s' : SinkSocket} (h : s'.descriptors = s.descriptors) :
    s'.Released ↔ s.Released := by
  rw [released_iff h]
  rfl

theorem disconnect_congr {s s' : SinkSocket} (h : s'.descriptors = s.descriptors) :
    s'.disconnect.descriptors = s.disconnect.descriptors := by
  obtain ⟨hfd, hcalls⟩ := Prod.ext_iff.1 h
  simp only [descriptors] at hfd hcalls
  simp only [descriptors, disconnect, hfd, hcalls]

theorem disconnect_released {s : SinkSocket} {accepted : ℕ} {fd : Int} {calls : List DescriptorCall}
    (h : s.descriptors = ((accepted : Int), .accept fd (some accepted) :: calls))
    (closed : AllClosed calls) : s.disconnect.Released := by
  obtain ⟨hfd, hcalls⟩ := Prod.ext_iff.1 h
  simp only [descriptors] at hfd hcalls
  simp only [Released, disconnect, hfd, hcalls]
  exact ⟨trivial, rfl, closed⟩

end SinkSocket

namespace SgmSink

variable {τ : Type} (P : IMessageProtocol τ)

/-- The ticks of the sink, each of them with what the world answers to it.  A tick that is still
waiting in `recv` has not been made. -/
def ticks : System (SgmSink τ) TickWorld where
  step s w :=
    if s.itsCurrentState = .listeningConnected ∧
        (processMessageQueue P w.listening w.outcomes s).1 = .receiving then none
    else some (tick P w s)

/-! ## Which ticks accept, and which leave open what they accept -/

/-- The tick gets as far as the call of `accept`. -/
def CallsAccept (s : SgmSink τ) (w : TickWorld) : Prop :=
  s.itsCurrentState = .listeningConnected ∧ SinkSocket.Listens w.listening

/-- The first outcome behind the leading datagrams. -/
def behindDatagrams : List RecvOutcome → Option RecvOutcome
  | [] => none
  | .datagram bytes :: outcomes =>
    if sizeofSgmProcessData ≤ bytes.length then behindDatagrams outcomes
    else some (.datagram bytes)
  | .error errno :: _ => some (.error errno)

/-- A datagram that is too short for a packet and is not taken for the end of the queue. -/
def ShortDatagram (outcome : RecvOutcome) : Prop :=
  ∃ bytes, outcome = .datagram bytes ∧ bytes.length < sizeofSgmProcessData ∧ bytes.length ≠ 0 ∧
    (bytes.length : Int) ≠ EAGAIN

/-- The queue of an accepted connection ends with an exception. -/
def Breaks (outcomes : List RecvOutcome) (t : τ) : Prop :=
  (∃ call ∈ handedOn P ((leadingDatagrams outcomes).map FullDatagram.packet) t,
    call.2 = .noConnection) ∨ ∃ outcome ∈ behindDatagrams outcomes, ShortDatagram outcome

/-- The tick accepts a connection and leaves it open: `connect()` leaves `EAGAIN` where its caller
expects a result, or the queue ends with an exception. -/
def LeavesOpen (s : SgmSink τ) (w : TickWorld) : Prop :=
  (∃ accepted, w.listening.accept = .ok accepted) ∧
    (w.listening.leftover = EAGAIN ∨ Breaks P w.outcomes s.itsSinkProtocol)

/-- An outcome that is no full datagram ends the queue unless it is a short one. -/
theorem receive_ends {outcome : RecvOutcome} (h : ∀ bytes, outcome = .datagram bytes →
    bytes.length < sizeofSgmProcessData) (s : SgmSink τ) :
    ((s.receive outcome).1 = EAGAIN ∨ (s.receive outcome).1 = EWOULDBLOCK ∨
      (s.receive outcome).1 = 0) ↔ ¬ ShortDatagram outcome := by
  cases outcome with
  | error errno =>
    refine iff_of_true ?_ (by simp [ShortDatagram])
    rcases receive_error errno s with hagain | hzero
    · exact .inl hagain
    · exact .inr (.inr hzero)
  | datagram bytes =>
    have hshort : bytes.length < 32 := h bytes rfl
    have hsize : (s.receive (.datagram bytes)).1 = bytes.length := by
      rw [receive_size]
      show min (bytes.length : Int) 64 = bytes.length
      omega
    have hcut : ShortDatagram (.datagram bytes) ↔
        bytes.length ≠ 0 ∧ (bytes.length : Int) ≠ EAGAIN := by
      simp [ShortDatagram, hshort]
    rw [hsize, hcut, show EWOULDBLOCK = EAGAIN from rfl]
    omega

/-- The loop stops at a short datagram by an exception. -/
theorem receiveLoop_short {outcome : RecvOutcome} (hshort : ShortDatagram outcome)
    (outcomes : List RecvOutcome) (s : SgmSink τ) :
    receiveLoop P (outcome :: outcomes) s =
      (.runtimeError "Bad packet received : size mismatch", (s.receive outcome).2) := by
  obtain ⟨bytes, rfl, hlength, -⟩ := id hshort
  have hother : ∀ bytes', RecvOutcome.datagram bytes = .datagram bytes' →
      bytes'.length < sizeofSgmProcessData := by
    rintro _ ⟨rfl⟩
    exact hlength
  have hgo := mt (receive_ends hother s).1 (not_not.2 hshort)
  have hsize : (s.receive (.datagram bytes)).1 < sizeofSgmProcessData := by
    have hstop := (receive_other hother s).2
    tauto
  rw [receiveLoop]
  simp only [if_neg hgo, if_pos hsize]

/-- Any other outcome that is no full datagram ends the queue. -/
theorem receiveLoop_ended {outcome : RecvOutcome} (hother : ∀ bytes, outcome = .datagram bytes →
    bytes.length < sizeofSgmProcessData) (hend : ¬ ShortDatagram outcome)
    (outcomes : List RecvOutcome) (s : SgmSink τ) :
    receiveLoop P (outcome :: outcomes) s = (.returned, { (s.receive outcome).2 with
      itsSinkSocket := (s.receive outcome).2.itsSinkSocket.disconnect
      itsSinkProtocol := P.yield s.itsSinkProtocol }) := by
  rw [receiveLoop]
  exact if_pos ((receive_ends hother s).2 hend)

theorem behindDatagrams_full (d : FullDatagram) (outcomes : List RecvOutcome) :
    behindDatagrams (.datagram d.1 :: outcomes) = behindDatagrams outcomes := if_pos d.2

theorem behindDatagrams_other {outcome : RecvOutcome} (h : ∀ bytes, outcome = .datagram bytes →
    bytes.length < sizeofSgmProcessData) (outcomes : List RecvOutcome) :
    behindDatagrams (outcome :: outcomes) = some outcome := by
  cases outcome with
  | error errno => rfl
  | datagram bytes => exact if_neg (not_le.2 (h bytes rfl))

theorem breaks_full (d : FullDatagram) (outcomes : List RecvOutcome) (t : τ) :
    Breaks P (.datagram d.1 :: outcomes) t ↔
      (P.sendMessage d.packet t).1 = .noConnection ∨
        Breaks P outcomes (P.sendMessage d.packet t).2 := by
  rw [Breaks, Breaks, leadingDatagrams_full, List.map_cons, handedOn, behindDatagrams_full]
  by_cases hlost : (P.sendMessage d.packet t).1 = .noConnection <;> simp [hlost]

theorem breaks_other {outcome : RecvOutcome} (h : ∀ bytes, outcome = .datagram bytes →
    bytes.length < sizeofSgmProcessData) (outcomes : List RecvOutcome) (t : τ) :
    Breaks P (outcome :: outcomes) t ↔ ShortDatagram outcome := by
  rw [Breaks, leadingDatagrams_other h, behindDatagrams_other h]
  simp [handedOn]

/-- The loop closes the accepted descriptor unless it ends with an exception. -/
theorem receiveLoop_descriptors (outcomes : List RecvOutcome) (s : SgmSink τ)
    (ended : (receiveLoop P outcomes s).1 ≠ .receiving) :
    (Breaks P outcomes s.itsSinkProtocol →
      (receiveLoop P outcomes s).2.itsSinkSocket.descriptors = s.itsSinkSocket.descriptors) ∧
      (¬ Breaks P outcomes s.itsSinkProtocol →
        (receiveLoop P outcomes s).2.itsSinkSocket.descriptors =
          s.itsSinkSocket.disconnect.descriptors) := by
  induction outcomes generalizing s with
  | nil => exact absurd rfl ended
  | cons outcome outcomes ih =>
    rcases full_or_other outcome with ⟨d, rfl⟩ | hother
    · obtain ⟨s', -, hprotocol, hdescriptors, hloop⟩ := receiveLoop_full P d outcomes s
      rw [hloop] at ended ⊢
      rw [breaks_full, ← hprotocol]
      by_cases hlost : (P.sendMessage d.packet s.itsSinkProtocol).1 = .noConnection
      · rw [if_pos hlost]
        exact ⟨fun _ => hdescriptors, fun h => absurd (Or.inl hlost) h⟩
      · rw [if_neg hlost] at ended ⊢
        rw [or_iff_right hlost, ← hdescriptors, ← SinkSocket.disconnect_congr hdescriptors]
        exact ih s' ended
    · have hdescriptors := s.itsSinkSocket.receive_descriptors outcome s.itsSgmDataPacket
      rw [breaks_other P hother]
      constructor
      · intro hshort
        rw [receiveLoop_short P hshort]
        exact hdescriptors
      · intro hend
        rw [receiveLoop_ended P hother hend]
        exact SinkSocket.disconnect_congr hdescriptors

/-! ## Ticks -/

theorem ticks_eq_some {s s' : SgmSink τ} {w : TickWorld} (hs : (ticks P).step s w = some s') :
    (s.itsCurrentState = .listeningConnected →
      (processMessageQueue P w.listening w.outcomes s).1 ≠ .receiving) ∧ tick P w s = s' := by
  simpa [ticks] using hs

theorem tick_socket_listening {s : SgmSink τ} (w : TickWorld)
    (listening : s.itsCurrentState = .listeningConnected) :
    (tick P w s).itsSinkSocket =
      (processMessageQueue P w.listening w.outcomes s).2.itsSinkSocket := by
  rw [tick_listening listening]
  rcases processMessageQueue P w.listening w.outcomes s with ⟨exit, s'⟩
  cases exit <;> rfl

theorem tick_socket_other {s : SgmSink τ} (w : TickWorld)
    (hstate : s.itsCurrentState ≠ .listeningConnected) :
    (tick P w s).itsSinkSocket = s.itsSinkSocket := by
  cases hcurrent : s.itsCurrentState with
  | listeningConnected => exact absurd hcurrent hstate
  | listeningDisconnected => rw [tick_listeningDisconnected hcurrent]
  | noConnection =>
    rw [tick_noConnection hcurrent]
    split_ifs <;> rfl
  | connected =>
    rw [tick_connected hcurrent]
    split_ifs <;> rfl

/-- Without an accepted connection `processMessageQueue` leaves the socket as `connect` does. -/
theorem processMessageQueue_refused {l : Listening} (outcomes : List RecvOutcome) {s : SgmSink τ}
    (h : (s.itsSinkSocket.connect l).1 = .ok EAGAIN ∨
      ∃ what, (s.itsSinkSocket.connect l).1 = .error what) :
    (processMessageQueue P l outcomes s).2.itsSinkSocket = (s.itsSinkSocket.connect l).2 := by
  rcases h with hagain | ⟨what, hwhat⟩
  · rw [processMessageQueue_again P outcomes hagain]
  · rw [processMessageQueue_thrown P outcomes hwhat]

/-- A tick that does not accept leaves the accepted descriptor alone. -/
theorem released_other {s s' : SgmSink τ} {w : TickWorld} (h : ¬ CallsAccept s w)
    (hs : (ticks P).step s w = some s') :
    s'.itsSinkSocket.Released ↔ s.itsSinkSocket.Released := by
  obtain ⟨-, rfl⟩ := ticks_eq_some P hs
  by_cases listening : s.itsCurrentState = .listeningConnected
  · have hnone : ¬ SinkSocket.Listens w.listening := fun hlistens => h ⟨listening, hlistens⟩
    obtain ⟨herror, hdescriptors⟩ := SinkSocket.connect_of_not_listens hnone s.itsSinkSocket
    rw [tick_socket_listening P w listening, processMessageQueue_refused P _ (Or.inr herror)]
    exact SinkSocket.released_congr hdescriptors
  · rw [tick_socket_other P w listening]

/-- A tick that accepts leaves everything released unless it leaves the connection open. -/
theorem released_accept {s s' : SgmSink τ} {w : TickWorld} (released : s.itsSinkSocket.Released)
    (h : CallsAccept s w) (hs : (ticks P).step s w = some s') :
    s'.itsSinkSocket.Released ↔ ¬ LeavesOpen P s w := by
  obtain ⟨ended, rfl⟩ := ticks_eq_some P hs
  obtain ⟨listening, hlistens⟩ := h
  have hended := ended listening
  rw [tick_socket_listening P w listening]
  cases haccept : w.listening.accept with
  | error errno =>
    obtain ⟨fd, hresult, hdescriptors⟩ :=
      SinkSocket.connect_refused hlistens haccept s.itsSinkSocket
    rw [processMessageQueue_refused P _ hresult, SinkSocket.released_iff hdescriptors]
    refine iff_of_true ⟨rfl, released.2⟩ ?_
    rintro ⟨⟨accepted, hok⟩, -⟩
    rw [haccept] at hok
    cases hok
  | ok accepted =>
    obtain ⟨fd, hresult, hdescriptors⟩ :=
      SinkSocket.connect_accepted hlistens haccept s.itsSinkSocket
    have hopen : ∀ calls : List DescriptorCall,
        ¬ ((accepted : Int) = -1 ∧ SinkSocket.AllClosed calls) := fun calls h => by omega
    have hleaves : LeavesOpen P s w ↔
        w.listening.leftover = EAGAIN ∨ Breaks P w.outcomes s.itsSinkProtocol :=
      and_iff_right ⟨accepted, haccept⟩
    rw [hleaves]
    by_cases hleftover : w.listening.leftover = EAGAIN
    · rw [hleftover] at hresult
      rw [processMessageQueue_refused P _ (Or.inl hresult), SinkSocket.released_iff hdescriptors]
      exact iff_of_false (hopen _) (not_not.2 (Or.inl hleftover))
    · have hqueue := processMessageQueue_accepted P w.listening w.outcomes s hresult hleftover
      rw [hqueue] at hended ⊢
      obtain ⟨hbreaks, hcloses⟩ := receiveLoop_descriptors P w.outcomes _ hended
      rw [or_iff_right hleftover]
      by_cases hbroken : Breaks P w.outcomes s.itsSinkProtocol
      · rw [SinkSocket.released_iff ((hbreaks hbroken).trans hdescriptors)]
        exact iff_of_false (hopen _) (not_not.2 hbroken)
      · rw [SinkSocket.released_congr (hcloses hbroken)]
        exact iff_of_true (SinkSocket.disconnect_released hdescriptors released.2) hbroken

/-- In every run `accept` is called only with everything released if and only if no tick accepts
after one that left its connection open. -/
theorem accepts_released_iff (t : τ) (packet : SgmProcessData) (acts : List TickWorld) :
    (ticks P).Obeys { itsSinkProtocol := t, itsSgmDataPacket := packet } acts
        (fun s w => CallsAccept s w → s.itsSinkSocket.Released) ↔
      ((ticks P).path { itsSinkProtocol := t, itsSgmDataPacket := packet } acts).Pairwise
        fun step step' => CallsAccept step.before step.act ∧ LeavesOpen P step.before step.act →
          ¬ CallsAccept step'.before step'.act := by
  have init : SinkSocket.Released {} := ⟨rfl, trivial⟩
  exact System.obeys_iff_pairwise (fun _ _ _ => released_other P)
    (fun _ _ _ => released_accept P) init acts

/-- The sink connects, accepts a connection on which a datagram of one byte comes, and accepts
again. -/
def shortDatagramTicks : List TickWorld :=
  [{}, {}, { outcomes := [.datagram [7]] }, { outcomes := [.datagram []] }]

theorem short_datagram_leaks :
    ¬ ∀ (τ : Type) (P : IMessageProtocol τ) (t : τ) (packet : SgmProcessData)
      (acts : List TickWorld),
      (ticks P).Obeys { itsSinkProtocol := t, itsSgmDataPacket := packet } acts
        (fun s w => CallsAccept s w → s.itsSinkSocket.Released) := by
  intro h
  have hticks :=
    h _ (MqttProtocol.protocol fun _ => {}) {} (Vector.replicate _ 0) shortDatagramTicks
  have hlast := (System.obeys_cons.1 (System.obeys_cons.1 (System.obeys_cons.1 hticks).2).2).2
  have hreleased := (System.obeys_cons.1 hlast).1 rfl ⟨rfl, 3, rfl⟩
  exact absurd hreleased.1 (by decide)

end SgmSink

end SgmDevice
