import SgmDevice.Utils.SgmDataType

/-!
# `SinkSocket`

The socket on which the sensors' packets arrive.  `connect` looks for the listening socket that the
init system has passed and accepts a connection on it; `receive` reads one datagram into the buffer
and copies a packet out of it.
-/

namespace SgmDevice

open Sgm

/-- `EAGAIN` and `EWOULDBLOCK` are the same number. -/
def EAGAIN : Int := 11

def EWOULDBLOCK : Int := EAGAIN

/-- What `recv` finds: a datagram (an empty one is the end of the stream) or an error. -/
inductive RecvOutcome where
  | datagram (bytes : List UInt8)
  | error (errno : Int)
  deriving DecidableEq, Repr

/-- What the system answers to one call of `connect()`. -/
structure Listening where
  /-- The first result of `sd_listen_fds` other than 0. -/
  sdListenFds : Int := 1
  sdIsSocketUnix : Int → Int := fun _ => 1
  /-- How the search ends if `SD_LISTEN_FDS_START + socketsCount` overflows. -/
  straySearch : Except Int Int := .ok 3
  /-- The descriptor that `accept` returns, or its `errno`. -/
  accept : Except Int ℕ := .ok 4
  /-- `connect()` has no `return` where a connection is accepted; its caller finds this value. -/
  leftover : Int := 0

abbrev sizeofRxBuffer : ℕ := 2 * sizeofSgmProcessData

/-- A call on a descriptor; an `accept` carries the descriptor it returned, if it did. -/
inductive DescriptorCall where
  | accept (socketDescriptor : Int) (accepted : Option ℕ)
  | close (fd : Int)
  deriving DecidableEq, Repr

structure SinkSocket where
  rxBuffer : Vector UInt8 sizeofRxBuffer := Vector.replicate _ 0
  socketDescriptor : Int := -1
  acceptedSocketDescriptor : Int := -1
  /-- The calls of `accept` and `close`, the latest one first. -/
  descriptorCalls : List DescriptorCall := []
  deriving DecidableEq

namespace SinkSocket

def SD_LISTEN_FDS_START : Int := 3

def INT_MAX : Int := 2147483647

/-- The search loop of `connect()`, with `n` descriptors left before `last`.  It throws at the last
one, and so never runs off its end unless it was not entered. -/
def findSocket (isUnix : Int → Int) (last : Int) : ℕ → Int → Except Int Int
  | 0, socketDescriptor => .ok socketDescriptor
  | n + 1, socketDescriptor =>
    if isUnix socketDescriptor ≠ 0 then .ok socketDescriptor
    else if socketDescriptor = last then .error socketDescriptor
    else findSocket isUnix last n (socketDescriptor + 1)

/-- The descriptor with which the search ends, or with which it throws. -/
def search (l : Listening) : Except Int Int :=
  if SD_LISTEN_FDS_START + l.sdListenFds ≤ INT_MAX then
    findSocket l.sdIsSocketUnix (SD_LISTEN_FDS_START + l.sdListenFds - 1) l.sdListenFds.toNat
      SD_LISTEN_FDS_START
  else l.straySearch

/-- `connect()`: what it returns, or the `runtime_error` it throws. -/
def connect (l : Listening) (s : SinkSocket) : Except String Int × SinkSocket :=
  match search l with
  | .error fd => (.error "Could not find socket", { s with socketDescriptor := fd })
  | .ok fd =>
    match l.accept with
    | .ok accepted =>
      (.ok l.leftover, { s with
        socketDescriptor := fd
        acceptedSocketDescriptor := accepted
        descriptorCalls := .accept fd (some accepted) :: s.descriptorCalls })
    | .error errno =>
      let s := { s with
        socketDescriptor := fd
        acceptedSocketDescriptor := -1
        descriptorCalls := .accept fd none :: s.descriptorCalls }
      if errno = EAGAIN ∨ errno = EWOULDBLOCK then (.ok errno, s)
      else (.error "Connection could not be accepted", s)

def disconnect (s : SinkSocket) : SinkSocket :=
  { s with
    acceptedSocketDescriptor := -1
    descriptorCalls := .close s.acceptedSocketDescriptor :: s.descriptorCalls }

/-- `recv` overwrites the front of the buffer; a longer datagram is cut off. -/
def recv (bytes : List UInt8) (rxBuffer : Vector UInt8 sizeofRxBuffer) :
    Int × Vector UInt8 sizeofRxBuffer :=
  (min bytes.length sizeofRxBuffer, Vector.ofFn fun i => bytes.getD i rxBuffer[i])

/-- `memcpy(packet, rxBuffer, sizeof(PacketClass))`. -/
def translateByteStreamToStructure (rxBuffer : Vector UInt8 sizeofRxBuffer) : SgmProcessData :=
  Vector.ofFn fun i =>
    have h : i.1 < sizeofRxBuffer := Nat.lt_of_lt_of_le i.isLt (by decide)
    rxBuffer[i.1]

/-- `receive(rxPacket)`.  The test `socketDescriptor < 0U` compares unsigned numbers and is never
true. -/
def receive (outcome : RecvOutcome) (s : SinkSocket) (rxPacket : SgmProcessData) :
    Int × SinkSocket × SgmProcessData :=
  match outcome with
  | .error errno => (if errno = EAGAIN ∨ errno = EWOULDBLOCK then errno else 0, s, rxPacket)
  | .datagram bytes =>
    let (rxSize, rxBuffer) := recv bytes s.rxBuffer
    let s := { s with rxBuffer := rxBuffer }
    if rxSize = 0 then (0, s, rxPacket)
    else (rxSize, s, translateByteStreamToStructure s.rxBuffer)

/-- The accepted descriptor, and the calls made on descriptors. -/
def descriptors (s : SinkSocket) : Int × List DescriptorCall :=
  (s.acceptedSocketDescriptor, s.descriptorCalls)

theorem receive_descriptors (outcome : RecvOutcome) (s : SinkSocket) (rxPacket : SgmProcessData) :
    (s.receive outcome rxPacket).2.1.descriptors = s.descriptors := by
  cases outcome with
  | error errno => rfl
  | datagram bytes =>
    by_cases hempty : (recv bytes s.rxBuffer).1 = 0
    · simp only [receive, if_pos hempty, descriptors]
    · simp only [receive, if_neg hempty, descriptors]

/-! ## What `connect()` comes to -/

/-- The search for the listening socket ends without an exception. -/
def Listens (l : Listening) : Prop := ∃ fd, search l = .ok fd

theorem connect_of_not_listens {l : Listening} (h : ¬ Listens l) (s : SinkSocket) :
    (∃ what, (s.connect l).1 = .error what) ∧ (s.connect l).2.descriptors = s.descriptors := by
  cases hfound : search l with
  | ok fd => exact absurd ⟨fd, hfound⟩ h
  | error fd =>
    unfold connect
    simp only [hfound]
    exact ⟨⟨_, rfl⟩, rfl⟩

/-- A connection is accepted. -/
theorem connect_accepted {l : Listening} (h : Listens l) {accepted : ℕ}
    (haccept : l.accept = .ok accepted) (s : SinkSocket) :
    ∃ fd, (s.connect l).1 = .ok l.leftover ∧ (s.connect l).2.descriptors =
      ((accepted : Int), .accept fd (some accepted) :: s.descriptorCalls) := by
  obtain ⟨fd, hfound⟩ := h
  unfold connect
  simp only [hfound, haccept]
  exact ⟨fd, trivial, rfl⟩

/-- No connection is accepted. -/
theorem connect_refused {l : Listening} (h : Listens l) {errno : Int}
    (haccept : l.accept = .error errno) (s : SinkSocket) :
    ∃ fd, ((s.connect l).1 = .ok EAGAIN ∨ ∃ what, (s.connect l).1 = .error what) ∧
      (s.connect l).2.descriptors = (-1, .accept fd none :: s.descriptorCalls) := by
  obtain ⟨fd, hfound⟩ := h
  unfold connect
  simp only [hfound, haccept]
  by_cases hagain : errno = EAGAIN ∨ errno = EWOULDBLOCK
  · rw [if_pos hagain]
    obtain rfl : errno = EAGAIN := hagain.elim id id
    exact ⟨fd, Or.inl rfl, rfl⟩
  · rw [if_neg hagain]
    exact ⟨fd, Or.inr ⟨_, rfl⟩, rfl⟩

end SinkSocket

end SgmDevice
