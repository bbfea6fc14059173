import SgmDevice.Sink.QueueExit

/-!
# The socket on which `connect` accepts

`connect()` waits until `sd_listen_fds` does not return 0, takes the first descriptor for which
`sd_is_socket_unix` does not return 0, and has no `return` behind a successful `accept`.  A negative
count or a negative answer therefore leads to `accept` on a descriptor that was not verified, and a
count close to the largest `int` overflows (`accepts_verified_iff`).
-/

namespace SgmDevice

open Sgm

namespace SinkSocket

/-- The loop that waits for `sd_listen_fds`, from its `n`-th call on. -/
def awaitSockets (sdListenFds : ℕ → Int) : ℕ → ℕ → Option Int
  | 0, _ => none
  | fuel + 1, n =>
    if sdListenFds n = 0 then awaitSockets sdListenFds fuel (n + 1) else some (sdListenFds n)

/-- `processMessageQueue` enters its receive loop: whatever `recv` will find, it does what the loop
does from some state on. -/
def EntersLoop {τ : Type} (P : IMessageProtocol τ) (l : Listening) (s : SgmSink τ) : Prop :=
  ∃ s', ∀ outcomes, SgmSink.processMessageQueue P l outcomes s = SgmSink.receiveLoop P outcomes s'

/-- `accept` is called on a verified descriptor, or an exception is thrown; and the receive loop is
entered if and only if `accept` returned a descriptor. -/
structure AcceptsVerified {τ : Type} (P : IMessageProtocol τ) (l : Listening) (s : SgmSink τ) :
    Prop where
  verified : ((s.itsSinkSocket.connect l).2.descriptorCalls = s.itsSinkSocket.descriptorCalls ∧
      ∃ what, (s.itsSinkSocket.connect l).1 = .error what) ∨
    ∃ fd accepted, (s.itsSinkSocket.connect l).2.descriptorCalls =
        .accept fd accepted :: s.itsSinkSocket.descriptorCalls ∧
      SD_LISTEN_FDS_START ≤ fd ∧ fd < SD_LISTEN_FDS_START + l.sdListenFds ∧
      0 < l.sdIsSocketUnix fd
  received : EntersLoop P l s ↔
    ∃ fd accepted, (s.itsSinkSocket.connect l).2.descriptorCalls =
      .accept fd (some accepted) :: s.itsSinkSocket.descriptorCalls

/-- `connect()` gets out of its waiting loop, and accepts on a verified descriptor whatever comes of
an overflow. -/
def ConnectsVerified {τ : Type} (P : IMessageProtocol τ) (sdListenFds : ℕ → Int) (l : Listening)
    (s : SgmSink τ) : Prop :=
  ∃ fuel socketsCount, awaitSockets sdListenFds fuel 0 = some socketsCount ∧ ∀ straySearch,
    AcceptsVerified P { l with sdListenFds := socketsCount, straySearch := straySearch } s

/-- The first of the passed descriptors for which `sd_is_socket_unix` does not return 0. -/
def FirstMatch (socketsCount : Int) (isUnix : Int → Int) (fd : Int) : Prop :=
  SD_LISTEN_FDS_START ≤ fd ∧ fd < SD_LISTEN_FDS_START + socketsCount ∧ isUnix fd ≠ 0 ∧
    ∀ k, SD_LISTEN_FDS_START ≤ k → k < fd → isUnix k = 0

/-- The first answer of `sd_listen_fds` other than 0 is positive, and the descriptors up to it are
`int`s; the first descriptor with an answer other than 0, if there is one, has a positive answer;
and if `accept` succeeds on it, no `EAGAIN` is left behind. -/
def ProperAnswers (sdListenFds : ℕ → Int) (l : Listening) : Prop :=
  ∃ n, (∀ m < n, sdListenFds m = 0) ∧ 0 < sdListenFds n ∧
    SD_LISTEN_FDS_START + sdListenFds n ≤ INT_MAX ∧
    ∀ fd, FirstMatch (sdListenFds n) l.sdIsSocketUnix fd →
      0 < l.sdIsSocketUnix fd ∧ ((∃ accepted, l.accept = .ok accepted) → l.leftover ≠ EAGAIN)

/-! ## The two loops -/

theorem awaitSockets_eq_some {sdListenFds : ℕ → Int} {fuel n : ℕ} {socketsCount : Int}
    (h : awaitSockets sdListenFds fuel n = some socketsCount) :
    ∃ m, (∀ k, n ≤ k → k < m → sdListenFds k = 0) ∧ sdListenFds m = socketsCount ∧
      socketsCount ≠ 0 := by
  induction fuel generalizing n with
  | zero => cases h
  | succ fuel ih =>
    rw [awaitSockets] at h
    split_ifs at h with hzero
    · obtain ⟨m, hbefore, hm⟩ := ih h
      refine ⟨m, fun k hk hkm => ?_, hm⟩
      rcases Nat.eq_or_lt_of_le hk with rfl | hlt
      · exact hzero
      · exact hbefore k hlt hkm
    · obtain rfl := Option.some.inj h
      exact ⟨n, fun k hk hkn => absurd hkn (not_lt.2 hk), rfl, hzero⟩

theorem awaitSockets_of_ne_zero (sdListenFds : ℕ → Int) (d n : ℕ)
    (before : ∀ k, n ≤ k → k < n + d → sdListenFds k = 0) (h : sdListenFds (n + d) ≠ 0) :
    awaitSockets sdListenFds (d + 1) n = some (sdListenFds (n + d)) := by
  induction d generalizing n with
  | zero => exact if_neg h
  | succ d ih =>
    have hnext : n + 1 + d = n + (d + 1) := by omega
    rw [awaitSockets, if_pos (before n le_rfl (by omega)), ih (n + 1), hnext]
    · exact fun k hk hkd => before k (by omega) (by omega)
    · rwa [hnext]

/-- The search finds the first match, or throws when there is none. -/
theorem findSocket_cases (isUnix : Int → Int) (last : Int) (n : ℕ) (fd : Int)
    (hlast : last = fd + n) :
    (∃ k, findSocket isUnix last (n + 1) fd = .ok k ∧ fd ≤ k ∧ k ≤ last ∧ isUnix k ≠ 0 ∧
        ∀ j, fd ≤ j → j < k → isUnix j = 0) ∨
      (∃ k, findSocket isUnix last (n + 1) fd = .error k) ∧
        ∀ j, fd ≤ j → j ≤ last → isUnix j = 0 := by
  induction n generalizing fd with
  | zero =>
    rw [findSocket]
    split_ifs with hfd hend
    · exact Or.inl ⟨fd, rfl, le_rfl, by omega, hfd, fun j hj hjd => by omega⟩
    · refine Or.inr ⟨⟨fd, rfl⟩, fun j hj hjl => ?_⟩
      obtain rfl : j = fd := by omega
      exact not_not.1 hfd
    · exact absurd hlast.symm (by simpa using hend)
  | succ n ih =>
    rw [findSocket]
    split_ifs with hfd hend
    · exact Or.inl ⟨fd, rfl, le_rfl, by omega, hfd, fun j hj hjd => by omega⟩
    · omega
    · have hzero : ∀ j, fd ≤ j → (fd + 1 ≤ j → isUnix j = 0) → isUnix j = 0 := by
        intro j hj hrest
        by_cases hjd : j = fd
        · rw [hjd]
          exact not_not.1 hfd
        · exact hrest (by omega)
      rcases ih (fd + 1) (by push_cast at hlast; omega) with
        ⟨k, hk, hle, hlastk, hne, hbefore⟩ | ⟨hk, hnone⟩
      · exact Or.inl ⟨k, hk, by omega, hlastk, hne, fun j hj hjk =>
          hzero j hj fun hj' => hbefore j hj' hjk⟩
      · exact Or.inr ⟨hk, fun j hj hjl => hzero j hj fun hj' => hnone j hj' hjl⟩

/-! ## What `connect` does with the descriptor it finds -/

section Found

variable {τ : Type} (P : IMessageProtocol τ) {l : Listening} {fd : Int}

/-- The receive loop is entered behind every result of `connect()` but `EAGAIN`. -/
theorem entersLoop_iff (s : SgmSink τ) :
    EntersLoop P l s ↔ ∃ rc, (s.itsSinkSocket.connect l).1 = .ok rc ∧ rc ≠ EAGAIN := by
  constructor
  · rintro ⟨s', hloop⟩
    -- with nothing to receive the loop waits
    have hwaits : (SgmSink.processMessageQueue P l [] s).1 = .receiving := by
      rw [hloop]
      rfl
    cases hresult : (s.itsSinkSocket.connect l).1 with
    | error what =>
      rw [SgmSink.processMessageQueue_thrown P [] hresult] at hwaits
      cases hwaits
    | ok rc =>
      refine ⟨rc, rfl, ?_⟩
      rintro rfl
      rw [SgmSink.processMessageQueue_again P [] hresult] at hwaits
      cases hwaits
  · rintro ⟨rc, hresult, hne⟩
    exact ⟨_, fun outcomes => SgmSink.processMessageQueue_accepted P l outcomes s hresult hne⟩

theorem connect_found (h : search l = .ok fd) (s : SinkSocket) :
    (s.connect l).2.descriptorCalls = .accept fd l.accept.toOption :: s.descriptorCalls ∧
      ((∃ rc, (s.connect l).1 = .ok rc ∧ rc ≠ EAGAIN) ↔
        (∃ accepted, l.accept = .ok accepted) ∧ l.leftover ≠ EAGAIN) := by
  unfold connect
  simp only [h]
  cases haccept : l.accept with
  | ok accepted =>
    refine ⟨rfl, ?_⟩
    constructor
    · rintro ⟨rc, hrc, hne⟩
      obtain rfl := Except.ok.inj hrc
      exact ⟨⟨accepted, rfl⟩, hne⟩
    · rintro ⟨-, hleftover⟩
      exact ⟨_, rfl, hleftover⟩
  | error errno =>
    have hnone : ¬ ((∃ _ : ℕ, False) ∧ l.leftover ≠ EAGAIN) := fun h => h.1.elim fun _ hok => hok
    dsimp only
    split_ifs with hagain
    · refine ⟨rfl, iff_of_false ?_ hnone⟩
      rintro ⟨rc, hrc, hne⟩
      obtain rfl := Except.ok.inj hrc
      exact hne (hagain.elim id id)
    · refine ⟨rfl, iff_of_false ?_ hnone⟩
      rintro ⟨rc, hrc, -⟩
      cases hrc

/-- On the descriptor that was found, all depends on whether it is one of the passed ones and
verified, and on what a successful `accept` leaves behind. -/
theorem acceptsVerified_found (h : search l = .ok fd) (s : SgmSink τ) :
    AcceptsVerified P l s ↔
      SD_LISTEN_FDS_START ≤ fd ∧ fd < SD_LISTEN_FDS_START + l.sdListenFds ∧
        0 < l.sdIsSocketUnix fd ∧
        ((∃ accepted, l.accept = .ok accepted) → l.leftover ≠ EAGAIN) := by
  obtain ⟨hcalls, hreaches⟩ := connect_found h s.itsSinkSocket
  have haccepted : (∃ fd' accepted, (s.itsSinkSocket.connect l).2.descriptorCalls =
      .accept fd' (some accepted) :: s.itsSinkSocket.descriptorCalls) ↔
        ∃ accepted, l.accept = .ok accepted := by
    rw [hcalls]
    cases l.accept <;> simp [Except.toOption]
  constructor
  · rintro ⟨⟨hsame, -⟩ | ⟨fd', accepted, hcall, hverified⟩, hreceived⟩
    · rw [hcalls] at hsame
      exact absurd (congrArg List.length hsame) (by simp)
    · rw [hcalls] at hcall
      obtain ⟨rfl, -⟩ := DescriptorCall.accept.inj (List.cons.inj hcall).1
      rw [entersLoop_iff, hreaches, haccepted] at hreceived
      exact ⟨hverified.1, hverified.2.1, hverified.2.2, fun hok => (hreceived.2 hok).2⟩
  · rintro ⟨hstart, hend, hunix, hleftover⟩
    refine ⟨Or.inr ⟨fd, _, hcalls, hstart, hend, hunix⟩, ?_⟩
    rw [entersLoop_iff, hreaches, haccepted]
    exact and_iff_left_of_imp hleftover

/-- Without a match `connect` throws, and `accept` is not called. -/
theorem acceptsVerified_not_found (h : search l = .error fd) (s : SgmSink τ) :
    AcceptsVerified P l s := by
  have hconnect : s.itsSinkSocket.connect l =
      (.error "Could not find socket", { s.itsSinkSocket with socketDescriptor := fd }) := by
    unfold connect
    simp only [h]
  refine ⟨Or.inl ⟨by rw [hconnect], _, by rw [hconnect]⟩, iff_of_false ?_ ?_⟩
  · rw [entersLoop_iff, hconnect]
    rintro ⟨rc, hrc, -⟩
    cases hrc
  · rw [hconnect]
    rintro ⟨fd', accepted, hcall⟩
    exact absurd (congrArg List.length hcall) (by simp)

end Found

/-- Two first matches are the same. -/
theorem FirstMatch.unique {socketsCount : Int} {isUnix : Int → Int} {fd fd' : Int}
    (h : FirstMatch socketsCount isUnix fd) (h' : FirstMatch socketsCount isUnix fd') :
    fd = fd' := by
  obtain ⟨hstart, -, hne, hbefore⟩ := h
  obtain ⟨hstart', -, hne', hbefore'⟩ := h'
  rcases Int.lt_trichotomy fd fd' with hlt | heq | hgt
  · exact absurd (hbefore' fd hstart hlt) hne
  · exact heq
  · exact absurd (hbefore fd' hstart' hgt) hne'

/-- Where the sum is an `int`, the count has to be positive and the first match a good one. -/
theorem acceptsVerified_iff {τ : Type} (P : IMessageProtocol τ) {l : Listening}
    (hint : SD_LISTEN_FDS_START + l.sdListenFds ≤ INT_MAX) (s : SgmSink τ) :
    AcceptsVerified P l s ↔
      0 < l.sdListenFds ∧ ∀ fd, FirstMatch l.sdListenFds l.sdIsSocketUnix fd →
        0 < l.sdIsSocketUnix fd ∧
          ((∃ accepted, l.accept = .ok accepted) → l.leftover ≠ EAGAIN) := by
  have hsearch : search l = findSocket l.sdIsSocketUnix (SD_LISTEN_FDS_START + l.sdListenFds - 1)
      l.sdListenFds.toNat SD_LISTEN_FDS_START := if_pos hint
  by_cases hpositive : 0 < l.sdListenFds
  · obtain ⟨n, hn⟩ : ∃ n : ℕ, l.sdListenFds = n + 1 := ⟨(l.sdListenFds - 1).toNat, by omega⟩
    have hnat : l.sdListenFds.toNat = n + 1 := by omega
    rw [hnat] at hsearch
    rcases findSocket_cases l.sdIsSocketUnix (SD_LISTEN_FDS_START + l.sdListenFds - 1) n
      SD_LISTEN_FDS_START (by omega) with
      ⟨k, hfound, hstart, hend, hne, hbefore⟩ | ⟨⟨k, hmissed⟩, hnone⟩
    · have hmatch : FirstMatch l.sdListenFds l.sdIsSocketUnix k :=
        ⟨hstart, by omega, hne, hbefore⟩
      rw [acceptsVerified_found P (hsearch.trans hfound)]
      constructor
      · rintro ⟨-, -, hunix, hleftover⟩
        refine ⟨hpositive, fun fd hfd => ?_⟩
        obtain rfl := hmatch.unique hfd
        exact ⟨hunix, hleftover⟩
      · rintro ⟨-, hgood⟩
        exact ⟨hstart, by omega, hgood k hmatch⟩
    · refine iff_of_true (acceptsVerified_not_found P (hsearch.trans hmissed) s) ⟨hpositive, ?_⟩
      rintro fd ⟨hstart, hend, hne, -⟩
      exact absurd (hnone fd hstart (by omega)) hne
  · rw [Int.toNat_of_nonpos (not_lt.1 hpositive), findSocket] at hsearch
    rw [acceptsVerified_found P hsearch]
    exact iff_of_false (fun h => hpositive (by omega)) fun h => hpositive h.1

/-- After an overflow `accept` may be called on any descriptor. -/
theorem not_acceptsVerified_stray {τ : Type} (P : IMessageProtocol τ) {l : Listening}
    (hint : ¬ SD_LISTEN_FDS_START + l.sdListenFds ≤ INT_MAX) (s : SgmSink τ) :
    ¬ AcceptsVerified P { l with straySearch := .ok (-1) } s := by
  have hsearch : search { l with straySearch := .ok (-1) } = .ok (-1) := if_neg hint
  rw [acceptsVerified_found P hsearch]
  exact fun h => absurd h.1 (by decide)

/-- `connect` accepts on a verified socket and reports what happened if and only if the first answer
of `sd_listen_fds` other than 0 exists, is positive and does not overflow, the first match is a
positive one, and no `EAGAIN` is left behind a successful `accept`. -/
theorem accepts_verified_iff {τ : Type} (P : IMessageProtocol τ) (sdListenFds : ℕ → Int)
    (l : Listening) (s : SgmSink τ) :
    ConnectsVerified P sdListenFds l s ↔ ProperAnswers sdListenFds l := by
  constructor
  · rintro ⟨fuel, socketsCount, hawait, hverified⟩
    obtain ⟨n, hbefore, rfl, -⟩ := awaitSockets_eq_some hawait
    have hint : SD_LISTEN_FDS_START + sdListenFds n ≤ INT_MAX := by
      by_contra hover
      exact not_acceptsVerified_stray P (l := { l with sdListenFds := sdListenFds n }) hover s
        (hverified _)
    obtain ⟨hpositive, hgood⟩ := (acceptsVerified_iff P hint s).1 (hverified l.straySearch)
    exact ⟨n, fun m hm => hbefore m (Nat.zero_le m) hm, hpositive, hint, hgood⟩
  · rintro ⟨n, hbefore, hpositive, hint, hgood⟩
    have hawait : awaitSockets sdListenFds (n + 1) 0 = some (sdListenFds n) := by
      have h := awaitSockets_of_ne_zero sdListenFds n 0
      rw [Nat.zero_add] at h
      exact h (fun k _ hk => hbefore k hk) (by omega)
    exact ⟨n + 1, sdListenFds n, hawait, fun _ =>
      (acceptsVerified_iff P hint s).2 ⟨hpositive, hgood⟩⟩

/-- `sd_listen_fds` fails, and `accept` is called all the same. -/
theorem failed_listen_accepts :
    ¬ ∀ (τ : Type) (P : IMessageProtocol τ) sdListenFds l s,
      ConnectsVerified P sdListenFds l s := by
  intro h
  obtain ⟨fuel, socketsCount, hawait, hverified⟩ := h _ (MqttProtocol.protocol fun _ => {})
    (fun _ => -22) {} { itsSinkProtocol := {}, itsSgmDataPacket := Vector.replicate _ 0 }
  obtain ⟨n, -, rfl, -⟩ := awaitSockets_eq_some hawait
  exact absurd ((acceptsVerified_iff _ (by decide) _).1 (hverified (.ok 3))).1 (by decide)

end SinkSocket

end SgmDevice
