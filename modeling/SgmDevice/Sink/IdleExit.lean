import SgmDevice.Sink.QueueExit

/-!
# The end of the sink's loop

`operator()` ticks until the counter of idle rounds reaches its limit.  A connection that was
processed to its end has reset the counter before the same tick increments it, so that this tick
counts as an idle one.  When the loop ends, the sink was idle for the whole limit exactly when
what it did last was to enter `LISTENING_CONNECTED` or to leave a queue by an exception
(`idle_exit_iff`).
-/

namespace SgmDevice

open Sgm Concurrency

namespace SgmSink

def MaxListenIterationsCount : ℕ := 5

variable {τ : Type} (P : IMessageProtocol τ)

/-- The loop of `operator()`. -/
def operatorLoop : System (SgmSink τ) TickWorld where
  step s w :=
    if s.listenIterationsCount < MaxListenIterationsCount then (ticks P).step s w else none

/-! ## Kinds of ticks -/

section Kinds

variable (t : Taken (SgmSink τ) TickWorld)

/-- A tick in `LISTENING_CONNECTED` that completes without an exception. -/
def Completed : Prop :=
  t.before.itsCurrentState = .listeningConnected ∧
    (processMessageQueue P t.act.listening t.act.outcomes t.before).1 = .returned

instance : Decidable (Completed P t) := inferInstanceAs (Decidable (_ ∧ _))

/-- `accept` finds no awaiting connection. -/
def NoneAwaiting : Prop :=
  SinkSocket.Listens t.act.listening ∧ t.act.listening.accept = .error EAGAIN

/-- The tick accepts a connection. -/
def Accepts : Prop :=
  CallsAccept t.before t.act ∧ ∃ accepted, t.act.listening.accept = .ok accepted

/-- The tick enters `LISTENING_CONNECTED`. -/
def Enters : Prop :=
  t.before.itsCurrentState ≠ .listeningConnected ∧
    t.after.itsCurrentState = .listeningConnected

/-- The queue of the connection is entered, and left by an exception. -/
def Throws : Prop :=
  t.act.listening.leftover ≠ EAGAIN ∧ Breaks P t.act.outcomes t.before.itsSinkProtocol

end Kinds

/-- The last `MaxListenIterationsCount` completed ticks found no awaiting connection, and since the
first of them nothing was accepted and `LISTENING_CONNECTED` not entered. -/
def IdleAtTheEnd (run : List (Taken (SgmSink τ) TickWorld)) : Prop :=
  ∃ before first rest, run = before ++ first :: rest ∧ Completed P first ∧
    (first :: rest).countP (Completed P ·) = MaxListenIterationsCount ∧
    ∀ t ∈ first :: rest, (Completed P t → NoneAwaiting t) ∧ ¬ Accepts t ∧ ¬ Enters t

/-- The last tick that entered `LISTENING_CONNECTED` or accepted a connection did not process a
queue to its end. -/
def QuietSince (run : List (Taken (SgmSink τ) TickWorld)) : Prop :=
  ∃ before start rest, run = before ++ start :: rest ∧
    (Enters start ∨ Accepts start ∧ Throws P start) ∧ ∀ t ∈ rest, ¬ Accepts t ∧ ¬ Enters t

/-! ## A tick in `LISTENING_CONNECTED` -/

/-- `connect()` reports `EAGAIN` or throws when `accept` fails. -/
theorem connect_error {l : Listening} (listens : SinkSocket.Listens l) {errno : Int}
    (haccept : l.accept = .error errno) (s : SinkSocket) :
    (errno = EAGAIN ∧ (s.connect l).1 = .ok EAGAIN) ∨
      errno ≠ EAGAIN ∧ ∃ what, (s.connect l).1 = .error what := by
  obtain ⟨fd, hfound⟩ := listens
  unfold SinkSocket.connect
  simp only [hfound, haccept]
  by_cases hagain : errno = EAGAIN
  · rw [if_pos (Or.inl hagain), hagain]
    exact Or.inl ⟨rfl, rfl⟩
  · rw [if_neg fun h => hagain (h.elim id id)]
    exact Or.inr ⟨hagain, _, rfl⟩

/-- An exception of `connect()` changes the socket only. -/
theorem tick_thrown {s : SgmSink τ} {w : TickWorld}
    (listening : s.itsCurrentState = .listeningConnected)
    (h : ∃ what, (s.itsSinkSocket.connect w.listening).1 = .error what) :
    ¬ Completed P ⟨s, w, tick P w s⟩ ∧
      tick P w s = { s with itsSinkSocket := (s.itsSinkSocket.connect w.listening).2 } := by
  obtain ⟨what, hwhat⟩ := h
  have hqueue := processMessageQueue_thrown P w.outcomes hwhat
  refine ⟨?_, by rw [tick_listening listening, hqueue]; rfl⟩
  rintro ⟨-, hexit⟩
  rw [hqueue] at hexit
  cases hexit

/-- A tick in which `connect()` reports `EAGAIN` is counted. -/
theorem tick_again {s : SgmSink τ} {w : TickWorld}
    (listening : s.itsCurrentState = .listeningConnected)
    (h : (s.itsSinkSocket.connect w.listening).1 = .ok EAGAIN) :
    Completed P ⟨s, w, tick P w s⟩ ∧
      tick P w s = { s with
        itsSinkSocket := (s.itsSinkSocket.connect w.listening).2
        listenIterationsCount := s.listenIterationsCount + 1 } := by
  have hqueue := processMessageQueue_again P w.outcomes h
  exact ⟨⟨listening, congrArg Prod.fst hqueue⟩, by rw [tick_listening listening, hqueue]; rfl⟩

/-- A tick that accepts nothing stays in its state; it is counted if it completes, and then it has
found no awaiting connection. -/
theorem tick_accepts_none {s : SgmSink τ} {w : TickWorld}
    (listening : s.itsCurrentState = .listeningConnected)
    (h : ¬ Accepts ⟨s, w, tick P w s⟩) :
    (tick P w s).itsCurrentState = .listeningConnected ∧
      (Completed P ⟨s, w, tick P w s⟩ → NoneAwaiting ⟨s, w, tick P w s⟩) ∧
      (tick P w s).listenIterationsCount =
        s.listenIterationsCount + if Completed P ⟨s, w, tick P w s⟩ then 1 else 0 := by
  by_cases hwhat : ∃ what, (s.itsSinkSocket.connect w.listening).1 = .error what
  · obtain ⟨hcompleted, htick⟩ := tick_thrown P listening hwhat
    rw [if_neg hcompleted, htick]
    exact ⟨listening, fun hc => absurd hc hcompleted, rfl⟩
  · have listens : SinkSocket.Listens w.listening := by
      by_contra hnone
      exact hwhat (SinkSocket.connect_of_not_listens hnone s.itsSinkSocket).1
    cases haccept : w.listening.accept with
    | ok accepted => exact absurd ⟨⟨listening, listens⟩, accepted, haccept⟩ h
    | error errno =>
      obtain ⟨rfl, hagain⟩ := (connect_error listens haccept s.itsSinkSocket).resolve_right
        fun hthrown => hwhat hthrown.2
      obtain ⟨hcompleted, htick⟩ := tick_again P listening hagain
      rw [if_pos hcompleted, htick]
      exact ⟨listening, fun _ => ⟨listens, haccept⟩, rfl⟩

/-- Behind a queue that was entered, the counter says whether it was left by an exception. -/
theorem listened_count {q : Exit × SgmSink τ} (zero : q.2.listenIterationsCount = 0)
    (listening : q.2.itsCurrentState = .listeningConnected) (ended : q.1 ≠ .receiving) :
    (q.1 ≠ .returned → (listened P q).listenIterationsCount = 0) ∧
      (q.1 = .returned → (listened P q).itsCurrentState = .listeningConnected ∧
        (listened P q).listenIterationsCount = 1) := by
  obtain ⟨exit, s⟩ := q
  cases exit with
  | receiving => exact absurd rfl ended
  | returned => exact ⟨fun h => absurd rfl h, fun _ => ⟨listening, congrArg (· + 1) zero⟩⟩
  | sendingException => exact ⟨fun _ => rfl, fun h => by cases h⟩
  | runtimeError what => exact ⟨fun _ => zero, fun h => by cases h⟩

/-- A tick that accepts starts the count again at 0 if the queue throws; otherwise it is counted. -/
theorem tick_accepts {s : SgmSink τ} {w : TickWorld}
    (ended : (processMessageQueue P w.listening w.outcomes s).1 ≠ .receiving)
    (h : Accepts ⟨s, w, tick P w s⟩) :
    (Throws P ⟨s, w, tick P w s⟩ → (tick P w s).listenIterationsCount = 0) ∧
      (¬ Throws P ⟨s, w, tick P w s⟩ →
        (tick P w s).itsCurrentState = .listeningConnected ∧
        0 < (tick P w s).listenIterationsCount ∧
        (tick P w s).listenIterationsCount ≤ s.listenIterationsCount + 1) := by
  obtain ⟨⟨listening, listens⟩, accepted, haccept⟩ := h
  by_cases hleftover : w.listening.leftover = EAGAIN
  · obtain ⟨fd, hresult, -⟩ := SinkSocket.connect_accepted listens haccept s.itsSinkSocket
    rw [hleftover] at hresult
    rw [(tick_again P listening hresult).2]
    exact ⟨fun h => absurd hleftover h.1, fun _ => ⟨listening, Nat.succ_pos _, le_rfl⟩⟩
  · have hqueue := processMessageQueue_entered P listens haccept hleftover w.outcomes s
    have hkeeps := receiveLoop_keeps P w.outcomes { s with
      itsSinkSocket := (s.itsSinkSocket.connect w.listening).2
      listenIterationsCount := 0 }
    rw [hqueue] at ended
    have hreturned := returned_iff_not_breaks P ended
    obtain ⟨hthrown, hcounted⟩ := listened_count P hkeeps.2 (hkeeps.1.trans listening) ended
    rw [tick_listening listening, hqueue]
    refine ⟨fun h => hthrown (mt hreturned.1 (not_not.2 h.2)), fun h => ?_⟩
    obtain ⟨hstate, hone⟩ := hcounted (hreturned.2 fun hbreaks => h ⟨hleftover, hbreaks⟩)
    rw [hone]
    exact ⟨hstate, Nat.one_pos, Nat.le_add_left _ _⟩

/-! ## The count of a run -/

/-- What the counter says about a run: outside `LISTENING_CONNECTED` nothing; in it the completed
ticks since the last tick that entered it or accepted, and one more if that one processed a queue
to its end. -/
def Counted (run : List (Taken (SgmSink τ) TickWorld)) (s : SgmSink τ) : Prop :=
  s.listenIterationsCount ≤ MaxListenIterationsCount ∧
    ((s.itsCurrentState = .noConnection ∨ s.itsCurrentState = .connected) ∧
        s.listenIterationsCount = 0 ∨
      s.itsCurrentState = .listeningConnected ∧
        ∃ before start rest, run = before ++ start :: rest ∧ (Enters start ∨ Accepts start) ∧
          (∀ t ∈ rest, (Completed P t → NoneAwaiting t) ∧ ¬ Accepts t ∧ ¬ Enters t) ∧
          ∃ c, (c = 0 ↔ Enters start ∨ Accepts start ∧ Throws P start) ∧
            s.listenIterationsCount = c + rest.countP (Completed P ·))

/-- A tick that enters `LISTENING_CONNECTED`, or stays outside it. -/
theorem tick_outside {s : SgmSink τ} (w : TickWorld)
    (h : s.itsCurrentState = .noConnection ∨ s.itsCurrentState = .connected)
    (zero : s.listenIterationsCount = 0) :
    (tick P w s).listenIterationsCount = 0 ∧
      ((tick P w s).itsCurrentState = .noConnection ∨ (tick P w s).itsCurrentState = .connected ∨
        Enters ⟨s, w, tick P w s⟩) := by
  rcases h with hstate | hstate
  · rw [tick_noConnection hstate]
    split_ifs
    · exact ⟨zero, Or.inr (Or.inl rfl)⟩
    · exact ⟨zero, Or.inl hstate⟩
  · unfold Enters
    rw [tick_connected hstate]
    split_ifs
    · exact ⟨rfl, Or.inr (Or.inr ⟨by simp [hstate], rfl⟩)⟩
    · exact ⟨zero, Or.inr (Or.inl hstate)⟩

theorem Counted.step {run : List (Taken (SgmSink τ) TickWorld)} {s s' : SgmSink τ} {w : TickWorld}
    (h : Counted P run s) (hs : (operatorLoop P).step s w = some s') :
    Counted P (run ++ [⟨s, w, s'⟩]) s' := by
  obtain ⟨hlimit, hticks⟩ := Option.ite_none_right_eq_some.1 hs
  obtain ⟨ended, rfl⟩ := ticks_eq_some P hticks
  have hnone : ∀ t ∈ ([] : List (Taken (SgmSink τ) TickWorld)),
      (Completed P t → NoneAwaiting t) ∧ ¬ Accepts t ∧ ¬ Enters t := List.forall_mem_nil _
  obtain ⟨hle, ⟨houtside, hzero⟩ | ⟨listening, before, start, rest, rfl, hstart, hrest, c, hc,
    hcount⟩⟩ := h
  · obtain ⟨hcount, hstate⟩ := tick_outside P w houtside hzero
    refine ⟨hcount.trans_le (Nat.zero_le _), ?_⟩
    rcases hstate with hstate | hstate | henters
    · exact Or.inl ⟨Or.inl hstate, hcount⟩
    · exact Or.inl ⟨Or.inr hstate, hcount⟩
    · exact Or.inr ⟨henters.2, run, _, [], rfl, Or.inl henters, hnone, 0,
        iff_of_true rfl (Or.inl henters), hcount⟩
  · have henters : ¬ Enters ⟨s, w, tick P w s⟩ := fun henters => henters.1 listening
    by_cases haccepts : Accepts ⟨s, w, tick P w s⟩
    · obtain ⟨hthrown, hcounted⟩ := tick_accepts P (ended listening) haccepts
      by_cases hthrows : Throws P ⟨s, w, tick P w s⟩
      · have hzero := hthrown hthrows
        refine ⟨hzero.trans_le (Nat.zero_le _), ?_⟩
        rcases tick_listening_cases P (w := w) listening with hstate | ⟨hstate, -⟩
        · exact Or.inr ⟨hstate, _, _, [], rfl, Or.inr haccepts, hnone, 0,
            iff_of_true rfl (Or.inr ⟨haccepts, hthrows⟩), hzero⟩
        · exact Or.inl ⟨Or.inl hstate, hzero⟩
      · obtain ⟨hstate, hpositive, hbound⟩ := hcounted hthrows
        refine ⟨by omega, Or.inr ⟨hstate, _, _, [], rfl, Or.inr haccepts, hnone,
          (tick P w s).listenIterationsCount, ?_, rfl⟩⟩
        exact iff_of_false (by omega) fun h => h.elim henters fun h => hthrows h.2
    · obtain ⟨hstate, hawaits, hstep⟩ := tick_accepts_none P listening haccepts
      have hbound : (if Completed P ⟨s, w, tick P w s⟩ then 1 else 0) ≤ 1 := by split_ifs <;> omega
      refine ⟨by omega, Or.inr ⟨hstate, before, start, rest ++ [⟨s, w, tick P w s⟩], ?_, hstart,
        ?_, c, hc, ?_⟩⟩
      · simp
      · exact List.forall_mem_append.2 ⟨hrest, List.forall_mem_singleton.2
          ⟨hawaits, haccepts, henters⟩⟩
      · rw [hstep, hcount, List.countP_append, List.countP_singleton, Nat.add_assoc]
        simp only [decide_eq_true_eq]

/-! ## The end of the loop -/

/-- The last element of a kind comes before every suffix without that kind. -/
theorem suffix_of_last {α : Type} {E : α → Prop} {run ys zs : List α} {x : α}
    (h : x :: ys <:+ run) (hz : zs <:+ run) (hx : E x) (hzs : ∀ z ∈ zs, ¬ E z) : zs <:+ ys := by
  have hnot : ¬ x :: ys <:+ zs := fun hs => hzs x (hs.subset List.mem_cons_self) hx
  rcases List.suffix_cons_iff.1 ((List.suffix_or_suffix_of_suffix hz h).resolve_right hnot) with
    heq | hsuffix
  · exact absurd ⟨[], heq.symm⟩ hnot
  · exact hsuffix

/-- Ticks among which some complete, cut off before the first of these. -/
theorem exists_first_completed {rest : List (Taken (SgmSink τ) TickWorld)}
    (h : 0 < rest.countP (Completed P ·)) :
    ∃ before first after, rest = before ++ first :: after ∧ Completed P first ∧
      (first :: after).countP (Completed P ·) = rest.countP (Completed P ·) := by
  induction rest with
  | nil => exact absurd h (Nat.lt_irrefl 0)
  | cons t rest ih =>
    by_cases hcompleted : Completed P t
    · exact ⟨[], t, rest, rfl, hcompleted, rfl⟩
    · rw [List.countP_cons_of_neg (by simpa using hcompleted)] at h ⊢
      obtain ⟨before, first, after, rfl, hfirst, hcount⟩ := ih h
      exact ⟨t :: before, first, after, rfl, hfirst, hcount⟩

theorem idle_iff_quiet {run : List (Taken (SgmSink τ) TickWorld)} {s : SgmSink τ}
    (h : Counted P run s) (ended : MaxListenIterationsCount ≤ s.listenIterationsCount) :
    IdleAtTheEnd P run ↔ QuietSince P run := by
  obtain ⟨hle, ⟨-, hzero⟩ | ⟨-, before, start, rest, rfl, hstart, hrest, c, hc, hcount⟩⟩ := h
  · rw [hzero] at ended
    exact absurd ended (by decide)
  have hquiet : ∀ t ∈ rest, ¬ (Enters t ∨ Accepts t) := fun t ht =>
    not_or.2 ⟨(hrest t ht).2.2, (hrest t ht).2.1⟩
  constructor
  · rintro ⟨before', first, after, hsplit, -, hfive, hidle⟩
    refine ⟨before, start, rest, rfl, hc.1 ?_, fun t ht => (hrest t ht).2⟩
    -- the idle ticks all come behind the last start
    obtain ⟨between, rfl⟩ := suffix_of_last ⟨before, rfl⟩ ⟨before', hsplit.symm⟩ hstart
      fun t ht => not_or.2 ⟨(hidle t ht).2.2, (hidle t ht).2.1⟩
    rw [List.countP_append, hfive] at hcount
    omega
  · rintro ⟨before', start', rest', hsplit, hkind, hquiet'⟩
    have hrest' : rest' <:+ before ++ start :: rest := by
      rw [hsplit, List.append_cons]
      exact List.suffix_append _ _
    have hsuffix := suffix_of_last ⟨before, rfl⟩ hrest' hstart fun t ht =>
      not_or.2 ⟨(hquiet' t ht).2, (hquiet' t ht).1⟩
    have hsuffix' := suffix_of_last ⟨before', hsplit.symm⟩ ⟨before ++ [start],
      by rw [← List.append_cons]⟩ (hkind.imp_right And.left) hquiet
    obtain rfl := hsuffix.eq_of_length_le hsuffix'.length_le
    obtain rfl := (List.cons.inj (List.append_inj_right' hsplit rfl)).1
    have hfive : rest'.countP (Completed P ·) = MaxListenIterationsCount := by
      have hzero := hc.2 hkind
      omega
    obtain ⟨between, first, after, rfl, hfirst, hsame⟩ := exists_first_completed P
      (h := by rw [hfive]; decide)
    refine ⟨before ++ start :: between, first, after, by simp, hfirst, hsame.trans hfive, ?_⟩
    exact fun t ht => hrest t (List.mem_append_right _ ht)

/-- When the loop ends, the sink was idle for `MaxListenIterationsCount` completed ticks in a row if
and only if the last tick that entered `LISTENING_CONNECTED` or accepted a connection did not
process a queue to its end. -/
theorem idle_exit_iff (t : τ) (packet : SgmProcessData) (acts : List TickWorld)
    (ended : MaxListenIterationsCount ≤ ((operatorLoop P).final
      { itsSinkProtocol := t, itsSgmDataPacket := packet } acts).listenIterationsCount) :
    IdleAtTheEnd P
        ((operatorLoop P).path { itsSinkProtocol := t, itsSgmDataPacket := packet } acts) ↔
      QuietSince P
        ((operatorLoop P).path { itsSinkProtocol := t, itsSgmDataPacket := packet } acts) := by
  have init : Counted P [] { itsSinkProtocol := t, itsSgmDataPacket := packet } :=
    ⟨Nat.zero_le _, Or.inl ⟨Or.inl rfl, rfl⟩⟩
  exact idle_iff_quiet P (System.path_final_induction (I := Counted P)
    (fun _ _ _ _ h hs => h.step P hs) init acts) ended

/-- No connection is awaiting. -/
def idleTick : TickWorld := { listening := { accept := .error EAGAIN } }

/-- The sink connects, and nothing comes. -/
def idleTicks : List TickWorld := [{}, {}, idleTick, idleTick, idleTick, idleTick, idleTick]

theorem idle_exit_idleTicks :
    IdleAtTheEnd (MqttProtocol.protocol fun _ => {})
      ((operatorLoop (MqttProtocol.protocol fun _ => {})).path
        { itsSinkProtocol := {}, itsSgmDataPacket := Vector.replicate _ 0 } idleTicks) := by
  refine (idle_exit_iff (MqttProtocol.protocol fun _ => {}) {} (Vector.replicate _ 0) idleTicks
    (by decide)).2 ⟨[_], _, [_, _, _, _, _], rfl, Or.inl ⟨by decide, rfl⟩, ?_⟩
  have hidle : ∀ s s' : SgmSink MqttProtocol, s.itsCurrentState = .listeningConnected →
      ¬ Accepts ⟨s, idleTick, s'⟩ ∧ ¬ Enters ⟨s, idleTick, s'⟩ := by
    refine fun s s' listening => ⟨?_, fun henters => henters.1 listening⟩
    rintro ⟨-, accepted, haccept⟩
    cases haccept
  simp only [List.forall_mem_cons]
  exact ⟨hidle _ _ rfl, hidle _ _ rfl, hidle _ _ rfl, hidle _ _ rfl, hidle _ _ rfl,
    List.forall_mem_nil _⟩

/-- A connection comes, whose peer closes it at once, and nothing more. -/
def busyTicks : List TickWorld :=
  [{}, {}, { outcomes := [.datagram []] }, idleTick, idleTick, idleTick, idleTick]

theorem busy_tick_counts_as_idle :
    ¬ ∀ (τ : Type) (P : IMessageProtocol τ) (t : τ) (packet : SgmProcessData)
      (acts : List TickWorld), MaxListenIterationsCount ≤ ((operatorLoop P).final
        { itsSinkProtocol := t, itsSgmDataPacket := packet } acts).listenIterationsCount →
      IdleAtTheEnd P
        ((operatorLoop P).path { itsSinkProtocol := t, itsSgmDataPacket := packet } acts) := by
  intro h
  let P := MqttProtocol.protocol fun _ => {}
  let run := (operatorLoop P).path
    { itsSinkProtocol := {}, itsSgmDataPacket := Vector.replicate _ 0 } busyTicks
  have hbusy : ∃ t ∈ run, Completed P t ∧ Accepts t :=
    ⟨_, .tail _ (.tail _ (.head _)), ⟨rfl, by decide⟩, ⟨rfl, 3, rfl⟩, 4, rfl⟩
  have hall : run.countP (Completed P ·) = MaxListenIterationsCount := by decide
  obtain ⟨before, first, rest, hsplit, -, hfive, hidle⟩ :=
    h _ P {} (Vector.replicate _ 0) busyTicks (by decide)
  obtain ⟨busy, hmem, hcompleted, haccepts⟩ := hbusy
  rw [show run = _ from hsplit] at hmem hall
  rcases List.mem_append.1 hmem with hbefore | htail
  · have hpositive : 0 < before.countP (Completed P ·) :=
      List.countP_pos_iff.2 ⟨busy, hbefore, decide_eq_true hcompleted⟩
    rw [List.countP_append, hfive] at hall
    omega
  · exact (hidle busy htail).2.1 haccepts

end SgmSink

end SgmDevice
