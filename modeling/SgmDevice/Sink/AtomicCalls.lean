import SgmDevice.Sink.MqttThreads

/-!
# The calls of a `MqttProtocol` are atomic

The sink keeps the buffers and the flag of the client for itself, and shares `isNetworkReady` and
the publications with the monitor under `itsEventMutex`.  A call that has given the mutex back only
returns, so the calls act as if each of them ran alone (`calls_atomic`), and whenever the mutex is
free, what it guards agrees with the calls that have taken effect (`guarded_data`).
-/

namespace SgmDevice

open Sgm Concurrency

namespace MqttThreads

open MqttProtocol (World Publish PublishResult MQTTCLIENT_SUCCESS NamesKept contents publication)

/-! ## The rules of the mutex -/

def locking : Locking threads Unit where
  use := Op.mutexUse
  own := Shared.owner
  Idles _ := False
  guards
    | .isNetworkReady | .setNetworkReady _ | .publishMessage _ => {()}
    | _ => ∅
  exec_own t o w s r s' h := by
    obtain ⟨owner, huse, hs⟩ := Option.map_eq_some_iff.1 h
    cases hs
    exact huse
  exec_isSome t o s _ huse := by
    refine ⟨{}, ?_⟩
    change (Option.map _ _).isSome
    rwa [Option.isSome_map]
  env_own e := e.elim

/-- The statements of a thread. -/
def Thread.Uses : Thread → Op → Prop
  | .sink, _ => True
  | .monitor, .lock | .monitor, .unlock | .monitor, .setNetworkReady _ | .monitor, .returns => True
  | .monitor, _ => False

section Rules

-- what a method does with the mutex, statement by statement
attribute [local simp] Call.code Call.method Program.perform Locking.safe_op_iff locking
  Op.mutexUse MutexUse.InOrder MutexUse.move

theorem code_ordered (t : Thread) (call : Call) : call.code.Safe (locking.contract t) ∅ := by
  cases call with
  | onNetworkStatusChange status => cases status <;> simp [onNetworkStatusChange]
  | sendMessage dataToSend => simp [sendMessage]
  | connect => simp [connect, clientConnect]
  | disconnect => simp [disconnect]
  | yield => simp [yield]

theorem ordered : locking.Ordered := by
  rintro t x d p hcalled
  cases hcalled
  exact code_ordered t (t.call d)

end Rules

/-! ## What the mutex guards -/

/-- What the sink keeps for itself. -/
def hidden (p : MqttProtocol) : MqttProtocol := { p with isNetworkReady := false, published := [] }

/-- What the mutex guards. -/
def guardedPart (p : MqttProtocol) : Bool × List Publish := (p.isNetworkReady, p.published)

@[reducible] def Thread.Own : Thread → Type
  | .sink => MqttProtocol
  | .monitor => Unit

def Thread.own : (t : Thread) → MqttProtocol → t.Own
  | .sink, p => hidden p
  | .monitor, _ => ()

/-- The data as a thread sees them. -/
def Thread.sees : (t : Thread) → t.Own × Bool × List Publish → MqttProtocol
  | .sink, (p, isNetworkReady, published) => { p with isNetworkReady, published }
  | .monitor, (_, isNetworkReady, published) => { isNetworkReady, published }

theorem sees_sink (p : MqttProtocol) : Thread.sink.sees (hidden p, guardedPart p) = p := rfl

theorem exec_unguarded {o : Op} (h : locking.guards o = ∅) (t : Thread) (w : World) (x : t.Own)
    (y y' : Bool × List Publish) :
    ((o.exec w (t.sees (x, y))).1, t.own (o.exec w (t.sees (x, y))).2,
      guardedPart (o.exec w (t.sees (x, y))).2) =
    ((o.exec w (t.sees (x, y'))).1, t.own (o.exec w (t.sees (x, y'))).2, y) := by
  have hguarded : ({()} : Finset Unit) ≠ ∅ := by decide
  cases o with
  | isNetworkReady => exact absurd h hguarded
  | setNetworkReady b => exact absurd h hguarded
  | publishMessage messageSize => exact absurd h hguarded
  | prepareTopic data =>
    simp only [Op.exec, MqttProtocol.prepareTopic]
    cases t <;> cases MqttProtocol.findMapper data <;> rfl
  | _ => cases t <;> rfl

def guarded : Guarded locking Thread.Own (Bool × List Publish) where
  Uses := Thread.Uses
  own t s := t.own s.data
  rest s := guardedPart s.data
  act t o w v :=
    let (res, p) := o.exec w (t.sees v)
    (res, t.own p, guardedPart p)
  exec_act {t o w s r s'} uses h := by
    obtain ⟨owner, huse, hs⟩ := Option.map_eq_some_iff.1 h
    cases hs
    cases t with
    | sink => rfl
    | monitor => cases o <;> first | exact absurd uses id | rfl
  exec_other {t o w s r s'} uses h j hne := by
    obtain ⟨owner, huse, hs⟩ := Option.map_eq_some_iff.1 h
    cases hs
    cases j with
    | monitor => rfl
    | sink =>
      cases t with
      | sink => exact absurd rfl hne
      | monitor => cases o <;> first | exact absurd uses id | rfl
  act_free h w x := ⟨_, _, fun y => exec_unguarded h _ w x y (false, [])⟩
  env_own {e} := e.elim
  env_rest {e} := e.elim
  silent := silent
  act_silent {o r} h t w s y := by
    cases o with
    | returns => cases t <;> rfl
    | _ => cases h
  use_silent {o r} h := by
    cases o with
    | returns => rfl
    | _ => cases h

section Settles

attribute [local simp] Call.code Call.method Program.perform Guarded.Settles guarded Thread.Uses
  silent locking Op.mutexUse

theorem code_settles (t : Thread) (d : t.Ask) : guarded.Settles t (t.call d).code := by
  cases t with
  | monitor => cases d <;> simp [Thread.call, onNetworkStatusChange]
  | sink =>
    cases d with
    | onNetworkStatusChange status => cases status <;> simp [Thread.call, onNetworkStatusChange]
    | sendMessage dataToSend => simp [Thread.call, sendMessage]
    | connect => simp [Thread.call, connect, clientConnect, Guarded.settles_ite]
    | disconnect => simp [Thread.call, disconnect]
    | yield => simp [Thread.call, yield]

end Settles

/-! ## A call that runs alone -/

/-- A program of the sink, with what the library answers to each statement. -/
def Runs {α : Type} : Program Op Op.Res α → MqttProtocol → α → MqttProtocol → Prop
  | .ret a, p, b, p' => a = b ∧ p = p'
  | .op o k, p, b, p' => ∃ w, Runs (k (o.exec w p).1) (o.exec w p).2 b p'

theorem runs_of_alone {α : Type} {program : Program Op Op.Res α} {p : MqttProtocol} {b : α}
    {v : MqttProtocol × Bool × List Publish}
    (h : guarded.Alone .sink program (hidden p, guardedPart p) b v) :
    ∃ p', Runs program p b p' ∧ v = (hidden p', guardedPart p') := by
  induction program generalizing p with
  | ret a =>
    obtain ⟨rfl, rfl⟩ := h
    exact ⟨p, ⟨rfl, rfl⟩, rfl⟩
  | op o k ih =>
    obtain ⟨w, h⟩ := h
    obtain ⟨p', hruns, rfl⟩ := ih _ h
    exact ⟨p', ⟨w, hruns⟩, rfl⟩

theorem runs_bind {α β : Type} {program : Program Op Op.Res α} {f : α → Program Op Op.Res β}
    {p p' : MqttProtocol} {b : β} (h : Runs (program >>= f) p b p') :
    ∃ a q, Runs program p a q ∧ Runs (f a) q b p' := by
  induction program generalizing p with
  | ret a => exact ⟨a, p, ⟨rfl, rfl⟩, h⟩
  | op o k ih =>
    obtain ⟨w, h⟩ := h
    obtain ⟨a, q, hprogram, hrest⟩ := ih _ h
    exact ⟨a, q, ⟨w, hprogram⟩, hrest⟩

/-- The return of a call changes nothing. -/
theorem runs_of_code {call : Call} {p p' : MqttProtocol} {b : Option Returned}
    (h : Runs call.code p b p') : ∃ res, Runs call.method p res p' ∧ b = some ⟨call, res⟩ := by
  obtain ⟨res, q, hmethod, w, rfl, rfl⟩ := runs_bind h
  exact ⟨res, hmethod, rfl⟩

theorem connect_of_runs {p p' : MqttProtocol} {res : Bool} (h : Runs connect p res p') :
    ∃ w, res = (MqttProtocol.connect w p).1 ∧ p' = (MqttProtocol.connect w p).2 := by
  simp only [connect, clientConnect, Program.perform, Program.op_bind, Program.ret_bind,
    Program.ite_bind, Program.pure_eq, reduceCtorEq, if_true, if_false] at h
  obtain ⟨_, h⟩ := h
  change Runs (if p.isConnected = true then _ else _) p res p' at h
  unfold MqttProtocol.connect
  split_ifs at h with hflag
  · obtain ⟨w, rfl, rfl⟩ := h
    exact ⟨w, by rw [if_pos hflag]; exact ⟨rfl, rfl⟩⟩
  · obtain ⟨w, h⟩ := h
    change Runs (if w.connect ≠ MQTTCLIENT_SUCCESS then _ else _) p res p' at h
    split_ifs at h with hrc
    · obtain ⟨rfl, rfl⟩ := h
      exact ⟨w, by rw [if_neg hflag, if_pos hrc]; exact ⟨rfl, rfl⟩⟩
    · obtain ⟨_, w', rfl, rfl⟩ := h
      refine ⟨{ w' with connect := w.connect }, ?_⟩
      rw [if_neg hflag, if_neg hrc]
      exact ⟨rfl, rfl⟩

theorem sendMessage_of_runs {dataToSend : SgmProcessData} {p p' : MqttProtocol}
    {res : IMessageProtocol.Result} (h : Runs (sendMessage dataToSend) p res p') :
    ∃ w, res = (MqttProtocol.sendMessage w dataToSend p).1 ∧
      p' = (MqttProtocol.sendMessage w dataToSend p).2 := by
  simp only [sendMessage, Program.perform, Program.op_bind, Program.ret_bind, Program.pure_eq] at h
  obtain ⟨w₀, h⟩ := h
  change Runs (if (!(MqttProtocol.prepareTopic dataToSend p).1) = true then _ else _)
    (MqttProtocol.prepareTopic dataToSend p).2 res p' at h
  unfold MqttProtocol.sendMessage
  generalize MqttProtocol.prepareTopic dataToSend p = found at h ⊢
  obtain ⟨_ | _, q⟩ := found
  · obtain ⟨rfl, rfl⟩ := h
    exact ⟨w₀, rfl, rfl⟩
  · obtain ⟨_, _, w, h⟩ := h
    change Runs (if (!w.isClientConnected) = true then _ else _)
      (MqttProtocol.prepareMessage dataToSend q).2 res p' at h
    cases hconnected : w.isClientConnected with
    | false =>
      rw [hconnected] at h
      obtain ⟨_, rfl, rfl⟩ := h
      refine ⟨w, ?_⟩
      simp only [hconnected]
      exact ⟨rfl, rfl⟩
    | true =>
      rw [hconnected] at h
      obtain ⟨_, h⟩ := h
      change Runs (if q.isNetworkReady = true then _ else _)
        (MqttProtocol.prepareMessage dataToSend q).2 res p' at h
      have hready : (MqttProtocol.prepareMessage dataToSend q).2.isNetworkReady =
        q.isNetworkReady := rfl
      cases hnetwork : q.isNetworkReady with
      | false =>
        rw [hnetwork] at h
        obtain ⟨_, rfl, rfl⟩ := h
        refine ⟨w, ?_⟩
        simp only [hconnected, hready, hnetwork]
        exact ⟨rfl, rfl⟩
      | true =>
        rw [hnetwork] at h
        obtain ⟨w', _, rfl, rfl⟩ := h
        refine ⟨{ w' with isClientConnected := true }, ?_⟩
        simp only [hready, hnetwork]
        exact ⟨rfl, rfl⟩

/-- Each method answers as it does in one step. -/
theorem run_of_runs {call : Call} {p p' : MqttProtocol} {b : Option Returned}
    (h : Runs call.code p b p') :
    ∃ w, b = some ⟨call, (call.run w p).1⟩ ∧ p' = (call.run w p).2 := by
  obtain ⟨res, hmethod, rfl⟩ := runs_of_code h
  cases call with
  | yield =>
    obtain ⟨w, rfl, rfl⟩ := hmethod
    exact ⟨w, rfl, rfl⟩
  | onNetworkStatusChange status =>
    cases status <;>
      · obtain ⟨_, _, w, rfl, rfl⟩ := hmethod
        exact ⟨w, rfl, rfl⟩
  | disconnect =>
    obtain ⟨_, _, w, rfl, rfl⟩ := hmethod
    exact ⟨w, rfl, rfl⟩
  | connect =>
    obtain ⟨w, rfl, rfl⟩ := connect_of_runs hmethod
    exact ⟨w, rfl, rfl⟩
  | sendMessage dataToSend =>
    obtain ⟨w, rfl, rfl⟩ := sendMessage_of_runs hmethod
    exact ⟨w, rfl, rfl⟩

/-- A call that a thread makes while the other one stands still. -/
theorem run_of_alone {t : Thread} {d : t.Ask} {p : MqttProtocol} {b : Option Returned}
    {v : t.Own × Bool × List Publish}
    (h : guarded.Alone t (t.call d).code (t.own p, guardedPart p) b v) :
    ∃ w, b = some ⟨t.call d, ((t.call d).run w p).1⟩ ∧
      v = (t.own ((t.call d).run w p).2, guardedPart ((t.call d).run w p).2) ∧
      ∀ j, j ≠ t → j.own ((t.call d).run w p).2 = j.own p := by
  cases t with
  | sink =>
    obtain ⟨p', hruns, rfl⟩ := runs_of_alone h
    obtain ⟨w, rfl, rfl⟩ := run_of_runs hruns
    exact ⟨w, rfl, rfl, fun j hne => by cases j <;> first | exact absurd rfl hne | rfl⟩
  | monitor =>
    cases d <;>
      · obtain ⟨_, _, _, w, rfl, rfl⟩ := h
        exact ⟨w, rfl, rfl, fun j _ => by cases j <;> rfl⟩

/-! ## Runs -/

theorem sequential_concat {log : List Returned} {p p' : MqttProtocol} (h : Sequential log p p')
    (call : Call) (w : World) :
    Sequential (log ++ [⟨call, (call.run w p').1⟩]) p (call.run w p').2 := by
  induction log generalizing p with
  | nil =>
    cases h
    exact ⟨w, rfl, rfl⟩
  | cons r log ih =>
    obtain ⟨call₀, res⟩ := r
    obtain ⟨w₀, hres, hlog⟩ := h
    exact ⟨w₀, hres, ih hlog⟩

/-- No thread has made a call yet. -/
def untouched (p : MqttProtocol) :
    AllReturned (fun _ : Thread => Option Returned) Thread.Own (Bool × List Publish) :=
  ⟨fun _ => none, fun t => t.own p, guardedPart p⟩

theorem sequential_of_history {p₀ : MqttProtocol} {log : List (Σ _ : Thread, Option Returned)}
    {a : AllReturned (fun _ : Thread => Option Returned) Thread.Own (Bool × List Publish)}
    (h : guarded.History (untouched p₀) log a) :
    ∃ p, Sequential (log.filterMap Sigma.snd) p₀ p ∧ (∀ t, a.own t = t.own p) ∧
      a.rest = guardedPart p := by
  induction h with
  | nil => exact ⟨p₀, rfl, fun _ => rfl, rfl⟩
  | @concat log a t d program b v _ called alone ih =>
    obtain ⟨p, hlog, hown, hrest⟩ := ih
    cases called
    rw [hown, hrest] at alone
    obtain ⟨w, rfl, rfl, hothers⟩ := run_of_alone alone
    refine ⟨_, ?_, fun j => ?_, rfl⟩
    · rw [List.filterMap_append]
      exact sequential_concat hlog (t.call d) w
    · by_cases hne : j = t
      · subst hne
        exact Function.update_self ..
      · rw [hothers j hne, ← hown j]
        exact Function.update_of_ne hne ..

theorem eq_of_parts {p q : MqttProtocol} (hown : Thread.sink.own p = Thread.sink.own q)
    (hrest : guardedPart p = guardedPart q) : p = q := by
  rw [← sees_sink p, ← sees_sink q]
  exact congrArg Thread.sink.sees (Prod.ext hown hrest)

instance : Nonempty World := ⟨{}⟩

theorem entries_settle (t : Thread) (x : Option Returned) (d : t.Ask)
    (p : Program Op Op.Res (Option Returned)) (called : threads.entry t x d = some p) :
    guarded.Settles t p := by
  cases called
  exact code_settles t d

theorem follows_untouched (mqttClientId : String) :
    guarded.Follows (init mqttClientId) (untouched { mqttClientId }) :=
  Guarded.follows_init (G := guarded) (c := init mqttClientId) (fun _ => rfl) rfl

/-- What the calls that have taken effect have left, as the threads find it. -/
theorem exists_untouched_history (mqttClientId : String) (acts : List Act) :
    ∃ a, guarded.History (untouched { mqttClientId })
        (effects silent (threads.system.path (init mqttClientId) acts)) a ∧
      guarded.Follows (threads.system.final (init mqttClientId) acts) a :=
  Guarded.exists_history ordered entries_settle (follows_untouched mqttClientId) acts

/-- Where no call is going on, the data are what the calls have left. -/
theorem data_of_follows {c : Config} {p : MqttProtocol}
    {a : AllReturned (fun _ : Thread => Option Returned) Thread.Own (Bool × List Publish)}
    (h : guarded.Follows c a) (hown : ∀ t, a.own t = t.own p) (hrest : a.rest = guardedPart p)
    (hreturned : ∀ t, (c.prog t).result.isSome) : c.shared.data = p := by
  obtain ⟨hdata, hguarded⟩ := h.data hreturned
  exact eq_of_parts ((hdata .sink).symm.trans (hown .sink)) (hguarded.symm.trans hrest)

/-- The packet of a call that reported it as sent. -/
def sentOf : Returned → Option SgmProcessData
  | ⟨.sendMessage data, res⟩ => if res = .messageSent then some data else none
  | ⟨.connect, _⟩ | ⟨.disconnect, _⟩ | ⟨.yield, _⟩ | ⟨.onNetworkStatusChange _, _⟩ => none

/-- The status that a call reported. -/
def reportOf : Returned → Option NetworkStatus
  | ⟨.onNetworkStatusChange status, _⟩ => some status
  | ⟨.sendMessage _, _⟩ | ⟨.connect, _⟩ | ⟨.disconnect, _⟩ | ⟨.yield, _⟩ => none

/-- The status that was reported last. -/
def lastReport (status : NetworkStatus) (log : List Returned) : NetworkStatus :=
  (log.filterMap reportOf).getLastD status

theorem lastReport_cons (status : NetworkStatus) (r : Returned) (log : List Returned) :
    lastReport status (r :: log) = lastReport ((reportOf r).getD status) log := by
  unfold lastReport
  cases h : reportOf r with
  | none => rw [List.filterMap_cons_none h, Option.getD_none]
  | some status' => rw [List.filterMap_cons_some h, List.getLastD_cons, Option.getD_some]

theorem sendMessage_isNetworkReady (w : World) (data : SgmProcessData) (p : MqttProtocol) :
    (MqttProtocol.sendMessage w data p).2.isNetworkReady = p.isNetworkReady := by
  unfold MqttProtocol.sendMessage MqttProtocol.prepareTopic
  cases MqttProtocol.findMapper data with
  | none => rfl
  | some pair =>
    cases w.isClientConnected with
    | false => rfl
    | true =>
      cases p.isNetworkReady <;>
        simp [MqttProtocol.prepareMessage, MqttProtocol.publishMessage]

variable {clientId : String} {status : NetworkStatus} {p p' : MqttProtocol}

theorem isNetworkReady_run (call : Call) (w : World)
    (h : p.isNetworkReady = decide (status = .connected)) :
    (call.run w p).2.isNetworkReady =
      decide ((reportOf ⟨call, (call.run w p).1⟩).getD status = .connected) := by
  cases call with
  | sendMessage data => exact (sendMessage_isNetworkReady w data p).trans h
  | connect =>
    refine Eq.trans ?_ h
    dsimp only [Call.run, MqttProtocol.connect]
    split_ifs <;> rfl
  | disconnect => exact h
  | yield => exact h
  | onNetworkStatusChange status' =>
    exact MqttProtocol.isNetworkReady_onNetworkStatusChange status' p

/-- A call publishes the packet that it reports as sent, and no other. -/
theorem published_run (call : Call) (w : World) (names : NamesKept clientId p) :
    NamesKept clientId (call.run w p).2 ∧ (contents (call.run w p).2).map some =
      (contents p).map some ++
        (sentOf ⟨call, (call.run w p).1⟩).toList.map (publication clientId) := by
  have hkept : ∀ p' : MqttProtocol, p'.published = p.published →
      (contents p').map some = (contents p).map some ++ [] := fun p' hp' => by
    rw [List.append_nil, contents, hp', contents]
  cases call with
  | yield => exact ⟨names, hkept _ rfl⟩
  | disconnect => exact ⟨names.congr rfl rfl rfl, hkept _ rfl⟩
  | onNetworkStatusChange status =>
    cases status <;> exact ⟨names.congr rfl rfl rfl, hkept _ rfl⟩
  | connect =>
    dsimp only [Call.run, MqttProtocol.connect]
    split_ifs <;> exact ⟨names.congr rfl rfl rfl, hkept _ rfl⟩
  | sendMessage data =>
    refine ⟨names.sendMessage w data, ?_⟩
    by_cases hsent : (MqttProtocol.sendMessage w data p).1 = .messageSent
    · rw [show sentOf ⟨.sendMessage data, (Call.run (.sendMessage data) w p).1⟩ = some data from
        if_pos hsent]
      exact MqttProtocol.contents_of_sent names hsent
    · rw [show sentOf ⟨.sendMessage data, (Call.run (.sendMessage data) w p).1⟩ = none from
        if_neg hsent]
      exact hkept _ (MqttProtocol.published_of_not_sent hsent)

theorem isNetworkReady_of_sequential {log : List Returned} (h : Sequential log p p')
    (hready : p.isNetworkReady = decide (status = .connected)) :
    p'.isNetworkReady = decide (lastReport status log = .connected) := by
  induction log generalizing p status with
  | nil =>
    cases h
    exact hready
  | cons r log ih =>
    obtain ⟨call, res⟩ := r
    obtain ⟨w, rfl, h⟩ := h
    rw [lastReport_cons]
    exact ih h (isNetworkReady_run call w hready)

theorem published_of_sequential {log : List Returned} (h : Sequential log p p')
    (names : NamesKept clientId p) :
    (contents p').map some =
      (contents p).map some ++ (log.filterMap sentOf).map (publication clientId) := by
  induction log generalizing p with
  | nil =>
    cases h
    exact (List.append_nil _).symm
  | cons r log ih =>
    obtain ⟨call, res⟩ := r
    obtain ⟨w, rfl, h⟩ := h
    obtain ⟨hnames, hpublished⟩ := published_run call w names
    rw [ih h hnames, hpublished, List.append_assoc, ← List.map_append]
    congr 2
    cases hsent : sentOf ⟨call, (call.run w p).1⟩ with
    | none => rw [List.filterMap_cons_none hsent]; rfl
    | some data => rw [List.filterMap_cons_some hsent]; rfl

/-- Whenever the mutex is free, the publications are those of the packets whose `sendMessage` has
taken effect and is bound to report them as sent, and the network is ready if that is what was
reported last. -/
theorem guarded_data (mqttClientId : String) (acts : List Act)
    (free : (threads.system.final (init mqttClientId) acts).shared.owner () = none) :
    (contents (threads.system.final (init mqttClientId) acts).shared.data).map some =
        ((tookEffect (threads.system.path (init mqttClientId) acts)).filterMap sentOf).map
          (publication mqttClientId) ∧
      (threads.system.final (init mqttClientId) acts).shared.data.isNetworkReady =
        decide (lastReport .disconnected
          (tookEffect (threads.system.path (init mqttClientId) acts)) = .connected) := by
  obtain ⟨a, history, follows⟩ := exists_untouched_history mqttClientId acts
  obtain ⟨p, hlog, -, hrest⟩ := sequential_of_history history
  have hguarded : guardedPart p =
      guardedPart (threads.system.final (init mqttClientId) acts).shared.data :=
    hrest.symm.trans (follows.rest free)
  rw [guardedPart, guardedPart, Prod.mk.injEq] at hguarded
  obtain ⟨hready, hpublished⟩ := hguarded
  constructor
  · rw [contents, ← hpublished, ← contents]
    exact published_of_sequential hlog ⟨rfl, fun _ _ => rfl, fun _ _ => rfl⟩
  · rw [← hready]
    exact isNetworkReady_of_sequential hlog rfl

/-- A report comes while the sink prepares a packet, which then is sent; the sink has given the
mutex back and has not returned yet. -/
def reportWhilePrepared : List Act :=
  [.call .sink (.sendMessage SgmSink.airTemperature.packet), .run .sink {},
    .call .monitor .connected, .run .monitor {}, .run .sink {}, .run .monitor {}, .run .monitor {},
    .run .monitor {}, .run .sink {}, .run .sink {}, .run .sink {}, .run .sink {}, .run .sink {}]

theorem guarded_data_reportWhilePrepared :
    (contents (threads.system.final (init "7") reportWhilePrepared).shared.data).map some =
        [publication "7" SgmSink.airTemperature.packet] ∧
      (threads.system.final (init "7") reportWhilePrepared).shared.data.isNetworkReady = true :=
  guarded_data "7" reportWhilePrepared rfl

end MqttThreads

end SgmDevice
