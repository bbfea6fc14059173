import Mathlib.Data.List.Basic

/-!
# Transition systems and their runs

A system is a partial step function: an action carries every choice its step makes.  A run is the
list of steps that a schedule (any list of actions) takes from a state; actions that are not
enabled where they stand are skipped, so the schedules cover every run of every length.

* `Always s₀ acts P`: the property `P` holds in every state of the run.
* `Obeys s₀ acts G`: every step of the run meets the condition `G` on the state before it.
* `always_of_invariant`: an inductive invariant holds in every state of every run.
* `always_of_obeys`: the same for the runs whose steps all meet a condition.
* `always_iff_obeys`: when a step outside the condition breaks the property at once, the runs with
  the property are exactly those that meet the condition.
* `obeys_iff_obeys`: the same for a property of the steps.
* `always_iff_after`: what must hold while a system is in some situation must hold from each step
  that leads there until a step that leads away, when elsewhere it holds anyway.
-/

namespace Concurrency

/-- A transition system with states `σ` and actions `α`. -/
structure System (σ α : Type) where
  /-- The state after an action, if the action is enabled. -/
  step : σ → α → Option σ

/-- One step of a run. -/
structure Taken (σ α : Type) where
  before : σ
  act : α
  after : σ

namespace System

variable {σ α : Type} (S : System σ α)

/-- The steps that the schedule `acts` takes from `s`. -/
def path : σ → List α → List (Taken σ α)
  | _, [] => []
  | s, a :: acts =>
    match S.step s a with
    | some s' => ⟨s, a, s'⟩ :: path s' acts
    | none => path s acts

/-- The last state of a run. -/
def final : σ → List α → σ
  | s, [] => s
  | s, a :: acts => final ((S.step s a).getD s) acts

/-- `P` holds in every state of the run. -/
def Always (s₀ : σ) (acts : List α) (P : σ → Prop) : Prop :=
  P s₀ ∧ ∀ t ∈ S.path s₀ acts, P t.after

/-- Every step of the run meets the condition `G`. -/
def Obeys (s₀ : σ) (acts : List α) (G : σ → α → Prop) : Prop :=
  ∀ t ∈ S.path s₀ acts, G t.before t.act

/-- `P` holds behind every step up to the first one that meets `E`. -/
def HoldsUntil (E : σ → α → Prop) (P : σ → Prop) : List (Taken σ α) → Prop
  | [] => True
  | t :: path => E t.before t.act ∨ P t.after ∧ HoldsUntil E P path

/-- From each step that meets `A` until the next one that meets `E`, `P` holds. -/
def After (s₀ : σ) (acts : List α) (A E : σ → α → Prop) (P : σ → Prop) : Prop :=
  ∀ t path, t :: path <:+ S.path s₀ acts → A t.before t.act → P t.after ∧ HoldsUntil E P path

/-- The system in which the actions that `p` picks are never taken. -/
def without (p : α → Bool) : System σ α where
  step s a := if p a then none else S.step s a

instance (s₀ : σ) (acts : List α) (P : σ → Prop) [DecidablePred P] :
    Decidable (S.Always s₀ acts P) :=
  inferInstanceAs (Decidable (_ ∧ _))

instance (s₀ : σ) (acts : List α) (G : σ → α → Prop) [∀ s a, Decidable (G s a)] :
    Decidable (S.Obeys s₀ acts G) :=
  inferInstanceAs (Decidable (∀ t ∈ S.path s₀ acts, G t.before t.act))

variable {S}

theorem always_nil {s : σ} {P : σ → Prop} : S.Always s [] P ↔ P s := by
  simp [Always, path]

theorem always_cons {s : σ} {a : α} {acts : List α} {P : σ → Prop} :
    S.Always s (a :: acts) P ↔ P s ∧ S.Always ((S.step s a).getD s) acts P := by
  unfold Always
  rw [path]
  cases S.step s a with
  | none => simp only [Option.getD_none, and_self_left]
  | some s' => simp only [List.forall_mem_cons, Option.getD_some]

theorem obeys_nil {s : σ} {P : σ → α → Prop} : S.Obeys s [] P :=
  fun _ ht => absurd ht List.not_mem_nil

theorem obeys_cons {s : σ} {a : α} {acts : List α} {G : σ → α → Prop} :
    S.Obeys s (a :: acts) G ↔
      ((S.step s a).isSome → G s a) ∧ S.Obeys ((S.step s a).getD s) acts G := by
  unfold Obeys
  rw [path]
  cases S.step s a with
  | none => simp
  | some s' => simp

theorem Always.mono {s : σ} {acts : List α} {P Q : σ → Prop} (h : S.Always s acts P)
    (hPQ : ∀ s, P s → Q s) : S.Always s acts Q :=
  ⟨hPQ _ h.1, fun t ht => hPQ _ (h.2 t ht)⟩

theorem always_and {s : σ} {acts : List α} {P Q : σ → Prop} :
    S.Always s acts (fun s => P s ∧ Q s) ↔ S.Always s acts P ∧ S.Always s acts Q :=
  ⟨fun h => ⟨h.mono fun _ => And.left, h.mono fun _ => And.right⟩,
    fun h => ⟨⟨h.1.1, h.2.1⟩, fun t ht => ⟨h.1.2 t ht, h.2.2 t ht⟩⟩⟩

/-- Two properties that are the same under an invariant of the run. -/
theorem Always.congr {s : σ} {acts : List α} {I P Q : σ → Prop} (h : S.Always s acts I)
    (hPQ : ∀ s, I s → (P s ↔ Q s)) : S.Always s acts P ↔ S.Always s acts Q :=
  and_congr (hPQ _ h.1) (forall₂_congr fun t ht => hPQ _ (h.2 t ht))

/-- The last state of a run is one of its states. -/
theorem Always.final {s : σ} {acts : List α} {P : σ → Prop} (h : S.Always s acts P) :
    P (S.final s acts) := by
  induction acts generalizing s with
  | nil => exact h.1
  | cons a acts ih => exact ih (always_cons.1 h).2

theorem final_append (s : σ) (acts acts' : List α) :
    S.final s (acts ++ acts') = S.final (S.final s acts) acts' := by
  induction acts generalizing s with
  | nil => rfl
  | cons a acts ih => exact ih _

/-- What relates a state to the steps that led to it. -/
theorem path_final_induction {I : List (Taken σ α) → σ → Prop}
    (keep : ∀ before s a s', I before s → S.step s a = some s' → I (before ++ [⟨s, a, s'⟩]) s')
    {before : List (Taken σ α)} {s : σ} (init : I before s) (acts : List α) :
    I (before ++ S.path s acts) (S.final s acts) := by
  induction acts generalizing before s with
  | nil =>
    rw [path, List.append_nil]
    exact init
  | cons a acts ih =>
    rw [path, final]
    cases hs : S.step s a with
    | none => exact ih init
    | some s' =>
      rw [List.append_cons]
      exact ih (keep before s a s' init hs)

/-- A condition on the steps, told from the actions before each of them. -/
theorem obeys_iff_forall_split {G : σ → α → Prop} {s : σ} {acts : List α} :
    S.Obeys s acts G ↔ ∀ before a after, acts = before ++ a :: after →
      (S.step (S.final s before) a).isSome → G (S.final s before) a := by
  induction acts generalizing s with
  | nil => exact iff_of_true obeys_nil fun before a after h => by simp at h
  | cons a acts ih =>
    rw [obeys_cons, ih]
    constructor
    · rintro ⟨hfirst, hrest⟩ before b after h
      cases before with
      | nil =>
        obtain ⟨rfl, -⟩ := List.cons.inj h
        exact hfirst
      | cons a' before =>
        obtain ⟨rfl, htail⟩ := List.cons.inj h
        exact hrest before b after htail
    · exact fun h => ⟨h [] a acts rfl, fun before b after hacts =>
        h (a :: before) b after (by rw [hacts, List.cons_append])⟩

/-- A condition on the steps, told from the steps before: `H` says of the steps so far and the next
one what `G` says of the state and the next action. -/
theorem obeys_iff_history {I : List (Taken σ α) → σ → Prop} {G : σ → α → Prop}
    {H : List (Taken σ α) → Taken σ α → Prop}
    (keep : ∀ before s a s', I before s → S.step s a = some s' → I (before ++ [⟨s, a, s'⟩]) s')
    (same : ∀ before s a s', I before s → S.step s a = some s' → (G s a ↔ H before ⟨s, a, s'⟩))
    {s : σ} (init : I [] s) (acts : List α) :
    S.Obeys s acts G ↔ ∀ before t after, S.path s acts = before ++ t :: after → H before t := by
  suffices h : ∀ log, I log s → (S.Obeys s acts G ↔
      ∀ before t after, S.path s acts = before ++ t :: after → H (log ++ before) t) from h [] init
  clear init
  induction acts generalizing s with
  | nil => exact fun log _ => iff_of_true obeys_nil fun before t after h => by simp [path] at h
  | cons a acts ih =>
    intro log hlog
    rw [obeys_cons, path]
    cases hs : S.step s a with
    | none => exact (and_iff_right (by simp)).trans (ih log hlog)
    | some s' =>
      simp only [Option.isSome_some, forall_const, Option.getD_some]
      rw [ih _ (keep log s a s' hlog hs), same log s a s' hlog hs]
      constructor
      · rintro ⟨hfirst, hrest⟩ before t after h
        cases before with
        | nil =>
          obtain ⟨rfl, -⟩ := List.cons.inj h
          rwa [List.append_nil]
        | cons t' before =>
          obtain ⟨rfl, htail⟩ := List.cons.inj h
          rw [List.append_cons]
          exact hrest before t after htail
      · refine fun h => ⟨?_, fun before t after hpath => ?_⟩
        · simpa only [List.append_nil] using h [] _ _ rfl
        · rw [← List.append_cons]
          exact h (_ :: before) t after (by rw [hpath, List.cons_append])

theorem without_eq_some {p : α → Bool} {s s' : σ} {a : α} :
    (S.without p).step s a = some s' ↔ p a = false ∧ S.step s a = some s' := by
  simp [without]

/-- The first step of a run outside the condition. -/
theorem exists_first_of_not_obeys {G : σ → α → Prop} {s : σ} {acts : List α}
    (h : ¬ S.Obeys s acts G) :
    ∃ before a after s', acts = before ++ a :: after ∧ S.Obeys s before G ∧
      S.step (S.final s before) a = some s' ∧ ¬ G (S.final s before) a := by
  induction acts generalizing s with
  | nil => exact absurd (fun t ht => absurd ht (by simp [path])) h
  | cons a acts ih =>
    by_cases hG : (S.step s a).isSome → G s a
    · have hrest : ¬ S.Obeys ((S.step s a).getD s) acts G := fun hrest =>
        h (obeys_cons.2 ⟨hG, hrest⟩)
      obtain ⟨before, b, after, s', rfl, hbefore, hstep, hnot⟩ := ih hrest
      exact ⟨a :: before, b, after, s', rfl, obeys_cons.2 ⟨hG, hbefore⟩, hstep, hnot⟩
    · obtain ⟨hsome, hnot⟩ := Classical.not_imp.1 hG
      obtain ⟨s', hs⟩ := Option.isSome_iff_exists.1 hsome
      exact ⟨[], a, acts, s', rfl, fun t ht => absurd ht (by simp [path]), hs, hnot⟩

/-- An invariant that the steps meeting `G` keep holds in every run whose steps all meet `G`. -/
theorem always_of_obeys {I : σ → Prop} {G : σ → α → Prop}
    (keep : ∀ s a s', I s → G s a → S.step s a = some s' → I s') {s : σ} {acts : List α}
    (init : I s) (obeys : S.Obeys s acts G) : S.Always s acts I := by
  induction acts generalizing s with
  | nil => exact always_nil.2 init
  | cons a acts ih =>
    obtain ⟨hG, rest⟩ := obeys_cons.1 obeys
    refine always_cons.2 ⟨init, ih ?_ rest⟩
    cases hs : S.step s a with
    | none => exact init
    | some s' => exact keep s a s' init (hG (by rw [hs]; rfl)) hs

/-- An inductive invariant holds in every state of every run. -/
theorem always_of_invariant {I : σ → Prop}
    (keep : ∀ s a s', I s → S.step s a = some s' → I s') {s : σ} (init : I s) (acts : List α) :
    S.Always s acts I :=
  always_of_obeys (G := fun _ _ => True) (fun s a s' h _ => keep s a s' h) init fun _ _ => trivial

/-- The exact condition: while the steps meet `G` the invariant `I` gives `P`, and the first step
outside `G` leads to a state without `P`. -/
theorem always_iff_obeys {I P : σ → Prop} {G : σ → α → Prop} (holds : ∀ s, I s → P s)
    (keep : ∀ s a s', I s → G s a → S.step s a = some s' → I s')
    (breaks : ∀ s a s', I s → ¬ G s a → S.step s a = some s' → ¬ P s') {s : σ} (init : I s)
    (acts : List α) : S.Always s acts P ↔ S.Obeys s acts G := by
  constructor
  · intro always
    induction acts generalizing s with
    | nil => exact fun t ht => absurd ht (by simp [path])
    | cons a acts ih =>
      obtain ⟨-, rest⟩ := always_cons.1 always
      cases hs : S.step s a with
      | none =>
        rw [hs] at rest
        exact obeys_cons.2 ⟨by simp [hs], by rw [hs]; exact ih init rest⟩
      | some s' =>
        rw [hs] at rest
        have hG : G s a := by
          by_contra hG
          exact breaks s a s' init hG hs rest.1
        exact obeys_cons.2 ⟨fun _ => hG, by rw [hs]; exact ih (keep s a s' init hG hs) rest⟩
  · exact fun obeys => (always_of_obeys keep init obeys).mono holds

/-- Two conditions on the steps that are the same under an invariant: the runs that meet the one
are exactly those that meet the other. -/
theorem obeys_iff_obeys {I : σ → Prop} {P G : σ → α → Prop}
    (same : ∀ s a s', I s → S.step s a = some s' → (P s a ↔ G s a))
    (keep : ∀ s a s', I s → G s a → S.step s a = some s' → I s') {s : σ} (init : I s)
    (acts : List α) : S.Obeys s acts P ↔ S.Obeys s acts G := by
  induction acts generalizing s with
  | nil => exact iff_of_true obeys_nil obeys_nil
  | cons a acts ih =>
    rw [obeys_cons, obeys_cons]
    cases hs : S.step s a with
    | none => exact and_congr (by simp) (ih init)
    | some s' =>
      have hPG : P s a ↔ G s a := same s a s' init hs
      constructor
      · rintro ⟨hP, rest⟩
        have hG : G s a := hPG.1 (hP rfl)
        exact ⟨fun _ => hG, (ih (keep s a s' init hG hs)).1 rest⟩
      · rintro ⟨hG, rest⟩
        exact ⟨fun _ => hPG.2 (hG rfl), (ih (keep s a s' init (hG rfl) hs)).2 rest⟩

/-- Two conditions that are the same wherever a step is taken. -/
theorem obeys_congr {P G : σ → α → Prop} (same : ∀ s a s', S.step s a = some s' → (P s a ↔ G s a))
    (s : σ) (acts : List α) : S.Obeys s acts P ↔ S.Obeys s acts G :=
  obeys_iff_obeys (I := fun _ => True) (fun s a s' _ => same s a s') (fun _ _ _ _ _ _ => trivial)
    trivial acts

/-! ## From one step until another -/

theorem after_nil {s : σ} {A E : σ → α → Prop} {P : σ → Prop} : S.After s [] A E P :=
  fun _ _ h => absurd h.length_le (by simp [path])

theorem after_cons {s s' : σ} {a : α} {acts : List α} {A E : σ → α → Prop} {P : σ → Prop}
    (hs : S.step s a = some s') :
    S.After s (a :: acts) A E P ↔
      (A s a → P s' ∧ HoldsUntil E P (S.path s' acts)) ∧ S.After s' acts A E P := by
  unfold After
  rw [path, hs]
  simp only [List.suffix_cons_iff, List.cons.injEq]
  constructor
  · exact fun h => ⟨h _ _ (.inl ⟨rfl, rfl⟩), fun t path ht => h t path (.inr ht)⟩
  · rintro ⟨hfirst, hrest⟩ t path (⟨rfl, rfl⟩ | ht)
    · exact hfirst
    · exact hrest t path ht

theorem after_skip {s : σ} {a : α} {acts : List α} {A E : σ → α → Prop} {P : σ → Prop}
    (hs : S.step s a = none) : S.After s (a :: acts) A E P ↔ S.After s acts A E P := by
  unfold After
  rw [path, hs]

section Situation

variable {I B K P : σ → Prop} {A E : σ → α → Prop}

/-- `A` leads into the situation `B` and `E` out of it, unless `K`, which gives `P` as long as no
`E` comes: `P` holds wherever `B` does if and only if it holds from each `A` until the next `E`. -/
theorem always_iff_after (keep : ∀ s a s', I s → S.step s a = some s' → I s')
    (leads : ∀ s a s', I s → A s a → S.step s a = some s' → B s')
    (enters : ∀ s a s', I s → ¬ A s a → S.step s a = some s' → B s' → B s ∨ K s')
    (leaves : ∀ s a s', I s → ¬ A s a → E s a → S.step s a = some s' → B s' → K s')
    (stays : ∀ s a s', I s → ¬ E s a → S.step s a = some s' → B s → B s')
    (kept : ∀ s a s', I s → ¬ E s a → S.step s a = some s' → K s → K s')
    (holds : ∀ s, K s → P s) {s : σ} (init : I s) (outside : ¬ B s) (acts : List α) :
    S.Always s acts (fun s => B s → P s) ↔ S.After s acts A E P := by
  -- inside the situation `P` is due at once and until the next `E`
  suffices h : ((B s → K s) → (S.Always s acts (fun s => B s → P s) ↔ S.After s acts A E P)) ∧
      (B s → (S.Always s acts (fun s => B s → P s) ↔
        (P s ∧ HoldsUntil E P (S.path s acts)) ∧ S.After s acts A E P)) from
    h.1 fun hB => absurd hB outside
  clear outside
  induction acts generalizing s with
  | nil =>
    simp only [always_nil, after_nil, path, HoldsUntil, and_true, iff_true]
    exact ⟨fun hK hB => holds s (hK hB), fun hB => forall_prop_of_true hB⟩
  | cons a acts ih =>
    rw [always_cons]
    cases hs : S.step s a with
    | none =>
      obtain ⟨hout, hin⟩ := ih init
      rw [after_skip hs, path, hs]
      refine ⟨fun hK => ?_, fun hB => ?_⟩
      · exact (and_iff_right fun hB => holds s (hK hB)).trans (hout hK)
      · rw [Option.getD_none, hin hB, forall_prop_of_true hB, and_assoc, and_self_left]
    | some s' =>
      obtain ⟨hout, hin⟩ := ih (keep s a s' init hs)
      rw [after_cons hs, path, hs]
      refine ⟨fun hK => (and_iff_right fun hB => holds s (hK hB)).trans ?_, fun hB => ?_⟩
      · by_cases hA : A s a
        · rw [Option.getD_some, hin (leads s a s' init hA hs), forall_prop_of_true hA]
        · simp only [hA, false_implies, true_and]
          refine hout fun hB' => ?_
          rcases enters s a s' init hA hs hB' with hB | hK'
          · by_cases hE : E s a
            · exact leaves s a s' init hA hE hs hB'
            · exact kept s a s' init hE hs (hK hB)
          · exact hK'
      · rw [forall_prop_of_true hB, and_assoc]
        refine and_congr_right fun _ => ?_
        simp only [HoldsUntil, Option.getD_some]
        by_cases hA : A s a
        · rw [hin (leads s a s' init hA hs), forall_prop_of_true hA]
          exact ⟨fun h => ⟨.inr h.1, h⟩, fun h => h.2⟩
        · simp only [hA, false_implies, true_and]
          by_cases hE : E s a
          · simpa only [hE, true_or, true_and] using hout (leaves s a s' init hA hE hs)
          · simpa only [hE, false_or] using hin (stays s a s' init hE hs hB)

end Situation

/-! ## Steps that need what others end -/

section Needs

variable {B : σ → Prop} {A L : σ → α → Prop}

/-- Once `B` is gone and no other step brings it back, no step that needs it may come. -/
theorem obeys_iff_of_not (other : ∀ s a s', ¬ A s a → S.step s a = some s' → (B s' ↔ B s)) {s : σ}
    (gone : ¬ B s) (acts : List α) :
    S.Obeys s acts (fun s a => A s a → B s) ↔ S.Obeys s acts (fun s a => ¬ A s a) := by
  induction acts generalizing s with
  | nil => exact iff_of_true obeys_nil obeys_nil
  | cons a acts ih =>
    rw [obeys_cons, obeys_cons]
    cases hs : S.step s a with
    | none => exact and_congr (by simp) (ih gone)
    | some s' =>
      by_cases hA : A s a
      · exact iff_of_false (fun h => gone (h.1 rfl hA)) fun h => h.1 rfl hA
      · have gone' : ¬ B s' := fun hB => gone ((other s a s' hA hs).1 hB)
        exact and_congr (by simp [hA]) (ih gone')

/-- `A` says which steps need `B`, `L` which of them end it, and the other steps leave it alone:
every step finds what it needs if and only if none that needs it comes after one that ends it. -/
theorem obeys_iff_pairwise (other : ∀ s a s', ¬ A s a → S.step s a = some s' → (B s' ↔ B s))
    (needs : ∀ s a s', B s → A s a → S.step s a = some s' → (B s' ↔ ¬ L s a)) {s : σ}
    (init : B s) (acts : List α) :
    S.Obeys s acts (fun s a => A s a → B s) ↔
      (S.path s acts).Pairwise fun t t' =>
        A t.before t.act ∧ L t.before t.act → ¬ A t'.before t'.act := by
  induction acts generalizing s with
  | nil => exact iff_of_true (fun t ht => absurd ht List.not_mem_nil) List.Pairwise.nil
  | cons a acts ih =>
    rw [obeys_cons, path]
    cases hs : S.step s a with
    | none => exact (and_iff_right (by simp)).trans (ih init)
    | some s' =>
      rw [List.pairwise_cons]
      by_cases hends : A s a ∧ L s a
      · have gone : ¬ B s' := fun hB => (needs s a s' init hends.1 hs).1 hB hends.2
        have hnone := obeys_iff_of_not other gone acts
        simp only [init, hends, implies_true, true_and, Option.getD_some, forall_const, and_self]
        refine hnone.trans ⟨fun h => ⟨h, ?_⟩, fun h => h.1⟩
        exact List.pairwise_of_forall_mem_list fun t _ t' ht' _ => h t' ht'
      · have keeps : B s' := by
          by_cases hA : A s a
          · exact (needs s a s' init hA hs).2 fun hL => hends ⟨hA, hL⟩
          · exact (other s a s' hA hs).2 init
        simp only [init, hends, implies_true, true_and, Option.getD_some, false_implies]
        exact ih keeps

end Needs

end System

end Concurrency
