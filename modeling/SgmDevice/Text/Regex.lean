import Mathlib.Data.List.Basic

/-!
# Regular expressions with groups

Matching by backtracking, in the order of the ECMAScript grammar: `run` lists every way in which an
expression matches at the start of a text, the preferred one first, and `regexMatch` is the first
that uses up the whole text.

`Derives r w g` says that `r` matches exactly `w`, with the groups `g`; `mem_run_iff` says that
backtracking finds these matches and no others.
-/

namespace Text

/-- Expressions over the characters `α`. -/
inductive Regex (α : Type) where
  | empty
  /-- A character of a class. -/
  | cls (p : α → Bool)
  | seq (r₁ r₂ : Regex α)
  | alt (r₁ r₂ : Regex α)
  /-- Any number of times, as few as possible if it is lazy. -/
  | star (isLazy : Bool) (r : Regex α)
  /-- The capture group with a number. -/
  | group (i : ℕ) (r : Regex α)

/-- The texts of the groups, the latest first. -/
abbrev Groups (α : Type) := List (ℕ × List α)

/-- A match at the start of a text. -/
structure Match (α : Type) where
  taken : List α
  rest : List α
  groups : Groups α

namespace Regex

variable {α : Type}

/-- Another match behind a match. -/
def andThen (m m' : Match α) : Match α := ⟨m.taken ++ m'.taken, m'.rest, m'.groups ++ m.groups⟩

/-- The groups of an iteration, when others follow: each one starts anew. -/
def lastGroups (g : Groups α) (w' : List α) (g' : Groups α) : Groups α :=
  if w' = [] then g else g'

/-- At most `n` iterations, none of which is empty. -/
def iterate (step : List α → List (Match α)) (isLazy : Bool) : ℕ → List α → List (Match α)
  | 0, s => [⟨[], s, []⟩]
  | n + 1, s =>
    let more := ((step s).filter (·.taken ≠ [])).flatMap fun m =>
      (iterate step isLazy n m.rest).map fun m' =>
        ⟨m.taken ++ m'.taken, m'.rest, lastGroups m.groups m'.taken m'.groups⟩
    if isLazy then ⟨[], s, []⟩ :: more else more ++ [⟨[], s, []⟩]

/-- The matches at the start of a text. -/
def run : Regex α → List α → List (Match α)
  | .empty, s => [⟨[], s, []⟩]
  | .cls _, [] => []
  | .cls p, c :: s => if p c then [⟨[c], s, []⟩] else []
  | .seq r₁ r₂, s => (run r₁ s).flatMap fun m => (run r₂ m.rest).map (andThen m)
  | .alt r₁ r₂, s => run r₁ s ++ run r₂ s
  | .star isLazy r, s => iterate (run r) isLazy s.length s
  | .group i r, s => (run r s).map fun m => { m with groups := (i, m.taken) :: m.groups }

/-- The groups of the first match of a whole text. -/
def regexMatch (r : Regex α) (s : List α) : Option (Groups α) :=
  ((run r s).find? (·.rest.isEmpty)).map Match.groups

/-- The expression that matches a word. -/
def lit [DecidableEq α] : List α → Regex α
  | [] => .empty
  | c :: w => .seq (.cls (· = c)) (lit w)

/-! ## What an expression matches -/

/-- Iterations of `D`, none of which is empty. -/
inductive Iterated (D : List α → Groups α → Prop) : List α → Groups α → Prop where
  | nil : Iterated D [] []
  | cons {w w' : List α} {g g' : Groups α} : D w g → w ≠ [] → Iterated D w' g' →
    Iterated D (w ++ w') (lastGroups g w' g')

/-- The expression matches exactly `w`, with the groups `g`. -/
def Derives : Regex α → List α → Groups α → Prop
  | .empty, w, g => w = [] ∧ g = []
  | .cls p, w, g => ∃ c, p c ∧ w = [c] ∧ g = []
  | .seq r₁ r₂, w, g =>
    ∃ w₁ g₁ w₂ g₂, Derives r₁ w₁ g₁ ∧ Derives r₂ w₂ g₂ ∧ w = w₁ ++ w₂ ∧ g = g₂ ++ g₁
  | .alt r₁ r₂, w, g => Derives r₁ w g ∨ Derives r₂ w g
  | .star _ r, w, g => Iterated (Derives r) w g
  | .group i r, w, g => ∃ g', Derives r w g' ∧ g = (i, w) :: g'

theorem iterated_nil {D : List α → Groups α → Prop} {g : Groups α} (h : Iterated D [] g) :
    g = [] := by
  generalize hw : ([] : List α) = w at h
  cases h with
  | nil => rfl
  | cons hD hne hrest => exact absurd (List.append_eq_nil_iff.1 hw.symm).1 hne

/-- One more iteration, or none. -/
theorem mem_iterate_succ (step : List α → List (Match α)) (isLazy : Bool) (n : ℕ) (s : List α)
    (m : Match α) :
    m ∈ iterate step isLazy (n + 1) s ↔ m = ⟨[], s, []⟩ ∨
      ∃ m₁ ∈ step s, m₁.taken ≠ [] ∧ ∃ m₂ ∈ iterate step isLazy n m₁.rest,
        ⟨m₁.taken ++ m₂.taken, m₂.rest, lastGroups m₁.groups m₂.taken m₂.groups⟩ = m := by
  have hmore : (∃ m₁ ∈ (step s).filter (·.taken ≠ []), m ∈ (iterate step isLazy n m₁.rest).map
      fun m₂ => ⟨m₁.taken ++ m₂.taken, m₂.rest, lastGroups m₁.groups m₂.taken m₂.groups⟩) ↔
      ∃ m₁ ∈ step s, m₁.taken ≠ [] ∧ ∃ m₂ ∈ iterate step isLazy n m₁.rest,
        ⟨m₁.taken ++ m₂.taken, m₂.rest, lastGroups m₁.groups m₂.taken m₂.groups⟩ = m := by
    simp only [List.mem_filter, List.mem_map, decide_eq_true_eq, and_assoc]
  rw [iterate, ← hmore]
  cases isLazy with
  | false => rw [if_neg Bool.false_ne_true, List.mem_append, List.mem_flatMap, List.mem_singleton,
      or_comm]
  | true => rw [if_pos rfl, List.mem_cons, List.mem_flatMap]

/-- Enough iterations are allowed when there are as many as characters. -/
theorem mem_iterate_iff {step : List α → List (Match α)} {D : List α → Groups α → Prop}
    (hstep : ∀ s m, m ∈ step s ↔ s = m.taken ++ m.rest ∧ D m.taken m.groups) (isLazy : Bool)
    {n : ℕ} {s : List α} (hn : s.length ≤ n) (m : Match α) :
    m ∈ iterate step isLazy n s ↔ s = m.taken ++ m.rest ∧ Iterated D m.taken m.groups := by
  induction n generalizing s m with
  | zero =>
    obtain rfl : s = [] := List.length_eq_zero_iff.1 (Nat.le_zero.1 hn)
    rw [iterate, List.mem_singleton]
    constructor
    · rintro rfl
      exact ⟨rfl, .nil⟩
    · rintro ⟨hsplit, hiterated⟩
      obtain ⟨htaken, hrest⟩ := List.append_eq_nil_iff.1 hsplit.symm
      rw [htaken] at hiterated
      obtain ⟨taken, rest, groups⟩ := m
      obtain rfl : taken = [] := htaken
      obtain rfl : rest = [] := hrest
      obtain rfl : groups = [] := iterated_nil hiterated
      rfl
  | succ n ih =>
    rw [mem_iterate_succ]
    constructor
    · rintro (rfl | ⟨m₁, hmem₁, hne, m₂, hmem₂, rfl⟩)
      · exact ⟨rfl, .nil⟩
      · obtain ⟨hs, hfirst⟩ := (hstep s m₁).1 hmem₁
        have hlength := congrArg List.length hs
        have hpos := List.length_pos_of_ne_nil hne
        rw [List.length_append] at hlength
        obtain ⟨hrest, hiterated⟩ := (ih (by omega) m₂).1 hmem₂
        refine ⟨?_, .cons hfirst hne hiterated⟩
        rw [hs, hrest, List.append_assoc]
    · obtain ⟨taken, rest, groups⟩ := m
      rintro ⟨hs, hiterated⟩
      change Iterated D taken groups at hiterated
      cases hiterated with
      | nil => exact .inl (by rw [hs, List.nil_append])
      | @cons w w' g g' hfirst hne hrest =>
        change s = w ++ w' ++ rest at hs
        rw [List.append_assoc] at hs
        have hlength := congrArg List.length hs
        have hpos := List.length_pos_of_ne_nil hne
        rw [List.length_append] at hlength
        refine .inr ⟨⟨w, w' ++ rest, g⟩, (hstep s _).2 ⟨hs, hfirst⟩, hne, ⟨w', rest, g'⟩, ?_, rfl⟩
        have hshort : (w' ++ rest).length ≤ n := by omega
        exact (ih hshort ⟨w', rest, g'⟩).2 ⟨rfl, hrest⟩

/-- Backtracking finds the matches at the start of a text. -/
theorem mem_run_iff (r : Regex α) (s : List α) (m : Match α) :
    m ∈ run r s ↔ s = m.taken ++ m.rest ∧ Derives r m.taken m.groups := by
  induction r generalizing s m with
  | empty =>
    obtain ⟨taken, rest, groups⟩ := m
    rw [run, List.mem_singleton, Match.mk.injEq, Derives]
    constructor
    · rintro ⟨rfl, rfl, rfl⟩
      exact ⟨rfl, rfl, rfl⟩
    · rintro ⟨rfl, rfl, rfl⟩
      exact ⟨rfl, rfl, rfl⟩
  | cls p =>
    obtain ⟨taken, rest, groups⟩ := m
    cases s with
    | nil =>
      refine iff_of_false List.not_mem_nil ?_
      rintro ⟨hs, c, -, rfl, -⟩
      cases hs
    | cons c s =>
      rw [run, Derives]
      constructor
      · intro hmem
        by_cases hc : p c
        · rw [if_pos hc, List.mem_singleton] at hmem
          cases hmem
          exact ⟨rfl, c, hc, rfl, rfl⟩
        · rw [if_neg hc] at hmem
          cases hmem
      · rintro ⟨hs, c', hc', rfl, rfl⟩
        obtain ⟨rfl, rfl⟩ := List.cons.inj hs
        rw [if_pos hc']
        exact List.mem_singleton.2 rfl
  | seq r₁ r₂ ih₁ ih₂ =>
    rw [run, List.mem_flatMap, Derives]
    constructor
    · rintro ⟨m₁, hmem₁, hmem⟩
      obtain ⟨m₂, hmem₂, rfl⟩ := List.mem_map.1 hmem
      obtain ⟨hs, h₁⟩ := (ih₁ s m₁).1 hmem₁
      obtain ⟨hrest, h₂⟩ := (ih₂ m₁.rest m₂).1 hmem₂
      refine ⟨?_, m₁.taken, m₁.groups, m₂.taken, m₂.groups, h₁, h₂, rfl, rfl⟩
      rw [hs, hrest, andThen, List.append_assoc]
    · obtain ⟨taken, rest, groups⟩ := m
      rintro ⟨hs, w₁, g₁, w₂, g₂, h₁, h₂, rfl, rfl⟩
      change s = w₁ ++ w₂ ++ rest at hs
      rw [List.append_assoc] at hs
      refine ⟨⟨w₁, w₂ ++ rest, g₁⟩, (ih₁ s _).2 ⟨hs, h₁⟩, List.mem_map.2 ⟨⟨w₂, rest, g₂⟩, ?_, rfl⟩⟩
      exact (ih₂ (w₂ ++ rest) ⟨w₂, rest, g₂⟩).2 ⟨rfl, h₂⟩
  | alt r₁ r₂ ih₁ ih₂ => rw [run, List.mem_append, ih₁, ih₂, ← and_or_left, Derives]
  | star isLazy r ih => exact mem_iterate_iff ih isLazy (Nat.le_refl _) m
  | group i r ih =>
    rw [run, List.mem_map, Derives]
    constructor
    · rintro ⟨m₁, hmem, rfl⟩
      obtain ⟨hs, h⟩ := (ih s m₁).1 hmem
      exact ⟨hs, m₁.groups, h, rfl⟩
    · obtain ⟨taken, rest, groups⟩ := m
      rintro ⟨hs, g, h, hgroups⟩
      obtain rfl : groups = (i, taken) :: g := hgroups
      exact ⟨⟨taken, rest, g⟩, (ih s _).2 ⟨hs, h⟩, rfl⟩

/-! ## Matches of whole texts -/

variable {r : Regex α} {s : List α}

theorem derives_of_regexMatch {g : Groups α} (h : regexMatch r s = some g) : Derives r s g := by
  obtain ⟨m, hfound, rfl⟩ := Option.map_eq_some_iff.1 h
  obtain ⟨hs, hderives⟩ := (mem_run_iff r s m).1 (List.mem_of_find?_eq_some hfound)
  have hempty := List.find?_some hfound
  rw [List.isEmpty_iff.1 hempty, List.append_nil] at hs
  rwa [hs]

/-- A text is refused if and only if the expression does not match it. -/
theorem regexMatch_eq_none_iff : regexMatch r s = none ↔ ∀ g, ¬ Derives r s g := by
  rw [regexMatch, Option.map_eq_none_iff, List.find?_eq_none]
  constructor
  · intro h g hderives
    have hmem : ⟨s, [], g⟩ ∈ run r s := (mem_run_iff r s _).2 ⟨(List.append_nil s).symm, hderives⟩
    exact h _ hmem rfl
  · intro h m hmem hrest
    obtain ⟨hs, hderives⟩ := (mem_run_iff r s m).1 hmem
    rw [List.isEmpty_iff.1 hrest, List.append_nil] at hs
    exact h m.groups (by rwa [hs])

theorem derives_lit [DecidableEq α] (w : List α) (v : List α) (g : Groups α) :
    Derives (lit w) v g ↔ v = w ∧ g = [] := by
  induction w generalizing v g with
  | nil => exact Iff.rfl
  | cons c w ih =>
    simp only [lit, Derives, ih, decide_eq_true_eq]
    constructor
    · rintro ⟨-, -, -, -, ⟨c', rfl, rfl, rfl⟩, ⟨rfl, rfl⟩, rfl, rfl⟩
      exact ⟨rfl, rfl⟩
    · rintro ⟨rfl, rfl⟩
      exact ⟨[c], [], w, [], ⟨c, rfl, rfl, rfl⟩, ⟨rfl, rfl⟩, rfl, rfl⟩

/-- A class that is repeated matches every word of its characters. -/
theorem derives_star_cls {isLazy : Bool} {p : α → Bool} {w : List α} (h : ∀ c ∈ w, p c) :
    ∃ g, Derives (.star isLazy (.cls p)) w g := by
  induction w with
  | nil => exact ⟨[], .nil⟩
  | cons c w ih =>
    obtain ⟨hc, hw⟩ := List.forall_mem_cons.1 h
    obtain ⟨g, hg⟩ := ih hw
    exact ⟨_, .cons ⟨c, hc, rfl, rfl⟩ (List.cons_ne_nil c []) hg⟩

end Regex

end Text
