import Mathlib.Data.Nat.Init

/-!
# Slices of a register

A register of `w` bits holds several values side by side.  A slice is a run of its bits with their
mask; `get` reads its value, and `set` puts a value there, of which the bits that do not fit are
lost.  A value is read back as far as it fits, and the slices beside it keep theirs.

A value that is kept in two parts is the upper one, shifted up, together with the lower one; which
bits the upper part has above its own does not matter (`join_eq`).
-/

namespace Bits

/-- The bits from `pos` to `pos + len`, and the mask with just these bits. -/
structure Slice (w : ℕ) where
  pos : ℕ
  len : ℕ
  msk : BitVec w
  bound : pos + len ≤ w
  getLsbD_msk : ∀ i < w, msk.getLsbD i = (decide (pos ≤ i) && decide (i < pos + len))

namespace Slice

variable {w : ℕ} (s t : Slice w)

def get (reg : BitVec w) : BitVec w := (reg &&& s.msk) >>> s.pos

def set (reg val : BitVec w) : BitVec w := (reg &&& ~~~s.msk) ||| ((val <<< s.pos) &&& s.msk)

/-- The part of a value that fits into the slice. -/
def fit (val : BitVec w) : BitVec w := (val.setWidth s.len).setWidth w

/-- No bit is in both slices. -/
def Apart : Prop := s.pos + s.len ≤ t.pos ∨ t.pos + t.len ≤ s.pos

instance : Decidable (s.Apart t) := inferInstanceAs (Decidable (_ ∨ _))

theorem getLsbD_get (reg : BitVec w) (i : ℕ) :
    (s.get reg).getLsbD i = (decide (i < s.len) && reg.getLsbD (s.pos + i)) := by
  rw [get, BitVec.getLsbD_ushiftRight, BitVec.getLsbD_and]
  by_cases hi : s.pos + i < w
  · rw [s.getLsbD_msk _ hi, Bool.and_comm]
    simp
  · rw [BitVec.getLsbD_of_ge reg _ (Nat.le_of_not_lt hi)]
    simp

theorem getLsbD_set (reg val : BitVec w) {i : ℕ} (hi : i < w) :
    (s.set reg val).getLsbD i =
      if s.pos ≤ i ∧ i < s.pos + s.len then val.getLsbD (i - s.pos) else reg.getLsbD i := by
  rw [set, BitVec.getLsbD_or, BitVec.getLsbD_and, BitVec.getLsbD_and, BitVec.getLsbD_not,
    BitVec.getLsbD_shiftLeft, s.getLsbD_msk i hi]
  by_cases hlow : s.pos ≤ i <;> by_cases hhigh : i < s.pos + s.len <;> simp [hi, hlow, hhigh]

theorem getLsbD_fit (val : BitVec w) (i : ℕ) :
    (s.fit val).getLsbD i = (decide (i < s.len) && val.getLsbD i) := by
  have hbound := s.bound
  rw [fit, BitVec.getLsbD_setWidth, BitVec.getLsbD_setWidth]
  by_cases hi : i < s.len
  · have hw : i < w := by omega
    simp [hi, hw]
  · simp [hi]

/-- What was put into a slice is found there. -/
theorem get_set (reg val : BitVec w) : s.get (s.set reg val) = s.fit val := by
  have hbound := s.bound
  apply BitVec.eq_of_getLsbD_eq
  intro i hi
  rw [getLsbD_get, getLsbD_fit]
  by_cases hlen : i < s.len
  · rw [getLsbD_set s reg val (by omega), if_pos (by omega), Nat.add_sub_cancel_left]
  · simp [hlen]

/-- The other slices are left alone. -/
theorem get_set_of_apart (h : s.Apart t) (reg val : BitVec w) :
    t.get (s.set reg val) = t.get reg := by
  have hbound := t.bound
  apply BitVec.eq_of_getLsbD_eq
  intro i hi
  rw [getLsbD_get, getLsbD_get]
  by_cases hlen : i < t.len
  · have hout : ¬ (s.pos ≤ t.pos + i ∧ t.pos + i < s.pos + s.len) := by
      unfold Apart at h
      omega
    rw [getLsbD_set s reg val (by omega), if_neg hout]
  · simp [hlen]

end Slice

/-! ## Values in two parts -/

section Join

open BitVec

variable {w : ℕ} {x upper lower : BitVec w} {k : ℕ}

theorem getLsbD_join (hlower : ∀ i < w, k ≤ i → lower.getLsbD i = false) {i : ℕ} (hi : i < w) :
    (upper <<< k ||| lower).getLsbD i =
      if i < k then lower.getLsbD i else upper.getLsbD (i - k) := by
  rw [getLsbD_or, getLsbD_shiftLeft, decide_eq_true hi, Bool.true_and]
  by_cases hik : i < k
  · rw [if_pos hik, decide_eq_true hik, Bool.not_true, Bool.false_and, Bool.false_or]
  · rw [if_neg hik, decide_eq_false hik, Bool.not_false, Bool.true_and,
      hlower i hi (Nat.le_of_not_lt hik), Bool.or_false]

/-- The parts of `x` below and above the bit `k` put together. -/
theorem join_eq (hupper : ∀ i, k + i < w → upper.getLsbD i = x.getLsbD (k + i))
    (hlower : ∀ i < w, lower.getLsbD i = (decide (i < k) && x.getLsbD i)) :
    upper <<< k ||| lower = x := by
  apply BitVec.eq_of_getLsbD_eq
  intro i hi
  have hbelow : ∀ j < w, k ≤ j → lower.getLsbD j = false := by
    intro j hj hkj
    rw [hlower j hj, decide_eq_false (Nat.not_lt.2 hkj), Bool.false_and]
  rw [getLsbD_join hbelow hi]
  by_cases hik : i < k
  · rw [if_pos hik, hlower i hi, decide_eq_true hik, Bool.true_and]
  · have hki : k + (i - k) = i := Nat.add_sub_cancel' (Nat.le_of_not_lt hik)
    rw [if_neg hik, hupper (i - k) (by rw [hki]; exact hi), hki]

end Join

end Bits
