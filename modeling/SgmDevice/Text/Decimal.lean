import Mathlib.Data.List.TakeWhile

/-!
# Decimal numerals

Numbers as the bytes of their decimal digits, with a minus sign in front of the negative ones.
-/

namespace Text

/-- The bytes of an ASCII text. -/
def ascii (s : String) : List UInt8 := s.toList.map Char.toUInt8

def isDigit (byte : UInt8) : Bool := 48 ≤ byte.toNat && byte.toNat ≤ 57

/-- The value of a numeral. -/
def value (digits : List UInt8) : ℕ := digits.foldl (fun n byte => 10 * n + (byte.toNat - 48)) 0

def decimal (n : ℕ) : List UInt8 := (Nat.toDigits 10 n).map Char.toUInt8

def signedDecimal (i : Int) : List UInt8 :=
  if i < 0 then 45 :: decimal i.natAbs else decimal i.natAbs

theorem toNat_toUInt8 {c : Char} (h : c.isDigit) :
    c.toUInt8.toNat = c.toNat ∧ 48 ≤ c.toNat ∧ c.toNat ≤ 57 := by
  rw [Char.isDigit, Bool.and_eq_true, decide_eq_true_iff, decide_eq_true_iff] at h
  have hlow : 48 ≤ c.toNat := UInt32.le_iff_toNat_le.1 h.1
  have hhigh : c.toNat ≤ 57 := UInt32.le_iff_toNat_le.1 h.2
  refine ⟨?_, hlow, hhigh⟩
  have hbyte : c.toUInt8.toNat = c.toNat % 256 := UInt32.toNat_toUInt8 c.val
  omega

theorem isDigit_of_mem_decimal {n : ℕ} {byte : UInt8} (h : byte ∈ decimal n) : isDigit byte := by
  obtain ⟨c, hc, rfl⟩ := List.mem_map.1 h
  obtain ⟨hbyte, hlow, hhigh⟩ :=
    toNat_toUInt8 (Nat.isDigit_of_mem_toDigits (by decide) (by decide) hc)
  rw [isDigit, hbyte, Bool.and_eq_true, decide_eq_true_iff, decide_eq_true_iff]
  exact ⟨hlow, hhigh⟩

theorem foldl_toUInt8 {cs : List Char} (h : ∀ c ∈ cs, c.isDigit) (n : ℕ) :
    (cs.map Char.toUInt8).foldl (fun n byte => 10 * n + (byte.toNat - 48)) n =
      Nat.ofDigitChars 10 cs n := by
  induction cs generalizing n with
  | nil => rw [List.map_nil, List.foldl_nil, Nat.ofDigitChars_nil]
  | cons c cs ih =>
    obtain ⟨hc, hcs⟩ := List.forall_mem_cons.1 h
    rw [List.map_cons, List.foldl_cons, (toNat_toUInt8 hc).1, ih hcs, Nat.ofDigitChars_cons]
    rfl

/-- A number is the value of its numeral. -/
theorem value_decimal (n : ℕ) : value (decimal n) = n := by
  rw [value, decimal,
    foldl_toUInt8 fun c hc => Nat.isDigit_of_mem_toDigits (by decide) (by decide) hc,
    Nat.ofDigitChars_ten_toDigits]

/-- A numeral ends at the first byte that is no digit. -/
theorem takeWhile_decimal (n : ℕ) {rest : List UInt8}
    (h : ∀ byte ∈ rest.head?, isDigit byte = false) :
    (decimal n ++ rest).takeWhile isDigit = decimal n := by
  rw [List.takeWhile_append_of_pos fun _ => isDigit_of_mem_decimal]
  cases rest with
  | nil => rw [List.takeWhile_nil, List.append_nil]
  | cons byte rest =>
    rw [List.takeWhile_cons_of_neg (by simp [h byte rfl]), List.append_nil]

theorem decimal_inj {m n : ℕ} (h : decimal m = decimal n) : m = n := by
  rw [← value_decimal m, h, value_decimal]

theorem cons_minus_ne_decimal (w : List UInt8) (n : ℕ) : 45 :: w ≠ decimal n := by
  intro h
  have hminus : isDigit 45 := isDigit_of_mem_decimal (h ▸ List.mem_cons_self)
  exact absurd hminus (by decide)

/-- Different numbers have different numerals. -/
theorem signedDecimal_inj {i j : Int} (h : signedDecimal i = signedDecimal j) : i = j := by
  unfold signedDecimal at h
  by_cases hi : i < 0 <;> by_cases hj : j < 0
  · rw [if_pos hi, if_pos hj] at h
    have habs := decimal_inj (List.cons.inj h).2
    omega
  · rw [if_pos hi, if_neg hj] at h
    exact absurd h (cons_minus_ne_decimal _ _)
  · rw [if_neg hi, if_pos hj] at h
    exact absurd h.symm (cons_minus_ne_decimal _ _)
  · rw [if_neg hi, if_neg hj] at h
    have habs := decimal_inj h
    omega

theorem signedDecimal_natCast (n : ℕ) : signedDecimal n = decimal n := by
  rw [signedDecimal, if_neg (by omega), Int.natAbs_natCast]

end Text
