import Mathlib.Algebra.Order.Ring.Int

/-!
# Signed arithmetic that must not overflow

Expressions over signed 32-bit values have two meanings: with a wrap-around in each operation, and
in the integers.  They agree where no operation overflows (`toInt_wrapped`).  Whether none does for
all values between given bounds is decided from the bounds (`fits_of_bounds`).
-/

namespace Arith

inductive Op where
  | add
  | sub
  | mul
  deriving DecidableEq, Repr

/-- An expression over the variables `ι`; the shifts are by fewer than 32 bits. -/
inductive Expr (ι : Type) where
  | var (i : ι)
  | const (c : Int32)
  | op (o : Op) (a b : Expr ι)
  | shiftLeft (a : Expr ι) (k : Fin 32)
  | shiftRight (a : Expr ι) (k : Fin 32)

/-- The integers between two bounds. -/
structure Bounds where
  low : ℤ
  high : ℤ
  deriving DecidableEq, Repr

namespace Bounds

def Mem (b : Bounds) (n : ℤ) : Prop := b.low ≤ n ∧ n ≤ b.high

instance (b : Bounds) (n : ℤ) : Decidable (b.Mem n) := inferInstanceAs (Decidable (_ ∧ _))

/-- The values of a signed 32-bit variable. -/
def int32 : Bounds := ⟨-2147483648, 2147483647⟩

def add (a b : Bounds) : Bounds := ⟨a.low + b.low, a.high + b.high⟩

def sub (a b : Bounds) : Bounds := ⟨a.low - b.high, a.high - b.low⟩

def mul (a b : Bounds) : Bounds where
  low := min (min (a.low * b.low) (a.low * b.high)) (min (a.high * b.low) (a.high * b.high))
  high := max (max (a.low * b.low) (a.low * b.high)) (max (a.high * b.low) (a.high * b.high))

def scale (a : Bounds) (c : ℤ) : Bounds := ⟨a.low * c, a.high * c⟩

def divide (a : Bounds) (c : ℤ) : Bounds := ⟨a.low / c, a.high / c⟩

/-- The bounds, if they are those of 32-bit values. -/
def checked (b : Bounds) : Option Bounds :=
  if int32.low ≤ b.low ∧ b.high ≤ int32.high then some b else none

variable {a b : Bounds} {m n c : ℤ}

theorem mem_add (hm : a.Mem m) (hn : b.Mem n) : (a.add b).Mem (m + n) :=
  ⟨Int.add_le_add hm.1 hn.1, Int.add_le_add hm.2 hn.2⟩

theorem mem_sub (hm : a.Mem m) (hn : b.Mem n) : (a.sub b).Mem (m - n) :=
  ⟨Int.sub_le_sub hm.1 hn.2, Int.sub_le_sub hm.2 hn.1⟩

/-- A product lies between the products with the ends of one factor. -/
theorem mul_between (hm : a.Mem m) (n : ℤ) :
    min (a.low * n) (a.high * n) ≤ m * n ∧ m * n ≤ max (a.low * n) (a.high * n) := by
  rcases le_total 0 n with hpos | hneg
  · have hlow := mul_le_mul_of_nonneg_right hm.1 hpos
    have hhigh := mul_le_mul_of_nonneg_right hm.2 hpos
    exact ⟨(min_le_left _ _).trans hlow, hhigh.trans (le_max_right _ _)⟩
  · have hlow := mul_le_mul_of_nonpos_right hm.1 hneg
    have hhigh := mul_le_mul_of_nonpos_right hm.2 hneg
    exact ⟨(min_le_right _ _).trans hhigh, hlow.trans (le_max_left _ _)⟩

theorem mem_mul (hm : a.Mem m) (hn : b.Mem n) : (a.mul b).Mem (m * n) := by
  have houter := mul_between hm n
  have hinner := fun k => mul_between hn k
  have hlow := hinner a.low
  have hhigh := hinner a.high
  rw [mul_comm n, mul_comm b.low, mul_comm b.high] at hlow hhigh
  refine ⟨?_, ?_⟩
  · exact (min_le_min hlow.1 hhigh.1).trans houter.1
  · exact houter.2.trans (max_le_max hlow.2 hhigh.2)

theorem mem_scale (hm : a.Mem m) (hc : 0 ≤ c) : (a.scale c).Mem (m * c) :=
  ⟨mul_le_mul_of_nonneg_right hm.1 hc, mul_le_mul_of_nonneg_right hm.2 hc⟩

theorem mem_divide (hm : a.Mem m) (hc : 0 < c) : (a.divide c).Mem (m / c) :=
  ⟨Int.ediv_le_ediv hc hm.1, Int.ediv_le_ediv hc hm.2⟩

theorem mem_of_checked (h : a.checked = some b) (hm : a.Mem m) : int32.Mem m ∧ b.Mem m := by
  obtain ⟨hrange, hsame⟩ := Option.ite_none_right_eq_some.1 h
  obtain rfl := Option.some.inj hsame
  exact ⟨⟨hrange.1.trans hm.1, hm.2.trans hrange.2⟩, hm⟩

end Bounds

namespace Op

def wrapped : Op → Int32 → Int32 → Int32
  | add, x, y => x + y
  | sub, x, y => x - y
  | mul, x, y => x * y

def exact : Op → ℤ → ℤ → ℤ
  | add, m, n => m + n
  | sub, m, n => m - n
  | mul, m, n => m * n

def bounds : Op → Bounds → Bounds → Bounds
  | add => .add
  | sub => .sub
  | mul => .mul

theorem toInt_wrapped (o : Op) (x y : Int32) :
    (o.wrapped x y).toInt = (o.exact x.toInt y.toInt).bmod 4294967296 := by
  cases o with
  | add => exact Int32.toInt_add x y
  | sub => exact Int32.toInt_sub x y
  | mul => exact Int32.toInt_mul x y

theorem mem_bounds (o : Op) {a b : Bounds} {m n : ℤ} (hm : a.Mem m) (hn : b.Mem n) :
    (o.bounds a b).Mem (o.exact m n) := by
  cases o with
  | add => exact Bounds.mem_add hm hn
  | sub => exact Bounds.mem_sub hm hn
  | mul => exact Bounds.mem_mul hm hn

end Op

namespace Expr

variable {ι : Type}

instance : Add (Expr ι) := ⟨.op .add⟩
instance : Sub (Expr ι) := ⟨.op .sub⟩
instance : Mul (Expr ι) := ⟨.op .mul⟩
instance : HShiftLeft (Expr ι) ℕ (Expr ι) := ⟨fun a k => .shiftLeft a (.ofNat 32 k)⟩
instance : HShiftRight (Expr ι) ℕ (Expr ι) := ⟨fun a k => .shiftRight a (.ofNat 32 k)⟩
instance {n : ℕ} : OfNat (Expr ι) n := ⟨.const (OfNat.ofNat n)⟩

/-- The value with a wrap-around in each operation. -/
def wrapped (env : ι → Int32) : Expr ι → Int32
  | var i => env i
  | const c => c
  | op o a b => o.wrapped (a.wrapped env) (b.wrapped env)
  | shiftLeft a k => a.wrapped env <<< Int32.ofNat k
  | shiftRight a k => a.wrapped env >>> Int32.ofNat k

/-- The value in the integers. -/
def exact (v : ι → ℤ) : Expr ι → ℤ
  | var i => v i
  | const c => c.toInt
  | op o a b => o.exact (a.exact v) (b.exact v)
  | shiftLeft a k => a.exact v * (1 <<< (k : ℕ) : ℕ)
  | shiftRight a k => a.exact v / (1 <<< (k : ℕ) : ℕ)

/-- No operation overflows. -/
def Fits (v : ι → ℤ) : Expr ι → Prop
  | var _ | const _ => True
  | op o a b => a.Fits v ∧ b.Fits v ∧ Bounds.int32.Mem (o.exact (a.exact v) (b.exact v))
  | shiftLeft a k => a.Fits v ∧ Bounds.int32.Mem (a.exact v * (1 <<< (k : ℕ) : ℕ))
  | shiftRight a _ => a.Fits v

/-- Bounds of the value from bounds of the variables, if no operation can overflow. -/
def bounds (v : ι → Bounds) : Expr ι → Option Bounds
  | var i => some (v i)
  | const c => some ⟨c.toInt, c.toInt⟩
  | op o a b => do (o.bounds (← a.bounds v) (← b.bounds v)).checked
  | shiftLeft a k => do ((← a.bounds v).scale (1 <<< (k : ℕ) : ℕ)).checked
  | shiftRight a k => do return (← a.bounds v).divide (1 <<< (k : ℕ) : ℕ)

/-! ## Without an overflow -/

theorem bmod_of_mem {n : ℤ} (h : Bounds.int32.Mem n) : n.bmod 4294967296 = n := by
  obtain ⟨hlow, hhigh⟩ := h
  change -2147483648 ≤ n at hlow
  change n ≤ 2147483647 at hhigh
  rw [Int.bmod_def]
  omega

/-- The shifts of the machine take the amount modulo 32. -/
theorem amount_eq (k : Fin 32) : ((Int32.ofNat k).toBitVec.smod 32).toNat = k := by
  revert k
  decide

theorem toInt_shiftLeft (x : Int32) (k : Fin 32) :
    (x <<< Int32.ofNat k).toInt = (x.toInt * (1 <<< (k : ℕ) : ℕ)).bmod 4294967296 := by
  have hbits : (x <<< Int32.ofNat k).toBitVec = x.toBitVec <<< (k : ℕ) := by
    change x.toBitVec <<< (Int32.ofNat k).toBitVec.smod 32 = _
    rw [BitVec.shiftLeft_eq', amount_eq]
  have hbmod : ((4294967296 : ℕ) : ℤ) = 4294967296 := rfl
  rw [← Int32.toInt_toBitVec, hbits, ← Int32.toInt_toBitVec, BitVec.toInt_eq_toNat_bmod,
    BitVec.toInt_eq_toNat_bmod, BitVec.toNat_shiftLeft, Nat.shiftLeft_eq, Nat.one_shiftLeft,
    Int.natCast_emod, Nat.cast_mul]
  change (_ % ((4294967296 : ℕ) : ℤ)).bmod 4294967296 = (Int.bmod _ 4294967296 * _).bmod 4294967296
  rw [Int.emod_bmod, Int.bmod_mul_bmod]

theorem toInt_shiftRight (x : Int32) (k : Fin 32) :
    (x >>> Int32.ofNat k).toInt = x.toInt / (1 <<< (k : ℕ) : ℕ) := by
  have hbits : (x >>> Int32.ofNat k).toBitVec = x.toBitVec.sshiftRight k := by
    change x.toBitVec.sshiftRight' ((Int32.ofNat k).toBitVec.smod 32) = _
    rw [BitVec.sshiftRight_eq', amount_eq]
  rw [← Int32.toInt_toBitVec, hbits, BitVec.toInt_sshiftRight, Int32.toInt_toBitVec,
    Int.shiftRight_eq_div_pow, Nat.one_shiftLeft]

variable {env : ι → Int32}

/-- Where nothing overflows, the wrap-around makes no difference. -/
theorem toInt_wrapped {e : Expr ι} (h : e.Fits fun i => (env i).toInt) :
    (e.wrapped env).toInt = e.exact fun i => (env i).toInt := by
  induction e with
  | var i => rfl
  | const c => rfl
  | op o a b iha ihb =>
    obtain ⟨ha, hb, hrange⟩ := h
    rw [wrapped, exact, Op.toInt_wrapped, iha ha, ihb hb]
    exact bmod_of_mem hrange
  | shiftLeft a k iha =>
    obtain ⟨ha, hrange⟩ := h
    rw [wrapped, exact, toInt_shiftLeft, iha ha]
    exact bmod_of_mem hrange
  | shiftRight a k iha => rw [wrapped, exact, toInt_shiftRight, iha h]

theorem shift_pos (k : Fin 32) : (0 : ℤ) < (1 <<< (k : ℕ) : ℕ) := by
  revert k
  decide

variable {v : ι → Bounds} {w : ι → ℤ}

/-- With bounds for the variables that give bounds for the value, no operation overflows. -/
theorem fits_of_bounds (hv : ∀ i, (v i).Mem (w i)) {e : Expr ι} {b : Bounds}
    (h : e.bounds v = some b) : e.Fits w ∧ b.Mem (e.exact w) := by
  induction e generalizing b with
  | var i =>
    obtain rfl := Option.some.inj h
    exact ⟨trivial, hv i⟩
  | const c =>
    obtain rfl := Option.some.inj h
    exact ⟨trivial, le_refl _, le_refl _⟩
  | op o a₁ a₂ ih₁ ih₂ =>
    obtain ⟨b₁, h₁, h'⟩ := Option.bind_eq_some_iff.1 h
    obtain ⟨b₂, h₂, hchecked⟩ := Option.bind_eq_some_iff.1 h'
    obtain ⟨hfits₁, hmem₁⟩ := ih₁ h₁
    obtain ⟨hfits₂, hmem₂⟩ := ih₂ h₂
    obtain ⟨hrange, hmem⟩ := Bounds.mem_of_checked hchecked (o.mem_bounds hmem₁ hmem₂)
    exact ⟨⟨hfits₁, hfits₂, hrange⟩, hmem⟩
  | shiftLeft a k ih =>
    obtain ⟨b', h', hchecked⟩ := Option.bind_eq_some_iff.1 h
    obtain ⟨hfits, hmem'⟩ := ih h'
    obtain ⟨hrange, hmem⟩ :=
      Bounds.mem_of_checked hchecked (Bounds.mem_scale hmem' (shift_pos k).le)
    exact ⟨⟨hfits, hrange⟩, hmem⟩
  | shiftRight a k ih =>
    obtain ⟨b', h', hsame⟩ := Option.bind_eq_some_iff.1 h
    obtain ⟨hfits, hmem⟩ := ih h'
    obtain rfl := Option.some.inj hsame
    exact ⟨hfits, Bounds.mem_divide hmem (shift_pos k)⟩

/-- Within such bounds an expression has its value in the integers. -/
theorem exact_of_bounds {env : ι → Int32} (hv : ∀ i, (v i).Mem (env i).toInt) {e : Expr ι}
    {b : Bounds} (h : e.bounds v = some b) :
    e.Fits (fun i => (env i).toInt) ∧ b.Mem (e.exact fun i => (env i).toInt) ∧
      (e.wrapped env).toInt = e.exact fun i => (env i).toInt := by
  obtain ⟨hfits, hmem⟩ := fits_of_bounds hv h
  exact ⟨hfits, hmem, toInt_wrapped hfits⟩

end Expr

end Arith
