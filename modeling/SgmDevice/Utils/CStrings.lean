import Mathlib.Algebra.Order.Group.Unbundled.Int
import Mathlib.Data.List.Infix
import Mathlib.Data.List.TakeWhile

/-!
# Searching and scanning C strings

What `strstr` and the conversions `%d` and `%s` of `sscanf` do to a string, given as the list of its
characters up to the terminator.  Every conversion skips the blanks before its field and returns
what is left of the string.
-/

namespace CStrings

/-- The text of a C string ends at the first NUL. -/
def text (s : List Char) : List Char := s.takeWhile (·.toNat ≠ 0)

/-- What `c_str()` gives of a `std::string`. -/
def c_str (s : String) : String := String.ofList (text s.toList)

/-- The text of a C string given as bytes. -/
def content (s : List UInt8) : List UInt8 := s.takeWhile (· ≠ 0)

/-- `strstr(line, needle) != NULL`. -/
def strstr (line needle : List Char) : Bool := decide (needle <:+: line)

/-- `isspace` in the C locale. -/
def isSpace (c : Char) : Bool := c = ' ' || (9 ≤ c.toNat && c.toNat ≤ 13)

/-- The value of a decimal numeral. -/
def numeral (digits : List Char) : ℕ := digits.foldl (fun n c => 10 * n + (c.toNat - 48)) 0

/-- A number that does not fit into an `int` becomes the nearest one that does. -/
def toInt (n : Int) : Int := max (-2147483648) (min n 2147483647)

/-- The sign of a number, if it has one. -/
def scanSign : List Char → Int × List Char
  | '-' :: rest => (-1, rest)
  | '+' :: rest => (1, rest)
  | rest => (1, rest)

/-- `%d`. -/
def scanInt (s : List Char) : Option (Int × List Char) :=
  let (sign, s) := scanSign (s.dropWhile isSpace)
  let digits := s.takeWhile Char.isDigit
  if digits = [] then none else some (toInt (sign * numeral digits), s.dropWhile Char.isDigit)

/-- `%s`. -/
def scanWord (s : List Char) : Option (List Char × List Char) :=
  let s := s.dropWhile isSpace
  let word := s.takeWhile (!isSpace ·)
  if word = [] then none else some (word, s.dropWhile (!isSpace ·))

theorem content_terminated (s rest : List UInt8) : content (s ++ 0 :: rest) = content s := by
  induction s with
  | nil => rfl
  | cons byte s ih =>
    unfold content at ih ⊢
    rw [List.cons_append, List.takeWhile_cons, List.takeWhile_cons, ih]

/-! ## Fields between blanks -/

/-- A field ends at the first character of another kind. -/
theorem split_field {p : Char → Bool} {field rest : List Char} (hfield : ∀ c ∈ field, p c)
    (hrest : ∀ c ∈ rest.head?, p c = false) :
    (field ++ rest).takeWhile p = field ∧ (field ++ rest).dropWhile p = rest := by
  rw [List.takeWhile_append_of_pos hfield, List.dropWhile_append_of_pos hfield]
  cases rest with
  | nil => simp
  | cons c rest => simp [hrest c rfl]

theorem isDigit_iff {c : Char} : c.isDigit ↔ 48 ≤ c.toNat ∧ c.toNat ≤ 57 := by
  rw [Char.isDigit, Bool.and_eq_true, decide_eq_true_iff, decide_eq_true_iff]
  exact and_congr UInt32.le_iff_toNat_le UInt32.le_iff_toNat_le

theorem isSpace_of_isDigit {c : Char} (h : c.isDigit) : isSpace c = false := by
  have hcode := isDigit_iff.1 h
  have hblank : c ≠ ' ' := by
    rintro rfl
    exact absurd h (by decide)
  simp only [isSpace, hblank, decide_false, Bool.false_or, Bool.and_eq_false_iff,
    decide_eq_false_iff_not]
  omega

theorem isDigit_of_isSpace {c : Char} (h : isSpace c) : c.isDigit = false := by
  by_contra hdigit
  rw [isSpace_of_isDigit (eq_true_of_ne_false hdigit)] at h
  cases h

theorem toNat_ne_zero_of_isSpace {c : Char} (h : isSpace c) : c.toNat ≠ 0 := by
  intro hzero
  have hblank : c ≠ ' ' := by
    rintro rfl
    exact absurd hzero (by decide)
  simp [isSpace, hblank, hzero] at h

/-- A string without NUL is its own text. -/
theorem text_eq_self {s : List Char} (h : ∀ c ∈ s, c.toNat ≠ 0) : text s = s :=
  List.takeWhile_eq_self_iff.2 fun c hc => decide_eq_true (h c hc)

/-- A numeral has no sign. -/
theorem scanSign_of_isDigit {c : Char} (h : c.isDigit) (rest : List Char) :
    scanSign (c :: rest) = (1, c :: rest) := by
  unfold scanSign
  split
  · rename_i heq
    obtain ⟨rfl, -⟩ := List.cons.inj heq
    exact absurd h (by decide)
  · rename_i heq
    obtain ⟨rfl, -⟩ := List.cons.inj heq
    exact absurd h (by decide)
  · rfl

/-- `%d` on an unsigned numeral. -/
theorem scanInt_numeral {blank digits rest : List Char} (hblank : ∀ c ∈ blank, isSpace c)
    (hdigits : ∀ c ∈ digits, c.isDigit) (hne : digits ≠ [])
    (hrest : ∀ c ∈ rest.head?, c.isDigit = false) :
    scanInt (blank ++ (digits ++ rest)) = some (toInt (numeral digits), rest) := by
  obtain ⟨htake, hdrop⟩ := split_field hdigits hrest
  obtain ⟨c, digits', rfl⟩ := List.exists_cons_of_ne_nil hne
  have hc : c.isDigit := hdigits c List.mem_cons_self
  have hskip : (blank ++ (c :: digits' ++ rest)).dropWhile isSpace = c :: digits' ++ rest :=
    (split_field hblank (by simpa using isSpace_of_isDigit hc)).2
  have hsign : scanSign (c :: digits' ++ rest) = (1, c :: digits' ++ rest) :=
    scanSign_of_isDigit hc _
  unfold scanInt
  rw [hskip, hsign]
  simp only [htake, hdrop, if_neg hne, one_mul]

/-- `%s` on a word. -/
theorem scanWord_word {blank word rest : List Char} (hblank : ∀ c ∈ blank, isSpace c)
    (hword : ∀ c ∈ word, !isSpace c) (hne : word ≠ []) (hrest : ∀ c ∈ rest.head?, isSpace c) :
    scanWord (blank ++ (word ++ rest)) = some (word, rest) := by
  obtain ⟨htake, hdrop⟩ := split_field hword (by simpa using hrest)
  obtain ⟨c, word', rfl⟩ := List.exists_cons_of_ne_nil hne
  have hskip : (blank ++ (c :: word' ++ rest)).dropWhile isSpace = c :: word' ++ rest :=
    (split_field hblank (by simpa using hword c List.mem_cons_self)).2
  unfold scanWord
  rw [hskip]
  simp only [htake, hdrop, if_neg hne]

end CStrings
