/-
Which values count as on. A value is off exactly if it is null, false, zero or empty; a number with
a fraction or an exponent is zero if it is at most half of the least positive number in double
precision, since all that is left of it there is nothing.

The test for such a zero looks at the exponent first and computes a power of ten only where the
exponent leaves a doubt. Here it is shown to be right everywhere.
-/
import DocCoverage.Settings.Value
import Mathlib

set_option autoImplicit false

namespace DocCoverage.Value

/-! ## Zero in double precision -/

/-- The size of a number as it is written. -/
def Decimal.magnitude (d : Decimal) : ℚ := digitsValue d.digits * 10 ^ (d.exponent - d.places)

/-- Half of the least positive number in double precision. -/
def halfOfLeast : ℚ := 1 / 2 ^ 1075

theorem halfOfLeast_lt_one : halfOfLeast < 1 :=
  (div_lt_one (by positivity)).2 (one_lt_pow₀ (by norm_num) (by norm_num))

/-- From 324 places behind the point on, nothing is above half of the least number. -/
theorem ten_pow_neg_le_halfOfLeast : (10 : ℚ) ^ (-324 : ℤ) ≤ halfOfLeast := by
  have hpowers : (2 : ℕ) ^ 1075 ≤ 10 ^ 324 := by decide +kernel
  unfold halfOfLeast
  rw [zpow_neg, ← one_div]
  exact one_div_le_one_div_of_le (by positivity) (by exact_mod_cast hpowers)

/-- Digits read after a number add as many places to it. -/
theorem foldl_digits_lt {cs : List Char} (hdigits : ∀ c ∈ cs, c.isDigit = true) (start : ℕ) :
    cs.foldl (fun n c => 10 * n + (c.toNat - '0'.toNat)) start < (start + 1) * 10 ^ cs.length := by
  induction cs generalizing start with
  | nil => simp
  | cons c rest ih =>
    obtain ⟨hc, hrest⟩ := List.forall_mem_cons.1 hdigits
    have hdigit : c.toNat - '0'.toNat ≤ 9 := by
      simp only [Char.isDigit, ge_iff_le, Bool.and_eq_true, decide_eq_true_eq] at hc
      have hle : c.toNat ≤ 57 := hc.2
      show c.toNat - 48 ≤ 9
      omega
    calc rest.foldl (fun n c => 10 * n + (c.toNat - '0'.toNat)) (10 * start + (c.toNat - '0'.toNat))
      _ < (10 * start + (c.toNat - '0'.toNat) + 1) * 10 ^ rest.length := ih hrest _
      _ ≤ (10 * (start + 1)) * 10 ^ rest.length := Nat.mul_le_mul_right _ (by omega)
      _ = (start + 1) * 10 ^ (c :: rest).length := by rw [List.length_cons, pow_succ]; ring

theorem digitsValue_lt (cs : List Char) : digitsValue cs < 10 ^ cs.length := by
  have hfold := foldl_digits_lt (fun c hc => (List.mem_filter.1 hc).2 :
    ∀ c ∈ cs.filter Char.isDigit, c.isDigit = true) 0
  rw [Nat.zero_add, Nat.one_mul] at hfold
  exact hfold.trans_le (Nat.pow_le_pow_right (by norm_num) (List.length_filter_le _ _))

/-- Comparing two fractions whose denominators are powers. -/
theorem mul_zpow_neg_le_iff (n places binary : ℕ) :
    (n : ℚ) * 10 ^ (-(places : ℤ)) ≤ 1 / 2 ^ binary
      ↔ n * Nat.pow 2 binary ≤ Nat.pow 10 places := by
  rw [zpow_neg, zpow_natCast, ← div_eq_mul_inv,
    div_le_div_iff₀ (by positivity) (by positivity), one_mul]
  exact_mod_cast Iff.rfl

/-- **A number is zero in double precision** exactly if it has digits and is at most half of the
least positive number. -/
theorem Decimal.isZero_iff (d : Decimal) :
    d.isZero = true ↔ d.digits ≠ [] ∧ d.magnitude ≤ halfOfLeast := by
  unfold isZero magnitude
  dsimp only
  set n := digitsValue d.digits
  set shift : ℤ := d.places - d.exponent
  rw [show d.exponent - d.places = -shift by ring]
  by_cases hdigits : d.digits = []
  · simp [hdigits]
  rw [if_neg (by simpa using hdigits), and_iff_right hdigits]
  by_cases hzero : n = 0
  · simp [hzero, halfOfLeast]
  have hpositive : (1 : ℚ) ≤ n := by exact_mod_cast Nat.one_le_iff_ne_zero.2 hzero
  by_cases hsmall : (d.digits.length : ℤ) + 324 ≤ shift
  · -- the exponent outweighs the digits, whatever they are
    rw [if_pos (by simp [hsmall]), iff_true_left rfl]
    have hlt : (n : ℚ) < 10 ^ (d.digits.length : ℤ) := by
      rw [zpow_natCast]
      exact_mod_cast digitsValue_lt d.digits
    calc (n : ℚ) * 10 ^ (-shift)
      _ ≤ 10 ^ (d.digits.length : ℤ) * 10 ^ (-shift) := by gcongr
      _ = 10 ^ ((d.digits.length : ℤ) + -shift) := (zpow_add₀ (by norm_num) _ _).symm
      _ ≤ 10 ^ (-324 : ℤ) := zpow_le_zpow_right₀ (by norm_num) (by omega)
      _ ≤ halfOfLeast := ten_pow_neg_le_halfOfLeast
  rw [if_neg (by simp [hzero, hsmall])]
  by_cases hwhole : shift ≤ 0
  · -- a whole number other than zero
    rw [if_pos hwhole, iff_false_left Bool.false_ne_true, not_le]
    calc halfOfLeast
      _ < 1 := halfOfLeast_lt_one
      _ ≤ (n : ℚ) := hpositive
      _ ≤ n * 10 ^ (-shift) :=
        le_mul_of_one_le_right (by positivity) (one_le_zpow₀ (by norm_num) (by omega))
  · obtain ⟨places, hplaces⟩ := Int.eq_ofNat_of_zero_le (by omega : 0 ≤ shift)
    rw [if_neg hwhole, hplaces, Int.toNat_natCast, decide_eq_true_eq, halfOfLeast]
    generalize 1075 = binary
    exact (mul_zpow_neg_le_iff n places binary).symm

/-! ## Off -/

/-- The values that are null, false, zero or empty. -/
inductive Off : Value → Prop where
  | null : Off .null
  | no : Off (.bool false)
  | zero : Off (.int 0)
  | emptyText : Off (.text "")
  | emptyList : Off (.list [])
  | emptyTable : Off (.table [])
  /-- A number with a fraction or an exponent of which nothing is left in double precision. -/
  | vanishing {written : String} (digits : (Decimal.ofText written).digits ≠ [])
      (small : (Decimal.ofText written).magnitude ≤ halfOfLeast) : Off (.literal .float written)

/-- **A value counts as on** exactly if it is neither null nor false nor zero nor empty. -/
theorem isOn_eq_false_iff (v : Value) : v.isOn = false ↔ Off v := by
  constructor
  · intro h
    cases v with
    | null => exact .null
    | bool b => cases b with
      | false => exact .no
      | true => cases h
    | int n =>
      obtain rfl : n = 0 := by simpa [isOn] using h
      exact .zero
    | text s =>
      obtain rfl : s = "" := by simpa [isOn] using h
      exact .emptyText
    | list items =>
      obtain rfl : items = [] := by simpa [isOn] using h
      exact .emptyList
    | table entries =>
      obtain rfl : entries = [] := by simpa [isOn] using h
      exact .emptyTable
    | literal kind written => cases kind with
      | float =>
        rw [isOn, Bool.not_eq_false', Decimal.isZero_iff] at h
        exact .vanishing h.1 h.2
      | dateTime | date | time => cases h
  · intro h
    cases h with
    | null | no | zero | emptyText | emptyList | emptyTable => rfl
    | vanishing digits small =>
      rw [isOn, Bool.not_eq_false', Decimal.isZero_iff]
      exact ⟨digits, small⟩

end DocCoverage.Value
