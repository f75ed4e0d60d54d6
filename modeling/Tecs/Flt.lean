import Mathlib.Algebra.Order.Field.Rat
import Mathlib.Tactic.NormNum.OfScientific
import Mathlib.Tactic.Linarith

/-!
# Single-precision scalars, idealised

`TECS.cpp` computes in `float`.  The model keeps what its control flow depends on and drops
rounding:

* a finite `float` is an exact rational, so finite arithmetic never rounds and never
  overflows;
* every non-finite `float` is the one value `nan`.  Arithmetic on it gives `nan`, every ordered
  comparison with it is false, and `PX4_ISFINITE` of it is false.  A division by zero is
  non-finite, so it is `nan` as well.

IEEE 754 distinguishes `±∞` from NaN, and `∞` still compares.  The two agree on every path on
which no infinity is produced.  The only divisions that can produce one on a reachable state are
the pitch law's divisions by `_tas_state` (see `Tecs/Divisions.lean`), and there the law clamps
the infinity back into its limits.  Those two divisions, and the two members they write, use
`XFlt` (the last section): a `Flt` or `±∞`, with the IEEE rules for what the pitch law does with
them.

The helpers of `lib/mathlib` that the controller calls (`math::constrain`, `math::max`,
`math::min`, `fmaxf`, `fabsf`) are not under `src/`.  They are written here as the comparisons
that define them, so that their behaviour on `nan` is the behaviour of those comparisons.
-/

namespace Tecs

/-- A `float` of the controller: `num q` is the finite value `q`, and `nan` stands for every
non-finite value. -/
inductive Flt where
  | num (q : ℚ)
  | nan
  deriving DecidableEq, Repr

namespace Flt

/-- A binary arithmetic operation of `float`: exact on finite values, absorbing on `nan`. -/
def lift₂ (f : ℚ → ℚ → ℚ) : Flt → Flt → Flt
  | num a, num b => num (f a b)
  | _, _ => nan

instance : Add Flt := ⟨lift₂ (· + ·)⟩
instance : Sub Flt := ⟨lift₂ (· - ·)⟩
instance : Mul Flt := ⟨lift₂ (· * ·)⟩
instance : Neg Flt := ⟨fun | num a => num (-a) | nan => nan⟩

/-- Division.  A zero divisor yields a non-finite value, which the model collapses to `nan`. -/
def div : Flt → Flt → Flt
  | num a, num b => if b = 0 then nan else num (a / b)
  | _, _ => nan

instance : Div Flt := ⟨div⟩
instance {n : ℕ} : OfNat Flt n := ⟨num (OfNat.ofNat n)⟩
instance : OfScientific Flt := ⟨fun m s e => num (OfScientific.ofScientific m s e)⟩
instance : Coe ℚ Flt := ⟨num⟩

/-- An ordered comparison of `float`s: false as soon as one side is `nan`. -/
def lt : Flt → Flt → Bool
  | num a, num b => decide (a < b)
  | _, _ => false

/-- `a <= b` on `float`s: false as soon as one side is `nan`. -/
def le : Flt → Flt → Bool
  | num a, num b => decide (a ≤ b)
  | _, _ => false

instance : LT Flt := ⟨fun a b => a.lt b⟩
instance : LE Flt := ⟨fun a b => a.le b⟩
instance (a b : Flt) : Decidable (a < b) := inferInstanceAs (Decidable (a.lt b = true))
instance (a b : Flt) : Decidable (a ≤ b) := inferInstanceAs (Decidable (a.le b = true))

/-- `PX4_ISFINITE`. -/
def isFinite : Flt → Bool
  | num _ => true
  | nan => false

/-- Modelled from the spec: `math::constrain(val, min_val, max_val)` of `lib/mathlib`, the
clamp of §4, written as the comparisons that implement it. -/
def constrain (val lo hi : Flt) : Flt :=
  if val < lo then lo else if val > hi then hi else val

/-- Modelled from the spec: `math::max(a, b)`, that is `(a > b) ? a : b`. -/
def mathMax (a b : Flt) : Flt := if a > b then a else b

/-- Modelled from the spec: `math::min(a, b)`, that is `(a < b) ? a : b`. -/
def mathMin (a b : Flt) : Flt := if a < b then a else b

/-- `fmaxf`: the larger operand, and the other operand when one of them is `nan`. -/
def fmaxf : Flt → Flt → Flt
  | num a, num b => num (max a b)
  | nan, b => b
  | a, nan => a

/-- `fabsf`. -/
def fabsf : Flt → Flt
  | num a => num |a|
  | nan => nan

/-! ## Arithmetic on finite values and on `nan` -/

variable {a b : ℚ} {x y : Flt}

@[simp] lemma num_add_num : num a + num b = num (a + b) := rfl
@[simp] lemma num_sub_num : num a - num b = num (a - b) := rfl
@[simp] lemma num_mul_num : num a * num b = num (a * b) := rfl
@[simp] lemma neg_num : -num a = num (-a) := rfl
@[simp] lemma nan_add : nan + x = nan := rfl
@[simp] lemma add_nan : x + nan = nan := by cases x <;> rfl
@[simp] lemma nan_sub : nan - x = nan := rfl
@[simp] lemma sub_nan : x - nan = nan := by cases x <;> rfl
@[simp] lemma nan_mul : nan * x = nan := rfl
@[simp] lemma mul_nan : x * nan = nan := by cases x <;> rfl
@[simp] lemma neg_nan : -nan = nan := rfl
@[simp] lemma nan_div : nan / x = nan := rfl
@[simp] lemma div_nan : x / nan = nan := by cases x <;> rfl
@[simp] lemma div_num_zero : x / num 0 = nan := by cases x <;> rfl

lemma num_div_num (hb : b ≠ 0) : num a / num b = num (a / b) := if_neg hb

@[simp] lemma num_ofNat (n : ℕ) : (no_index (OfNat.ofNat n : Flt)) = num (OfNat.ofNat n) := rfl
@[simp] lemma num_ofScientific (m : ℕ) (s : Bool) (e : ℕ) :
    (OfScientific.ofScientific m s e : Flt) = num (OfScientific.ofScientific m s e) := rfl

@[simp] lemma num_inj : num a = num b ↔ a = b := ⟨Flt.num.inj, congrArg num⟩
@[simp] lemma num_ne_nan : num a ≠ nan := Flt.noConfusion
@[simp] lemma nan_ne_num : nan ≠ num a := Flt.noConfusion

/-! ## Comparisons -/

@[simp] lemma num_lt_num : num a < num b ↔ a < b := decide_eq_true_iff
@[simp] lemma num_le_num : num a ≤ num b ↔ a ≤ b := decide_eq_true_iff
@[simp] lemma not_nan_lt : ¬ nan < x := Bool.false_ne_true
@[simp] lemma not_lt_nan : ¬ x < nan := by cases x <;> exact Bool.false_ne_true
@[simp] lemma not_nan_le : ¬ nan ≤ x := Bool.false_ne_true
@[simp] lemma not_le_nan : ¬ x ≤ nan := by cases x <;> exact Bool.false_ne_true

@[simp] lemma isFinite_num : (num a).isFinite = true := rfl
@[simp] lemma isFinite_nan : nan.isFinite = false := rfl

/-- `nan` is absorbing: a sum, difference or product is `nan` exactly when an operand is. -/
@[simp] lemma add_eq_nan : x + y = nan ↔ x = nan ∨ y = nan := by
  cases x <;> cases y <;> simp

@[simp] lemma sub_eq_nan : x - y = nan ↔ x = nan ∨ y = nan := by
  cases x <;> cases y <;> simp

@[simp] lemma mul_eq_nan : x * y = nan ↔ x = nan ∨ y = nan := by
  cases x <;> cases y <;> simp

@[simp] lemma neg_eq_nan : -x = nan ↔ x = nan := by
  cases x <;> simp

lemma exists_num_of_ne_nan (h : x ≠ nan) : ∃ q, x = num q := by
  cases x with
  | num q => exact ⟨q, rfl⟩
  | nan => exact absurd rfl h

/-- A bounded `float` is a number. -/
lemma eq_num_of_le (h : num a ≤ x) : ∃ q, x = num q ∧ a ≤ q := by
  cases x with
  | num q => exact ⟨q, rfl, num_le_num.mp h⟩
  | nan => exact absurd h not_le_nan

lemma eq_num_of_ge (h : x ≤ num a) : ∃ q, x = num q ∧ q ≤ a := by
  cases x with
  | num q => exact ⟨q, rfl, num_le_num.mp h⟩
  | nan => exact absurd h not_nan_le

/-- Both sides of a comparison that holds are numbers. -/
lemma exists_num_of_le (h : x ≤ y) : ∃ a b, x = num a ∧ y = num b ∧ a ≤ b := by
  cases x with
  | nan => exact absurd h not_nan_le
  | num a =>
      obtain ⟨b, rfl, hb⟩ := eq_num_of_le h
      exact ⟨a, b, rfl, rfl, hb⟩

/-- Both sides of a strict comparison that holds are numbers. -/
lemma exists_num_of_lt (h : x < y) : ∃ a b, x = num a ∧ y = num b ∧ a < b := by
  cases x with
  | nan => exact absurd h not_nan_lt
  | num a =>
      cases y with
      | nan => exact absurd h not_lt_nan
      | num b => exact ⟨a, b, rfl, rfl, num_lt_num.mp h⟩

/-- A positive `float` is a positive number. -/
lemma exists_pos_of_lt (h : (0 : Flt) < x) : ∃ q, x = num q ∧ 0 < q := by
  obtain ⟨a, q, ha, rfl, haq⟩ := exists_num_of_lt h
  obtain rfl : (0 : ℚ) = a := num_inj.mp ha
  exact ⟨q, rfl, haq⟩

/-- A negative `float` is a negative number. -/
lemma exists_neg_of_lt (h : x < (0 : Flt)) : ∃ q, x = num q ∧ q < 0 := by
  obtain ⟨q, a, rfl, ha, hqa⟩ := exists_num_of_lt h
  obtain rfl : (0 : ℚ) = a := num_inj.mp ha
  exact ⟨q, rfl, hqa⟩

/-! ## The `lib/mathlib` helpers -/

@[simp] lemma constrain_nan_left : constrain nan x y = nan := by simp [constrain]

/-- On finite operands `constrain` is the rational clamp, written with the same tests. -/
lemma constrain_num (v l h : ℚ) :
    constrain (num v) (num l) (num h) = num (if v < l then l else if h < v then h else v) := by
  unfold constrain; split_ifs <;> simp_all [gt_iff_lt]

/-- `math::constrain` of numbers is a number. -/
lemma constrain_ne_nan {l h : Flt} (hx : x ≠ nan) (hl : l ≠ nan) (hh : h ≠ nan) :
    constrain x l h ≠ nan := by
  unfold constrain; split_ifs <;> assumption

/-- A finite value clamped to an interval that is not empty lies in it. -/
lemma constrain_mem {l h : ℚ} (hv : x ≠ nan) (hlh : l ≤ h) :
    num l ≤ constrain x (num l) (num h) ∧ constrain x (num l) (num h) ≤ num h := by
  cases x with
  | nan => exact absurd rfl hv
  | num v =>
      rw [constrain_num]
      split_ifs <;> simp only [num_le_num] <;> constructor <;> linarith

/-! The rational clamp, branch by branch. -/

section Clamp
variable {v l h a : ℚ}

lemma constrain_of_lt (hv : v < l) : constrain (num v) (num l) (num h) = num l := by
  rw [constrain_num, if_pos hv]

lemma constrain_of_mem (hl : l ≤ v) (hh : v ≤ h) : constrain (num v) (num l) (num h) = num v := by
  rw [constrain_num, if_neg (not_lt.mpr hl), if_neg (not_lt.mpr hh)]

/-- A value at or below the lower bound is clamped to it. -/
lemma constrain_eq_lo (hv : v ≤ l) (hlh : l ≤ h) : constrain (num v) (num l) (num h) = num l := by
  rcases hv.lt_or_eq with hv | rfl
  · exact constrain_of_lt hv
  · exact constrain_of_mem le_rfl hlh

/-- A value at or above the upper bound is clamped to it. -/
lemma constrain_eq_hi (hv : h ≤ v) (hlh : l ≤ h) : constrain (num v) (num l) (num h) = num h := by
  rw [constrain_num, if_neg (by linarith)]
  rcases hv.lt_or_eq with hv | rfl
  · rw [if_pos hv]
  · rw [if_neg (lt_irrefl _)]

/-- Clamping a value at most `a` to bounds whose lower one is at most `a` gives at most `a`. -/
lemma constrain_le_of_le (hv : v ≤ a) (hl : l ≤ a) :
    ∃ w, constrain (num v) (num l) (num h) = num w ∧ w ≤ a := by
  rw [constrain_num]
  refine ⟨_, rfl, ?_⟩
  split_ifs with h₁ h₂
  · exact hl
  · exact h₂.le.trans hv
  · exact hv

/-- Clamping a value at least `a` to bounds whose upper one is at least `a` gives at least `a`. -/
lemma le_constrain_of_le (hv : a ≤ v) (hh : a ≤ h) :
    ∃ w, constrain (num v) (num l) (num h) = num w ∧ a ≤ w := by
  rw [constrain_num]
  refine ⟨_, rfl, ?_⟩
  split_ifs with h₁ h₂
  · exact hv.trans h₁.le
  · exact hh
  · exact hv

end Clamp

/-- A finite value clamped to an interval that is not empty is a number in it. -/
lemma constrain_num_mem {v l h : ℚ} (hlh : l ≤ h) :
    ∃ w, constrain (num v) (num l) (num h) = num w ∧ l ≤ w ∧ w ≤ h := by
  obtain ⟨h1, h2⟩ := constrain_mem (x := num v) num_ne_nan hlh
  obtain ⟨w, hw, hlw⟩ := eq_num_of_le h1
  exact ⟨w, hw, hlw, num_le_num.mp (hw ▸ h2)⟩

/-- Clamping moves a finite value only towards the interval: the result lies between the value
and any point of the interval. -/
lemma constrain_between {v l h c : ℚ} (hlc : l ≤ c) (hch : c ≤ h) :
    ∃ w, constrain (num v) (num l) (num h) = num w ∧ min v c ≤ w ∧ w ≤ max v c := by
  rw [constrain_num]
  refine ⟨_, rfl, ?_⟩
  split_ifs with h1 h2
  · exact ⟨min_le_of_left_le h1.le, le_max_of_le_right hlc⟩
  · exact ⟨min_le_of_right_le hch, le_max_of_le_left h2.le⟩
  · exact ⟨min_le_left _ _, le_max_left _ _⟩

/-- A clamp whose bounds are `nan` leaves its argument alone. -/
lemma constrain_nan_bounds : constrain x nan nan = x := by simp [constrain, gt_iff_lt]

/-- A rate limit around a point `l` of an interval keeps a value of the interval inside it,
whether the increment is a number at least zero or `nan` (then the limit is void). -/
lemma constrain_rate_mem {lo hi l : ℚ} (hx : num lo ≤ x ∧ x ≤ num hi) (hl : lo ≤ l ∧ l ≤ hi)
    (hinc : inc = nan ∨ ∃ d, inc = num d ∧ 0 ≤ d) :
    num lo ≤ constrain x (num l - inc) (num l + inc) ∧
      constrain x (num l - inc) (num l + inc) ≤ num hi := by
  rcases hinc with rfl | ⟨d, rfl, hd⟩
  · simpa [constrain_nan_bounds] using hx
  · obtain ⟨c, rfl, hc⟩ := eq_num_of_le hx.1
    obtain ⟨w, hw, hw1, hw2⟩ :=
      constrain_between (v := c) (show l - d ≤ l by linarith) (show l ≤ l + d by linarith)
    rw [num_sub_num, num_add_num, hw, num_le_num, num_le_num]
    exact ⟨(le_min hc hl.1).trans hw1, hw2.trans (max_le (num_le_num.mp hx.2) hl.2)⟩

@[simp] lemma mathMax_num : mathMax (num a) (num b) = num (if b < a then a else b) := by
  unfold mathMax; split_ifs <;> simp_all [gt_iff_lt]

@[simp] lemma mathMax_nan_left : mathMax nan x = x := by simp [mathMax, gt_iff_lt]

/-- `math::max(x, b)` is a number at least `b`, `nan` included: the comparison `x > b` fails on
`nan` and the maximum falls back to `b`. -/
lemma mathMax_num_right (x : Flt) (b : ℚ) : ∃ q, mathMax x (num b) = num q ∧ b ≤ q := by
  cases x with
  | nan => exact ⟨b, mathMax_nan_left, le_rfl⟩
  | num a => exact ⟨_, mathMax_num, by split_ifs <;> linarith⟩

@[simp] lemma mathMin_num : mathMin (num a) (num b) = num (if a < b then a else b) := by
  unfold mathMin; split_ifs <;> simp_all

@[simp] lemma fmaxf_num : fmaxf (num a) (num b) = num (max a b) := rfl

@[simp] lemma fabsf_num : fabsf (num a) = num |a| := rfl

/-- A value whose magnitude is bounded is a number within the bound. -/
lemma eq_num_of_fabsf_le (h : fabsf x ≤ num a) : ∃ q, x = num q ∧ -a ≤ q ∧ q ≤ a := by
  cases x with
  | num q => exact ⟨q, rfl, abs_le.mp (num_le_num.mp h)⟩
  | nan => exact absurd h not_nan_le

/-! ## Monotonicity

`≤` on `Flt` holds only between numbers: it is not reflexive on `nan`, and `Flt` is not a
preorder.  These are the order facts the control laws are built from, each saying that an
operation is monotone on finite values; the laws' own monotonicity is chained from them, one
stage of the source at a time. -/

section Order
variable {x₁ x₂ y₁ y₂ c l h : Flt}

protected lemma le_refl (hx : x ≠ nan) : x ≤ x := by
  obtain ⟨q, rfl⟩ := exists_num_of_ne_nan hx
  exact num_le_num.mpr le_rfl

protected lemma le_of_lt (h : x₁ < x₂) : x₁ ≤ x₂ := by
  obtain ⟨a, b, rfl, rfl, hab⟩ := exists_num_of_lt h
  exact num_le_num.mpr hab.le

protected lemma le_trans (hxy : x₁ ≤ x₂) (hyz : x₂ ≤ y₁) : x₁ ≤ y₁ := by
  obtain ⟨a, b, rfl, rfl, hab⟩ := exists_num_of_le hxy
  obtain ⟨c, rfl, hbc⟩ := eq_num_of_le hyz
  exact num_le_num.mpr (hab.trans hbc)

protected lemma add_le_add (hx : x₁ ≤ x₂) (hy : y₁ ≤ y₂) : x₁ + y₁ ≤ x₂ + y₂ := by
  obtain ⟨a₁, a₂, rfl, rfl, ha⟩ := exists_num_of_le hx
  obtain ⟨b₁, b₂, rfl, rfl, hb⟩ := exists_num_of_le hy
  exact num_le_num.mpr (add_le_add ha hb)

protected lemma sub_le_sub (hx : x₁ ≤ x₂) (hy : y₂ ≤ y₁) : x₁ - y₁ ≤ x₂ - y₂ := by
  obtain ⟨a₁, a₂, rfl, rfl, ha⟩ := exists_num_of_le hx
  obtain ⟨b₂, b₁, rfl, rfl, hb⟩ := exists_num_of_le hy
  exact num_le_num.mpr (sub_le_sub ha hb)

protected lemma mul_le_mul_of_nonneg_right (hx : x₁ ≤ x₂) (hc : 0 ≤ c) : x₁ * c ≤ x₂ * c := by
  obtain ⟨a₁, a₂, rfl, rfl, ha⟩ := exists_num_of_le hx
  obtain ⟨d, rfl, hd⟩ := eq_num_of_le hc
  exact num_le_num.mpr (mul_le_mul_of_nonneg_right ha hd)

protected lemma mul_le_mul_of_nonneg_left (hx : x₁ ≤ x₂) (hc : 0 ≤ c) : c * x₁ ≤ c * x₂ := by
  obtain ⟨a₁, a₂, rfl, rfl, ha⟩ := exists_num_of_le hx
  obtain ⟨d, rfl, hd⟩ := eq_num_of_le hc
  exact num_le_num.mpr (mul_le_mul_of_nonneg_left ha hd)

protected lemma div_le_div_of_pos (hx : x₁ ≤ x₂) (hc : 0 < c) : x₁ / c ≤ x₂ / c := by
  obtain ⟨a₁, a₂, rfl, rfl, ha⟩ := exists_num_of_le hx
  obtain ⟨d, rfl⟩ : ∃ d, c = num d := by cases c <;> simp_all
  have hd : 0 < d := num_lt_num.mp hc
  rw [num_div_num hd.ne', num_div_num hd.ne', num_le_num]
  exact div_le_div_of_nonneg_right ha hd.le

/-- `math::constrain` is monotone in its value, for bounds that are numbers in order. -/
lemma constrain_mono (hx : x₁ ≤ x₂) (hlh : l ≤ h) : constrain x₁ l h ≤ constrain x₂ l h := by
  obtain ⟨a₁, a₂, rfl, rfl, ha⟩ := exists_num_of_le hx
  obtain ⟨lo, hi, rfl, rfl, hlh⟩ := exists_num_of_le hlh
  rw [constrain_num, constrain_num, num_le_num]
  split_ifs <;> linarith

lemma mathMin_mono_left (hx : x₁ ≤ x₂) (hc : c ≠ nan) : mathMin x₁ c ≤ mathMin x₂ c := by
  obtain ⟨a₁, a₂, rfl, rfl, ha⟩ := exists_num_of_le hx
  obtain ⟨d, rfl⟩ := exists_num_of_ne_nan hc
  rw [mathMin_num, mathMin_num, num_le_num]
  split_ifs <;> linarith

lemma mathMax_mono_left (hx : x₁ ≤ x₂) (hc : c ≠ nan) : mathMax x₁ c ≤ mathMax x₂ c := by
  obtain ⟨a₁, a₂, rfl, rfl, ha⟩ := exists_num_of_le hx
  obtain ⟨d, rfl⟩ := exists_num_of_ne_nan hc
  rw [mathMax_num, mathMax_num, num_le_num]
  split_ifs <;> linarith

end Order

end Flt

/-! ## Infinities of the pitch law

The pitch law divides by `_tas_state · g` and by `_tas_state` without a guard, and the speed
filter clips the estimate to exactly zero, so a reachable step can divide by zero.  IEEE 754 then
gives `±∞`, and the law clamps it: an infinite unclamped setpoint becomes a pitch limit, and an
infinite `pitch_increment` voids the rate limit ("at zero airspeed, the pitch increment is
unbounded").  Merged into `nan`, the clamped limit would be `nan` instead.  `XFlt` keeps the two
infinities for these divisions and for the two members they write, `_pitch_setpoint_unc` and
`_last_pitch_setpoint`.  A zero divisor is taken as `+0`, the zero the clip writes, and `0 / 0`
is `nan`. -/

/-- A `float` of the pitch law: a `Flt` (a number or `nan`), `+∞` or `-∞`. -/
inductive XFlt where
  | fin (x : Flt)
  | posInf
  | negInf
  deriving DecidableEq, Repr

namespace XFlt

open Flt

instance : Coe Flt XFlt := ⟨fin⟩
instance {n : ℕ} : OfNat XFlt n := ⟨fin (OfNat.ofNat n)⟩

/-- IEEE division of two `float`s: a nonzero number over zero is the infinity of its sign, and
`0 / 0` is `nan`. -/
def div : Flt → Flt → XFlt
  | num a, num b =>
      if b = 0 then (if 0 < a then posInf else if a < 0 then negInf else fin nan)
      else fin (num (a / b))
  | _, _ => fin nan

/-- Addition: an infinity absorbs a finite number and itself, and opposite infinities or a
`nan` give `nan`. -/
def add : XFlt → XFlt → XFlt
  | fin a, fin b => fin (a + b)
  | fin a, posInf | posInf, fin a => if a.isFinite then posInf else fin nan
  | fin a, negInf | negInf, fin a => if a.isFinite then negInf else fin nan
  | posInf, posInf => posInf
  | negInf, negInf => negInf
  | _, _ => fin nan

/-- Subtraction, with the rules of addition of the negated right operand. -/
def sub : XFlt → XFlt → XFlt
  | fin a, fin b => fin (a - b)
  | fin a, negInf | posInf, fin a => if a.isFinite then posInf else fin nan
  | fin a, posInf | negInf, fin a => if a.isFinite then negInf else fin nan
  | posInf, negInf => posInf
  | negInf, posInf => negInf
  | _, _ => fin nan

instance : Add XFlt := ⟨add⟩
instance : Sub XFlt := ⟨sub⟩

/-- `<`: false as soon as one side is `nan`; `-∞` lies below and `+∞` above every number. -/
def lt : XFlt → XFlt → Bool
  | fin a, fin b => a.lt b
  | negInf, fin a | fin a, posInf => a.isFinite
  | negInf, posInf => true
  | _, _ => false

/-- `<=`: false as soon as one side is `nan`; each infinity is at most itself. -/
def le : XFlt → XFlt → Bool
  | fin a, fin b => a.le b
  | negInf, fin a | fin a, posInf => a.isFinite
  | negInf, posInf | negInf, negInf | posInf, posInf => true
  | _, _ => false

instance : LT XFlt := ⟨fun a b => a.lt b⟩
instance : LE XFlt := ⟨fun a b => a.le b⟩
instance (a b : XFlt) : Decidable (a < b) := inferInstanceAs (Decidable (a.lt b = true))
instance (a b : XFlt) : Decidable (a ≤ b) := inferInstanceAs (Decidable (a.le b = true))

/-- `math::constrain(val, min_val, max_val)` on `XFlt`: the same two comparisons. -/
def constrain (val lo hi : XFlt) : XFlt :=
  if val < lo then lo else if val > hi then hi else val

variable {a b : Flt} {l h : ℚ}

@[simp] lemma fin_lt_fin : fin a < fin b ↔ a < b := Iff.rfl
@[simp] lemma fin_le_fin : fin a ≤ fin b ↔ a ≤ b := Iff.rfl
@[simp] lemma fin_add_fin : fin a + fin b = fin (a + b) := rfl
@[simp] lemma fin_sub_fin : fin a - fin b = fin (a - b) := rfl
@[simp] lemma fin_inj : fin a = fin b ↔ a = b := ⟨fin.inj, congrArg fin⟩

/-- On finite operands `XFlt.constrain` is `math::constrain` of `Flt`. -/
@[simp] lemma constrain_fin (x : Flt) : constrain (fin x) (fin a) (fin b) = fin (Flt.constrain x a b) := by
  unfold constrain Flt.constrain
  rw [apply_ite fin, apply_ite fin]
  rfl

/-- A division by a number that is not zero is the division of `Flt`. -/
lemma div_of_ne_zero {q : ℚ} (hq : q ≠ 0) (x : Flt) : div x (num q) = fin (x / num q) := by
  cases x with
  | nan => rfl
  | num p => rw [div, if_neg hq, num_div_num hq]

/-- A positive number over zero is `+∞`. -/
lemma div_zero_of_pos {a : ℚ} (ha : 0 < a) : div (num a) (num 0) = posInf := by
  rw [div, if_pos rfl, if_pos ha]

/-- Zero over zero is `nan`. -/
lemma zero_div_zero : div (num 0) (num 0) = fin nan := rfl

@[simp] lemma fin_nan_sub (x : XFlt) : fin nan - x = fin nan := by cases x <;> rfl
@[simp] lemma fin_nan_add (x : XFlt) : fin nan + x = fin nan := by cases x <;> rfl

/-- A finite value clamped between the two infinities is left alone. -/
@[simp] lemma constrain_negInf_posInf (x : Flt) : constrain (fin x) negInf posInf = fin x := by
  cases x <;> rfl

/-- **Clamped between two points of `[lo, hi]`, a value that is not `nan` lands in `[lo, hi]`**:
an infinity on the bound of its sign, a number on a bound or between them.  The two bounds need
not be in order. -/
lemma constrain_num_mem {lo hi m M : ℚ} {u : XFlt} (hu : u ≠ fin nan) (hm : lo ≤ m ∧ m ≤ hi)
    (hM : lo ≤ M ∧ M ≤ hi) :
    ∃ w, constrain u (fin (num m)) (fin (num M)) = fin (num w) ∧ lo ≤ w ∧ w ≤ hi := by
  match u, hu with
  | fin (num v), _ =>
      refine ⟨_, by rw [constrain_fin, Flt.constrain_num], ?_⟩
      split_ifs with h₁ h₂
      · exact hm
      · exact hM
      · constructor <;> linarith
  | posInf, _ => exact ⟨M, rfl, hM⟩
  | negInf, _ => exact ⟨m, if_pos rfl, hm⟩

/-- `nan` passes every clamp: both of its comparisons are false. -/
@[simp] lemma constrain_fin_nan (lo hi : XFlt) : constrain (fin nan) lo hi = fin nan := by
  rcases lo with ⟨_ | _⟩ | _ | _ <;> rcases hi with ⟨_ | _⟩ | _ | _ <;> rfl

/-- A rate limit by a `nan` increment is void. -/
@[simp] lemma constrain_sub_nan_add_nan (x a : Flt) :
    constrain (fin x) (fin a - fin nan) (fin a + fin nan) = fin x := by
  rw [fin_sub_fin, fin_add_fin, sub_nan, add_nan, constrain_fin, constrain_nan_bounds]

/-- A rate limit by `+∞` around a number is void. -/
@[simp] lemma constrain_sub_posInf_add_posInf (x : Flt) (l : ℚ) :
    constrain (fin x) (fin (num l) - posInf) (fin (num l) + posInf) = fin x :=
  constrain_negInf_posInf x

/-- **The rate limit keeps the order of two numbers**, around any last value: a number (the
limit proper), `nan` (both bounds `nan`, the limit void) or an infinity (both bounds that
infinity, which both values are clamped to). -/
lemma constrain_rate_mono {v₁ v₂ : Flt} (hv : v₁ ≤ v₂) (L : XFlt) {d : ℚ} (hd : 0 ≤ d) :
    constrain (fin v₁) (L - fin (num d)) (L + fin (num d)) ≤
      constrain (fin v₂) (L - fin (num d)) (L + fin (num d)) := by
  obtain ⟨a, b, rfl, rfl, -⟩ := exists_num_of_le hv
  match L with
  | fin (num l) =>
      rw [fin_sub_fin, fin_add_fin, constrain_fin, constrain_fin, fin_le_fin]
      exact constrain_mono hv (by simp only [num_sub_num, num_add_num, num_le_num]; linarith)
  | fin nan => simpa only [fin_sub_fin, fin_add_fin, nan_sub, nan_add, constrain_fin,
      constrain_nan_bounds] using hv
  | posInf => exact rfl
  | negInf => exact rfl

/-- **A rate limit around a point of `[lo, hi]` keeps a value of `[lo, hi]` inside it**, for an
increment that is a number at least zero, `nan` or `+∞` (the last two void the limit); around
`nan` the limit is void as well. -/
lemma constrain_rate_mem {lo hi : ℚ} {x : Flt} (hx : num lo ≤ x ∧ x ≤ num hi) {L inc : XFlt}
    (hL : L = fin nan ∨ ∃ l, L = fin (num l) ∧ lo ≤ l ∧ l ≤ hi)
    (hinc : inc = fin nan ∨ inc = posInf ∨ ∃ d, inc = fin (num d) ∧ 0 ≤ d) :
    fin (num lo) ≤ constrain (fin x) (L - inc) (L + inc) ∧
      constrain (fin x) (L - inc) (L + inc) ≤ fin (num hi) := by
  rcases hL with rfl | ⟨l, rfl, hl⟩
  · simpa only [fin_nan_sub, fin_nan_add, constrain_fin, constrain_nan_bounds] using hx
  rcases hinc with rfl | rfl | ⟨d, rfl, hd⟩
  · simpa only [constrain_sub_nan_add_nan] using hx
  · simpa only [constrain_sub_posInf_add_posInf] using hx
  · rw [fin_sub_fin, fin_add_fin, constrain_fin]
    exact Flt.constrain_rate_mem hx hl (.inr ⟨d, rfl, hd⟩)

/-- A value between two numbers is a number between them. -/
lemma eq_num_of_mem {x : XFlt} (h₁ : fin (num l) ≤ x) (h₂ : x ≤ fin (num h)) :
    ∃ q, x = fin (num q) ∧ l ≤ q ∧ q ≤ h := by
  match x, h₁, h₂ with
  | fin y, h₁, h₂ =>
      obtain ⟨q, rfl, hq⟩ := eq_num_of_le (fin_le_fin.mp h₁)
      exact ⟨q, rfl, hq, num_le_num.mp h₂⟩

end XFlt

end Tecs
