import AgentFabric.Foundation.Money
import Mathlib.Data.Int.Log

namespace AgentFabric.Rounding

theorem halfEven_error (value : ℚ) : |halfEven value - value| ≤ 1 / 2 := by
  have below : (value.floor : ℚ) ≤ value := Rat.le_floor_iff.mp (le_refl _)
  have above : value < value.floor + 1 := by exact_mod_cast Rat.lt_floor_add_one value
  unfold halfEven
  dsimp only
  split
  · rename_i down
    rw [abs_le]
    rcases down with rest | ⟨rest, _⟩ <;> constructor <;> linarith
  · rename_i up
    push Not at up
    push_cast
    rw [abs_le]
    constructor <;> linarith [up.1]

/-- The only integer within less than one half is the rounding. -/
theorem halfEven_eq {value : ℚ} {whole : ℤ} (near : |value - whole| < 1 / 2) :
    halfEven value = whole := by
  have error := halfEven_error value
  rw [abs_le] at error
  rw [abs_lt] at near
  have low : ((whole - 1 : ℤ) : ℚ) < halfEven value := by
    push_cast
    linarith
  have high : (halfEven value : ℚ) < ((whole + 1 : ℤ) : ℚ) := by
    push_cast
    linarith
  have lower : whole - 1 < halfEven value := by exact_mod_cast low
  have upper : halfEven value < whole + 1 := by exact_mod_cast high
  omega

end AgentFabric.Rounding

namespace AgentFabric
open Rounding

/-- A finite binary64 number, or none for an infinity or a NaN. Both zeros are one number. -/
abbrev Binary64 := Option ℚ

namespace Binary64

variable (value : ℚ)

/-- The exponent of the last of the 53 places of a number, at least that of the subnormal numbers. -/
def lastPlace : ℤ := max (Int.log 2 |value| - 52) (-1074)

/-- The nearest number with the last place of a value, or the even one of two. -/
def nearest : ℚ := halfEven (value / 2 ^ lastPlace value) * 2 ^ lastPlace value

/-- A number that is too large becomes an infinity. -/
def round : Binary64 := if |nearest value| < 2 ^ 1024 then some (nearest value) else none

section Operations

variable (first second : Binary64)

/-- An operation on an infinity or a NaN that cannot give a finite number. -/
def lift (operation : ℚ → ℚ → ℚ) : Binary64 := do round (operation (← first) (← second))

def add : Binary64 := lift first second (· + ·)
def sub : Binary64 := lift first second (· - ·)
def mul : Binary64 := lift first second (· * ·)

/-- The division by a finite number that is not zero. -/
def div (divisor : ℚ) : Binary64 := do round ((← first) / divisor)

/-- `round(value, 2)` rounds the exact value to hundredths and takes the nearest number. -/
def roundCents : Binary64 := do round (roundTo 100 (← first))

/-- The whole number of hundredths that is nearest to a value. -/
def cents? : Option ℤ := do return halfEven ((← first) * 100)

end Operations

/-- The float of an amount of cents. -/
def ofCents (cents : ℤ) : Binary64 := round (cents / 100)

section Error

theorem two_pow_lastPlace_le (value : ℚ) :
    (2 : ℚ) ^ lastPlace value ≤ |value| / 2 ^ 52 + 1 / 2 ^ 50 := by
  rw [lastPlace]
  rcases le_total (Int.log 2 |value| - 52) (-1074) with low | high
  · rw [max_eq_right low]
    have tiny : (2 : ℚ) ^ (-1074 : ℤ) ≤ 2 ^ (-50 : ℤ) :=
      zpow_le_zpow_right₀ (by norm_num) (by norm_num)
    have positive : 0 ≤ |value| / 2 ^ 52 := by positivity
    exact tiny.trans ((by norm_num : (2 : ℚ) ^ (-50 : ℤ) = 1 / 2 ^ 50).trans_le (by linarith))
  · rw [max_eq_left high]
    by_cases zero : value = 0
    · norm_num [zero]
    · have below := Int.zpow_log_le_self (b := 2) (by decide) (abs_pos.mpr zero)
      push_cast at below
      rw [zpow_sub₀ (by norm_num)]
      norm_num at below ⊢
      linarith

/-- A number is rounded by at most half a unit of its last place. -/
theorem nearest_error (value : ℚ) : |nearest value - value| ≤ |value| / 2 ^ 53 + 1 / 2 ^ 51 := by
  have positive : (0 : ℚ) < 2 ^ lastPlace value := by positivity
  have place := two_pow_lastPlace_le value
  have scaled : nearest value - value =
      (halfEven (value / 2 ^ lastPlace value) - value / 2 ^ lastPlace value) *
        2 ^ lastPlace value := by
    rw [nearest]
    field_simp
  rw [scaled, abs_mul, abs_of_pos positive]
  calc _ ≤ 1 / 2 * (2 : ℚ) ^ lastPlace value :=
        mul_le_mul_of_nonneg_right (halfEven_error _) positive.le
    _ ≤ 1 / 2 * (|value| / 2 ^ 52 + 1 / 2 ^ 50) := by linarith
    _ = |value| / 2 ^ 53 + 1 / 2 ^ 51 := by ring

variable {value : ℚ}

/-- A number of the size of money is finite and close to its float. -/
theorem round_eq (small : |value| ≤ 2 ^ 41) :
    round value = some (nearest value) ∧ |nearest value - value| ≤ 1 / 2000 := by
  have error : |nearest value - value| ≤ 1 / 2000 :=
    (nearest_error value).trans (by norm_num at small ⊢; linarith)
  refine ⟨if_pos ?_, error⟩
  have size : |nearest value| ≤ |nearest value - value| + |value| := by
    simpa using abs_add_le (nearest value - value) value
  calc |nearest value| ≤ 2 ^ 42 := by norm_num at small ⊢; linarith
    _ < 2 ^ 1024 := pow_lt_pow_right₀ (by norm_num) (by norm_num)

variable {cents : ℤ}

/-- The float of an amount of cents up to a trillion. -/
theorem ofCents_eq (small : |cents| ≤ 10 ^ 14) :
    ∃ value, ofCents cents = some value ∧ |value - cents / 100| ≤ 1 / 2000 := by
  have size : |(cents : ℚ)| ≤ 10 ^ 14 := by exact_mod_cast small
  have bound : |(cents : ℚ) / 100| ≤ 2 ^ 41 := by
    rw [abs_div]
    norm_num
    linarith
  exact ⟨_, (round_eq bound).1, (round_eq bound).2⟩

/-- An amount of cents is read back from its float. -/
theorem cents?_ofCents (small : |cents| ≤ 10 ^ 14) : (ofCents cents).cents? = some cents := by
  obtain ⟨value, float, near⟩ := ofCents_eq small
  have scaled : |value * 100 - cents| < 1 / 2 := by
    rw [abs_le] at near
    rw [abs_lt]
    constructor <;> linarith
  rw [float]
  exact congrArg some (halfEven_eq scaled)

/-- A value close to an amount of cents is rounded to its float. -/
theorem roundCents_eq (near : |value - cents / 100| < 1 / 200) :
    roundCents (some value) = ofCents cents := by
  have scaled : |value * (100 : ℕ) - cents| < 1 / 2 := by
    rw [abs_lt] at near ⊢
    push_cast
    constructor <;> linarith
  show round (roundTo 100 value) = _
  rw [roundTo, halfEven_eq scaled]
  rfl

section Sums

variable (first second : ℤ) (firstSmall : |first| ≤ 10 ^ 14) (secondSmall : |second| ≤ 10 ^ 14)

include firstSmall secondSmall

theorem roundCents_round {left right : ℚ} (leftNear : |left - first / 100| ≤ 1 / 2000)
    (rightNear : |right - second / 100| ≤ 1 / 2000) :
    roundCents (round (left + right)) = ofCents (first + second) := by
  have firstSize : |(first : ℚ)| ≤ 10 ^ 14 := by exact_mod_cast firstSmall
  have secondSize : |(second : ℚ)| ≤ 10 ^ 14 := by exact_mod_cast secondSmall
  rw [abs_le] at leftNear rightNear firstSize secondSize
  have bound : |left + right| ≤ 2 ^ 41 := by
    rw [abs_le]
    norm_num at firstSize secondSize leftNear rightNear ⊢
    constructor <;> linarith
  obtain ⟨finite, error⟩ := round_eq bound
  rw [finite]
  apply roundCents_eq
  rw [abs_le] at error
  rw [abs_lt]
  push_cast
  constructor <;> linarith

/-- The rounded sum of two amounts of cents is the float of the exact sum. -/
theorem roundCents_add :
    roundCents (add (ofCents first) (ofCents second)) = ofCents (first + second) := by
  obtain ⟨left, leftIs, leftNear⟩ := ofCents_eq firstSmall
  obtain ⟨right, rightIs, rightNear⟩ := ofCents_eq secondSmall
  rw [leftIs, rightIs]
  exact roundCents_round _ _ firstSmall secondSmall leftNear rightNear

theorem roundCents_sub :
    roundCents (sub (ofCents first) (ofCents second)) = ofCents (first - second) := by
  obtain ⟨left, leftIs, leftNear⟩ := ofCents_eq firstSmall
  obtain ⟨right, rightIs, rightNear⟩ := ofCents_eq secondSmall
  have negated : |-right - ((-second : ℤ) : ℚ) / 100| ≤ 1 / 2000 := by
    rw [← abs_neg]
    convert rightNear using 2
    push_cast
    ring
  rw [leftIs, rightIs, sub_eq_add_neg first]
  rw [← abs_neg] at secondSmall
  have rounded := roundCents_round _ _ firstSmall secondSmall leftNear negated
  rwa [← sub_eq_add_neg left] at rounded

end Sums

variable (whole place : ℤ)

/-- The float of a number with a given last place. -/
theorem nearest_eq (low : 2 ^ (place + 52) ≤ |value|)
    (high : |value| < 2 ^ (place + 53)) (normal : -1074 ≤ place)
    (near : |value / 2 ^ place - whole| < 1 / 2) : nearest value = whole * 2 ^ place := by
  have positive : 0 < |value| := lt_of_lt_of_le (by positivity) low
  have least := (Int.zpow_le_iff_le_log (b := 2) (by decide) positive).mp (by exact_mod_cast low)
  have most := (Int.lt_zpow_iff_log_lt (b := 2) (by decide) positive).mp (by exact_mod_cast high)
  have exponent : lastPlace value = place := by
    unfold lastPlace
    omega
  rw [nearest, exponent, halfEven_eq near]

/-- A multiple of a place with at most 53 bits is its own float. -/
theorem nearest_of_multiple (normal : -1074 ≤ place)
    (fits : |(whole : ℚ) * 2 ^ place| < 2 ^ (place + 53)) :
    nearest (whole * 2 ^ place) = whole * 2 ^ place := by
  by_cases zero : (whole : ℚ) * 2 ^ place = 0
  · have none : halfEven 0 = 0 := halfEven_intCast 0
    rw [zero, nearest, zero_div, none]
    simp
  · have log := (Int.lt_zpow_iff_log_lt (b := 2) (by decide) (abs_pos.mpr zero)).mp
      (by exact_mod_cast fits)
    have lower : lastPlace (whole * 2 ^ place) ≤ place := by
      unfold lastPlace
      omega
    obtain ⟨gap, above⟩ := Int.le.dest lower
    have multiple : (whole : ℚ) * 2 ^ place / 2 ^ lastPlace (whole * 2 ^ place) =
        ((whole * 2 ^ gap : ℤ) : ℚ) := by
      rw [mul_div_assoc, ← zpow_sub₀ (by norm_num), ← eq_sub_of_add_eq' above, zpow_natCast]
      push_cast
      rfl
    rw [nearest, multiple, halfEven_intCast, ← multiple]
    field_simp

end Error

end Binary64

end AgentFabric
