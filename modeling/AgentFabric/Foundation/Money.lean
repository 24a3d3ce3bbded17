import AgentFabric.Foundation.JsonText
import Mathlib.Tactic

namespace AgentFabric.Money

/-- The cents below one unit without a trailing zero. -/
def fraction (cents : Nat) : List Char :=
  Nat.toDigits 10 (cents / 10) ++ if cents % 10 = 0 then [] else Nat.toDigits 10 (cents % 10)

variable (cents : Int)

/-- The text of an amount of cents as a float. -/
def text : List Char :=
  (if cents < 0 then ['-'] else []) ++ Nat.toDigits 10 (cents.natAbs / 100) ++
    '.' :: fraction (cents.natAbs % 100)

theorem floatChar_toDigits (value : Nat) : (Nat.toDigits 10 value).all isFloatChar = true := by
  rw [List.all_eq_true]
  intro char member
  simp [isFloatChar, Json.digit_of_mem_toDigits value char member]

theorem toDigits_head (value : Nat) (rest : List Char) :
    ((Nat.toDigits 10 value ++ rest).head?.any fun char => char.isDigit || char = '-') = true := by
  cases digits : Nat.toDigits 10 value with
  | nil => exact absurd digits Nat.toDigits_ne_nil
  | cons char others =>
      have digit := Json.digit_of_mem_toDigits value char (by rw [digits]; exact List.mem_cons_self)
      simp [digit]

theorem fraction_floatChars (cents : Nat) : (fraction cents).all isFloatChar = true := by
  rw [fraction, List.all_append, floatChar_toDigits, Bool.true_and]
  split
  · rfl
  · exact floatChar_toDigits _

theorem text_wellFormed : isFloatText (text cents) = true := by
  have dot : '.' ∈ text cents := by simp [text]
  have chars : (text cents).all isFloatChar = true := by
    rw [text, List.all_append, List.all_append, List.all_cons, floatChar_toDigits,
      fraction_floatChars]
    split
    · decide
    · decide
  have head : ((text cents).head?.any fun char => char.isDigit || char = '-') = true := by
    unfold text
    split
    · rfl
    · exact toDigits_head _ _
  rw [isFloatText, chars, head, Bool.true_and, Bool.and_true, List.any_eq_true]
  exact ⟨'.', dot, rfl⟩

/-- The float of an amount of cents. -/
def repr : FloatRepr where
  text := String.ofList (text cents)
  wellFormed := by
    rw [String.toList_ofList]
    exact text_wellFormed cents

/-- Ten units and a half are written without the last zero. -/
example : (repr 1050).text = "10.5" := by decide

end AgentFabric.Money

namespace AgentFabric.Rounding

variable (value : ℚ)

/-- The nearest integer, or the even one of two. -/
def halfEven : ℤ :=
  let below := value.floor
  let rest := value - below
  if rest < 1 / 2 ∨ (rest = 1 / 2 ∧ below % 2 = 0) then below else below + 1

/-- The nearest multiple of a fraction of one, or the even one of two. -/
def roundTo (scale : ℕ) (value : ℚ) : ℚ := halfEven (value * scale) / scale

theorem halfEven_cases : halfEven value = value.floor ∨ halfEven value = value.floor + 1 := by
  unfold halfEven
  dsimp only
  split
  · exact .inl rfl
  · exact .inr rfl

@[simp] theorem halfEven_intCast (value : ℤ) : halfEven (value : ℚ) = value := by
  have whole : (value : ℚ).floor = value := Rat.floor_intCast value
  unfold halfEven
  dsimp only
  rw [whole, if_pos (.inl (by norm_num))]

/-- The rounding of a greater number is not less. -/
theorem halfEven_mono {first second : ℚ} (le : first ≤ second) :
    halfEven first ≤ halfEven second := by
  have floors : first.floor ≤ second.floor :=
    Rat.le_floor_iff.mpr ((Rat.le_floor_iff.mp (le_refl _)).trans le)
  rcases floors.lt_or_eq with less | same
  · rcases halfEven_cases first with down | up
    · rcases halfEven_cases second with other | other <;> omega
    · rcases halfEven_cases second with other | other <;> omega
  · unfold halfEven
    dsimp only
    rw [same]
    have rests : first - second.floor ≤ second - second.floor := by linarith
    split
    · split
      · exact le_refl _
      · omega
    · rename_i up
      rw [if_neg]
      intro down
      apply up
      rcases down with below | ⟨half, even⟩
      · exact .inl (lt_of_le_of_lt rests below)
      · rw [half] at rests
        rcases rests.lt_or_eq with below | half
        · exact .inl below
        · exact .inr ⟨half, even⟩

/-- A half is rounded to the same even integer on both sides of zero. -/
theorem halfEven_neg : halfEven (-value) = -halfEven value := by
  by_cases whole : value = value.floor
  · have negated : -value = ((-value.floor : ℤ) : ℚ) := by
      push_cast
      linarith
    rw [negated, halfEven_intCast]
    conv_rhs => rw [whole, halfEven_intCast]
  · have below : (value.floor : ℚ) ≤ value := Rat.le_floor_iff.mp (le_refl _)
    have above : value < value.floor + 1 := by
      have next : ¬ ((value.floor + 1 : ℤ) : ℚ) ≤ value := fun le => by
        have floor := Rat.le_floor_iff.mpr le
        omega
      push_cast at next
      linarith
    have strict : (value.floor : ℚ) < value := lt_of_le_of_ne below fun same => whole same.symm
    have floor : (-value).floor = -value.floor - 1 := by
      apply le_antisymm
      · have less : ¬ ((-value.floor : ℤ) : ℚ) ≤ -value := fun le => by
          push_cast at le
          linarith
        have floor := mt Rat.le_floor_iff.mp less
        omega
      · apply Rat.le_floor_iff.mpr
        push_cast
        linarith
    unfold halfEven
    dsimp only
    rw [floor]
    push_cast
    split <;> rename_i down <;> split <;> rename_i other
    · rcases down with rest | ⟨rest, even⟩
      · rcases other with part | ⟨part, even⟩ <;> linarith
      · rcases other with part | ⟨part, odd⟩
        · linarith
        · omega
    · ring
    · ring
    · push Not at down other
      have half : value - value.floor = 1 / 2 := by linarith [down.1, other.1]
      have odd := down.2 (by linarith)
      have even := other.2 half
      omega

section Scale

variable {scale : ℕ} {first second : ℚ}

theorem roundTo_mono (le : first ≤ second) : roundTo scale first ≤ roundTo scale second := by
  unfold roundTo
  have scaled : first * scale ≤ second * scale := mul_le_mul_of_nonneg_right le (Nat.cast_nonneg _)
  have rounded : ((halfEven (first * scale) : ℤ) : ℚ) ≤ halfEven (second * scale) := by
    exact_mod_cast halfEven_mono scaled
  exact div_le_div_of_nonneg_right rounded (Nat.cast_nonneg _)

@[simp] theorem roundTo_zero (scale : ℕ) : roundTo scale 0 = 0 := by
  have none : halfEven 0 = 0 := halfEven_intCast 0
  rw [roundTo, zero_mul, none]
  simp

theorem roundTo_nonneg (nonneg : 0 ≤ first) : 0 ≤ roundTo scale first := by
  rw [← roundTo_zero scale]
  exact roundTo_mono nonneg

theorem roundTo_one (positive : 0 < scale) : roundTo scale 1 = 1 := by
  have whole : halfEven (scale : ℚ) = scale := by exact_mod_cast halfEven_intCast (scale : ℤ)
  have nonzero : (scale : ℚ) ≠ 0 := by exact_mod_cast positive.ne'
  rw [roundTo, one_mul, whole]
  field_simp
  norm_cast

theorem roundTo_le_one (positive : 0 < scale) (small : first ≤ 1) : roundTo scale first ≤ 1 :=
  (roundTo_mono small).trans_eq (roundTo_one positive)

theorem roundTo_neg (scale : ℕ) (value : ℚ) : roundTo scale (-value) = -roundTo scale value := by
  rw [roundTo, roundTo, neg_mul, halfEven_neg]
  push_cast
  ring

end Scale

end AgentFabric.Rounding
