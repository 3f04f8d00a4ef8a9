import DeviceLink.Binary64
import Mathlib.Tactic.Ring

namespace DeviceLink
namespace Binary64

/-!
Rounding to the nearest binary64 number.  The nearest number depends on the quotient
alone, and a quotient that is a binary64 number is its own nearest one.  Both are needed
wherever a number is written and read again, since the text shows the number as another
quotient.  The proofs go by the two parts of the range: below the least normal number
the ranks are evenly spaced, and above it their distance doubles with each power of two.
`nearestRank_congr` and `nearestRank_of_exact` are the results that are used elsewhere.
-/

/--
Only the quotient counts, not how it is written.  Numerator and denominator may be
multiplied by the same factor.
-/
theorem nearestRank_mul {c : Nat} (pos : 0 < c) (numerator denominator : Nat) :
    nearestRank (numerator * c) (denominator * c) = nearestRank numerator denominator := by
  have scaled : numerator * c * unit = numerator * unit * c := by ring
  have step : ∀ shift, denominator * c * Nat.pow 2 shift = denominator * Nat.pow 2 shift * c := by
    intro shift
    ring
  have quotient : numerator * unit * c / (denominator * c) = numerator * unit / denominator :=
    Nat.mul_div_mul_right _ _ pos
  simp only [nearestRank, scaled, quotient, step, Nat.mul_div_mul_right _ _ pos,
    Nat.mul_mod_mul_right]
  have above : ∀ shift rest, (denominator * Nat.pow 2 shift * c < 2 * (rest * c)) ↔
      denominator * Nat.pow 2 shift < 2 * rest := by
    intro shift rest
    rw [← Nat.mul_assoc]
    exact Nat.mul_lt_mul_right pos
  have middle : ∀ shift rest, (2 * (rest * c) = denominator * Nat.pow 2 shift * c) ↔
      2 * rest = denominator * Nat.pow 2 shift := by
    intro shift rest
    rw [← Nat.mul_assoc]
    exact Nat.mul_right_cancel_iff pos
  simp only [above, middle]

/--
Equal quotients have the same nearest number.  They may be written in quite different ways,
as a decimal and a binary fraction are.
-/
theorem nearestRank_congr {numerator denominator numerator' denominator' : Nat}
    (pos : 0 < denominator) (pos' : 0 < denominator')
    (same : numerator * denominator' = numerator' * denominator) :
    nearestRank numerator denominator = nearestRank numerator' denominator' := by
  rw [← nearestRank_mul pos' numerator denominator, ← nearestRank_mul pos numerator' denominator',
    same, Nat.mul_comm denominator denominator']

/--
A number below `2 ^ 53` units is counted by its rank.  In this range the numbers lie one
unit apart.
-/
theorem unitsOfRank_of_lt {rank : Nat} (small : rank < fractions) : unitsOfRank rank = rank :=
  if_pos small

theorem unitsOfRank_of_le {rank : Nat} (large : fractions ≤ rank) :
    unitsOfRank rank =
      (fractions + rank % fractions) * Nat.pow 2 (rank / fractions - 1) :=
  if_neg (Nat.not_lt.mpr large)

theorem log2_eq {n k : Nat} (low : Nat.pow 2 k ≤ n) (high : n < Nat.pow 2 (k + 1)) :
    n.log2 = k := by
  have pos : n ≠ 0 := by
    have := Nat.pow_pos (n := k) (show 0 < 2 by decide)
    rintro rfl
    exact absurd low (Nat.not_le.mpr this)
  exact (Nat.log2_eq_iff pos).mpr ⟨low, high⟩

theorem unitsOfRank_lt {rank exponents : Nat} (below : rank < (exponents + 2) * fractions) :
    unitsOfRank rank < Nat.pow 2 (53 + exponents) := by
  have widen : Nat.pow 2 (53 + exponents) = 2 * fractions * Nat.pow 2 exponents :=
    Nat.pow_add 2 53 exponents
  rw [widen]
  by_cases small : rank < fractions
  · rw [unitsOfRank_of_lt small]
    calc rank < 2 * fractions * 1 := by omega
      _ ≤ _ := Nat.mul_le_mul_left _ (Nat.pow_pos (by decide))
  · rw [unitsOfRank_of_le (Nat.le_of_not_lt small)]
    have fraction : rank % fractions < fractions := Nat.mod_lt _ (by decide)
    have exponent : rank / fractions < exponents + 2 :=
      (Nat.div_lt_iff_lt_mul (by decide)).mpr below
    calc (fractions + rank % fractions) * Nat.pow 2 (rank / fractions - 1)
        < 2 * fractions * Nat.pow 2 (rank / fractions - 1) :=
          Nat.mul_lt_mul_of_pos_right (by omega) (Nat.pow_pos (by decide))
      _ ≤ _ := Nat.mul_le_mul_left _ (Nat.pow_le_pow_right (by decide) (by omega))

theorem unitsOfRank_pos {rank : Nat} (pos : 0 < rank) : 0 < unitsOfRank rank := by
  unfold unitsOfRank
  split
  · exact pos
  · exact Nat.mul_pos (Nat.add_pos_left (by decide) _) (Nat.pow_pos (by decide))

/--
How far the digits of a rank are shifted, and what they are.  The rank is the shift and the
digits in one number, which is why ranks are in the order of their magnitudes.
-/
theorem shift_unitsOfRank (rank : Nat) :
    ∃ low, unitsOfRank rank = low * Nat.pow 2 ((unitsOfRank rank).log2 - 52) ∧
      ((unitsOfRank rank).log2 - 52) * fractions + low = rank := by
  by_cases small : rank < fractions
  · refine ⟨rank, ?_⟩
    rw [unitsOfRank_of_lt small]
    have shift : rank.log2 - 52 = 0 := by
      by_cases zero : rank = 0
      · subst zero
        decide
      · have := (Nat.log2_lt zero (k := 52)).mpr small
        omega
    rw [shift]
    simp
  · have large : fractions ≤ rank := Nat.le_of_not_lt small
    refine ⟨fractions + rank % fractions, ?_⟩
    have below : rank % fractions < fractions := Nat.mod_lt _ (by decide)
    have whole := Nat.div_add_mod rank fractions
    have first : 0 < rank / fractions := Nat.div_pos large (by decide)
    have log : (unitsOfRank rank).log2 = 52 + (rank / fractions - 1) := by
      rw [unitsOfRank_of_le large]
      apply log2_eq
      · calc Nat.pow 2 (52 + (rank / fractions - 1))
            = fractions * Nat.pow 2 (rank / fractions - 1) := Nat.pow_add 2 52 _
          _ ≤ _ := Nat.mul_le_mul_right _ (by omega)
      · calc (fractions + rank % fractions) * Nat.pow 2 (rank / fractions - 1)
            < (2 * fractions) * Nat.pow 2 (rank / fractions - 1) :=
              Nat.mul_lt_mul_of_pos_right (by omega) (Nat.pow_pos (by decide))
          _ = Nat.pow 2 (52 + (rank / fractions - 1) + 1) := by
              have two : 2 * fractions = Nat.pow 2 53 := rfl
              rw [two, show 52 + (rank / fractions - 1) + 1 = 53 + (rank / fractions - 1) by omega]
              exact (Nat.pow_add 2 53 _).symm
    have shift : (unitsOfRank rank).log2 - 52 = rank / fractions - 1 := by omega
    rw [shift]
    refine ⟨unitsOfRank_of_le large, ?_⟩
    have split : (rank / fractions - 1) * fractions + fractions = rank / fractions * fractions := by
      rw [← Nat.succ_mul, Nat.succ_eq_add_one, Nat.sub_add_cancel first]
    rw [Nat.mul_comm fractions] at whole
    omega

/--
A quotient that is a binary64 number is rounded to itself.  Rounding loses nothing then,
neither in the digits nor in the exponent.
-/
theorem nearestRank_of_exact {numerator denominator rank : Nat} (pos : 0 < denominator)
    (exact : numerator * unit = unitsOfRank rank * denominator) :
    nearestRank numerator denominator = rank := by
  rcases shift_unitsOfRank rank with ⟨low, units, counted⟩
  have quotient : unitsOfRank rank * denominator / denominator = unitsOfRank rank :=
    Nat.mul_div_cancel _ pos
  have step : unitsOfRank rank * denominator =
      low * (denominator * Nat.pow 2 ((unitsOfRank rank).log2 - 52)) := by
    calc unitsOfRank rank * denominator
        = low * Nat.pow 2 ((unitsOfRank rank).log2 - 52) * denominator :=
          congrArg (· * denominator) units
      _ = _ := by ring
  have stepPos : 0 < denominator * Nat.pow 2 ((unitsOfRank rank).log2 - 52) :=
    Nat.mul_pos pos (Nat.pow_pos (by decide))
  simp only [nearestRank, exact, quotient]
  rw [step, Nat.mul_div_cancel _ stepPos, Nat.mul_mod_left]
  have exactly : ¬ denominator * Nat.pow 2 ((unitsOfRank rank).log2 - 52) < 2 * 0 := by omega
  have nonzero : ¬ 2 * 0 = denominator * Nat.pow 2 ((unitsOfRank rank).log2 - 52) := by omega
  simp only [exactly, nonzero, decide_false, Bool.false_and, Bool.or_self, Bool.false_eq_true,
    if_false]
  exact counted

end Binary64
end DeviceLink
