import DeviceLink.Decimal.Shortest
import DeviceLink.Proofs.Binary64.Nearest

namespace DeviceLink
namespace Decimal

/-!
Decimals as binary64 numbers.  The nearest number depends on the magnitude and not on
how many zeros its significand ends in; the shortest decimal of a number reads back as
that number, and its exact expansion does too.  The proof pads the significand with
zeros until two decimals have the same exponent, and then compares whole numbers.  That
a digit is missing or surplus at the end makes no difference to what is read, and this
is why texts of any layout can be read back.
-/

/--
The same magnitude with more zeros at the end of its significand.  The exponent is lower by
as many.
-/
def padded (d : Decimal) (zeros : Nat) : Decimal :=
  ⟨d.significand * Nat.pow 10 zeros, d.exponent - zeros⟩

theorem padded_zero (d : Decimal) : d.padded 0 = d := by
  simp [padded]

theorem toDigits_pad {n : Nat} (pos : 0 < n) (zeros : Nat) :
    Nat.toDigits 10 (n * Nat.pow 10 zeros) = Nat.toDigits 10 n ++ List.replicate zeros '0' := by
  induction zeros with
  | zero => simp
  | succ zeros ih =>
      have product : 0 < n * Nat.pow 10 zeros := Nat.mul_pos pos (Nat.pow_pos (by decide))
      have next : n * Nat.pow 10 (zeros + 1) = 10 * (n * Nat.pow 10 zeros) + 0 := by
        simp only [Nat.pow_eq, Nat.pow_succ]
        ring
      rw [next, ← Nat.toDigits_append_toDigits (by decide) product (by decide), ih,
        List.replicate_succ', List.append_assoc]
      rfl

theorem point_padded {d : Decimal} (pos : 0 < d.significand) (zeros : Nat) :
    (d.padded zeros).point = d.point := by
  simp only [point, digits, padded, toDigits_pad pos, List.length_append, List.length_replicate]
  omega

/--
A magnitude in range as one quotient, whatever the sign of its exponent.  Multiplying by a
power of ten and dividing by one are treated alike from here on.
-/
theorem toBinary64_eq (negative : Bool) {d : Decimal} (nonzero : d.significand ≠ 0) :
    d.toBinary64 negative =
      if highestPoint < d.point then .infinite negative
      else if d.point < lowestPoint then .finite (Binary64.Finite.zero negative)
      else Binary64.ofRatio negative (d.significand * Nat.pow 10 d.exponent.toNat)
        (Nat.pow 10 (-d.exponent).toNat) := by
  rw [toBinary64, if_neg nonzero]
  by_cases whole : 0 ≤ d.exponent
  · have unscaled : (-d.exponent).toNat = 0 := by omega
    rw [if_pos whole, unscaled, show Nat.pow 10 0 = 1 from rfl]
  · have unscaled : d.exponent.toNat = 0 := by omega
    rw [if_neg whole, unscaled]
    rw [show Nat.pow 10 0 = 1 from rfl, Nat.mul_one]

/--
The nearest number depends on the magnitude alone.  How a literal spells the magnitude is of
no importance.
-/
theorem toBinary64_padded (negative : Bool) (d : Decimal) (zeros : Nat) :
    (d.padded zeros).toBinary64 negative = d.toBinary64 negative := by
  by_cases zero : d.significand = 0
  · simp [toBinary64, padded, zero]
  · have pos : 0 < d.significand := Nat.pos_of_ne_zero zero
    have power : ∀ exponent : Nat, 0 < Nat.pow 10 exponent := fun _ => Nat.pow_pos (by decide)
    have nonzero : (d.padded zeros).significand ≠ 0 := (Nat.mul_pos pos (power zeros)).ne'
    rw [toBinary64_eq negative nonzero, toBinary64_eq negative zero, point_padded pos]
    have exponents : zeros + (d.exponent - zeros).toNat + (-d.exponent).toNat =
        d.exponent.toNat + (-(d.exponent - zeros)).toNat := by omega
    have powers : Nat.pow 10 zeros * Nat.pow 10 (d.exponent - zeros).toNat *
          Nat.pow 10 (-d.exponent).toNat =
        Nat.pow 10 d.exponent.toNat * Nat.pow 10 (-(d.exponent - zeros)).toNat := by
      simp only [Nat.pow_eq, ← Nat.pow_add, exponents]
    have cross : d.significand * Nat.pow 10 zeros * Nat.pow 10 (d.exponent - zeros).toNat *
          Nat.pow 10 (-d.exponent).toNat =
        d.significand * Nat.pow 10 d.exponent.toNat *
          Nat.pow 10 (-(d.exponent - zeros)).toNat := by
      rw [Nat.mul_assoc d.significand, Nat.mul_assoc d.significand, powers, Nat.mul_assoc]
    have same := Binary64.nearestRank_congr (power _) (power _) cross
    simp only [padded, Binary64.ofRatio]
    rw [same]

/-! Shortest decimals read back. -/

/--
The exact expansion of a nonzero number reads back; `fives` is the power of five that turns
units into the last of its decimal places.  It has as many places as it takes.
-/
theorem readsBack_of_exact {x : Binary64.Finite} (nonzero : 0 < x.rank) {fives places : Nat}
    (tens : fives * Binary64.unit = Nat.pow 10 places)
    (high : Nat.pow 2 (53 + 2045) * fives ≤ Nat.pow 10 (309 + places))
    (low : Nat.pow 10 (places - 324) ≤ fives) (cut : 324 < places) :
    readsBack x ⟨x.units * fives, -places⟩ = true := by
  have pos : 0 < fives := Nat.lt_of_lt_of_le (Nat.pow_pos (by decide)) low
  have units : 0 < x.units := Binary64.unitsOfRank_pos nonzero
  have most : x.units * fives < 10 ^ (309 + places) :=
    Nat.lt_of_lt_of_le
      (Nat.mul_lt_mul_of_pos_right (Binary64.unitsOfRank_lt x.rank_lt) pos) high
  have least : ¬ x.units * fives < 10 ^ (places - 324) :=
    Nat.not_lt.mpr (Nat.le_trans low (Nat.le_mul_of_pos_left _ units))
  rw [← Nat.length_toDigits_le_iff (by decide) (by omega)] at most least
  have nearest : Binary64.nearestRank (x.units * fives) (Nat.pow 10 places) = x.rank := by
    apply Binary64.nearestRank_of_exact (Nat.pow_pos (by decide))
    rw [Nat.mul_assoc, tens]
    rfl
  have upward : (-(places : Int)).toNat = 0 := by omega
  have downward : (-(-(places : Int))).toNat = places := by omega
  rw [readsBack, decide_eq_true_iff, toBinary64_eq _ (Nat.mul_pos units pos).ne',
    if_neg (by simp only [point, digits, highestPoint]; omega),
    if_neg (by simp only [point, digits, lowestPoint]; omega)]
  simp only [upward, downward]
  rw [show Nat.pow 10 0 = 1 from rfl, Nat.mul_one]
  exact Binary64.ofRatio_eq_finite_iff.mpr ⟨rfl, nearest⟩

theorem readsBack_exact {x : Binary64.Finite} (nonzero : 0 < x.rank) :
    readsBack x (exact x) = true :=
  readsBack_of_exact nonzero (by decide +kernel) (by decide +kernel) (by decide +kernel)
    (by decide)

/--
The shortest decimal of a number reads back as the number, zero and its sign included.  That
is what makes texts of numbers reliable.
-/
theorem toBinary64_shortest (tie : Tie) (x : Binary64.Finite) :
    (shortest tie x).toBinary64 x.negative = .finite x := by
  rw [shortest]
  split
  · next zero =>
    rcases x with ⟨negative, rank, rank_lt⟩
    have rank_eq : rank = 0 := of_decide_eq_true zero
    subst rank_eq
    rfl
  · next nonzero =>
    have rank : 0 < x.rank := Nat.pos_of_ne_zero fun zero => nonzero (decide_eq_true zero)
    have back : readsBack x ((counts.findSome? (cut tie x)).getD (exact x)) = true := by
      cases found : counts.findSome? (cut tie x) with
      | none => exact readsBack_exact rank
      | some d =>
          rcases List.exists_of_findSome?_eq_some found with ⟨count, -, accepted⟩
          exact readsBack_of_cut accepted
    exact of_decide_eq_true back

/--
Only zero has a shortest decimal without significand.  So the sign is all that a zero has to
say.
-/
theorem significand_shortest (tie : Tie) (x : Binary64.Finite) :
    (shortest tie x).significand = 0 ↔ x.rank = 0 := by
  constructor
  · intro vanishes
    have back := toBinary64_shortest tie x
    rw [toBinary64, if_pos vanishes, Binary64.finite.injEq] at back
    rw [← back]
    rfl
  · intro zero
    have isZero : x.isZero = true := decide_eq_true zero
    rw [shortest, if_pos isZero]

end Decimal
end DeviceLink
