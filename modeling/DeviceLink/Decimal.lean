import DeviceLink.Binary64

namespace DeviceLink

/-!
Decimal magnitudes `significand * 10 ^ exponent` and their correctly rounded binary64
values.  Distant exponents are settled by counting digits, so that no power of ten
beyond the range of binary64 is ever built.  They stand between the text of a number and
its bits: reading goes from digits to the nearest number, and writing goes from the
exact value of a number back to digits.  Equal magnitudes may have different
significands, so zeros at the end can be dropped.
-/

structure Decimal where
  significand : Nat
  exponent : Int
  deriving DecidableEq, Repr

namespace Decimal

def digits (d : Decimal) : List Char := Nat.toDigits 10 d.significand

/--
The place of the decimal point, counted from the front of the digits.  It may lie in front
of the first digit or behind the last one.
-/
def point (d : Decimal) : Int := d.digits.length + d.exponent

/--
Every magnitude whose point lies above this place exceeds the finite numbers.  Such
magnitudes are infinite without further computation.
-/
def highestPoint : Int := 309

/--
Every magnitude whose point lies below this place is under half the least number.  Such
magnitudes are rounded to zero without further computation.
-/
def lowestPoint : Int := -323

/--
The nearest binary64 number, a middle going to the even neighbour.  The sign is given apart,
so that zero has one as well.
-/
def toBinary64 (negative : Bool) (d : Decimal) : Binary64 :=
  if d.significand = 0 then .finite (Binary64.Finite.zero negative)
  else if highestPoint < d.point then .infinite negative
  else if d.point < lowestPoint then .finite (Binary64.Finite.zero negative)
  else if 0 ≤ d.exponent then
    Binary64.ofRatio negative (d.significand * Nat.pow 10 d.exponent.toNat) 1
  else
    Binary64.ofRatio negative d.significand (Nat.pow 10 (-d.exponent).toNat)

/--
Drop the zeros at the end of the digits and keep the value.  The digits that are left are
those that a text shows.
-/
def withoutTrailingZeros (d : Decimal) : Decimal :=
  let zeros := (d.digits.reverse.takeWhile (· = '0')).length
  ⟨d.significand / Nat.pow 10 zeros, d.exponent + zeros⟩

/--
The exact value of a finite binary64 number, which always has finitely many digits.  The
unit of all magnitudes is a power of two, and a power of five turns it into a power of ten.
-/
def exact (x : Binary64.Finite) : Decimal := ⟨x.units * Nat.pow 5 1074, -1074⟩

end Decimal
end DeviceLink
