namespace DeviceLink

/-!
Binary64 numbers in exact arithmetic.  A finite magnitude is stored as its rank among
the nonnegative binary64 numbers, so order and equality are those of the rank and every
rank below the limit is a number.  Every finite magnitude is a whole number of `2 ^
-1074`; rounding and arithmetic are stated on these units and never on machine floats.
That way every comparison and every rounding in the development is a statement about
natural numbers, which proofs can open.  There is a zero for each sign, an infinity for
each sign, and one value that is no number.  Only the operations that are used somewhere
are here, each arithmetic one with a single rounding.
-/

namespace Binary64

/--
How many numbers share an exponent: a fraction has 52 bits.  They lie at equal distances,
and the next exponent doubles the distance.
-/
def fractions : Nat := 0x10000000000000

/--
The number of finite nonnegative binary64 numbers.  The largest exponent is left out,
because it stands for infinity and for what is no number.
-/
def rankLimit : Nat := 2047 * fractions

/--
One, counted in units of `2 ^ -1074`.  It is what turns a magnitude in units into a quotient
and back.
-/
def unit : Nat := Nat.pow 2 1074

/--
The magnitude of a rank in units of `2 ^ -1074`.  The ranks below two times `fractions` are
their own magnitudes; beyond them the distance doubles with the exponent.
-/
def unitsOfRank (rank : Nat) : Nat :=
  if rank < fractions then rank
  else (fractions + rank % fractions) * Nat.pow 2 (rank / fractions - 1)

/--
The rank nearest to `numerator / denominator`, a middle going to the even rank.
The quotient is cut to 53 significant bits, or fewer where the units end; a rank
at or above `rankLimit` means that the quotient is too large.
-/
def nearestRank (numerator denominator : Nat) : Nat :=
  let scaled := numerator * unit
  let shift := (scaled / denominator).log2 - 52
  let step := denominator * Nat.pow 2 shift
  let low := scaled / step
  let rest := scaled % step
  let up := step < 2 * rest || (2 * rest = step && low % 2 = 1)
  shift * fractions + (if up then low + 1 else low)

/-- A finite number: a sign and the rank of the magnitude.  Zero has both signs. -/
structure Finite where
  negative : Bool
  rank : Nat
  rank_lt : rank < rankLimit
  deriving DecidableEq, Repr

namespace Finite

def zero (negative : Bool) : Finite := ⟨negative, 0, by decide⟩

def units (x : Finite) : Nat := unitsOfRank x.rank

def isZero (x : Finite) : Bool := x.rank = 0

/--
The whole part of the magnitude.  Cutting off the fraction rounds towards zero, for both
signs.
-/
def whole (x : Finite) : Nat := x.units / unit

/--
The number without its fraction, clamped to the range of `Int64`.  A number that is too
large for a word becomes the word nearest to it, and does not wrap around.
-/
def toInt64 (x : Finite) : Int64 :=
  if x.negative then
    Int64.ofInt (-(Nat.min x.whole 0x8000000000000000 : Nat))
  else
    Int64.ofInt (Nat.min x.whole 0x7FFFFFFFFFFFFFFF : Nat)

end Finite
end Binary64

inductive Binary64
  | finite (value : Binary64.Finite)
  | infinite (negative : Bool)
  | nan
  deriving DecidableEq, Repr

namespace Binary64

/--
The number of a sign and a rank; ranks past the last finite one are infinite.  Rounding may
arrive at the first rank past the last number, and that is how it overflows.
-/
def ofRank (negative : Bool) (rank : Nat) : Binary64 :=
  if rank_lt : rank < rankLimit then .finite ⟨negative, rank, rank_lt⟩ else .infinite negative

theorem ofRank_eq_finite_iff {negative : Bool} {rank : Nat} {x : Finite} :
    ofRank negative rank = .finite x ↔ negative = x.negative ∧ rank = x.rank := by
  constructor
  · intro h
    unfold ofRank at h
    split at h
    · cases h
      exact ⟨rfl, rfl⟩
    · cases h
  · intro h
    unfold ofRank
    rw [h.1, h.2, dif_pos x.rank_lt]

/--
The binary64 number nearest to a signed quotient.  Every arithmetic operation and every
reading of a decimal ends in one such rounding.
-/
def ofRatio (negative : Bool) (numerator denominator : Nat) : Binary64 :=
  ofRank negative (nearestRank numerator denominator)

theorem ofRatio_eq_finite_iff {negative : Bool} {numerator denominator : Nat} {x : Finite} :
    ofRatio negative numerator denominator = .finite x ↔
      negative = x.negative ∧ nearestRank numerator denominator = x.rank :=
  ofRank_eq_finite_iff

def ofNat (n : Nat) : Binary64 := ofRatio false n 1

/--
The bit of the sign stands above all others.  Without it, the bits of a finite number are
its rank.
-/
def signBit : Nat := 0x8000000000000000

/--
Decode the 64 bits of the interchange format.  The rank is what is left of the bits without
the sign; the two largest exponents tell infinity from what is no number.
-/
def ofBits (bits : UInt64) : Binary64 :=
  let rank := bits.toNat % signBit
  let negative := signBit ≤ bits.toNat
  if rankLimit < rank then .nan else ofRank negative rank

def finite? : Binary64 → Option Finite
  | .finite x => some x
  | _ => none

def isZero : Binary64 → Bool
  | .finite x => x.isZero
  | _ => false

def negative : Binary64 → Bool
  | .finite x => x.negative
  | .infinite sign => sign
  | .nan => false

def neg : Binary64 → Binary64
  | .finite x => .finite { x with negative := !x.negative }
  | .infinite sign => .infinite (!sign)
  | .nan => .nan

def mul : Binary64 → Binary64 → Binary64
  | .nan, _ => .nan
  | _, .nan => .nan
  | .finite x, .finite y =>
      ofRatio (x.negative != y.negative) (x.units * y.units) (unit * unit)
  | x, y =>
      if x.isZero || y.isZero then .nan else .infinite (x.negative != y.negative)

def div : Binary64 → Binary64 → Binary64
  | .nan, _ => .nan
  | _, .nan => .nan
  | .infinite _, .infinite _ => .nan
  | .infinite sign, .finite y => .infinite (sign != y.negative)
  | .finite x, .infinite sign => .finite (Finite.zero (x.negative != sign))
  | .finite x, .finite y =>
      if y.isZero then
        if x.isZero then .nan else .infinite (x.negative != y.negative)
      else
        ofRatio (x.negative != y.negative) x.units y.units

def add : Binary64 → Binary64 → Binary64
  | .nan, _ => .nan
  | _, .nan => .nan
  | .infinite s, .infinite t => if s = t then .infinite s else .nan
  | .infinite s, .finite _ => .infinite s
  | .finite _, .infinite t => .infinite t
  | .finite x, .finite y =>
      if x.negative = y.negative then ofRatio x.negative (x.units + y.units) unit
      else if x.units = y.units then .finite (Finite.zero false)
      else if y.units < x.units then ofRatio x.negative (x.units - y.units) unit
      else ofRatio y.negative (y.units - x.units) unit

/-- Strict order; both zeros are equal and `nan` is below and above nothing. -/
def lt : Binary64 → Binary64 → Bool
  | .nan, _ => false
  | _, .nan => false
  | .infinite s, .infinite t => s && !t
  | .infinite s, .finite _ => s
  | .finite _, .infinite t => !t
  | .finite x, .finite y =>
      match x.negative, y.negative with
      | false, false => x.rank < y.rank
      | true, true => y.rank < x.rank
      | true, false => !(x.isZero && y.isZero)
      | false, true => false

/-- The larger of two numbers; the other one if one is `nan`. -/
def max : Binary64 → Binary64 → Binary64
  | .nan, y => y
  | x, .nan => x
  | x, y => if x.lt y then y else x

/-- The smaller of two numbers; the other one if one is `nan`. -/
def min : Binary64 → Binary64 → Binary64
  | .nan, y => y
  | x, .nan => x
  | x, y => if y.lt x then y else x

/-- The whole part as a word: clamped at both ends, and zero for `nan`. -/
def toUInt64 : Binary64 → UInt64
  | .nan => 0
  | .infinite true => 0
  | .infinite false => 0xFFFFFFFFFFFFFFFF
  | .finite x => if x.negative then 0 else UInt64.ofNat (Nat.min x.whole 0xFFFFFFFFFFFFFFFF)

end Binary64
end DeviceLink
