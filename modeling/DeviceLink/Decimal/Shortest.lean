import DeviceLink.Decimal

namespace DeviceLink
namespace Decimal

/-!
The shortest decimal that reads back as a given binary64 number, and of several the
nearest.  The exact decimal expansion is cut after one, two, ... digits; the first cut
with a neighbour that reads back decides.  Seventeen digits suffice for every number,
and the exact expansion stands behind them.  The neighbours of a value on the grid of a
given length are computed with one division of whole numbers.  Formats differ only in
what they do when both neighbours are equally near, and that is a parameter of the
search.
-/

/--
Which of two equally near shortest decimals is taken.  Formats differ in this one point, and
the same number may have different texts for that reason.
-/
inductive Tie
  | toEven
  | up
  deriving DecidableEq, Repr

def readsBack (x : Binary64.Finite) (d : Decimal) : Bool :=
  d.toBinary64 x.negative = .finite x

/--
The two neighbours of a value on a decimal grid, and how far into its gap the value lies.
Whether the lower one ends in an even digit is kept as well, for the tie rule.
-/
structure Neighbours where
  below : Decimal
  above : Decimal
  belowEven : Bool
  rest : Nat
  step : Nat

namespace Neighbours

/--
The neighbours of a value among the decimals with `count` digits.  They come without the
zeros at the end, so a neighbour may have fewer digits than were asked for.
-/
def around (x : Binary64.Finite) (count : Nat) : Neighbours :=
  let whole := exact x
  let dropped := whole.digits.length - count
  let step := Nat.pow 10 dropped
  let low := whole.significand / step
  { below := withoutTrailingZeros ⟨low, whole.exponent + dropped⟩
    above := withoutTrailingZeros ⟨low + 1, whole.exponent + dropped⟩
    belowEven := low % 2 = 0
    rest := whole.significand % step
    step := step }

def nearer (tie : Tie) (pair : Neighbours) : Decimal :=
  if 2 * pair.rest < pair.step then pair.below
  else if pair.step < 2 * pair.rest then pair.above
  else match tie with
    | .up => pair.above
    | .toEven => if pair.belowEven then pair.below else pair.above

/-- The neighbour that is accepted, and the nearer one if both are.  There need not be any. -/
def pick (accepts : Decimal → Bool) (tie : Tie) (pair : Neighbours) : Option Decimal :=
  if accepts pair.below then
    if accepts pair.above then some (pair.nearer tie) else some pair.below
  else if accepts pair.above then some pair.above else none

theorem nearer_eq_or (tie : Tie) (pair : Neighbours) :
    pair.nearer tie = pair.below ∨ pair.nearer tie = pair.above := by
  unfold nearer
  split
  · exact Or.inl rfl
  · split
    · exact Or.inr rfl
    · cases tie with
      | up => exact Or.inr rfl
      | toEven =>
          cases pair.belowEven with
          | true => exact Or.inl rfl
          | false => exact Or.inr rfl

theorem accepts_of_pick {accepts : Decimal → Bool} {tie : Tie} {pair : Neighbours} {d : Decimal}
    (h : pair.pick accepts tie = some d) : accepts d = true := by
  unfold pick at h
  split at h
  · rename_i hbelow
    split at h
    · rename_i habove
      cases h
      rcases nearer_eq_or tie pair with same | same
      · exact same ▸ hbelow
      · exact same ▸ habove
    · cases h
      exact hbelow
  · split at h
    · rename_i habove
      cases h
      exact habove
    · cases h

end Neighbours

/--
The neighbour with `count` digits that reads back.  One that does not read back as the same
number stands for another number and is of no use.
-/
def cut (tie : Tie) (x : Binary64.Finite) (count : Nat) : Option Decimal :=
  (Neighbours.around x count).pick (readsBack x) tie

theorem readsBack_of_cut {tie : Tie} {x : Binary64.Finite} {count : Nat} {d : Decimal}
    (h : cut tie x count = some d) : readsBack x d = true :=
  Neighbours.accepts_of_pick h

/--
The digit counts that are tried, in order.  A number that none of them fits is written with
all its digits.
-/
def counts : List Nat := (List.range 17).map (· + 1)

def shortest (tie : Tie) (x : Binary64.Finite) : Decimal :=
  if x.isZero then ⟨0, 0⟩ else (counts.findSome? (cut tie x)).getD (exact x)

end Decimal
end DeviceLink
