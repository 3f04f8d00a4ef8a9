import DeviceLink.Decimal.Layout

namespace DeviceLink

/-!
Spans of time in whole nanoseconds, and their text: the value in the largest unit in
which it is at least one, with an exact fraction.  Spans that are computed here are
exact and have no upper bound; whether one fits the words of a machine is asked where it
matters.  `Fits` is that question.  The text is exact as well, so a message that names a
span names it to the last digit.
-/

structure Duration where
  nanoseconds : Nat
  deriving DecidableEq, Repr

namespace Duration

/--
A count of whole seconds must fit a word.  Whatever is longer has no representation and
crashes the program that computes it.
-/
def secondsLimit : Nat := 0x10000000000000000

def nanosecondsPerSecond : Nat := 1000000000

def nanosecondsPerMillisecond : Nat := 1000000

def nanosecondsPerMicrosecond : Nat := 1000

def Fits (duration : Duration) : Prop :=
  duration.nanoseconds < secondsLimit * nanosecondsPerSecond

instance (duration : Duration) : Decidable duration.Fits := inferInstanceAs (Decidable (_ < _))

def ofMilliseconds (n : Nat) : Duration := ⟨n * nanosecondsPerMillisecond⟩

def ofSeconds (n : Nat) : Duration := ⟨n * nanosecondsPerSecond⟩

/-- Whole milliseconds.  What is left of a millisecond is cut off. -/
def milliseconds (duration : Duration) : Nat := duration.nanoseconds / nanosecondsPerMillisecond

def isZero (duration : Duration) : Bool := duration.nanoseconds = 0

/--
Fraction digits below a unit of `10 ^ places`, without zeros at the end.  They start with
the point, and a fraction of zero has neither digits nor point.
-/
def fractionText (places rest : Nat) : List Char :=
  let digits := Decimal.naturalText rest
  let padded := List.replicate (places - digits.length) '0' ++ digits
  let kept := (padded.reverse.dropWhile (· = '0')).reverse
  if kept.isEmpty then [] else '.' :: kept

/--
A count of `10 ^ places` nanoseconds each, with its unit.  The unit follows the digits
without a blank.
-/
def inUnit (duration : Duration) (places : Nat) (unit : String) : String :=
  String.ofList
    (Decimal.naturalText (duration.nanoseconds / Nat.pow 10 places) ++
      fractionText places (duration.nanoseconds % Nat.pow 10 places) ++ unit.toList)

def text (duration : Duration) : String :=
  if nanosecondsPerSecond ≤ duration.nanoseconds then duration.inUnit 9 "s"
  else if nanosecondsPerMillisecond ≤ duration.nanoseconds then duration.inUnit 6 "ms"
  else if nanosecondsPerMicrosecond ≤ duration.nanoseconds then duration.inUnit 3 "\u00b5s"
  else duration.inUnit 0 "ns"

end Duration
end DeviceLink
