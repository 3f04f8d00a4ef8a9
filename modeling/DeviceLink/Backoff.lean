import DeviceLink.Decimal
import DeviceLink.Duration
import DeviceLink.Json.Printer
import DeviceLink.Source

namespace DeviceLink

/-!
The pauses between attempts to reconnect: exponential growth up to a cap, and a spread
of at most a fifth on top of it that depends on the attempt alone.  All arithmetic is
binary64, rounded after every single operation.  The same attempt therefore always
pauses for the same time, and the pauses of two clients differ only by their settings.
The word that the spread is made of is a fixed mixture of the bits of the attempt.  A
record of settings describes a backoff completely, and it is read and written here as
well.
-/

structure Backoff where
  initialDelay : UInt64
  maxDelay : UInt64
  factor : Binary64
  /--
  Failures in a row that are tolerated; zero tolerates any number.  A link that came up
  starts the count again.
  -/
  maxAttempts : UInt32
  deriving DecidableEq, Repr

namespace Backoff

def standard : Backoff := ⟨1000, 30000, Binary64.ofNat 2, 0⟩

/--
Multiply `result` by a power, squaring the base for every binary digit of the exponent.
Every product is rounded, so the order of the multiplications matters for the last digits.
-/
def powerFrom (result base : Binary64) (exponent : Nat) : Binary64 :=
  let next := if exponent % 2 = 1 then result.mul base else result
  if exponent / 2 = 0 then next else powerFrom next (base.mul base) (exponent / 2)
termination_by exponent
decreasing_by omega

def power (base : Binary64) (exponent : Nat) : Binary64 :=
  powerFrom (Binary64.ofNat 1) base exponent

/--
The exponent stops growing here.  Doubled as often as this, even one millisecond is longer
than any pause that a word can hold.
-/
def exponentLimit : Nat := 64

/--
A word with well-mixed bits.  It is all the randomness there is: attempts that follow each
other get words that have nothing visible in common.
-/
def mix (attempt : UInt32) : UInt64 :=
  let x := attempt.toUInt64 + 0x9E3779B97F4A7C15
  let x := (x ^^^ (x >>> 30)) * 0xBF58476D1CE4E5B9
  let x := (x ^^^ (x >>> 27)) * 0x94D049BB133111EB
  x ^^^ (x >>> 31)

/--
A number from zero up to, but not including, one.  It is made of the leading bits of the
word, so that it is a binary64 number without rounding.
-/
def spread (attempt : UInt32) : Binary64 :=
  (Binary64.ofNat (mix attempt >>> 11).toNat).div (Binary64.ofNat 0x20000000000000)

/-- The largest part of a pause that the spread may add.  It is the nearest number to a fifth. -/
def spreadShare : Binary64 := Decimal.toBinary64 false ⟨2, -1⟩

/--
The pause without its spread.  The growth is never below one, and the cap wins even where it
is shorter than the first pause.
-/
def capped (backoff : Backoff) (attempt : UInt32) : Binary64 :=
  let growth := power (backoff.factor.max (Binary64.ofNat 1)) (min attempt.toNat exponentLimit)
  ((Binary64.ofNat backoff.initialDelay.toNat).mul growth).min
    (Binary64.ofNat backoff.maxDelay.toNat)

/--
The pause in whole milliseconds before an attempt, counted from zero.  What is left of a
millisecond is cut off, and a pause beyond the range of a word is the largest word.
-/
def delayMilliseconds (backoff : Backoff) (attempt : UInt32) : UInt64 :=
  let capped := backoff.capped attempt
  (capped.add ((capped.mul spreadShare).mul (spread attempt))).toUInt64

def delay (backoff : Backoff) (attempt : UInt32) : Duration :=
  .ofMilliseconds (backoff.delayMilliseconds attempt).toNat

def isExhausted (backoff : Backoff) (attempt : UInt32) : Bool :=
  backoff.maxAttempts ≠ 0 && backoff.maxAttempts ≤ attempt

/-! The written form. -/

def fields : List String := ["initial_delay_ms", "max_delay_ms", "factor", "max_attempts"]

def ofFields? {δ : Type} (source : Source δ) (given : Fields δ) : Option Backoff :=
  match given.withDefault? "initial_delay_ms" source.word64? standard.initialDelay,
      given.withDefault? "max_delay_ms" source.word64? standard.maxDelay,
      given.withDefault? "factor" source.number? standard.factor,
      given.withDefault? "max_attempts" source.word32? standard.maxAttempts with
  | some initialDelay, some maxDelay, some factor, some maxAttempts =>
      some ⟨initialDelay, maxDelay, factor, maxAttempts⟩
  | _, _, _, _ => none

/--
Read a backoff in any notation.  Members that are missing have the standard values, and one
of the wrong kind makes the whole unreadable.
-/
def read? {δ : Type} (source : Source δ) (value : δ) : Option Backoff :=
  (source.fields? fields value).bind (ofFields? source)

def ofText? (text : String) : Option Backoff :=
  (Json.Document.ofText? text).bind (read? Json.source)

/--
JSON has no word for a number that is not finite.  A factor that is infinite or no number is
written as null.
-/
def factorText (factor : Binary64) : List Char :=
  match factor with
  | .finite x => Json.Number.layout.finiteText x
  | _ => "null".toList

def render (backoff : Backoff) : List Char :=
  Json.objectText
    [Json.memberText "initial_delay_ms" (Decimal.naturalText backoff.initialDelay.toNat),
      Json.memberText "max_delay_ms" (Decimal.naturalText backoff.maxDelay.toNat),
      Json.memberText "factor" (factorText backoff.factor),
      Json.memberText "max_attempts" (Decimal.naturalText backoff.maxAttempts.toNat)]

def text (backoff : Backoff) : String := String.ofList backoff.render

end Backoff
end DeviceLink
