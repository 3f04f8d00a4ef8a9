import DeviceLink.Decimal.Shortest

namespace DeviceLink
namespace Decimal

/-!
Writing a binary64 number as text.  A layout fixes what a format decides on its own: the
tie rule, where positional notation ends, and whether a whole number keeps a fraction
digit.  The digits themselves come from the shortest decimal of the number, so a layout
can never change the value that a text stands for.  Integers and counts inside messages
are written here too, in plain decimal digits.
-/

structure Layout where
  tie : Tie
  /--
  Whether positional notation is used at this decimal exponent of the first digit.
  Otherwise the number is written with an exponent.
  -/
  positional : Int → Bool
  /--
  Whether a whole number in positional notation ends in `.0`.  It keeps the number apart
  from an integer when the text is read again.
  -/
  wholeFraction : Bool

def signText (negative : Bool) : List Char := if negative then ['-'] else []

def naturalText (n : Nat) : List Char := Nat.toDigits 10 n

def integerText (value : Int) : List Char := signText (value < 0) ++ naturalText value.natAbs

/-- A count inside a message.  It is written in decimal digits, as people read it. -/
def naturalString (n : Nat) : String := String.ofList (naturalText n)

/-- A signed number inside a message.  Only a negative one shows its sign. -/
def integerString (value : Int) : String := String.ofList (integerText value)

/--
Positional notation: every digit in its place, filled up with zeros.  The point may lie in
front of all digits, behind all of them, or between two.
-/
def positionalText (wholeFraction : Bool) (d : Decimal) : List Char :=
  let digits := d.digits
  if d.point ≤ 0 then
    '0' :: '.' :: List.replicate (-d.point).toNat '0' ++ digits
  else if (digits.length : Int) ≤ d.point then
    digits ++ List.replicate (d.point.toNat - digits.length) '0' ++
      (if wholeFraction then ['.', '0'] else [])
  else
    digits.take d.point.toNat ++ '.' :: digits.drop d.point.toNat

/--
One digit, the others after a point, and the signed decimal exponent.  The exponent always
has its sign, and the point is left out when nothing follows it.
-/
def scientificText (d : Decimal) : List Char :=
  let power := d.point - 1
  let tail := d.digits.drop 1
  d.digits.take 1 ++ (if tail.isEmpty then [] else '.' :: tail) ++
    'e' :: (if power < 0 then '-' else '+') :: naturalText power.natAbs

namespace Layout

def place (layout : Layout) (d : Decimal) : List Char :=
  if layout.positional (d.point - 1) then positionalText layout.wholeFraction d
  else scientificText d

def finiteText (layout : Layout) (x : Binary64.Finite) : List Char :=
  signText x.negative ++ layout.place (shortest layout.tie x)

end Layout

/--
Plain text never uses an exponent and writes a whole number without a point.  It is the text
of a number as a value of a datum, so it may become very long.
-/
def plain : Layout := ⟨.up, fun _ => true, false⟩

/--
The plain text of any binary64 number.  Only the words for infinity and for what is no
number contain letters.
-/
def plainText : Binary64 → List Char
  | .finite x => plain.finiteText x
  | .infinite negative => signText negative ++ "inf".toList
  | .nan => "NaN".toList

end Decimal
end DeviceLink
