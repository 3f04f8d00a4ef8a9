import DeviceLink.Decimal.Reading
import DeviceLink.Json.Quoted
import DeviceLink.Toml

namespace DeviceLink
namespace Toml

/-!
The values of a TOML document that have no parts: numbers, truth values and moments,
which are spelled without blanks, and quoted strings.  A spelling that fits none of them
is no value, and ends the reading.  Integers are those of 64 bits in four bases, with
underscores between their digits.  Dates and times are checked for being possible and
kept as they are spelled, since no setting is one.  Strings come in four forms, two of
which may span several lines.
-/

/--
Digits with single underscores between them; the value is the digits alone.  An underscore
never stands at either end.
-/
def digits? (isDigit : Char → Bool) : List Char → Option (List Char)
  | [] => none
  | [c] => if isDigit c then some [c] else none
  | c :: '_' :: rest => if isDigit c then (digits? isDigit rest).map (c :: ·) else none
  | c :: rest => if isDigit c then (digits? isDigit rest).map (c :: ·) else none

/--
Decimal digits that do not start with a zero, unless the zero stands alone.  Exponents and
fractions are not held to this.
-/
def wholeDigits? (text : List Char) : Option (List Char) :=
  match digits? Char.isDigit text with
  | some ['0'] => some ['0']
  | some ('0' :: _) => none
  | found => found

def isDigitBelow (base : Nat) (c : Char) : Bool :=
  match Json.Quoted.hexDigit? c with
  | some value => value < base
  | none => false

def inBase (base : Nat) (digits : List Char) : Nat :=
  digits.foldl (fun value c => value * base + (Json.Quoted.hexDigit? c).getD 0) 0

/-- The digits behind a base mark.  Zeros in front are fine there. -/
def markedInteger? (base : Nat) (text : List Char) : Option Int64 :=
  (digits? (isDigitBelow base) text).bind fun digits => Decimal.int64OfInt? (inBase base digits)

/--
An integer with a base mark has no sign.  Without one it may have either sign, and has to
fit a signed word.
-/
def integer? (text : List Char) : Option Int64 :=
  match text with
  | '0' :: 'x' :: rest => markedInteger? 16 rest
  | '0' :: 'o' :: rest => markedInteger? 8 rest
  | '0' :: 'b' :: rest => markedInteger? 2 rest
  | _ =>
      let (negative, rest) := Decimal.splitSign text
      (wholeDigits? rest).bind fun digits =>
        let value : Int := inBase 10 digits
        Decimal.int64OfInt? (if negative then -value else value)

/--
Split at the first character of a class, leaving that character out.  The second part is
missing if there is no such character.
-/
def splitAt? (isMark : Char → Bool) (text : List Char) : List Char × Option (List Char) :=
  match text.dropWhile fun c => !isMark c with
  | [] => (text, none)
  | _ :: rest => (text.takeWhile fun c => !isMark c, some rest)

/--
A part that may be missing, but must be digits if it is there.  Digits may be grouped by
underscores there too.
-/
def optionalDigits? : Option (List Char) → Option (List Char)
  | none => some []
  | some text => digits? Char.isDigit text

/--
A float has a fraction, an exponent, or both, and is one of the words otherwise.  One that
is too large is refused if it is positive.
-/
def float? (text : List Char) : Option Binary64 :=
  let (negative, rest) := Decimal.splitSign text
  if rest = "inf".toList then some (.infinite negative)
  else if rest = "nan".toList then some .nan
  else
    let (mantissa, exponent) := splitAt? (fun c => c = 'e' || c = 'E') rest
    let (whole, fraction) := splitAt? (fun c => c = '.') mantissa
    let (powerNegative, power) := Decimal.splitSign (exponent.getD ['0'])
    if fraction.isNone && exponent.isNone then none
    else
      match wholeDigits? whole, optionalDigits? fraction, digits? Char.isDigit power with
      | some w, some f, some p =>
          let magnitude : Int := inBase 10 p
          let value := Decimal.toBinary64 negative
            ⟨inBase 10 (w ++ f), (if powerNegative then -magnitude else magnitude) - f.length⟩
          if value = .infinite false then none else some value
      | _, _, _ => none

/-! Moments. -/

/-- Exactly `count` decimal digits from the front.  More digits may follow. -/
def number? (count : Nat) (text : List Char) : Option (Nat × List Char) :=
  let digits := text.take count
  if digits.length = count && digits.all Char.isDigit then some (inBase 10 digits, text.drop count)
  else none

def isLeapYear (year : Nat) : Bool :=
  year % 4 = 0 && (year % 100 ≠ 0 || year % 400 = 0)

def daysInMonth (year month : Nat) : Nat :=
  if month = 2 then if isLeapYear year then 29 else 28
  else if month = 4 || month = 6 || month = 9 || month = 11 then 30
  else 31

/-- Drop an expected character.  Any other character is an error of the moment. -/
def mark? (c : Char) : List Char → Option (List Char)
  | [] => none
  | first :: rest => if first = c then some rest else none

/--
A date at the front of a text; the value is what follows it.  The day must exist in that
month of that year.
-/
def afterDate? (text : List Char) : Option (List Char) := do
  let (year, rest) ← number? 4 text
  let (month, rest) ← number? 2 (← mark? '-' rest)
  let (day, rest) ← number? 2 (← mark? '-' rest)
  if 1 ≤ month && month ≤ 12 && 1 ≤ day && day ≤ daysInMonth year month then some rest else none

/--
A time of day at the front of a text; the value is what follows it.  A fraction of a second
may have any number of digits.
-/
def afterTime? (text : List Char) : Option (List Char) := do
  let (hour, rest) ← number? 2 text
  let (minute, rest) ← number? 2 (← mark? ':' rest)
  let (second, rest) ← number? 2 (← mark? ':' rest)
  if 23 < hour || 59 < minute || 60 < second then none
  else
    match rest with
    | '.' :: c :: tail => if c.isDigit then some (tail.dropWhile Char.isDigit) else none
    | _ => some rest

/-- An offset from world time at the end of a text.  Having none is fine as well. -/
def isOffset : List Char → Bool
  | [] => true
  | ['Z'] => true
  | ['z'] => true
  | c :: rest =>
      (c = '+' || c = '-') &&
        match number? 2 rest with
        | some (hour, ':' :: tail) =>
            match number? 2 tail with
            | some (minute, []) => hour ≤ 23 && minute ≤ 59
            | _ => false
        | _ => false

/-- A time of day alone has no offset.  A date alone is a moment too. -/
def isMoment (text : List Char) : Bool :=
  match afterDate? text with
  | some [] => true
  | some (c :: rest) =>
      (c = 'T' || c = 't' || c = ' ') &&
        match afterTime? rest with
        | some offset => isOffset offset
        | none => false
  | none => afterTime? text = some []

/--
A value that is spelled without quotes and brackets.  Truth values are tried first, then
numbers, and moments last.
-/
def plain? (text : List Char) : Option Item :=
  if text = "true".toList then some (.bool true)
  else if text = "false".toList then some (.bool false)
  else
    match integer? text with
    | some value => some (.integer value)
    | none =>
        match float? text with
        | some value => some (.float value)
        | none => if isMoment text then some (.moment (String.ofList text)) else none

def isPlainChar (c : Char) : Bool :=
  c.isAlphanum || c = '+' || c = '-' || c = '_' || c = '.' || c = ':'

/--
A plain value at the front of a text; a date may go on after one space.  It does so only if
a time of day follows the space.
-/
def scanPlain? (text : List Char) : Option (Item × List Char) :=
  let run := text.takeWhile isPlainChar
  let rest := text.dropWhile isPlainChar
  let (spelling, after) :=
    match rest with
    | ' ' :: tail =>
        if afterDate? run = some [] && (afterTime? (tail.takeWhile isPlainChar)).isSome then
          (run ++ ' ' :: tail.takeWhile isPlainChar, tail.dropWhile isPlainChar)
        else (run, rest)
    | _ => (run, rest)
  (plain? spelling).map fun item => (item, after)

/-! Strings. -/

/--
Control characters other than the tab stand in no string of one line and in no comment.  The
last of them is the one for deletion.
-/
def isForbidden (c : Char) : Bool := (c.toNat < 0x20 && c ≠ '\t') || c.toNat = 0x7F

/-- The character behind an escape of one letter.  There is none for a solidus. -/
def letterEscape? (c : Char) : Option Char :=
  if c = 'b' then some '\x08'
  else if c = 't' then some '\t'
  else if c = 'n' then some '\n'
  else if c = 'f' then some '\x0c'
  else if c = 'r' then some '\r'
  else if c = '"' then some '"'
  else if c = '\\' then some '\\'
  else none

/-- The character of a hexadecimal code point, if it is one.  Halves of characters are none. -/
def codePoint? (digits : List Char) : Option Char :=
  if digits.all (isDigitBelow 16) then
    let value := inBase 16 digits
    if value < 0xD800 || (0xE000 ≤ value && value < 0x110000) then some (Char.ofNat value) else none
  else none

/--
An escape after its backslash: its character, and what follows.  Code points come with four
digits or with eight.
-/
def escape? : List Char → Option (Char × List Char)
  | 'u' :: a :: b :: c :: d :: rest => (codePoint? [a, b, c, d]).map fun found => (found, rest)
  | 'U' :: a :: b :: c :: d :: e :: f :: g :: h :: rest =>
      (codePoint? [a, b, c, d, e, f, g, h]).map fun found => (found, rest)
  | letter :: rest => (letterEscape? letter).map fun found => (found, rest)
  | [] => none

/-- A literal string after its quote; nothing is escaped.  So it cannot hold its own quote. -/
def scanLiteral? : List Char → Option (List Char × List Char)
  | [] => none
  | c :: rest =>
      if c = '\'' then some ([], rest)
      else if isForbidden c then none
      else (scanLiteral? rest).map fun found => (c :: found.1, found.2)

/--
Drop the blanks and line ends that a backslash at the end of a line swallows.  They may go
over several lines.
-/
def dropSwallowed : List Char → List Char
  | ' ' :: rest => dropSwallowed rest
  | '\t' :: rest => dropSwallowed rest
  | '\n' :: rest => dropSwallowed rest
  | '\r' :: '\n' :: rest => dropSwallowed rest
  | text => text

/-- Whether a backslash stands at the end of its line.  Blanks may come between the two. -/
def endsLine (text : List Char) : Bool :=
  match text.dropWhile fun c => c = ' ' || c = '\t' with
  | '\n' :: _ => true
  | '\r' :: '\n' :: _ => true
  | _ => false

/--
A basic string after its quote.  The number bounds its length, and a text that ends first is
an error.
-/
def scanBasic? : Nat → List Char → Option (List Char × List Char)
  | 0, _ => none
  | _, [] => none
  | fuel + 1, c :: rest =>
      if c = '"' then some ([], rest)
      else if c = '\\' then
        match escape? rest with
        | some (found, after) =>
            (scanBasic? fuel after).map fun more => (found :: more.1, more.2)
        | none => none
      else if isForbidden c then none
      else (scanBasic? fuel rest).map fun more => (c :: more.1, more.2)

/--
The closing quotes of a string of many lines; up to two more quotes belong to the string.
That way such a string may end in quotes.
-/
def closing? (quote : Char) : List Char → Option (List Char × List Char)
  | a :: b :: c :: rest =>
      if a = quote && b = quote && c = quote then
        let extra := (rest.take 2).takeWhile fun d => d = quote
        some (extra, rest.drop extra.length)
      else none
  | _ => none

/--
A string of many lines after its opening quotes.  A line end inside is kept as a single
character, however it is spelled.
-/
def scanLines? (quote : Char) (escapes : Bool) : Nat → List Char → Option (List Char × List Char)
  | 0, _ => none
  | _, [] => none
  | fuel + 1, c :: rest =>
      match closing? quote (c :: rest) with
      | some (extra, after) => some (extra, after)
      | none =>
          if escapes && c = '\\' then
            if endsLine rest then scanLines? quote escapes fuel (dropSwallowed rest)
            else
              match escape? rest with
              | some (found, after) =>
                  (scanLines? quote escapes fuel after).map fun more => (found :: more.1, more.2)
              | none => none
          else if c = '\r' then
            match rest with
            | '\n' :: after =>
                (scanLines? quote escapes fuel after).map fun more => ('\n' :: more.1, more.2)
            | _ => none
          else if isForbidden c && c ≠ '\n' then none
          else (scanLines? quote escapes fuel rest).map fun more => (c :: more.1, more.2)

/--
A line end right after the opening quotes does not count.  So the text may begin on a line
of its own.
-/
def dropFirstLineEnd : List Char → List Char
  | '\n' :: rest => rest
  | '\r' :: '\n' :: rest => rest
  | text => text

/--
A string of one line, as it also stands in keys.  It is basic or literal, depending on its
quote.
-/
def scanShort? (text : List Char) : Option (String × List Char) :=
  match text with
  | '"' :: rest =>
      (scanBasic? (rest.length + 1) rest).map fun found => (String.ofList found.1, found.2)
  | '\'' :: rest => (scanLiteral? rest).map fun found => (String.ofList found.1, found.2)
  | _ => none

/-- Any string, of one line or of many.  Three quotes are looked for before one. -/
def scanString? (text : List Char) : Option (String × List Char) :=
  match text with
  | '"' :: '"' :: '"' :: rest =>
      (scanLines? '"' true (rest.length + 1) (dropFirstLineEnd rest)).map fun found =>
        (String.ofList found.1, found.2)
  | '\'' :: '\'' :: '\'' :: rest =>
      (scanLines? '\'' false (rest.length + 1) (dropFirstLineEnd rest)).map fun found =>
        (String.ofList found.1, found.2)
  | _ => scanShort? text

end Toml
end DeviceLink
