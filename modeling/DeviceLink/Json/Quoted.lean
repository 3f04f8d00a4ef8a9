namespace DeviceLink
namespace Json
namespace Quoted

/-!
Quoted strings of a JSON text.  Scanning checks only how a string is spelled; decoding
also pairs up the halves of characters beyond the first plane.  A text can therefore be
well formed and yet hold a string that has no characters to stand for it.  Writing is
the other way round: the characters that have to be escaped get an escape, and all
others stand for themselves.  What is written is always well formed and reads back as
the same string.
-/

/--
What one position of a quoted string spells: a character, or a 16-bit unit in hexadecimal.
Escapes of one letter are characters already.
-/
inductive Piece
  | plain (c : Char)
  | unit (code : Nat)
  deriving DecidableEq, Repr

def hexDigit? (c : Char) : Option Nat :=
  if '0' ≤ c ∧ c ≤ '9' then some (c.toNat - '0'.toNat)
  else if 'a' ≤ c ∧ c ≤ 'f' then some (c.toNat - 'a'.toNat + 10)
  else if 'A' ≤ c ∧ c ≤ 'F' then some (c.toNat - 'A'.toNat + 10)
  else none

def hexUnit? (a b c d : Char) : Option Nat :=
  match hexDigit? a, hexDigit? b, hexDigit? c, hexDigit? d with
  | some w, some x, some y, some z => some (((w * 16 + x) * 16 + y) * 16 + z)
  | _, _, _, _ => none

/--
The character behind a one-letter escape.  There are eight of them, and any other letter is
an error.
-/
def letterEscape? (c : Char) : Option Char :=
  if c = '"' then some '"'
  else if c = '\\' then some '\\'
  else if c = '/' then some '/'
  else if c = 'b' then some '\x08'
  else if c = 'f' then some '\x0c'
  else if c = 'n' then some '\n'
  else if c = 'r' then some '\r'
  else if c = 't' then some '\t'
  else none

/-- Control characters must be escaped.  They are the characters below the blank. -/
def isControl (c : Char) : Bool := c.toNat < 0x20

/--
The pieces up to the closing quote, and the text after it.  A text that ends before the
quote has none.
-/
def scan? : List Char → Option (List Piece × List Char)
  | [] => none
  | '"' :: rest => some ([], rest)
  | '\\' :: 'u' :: a :: b :: c :: d :: rest =>
      match hexUnit? a b c d, scan? rest with
      | some code, some (pieces, after) => some (.unit code :: pieces, after)
      | _, _ => none
  | '\\' :: letter :: rest =>
      match letterEscape? letter, scan? rest with
      | some c, some (pieces, after) => some (.plain c :: pieces, after)
      | _, _ => none
  | c :: rest =>
      if isControl c || c = '\\' then none
      else
        match scan? rest with
        | some (pieces, after) => some (.plain c :: pieces, after)
        | none => none

def isHighHalf (code : Nat) : Bool := 0xD800 ≤ code && code < 0xDC00

def isLowHalf (code : Nat) : Bool := 0xDC00 ≤ code && code < 0xE000

/--
The character of a pair of halves.  Each half brings ten bits, and the planes start after
the first one.
-/
def joinHalves (high low : Nat) : Char :=
  Char.ofNat (0x10000 + (high - 0xD800) * 0x400 + (low - 0xDC00))

/--
The characters of a quoted string; a half without its partner spells nothing.  One such half
leaves the whole string without characters.
-/
def decode? : List Piece → Option (List Char)
  | [] => some []
  | .plain c :: rest => (decode? rest).map (c :: ·)
  | .unit high :: .unit low :: rest =>
      if isHighHalf high then
        if isLowHalf low then (decode? rest).map (joinHalves high low :: ·) else none
      else if isLowHalf high then none
      else (decode? (.unit low :: rest)).map (Char.ofNat high :: ·)
  | .unit code :: rest =>
      if isHighHalf code || isLowHalf code then none
      else (decode? rest).map (Char.ofNat code :: ·)

def string? (pieces : List Piece) : Option String :=
  (decode? pieces).map String.ofList

/-- The digit character of a number below sixteen.  Letters are small ones. -/
def hexChar (n : Nat) : Char := Nat.digitChar n

/--
How one character is written inside quotes.  Everything that need not be escaped is written
as it is, whatever its plane.
-/
def escape (c : Char) : List Char :=
  if c = '"' then ['\\', '"']
  else if c = '\\' then ['\\', '\\']
  else if c = '\x08' then ['\\', 'b']
  else if c = '\x0c' then ['\\', 'f']
  else if c = '\n' then ['\\', 'n']
  else if c = '\r' then ['\\', 'r']
  else if c = '\t' then ['\\', 't']
  else if isControl c then ['\\', 'u', '0', '0', hexChar (c.toNat / 16), hexChar (c.toNat % 16)]
  else [c]

/-- A string in quotes.  Reading it gives the same string back. -/
def encode (s : String) : List Char :=
  '"' :: s.toList.flatMap escape ++ ['"']

end Quoted
end Json
end DeviceLink
