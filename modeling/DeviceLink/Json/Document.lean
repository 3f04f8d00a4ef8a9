import DeviceLink.Json.Token

namespace DeviceLink
namespace Json

/-!
A JSON text as a tree that keeps every literal as it is spelled and every object member
in its place, repeated names included.  Nothing is converted here, so a part of a
document that nobody reads is checked for its form alone: it may nest to any depth and
hold numerals out of every range.  Members of an envelope that nobody asks for are
skipped in this form, and only the payload becomes a value.  The reader goes through the
tokens once, and their number is enough for the depth of its recursion.
-/

inductive Document
  | null
  | bool (value : Bool)
  | numeral (literal : Numeral)
  | quoted (pieces : List Quoted.Piece)
  | array (items : List Document)
  | object (members : List (List Quoted.Piece × Document))

namespace Document

mutual

/--
Read one document from the front of a token list.  The number bounds the depth of the
recursion, and is spent on nested parts and on items alike.
-/
def read? : Nat → List Token → Option (Document × List Token)
  | 0, _ => none
  | fuel + 1, tokens =>
      match tokens with
      | .null :: rest => some (.null, rest)
      | .bool value :: rest => some (.bool value, rest)
      | .numeral literal :: rest => some (.numeral literal, rest)
      | .quoted pieces :: rest => some (.quoted pieces, rest)
      | .openArray :: .closeArray :: rest => some (.array [], rest)
      | .openArray :: rest => (readItems? fuel rest).map fun found => (.array found.1, found.2)
      | .openObject :: .closeObject :: rest => some (.object [], rest)
      | .openObject :: rest => (readMembers? fuel rest).map fun found => (.object found.1, found.2)
      | _ => none

/--
Read at least one item, up to and with the closing bracket.  A comma must be followed by
another item, so none stands before the bracket.
-/
def readItems? : Nat → List Token → Option (List Document × List Token)
  | 0, _ => none
  | fuel + 1, tokens =>
      match read? fuel tokens with
      | some (item, .closeArray :: rest) => some ([item], rest)
      | some (item, .comma :: rest) =>
          (readItems? fuel rest).map fun found => (item :: found.1, found.2)
      | _ => none

/--
Read at least one member, up to and with the closing brace.  Nothing is said here about
names that are repeated.
-/
def readMembers? :
    Nat → List Token → Option (List (List Quoted.Piece × Document) × List Token)
  | 0, _ => none
  | fuel + 1, tokens =>
      match tokens with
      | .quoted name :: .colon :: afterColon =>
          match read? fuel afterColon with
          | some (value, .closeObject :: rest) => some ([(name, value)], rest)
          | some (value, .comma :: rest) =>
              (readMembers? fuel rest).map fun found => ((name, value) :: found.1, found.2)
          | _ => none
      | _ => none

end

/--
A whole token list as one document; its length bounds the recursion.  No token may be left
over.
-/
def ofTokens? (tokens : List Token) : Option Document :=
  match read? tokens.length tokens with
  | some (document, []) => some document
  | _ => none

def ofText? (text : String) : Option Document :=
  (Token.ofText? text.toList).bind ofTokens?

end Document
end Json
end DeviceLink
