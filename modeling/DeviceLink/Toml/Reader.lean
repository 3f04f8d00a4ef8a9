import DeviceLink.Toml.Scalar

namespace DeviceLink
namespace Toml

/-!
Reading a TOML document: values with parts, keys, and the lines of the document.  The
reader stops at the first line at fault, and nothing is kept of a document that has one.
Keys may be bare, quoted or dotted, and arrays and inline tables may nest up to a limit.
A header opens the table that the lines after it add to; a header in double brackets
opens a new element of an array of tables.
-/

def dropBlanks (text : List Char) : List Char := text.dropWhile fun c => c = ' ' || c = '\t'

/--
Drop a comment if there is one; it ends at the first character that no comment holds.
Whatever comes there must be the end of the line.
-/
def dropComment : List Char → List Char
  | '#' :: rest => rest.dropWhile fun c => !isForbidden c
  | text => text

/-- The end of a line; a text may also end without one.  A carriage return alone is none. -/
def dropLineEnd? : List Char → Option (List Char)
  | [] => some []
  | '\n' :: rest => some rest
  | '\r' :: '\n' :: rest => some rest
  | _ => none

/--
Blanks, line ends and comments, as they may stand inside an array.  The number bounds how
many of them are dropped.
-/
def dropSpace? : Nat → List Char → Option (List Char)
  | 0, _ => none
  | fuel + 1, text =>
      match dropBlanks text with
      | '\n' :: rest => dropSpace? fuel rest
      | '\r' :: '\n' :: rest => dropSpace? fuel rest
      | '#' :: rest => dropSpace? fuel (dropComment ('#' :: rest))
      | other => some other

def isKeyChar (c : Char) : Bool := c.isAlphanum || c = '_' || c = '-'

/--
One part of a key, bare or quoted.  A quoted part may hold anything, also a point or nothing
at all.
-/
def scanKeyPart? (text : List Char) : Option (String × List Char) :=
  match scanShort? text with
  | some found => some found
  | none =>
      let run := text.takeWhile isKeyChar
      if run.isEmpty then none else some (String.ofList run, text.dropWhile isKeyChar)

/--
Keys have fewer parts, and values fewer brackets within brackets, than this.  It guards the
stack of the reader.
-/
def depthLimit : Nat := 80

/--
The parts of a key, with the blanks around them.  Points separate them, and blanks may stand
around a point.
-/
def scanKeyParts? : Nat → List Char → Option (List String × List Char)
  | 0, _ => none
  | fuel + 1, text =>
      match scanKeyPart? (dropBlanks text) with
      | none => none
      | some (part, rest) =>
          match dropBlanks rest with
          | '.' :: more => (scanKeyParts? fuel more).map fun found => (part :: found.1, found.2)
          | other => some ([part], other)

/-- A key of one or more parts, with the blanks around it.  One with too many parts is none. -/
def scanKey? (text : List Char) : Option (List String × List Char) :=
  (scanKeyParts? (text.length + 1) text).filter fun found => found.1.length < depthLimit

mutual

/--
A value at the front of a text, in which so many levels of brackets may still open.  Its
first character decides what kind of value it is.
-/
def scanValue? : Nat → Nat → List Char → Option (Item × List Char)
  | 0, _, _ => none
  | fuel + 1, levels, text =>
      match text with
      | '"' :: _ => (scanString? text).map fun found => (.string found.1, found.2)
      | '\'' :: _ => (scanString? text).map fun found => (.string found.1, found.2)
      | '[' :: rest =>
          match levels with
          | 0 => none
          | inner + 1 =>
              (scanArray? fuel inner rest).map fun found => (.array found.1, found.2)
      | '\x7b' :: rest =>
          match levels, dropBlanks rest with
          | 0, _ => none
          | _, '\x7d' :: after => some (.closed [], after)
          | inner + 1, other =>
              (scanTable? fuel inner [] other).map fun found => (.closed found.1, found.2)
      | _ => scanPlain? text

/--
The items of an array and its closing bracket; the last item may have a comma.  The items
need not be of one kind.
-/
def scanArray? : Nat → Nat → List Char → Option (List Item × List Char)
  | 0, _, _ => none
  | fuel + 1, levels, text =>
      match dropSpace? (text.length + 1) text with
      | none => none
      | some (']' :: rest) => some ([], rest)
      | some start =>
          match scanValue? fuel levels start with
          | none => none
          | some (item, afterItem) =>
              match dropSpace? (afterItem.length + 1) afterItem with
              | some (']' :: rest) => some ([item], rest)
              | some (',' :: rest) =>
                  (scanArray? fuel levels rest).map fun found => (item :: found.1, found.2)
              | _ => none

/-- The members of a table in one piece and its closing brace.  No comma stands before the brace. -/
def scanTable? : Nat → Nat → Members → List Char → Option (Members × List Char)
  | 0, _, _, _ => none
  | fuel + 1, levels, members, text =>
      match scanKey? text with
      | some (key, '=' :: rest) =>
          match scanValue? fuel levels (dropBlanks rest) with
          | none => none
          | some (item, afterItem) =>
              match members.add? key item, dropBlanks afterItem with
              | some grown, '\x7d' :: after => some (grown, after)
              | some grown, ',' :: after => scanTable? fuel levels grown after
              | _, _ => none
      | _ => none

end

/--
A document so far: everything read, and the table that lines now go into.  An empty path
stands for the outermost table.
-/
structure Progress where
  root : Members
  path : List String

namespace Progress

/--
Add a value under a key of the current table.  The key may lead through further tables below
it.
-/
def assign? (progress : Progress) (key : List String) (item : Item) : Option Progress :=
  (Members.at? (Members.add? key item) progress.path progress.root).map fun root =>
    { progress with root := root }

/--
Go on with the table that a header names.  The same serves both kinds of headers, which
differ in what they change.
-/
def header? (progress : Progress) (path : List String)
    (change : String → Members → Option Members) : Option Progress :=
  match path.getLast? with
  | none => none
  | some key =>
      (Members.at? (change key) path.dropLast progress.root).map fun root => ⟨root, path⟩

end Progress

/--
What follows the meaningful part of a line: a comment if any, and the line end.  Anything
else on the line is an error.
-/
def finishLine? (text : List Char) : Option (List Char) :=
  dropLineEnd? (dropComment (dropBlanks text))

/--
One line at the front of a text: a header, an assignment, or nothing but a comment.  A value
may take more than one line of the text.
-/
def scanLine? (progress : Progress) (text : List Char) : Option (Progress × List Char) :=
  match dropBlanks text with
  | '[' :: '[' :: rest =>
      match scanKey? rest with
      | some (path, ']' :: ']' :: after) =>
          match progress.header? path Members.append?, finishLine? after with
          | some next, some remaining => some (next, remaining)
          | _, _ => none
      | _ => none
  | '[' :: rest =>
      match scanKey? rest with
      | some (path, ']' :: after) =>
          match progress.header? path Members.open?, finishLine? after with
          | some next, some remaining => some (next, remaining)
          | _, _ => none
      | _ => none
  | line =>
      match finishLine? line with
      | some remaining => some (progress, remaining)
      | none =>
          match scanKey? line with
          | some (key, '=' :: rest) =>
              match scanValue? (rest.length + 1) (depthLimit - 1) (dropBlanks rest) with
              | none => none
              | some (item, after) =>
                  match progress.assign? key item, finishLine? after with
                  | some next, some remaining => some (next, remaining)
                  | _, _ => none
          | _ => none

/-- The lines of a text, one after the other.  The number bounds how many of them are read. -/
def scanLines : Nat → Progress → List Char → Option Progress
  | 0, _, _ => none
  | _, progress, [] => some progress
  | fuel + 1, progress, text =>
      match scanLine? progress text with
      | some (next, remaining) => scanLines fuel next remaining
      | none => none

/-- Read a whole document.  A mark of the byte order at its front is dropped. -/
def ofText? (text : String) : Option Item :=
  let chars := match text.toList with
    | '\ufeff' :: rest => rest
    | all => all
  (scanLines (chars.length + 1) ⟨[], []⟩ chars).map fun progress => .table .named progress.root

end Toml
end DeviceLink
