namespace DeviceLink
namespace Text

/-!
Blank characters and trimming.  The table holds exactly the characters with the Unicode
property `White_Space`; JSON's four blanks are a class of their own.  Texts of numbers
in device data are trimmed by the first of the two, and the tokens of a frame are
separated by the second.  Every blank of JSON is one of the others as well.
-/

/--
The inclusive code point ranges of the Unicode property `White_Space`.  They are in
ascending order and do not touch.
-/
def blankRanges : List (Nat × Nat) :=
  [(0x09, 0x0D), (0x20, 0x20), (0x85, 0x85), (0xA0, 0xA0), (0x1680, 0x1680),
    (0x2000, 0x200A), (0x2028, 0x2029), (0x202F, 0x202F), (0x205F, 0x205F), (0x3000, 0x3000)]

def isBlank (c : Char) : Bool :=
  blankRanges.any fun range => range.1 ≤ c.toNat && c.toNat ≤ range.2

/-- Remove blank characters at both ends.  Those inside the text stay. -/
def trim (text : List Char) : List Char :=
  ((text.dropWhile isBlank).reverse.dropWhile isBlank).reverse

/--
The blanks that may stand between the tokens of a JSON text.  All of them are blank in the
other sense as well.
-/
def isJsonBlank (c : Char) : Bool :=
  c = ' ' || c = '\t' || c = '\n' || c = '\r'

theorem isBlank_of_isJsonBlank {c : Char} (h : isJsonBlank c = true) : isBlank c = true := by
  simp only [isJsonBlank, Bool.or_eq_true, decide_eq_true_eq] at h
  rcases h with ((rfl | rfl) | rfl) | rfl <;> decide

end Text
end DeviceLink
