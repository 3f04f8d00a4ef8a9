import DeviceLink.Json.Numeral
import DeviceLink.Json.Quoted
import DeviceLink.Text.Blank

namespace DeviceLink
namespace Json

/-!
The tokens of a JSON text.  Each token is as long as it can be, blanks may stand between
any two, and every scanner gives back a text that is shorter than the one it was given.
So a text is split in one way only, and the splitting ends.  The lemmas about lengths
are there for the recursion of the tokenizer, which takes the length of the text as its
measure.  What a token means is of no interest here: a numeral and a string keep their
spelling.
-/

inductive Token
  | openArray
  | closeArray
  | openObject
  | closeObject
  | colon
  | comma
  | null
  | bool (value : Bool)
  | numeral (literal : Numeral)
  | quoted (pieces : List Quoted.Piece)
  deriving DecidableEq, Repr

namespace Token

/-- Drop an expected word from the front of a text.  What follows the word does not matter. -/
def dropWord? : List Char → List Char → Option (List Char)
  | [], text => some text
  | _ :: _, [] => none
  | w :: word, c :: text => if w = c then dropWord? word text else none

/-- The tokens that are a single character.  No other token starts with any of them. -/
def punctuation? (c : Char) : Option Token :=
  if c = '[' then some .openArray
  else if c = ']' then some .closeArray
  else if c = '\x7b' then some .openObject
  else if c = '\x7d' then some .closeObject
  else if c = ':' then some .colon
  else if c = ',' then some .comma
  else none

/--
The tokens that are longer than their first character.  The first character decides which
kind of token it must be.
-/
def long? (c : Char) (rest : List Char) : Option (Token × List Char) :=
  if c = '"' then (Quoted.scan? rest).map fun found => (.quoted found.1, found.2)
  else if c = 'n' then (dropWord? "ull".toList rest).map fun after => (.null, after)
  else if c = 't' then (dropWord? "rue".toList rest).map fun after => (.bool true, after)
  else if c = 'f' then (dropWord? "alse".toList rest).map fun after => (.bool false, after)
  else (Numeral.scan? (c :: rest)).map fun found => (.numeral found.1, found.2)

/--
The token that starts with the character `c`, and the text after it.  A character that
starts no token ends the scanning.
-/
def first? (c : Char) (rest : List Char) : Option (Token × List Char) :=
  match punctuation? c with
  | some token => some (token, rest)
  | none => long? c rest

theorem length_dropWord? {word text after : List Char} (h : dropWord? word text = some after) :
    after.length ≤ text.length := by
  induction word generalizing text with
  | nil =>
      cases h
      exact Nat.le_refl _
  | cons w word ih =>
      cases text with
      | nil => cases h
      | cons c text =>
          simp only [dropWord?] at h
          split at h
          · exact Nat.le_succ_of_le (ih h)
          · cases h

theorem length_scanQuoted {text : List Char} {pieces : List Quoted.Piece} {after : List Char}
    (h : Quoted.scan? text = some (pieces, after)) : after.length < text.length := by
  fun_induction Quoted.scan? text generalizing pieces after with
  | case1 => cases h
  | case2 rest =>
      cases h
      exact Nat.lt_succ_self _
  | case3 a b c d rest code found remaining hscan hcode ih =>
      cases h
      have := ih hscan
      simp only [List.length_cons]
      omega
  | case4 => cases h
  | case5 letter rest _ c found remaining hscan hletter ih =>
      cases h
      have := ih hscan
      simp only [List.length_cons]
      omega
  | case6 => cases h
  | case7 => cases h
  | case8 c rest _ _ _ _ found remaining hscan ih =>
      cases h
      have := ih hscan
      simp only [List.length_cons]
      omega
  | case9 => cases h

theorem length_dropDigits (text : List Char) :
    (text.dropWhile Char.isDigit).length ≤ text.length :=
  (List.dropWhile_suffix _).length_le

theorem length_scanDigits {text digits after : List Char}
    (h : Numeral.scanDigits? text = some (digits, after)) : after.length ≤ text.length := by
  unfold Numeral.scanDigits? at h
  simp only at h
  split at h
  · cases h
  · cases h
    exact length_dropDigits text

theorem length_scanWhole {text whole after : List Char}
    (h : Numeral.scanWhole? text = some (whole, after)) : after.length < text.length := by
  cases text with
  | nil => cases h
  | cons c rest =>
      simp only [Numeral.scanWhole?] at h
      split at h
      · split at h
        · cases h
        · cases h
          exact Nat.lt_succ_self _
      · split at h
        · cases h
          exact Nat.lt_succ_of_le (length_dropDigits rest)
        · cases h

theorem length_scanFraction {text : List Char} {fraction : Option (List Char)} {after : List Char}
    (h : Numeral.scanFraction? text = some (fraction, after)) : after.length ≤ text.length := by
  unfold Numeral.scanFraction? at h
  split at h
  · rename_i rest
    obtain ⟨found, hfound, same⟩ := Option.map_eq_some_iff.mp h
    cases same
    exact Nat.le_succ_of_le (length_scanDigits hfound)
  · cases h
    exact Nat.le_refl _

theorem length_scanPowerSign (text : List Char) :
    (Numeral.scanPowerSign text).2.length ≤ text.length := by
  unfold Numeral.scanPowerSign
  split <;> simp

theorem length_scanPower {text : List Char} {power : Option (Bool × List Char)} {after : List Char}
    (h : Numeral.scanPower? text = some (power, after)) : after.length ≤ text.length := by
  cases text with
  | nil =>
      cases h
      exact Nat.le_refl _
  | cons c rest =>
      simp only [Numeral.scanPower?] at h
      split at h
      · obtain ⟨found, hfound, same⟩ := Option.map_eq_some_iff.mp h
        cases same
        have := length_scanDigits hfound
        have := length_scanPowerSign rest
        simp only [List.length_cons]
        omega
      · cases h
        exact Nat.le_refl _

theorem length_scanUnsigned {negative : Bool} {text : List Char} {literal : Numeral}
    {after : List Char} (h : Numeral.scanUnsigned? negative text = some (literal, after)) :
    after.length < text.length := by
  unfold Numeral.scanUnsigned? at h
  split at h
  · cases h
  · rename_i whole afterWhole hwhole
    split at h
    · cases h
    · rename_i fraction afterFraction hfraction
      split at h
      · cases h
      · rename_i power rest hpower
        cases h
        have := length_scanWhole hwhole
        have := length_scanFraction hfraction
        have := length_scanPower hpower
        omega

theorem length_scanNumeral {text : List Char} {literal : Numeral} {after : List Char}
    (h : Numeral.scan? text = some (literal, after)) : after.length < text.length := by
  unfold Numeral.scan? at h
  split at h
  · exact Nat.lt_succ_of_lt (length_scanUnsigned h)
  · exact length_scanUnsigned h

theorem length_word {word rest : List Char} {value token : Token} {after : List Char}
    (h : (dropWord? word rest).map (fun remaining => (value, remaining)) = some (token, after)) :
    after.length ≤ rest.length := by
  obtain ⟨remaining, hword, same⟩ := Option.map_eq_some_iff.mp h
  cases same
  exact length_dropWord? hword

theorem length_long? {c : Char} {rest : List Char} {token : Token} {after : List Char}
    (h : long? c rest = some (token, after)) : after.length ≤ rest.length := by
  unfold long? at h
  split at h
  · obtain ⟨found, hfound, same⟩ := Option.map_eq_some_iff.mp h
    cases same
    exact Nat.le_of_lt (length_scanQuoted hfound)
  · split at h
    · exact length_word h
    · split at h
      · exact length_word h
      · split at h
        · exact length_word h
        · obtain ⟨found, hfound, same⟩ := Option.map_eq_some_iff.mp h
          cases same
          exact Nat.le_of_lt_succ (length_scanNumeral hfound)

theorem length_first? {c : Char} {rest : List Char} {token : Token} {after : List Char}
    (h : first? c rest = some (token, after)) : after.length ≤ rest.length := by
  unfold first? at h
  split at h
  · cases h
    exact Nat.le_refl _
  · exact length_long? h

/-- The tokens of a whole text.  Blanks at the front and at the end are dropped as well. -/
def ofText? (text : List Char) : Option (List Token) :=
  match text with
  | [] => some []
  | c :: rest =>
      if Text.isJsonBlank c then ofText? rest
      else
        match _found : first? c rest with
        | none => none
        | some (token, after) => (ofText? after).map (token :: ·)
termination_by text.length
decreasing_by
  · exact Nat.lt_succ_self _
  · exact Nat.lt_succ_of_le (length_first? _found)

end Token
end Json
end DeviceLink
