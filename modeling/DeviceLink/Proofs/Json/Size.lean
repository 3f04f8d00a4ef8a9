import DeviceLink.Proofs.Json.Written

namespace DeviceLink

/-!
How long texts are.  Each token weighs what it takes when it is written in its shortest
form, which is never more than what was read for it.  A document weighs as much as its
tokens, and a value that is read from it without floats is written within that weight;
so printing makes a text longer only where it holds floats.  `size` counts bytes of the
UTF-8 form, as the limits on values do.
-/

namespace Text

/-- The bytes of a text in UTF-8.  Limits are counted in these. -/
def size (text : List Char) : Nat := (String.ofList text).utf8ByteSize

@[simp] theorem size_nil : size [] = 0 := rfl

@[simp] theorem size_cons (c : Char) (text : List Char) :
    size (c :: text) = c.utf8Size + size text := by
  rw [size, String.ofList_cons, String.utf8ByteSize_append, size]
  congr 1
  exact (String.utf8ByteSize_push (s := "")).trans (Nat.zero_add _)

@[simp] theorem size_append (first second : List Char) :
    size (first ++ second) = size first + size second := by
  rw [size, String.ofList_append, String.utf8ByteSize_append, size, size]

theorem size_toList (s : String) : size s.toList = s.utf8ByteSize := by
  rw [size, String.ofList_toList]

theorem size_le_of_suffix {after text : List Char} (suffix : after <:+ text) :
    size after ≤ size text := by
  rcases suffix with ⟨before, rfl⟩
  rw [size_append]
  exact Nat.le_add_left _ _

/-- A text of single bytes.  Numbers and marks are such texts. -/
theorem size_of_ascii {text : List Char} (ascii : ∀ c ∈ text, c.val ≤ 127) :
    size text = text.length := by
  induction text with
  | nil => rfl
  | cons c text ih =>
      rw [List.forall_mem_cons] at ascii
      rw [size_cons, Char.utf8Size_eq_one_iff.mpr ascii.1, ih ascii.2, List.length_cons,
        Nat.add_comm]

theorem ascii_of_isDigit {c : Char} (digit : c.isDigit = true) : c.val ≤ 127 := by
  simp only [Char.isDigit, Bool.and_eq_true, decide_eq_true_eq] at digit
  exact UInt32.le_trans digit.2 (by decide)

theorem size_digits {digits : List Char} (all : ∀ c ∈ digits, c.isDigit = true) :
    size digits = digits.length :=
  size_of_ascii fun c inside => ascii_of_isDigit (all c inside)

end Text

namespace Json

open Text (size size_nil size_cons size_append)

/-! Parts with commas between them. -/

/--
The sizes of parts, with a comma after each.  Wherever it is used, the last comma is taken
off.
-/
def total : List Nat → Nat
  | [] => 0
  | part :: rest => part + 1 + total rest

theorem total_le {first second : List Nat} (each : List.Forall₂ (· ≤ ·) first second) :
    total first ≤ total second := by
  induction each with
  | nil => exact Nat.le_refl _
  | cons head _ ih =>
      rw [total, total]
      omega

theorem total_replicate (count part : Nat) :
    total (List.replicate count part) = count * (part + 1) := by
  induction count with
  | zero => exact (Nat.zero_mul _).symm
  | succ count ih => rw [List.replicate_succ, total, ih, Nat.succ_mul, Nat.add_comm]

theorem size_separated (parts : List (List Char)) :
    size (separated parts) = total (parts.map size) - 1 := by
  induction parts with
  | nil => rfl
  | cons part parts ih =>
      cases parts with
      | nil => simp [separated, total]
      | cons other parts =>
          have comma : (',' : Char).utf8Size = 1 := by decide
          rw [separated, size_append, size_cons, ih, comma]
          · simp only [List.map_cons, total]
            omega
          · exact List.cons_ne_nil _ _

theorem size_arrayText (parts : List (List Char)) :
    size (arrayText parts) = 2 + (total (parts.map size) - 1) := by
  have brackets : ('[' : Char).utf8Size = 1 ∧ (']' : Char).utf8Size = 1 := by decide
  simp only [arrayText, List.cons_append, size_cons, size_append, size_nil, size_separated,
    brackets]
  omega

theorem size_objectText (parts : List (List Char)) :
    size (objectText parts) = 2 + (total (parts.map size) - 1) := by
  have braces : ('\x7b' : Char).utf8Size = 1 ∧ ('\x7d' : Char).utf8Size = 1 := by decide
  simp only [objectText, List.cons_append, size_cons, size_append, size_nil, size_separated,
    braces]
  omega

theorem size_memberText (name : String) (value : List Char) :
    size (memberText name value) = size (Quoted.encode name) + 1 + size value := by
  have colon : (':' : Char).utf8Size = 1 := by decide
  rw [memberText, size_append, size_cons, colon, Nat.add_assoc]

/-! Strings. -/

namespace Quoted

/--
What a piece takes at most when its character is written.  A unit may stand for a character
that is written shorter.
-/
def Piece.weight : Piece → Nat
  | .plain c => size (escape c)
  | .unit _ => 6

/-- What pieces take without their quotes.  It is the sum over the pieces. -/
def weight : List Piece → Nat
  | [] => 0
  | piece :: rest => piece.weight + weight rest

/-- The characters that are written with a letter.  Each takes a backslash and that letter. -/
theorem size_escape_lettered :
    ∀ c ∈ ['"', '\\', '\x08', '\x0c', '\n', '\r', '\t'], size (escape c) = 2 := by
  simp only [List.forall_mem_cons, List.not_mem_nil, false_imp_iff, implies_true, and_true]
  exact ⟨rfl, rfl, rfl, rfl, rfl, rfl, rfl⟩

/--
A visible character that needs no escape is written as it is.  It takes the bytes that it
has in UTF-8.
-/
theorem escape_plain {c : Char} (unquoted : c ≠ '"') (unescaped : c ≠ '\\')
    (visible : isControl c = false) : escape c = [c] := by
  have apart : c ≠ '\x08' ∧ c ≠ '\x0c' ∧ c ≠ '\n' ∧ c ≠ '\r' ∧ c ≠ '\t' := by
    refine ⟨?_, ?_, ?_, ?_, ?_⟩
    all_goals
      rintro rfl
      cases visible
  simp only [escape, unquoted, unescaped, visible, apart, Bool.false_eq_true, if_false]

/--
No character is written longer than a unit in hexadecimal.  So a string is written at most
six times as long as it has characters.
-/
theorem size_escape_le (c : Char) : size (escape c) ≤ 6 := by
  by_cases lettered : c ∈ ['"', '\\', '\x08', '\x0c', '\n', '\r', '\t']
  · rw [size_escape_lettered c lettered]
    decide
  · simp only [List.mem_cons, List.not_mem_nil, or_false, not_or] at lettered
    rcases lettered with ⟨quote, backslash, b, f, n, r, t⟩
    cases control : isControl c with
    | true =>
        have small : c.toNat < 0x20 := of_decide_eq_true control
        simp only [escape, quote, backslash, b, f, n, r, t, control, if_false, if_true]
        exact (by decide : ∀ n < 0x20,
          size ['\\', 'u', '0', '0', hexChar (n / 16), hexChar (n % 16)] ≤ 6) c.toNat small
    | false =>
        rw [escape_plain quote backslash control, size_cons, size_nil]
        exact Nat.le_trans c.utf8Size_le_four (by decide)

theorem size_escape_letter {letter c : Char} (escapes : letterEscape? letter = some c) :
    size (escape c) ≤ 2 := by
  unfold letterEscape? at escapes
  repeat' split at escapes
  all_goals cases escapes
  all_goals decide

theorem weight_scan? {text : List Char} {pieces : List Piece} {after : List Char}
    (scanned : scan? text = some (pieces, after)) :
    weight pieces + 1 + size after ≤ size text := by
  fun_induction scan? text generalizing pieces after with
  | case1 => cases scanned
  | case2 rest =>
      cases scanned
      have quote : ('"' : Char).utf8Size = 1 := by decide
      rw [size_cons, quote, weight]
  | case3 a b c d rest code found remaining scan hex ih =>
      cases scanned
      have later := ih scan
      have marks : ('\\' : Char).utf8Size = 1 ∧ ('u' : Char).utf8Size = 1 := by decide
      have := a.utf8Size_pos
      have := b.utf8Size_pos
      have := c.utf8Size_pos
      have := d.utf8Size_pos
      simp only [size_cons, marks, weight, Piece.weight]
      omega
  | case4 => cases scanned
  | case5 letter rest _ c found remaining scan escapes ih =>
      cases scanned
      have later := ih scan
      have short := size_escape_letter escapes
      have backslash : ('\\' : Char).utf8Size = 1 := by decide
      have := letter.utf8Size_pos
      simp only [size_cons, backslash, weight, Piece.weight]
      omega
  | case6 => cases scanned
  | case7 => cases scanned
  | case8 c rest unquoted _ _ bare found remaining scan ih =>
      cases scanned
      have later := ih scan
      simp only [Bool.or_eq_true, decide_eq_true_eq, not_or, Bool.not_eq_true] at bare
      rw [weight, Piece.weight, escape_plain unquoted bare.2 bare.1, size_cons, size_cons, size_nil]
      omega
  | case9 => cases scanned

/--
One decoded character more takes no more than the room it has.  It is one step of an
induction on the pieces.
-/
theorem size_flatMap_of_map {c : Char} {rest : Option (List Char)} {cs : List Char}
    {room most : Nat} (decoded : rest.map (c :: ·) = some cs) (short : size (escape c) ≤ room)
    (within : ∀ {others}, rest = some others → size (others.flatMap escape) ≤ most) :
    size (cs.flatMap escape) ≤ room + most := by
  rcases Option.map_eq_some_iff.mp decoded with ⟨others, found, rfl⟩
  rw [List.flatMap_cons, size_append]
  exact Nat.add_le_add short (within found)

theorem size_decode? {pieces : List Piece} {cs : List Char} (decoded : decode? pieces = some cs) :
    size (cs.flatMap escape) ≤ weight pieces := by
  fun_induction decode? pieces generalizing cs with
  | case1 =>
      cases decoded
      exact Nat.le_refl _
  | case2 c rest ih => exact size_flatMap_of_map decoded (Nat.le_refl _) ih
  | case3 high low rest _ _ ih =>
      have paired := size_flatMap_of_map decoded (size_escape_le _) ih
      simp only [weight, Piece.weight]
      omega
  | case6 high low rest _ _ ih => exact size_flatMap_of_map decoded (size_escape_le _) ih
  | case8 code rest _ _ ih => exact size_flatMap_of_map decoded (size_escape_le _) ih
  | case4 => cases decoded
  | case5 => cases decoded
  | case7 => cases decoded

theorem size_encode_le {pieces : List Piece} {s : String} (read : string? pieces = some s) :
    size (encode s) ≤ 2 + weight pieces := by
  rcases Option.map_eq_some_iff.mp read with ⟨cs, decoded, rfl⟩
  have quote : ('"' : Char).utf8Size = 1 := by decide
  have inner := size_decode? decoded
  simp only [encode, String.toList_ofList, List.cons_append, size_cons, size_append, size_nil,
    quote]
  omega

end Quoted

/-! Numerals. -/

namespace Numeral

variable {text after : List Char}

/-- What a literal takes if it is written as an integer.  Leading zeros cannot occur. -/
def weight (numeral : Numeral) : Nat :=
  size (Decimal.signText numeral.negative) +
    size (Decimal.naturalText (Nat.ofDigitChars 10 numeral.whole 0))

theorem ofDigitChars_lt {digits : List Char} (all : ∀ c ∈ digits, c.isDigit = true) :
    Nat.ofDigitChars 10 digits 0 < Nat.pow 10 digits.length := by
  induction digits with
  | nil => exact Nat.zero_lt_one
  | cons c digits ih =>
      rw [List.forall_mem_cons] at all
      have digit : 10 * 0 + (c.toNat - '0'.toNat) ≤ 9 := by
        have first := all.1
        simp only [Char.isDigit, Bool.and_eq_true, decide_eq_true_eq] at first
        have most : c.toNat ≤ 0x39 := UInt32.le_iff_toNat_le.mp first.2
        have zero : '0'.toNat = 0x30 := rfl
        omega
      have later := ih all.2
      have scaled := Nat.mul_le_mul_left (Nat.pow 10 digits.length) digit
      rw [Nat.ofDigitChars_cons, Nat.ofDigitChars_eq_ofDigitChars_zero, List.length_cons]
      simp only [Nat.pow_eq, Nat.pow_succ] at later scaled ⊢
      omega

/--
Written again, a number takes no more digits than it was spelled with.  It may take fewer,
if there were zeros in front.
-/
theorem size_naturalText_le {digits : List Char} (proper : IsDigits digits) :
    size (Decimal.naturalText (Nat.ofDigitChars 10 digits 0)) ≤ size digits := by
  have nonempty : 0 < digits.length := List.length_pos_iff.mpr proper.1
  rw [Decimal.naturalText, Text.size_digits (Decimal.isDigits_toDigits _).2,
    Text.size_digits proper.2, Nat.length_toDigits_le_iff (by decide) nonempty]
  exact ofDigitChars_lt proper.2

theorem scanWhole?_sound {whole : List Char} (scanned : scanWhole? text = some (whole, after)) :
    text = whole ++ after ∧ IsDigits whole := by
  unfold scanWhole? at scanned
  split at scanned
  · cases scanned
  next c rest =>
  split at scanned
  · next zero =>
    split at scanned
    · cases scanned
    · cases scanned
      exact ⟨by rw [zero, List.singleton_append], Decimal.isDigits_toDigits 0⟩
  split at scanned
  · next digit =>
    cases scanned
    refine ⟨by rw [List.cons_append, List.takeWhile_append_dropWhile], List.cons_ne_nil _ _, ?_⟩
    refine List.forall_mem_cons.mpr ⟨digit, fun other inside => ?_⟩
    exact List.all_eq_true.mp List.all_takeWhile other inside
  · cases scanned

theorem suffix_scanDigits? {digits : List Char}
    (scanned : scanDigits? text = some (digits, after)) :
    after <:+ text := by
  unfold scanDigits? at scanned
  dsimp only at scanned
  split at scanned
  · cases scanned
  · cases scanned
    exact List.dropWhile_suffix _

theorem suffix_scanFraction? {fraction : Option (List Char)}
    (scanned : scanFraction? text = some (fraction, after)) : after <:+ text := by
  unfold scanFraction? at scanned
  split at scanned
  · next rest =>
    rcases Option.map_eq_some_iff.mp scanned with ⟨⟨digits, _⟩, found, ⟨⟩⟩
    exact (suffix_scanDigits? found).trans (List.suffix_cons _ _)
  · cases scanned
    exact List.suffix_refl _

theorem suffix_scanPower? {power : Option (Bool × List Char)}
    (scanned : scanPower? text = some (power, after)) : after <:+ text := by
  unfold scanPower? at scanned
  split at scanned
  · cases scanned
    exact List.suffix_refl _
  next c rest =>
  split at scanned
  · rcases Option.map_eq_some_iff.mp scanned with ⟨⟨digits, _⟩, found, ⟨⟩⟩
    have signed : (scanPowerSign rest).2 <:+ rest := by
      unfold scanPowerSign
      split
      · exact List.suffix_cons _ _
      · exact List.suffix_cons _ _
      · exact List.suffix_refl _
    exact ((suffix_scanDigits? found).trans signed).trans (List.suffix_cons _ _)
  · cases scanned
    exact List.suffix_refl _

theorem weight_scanUnsigned? {negative : Bool} {numeral : Numeral}
    (scanned : scanUnsigned? negative text = some (numeral, after)) :
    numeral.weight + size after ≤ size (Decimal.signText negative) + size text := by
  unfold scanUnsigned? at scanned
  split at scanned
  · cases scanned
  next whole afterWhole foundWhole =>
  split at scanned
  · cases scanned
  next fraction afterFraction foundFraction =>
  split at scanned
  · cases scanned
  next power rest foundPower =>
  cases scanned
  rcases scanWhole?_sound foundWhole with ⟨rfl, digits⟩
  have fractional := Text.size_le_of_suffix (suffix_scanFraction? foundFraction)
  have powered := Text.size_le_of_suffix (suffix_scanPower? foundPower)
  have shorter := size_naturalText_le digits
  simp only [weight, size_append]
  omega

theorem weight_scan? {numeral : Numeral} (scanned : scan? text = some (numeral, after)) :
    numeral.weight + size after ≤ size text := by
  unfold scan? at scanned
  split at scanned
  · next rest => exact size_cons '-' rest ▸ weight_scanUnsigned? scanned
  · exact Nat.zero_add (size text) ▸ weight_scanUnsigned? scanned

end Numeral

/-! Tokens. -/

namespace Token

/-- What a token takes in its shortest form.  Blanks around it are not counted. -/
def weight : Token → Nat
  | .null => 4
  | .bool true => 4
  | .bool false => 5
  | .numeral literal => literal.weight
  | .quoted pieces => 2 + Quoted.weight pieces
  | _ => 1

/-- What tokens take together.  Nothing needs to stand between them. -/
def weights : List Token → Nat
  | [] => 0
  | token :: rest => token.weight + weights rest

theorem size_dropWord? {word text after : List Char} (dropped : dropWord? word text = some after) :
    size text = size word + size after := by
  induction word generalizing text with
  | nil =>
      cases dropped
      exact (Nat.zero_add _).symm
  | cons w word ih =>
      cases text with
      | nil => cases dropped
      | cons c text =>
          rw [dropWord?] at dropped
          split at dropped
          · next same => rw [← same, size_cons, size_cons, ih dropped, Nat.add_assoc]
          · cases dropped

/-- A word is read where it stands.  It weighs as many bytes as it has letters. -/
theorem weight_word {c : Char} {word rest after : List Char} {value token : Token}
    (found : (dropWord? word rest).map (fun remaining => (value, remaining)) = some (token, after))
    (whole : value.weight = c.utf8Size + size word) :
    token.weight + size after ≤ size (c :: rest) := by
  rcases Option.map_eq_some_iff.mp found with ⟨remaining, dropped, ⟨⟩⟩
  rw [size_cons, size_dropWord? dropped, whole]
  omega

theorem weight_long? {c : Char} {rest after : List Char} {token : Token}
    (found : long? c rest = some (token, after)) :
    token.weight + size after ≤ size (c :: rest) := by
  unfold long? at found
  split at found
  · next quote =>
    rcases Option.map_eq_some_iff.mp found with ⟨⟨pieces, _⟩, scanned, ⟨⟩⟩
    have inner := Quoted.weight_scan? scanned
    have single : c.utf8Size = 1 := by
      rw [quote]
      decide
    rw [size_cons, single, weight]
    dsimp only at inner ⊢
    omega
  split at found
  · next first => exact weight_word found (by rw [first]; decide)
  split at found
  · next first => exact weight_word found (by rw [first]; decide)
  split at found
  · next first => exact weight_word found (by rw [first]; decide)
  · rcases Option.map_eq_some_iff.mp found with ⟨⟨literal, _⟩, scanned, ⟨⟩⟩
    exact Numeral.weight_scan? scanned

theorem weight_first? {c : Char} {rest after : List Char} {token : Token}
    (found : first? c rest = some (token, after)) :
    token.weight + size after ≤ size (c :: rest) := by
  unfold first? at found
  split at found
  · next mark =>
    cases found
    have single : token.weight = 1 := by
      unfold punctuation? at mark
      repeat' split at mark
      all_goals cases mark
      all_goals rfl
    have positive := c.utf8Size_pos
    rw [single, size_cons]
    omega
  · exact weight_long? found

/--
The tokens of a text take no more than the text.  What the text has besides is blanks and
longer spellings.
-/
theorem weights_ofText? {text : List Char} {tokens : List Token}
    (read : ofText? text = some tokens) : weights tokens ≤ size text := by
  fun_induction ofText? text generalizing tokens with
  | case1 =>
      cases read
      exact Nat.le_refl _
  | case2 c rest _ ih =>
      have later := ih read
      rw [size_cons]
      omega
  | case3 => cases read
  | case4 c rest _ token after found ih =>
      rcases Option.map_eq_some_iff.mp read with ⟨others, remaining, rfl⟩
      have first := weight_first? found
      have later := ih remaining
      rw [weights]
      omega

end Token

/-! Documents. -/

namespace Document

/-- What a document takes in its shortest form.  Its commas and brackets are counted. -/
def weight : Document → Nat
  | .null => 4
  | .bool true => 4
  | .bool false => 5
  | .numeral literal => literal.weight
  | .quoted pieces => 2 + Quoted.weight pieces
  | .array items => 2 + (total (itemWeights items) - 1)
  | .object members => 2 + (total (memberWeights members) - 1)
where
  itemWeights : List Document → List Nat
    | [] => []
    | item :: rest => item.weight :: itemWeights rest
  memberWeights : List (List Quoted.Piece × Document) → List Nat
    | [] => []
    | (pieces, value) :: rest =>
        (2 + Quoted.weight pieces + 1 + value.weight) :: memberWeights rest

/--
Reading takes tokens of the weight of what is read; a list that is read is not empty.  It is
proved by induction on the number of steps.
-/
structure Weighs (fuel : Nat) : Prop where
  document : ∀ {tokens document rest}, read? fuel tokens = some (document, rest) →
    Token.weights tokens = document.weight + Token.weights rest
  items : ∀ {tokens items rest}, readItems? fuel tokens = some (items, rest) →
    0 < total (weight.itemWeights items) ∧
      Token.weights tokens = total (weight.itemWeights items) + Token.weights rest
  members : ∀ {tokens members rest}, readMembers? fuel tokens = some (members, rest) →
    0 < total (weight.memberWeights members) ∧
      Token.weights tokens = total (weight.memberWeights members) + Token.weights rest

section

variable {fuel : Nat} {tokens rest : List Token}

theorem Weighs.read {document : Document} (weighs : Weighs fuel)
    (found : read? (fuel + 1) tokens = some (document, rest)) :
    Token.weights tokens = document.weight + Token.weights rest := by
  rw [read?.eq_def] at found
  dsimp only at found
  split at found
  · cases found
    rfl
  · next value _ =>
    cases found
    cases value <;> rfl
  · cases found
    rfl
  · cases found
    rfl
  · cases found
    simp only [Token.weights, Token.weight, weight, weight.itemWeights, total]
    omega
  · rcases Option.map_eq_some_iff.mp found with ⟨⟨items, _⟩, read, ⟨⟩⟩
    rcases weighs.items read with ⟨positive, inner⟩
    simp only [Token.weights, Token.weight, weight, inner]
    omega
  · cases found
    simp only [Token.weights, Token.weight, weight, weight.memberWeights, total]
    omega
  · rcases Option.map_eq_some_iff.mp found with ⟨⟨members, _⟩, read, ⟨⟩⟩
    rcases weighs.members read with ⟨positive, inner⟩
    simp only [Token.weights, Token.weight, weight, inner]
    omega
  · cases found

theorem Weighs.readItems {items : List Document} (weighs : Weighs fuel)
    (found : readItems? (fuel + 1) tokens = some (items, rest)) :
    0 < total (weight.itemWeights items) ∧
      Token.weights tokens = total (weight.itemWeights items) + Token.weights rest := by
  rw [readItems?] at found
  split at found
  · next item _ read =>
    cases found
    have first := weighs.document read
    simp only [Token.weights, Token.weight, weight.itemWeights, total] at first ⊢
    omega
  · next item _ read =>
    rcases Option.map_eq_some_iff.mp found with ⟨⟨others, _⟩, later, ⟨⟩⟩
    have first := weighs.document read
    rcases weighs.items later with ⟨-, remaining⟩
    simp only [Token.weights, Token.weight, weight.itemWeights, total, remaining] at first ⊢
    omega
  · cases found

theorem Weighs.readMembers {members : List (List Quoted.Piece × Document)} (weighs : Weighs fuel)
    (found : readMembers? (fuel + 1) tokens = some (members, rest)) :
    0 < total (weight.memberWeights members) ∧
      Token.weights tokens = total (weight.memberWeights members) + Token.weights rest := by
  rw [readMembers?.eq_def] at found
  dsimp only at found
  split at found
  · split at found
    · next value _ read =>
      cases found
      have first := weighs.document read
      simp only [Token.weights, Token.weight, weight.memberWeights, total] at first ⊢
      omega
    · next value _ read =>
      rcases Option.map_eq_some_iff.mp found with ⟨⟨others, _⟩, later, ⟨⟩⟩
      have first := weighs.document read
      rcases weighs.members later with ⟨-, remaining⟩
      simp only [Token.weights, Token.weight, weight.memberWeights, total, remaining] at first ⊢
      omega
    · cases found
  · cases found

end

theorem weighs (fuel : Nat) : Weighs fuel := by
  induction fuel with
  | zero => exact ⟨nofun, nofun, nofun⟩
  | succ fuel ih => exact ⟨ih.read, ih.readItems, ih.readMembers⟩

/--
A document takes no more in its shortest form than the text that it is read from.  So a
limit on the text is one on the document.
-/
theorem weight_ofText? {text : String} {document : Document}
    (read : ofText? text = some document) : document.weight ≤ text.utf8ByteSize := by
  rcases Option.bind_eq_some_iff.mp read with ⟨tokens, scanned, found⟩
  have within := Token.weights_ofText? scanned
  rw [ofTokens?] at found
  split at found
  · next whole =>
    cases found
    have same := (weighs _).document whole
    rw [Text.size_toList] at within
    simp only [Token.weights] at same
    omega
  · cases found

end Document

/-! Values. -/

namespace Members

variable {relation : String × Value → Nat → Prop} {name : String} {value : Value} {weight : Nat}

/--
A member more takes its own room at most; a member that it replaces gives room up.  Names
are compared after decoding.
-/
theorem exists_insert {members : Members} {weights : List Nat}
    (each : List.Forall₂ relation members weights) (new : relation (name, value) weight) :
    ∃ others, List.Forall₂ relation (members.insert name value) others ∧
      total others ≤ total weights + (weight + 1) := by
  induction each with
  | nil => exact ⟨[weight], .cons new .nil, by simp only [total]; omega⟩
  | @cons member first members rest here each ih =>
      rcases member with ⟨other, current⟩
      rw [insert]
      split
      · refine ⟨weight :: first :: rest, .cons new (.cons here each), ?_⟩
        simp only [total]
        omega
      split
      · refine ⟨weight :: rest, .cons new each, ?_⟩
        simp only [total]
        omega
      · rcases ih with ⟨others, kept, within⟩
        refine ⟨first :: others, .cons here kept, ?_⟩
        simp only [total]
        omega

theorem exists_foldl {entries members : Members} {weights given : List Nat}
    (each : List.Forall₂ relation members given) (all : List.Forall₂ relation entries weights) :
    ∃ others, List.Forall₂ relation
        (entries.foldl (fun members entry => insert entry.1 entry.2 members) members) others ∧
      total others ≤ total given + total weights := by
  induction all generalizing members given with
  | nil => exact ⟨given, each, Nat.le_add_right _ _⟩
  | @cons entry weight entries weights first _ ih =>
      rcases exists_insert each first with ⟨more, kept, within⟩
      rcases ih kept with ⟨others, last, room⟩
      refine ⟨others, last, ?_⟩
      simp only [total] at room ⊢
      omega

/-- Repeated names only give room up.  The last value of a name stays. -/
theorem exists_ofList {entries : Members} {weights : List Nat}
    (each : List.Forall₂ relation entries weights) :
    ∃ others, List.Forall₂ relation (ofList entries) others ∧ total others ≤ total weights := by
  rcases exists_foldl .nil each with ⟨others, kept, within⟩
  exact ⟨others, kept, by simpa only [total, Nat.zero_add] using within⟩

end Members

namespace Value

theorem itemWeights_eq (items : List Document) :
    Document.weight.itemWeights items = items.map Document.weight := by
  induction items with
  | nil => rfl
  | cons item items ih => rw [Document.weight.itemWeights, ih, List.map_cons]

/-- What a member takes in its shortest form: its name in quotes, a colon and its value. -/
def memberWeight (member : List Quoted.Piece × Document) : Nat :=
  2 + Quoted.weight member.1 + 1 + member.2.weight

theorem memberWeights_eq (members : List (List Quoted.Piece × Document)) :
    Document.weight.memberWeights members = members.map memberWeight := by
  induction members with
  | nil => rfl
  | cons member members ih =>
      rw [Document.weight.memberWeights, ih, List.map_cons, memberWeight]

/--
An integer is written with the sign and the number that it is read with.  So it takes as
much as its literal.
-/
theorem size_integerText {literal : Numeral} {value : Int} (integer : literal.IsInteger value) :
    size (Decimal.integerText value) = literal.weight := by
  rcases integer with ⟨-, -, nonzero, same⟩
  rw [Decimal.integerText, size_append, Numeral.weight]
  cases negative : literal.negative with
  | true =>
      have magnitude_pos := nonzero negative
      rw [negative, if_pos rfl] at same
      have below : value < 0 := by omega
      have magnitude : value.natAbs = Nat.ofDigitChars 10 literal.whole 0 := by omega
      rw [decide_eq_true below, magnitude]
  | false =>
      rw [negative, if_neg Bool.false_ne_true] at same
      have above : ¬ value < 0 := by omega
      have magnitude : value.natAbs = Nat.ofDigitChars 10 literal.whole 0 := by omega
      rw [decide_eq_false above, magnitude]

/--
Without floats, a value is written within the weight of the document it is read from.  It is
an induction on the document.
-/
theorem size_render_le {levels : Nat} {document : Document} {value : Value}
    (read : ofDocument? levels document = some value) (floatFree : value.FloatFree) :
    size value.render ≤ document.weight := by
  induction levels using Nat.strongRecOn generalizing document value with
  | ind levels ih =>
    cases document with
    | null =>
        cases read
        decide
    | bool value =>
        cases read
        cases value <;> decide
    | numeral literal =>
        rcases Option.map_eq_some_iff.mp read with ⟨number, found, rfl⟩
        cases number with
        | integer value low high =>
            exact Nat.le_of_eq (size_integerText (Number.ofNumeral?_eq_integer_iff.mp found))
        | float x => cases (everywhere_single rfl).mp floatFree
    | quoted pieces =>
        rcases Option.map_eq_some_iff.mp read with ⟨s, found, rfl⟩
        exact Quoted.size_encode_le found
    | array items =>
        cases levels with
        | zero => cases read
        | succ inner =>
            rcases Option.map_eq_some_iff.mp read with ⟨values, each, rfl⟩
            rw [ofItems?_eq_some_iff] at each
            rw [floatFree_array] at floatFree
            have within : total (values.map fun value => size value.render) ≤
                total (items.map Document.weight) := by
              refine total_le (List.forall₂_map_left_iff.mpr (List.forall₂_map_right_iff.mpr ?_))
              refine ((List.forall₂_and_left values items).mpr ⟨floatFree, each.flip⟩).imp ?_
              exact fun value item found => ih inner (Nat.lt_succ_self _) found.2 found.1
            rw [render, size_arrayText, renderItems_eq, List.map_map, Document.weight,
              itemWeights_eq]
            simp only [Function.comp_def]
            omega
    | object members =>
        cases levels with
        | zero => cases read
        | succ inner =>
            rcases Option.map_eq_some_iff.mp read with ⟨entries, each, rfl⟩
            rw [ofMembers?_eq_some_iff] at each
            rw [floatFree_object] at floatFree
            have fits : List.Forall₂
                (fun (entry : String × Value) weight => entry.2.FloatFree →
                  size (memberText entry.1 entry.2.render) ≤ weight)
                entries (members.map memberWeight) := by
              refine List.forall₂_map_right_iff.mpr
                (each.flip.imp fun entry member found free => ?_)
              have name := Quoted.size_encode_le found.1
              have inside := ih inner (Nat.lt_succ_self _) found.2 free
              rw [size_memberText, memberWeight]
              omega
            rcases Members.exists_ofList fits with ⟨weights, kept, fewer⟩
            have within : total ((Members.ofList entries).map fun member =>
                size (memberText member.1 member.2.render)) ≤ total weights := by
              refine total_le (List.forall₂_map_left_iff.mpr ?_)
              refine ((List.forall₂_and_left _ _).mpr ⟨floatFree, kept⟩).imp ?_
              exact fun member weight found => found.2 found.1
            rw [render, size_objectText, renderMembers_eq, List.map_map, Document.weight,
              memberWeights_eq]
            simp only [Function.comp_def]
            omega

/--
A value without floats is written in no more bytes than the text that it is read from.  So
reading and writing never makes such a value longer.
-/
theorem size_text_le {text : String} {value : Value} (read : ofText? text = some value)
    (floatFree : value.FloatFree) : value.text.utf8ByteSize ≤ text.utf8ByteSize := by
  rcases Option.bind_eq_some_iff.mp read with ⟨document, spelled, found⟩
  exact Nat.le_trans (size_render_le found floatFree) (Document.weight_ofText? spelled)

end Value

end Json
end DeviceLink
