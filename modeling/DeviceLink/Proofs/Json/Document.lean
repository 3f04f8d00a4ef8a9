import DeviceLink.Json.Printer
import DeviceLink.Proofs.Json.Numeral
import DeviceLink.Proofs.Json.Quoted
import Mathlib.Data.List.Forall2

namespace DeviceLink
namespace Json

/-!
Texts that spell a document.  A text spells a document if its tokens are found in front
of whatever may follow and are then read as that document; printing keeps this from the
parts of an array or object to the whole.  `Tokenizes` is the half about characters and
`Reads` is the half about tokens, and `Spells` has both.  A text that spells a document
may be followed by anything that does not carry on its last token, which is what makes
it possible to put texts together.
-/

open Numeral (Ends ends_nil ends_cons)

/-! Tokens of written texts. -/

/--
A text has these tokens in front of any text that does not carry a numeral on.  A numeral
ends only where the text goes on with something else.
-/
def Tokenizes (text : List Char) (tokens : List Token) : Prop :=
  ∀ rest, Ends rest → Token.ofText? (text ++ rest) = (Token.ofText? rest).map (tokens ++ ·)

namespace Token

theorem ofText?_nil : ofText? [] = some [] := by
  rw [ofText?]

theorem ofText?_cons {c : Char} {rest after : List Char} {token : Token}
    (visible : Text.isJsonBlank c = false) (found : first? c rest = some (token, after)) :
    ofText? (c :: rest) = (ofText? after).map (token :: ·) := by
  rw [ofText?]
  simp only [visible, Bool.false_eq_true, if_false]
  split
  · next missing =>
    rw [found] at missing
    cases missing
  · next other =>
    rw [found] at other
    cases other
    rfl

theorem ofText?_punctuation {c : Char} {token : Token} (visible : Text.isJsonBlank c = false)
    (mark : punctuation? c = some token) (rest : List Char) :
    ofText? (c :: rest) = (ofText? rest).map (token :: ·) :=
  ofText?_cons visible (by rw [first?, mark])

theorem ofText?_openArray (rest : List Char) :
    ofText? ('[' :: rest) = (ofText? rest).map (.openArray :: ·) :=
  ofText?_punctuation (by decide) (by decide) rest

theorem ofText?_closeArray (rest : List Char) :
    ofText? (']' :: rest) = (ofText? rest).map (.closeArray :: ·) :=
  ofText?_punctuation (by decide) (by decide) rest

theorem ofText?_openObject (rest : List Char) :
    ofText? ('\x7b' :: rest) = (ofText? rest).map (.openObject :: ·) :=
  ofText?_punctuation (by decide) (by decide) rest

theorem ofText?_closeObject (rest : List Char) :
    ofText? ('\x7d' :: rest) = (ofText? rest).map (.closeObject :: ·) :=
  ofText?_punctuation (by decide) (by decide) rest

theorem ofText?_colon (rest : List Char) :
    ofText? (':' :: rest) = (ofText? rest).map (.colon :: ·) :=
  ofText?_punctuation (by decide) (by decide) rest

theorem ofText?_comma (rest : List Char) :
    ofText? (',' :: rest) = (ofText? rest).map (.comma :: ·) :=
  ofText?_punctuation (by decide) (by decide) rest

/--
Token lists joined with commas.  That is how the items of an array and the members of an
object stand.
-/
def separated : List (List Token) → List Token
  | [] => []
  | [part] => part
  | part :: rest => part ++ .comma :: separated rest

end Token

theorem dropWord?_append (word rest : List Char) :
    Token.dropWord? word (word ++ rest) = some rest := by
  induction word with
  | nil => rfl
  | cons c word ih => simpa [Token.dropWord?] using ih

theorem tokenizes_null : Tokenizes "null".toList [.null] := by
  have word : "null".toList = 'n' :: "ull".toList := by decide
  intro rest _
  rw [word, List.cons_append]
  refine Token.ofText?_cons (by decide) ?_
  rw [Token.first?, show Token.punctuation? 'n' = none by decide]
  simp only [Token.long?, Char.reduceEq, if_false, if_true, dropWord?_append, Option.map_some]

theorem tokenizes_bool (value : Bool) : Tokenizes (Value.bool value).render [.bool value] := by
  have yes : "true".toList = 't' :: "rue".toList := by decide
  have no : "false".toList = 'f' :: "alse".toList := by decide
  intro rest _
  cases value with
  | true =>
      rw [Value.render, yes, List.cons_append]
      refine Token.ofText?_cons (by decide) ?_
      rw [Token.first?, show Token.punctuation? 't' = none by decide]
      simp only [Token.long?, Char.reduceEq, if_false, if_true, dropWord?_append, Option.map_some]
  | false =>
      rw [Value.render, no, List.cons_append]
      refine Token.ofText?_cons (by decide) ?_
      rw [Token.first?, show Token.punctuation? 'f' = none by decide]
      simp only [Token.long?, Char.reduceEq, if_false, if_true, dropWord?_append, Option.map_some]

theorem tokenizes_encode (s : String) :
    Tokenizes (Quoted.encode s) [.quoted (Quoted.pieces s)] := by
  intro rest _
  have scanned := Quoted.scan?_written s.toList rest
  rw [Quoted.encode, List.cons_append, List.cons_append, List.append_assoc]
  refine Token.ofText?_cons (by decide) ?_
  rw [Token.first?, show Token.punctuation? '"' = none by decide]
  simp only [Token.long?, if_true, List.singleton_append, scanned, Option.map_some, Quoted.pieces]

/--
The blanks, and the characters that begin a token other than a literal.  Digits and the
minus sign are not among them.
-/
def Token.others : List Char :=
  [' ', '\t', '\n', '\r', '[', ']', '\x7b', '\x7d', ':', ',', '"', 'n', 't', 'f']

/-- A character that begins a literal begins no other token.  So the scanner has no choice there. -/
theorem first?_of_literal {c : Char} (starts : c = '-' ∨ c.isDigit = true) (rest : List Char) :
    Text.isJsonBlank c = false ∧
      Token.first? c rest =
        (Numeral.scan? (c :: rest)).map fun found => (.numeral found.1, found.2) := by
  have apart : ∀ other : Char, other ≠ '-' → other.isDigit = false → c ≠ other := by
    rintro other unsigned undigit rfl
    rcases starts with rfl | digit
    · exact unsigned rfl
    · rw [digit] at undigit
      cases undigit
  have undigit : ∀ other ∈ Token.others, (!other.isDigit) = true := List.all_eq_true.mp (by decide)
  have blank : ∀ other ∈ Token.others, c ≠ other := by
    intro other inside
    refine apart other ?_ (Bool.not_eq_true' _ ▸ undigit other inside)
    rintro rfl
    exact absurd inside (by decide)
  simp only [Token.others, List.forall_mem_cons] at blank
  simp [Text.isJsonBlank, Token.first?, Token.punctuation?, Token.long?, blank]

theorem tokenizes_text {numeral : Numeral} (proper : numeral.Proper) :
    Tokenizes numeral.text [.numeral numeral] := by
  intro rest ends
  have scanned := Numeral.scan?_text proper ends
  have starts : ∃ c tail, numeral.text = c :: tail ∧ (c = '-' ∨ c.isDigit = true) := by
    rcases numeral with ⟨negative, whole, fraction, power⟩
    cases negative with
    | true => exact ⟨'-', _, rfl, Or.inl rfl⟩
    | false =>
        cases whole with
        | nil => exact absurd rfl proper.whole.1
        | cons c whole => exact ⟨c, _, rfl, Or.inr (proper.whole.2 c List.mem_cons_self)⟩
  rcases starts with ⟨c, tail, text, starts⟩
  rw [text, List.cons_append] at scanned ⊢
  rcases first?_of_literal starts (tail ++ rest) with ⟨visible, first⟩
  refine Token.ofText?_cons visible ?_
  rw [first, scanned, Option.map_some]

theorem Tokenizes.separated {parts : List (List Char)} {tokens : List (List Token)}
    (each : List.Forall₂ Tokenizes parts tokens) :
    Tokenizes (Json.separated parts) (Token.separated tokens) := by
  induction each with
  | nil =>
      intro rest _
      simp [Json.separated, Token.separated]
  | @cons part partTokens parts tokens first others ih =>
      cases others with
      | nil => exact first
      | cons second others =>
          intro rest ends
          simp only [Json.separated, Token.separated, List.append_assoc, List.cons_append]
          rw [first _ (ends_cons (by decide) _), Token.ofText?_comma, ih rest ends]
          cases Token.ofText? rest <;> simp

theorem Tokenizes.array {parts : List (List Char)} {tokens : List (List Token)}
    (each : List.Forall₂ Tokenizes parts tokens) :
    Tokenizes (arrayText parts) (.openArray :: (Token.separated tokens ++ [.closeArray])) := by
  intro rest _
  simp only [arrayText, List.cons_append, List.append_assoc, List.nil_append]
  rw [Token.ofText?_openArray, Tokenizes.separated each _ (ends_cons (by decide) _),
    Token.ofText?_closeArray]
  cases Token.ofText? rest <;> simp

theorem Tokenizes.object {parts : List (List Char)} {tokens : List (List Token)}
    (each : List.Forall₂ Tokenizes parts tokens) :
    Tokenizes (objectText parts) (.openObject :: (Token.separated tokens ++ [.closeObject])) := by
  intro rest _
  simp only [objectText, List.cons_append, List.append_assoc, List.nil_append]
  rw [Token.ofText?_openObject, Tokenizes.separated each _ (ends_cons (by decide) _),
    Token.ofText?_closeObject]
  cases Token.ofText? rest <;> simp

theorem Tokenizes.member {text : List Char} {tokens : List Token} (value : Tokenizes text tokens)
    (name : String) :
    Tokenizes (memberText name text) (.quoted (Quoted.pieces name) :: .colon :: tokens) := by
  intro rest ends
  simp only [memberText, List.append_assoc, List.cons_append]
  rw [tokenizes_encode name _ (ends_cons (by decide) _), Token.ofText?_colon, value rest ends]
  cases Token.ofText? rest <;> simp

/-! Reading the tokens. -/

/--
Tokens that are read as a document in front of any others, with one step for each of them.
The steps bound the recursion of the reader.
-/
def Reads (tokens : List Token) (document : Document) : Prop :=
  ∀ fuel rest, tokens.length ≤ fuel → Document.read? fuel (tokens ++ rest) = some (document, rest)

/-- A document that is a single token.  One step is enough for it. -/
theorem reads_single {token : Token} {document : Document}
    (reads : ∀ fuel rest, Document.read? (fuel + 1) (token :: rest) = some (document, rest)) :
    Reads [token] document := by
  intro fuel rest enough
  cases fuel with
  | zero => exact absurd enough (Nat.not_succ_le_zero _)
  | succ fuel => exact reads fuel rest

section

variable {tokens : List Token} {document : Document}

theorem Reads.ne_nil (reads : Reads tokens document) : tokens ≠ [] := by
  rintro rfl
  have read := reads 0 [] (Nat.le_refl _)
  cases read

/-- No document begins where an array ends.  So an array that goes on is told from one that ends. -/
theorem Reads.append_ne (reads : Reads tokens document) (others rest : List Token) :
    tokens ++ others ≠ .closeArray :: rest := by
  intro same
  cases tokens with
  | nil => exact reads.ne_nil rfl
  | cons token tokens =>
      cases same
      have read := reads (tokens.length + 1) [] (Nat.le_refl _)
      rw [List.append_nil, Document.read?] at read
      · cases read
      all_goals simp

end

theorem separated_cons (part : List Token) (parts : List (List Token)) :
    ∃ others, Token.separated (part :: parts) = part ++ others := by
  cases parts with
  | nil => exact ⟨[], (List.append_nil part).symm⟩
  | cons second parts => exact ⟨_, rfl⟩

/--
The items of an array are read up to and with the closing bracket.  It is an induction on
the items, one comma after the other.
-/
theorem readItems?_separated {parts : List (List Token)} {documents : List Document}
    (each : List.Forall₂ Reads parts documents) (nonempty : parts ≠ []) {fuel : Nat}
    (enough : (Token.separated parts).length + 1 ≤ fuel) (rest : List Token) :
    Document.readItems? fuel (Token.separated parts ++ .closeArray :: rest) =
      .some (documents, rest) := by
  induction each generalizing fuel with
  | nil => exact absurd rfl nonempty
  | @cons part document parts documents first others ih =>
      cases fuel with
      | zero => exact absurd enough (Nat.not_succ_le_zero _)
      | succ fuel =>
          cases others with
          | nil =>
              rw [Token.separated] at enough ⊢
              rw [Document.readItems?, first fuel _ (by omega)]
          | @cons second other parts documents next others =>
              simp only [Token.separated, List.length_append, List.length_cons] at enough
              have fewer : (Token.separated (second :: parts)).length + 1 ≤ fuel := by omega
              have later := ih (List.cons_ne_nil _ _) fewer
              simp only [Token.separated, List.append_assoc, List.cons_append]
              rw [Document.readItems?, first fuel _ (by omega)]
              simp only [later, Option.map_some]

theorem Reads.array {parts : List (List Token)} {documents : List Document}
    (each : List.Forall₂ Reads parts documents) :
    Reads (.openArray :: (Token.separated parts ++ [.closeArray])) (.array documents) := by
  intro fuel rest enough
  cases fuel with
  | zero => exact absurd enough (Nat.not_succ_le_zero _)
  | succ fuel =>
      cases each with
      | nil => rfl
      | @cons part document parts documents first others =>
          have shorter : (Token.separated (part :: parts)).length + 1 ≤ fuel := by
            simpa using enough
          have items :=
            readItems?_separated (.cons first others) (List.cons_ne_nil _ _) shorter rest
          have opens : ∀ tail, Token.separated (part :: parts) ++ .closeArray :: rest ≠
              .closeArray :: tail := by
            rcases separated_cons part parts with ⟨later, split⟩
            intro tail
            rw [split, List.append_assoc]
            exact first.append_ne _ _
          simp only [List.cons_append, List.append_assoc, List.nil_append]
          rw [Document.read?, items]
          · rfl
          · exact opens

/--
The tokens of one member of an object.  They are its name, a colon and the tokens of its
value.
-/
def ReadsMember (tokens : List Token) (member : List Quoted.Piece × Document) : Prop :=
  ∃ value, tokens = .quoted member.1 :: .colon :: value ∧ Reads value member.2

/--
The members of an object are read up to and with the closing brace.  Names may be repeated
here.
-/
theorem readMembers?_separated {parts : List (List Token)}
    {members : List (List Quoted.Piece × Document)}
    (each : List.Forall₂ ReadsMember parts members) (nonempty : parts ≠ []) {fuel : Nat}
    (enough : (Token.separated parts).length + 1 ≤ fuel) (rest : List Token) :
    Document.readMembers? fuel (Token.separated parts ++ .closeObject :: rest) =
      .some (members, rest) := by
  induction each generalizing fuel with
  | nil => exact absurd rfl nonempty
  | @cons part member parts members first others ih =>
      rcases member with ⟨name, document⟩
      rcases first with ⟨value, rfl, reads⟩
      cases fuel with
      | zero => exact absurd enough (Nat.not_succ_le_zero _)
      | succ fuel =>
          cases others with
          | nil =>
              simp only [Token.separated, List.length_cons, List.cons_append] at enough ⊢
              rw [Document.readMembers?, reads fuel _ (by omega)]
          | @cons second other parts members next others =>
              simp only [Token.separated, List.length_append, List.length_cons] at enough
              have fewer : (Token.separated (second :: parts)).length + 1 ≤ fuel := by omega
              have later := ih (List.cons_ne_nil _ _) fewer
              simp only [Token.separated, List.append_assoc, List.cons_append]
              rw [Document.readMembers?, reads fuel _ (by omega)]
              simp only [later, Option.map_some]

theorem Reads.object {parts : List (List Token)} {members : List (List Quoted.Piece × Document)}
    (each : List.Forall₂ ReadsMember parts members) :
    Reads (.openObject :: (Token.separated parts ++ [.closeObject])) (.object members) := by
  intro fuel rest enough
  cases fuel with
  | zero => exact absurd enough (Nat.not_succ_le_zero _)
  | succ fuel =>
      cases each with
      | nil => rfl
      | @cons part member parts members first others =>
          have shorter : (Token.separated (part :: parts)).length + 1 ≤ fuel := by
            simpa using enough
          have read :=
            readMembers?_separated (.cons first others) (List.cons_ne_nil _ _) shorter rest
          have opens : ∀ tail, Token.separated (part :: parts) ++ .closeObject :: rest ≠
              .closeObject :: tail := by
            rcases separated_cons part parts with ⟨later, split⟩
            rcases first with ⟨value, rfl, -⟩
            intro tail same
            rw [split, List.cons_append] at same
            cases same
          simp only [List.cons_append, List.append_assoc, List.nil_append]
          rw [Document.read?, read]
          · rfl
          · exact opens

/-! Spelling. -/

/--
A text that is read as a document wherever it stands.  It is enough that no numeral is
carried on behind it.
-/
def Spells (text : List Char) (document : Document) : Prop :=
  ∃ tokens, Tokenizes text tokens ∧ Reads tokens document

/-- A text that is read as one member of an object.  The name may be escaped in any way. -/
def SpellsMember (text : List Char) (member : List Quoted.Piece × Document) : Prop :=
  ∃ tokens, Tokenizes text tokens ∧ ReadsMember tokens member

theorem spells_null : Spells "null".toList .null :=
  ⟨_, tokenizes_null, reads_single fun _ _ => rfl⟩

theorem spells_bool (value : Bool) : Spells (Value.bool value).render (.bool value) :=
  ⟨_, tokenizes_bool value, reads_single fun _ _ => rfl⟩

theorem spells_numeral {numeral : Numeral} (proper : numeral.Proper) :
    Spells numeral.text (.numeral numeral) :=
  ⟨_, tokenizes_text proper, reads_single fun _ _ => rfl⟩

theorem spells_quoted (s : String) : Spells (Quoted.encode s) (.quoted (Quoted.pieces s)) :=
  ⟨_, tokenizes_encode s, reads_single fun _ _ => rfl⟩

/--
Whatever all the parts of a list spell, they have their tokens one by one.  The tokens of
the whole are put together from them.
-/
theorem exists_tokens {α : Type} {reads : List Token → α → Prop} {parts : List (List Char)}
    {results : List α}
    (each : List.Forall₂ (fun text result => ∃ tokens, Tokenizes text tokens ∧ reads tokens result)
      parts results) :
    ∃ tokens, List.Forall₂ Tokenizes parts tokens ∧ List.Forall₂ reads tokens results := by
  induction each with
  | nil => exact ⟨[], .nil, .nil⟩
  | cons first _ ih =>
      rcases first with ⟨part, tokenizes, read⟩
      rcases ih with ⟨others, tokenized, reads⟩
      exact ⟨part :: others, .cons tokenizes tokenized, .cons read reads⟩

theorem Spells.array {parts : List (List Char)} {documents : List Document}
    (each : List.Forall₂ Spells parts documents) : Spells (arrayText parts) (.array documents) := by
  rcases exists_tokens each with ⟨tokens, tokenized, reads⟩
  exact ⟨_, Tokenizes.array tokenized, Reads.array reads⟩

theorem Spells.object {parts : List (List Char)} {members : List (List Quoted.Piece × Document)}
    (each : List.Forall₂ SpellsMember parts members) :
    Spells (objectText parts) (.object members) := by
  rcases exists_tokens each with ⟨tokens, tokenized, reads⟩
  exact ⟨_, Tokenizes.object tokenized, Reads.object reads⟩

theorem Spells.member {text : List Char} {document : Document} (spells : Spells text document)
    (name : String) : SpellsMember (memberText name text) (Quoted.pieces name, document) := by
  rcases spells with ⟨tokens, tokenizes, reads⟩
  exact ⟨_, tokenizes.member name, tokens, rfl, reads⟩

/-- What a text spells is the document that it is read as.  A text spells one document at most. -/
theorem Spells.ofText? {text : List Char} {document : Document} (spells : Spells text document) :
    Document.ofText? (String.ofList text) = some document := by
  rcases spells with ⟨tokens, tokenizes, reads⟩
  have tokenized := tokenizes [] ends_nil
  have read := reads tokens.length [] (Nat.le_refl _)
  rw [List.append_nil] at tokenized read
  simp only [Document.ofText?, String.toList_ofList, tokenized, Token.ofText?_nil, Option.map_some,
    List.append_nil, Option.bind_some, Document.ofTokens?, read]

end Json
end DeviceLink
