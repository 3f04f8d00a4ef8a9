import DeviceLink.Json.Quoted

namespace DeviceLink
namespace Json
namespace Quoted

/-!
Strings in quotes are read back.  Every character of a string is written as one piece, a
control character without a letter of its own as a unit that can be no half of a pair;
so scanning finds the pieces and decoding the characters, whatever follows the closing
quote.  `spelled` is the list of these pieces.  Different strings have different pieces,
so a quoted string tells which string it is.  Characters beyond the first plane are
never written as pairs of units, though such pairs are read.
-/

/--
What the written form of a character spells.  Only a control character without a letter of
its own is written as a unit.  Every other character is one piece by itself.
-/
def spelled (c : Char) : Piece :=
  if isControl c && !(['\x08', '\x0c', '\n', '\r', '\t'].contains c) then .unit c.toNat
  else .plain c

/-- The pieces of a string as it is written.  There are as many as it has characters. -/
def pieces (s : String) : List Piece := s.toList.map spelled

theorem hexUnit?_control :
    ∀ n < 0x20, hexUnit? '0' '0' (hexChar (n / 16)) (hexChar (n % 16)) = some n := by
  decide

theorem scan?_plain {c : Char} (unquoted : c ≠ '"') (unescaped : c ≠ '\\')
    (visible : isControl c = false) (rest : List Char) :
    scan? (c :: rest) = (scan? rest).map fun found => (.plain c :: found.1, found.2) := by
  rw [scan?]
  · simp only [visible, unescaped, Bool.false_or, decide_false, Bool.false_eq_true, if_false]
    cases scan? rest <;> rfl
  all_goals simp [unquoted, unescaped]

theorem scan?_letter {letter c : Char} (escapes : letterEscape? letter = some c)
    (rest : List Char) :
    scan? ('\\' :: letter :: rest) =
      (scan? rest).map fun found => (.plain c :: found.1, found.2) := by
  rw [scan?]
  · rw [escapes]
    cases scan? rest <;> rfl
  · rintro a b c d rest rfl
    cases escapes

/-- One written character is one piece.  What follows it is scanned afterwards. -/
theorem scan?_escape (c : Char) (rest : List Char) :
    scan? (escape c ++ rest) =
      (scan? rest).map fun found => (spelled c :: found.1, found.2) := by
  by_cases lettered : c ∈ ['"', '\\', '\x08', '\x0c', '\n', '\r', '\t']
  · simp only [List.mem_cons, List.not_mem_nil, or_false] at lettered
    rcases lettered with rfl | rfl | rfl | rfl | rfl | rfl | rfl <;> exact scan?_letter rfl rest
  · simp only [List.mem_cons, List.not_mem_nil, or_false, not_or] at lettered
    rcases lettered with ⟨quote, backslash, b, f, n, r, t⟩
    cases control : isControl c with
    | true =>
        have small : c.toNat < 0x20 := of_decide_eq_true control
        have unit : spelled c = .unit c.toNat := by simp [spelled, control, b, f, n, r, t]
        simp only [escape, quote, backslash, b, f, n, r, t, control, if_false, if_true,
          List.cons_append, List.nil_append, scan?, hexUnit?_control c.toNat small, unit]
        cases scan? rest <;> rfl
    | false =>
        have plain : spelled c = .plain c := by simp [spelled, control]
        simp only [escape, quote, backslash, b, f, n, r, t, control, if_false,
          Bool.false_eq_true, List.cons_append, List.nil_append, plain]
        exact scan?_plain quote backslash control rest

theorem scan?_written (cs rest : List Char) :
    scan? (cs.flatMap escape ++ '"' :: rest) = some (cs.map spelled, rest) := by
  induction cs with
  | nil => rfl
  | cons c cs ih =>
      rw [List.flatMap_cons, List.append_assoc, scan?_escape, ih]
      rfl

/--
A unit that is no half of a pair spells its own character, whatever follows it.  That is why
control characters are safe.
-/
theorem decode?_unit {code : Nat} (whole : code < 0xD800) (rest : List Piece) :
    decode? (.unit code :: rest) = (decode? rest).map (Char.ofNat code :: ·) := by
  have high : isHighHalf code = false := by
    simp [isHighHalf]
    omega
  have low : isLowHalf code = false := by
    simp [isLowHalf]
    omega
  cases rest with
  | nil => simp [decode?, high, low]
  | cons piece rest =>
      cases piece with
      | plain c => simp [decode?, high, low]
      | unit next => simp [decode?, high, low]

theorem decode?_spelled (c : Char) (rest : List Piece) :
    decode? (spelled c :: rest) = (decode? rest).map (c :: ·) := by
  unfold spelled
  split
  · next control =>
    have small : c.toNat < 0x20 :=
      of_decide_eq_true (Bool.and_eq_true_iff.mp control).1
    rw [decode?_unit (by omega), Char.ofNat_toNat]
  · rw [decode?]

theorem decode?_map_spelled (cs : List Char) : decode? (cs.map spelled) = some cs := by
  induction cs with
  | nil => rfl
  | cons c cs ih => rw [List.map_cons, decode?_spelled, ih, Option.map_some]

/-- A written string is read back.  It may hold any characters. -/
@[simp] theorem string?_pieces (s : String) : string? (pieces s) = some s := by
  rw [string?, pieces, decode?_map_spelled, Option.map_some, String.ofList_toList]

theorem pieces_injective {first second : String} (same : pieces first = pieces second) :
    first = second := by
  have read := congrArg string? same
  simpa using read

end Quoted
end Json
end DeviceLink
