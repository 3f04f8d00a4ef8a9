import DeviceLink.Request

namespace DeviceLink
namespace Envelope

/-!
Responses told apart by how their text begins.  The head of a response holds its message
id; whatever the payload is, and whether or not the text could be read back, no other
response and no request begins like that.  It is what lets responses be counted among
the frames of a run without reading any of them.  The digits of the id are followed by a
comma, so an id that begins with another one is not taken for it.
-/

/-- How the text of a response begins.  It goes as far as the comma behind the message id. -/
def responseHead (messageId : UInt32) : List Char :=
  '\x7b' :: (Json.memberText "messageId" (Decimal.naturalText messageId.toNat) ++
    ',' :: Json.memberText "code" [])

/-- A text begins like a response with a message id.  What follows is not looked at. -/
def isResponseTo (messageId : UInt32) (text : String) : Bool :=
  (responseHead messageId).isPrefixOf text.toList

theorem naturalText_inj {first second : Nat}
    (same : Decimal.naturalText first = Decimal.naturalText second) : first = second := by
  have read := congrArg (fun digits => Nat.ofDigitChars 10 digits 0) same
  simpa only [Decimal.naturalText, Nat.ofDigitChars_ten_toDigits] using read

/-- The digits of a number end where something else begins.  A comma is no digit. -/
theorem takeWhile_naturalText (n : Nat) (rest : List Char) :
    (Decimal.naturalText n ++ ',' :: rest).takeWhile Char.isDigit = Decimal.naturalText n := by
  have digits : ∀ c ∈ Decimal.naturalText n, c.isDigit = true := by
    intro c inside
    exact Nat.isDigit_of_mem_toDigits (by decide) (by decide) inside
  rw [List.takeWhile_append_of_pos digits, List.takeWhile_cons_of_neg (by decide),
    List.append_nil]

/--
The text of a response after the member with its message id.  It holds the code and the
payload.
-/
def responseTail (code : Int32) (payload : Json.Members) : List Char :=
  Decimal.integerText code.toInt ++
    ',' :: Json.memberText "payload" (Json.Value.object payload).render ++ ['\x7d']

theorem render_response (messageId : UInt32) (code : Int32) (payload : Json.Members) :
    (response messageId code payload).render =
      responseHead messageId ++ responseTail code payload := by
  simp [render, response, responseHead, responseTail, optionalMember, Json.objectText,
    Json.separated, Json.memberText]

/--
The message id stands between the same beginning and a comma.  So it can be found by looking
for that comma.
-/
theorem responseHead_append (messageId : UInt32) (rest : List Char) :
    responseHead messageId ++ rest =
      ('\x7b' :: Json.Quoted.encode "messageId" ++ [':']) ++
        (Decimal.naturalText messageId.toNat ++ ',' :: (Json.memberText "code" [] ++ rest)) := by
  simp [responseHead, Json.memberText]

theorem responseHead_inj {first second : UInt32} {rest others : List Char}
    (same : responseHead first ++ rest = responseHead second ++ others) : first = second := by
  rw [responseHead_append, responseHead_append] at same
  have digits := congrArg (List.takeWhile Char.isDigit) (List.append_cancel_left same)
  rw [takeWhile_naturalText, takeWhile_naturalText] at digits
  exact UInt32.toNat_inj.mp (naturalText_inj digits)

theorem isResponseTo_response (messageId other : UInt32) (code : Int32) (payload : Json.Members) :
    isResponseTo messageId (response other code payload).text = decide (other = messageId) := by
  rw [isResponseTo, text, String.toList_ofList, render_response]
  by_cases same : other = messageId
  · rw [same, decide_eq_true rfl, List.isPrefixOf_iff_prefix]
    exact List.prefix_append _ _
  · rw [decide_eq_false same, Bool.eq_false_iff, ne_eq, List.isPrefixOf_iff_prefix]
    rintro ⟨rest, equal⟩
    exact same (responseHead_inj equal).symm

theorem isResponseTo_request (messageId other : UInt32) (request : Request)
    (payload : Json.Members) :
    isResponseTo messageId (request.frame other payload) = false := by
  have member : Json.Quoted.encode "messageId" = '"' :: 'm' :: "essageId\"".toList := by decide
  have version : Json.Quoted.encode "version" = '"' :: 'v' :: "ersion\"".toList := by decide
  have head : ∃ rest, responseHead messageId = '\x7b' :: '"' :: 'm' :: rest := by
    rw [responseHead, Json.memberText, member]
    exact ⟨_, rfl⟩
  have start : ∃ rest, (Envelope.request other request.method payload).render =
      '\x7b' :: '"' :: 'v' :: rest := by
    simp only [render, Envelope.request, optionalMember, Option.map_some, Option.toList_some,
      List.cons_append, Json.objectText, Json.memberText, version]
    exact ⟨_, rfl⟩
  rcases head with ⟨rest, head⟩
  rcases start with ⟨others, start⟩
  rw [isResponseTo, Request.frame, text, String.toList_ofList, head, start]
  rfl

end Envelope
end DeviceLink
