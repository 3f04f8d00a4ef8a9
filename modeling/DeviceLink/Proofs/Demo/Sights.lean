import DeviceLink.Proofs.Demo.Round

namespace DeviceLink
namespace Demo

/-!
What a lamp has been announced by.  An announcement is settled by the answer to its own
message id; it counts for as long as the reporter has not noticed the link again, and it
holds good for as long as no other connection has come up.  A sight is what can be told
of a run from outside that matters here: a request that goes out, an answer, and news of
the link.  All notions are about lists of them, the latest at the end, so they can be
followed as the list grows.
-/

def Sight.isConnection : Sight → Bool
  | established => true
  | replaced => true
  | _ => false

/--
No lamp has been announced since this one, under this message id.  So it is the one that the
reporter waits for.
-/
def Asked (lamp : Address) (messageId : UInt32) (sights : List Sight) : Prop :=
  ∃ first between, sights = first ++ .asked lamp messageId :: between ∧
    ∀ other id, .asked other id ∉ between

/--
The gateway has just agreed to the announcement of a lamp.  The answer is to the message id
of that announcement.
-/
def Agreed (lamp : Address) (sights : List Sight) : Prop :=
  ∃ asked messageId, sights = asked ++ [.answered messageId ResultCode.success.number] ∧
    Asked lamp messageId asked

/--
The gateway has agreed to the announcement of a lamp since the last connection came up.  It
may be reported over that connection.
-/
def Current (lamp : Address) (past : List Sight) : Prop :=
  ∃ agreed later, past = agreed ++ later ∧ Agreed lamp agreed ∧
    ∀ sight ∈ later, sight.isConnection = false

/--
What has been seen since the reporter last noticed the link.  That is all which the reporter
goes by.
-/
def recent (past : List Sight) : List Sight :=
  past.foldl (fun recent sight => if sight = .noticed then [] else recent ++ [sight]) []

/--
A lamp has been announced and agreed to since the reporter last noticed the link.  The
reporter takes it for online then.
-/
def Announced (lamp : Address) (past : List Sight) : Prop :=
  .noticed ∈ past ∧ ∃ agreed later, recent past = agreed ++ later ∧ Agreed lamp agreed

section

variable {lamp : Address} {messageId : UInt32} {past sights news : List Sight}

theorem recent_concat (past : List Sight) (sight : Sight) :
    recent (past ++ [sight]) = if sight = .noticed then [] else recent past ++ [sight] :=
  List.foldl_concat _ _ _ _

theorem recent_append (past : List Sight) (quiet : .noticed ∉ news) :
    recent (past ++ news) = recent past ++ news := by
  induction news using List.reverseRecOn with
  | nil => rw [List.append_nil, List.append_nil]
  | append_singleton news last ih =>
      rw [List.mem_append, not_or, List.mem_singleton] at quiet
      rw [← List.append_assoc, recent_concat, if_neg (Ne.symm quiet.2), ih quiet.1,
        List.append_assoc]

theorem recent_suffix (past : List Sight) : recent past <:+ past := by
  induction past using List.reverseRecOn with
  | nil => exact List.suffix_refl _
  | append_singleton past last ih =>
      rw [recent_concat]
      split
      · exact List.nil_suffix
      · rcases ih with ⟨before, same⟩
        exact ⟨before, by rw [← List.append_assoc, same]⟩

theorem Asked.append (asked : Asked lamp messageId sights)
    (quiet : ∀ other id, .asked other id ∉ news) : Asked lamp messageId (sights ++ news) := by
  rcases asked with ⟨first, between, rfl, others⟩
  refine ⟨first, between ++ news, by rw [List.append_assoc, List.cons_append], ?_⟩
  intro other id inside
  rcases List.mem_append.mp inside with early | late
  · exact others other id early
  · exact quiet other id late

theorem Asked.of_last (sights : List Sight) (lamp : Address) (messageId : UInt32) :
    Asked lamp messageId (sights ++ [.asked lamp messageId]) := ⟨sights, [], rfl, nofun⟩

theorem Agreed.prepend (agreed : Agreed lamp sights) (before : List Sight) :
    Agreed lamp (before ++ sights) := by
  rcases agreed with ⟨asked, messageId, rfl, first, between, rfl, others⟩
  refine ⟨before ++ (first ++ .asked lamp messageId :: between), messageId, ?_, before ++ first,
    between, ?_, others⟩
  · rw [List.append_assoc, List.append_assoc, List.append_assoc]
  · rw [List.append_assoc]

theorem Announced.append (announced : Announced lamp past) (quiet : .noticed ∉ news) :
    Announced lamp (past ++ news) := by
  rcases announced with ⟨noticed, agreed, later, recent_eq, agrees⟩
  refine ⟨List.mem_append_left _ noticed, agreed, later ++ news, ?_, agrees⟩
  rw [recent_append past quiet, recent_eq, List.append_assoc]

/--
Nobody has been announced over a connection that has just come up.  Whatever was agreed to
before was agreed to over another.
-/
theorem not_current_of_connection {sight : Sight} (connection : sight.isConnection = true) :
    ¬Current lamp (past ++ [sight]) := by
  rintro ⟨agreed, later, split, ⟨asked, messageId, rfl, -⟩, others⟩
  rcases List.eq_nil_or_concat' later with rfl | ⟨rest, last, rfl⟩
  · rw [List.append_nil] at split
    cases (List.append_inj' split rfl).2
    cases connection
  · rw [← List.append_assoc] at split
    cases (List.append_inj' split rfl).2
    rw [others sight List.mem_concat_self] at connection
    cases connection

/--
Unless a connection has come up since the link was noticed, it is the one that counts.  What
is announced is then announced over it.
-/
theorem Announced.current (announced : Announced lamp past)
    (same : ∀ sight ∈ recent past, sight.isConnection = false) : Current lamp past := by
  rcases announced with ⟨-, agreed, later, recent_eq, agrees⟩
  rcases recent_suffix past with ⟨before, split⟩
  refine ⟨before ++ agreed, later, ?_, agrees.prepend before, fun sight inside => ?_⟩
  · rw [← split, recent_eq, List.append_assoc]
  · exact same sight (recent_eq ▸ List.mem_append_right _ inside)

end

end Demo
end DeviceLink
