import DeviceLink.Proofs.Core.Carrying
import DeviceLink.Proofs.DeviceCall.Fulfilment
import DeviceLink.Script

namespace DeviceLink
namespace Core

variable {σ : Type}

/-!
What a gateway learns from the answers to its calls.  The calls on a device in a run
account for all its answers; each of these tells whether its call has been fulfilled,
whatever else happened while the call stood at gates.  A code other than 0 says that it
has not been, and code 0 that it has, unless a callback has put that code into an error.
`Told` compares each answer with the way that its call has taken.  Two runs on fixed
tables stand beside it: a service that leaves a gap in its output slots and is fulfilled
as far as the gap, and a callback that fails with the code of success.
-/

open DeviceCall (Truthful)

/--
The calls on a device in a run from the start, and what their answers tell.  For each answer
it is said how much of its call has been done.
-/
structure Told (setup : Setup σ) (device : Address) (world : σ) (moves : List (Move σ))
    (calls : List (Carried σ)) : Prop where
  /--
  Each call that has begun answers once at most, and there are no other answers.  So an
  answer can be traced back to the code that gave it.
  -/
  account : Account setup device (begunCalls device (history setup (new setup world) moves))
    (spansOn setup device (new setup world) moves) (notesOn setup device (new setup world) moves)
    (answersOn device (history setup (new setup world) moves)) calls
  /-- Each answer goes out as one frame, and nothing else while code of the device runs. -/
  handed : ∀ earlier move later, moves = earlier ++ move :: later →
    (run setup (new setup world) earlier).Serving →
    runsOn setup device (run setup (new setup world) earlier) move = true →
    (run setup (new setup world) (earlier ++ [move])).frames =
      (run setup (new setup world) earlier).frames ++
        (answersOn device (observe setup (run setup (new setup world) earlier) move)).map
          responseOf
  truthful : ∀ carried ∈ calls, ∀ answer, carried.passage.answer? = some answer →
    Truthful setup.handler setup.options.outputSlots device carried.passage carried.call.call
      answer

/--
Code 0 goes out for a call that has been fulfilled, and then with just the payload that the
call asks for, or because a callback failed with an error whose own code is 0.  Both parts
hold of every handler, and of every way in which the world may change at gates.
-/
theorem answers_truthful (setup : Setup σ) (device : Address) :
    (∀ call way answer,
        (DeviceCall.perform setup.handler setup.options.outputSlots device call).Takes way →
        way.answer? = some answer →
        Truthful setup.handler setup.options.outputSlots device way call answer) ∧
      ∀ world moves, ∃ calls, Told setup device world moves calls := by
  refine ⟨fun call way answer taken answered => DeviceCall.truthful_of_takes taken answered,
    fun world moves => ?_⟩
  rcases exists_account setup device world moves with ⟨calls, account⟩
  refine ⟨calls, account, ?_, ?_⟩
  · rintro earlier move later - serving runs
    rw [run, List.foldl_concat]
    exact serving.handed runs
  · intro carried inside answer answered
    exact DeviceCall.truthful_of_takes (account.taken carried inside) answered

/-- A service that leaves a slot unused between two others.  It fills the first and the third. -/
def gapped : Script :=
  ⟨[], [], [("dance", ⟨none, false, none,
    [⟨"steps", .text, "3"⟩, Datum.empty, ⟨"turns", .text, "1"⟩]⟩)]⟩

/-- Only what stands before the gap is sent.  The answer is a success all the same. -/
theorem answers_truthful_gapped :
    let setup : Setup Unit := ⟨Options.standard, gapped.handler, false, none, .standard⟩
    let device : Address := ⟨"house", "lamp"⟩
    let call : DeviceCall := .callService "dance" []
    let code := call.perform setup.handler setup.options.outputSlots device
    let way : Passage Unit Json.Members := .arrive () [] [] (code.run ())
    let answer : Int32 × Json.Members :=
      (0, [(Method.outputDataField, .array [DeviceLink.Datum.itemOf "steps" .text (.string "3")])])
    code.Takes way ∧ way.answer? = some answer ∧
      Truthful setup.handler setup.options.outputSlots device way call answer := by
  intro setup device call code way answer
  have taken : code.Takes way := .setOut ()
  have answered : way.answer? = some answer := by with_unfolding_all rfl
  exact ⟨taken, answered, (answers_truthful setup device).1 call way answer taken answered⟩

/--
A property that cannot be read, although the error says that all is well.  Its error carries
the code of success.
-/
def misleading : Script := ⟨[("k", ⟨none, false, some 0, []⟩)], [], []⟩

/--
The call is answered with code 0, and nothing has been read.  The payload is empty, unlike
that of a property that was read.
-/
theorem failure_told_as_success :
    let device : Address := ⟨"house", "lamp"⟩
    let call : DeviceCall := .getProperties ["k"]
    let code : Activity Unit Json.Members := call.perform misleading.handler 16 device
    let way : Passage Unit Json.Members := .arrive () [] [] (code.run ())
    code.Takes way ∧ way.answer? = some (0, []) ∧
      DeviceCall.Refuses misleading.handler 16 device way call ⟨.success, "scripted"⟩ ∧
      ∀ payload, ¬DeviceCall.Fulfils misleading.handler 16 device way call payload := by
  intro device call code way
  let callback : Passage Unit (List Datum) :=
    .arrive () [] [] ((misleading.handler.getProperties device ["k"]).run ())
  have reached : (misleading.handler.getProperties device ["k"]).Takes callback := .setOut ()
  have makes : way.Makes (.getProperties device ["k"]) callback := rfl
  refine ⟨.setOut (), rfl, .read reached makes rfl, fun payload fulfils => ?_⟩
  rcases fulfils with ⟨given, returns, -⟩
  rcases DeviceCall.returns_getProperties_iff.mp returns with
    ⟨other, values, taken, its, returned, -⟩
  -- there is no other callback than the one that has failed
  rw [← makes.unique reached its taken] at returned
  cases returned

end Core
end DeviceLink
