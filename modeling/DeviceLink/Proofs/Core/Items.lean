import DeviceLink.Proofs.Core.Carrying
import DeviceLink.Proofs.Fleet.Setting

namespace DeviceLink
namespace Core

variable {σ : Type}

/-!
How the items of a call are set on a device.  The call may stand at gates between any
two of them, and anything may become of the world meanwhile.  Still the items are tried
in their order, what has been set is never taken back, and the first item that is not
set decides the one answer.  `ItemsSet` says so for every handler, and `LampsSet` for
the fleet of the demonstration, where what has been set can be seen in the fleet.  Both
are read off the account of the device, which has the way of every call in it.
-/

/--
The calls on a device in a run from the start, and how those that set items do it.  For each
of them it is said which items were tried, which were set, and what was answered.
-/
structure ItemsSet (setup : Setup σ) (device : Address) (world : σ) (moves : List (Move σ))
    (calls : List (Carried σ)) : Prop where
  /--
  Each call that has begun answers once at most, and all that its code does is accounted
  for.  The calls are those of the history, in their order.
  -/
  account : Account setup device (begunCalls device (history setup (new setup world) moves))
    (spansOn setup device (new setup world) moves) (notesOn setup device (new setup world) moves)
    (answersOn device (history setup (new setup world) moves)) calls
  /--
  Each answer goes out as one frame, and nothing else while code of the device runs.  The
  link has to serve at that moment, or the answer is lost.
  -/
  handed : ∀ earlier move later, moves = earlier ++ move :: later →
    (run setup (new setup world) earlier).Serving →
    runsOn setup device (run setup (new setup world) earlier) move = true →
    (run setup (new setup world) (earlier ++ [move])).frames =
      (run setup (new setup world) earlier).frames ++
        (answersOn device (observe setup (run setup (new setup world) earlier) move)).map
          responseOf
  in_turn : ∀ carried ∈ calls, ∀ items, carried.call.call = .setProperties items →
    ∃ visits, SetsInTurn setup.handler device items carried.passage visits

/--
Calls that set items of lamps do so without a pause, up to the first one that is refused.
The lamp is left with the items before that one, and with nothing of the others.
-/
def LampsSet (device : Address) (calls : List (Carried Fleet)) : Prop :=
  ∀ carried ∈ calls, ∀ items, carried.call.call = .setProperties items →
    carried.passage.pauses = [] ∧ ∃ answer, carried.passage.answer? = some answer ∧
      Fleet.Applied device items carried.passage.before carried.passage.after answer

/--
Whatever account there is of a device, its items are set in turn.  Nothing else about the
run is needed.
-/
theorem itemsSet_of_account {setup : Setup σ} {device : Address} {world : σ}
    {moves : List (Move σ)} {calls : List (Carried σ)}
    (account : Account setup device (begunCalls device (history setup (new setup world) moves))
      (spansOn setup device (new setup world) moves)
      (notesOn setup device (new setup world) moves)
      (answersOn device (history setup (new setup world) moves)) calls) :
    ItemsSet setup device world moves calls where
  account := account
  handed := by
    rintro earlier move later - serving runs
    rw [run, List.foldl_concat]
    exact serving.handed runs
  in_turn := by
    intro carried inside items same
    have taken := account.taken carried inside
    rw [codeOf, Option.getD_none, same] at taken
    exact DeviceCall.exists_visits taken

theorem lampsSet_of_account {setup : Setup Fleet} (lamps : setup.handler = Fleet.handler)
    {device : Address} {begun : List Pool.WaitingCall} {spans : List (Fleet × Fleet)}
    {notes : List Note} {answers : List (UInt32 × Int32 × Json.Members)}
    {calls : List (Carried Fleet)}
    (account : Account setup device begun spans notes answers calls) :
    LampsSet device calls := by
  intro carried inside items same
  have taken := account.taken carried inside
  rw [codeOf, Option.getD_none, same, lamps] at taken
  exact Fleet.applied_of_takes taken

/--
A call sets its items in turn and stops at the first that is not set, whatever the device
code does; on a fleet of lamps the items before that one are what the lamp is left with.
Both parts hold of every run, with any interleaving of the tasks.
-/
theorem items_set_in_turn (device : Address) :
    (∀ {σ : Type} (setup : Setup σ) (world : σ) (moves : List (Move σ)),
        ∃ calls, ItemsSet setup device world moves calls) ∧
      ∀ (setup : Setup Fleet) (fleet : Fleet) (moves : List (Move Fleet)),
        let lamps := { setup with handler := Fleet.handler }
        ∃ calls, ItemsSet lamps device fleet moves calls ∧ LampsSet device calls := by
  constructor
  · intro σ setup world moves
    rcases exists_account setup device world moves with ⟨calls, account⟩
    exact ⟨calls, itemsSet_of_account account⟩
  · intro setup fleet moves lamps
    rcases exists_account lamps device fleet moves with ⟨calls, account⟩
    exact ⟨calls, itemsSet_of_account account, lampsSet_of_account rfl account⟩

/--
A lamp is switched on and sent a brightness that it does not have, then switched off.  All
three are items of a single call.
-/
def tooBright : List (Move Fleet) :=
  let device : Address := ⟨"house", "lamp"⟩
  [.submit (.invoke 7 device (.setProperties
      [⟨"power", .bool, "1"⟩, ⟨"brightness", .int, "101"⟩, ⟨"power", .bool, "0"⟩])),
    .step 0, .step 0]

/-- The lamp stays on, and the brightness is what is answered.  The last item is never tried. -/
example :
    let setup : Setup Fleet := ⟨Options.standard, Fleet.handler, false, none, .standard⟩
    let device : Address := ⟨"house", "lamp"⟩
    let start := new setup (Fleet.new [device])
    (answersOn device (history setup start tooBright)).map (fun answer => (answer.1, answer.2.1)) =
        [(7, 100007)] ∧
      (run setup start tooBright).world.lamp? device = some ⟨true, 0, false⟩ := by
  decide +kernel

end Core
end DeviceLink
