import DeviceLink.DeviceCall

namespace DeviceLink

/-!
The ways that device code can take.  Code is interrupted at gates and nowhere else, and
there anything may become of its world.  A passage tells where each stretch of the code
begins and ends; a passage through one activity and then another is put together from
passages through both of them.  `Takes` says that a passage is one of an activity, and
visits are the passages through the single items of a call that sets several.  What
becomes of the world between the stretches is up to the passage, so a statement about
all passages is one about all environments.
-/

open Json (Members)

/--
What an activity leaves at a gate, and what it finds there when it goes on.  Nothing is said
about what has come between the two.
-/
structure Pause (σ : Type) where
  left : σ
  found : σ

/-- A way that an activity has taken so far.  It may have come to its end, or stand at a gate. -/
structure Passage (σ α : Type) where
  before : σ
  pauses : List (Pause σ)
  notes : List Note
  after : σ
  progress : Progress σ α

namespace Passage

variable {σ α β : Type}

/--
A way that has come to the end of one more stretch.  The notes of the stretch are added to
those before.
-/
def arrive (before : σ) (pauses : List (Pause σ)) (notes : List Note) (stretch : Stretch σ α) :
    Passage σ α :=
  ⟨before, pauses, notes ++ stretch.notes, stretch.world, stretch.progress⟩

def noting (entry : Note) (passage : Passage σ α) : Passage σ α :=
  { passage with notes := entry :: passage.notes }

def withProgress (passage : Passage σ α) (progress : Progress σ β) : Passage σ β :=
  ⟨passage.before, passage.pauses, passage.notes, passage.after, progress⟩

def followedBy (first : Passage σ α) (second : Passage σ β) : Passage σ β :=
  ⟨first.before, first.pauses ++ second.pauses, first.notes ++ second.notes, second.after,
    second.progress⟩

/--
The world at the beginning and at the end of each stretch.  There is one stretch more than
there are pauses.
-/
def spans (passage : Passage σ α) : List (σ × σ) :=
  (passage.before :: passage.pauses.map Pause.found).zip
    (passage.pauses.map Pause.left ++ [passage.after])

/-- One more stretch is one more span.  The spans before it stay as they are. -/
theorem spans_arrive (passage : Passage σ α) (found : σ) (notes : List Note)
    (stretch : Stretch σ β) :
    (arrive passage.before (passage.pauses ++ [⟨passage.after, found⟩]) notes stretch).spans =
      passage.spans ++ [(found, stretch.world)] := by
  have same : (passage.before :: passage.pauses.map Pause.found).length =
      (passage.pauses.map Pause.left ++ [passage.after]).length := by simp
  simp only [spans, arrive, List.map_append, List.map_cons, List.map_nil]
  rw [← List.cons_append, List.zip_append same]
  rfl

/-- The answer to a call that has come to its end.  One that stands at a gate has none. -/
def answer? (passage : Passage σ Members) : Option (Int32 × Members) :=
  match passage.progress with
  | .ended outcome => some (DeviceCall.answer outcome)
  | .atGate _ _ => none

end Passage

namespace Activity

variable {σ α β γ : Type} {activity : Activity σ α} {next : α → Activity σ β}

/-- The ways that an activity can take.  Whatever world is found at a gate, there is a way on. -/
inductive Takes (activity : Activity σ α) : Passage σ α → Prop
  | setOut (world : σ) : Takes activity (.arrive world [] [] (activity.run world))
  | goOn {passage : Passage σ α} (taken : Takes activity passage) {gate : String}
      {rest : Activity σ α} (waits : passage.progress = .atGate gate rest) (found : σ) :
      Takes activity (.arrive passage.before (passage.pauses ++ [⟨passage.after, found⟩])
        passage.notes (rest.run found))

/--
An activity that comes to no gate takes its way in one stretch.  It is determined by the
world that it begins in.
-/
theorem Takes.eq_of_gateless (gateless : ∀ world gate rest,
      (activity.run world).progress ≠ .atGate gate rest)
    {passage : Passage σ α} (taken : activity.Takes passage) :
    passage = .arrive passage.before [] [] (activity.run passage.before) := by
  induction taken with
  | setOut world => rfl
  | goOn _ waits _ ih =>
      rw [ih] at waits
      exact absurd waits (gateless _ _ _)

theorem bind_assoc (activity : Activity σ α) (next : α → Activity σ β) (last : β → Activity σ γ) :
    (activity.bind next).bind last = activity.bind fun value => (next value).bind last := by
  induction activity with
  | done | fail | crash => rfl
  | note entry rest ih => exact congrArg (note entry) ih
  | read rest ih => exact congrArg read (funext ih)
  | write changed rest ih => exact congrArg (write changed) ih
  | wait gate rest ih => exact congrArg (wait gate) ih

/--
What is known of a stretch when an activity follows another.  The second activity may begin
within the same stretch.
-/
theorem run_bind (activity : Activity σ α) (next : α → Activity σ β) (world : σ) :
    (activity.bind next).run world =
      match (activity.run world).progress with
      | .ended (.ok value) =>
          let later := (next value).run (activity.run world).world
          { later with notes := (activity.run world).notes ++ later.notes }
      | .ended (.error error) =>
          ⟨(activity.run world).world, (activity.run world).notes, .ended (.error error)⟩
      | .ended .crashed => ⟨(activity.run world).world, (activity.run world).notes, .ended .crashed⟩
      | .atGate gate rest =>
          ⟨(activity.run world).world, (activity.run world).notes,
            .atGate gate (rest.bind next)⟩ := by
  induction activity generalizing world with
  | done | fail | crash | wait => rfl
  | note entry rest ih =>
      rw [bind, run, ih, run]
      rcases (rest.run world).progress with ⟨value | error | _⟩ | ⟨gate, later⟩ <;> rfl
  | read rest ih => exact ih world world
  | write changed rest ih => exact ih changed

/--
How a passage through the first of two activities goes on as one through both.  It fails or
crashes with the first, stands where the first stands, or goes on with the second.
-/
inductive Continues (next : α → Activity σ β) (first : Passage σ α) : Passage σ β → Prop
  | fails {error : DeviceError} (ended : first.progress = .ended (.error error)) :
      Continues next first (first.withProgress (.ended (.error error)))
  | crashes (ended : first.progress = .ended .crashed) :
      Continues next first (first.withProgress (.ended .crashed))
  | waits {gate : String} {rest : Activity σ α} (arrives : first.progress = .atGate gate rest) :
      Continues next first (first.withProgress (.atGate gate (rest.bind next)))
  | goesOn {value : α} {second : Passage σ β} (ended : first.progress = .ended (.ok value))
      (taken : (next value).Takes second) (joined : second.before = first.after) :
      Continues next first (first.followedBy second)

theorem continues_arrive (before : σ) (pauses : List (Pause σ)) (notes : List Note)
    (activity : Activity σ α) (next : α → Activity σ β) (world : σ) :
    Continues next (.arrive before pauses notes (activity.run world))
      (.arrive before pauses notes ((activity.bind next).run world)) := by
  rw [run_bind]
  cases progress : (activity.run world).progress with
  | atGate gate rest => exact .waits progress
  | ended outcome =>
      cases outcome with
      | error error => exact .fails progress
      | crashed => exact .crashes progress
      | ok value =>
          let first : Passage σ α := .arrive before pauses notes (activity.run world)
          have on : Continues next first (first.followedBy _) :=
            .goesOn progress (.setOut (activity.run world).world) rfl
          simpa only [first, Passage.followedBy, Passage.arrive, List.append_nil, List.nil_append,
            List.append_assoc] using on

/--
A passage through two activities begins with one through the first.  The second one is only
begun where the first has ended well.
-/
theorem Takes.exists_first {whole : Passage σ β} (taken : (activity.bind next).Takes whole) :
    ∃ first, activity.Takes first ∧ Continues next first whole := by
  induction taken with
  | setOut world => exact ⟨_, .setOut world, continues_arrive world [] [] activity next world⟩
  | goOn taken waits found ih =>
      rcases ih with ⟨first, reached, continues⟩
      cases continues with
      | fails | crashes => cases waits
      | waits arrives =>
          cases waits
          exact ⟨_, reached.goOn arrives found, continues_arrive _ _ _ _ next found⟩
      | goesOn ended later joined =>
          have on := Continues.goesOn ended (later.goOn waits found) joined
          refine ⟨first, reached, ?_⟩
          simpa only [Passage.followedBy, Passage.arrive, List.append_assoc] using on

theorem Takes.exists_noting {entry : Note} {passage : Passage σ α}
    (taken : (note entry activity).Takes passage) :
    ∃ later, activity.Takes later ∧ passage = later.noting entry := by
  induction taken with
  | setOut world => exact ⟨_, .setOut world, rfl⟩
  | goOn _ waits found ih =>
      rcases ih with ⟨later, reached, rfl⟩
      exact ⟨_, reached.goOn waits found, rfl⟩

end Activity

/-! ## Calls that set properties -/

variable {σ : Type}

/--
One item of a call, and the way that setting it has taken.  An item that was not come to has
none.
-/
structure Visit (σ : Type) where
  item : Datum
  passage : Passage σ Unit

/--
What becomes of a call that comes to an item which is not set, or not yet.  It ends as the
item has ended, or waits where the item waits.
-/
structure Visit.Stops (visit : Visit σ) (call : Passage σ Members) : Prop where
  refused : ∀ error, visit.passage.progress = .ended (.error error) →
    call.answer? = some (error.code.number, [])
  crashed : visit.passage.progress = .ended .crashed →
    call.answer? = some (ResultCode.unknown.number, [])
  waiting : ∀ gate rest, visit.passage.progress = .atGate gate rest → call.answer? = none

/--
A call sets the items in their order, up to the first one that is not set.  It has a visit
for every item that was tried.
-/
structure SetsInTurn (handler : Handler σ) (device : Address) (items : List Datum)
    (call : Passage σ Members) (visits : List (Visit σ)) : Prop where
  taken : ∀ visit ∈ visits, (handler.setProperty device visit.item).Takes visit.passage
  in_order : visits.map Visit.item <+: items
  /--
  No item is tried behind one that has not been set.  Only the last visit can have come to
  something else.
  -/
  succeeded : ∀ visit ∈ visits.dropLast, visit.passage.progress = .ended (.ok ())
  /--
  Each item is set in the world that the one before it left, and so is the call left.  Gates
  are inside the visits, so none is left between them.
  -/
  worlds_eq : visits.map (fun visit => visit.passage.before) ++ [call.after] =
    call.before :: visits.map fun visit => visit.passage.after
  pauses_eq : call.pauses = visits.flatMap fun visit => visit.passage.pauses
  notes_eq : call.notes = visits.flatMap fun visit =>
    .setProperty device visit.item :: visit.passage.notes
  accepted : (∀ visit ∈ visits, visit.passage.progress = .ended (.ok ())) →
    visits.map Visit.item = items ∧ call.answer? = some (ResultCode.success.number, [])
  stops : ∀ visit ∈ visits, visit.Stops call

section

variable {handler : Handler σ} {device : Address} {item : Datum} {items : List Datum}
  {first : Passage σ Unit} {call : Passage σ Members} {visits : List (Visit σ)}

theorem Visit.stops_of_ok {visit : Visit σ} (ended : visit.passage.progress = .ended (.ok ()))
    (call : Passage σ Members) : visit.Stops call := by
  refine ⟨fun error failed => ?_, fun crashed => ?_, fun gate rest waits => ?_⟩
  · rw [ended] at failed
    cases failed
  · rw [ended] at crashed
    cases crashed
  · rw [ended] at waits
    cases waits

/-- A call that has nothing to set.  It ends at once, and well. -/
theorem setsInTurn_nil (handler : Handler σ) (device : Address) (world : σ) :
    SetsInTurn handler device [] ⟨world, [], [], world, .ended (.ok [])⟩ [] where
  taken := nofun
  in_order := List.prefix_rfl
  succeeded := nofun
  worlds_eq := rfl
  pauses_eq := rfl
  notes_eq := rfl
  accepted := fun _ => ⟨rfl, rfl⟩
  stops := nofun

/-- A call ends at an item that is not set.  The items behind it have no visit. -/
theorem setsInTurn_stop (taken : (handler.setProperty device item).Takes first)
    (unset : first.progress ≠ .ended (.ok ())) {progress : Progress σ Members}
    (stops : Visit.Stops ⟨item, first⟩ (first.withProgress progress)) :
    SetsInTurn handler device (item :: items)
      ((first.withProgress progress).noting (.setProperty device item)) [⟨item, first⟩] where
  taken := List.forall_mem_singleton.mpr taken
  in_order := ⟨items, rfl⟩
  succeeded := nofun
  worlds_eq := rfl
  pauses_eq := (List.append_nil _).symm
  notes_eq := (List.append_nil _).symm
  accepted := fun all => absurd (all _ List.mem_cons_self) unset
  stops := List.forall_mem_singleton.mpr ⟨stops.refused, stops.crashed, stops.waiting⟩

/--
A call that has set an item goes on with the others.  Their visits follow the one of that
item.
-/
theorem SetsInTurn.cons (later : SetsInTurn handler device items call visits)
    (taken : (handler.setProperty device item).Takes first)
    (ended : first.progress = .ended (.ok ())) (joined : call.before = first.after) :
    SetsInTurn handler device (item :: items)
      ((first.followedBy call).noting (.setProperty device item)) (⟨item, first⟩ :: visits) where
  taken := List.forall_mem_cons.mpr ⟨taken, later.taken⟩
  in_order := List.cons_prefix_cons.mpr ⟨rfl, later.in_order⟩
  succeeded := by
    intro visit inside
    cases visits with
    | nil => cases inside
    | cons next rest =>
        rcases List.mem_cons.mp inside with rfl | behind
        · exact ended
        · exact later.succeeded visit behind
  worlds_eq := by
    have chained := later.worlds_eq
    rw [joined] at chained
    exact congrArg (first.before :: ·) chained
  pauses_eq := congrArg (first.pauses ++ ·) later.pauses_eq
  notes_eq := congrArg (.setProperty device item :: first.notes ++ ·) later.notes_eq
  accepted := by
    intro all
    have rest := later.accepted fun visit inside => all visit (List.mem_cons_of_mem _ inside)
    exact ⟨congrArg (item :: ·) rest.1, rest.2⟩
  stops := by
    refine List.forall_mem_cons.mpr ⟨Visit.stops_of_ok ended _, fun visit inside => ?_⟩
    have stops := later.stops visit inside
    exact ⟨stops.refused, stops.crashed, stops.waiting⟩

end

namespace DeviceCall

/--
The first item is set, and then the others.  That is how a call with several items comes
apart.
-/
theorem perform_setProperties_cons (handler : Handler σ) (slots : Nat) (device : Address)
    (item : Datum) (items : List Datum) :
    (setProperties (item :: items)).perform handler slots device =
      .note (.setProperty device item) ((handler.setProperty device item).bind fun _ =>
        (setProperties items).perform handler slots device) :=
  congrArg (Activity.note _) (Activity.bind_assoc _ _ _)

/-- Whatever way a call takes, it sets the items in turn.  The visits can be read off that way. -/
theorem exists_visits {handler : Handler σ} {slots : Nat} {device : Address} {items : List Datum}
    {call : Passage σ Members}
    (taken : ((setProperties items).perform handler slots device).Takes call) :
    ∃ visits, SetsInTurn handler device items call visits := by
  induction items generalizing call with
  | nil =>
      have once := taken.eq_of_gateless nofun
      rw [once]
      exact ⟨[], setsInTurn_nil handler device call.before⟩
  | cons item items ih =>
      rw [perform_setProperties_cons] at taken
      rcases taken.exists_noting with ⟨passage, bound, rfl⟩
      rcases bound.exists_first with ⟨first, reached, continues⟩
      cases continues with
      | fails ended =>
          refine ⟨_, setsInTurn_stop reached (ended ▸ nofun) ⟨?_, ?_, ?_⟩⟩ <;> rw [ended]
          · rintro _ ⟨rfl⟩
            rfl
          · exact nofun
          · exact nofun
      | crashes ended =>
          refine ⟨_, setsInTurn_stop reached (ended ▸ nofun) ⟨?_, ?_, ?_⟩⟩ <;> rw [ended]
          · exact nofun
          · exact fun _ => rfl
          · exact nofun
      | waits arrives =>
          exact ⟨_, setsInTurn_stop reached (arrives ▸ nofun) ⟨arrives ▸ nofun, arrives ▸ nofun,
            fun _ _ _ => rfl⟩⟩
      | goesOn ended later joined =>
          rcases ih later with ⟨visits, in_turn⟩
          exact ⟨_, in_turn.cons reached ended joined⟩

end DeviceCall
end DeviceLink
