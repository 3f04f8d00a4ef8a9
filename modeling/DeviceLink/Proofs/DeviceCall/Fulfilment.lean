import DeviceLink.Proofs.Datum.Codec
import DeviceLink.Proofs.DeviceCall.Passages
import Mathlib.Data.List.TakeWhile

namespace DeviceLink

/-!
What the answer to a call tells about the call.  A call is fulfilled if all its
callbacks have returned and the data that they returned are fit to be sent.  Nothing
else has a payload; the code of a callback that fails goes out as it is.  `Fulfils` and
`Refuses` are the two ways in which a call can end with something to say, and `Truthful`
compares the answer with them.  All of it is about one call and the way that its code
has taken, so it does not matter what else was going on.
-/

open Json (Members)

/-! ## The one callback of a call -/

section

variable {σ α : Type} {activity : Activity σ α}

/--
A call makes one callback, and does nothing else.  Its stretches are those of the callback,
with a note in front.
-/
def Passage.Makes (call : Passage σ Members) (entry : Note) (callback : Passage σ α) : Prop :=
  call = (callback.withProgress call.progress).noting entry

/-- How a call ends whose one callback has ended.  What was returned has to be fit to be sent. -/
def Outcome.concluded (conclude : α → Except DeviceError Members) : Outcome α → Outcome Members
  | ok value =>
      match conclude value with
      | .ok payload => .ok payload
      | .error failure => .error failure
  | error failure => .error failure
  | crashed => .crashed

/--
The way of an activity depends on the worlds that it finds, and on nothing else.  Two ways
that find the same worlds are the same.
-/
theorem Activity.Takes.eq_of_pauses {first second : Passage σ α} (taken : activity.Takes first)
    (other : activity.Takes second) (before_eq : first.before = second.before)
    (pauses_eq : first.pauses = second.pauses) : first = second := by
  induction taken generalizing second with
  | setOut world =>
      cases other with
      | setOut other =>
          cases before_eq
          rfl
      | goOn => exact absurd pauses_eq.symm (List.concat_ne_nil _ _)
  | goOn reached waits found ih =>
      cases other with
      | setOut => exact absurd pauses_eq (List.concat_ne_nil _ _)
      | goOn others stands later =>
          rcases List.append_inj' pauses_eq rfl with ⟨earlier_eq, last_eq⟩
          cases ih others before_eq earlier_eq
          cases waits.symm.trans stands
          cases last_eq
          rfl

/--
A call that is answered has made its callback, and the callback has ended.  It has ended
before, or there would be no answer.
-/
theorem Activity.Takes.exists_callback {entry : Note} {conclude : α → Except DeviceError Members}
    {call : Passage σ Members} {answer : Int32 × Members}
    (taken : (note entry (activity.bind fun value => ofExcept (conclude value))).Takes call)
    (answered : call.answer? = some answer) :
    ∃ callback outcome, activity.Takes callback ∧ callback.progress = .ended outcome ∧
      call.Makes entry callback ∧ answer = DeviceCall.answer (outcome.concluded conclude) := by
  rcases taken.exists_noting with ⟨way, bound, rfl⟩
  rcases bound.exists_first with ⟨callback, reached, continues⟩
  cases continues with
  | waits => cases answered
  | fails ended | crashes ended =>
      exact ⟨callback, _, reached, ended, rfl, (Option.some.inj answered).symm⟩
  | @goesOn value second ended later joined =>
      have gateless : ∀ world gate rest,
          ((ofExcept (conclude value) : Activity σ Members).run world).progress ≠
            .atGate gate rest := by
        intro world gate rest
        cases conclude value <;> exact nofun
      have once := later.eq_of_gateless gateless
      refine ⟨callback, .ok value, reached, ended, ?_, ?_⟩
      · rw [once, joined]
        cases conclude value <;>
          simp only [Passage.Makes, Passage.followedBy, Passage.arrive, Passage.noting,
            Passage.withProgress, ofExcept, run, List.append_nil]
      · rw [once] at answered
        rw [Outcome.concluded]
        cases made : conclude value <;> rw [made] at answered <;>
          exact (Option.some.inj answered).symm

/--
There is no other callback that a call could have made.  Its way is determined by that of
the call.
-/
theorem Passage.Makes.unique {call : Passage σ Members} {entry : Note}
    {first second : Passage σ α} (makes : call.Makes entry first)
    (taken : activity.Takes first) (other : call.Makes entry second)
    (reached : activity.Takes second) : first = second := by
  have before_eq : call.before = first.before := congrArg Passage.before makes
  have pauses_eq : call.pauses = first.pauses := congrArg Passage.pauses makes
  refine taken.eq_of_pauses reached ?_ ?_
  · exact before_eq.symm.trans (congrArg Passage.before other)
  · exact pauses_eq.symm.trans (congrArg Passage.pauses other)

end

namespace DeviceCall

/-! ## Output slots -/

/-- The first output slots, up to one that is unused.  They are what a service has filled. -/
structure Used {slots : Nat} (outputs : Vector Datum slots) (used : List Datum) : Prop where
  filled : ∀ datum ∈ used, datum.key ≠ ""
  /--
  The slot behind them is unused, if there is one.  It is the first one of which that can be
  said.
  -/
  ends : ∃ unused, outputs.toList = used ++ unused ∧ ∀ datum ∈ unused.head?, datum.key = ""

section

variable {slots : Nat} {outputs : Vector Datum slots} {used : List Datum}

theorem isFilled_iff {datum : Datum} : (!datum.isEmpty) = true ↔ datum.key ≠ "" := by
  rw [Datum.isEmpty, Bool.not_eq_true', ← Bool.not_eq_true, String.isEmpty_iff]

theorem usedSlots_eq (outputs : Vector Datum slots) :
    usedSlots outputs = outputs.toList.takeWhile fun datum => !datum.isEmpty :=
  Array.toList_takeWhile

theorem used_usedSlots (outputs : Vector Datum slots) : Used outputs (usedSlots outputs) := by
  rw [usedSlots_eq]
  refine ⟨fun datum inside => ?_, _, List.takeWhile_append_dropWhile.symm, fun datum behind => ?_⟩
  · have filled := List.mem_takeWhile_imp inside
    exact isFilled_iff.mp filled
  · have stops := List.head?_dropWhile_not (fun datum : Datum => !datum.isEmpty) outputs.toList
    rw [Option.mem_def.mp behind] at stops
    exact not_not.mp fun filled => Bool.false_ne_true (stops.symm.trans (isFilled_iff.mpr filled))

/--
There is only one way to tell the used slots from the others.  So the slots that are sent
are those that are meant.
-/
theorem Used.eq_usedSlots (uses : Used outputs used) : used = usedSlots outputs := by
  rcases uses.ends with ⟨unused, same, ends⟩
  rw [usedSlots_eq, same,
    List.takeWhile_append_of_pos fun datum inside => isFilled_iff.mpr (uses.filled datum inside)]
  cases unused with
  | nil => rw [List.takeWhile_nil, List.append_nil]
  | cons next rest =>
      have stops : (!next.isEmpty) = false := by
        rw [Datum.isEmpty, ends next rfl]
        rfl
      rw [List.takeWhile_cons, stops]
      exact (List.append_nil used).symm

/--
There are no more of them than there are slots.  A service that fills all slots has them all
sent.
-/
theorem Used.length_le (uses : Used outputs used) : used.length ≤ slots := by
  rcases uses.ends with ⟨unused, same, -⟩
  have total := congrArg List.length same
  rw [Vector.length_toList, List.length_append] at total
  omega

end

/-! ## What a call returns -/

variable {σ : Type}

section

variable (handler : Handler σ) (slots : Nat) (device : Address) (way : Passage σ Members)

/--
All callbacks of a call have returned, and this is what is to be sent under a name.  A call
that sets items has nothing to send.
-/
inductive Returns : DeviceCall → Option (String × List Datum) → Prop
  | read {keys : List String} {callback : Passage σ (List Datum)} {values : List Datum}
      (taken : (handler.getProperties device keys).Takes callback)
      (makes : way.Makes (.getProperties device keys) callback)
      (returned : callback.progress = .ended (.ok values)) :
      Returns (.getProperties keys) (some (Method.propertiesField, values))
  | set {items : List Datum} {visits : List (Visit σ)}
      (in_turn : SetsInTurn handler device items way visits)
      (all : visits.map Visit.item = items)
      (returned : ∀ visit ∈ visits, visit.passage.progress = .ended (.ok ())) :
      Returns (.setProperties items) none
  | served {service : String} {inputs : List Datum} {callback : Passage σ (Vector Datum slots)}
      {outputs : Vector Datum slots} {used : List Datum}
      (taken : (handler.callService device service inputs
        (Vector.replicate slots Datum.empty)).Takes callback)
      (makes : way.Makes (.callService device service inputs slots) callback)
      (returned : callback.progress = .ended (.ok outputs)) (uses : Used outputs used) :
      Returns (.callService service inputs) (some (Method.outputDataField, used))

/--
A callback of a call has failed with an error.  There is one such callback at most, since
the call stops there.
-/
inductive Refuses : DeviceCall → DeviceError → Prop
  | read {keys : List String} {callback : Passage σ (List Datum)} {error : DeviceError}
      (taken : (handler.getProperties device keys).Takes callback)
      (makes : way.Makes (.getProperties device keys) callback)
      (failed : callback.progress = .ended (.error error)) : Refuses (.getProperties keys) error
  | set {items : List Datum} {visits : List (Visit σ)} {visit : Visit σ} {error : DeviceError}
      (in_turn : SetsInTurn handler device items way visits) (made : visit ∈ visits)
      (failed : visit.passage.progress = .ended (.error error)) :
      Refuses (.setProperties items) error
  | served {service : String} {inputs : List Datum} {callback : Passage σ (Vector Datum slots)}
      {error : DeviceError}
      (taken : (handler.callService device service inputs
        (Vector.replicate slots Datum.empty)).Takes callback)
      (makes : way.Makes (.callService device service inputs slots) callback)
      (failed : callback.progress = .ended (.error error)) :
      Refuses (.callService service inputs) error

end

/--
What is to be sent is fit for it, and this is the payload.  Its data keep the limits, and
all of them can be written.
-/
inductive Sendable : Option (String × List Datum) → Members → Prop
  | nothing : Sendable none []
  | data {field : String} {values : List Datum} {wire : Json.Value}
      (within : ∀ datum ∈ values, datum.WithinLimits)
      (encoded : Datum.encode values = .ok wire) : Sendable (some (field, values)) [(field, wire)]

/--
All that a call asks for has been done, and its answer should have this payload.  It says
nothing about what the answer is.
-/
def Fulfils (handler : Handler σ) (slots : Nat) (device : Address) (way : Passage σ Members)
    (call : DeviceCall) (payload : Members) : Prop :=
  ∃ given, Returns handler slots device way call given ∧ Sendable given payload

/-- What the answer to a call tells.  The fields relate it to what the callbacks have returned. -/
structure Truthful (handler : Handler σ) (slots : Nat) (device : Address)
    (way : Passage σ Members) (call : DeviceCall) (answer : Int32 × Members) : Prop where
  fulfilled : ∀ payload, Fulfils handler slots device way call payload → answer = (0, payload)
  /-- The code of an error goes out as it is.  Even that of success does. -/
  refused : ∀ error, Refuses handler slots device way call error → answer = (error.code.number, [])
  success : answer.1 = 0 → (∃ payload, Fulfils handler slots device way call payload) ∨
    ∃ error, Refuses handler slots device way call error ∧ error.code = .success
  unfulfilled : (∀ payload, ¬Fulfils handler slots device way call payload) → answer.2 = []
  /-- No more is sent than there are output slots.  The slots are those that the options ask for. -/
  limited : ∀ service inputs field values, call = .callService service inputs →
    Returns handler slots device way call (some (field, values)) → values.length ≤ slots

section

theorem firstLimitFault?_eq_none_iff {values : List Datum} :
    Datum.firstLimitFault? values = none ↔ ∀ datum ∈ values, datum.WithinLimits := by
  simp only [Datum.firstLimitFault?, List.findSome?_eq_none_iff, Datum.limitFault?_eq_none_iff]

theorem sendable_iff {field : String} {values : List Datum} {payload : Members} :
    Sendable (some (field, values)) payload ↔ encodeAnswer field values = .ok payload := by
  rw [encodeAnswer]
  constructor
  · intro sendable
    cases sendable with
    | data within encoded => simp only [firstLimitFault?_eq_none_iff.mpr within, encoded]
  · intro made
    split at made
    · cases made
    next within =>
    split at made
    · next encoded =>
      cases made
      exact .data (firstLimitFault?_eq_none_iff.mp within) encoded
    · cases made

/--
Data that are not fit to be sent are an invalid parameter.  That is told to the gateway as
if it had sent them.
-/
theorem code_of_encodeAnswer {field : String} {values : List Datum} {error : DeviceError}
    (unfit : encodeAnswer field values = .error error) : error.code = .invalidParameter := by
  rw [encodeAnswer] at unfit
  split at unfit
  · cases unfit
    rfl
  · split at unfit
    · cases unfit
    · cases unfit
      rfl

theorem code_eq_success {code : ResultCode} (same : code.number = 0) : code = .success := by
  cases code <;> first | rfl | exact absurd same (by decide)

variable {handler : Handler σ} {slots : Nat} {device : Address} {way : Passage σ Members}
  {call : DeviceCall} {answer : Int32 × Members}

/--
A call that makes one callback and sends what that returns.  Calls that read properties and
calls of services are of this kind.
-/
theorem truthful_of_callback {α : Type} {activity : Activity σ α} {entry : Note} {field : String}
    {data : α → List Datum}
    (taken : (Activity.note entry (activity.bind fun value =>
      .ofExcept (encodeAnswer field (data value)))).Takes way)
    (answered : way.answer? = some answer)
    (returns_iff : ∀ given, Returns handler slots device way call given ↔
      ∃ callback value, activity.Takes callback ∧ way.Makes entry callback ∧
        callback.progress = .ended (.ok value) ∧ given = some (field, data value))
    (refuses_iff : ∀ error, Refuses handler slots device way call error ↔
      ∃ callback, activity.Takes callback ∧ way.Makes entry callback ∧
        callback.progress = .ended (.error error))
    (limited : ∀ service inputs field values, call = .callService service inputs →
      Returns handler slots device way call (some (field, values)) → values.length ≤ slots) :
    Truthful handler slots device way call answer := by
  rcases taken.exists_callback answered with ⟨callback, outcome, reached, ended, makes, rfl⟩
  have only {other : Passage σ α} (there : activity.Takes other) (its : way.Makes entry other) :
      other.progress = .ended outcome := makes.unique reached its there ▸ ended
  have fulfils {value : α} {payload : Members} (returned : outcome = .ok value)
      (made : encodeAnswer field (data value) = .ok payload) :
      Fulfils handler slots device way call payload :=
    ⟨_, (returns_iff _).mpr ⟨callback, value, reached, makes, returned ▸ ended, rfl⟩,
      sendable_iff.mpr made⟩
  refine ⟨?_, ?_, ?_, ?_, limited⟩
  · rintro payload ⟨given, returns, sendable⟩
    rcases (returns_iff given).mp returns with ⟨other, value, there, its, returned, rfl⟩
    cases returned.symm.trans (only there its)
    simp only [Outcome.concluded, sendable_iff.mp sendable]
    rfl
  · intro error refuses
    rcases (refuses_iff error).mp refuses with ⟨other, there, its, failed⟩
    cases failed.symm.trans (only there its)
    rfl
  · intro success
    cases outcome with
    | ok value =>
        cases made : encodeAnswer field (data value) with
        | ok payload => exact .inl ⟨payload, fulfils rfl made⟩
        | error error =>
            simp only [Outcome.concluded, made, answer, code_of_encodeAnswer made] at success
            cases success
    | error error =>
        exact .inr ⟨error, (refuses_iff error).mpr ⟨callback, reached, makes, ended⟩,
          code_eq_success success⟩
    | crashed => cases success
  · intro unfulfilled
    cases outcome with
    | ok value =>
        cases made : encodeAnswer field (data value) with
        | ok payload => exact absurd (fulfils rfl made) (unfulfilled payload)
        | error error =>
            simp only [Outcome.concluded, made]
            rfl
    | error | crashed => rfl

/--
A call that sets items is answered when all are set, or at the first that is not.  The code
of the first failure is that of the answer.
-/
theorem answer_of_visits {items : List Datum} {visits : List (Visit σ)}
    (in_turn : SetsInTurn handler device items way visits) (answered : way.answer? = some answer) :
    (∀ visit ∈ visits, visit.passage.progress = .ended (.ok ())) ∨
      (∃ error, Refuses handler slots device way (.setProperties items) error ∧
        answer = (error.code.number, [])) ∨
      answer = (ResultCode.unknown.number, []) := by
  by_cases all : ∀ visit ∈ visits, visit.passage.progress = .ended (.ok ())
  · exact .inl all
  · push Not at all
    rcases all with ⟨visit, made, unset⟩
    have stops := in_turn.stops visit made
    cases progress : visit.passage.progress with
    | atGate gate rest => cases answered.symm.trans (stops.waiting gate rest progress)
    | ended outcome =>
        cases outcome with
        | ok => exact absurd progress unset
        | error error =>
            have same := answered.symm.trans (stops.refused error progress)
            exact .inr (.inl ⟨error, .set in_turn made progress, Option.some.inj same⟩)
        | crashed =>
            have same := answered.symm.trans (stops.crashed progress)
            exact .inr (.inr (Option.some.inj same))

theorem truthful_of_visits {items : List Datum}
    (taken : ((setProperties items).perform handler slots device).Takes way)
    (answered : way.answer? = some answer) :
    Truthful handler slots device way (.setProperties items) answer := by
  rcases exists_visits taken with ⟨visits, in_turn⟩
  have fulfils (all : ∀ visit ∈ visits, visit.passage.progress = .ended (.ok ())) :
      Fulfils handler slots device way (.setProperties items) [] :=
    ⟨none, .set in_turn (in_turn.accepted all).1 all, .nothing⟩
  have cases_of : (∀ visit ∈ visits, visit.passage.progress = .ended (.ok ())) ∨
      (∃ error, Refuses handler slots device way (.setProperties items) error ∧
        answer = (error.code.number, [])) ∨
      answer = (ResultCode.unknown.number, []) := answer_of_visits in_turn answered
  refine ⟨?_, ?_, ?_, ?_, nofun⟩
  · rintro payload ⟨given, returns, sendable⟩
    cases returns with
    | set others _ returned =>
        cases sendable
        exact Option.some.inj (answered.symm.trans (others.accepted returned).2)
  · intro error refuses
    cases refuses with
    | set others made failed =>
        exact Option.some.inj (answered.symm.trans ((others.stops _ made).refused error failed))
  · intro success
    rcases cases_of with all | ⟨error, refuses, rfl⟩ | rfl
    · exact .inl ⟨[], fulfils all⟩
    · exact .inr ⟨error, refuses, code_eq_success success⟩
    · cases success
  · intro unfulfilled
    rcases cases_of with all | ⟨error, -, rfl⟩ | rfl
    · exact absurd (fulfils all) (unfulfilled [])
    · rfl
    · rfl

/--
No callback is made on more output slots than can be laid out.  The answer is that of a
crash.
-/
theorem truthful_of_crash {service : String} {inputs : List Datum}
    (taken : (Activity.crash : Activity σ Members).Takes way)
    (answered : way.answer? = some answer) :
    Truthful handler slots device way (.callService service inputs) answer := by
  have once := taken.eq_of_gateless nofun
  have uncalled {callback : Passage σ (Vector Datum slots)} {entry : Note} :
      ¬way.Makes entry callback := by
    intro makes
    have noted := congrArg Passage.notes (once.symm.trans makes)
    cases noted
  rw [once] at answered
  cases answered
  refine ⟨?_, ?_, nofun, fun _ => rfl, ?_⟩
  · rintro payload ⟨given, returns, -⟩
    cases returns with
    | served _ makes => exact absurd makes uncalled
  · intro error refuses
    cases refuses with
    | served _ makes => exact absurd makes uncalled
  · intro service inputs field values _ returns
    cases returns with
    | served _ makes => exact absurd makes uncalled

/-! What the one callback of a call comes to. -/

theorem returns_getProperties_iff {keys : List String} {given : Option (String × List Datum)} :
    Returns handler slots device way (.getProperties keys) given ↔
      ∃ callback values, (handler.getProperties device keys).Takes callback ∧
        way.Makes (.getProperties device keys) callback ∧
        callback.progress = .ended (.ok values) ∧
        given = some (Method.propertiesField, values) := by
  constructor
  · intro returns
    cases returns with
    | read taken makes returned => exact ⟨_, _, taken, makes, returned, rfl⟩
  · rintro ⟨callback, values, taken, makes, returned, rfl⟩
    exact .read taken makes returned

theorem refuses_getProperties_iff {keys : List String} {error : DeviceError} :
    Refuses handler slots device way (.getProperties keys) error ↔
      ∃ callback, (handler.getProperties device keys).Takes callback ∧
        way.Makes (.getProperties device keys) callback ∧
        callback.progress = .ended (.error error) := by
  constructor
  · intro refuses
    cases refuses with
    | read taken makes failed => exact ⟨_, taken, makes, failed⟩
  · rintro ⟨callback, taken, makes, failed⟩
    exact .read taken makes failed

theorem returns_callService_iff {service : String} {inputs : List Datum}
    {given : Option (String × List Datum)} :
    Returns handler slots device way (.callService service inputs) given ↔
      ∃ callback outputs, (handler.callService device service inputs
          (Vector.replicate slots Datum.empty)).Takes callback ∧
        way.Makes (.callService device service inputs slots) callback ∧
        callback.progress = .ended (.ok outputs) ∧
        given = some (Method.outputDataField, usedSlots outputs) := by
  constructor
  · intro returns
    cases returns with
    | served taken makes returned uses =>
        rw [uses.eq_usedSlots]
        exact ⟨_, _, taken, makes, returned, rfl⟩
  · rintro ⟨callback, outputs, taken, makes, returned, rfl⟩
    exact .served taken makes returned (used_usedSlots outputs)

theorem refuses_callService_iff {service : String} {inputs : List Datum} {error : DeviceError} :
    Refuses handler slots device way (.callService service inputs) error ↔
      ∃ callback, (handler.callService device service inputs
          (Vector.replicate slots Datum.empty)).Takes callback ∧
        way.Makes (.callService device service inputs slots) callback ∧
        callback.progress = .ended (.error error) := by
  constructor
  · intro refuses
    cases refuses with
    | served taken makes failed => exact ⟨_, taken, makes, failed⟩
  · rintro ⟨callback, taken, makes, failed⟩
    exact .served taken makes failed

/--
Every answer to a call tells the truth, as far as the errors of the device code do.  There
is one case for each kind of call.
-/
theorem truthful_of_takes (taken : (call.perform handler slots device).Takes way)
    (answered : way.answer? = some answer) : Truthful handler slots device way call answer := by
  cases call with
  | getProperties keys =>
      exact truthful_of_callback taken answered (fun _ => returns_getProperties_iff)
        (fun _ => refuses_getProperties_iff) nofun
  | setProperties items => exact truthful_of_visits taken answered
  | callService service inputs =>
      rw [perform] at taken
      split at taken
      · exact truthful_of_crash taken answered
      · refine truthful_of_callback taken answered (fun _ => returns_callService_iff)
          (fun _ => refuses_callService_iff) ?_
        rintro _ _ field values - returns
        cases returns with
        | served _ _ _ uses => exact uses.length_le

end

end DeviceCall
end DeviceLink
