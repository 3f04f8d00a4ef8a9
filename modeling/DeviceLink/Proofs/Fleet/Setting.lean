import DeviceLink.Proofs.DeviceCall.Passages
import DeviceLink.Proofs.Fleet.Independence

namespace DeviceLink

/-!
Setting several properties of a lamp.  The lamp ends up as the items that it accepted
made it, one after the other, and the first item that it does not accept is the last one
that it sees.  Every other lamp stays as it was.  `Applied` tells for a list of items
which of them were accepted and what became of the lamp.  It is the meaning of a call
that sets properties, as far as this handler is concerned, and every passage through
such a call has it.
-/

open Json (Members)

/--
How setting the rest of a list of items is answered.  The code is that of the first refusal,
or of success.
-/
inductive Lamp.Answers (lamp : Lamp) : List Datum → Int32 × Members → Prop
  | done : Answers lamp [] (ResultCode.success.number, [])
  | refused {item : Datum} {items : List Datum} {error : DeviceError}
      (refused : lamp.set item = .error error) :
      Answers lamp (item :: items) (error.code.number, [])

namespace Fleet

/--
What becomes of a fleet when items are set on a device.  The lamp and the answer are told,
and the other lamps are as they were.
-/
structure Applied (device : Address) (items : List Datum) (before after : Fleet)
    (answer : Int32 × Members) : Prop where
  order_eq : after.order = before.order
  others : ∀ other, other ≠ device → after.lamp? other = before.lamp? other
  unknown : before.lamp? device = none → after = before ∧
    answer = (if items.isEmpty then ResultCode.success.number
      else ResultCode.invalidParameter.number, [])
  known : ∀ lamp, before.lamp? device = some lamp → ∃ applied left final,
    items = applied ++ left ∧ applied.foldlM Lamp.set lamp = .ok final ∧
      after.lamp? device = some final ∧ final.Answers left answer

section

variable {device : Address} {item : Datum} {items : List Datum} {fleet : Fleet} {lamp : Lamp}

theorem setProperty_unknown (absent : fleet.lamp? device = none) (item : Datum) :
    ∃ error, fleet.setProperty device item = .error error ∧ error.code = .invalidParameter := by
  unfold setProperty find
  rw [absent]
  exact ⟨_, rfl, rfl⟩

theorem setProperty_known (there : fleet.lamp? device = some lamp) (item : Datum) :
    fleet.setProperty device item =
      (lamp.set item).map fun changed => fleet.modify device fun _ => changed := by
  unfold setProperty find
  rw [there]
  dsimp only
  cases lamp.set item <;> rfl

theorem applied_nil (device : Address) (fleet : Fleet) :
    Applied device [] fleet fleet (ResultCode.success.number, []) where
  order_eq := rfl
  others := fun _ _ => rfl
  unknown := fun _ => ⟨rfl, rfl⟩
  known := fun lamp there => ⟨[], [], lamp, rfl, rfl, there, .done⟩

/-- An item that is refused leaves everything as it is.  The items behind it are not looked at. -/
theorem applied_refused {error : DeviceError}
    (refused : fleet.setProperty device item = .error error) :
    Applied device (item :: items) fleet fleet (error.code.number, []) where
  order_eq := rfl
  others := fun _ _ => rfl
  unknown := by
    intro absent
    rcases setProperty_unknown absent item with ⟨fault, failed, code⟩
    rw [failed] at refused
    cases refused
    rw [code]
    exact ⟨rfl, rfl⟩
  known := by
    intro lamp there
    refine ⟨[], item :: items, lamp, rfl, rfl, there, .refused ?_⟩
    rw [setProperty_known there] at refused
    cases set : lamp.set item with
    | ok changed =>
        rw [set] at refused
        cases refused
    | error fault =>
        rw [set] at refused
        cases refused
        rfl

/-- After an item that is accepted come the others.  They find the lamp as that item has left it. -/
theorem Applied.cons {changed after : Fleet} {answer : Int32 × Members}
    (set : fleet.setProperty device item = .ok changed)
    (later : Applied device items changed after answer) :
    Applied device (item :: items) fleet after answer := by
  cases there : fleet.lamp? device with
  | none =>
      rcases setProperty_unknown there item with ⟨fault, failed, -⟩
      rw [failed] at set
      cases set
  | some lamp =>
      rw [setProperty_known there] at set
      cases made : lamp.set item with
      | error fault =>
          rw [made] at set
          cases set
      | ok next =>
          rw [made] at set
          cases set
          have here : (fleet.modify device fun _ => next).lamp? device = some next := by
            rw [lamp?_modify, if_pos rfl, there]
            rfl
          refine ⟨later.order_eq, fun other apart => ?_, fun absent => ?_, ?_⟩
          · rw [later.others other apart, lamp?_modify, if_neg apart]
          · rw [there] at absent
            cases absent
          · intro found same
            rw [there] at same
            cases same
            rcases later.known next here with ⟨applied, left, final, rfl, folded, ends, answers⟩
            refine ⟨item :: applied, left, final, rfl, ?_, ends, answers⟩
            rw [List.foldlM_cons, made]
            exact folded

/-- A call that sets items of a lamp never waits.  Whatever it sets is set in a single stretch. -/
theorem run_setProperties (slots : Nat) (device : Address) (items : List Datum) (fleet : Fleet) :
    let stretch := ((DeviceCall.setProperties items).perform handler slots device).run fleet
    ∃ outcome, stretch.progress = .ended outcome ∧
      Applied device items fleet stretch.world (DeviceCall.answer outcome) := by
  induction items generalizing fleet with
  | nil => exact ⟨.ok [], rfl, applied_nil device fleet⟩
  | cons item items ih =>
      rw [DeviceCall.perform_setProperties_cons]
      simp only [Activity.run, Activity.run_bind, handler, writeProperty]
      cases set : fleet.setProperty device item with
      | error error => exact ⟨.error error, rfl, applied_refused set⟩
      | ok changed =>
          rcases ih changed with ⟨outcome, ended, applied⟩
          exact ⟨outcome, ended, .cons set applied⟩

/-- Whatever way it takes is that one stretch.  There is no gate at which it could be kept. -/
theorem applied_of_takes {slots : Nat} {call : Passage Fleet Members}
    (taken : ((DeviceCall.setProperties items).perform handler slots device).Takes call) :
    call.pauses = [] ∧ ∃ answer, call.answer? = some answer ∧
      Applied device items call.before call.after answer := by
  have gateless : ∀ fleet gate rest,
      (((DeviceCall.setProperties items).perform handler slots device).run fleet).progress ≠
        .atGate gate rest := by
    intro fleet gate rest waits
    rcases run_setProperties slots device items fleet with ⟨outcome, ended, -⟩
    rw [ended] at waits
    cases waits
  rcases run_setProperties slots device items call.before with ⟨outcome, ended, applied⟩
  rw [taken.eq_of_gateless gateless]
  refine ⟨rfl, DeviceCall.answer outcome, ?_, applied⟩
  simp only [Passage.answer?, Passage.arrive, ended]

end

end Fleet
end DeviceLink
