import DeviceLink.Fleet.Handler
import DeviceLink.Proofs.DeviceCall.Independence

namespace DeviceLink

/-!
The device code of a fleet of lamps serves each address from its own lamp.  Whether the
lamp has been announced makes no difference to it.  Lamps of other addresses may be set
meanwhile, and that makes no difference either.  `settings?` is the part of the fleet
that belongs to an address.  Two fleets with the same part for an address answer alike
there, and what is written for one address leaves the parts of all others, so the
handler of the fleet is one of those that keep devices apart.
-/

/-- What device code sees of a lamp.  Power and brightness are all that it can read or set. -/
def Lamp.settings (lamp : Lamp) : Bool × Fin (maxBrightness + 1) := (lamp.power, lamp.brightness)

namespace Lamp

variable {lamp other : Lamp} (same : lamp.settings = other.settings)

include same

theorem property_congr (key : String) : lamp.property key = other.property key := by
  have power_eq : lamp.power = other.power := congrArg Prod.fst same
  have brightness_eq : lamp.brightness = other.brightness := congrArg Prod.snd same
  unfold property powerDatum brightnessDatum
  rw [power_eq, brightness_eq]

theorem properties_congr (keys : List String) : lamp.properties keys = other.properties keys := by
  induction keys with
  | nil => rfl
  | cons key rest ih => rw [properties, properties, property_congr same, ih]

/--
Setting a property comes to the same for lamps that have the same settings.  Errors are the
same too.
-/
theorem set_congr (datum : Datum) :
    (lamp.set datum).map settings = (other.set datum).map settings := by
  rcases lamp with ⟨power, brightness, online⟩
  rcases other with ⟨power', brightness', online'⟩
  cases same
  unfold set setPower setBrightness
  split
  · split
    · split
      · rfl
      · split <;> rfl
    · rfl
  · split
    · split
      · split <;> rfl
      · rfl
    · rfl

end Lamp

namespace Fleet

theorem lamp?_modify (fleet : Fleet) (address other : Address) (change : Lamp → Lamp) :
    (fleet.modify address change).lamp? other =
      if other = address then (fleet.lamp? address).map change else fleet.lamp? other := by
  have same_key : ((fun entry : Address × Lamp => decide (entry.1 = other)) ∘
      fun entry => if entry.1 = address then (entry.1, change entry.2) else entry) =
        fun entry => decide (entry.1 = other) := by
    funext entry
    by_cases key : entry.1 = address <;> simp [key]
  unfold lamp? modify
  rw [List.find?_map, same_key, Option.map_map]
  split
  · next same =>
    subst same
    cases found : fleet.lamps.find? fun entry => decide (entry.1 = other) with
    | none => rfl
    | some entry =>
        have key : entry.1 = other := by simpa using List.find?_some found
        simp [key]
  · next apart =>
    cases found : fleet.lamps.find? fun entry => decide (entry.1 = other) with
    | none => rfl
    | some entry =>
        have key : entry.1 = other := by simpa using List.find?_some found
        have elsewhere : entry.1 ≠ address := key ▸ apart
        simp [elsewhere]

/--
What device code sees of the lamp at an address.  There is nothing to see where there is no
lamp.
-/
def settings? (address : Address) (fleet : Fleet) : Option (Bool × Fin (maxBrightness + 1)) :=
  (fleet.lamp? address).map Lamp.settings

theorem settings?_modify (fleet : Fleet) (address other : Address) (lamp : Lamp) :
    (fleet.modify address fun _ => lamp).settings? other =
      if other = address then (fleet.settings? address).map fun _ => lamp.settings
      else fleet.settings? other := by
  unfold settings?
  rw [lamp?_modify]
  split
  · rw [Option.map_map, Option.map_map]
    rfl
  · rfl

/--
Whatever succeeds in setting a property changes the addressed lamp alone.  What it becomes
is known as well.
-/
theorem exists_modify {fleet changed : Fleet} {address : Address} {datum : Datum}
    (set : fleet.setProperty address datum = .ok changed) :
    ∃ lamp, changed = fleet.modify address fun _ => lamp := by
  unfold setProperty at set
  split at set
  · cases set
  · split at set
    · cases set
    · cases set
      exact ⟨_, rfl⟩

/--
Results that are the same up to what a function forgets.  Either both fail with the same
error, or both succeed.
-/
theorem cases_of_map_eq {ε α β : Type} {forget : α → β} {first second : Except ε α}
    (same : first.map forget = second.map forget) :
    (∃ error, first = .error error ∧ second = .error error) ∨
      ∃ one other, first = .ok one ∧ second = .ok other ∧ forget one = forget other := by
  cases first with
  | error error =>
      cases second with
      | error other =>
          cases same
          exact .inl ⟨error, rfl, rfl⟩
      | ok other => cases same
  | ok one =>
      cases second with
      | error error => cases same
      | ok other => exact .inr ⟨one, other, rfl, rfl, Except.ok.inj same⟩

section

variable {first second : Fleet} {address : Address}
  (same : first.settings? address = second.settings? address)

include same

/--
The address leads to lamps with the same settings, or to none.  It is the same address in
both fleets.
-/
theorem find_congr :
    (first.find address).map Lamp.settings = (second.find address).map Lamp.settings := by
  unfold settings? at same
  unfold find
  cases here : first.lamp? address <;> cases there : second.lamp? address <;>
    rw [here, there] at same
  · cases same
  · cases same
  · exact congrArg Except.ok (Option.some.inj same)

/--
Setting a property of a lamp comes to the same in fleets that have the same settings there.
Whatever the other lamps are like, the result does not depend on them.
-/
theorem setProperty_congr (datum : Datum) :
    (∃ error, first.setProperty address datum = .error error ∧
        second.setProperty address datum = .error error) ∨
      ∃ one other, first.setProperty address datum = .ok (first.modify address fun _ => one) ∧
        second.setProperty address datum = .ok (second.modify address fun _ => other) ∧
        one.settings = other.settings := by
  unfold setProperty
  rcases cases_of_map_eq (find_congr same) with
    ⟨error, here, there⟩ | ⟨lamp, mate, here, there, alike⟩
  · exact .inl ⟨error, by rw [here], by rw [there]⟩
  · rw [here, there]
    rcases cases_of_map_eq (Lamp.set_congr alike datum) with
      ⟨error, here, there⟩ | ⟨one, other, here, there, alike⟩
    · exact .inl ⟨error, by simp only [here], by simp only [there]⟩
    · exact .inr ⟨one, other, by simp only [here], by simp only [there], alike⟩

theorem getProperties_congr (keys : List String) :
    first.getProperties address keys = second.getProperties address keys := by
  unfold getProperties
  rcases cases_of_map_eq (find_congr same) with
    ⟨error, here, there⟩ | ⟨lamp, mate, here, there, alike⟩
  · rw [here, there]
  · rw [here, there]
    exact Lamp.properties_congr alike keys

theorem callService_congr (service : String) :
    first.callService address service = second.callService address service := by
  unfold callService
  rcases cases_of_map_eq (find_congr same) with
    ⟨error, here, there⟩ | ⟨lamp, mate, here, there, -⟩ <;>
    rw [here, there]

end

/-- What is read or set depends on the addressed lamp.  Each callback is looked at by itself. -/
theorem independent_each : handler.Each fun device activity =>
    activity.Independent (settings? device) device where
  getProperties := by
    intro device keys
    refine ⟨fun first second same => ?_, fun fleet => ?_⟩
    · simp only [handler, readProperties, Activity.exhaust, getProperties_congr same keys]
      cases second.getProperties device keys <;> exact ⟨rfl, rfl, same⟩
    · dsimp only
      cases fleet.getProperties device keys <;> trivial
  setProperty := by
    intro device datum
    refine ⟨fun first second same => ?_, fun fleet => ?_⟩
    · rcases setProperty_congr same datum with
        ⟨error, here, there⟩ | ⟨lamp, mate, here, there, alike⟩
      · simp only [handler, writeProperty, Activity.exhaust, here, there]
        exact ⟨rfl, rfl, same⟩
      · simp only [handler, writeProperty, Activity.exhaust, here, there]
        refine ⟨rfl, rfl, ?_⟩
        rw [settings?_modify, settings?_modify, if_pos rfl, if_pos rfl, same, alike]
    · dsimp only
      cases fleet.setProperty device datum <;> trivial
  callService := by
    intro slots device service inputs outputs
    refine ⟨fun first second same => ?_, fun fleet => ?_⟩
    · simp only [handler, Activity.exhaust, callService_congr same service]
      cases second.callService device service <;> exact ⟨rfl, rfl, same⟩
    · dsimp only
      cases fleet.callService device service <;> trivial

/-- The settings of the other lamps stay as they are.  That is so also when the callback fails. -/
theorem spares_each (other : Address) : handler.Each fun device activity =>
    device ≠ other → activity.Leaves (settings? other) other where
  getProperties := by
    intro device keys _ fleet
    simp only [handler, readProperties, Activity.LeavesAt]
    cases fleet.getProperties device keys <;> trivial
  setProperty := by
    intro device datum apart fleet
    simp only [handler, writeProperty, Activity.LeavesAt]
    split
    · next changed set =>
      rcases exists_modify set with ⟨lamp, rfl⟩
      exact ⟨(settings?_modify fleet device other lamp).trans (if_neg apart.symm), trivial⟩
    · trivial
  callService := by
    intro slots device service inputs outputs _ fleet
    simp only [handler, Activity.LeavesAt]
    cases fleet.callService device service <;> trivial

theorem independent_handler : handler.Independent settings? :=
  ⟨independent_each, spares_each⟩

end Fleet
end DeviceLink
