import DeviceLink.Proofs.DeviceCall.Callbacks

namespace DeviceLink

/-!
Device code whose results and effects depend on nothing but its own part of the world.
Gates only delay such code: however often it is stopped at them, and whatever becomes of
the other parts meanwhile, it ends as if it had been let through at once.  `exhaust`
runs code through all its gates at once, and it is what the code is compared with.  A
handler is independent if each of its callbacks is, and if it leaves the parts of all
other devices as they are.
-/

/--
What has come of an activity in the end.  It is known from the world that the activity
begins in.
-/
structure Finish (σ α : Type) where
  world : σ
  notes : List Note
  outcome : Outcome α

namespace Activity

variable {σ α β π : Type}

/-- Run to the end, with every gate open.  It always has an end, since device code comes to one. -/
def exhaust (activity : Activity σ α) (world : σ) : Finish σ α :=
  match activity with
  | done value => ⟨world, [], .ok value⟩
  | fail error => ⟨world, [], .error error⟩
  | crash => ⟨world, [], .crashed⟩
  | note entry rest =>
      let finish := rest.exhaust world
      { finish with notes := entry :: finish.notes }
  | read rest => (rest world).exhaust world
  | write changed rest => rest.exhaust changed
  | wait _ rest => rest.exhaust world

/--
After a stretch of an activity, what is left of it leads to the same end.  So stretches may
be looked at one after the other.
-/
theorem exhaust_eq (activity : Activity σ α) (world : σ) :
    activity.exhaust world =
      match (activity.run world).progress with
      | .ended outcome => ⟨(activity.run world).world, (activity.run world).notes, outcome⟩
      | .atGate _ rest =>
          let finish := rest.exhaust (activity.run world).world
          { finish with notes := (activity.run world).notes ++ finish.notes } := by
  induction activity generalizing world with
  | done | fail | crash | wait => rfl
  | note entry rest ih =>
      rw [exhaust, ih, run]
      cases (rest.run world).progress <;> rfl
  | read rest ih => exact ih world world
  | write changed rest ih => exact ih changed

theorem exhaust_bind (activity : Activity σ α) (next : α → Activity σ β) (world : σ) :
    (activity.bind next).exhaust world =
      match (activity.exhaust world).outcome with
      | .ok value =>
          let finish := (next value).exhaust (activity.exhaust world).world
          { finish with notes := (activity.exhaust world).notes ++ finish.notes }
      | .error error =>
          ⟨(activity.exhaust world).world, (activity.exhaust world).notes, .error error⟩
      | .crashed => ⟨(activity.exhaust world).world, (activity.exhaust world).notes, .crashed⟩ := by
  induction activity generalizing world with
  | done | fail | crash => rfl
  | note entry rest ih =>
      rw [bind, exhaust, ih, exhaust]
      cases (rest.exhaust world).outcome <;> rfl
  | read rest ih => exact ih world world
  | write changed rest ih => exact ih changed
  | wait gate rest ih => exact ih world

/--
A device cannot tell two ends from each other.  It sees the same callbacks, the same outcome
and its own part of the world.
-/
structure Finish.Alike (view : σ → π) (device : Address) (first second : Finish σ α) : Prop where
  callbacks_eq : callbacks device first.notes = callbacks device second.notes
  outcome_eq : first.outcome = second.outcome
  view_eq : view first.world = view second.world

/--
The end depends on what a device sees of the world, and on nothing else.  Two worlds that
look alike to it lead to ends that do.
-/
def Uniform (view : σ → π) (device : Address) (activity : Activity σ α) : Prop :=
  ∀ first second, view first = view second →
    Finish.Alike view device (activity.exhaust first) (activity.exhaust second)

/-- Something holds of what is left at each gate.  It is asked of every gate that can be come to. -/
def BehindGates (holds : Activity σ α → Prop) : Activity σ α → Prop
  | done _ => True
  | fail _ => True
  | crash => True
  | note _ rest => rest.BehindGates holds
  | read rest => ∀ world, (rest world).BehindGates holds
  | write _ rest => rest.BehindGates holds
  | wait _ rest => holds rest ∧ rest.BehindGates holds

/--
From any gate on, the end depends on what a device sees of the world alone.  What the others
have done by then makes no difference.
-/
structure Independent (view : σ → π) (device : Address) (activity : Activity σ α) : Prop where
  uniform : activity.Uniform view device
  behind : activity.BehindGates (Uniform view device)

theorem BehindGates.run {holds : Activity σ α → Prop} {activity : Activity σ α}
    (behind : activity.BehindGates holds) {world : σ} {gate : String} {rest : Activity σ α}
    (arrives : (activity.run world).progress = .atGate gate rest) :
    holds rest ∧ rest.BehindGates holds := by
  induction activity generalizing world with
  | done | fail | crash => cases arrives
  | note entry later ih => exact ih behind arrives
  | read later ih => exact ih world (behind world) arrives
  | write changed later ih => exact ih behind arrives
  | wait gate later ih =>
      cases arrives
      exact behind

/--
What is left at a gate is as independent as the whole.  So independence is kept while a call
goes on.
-/
theorem Independent.run {view : σ → π} {device : Address} {activity : Activity σ α}
    (independent : activity.Independent view device) {world : σ} {gate : String}
    {rest : Activity σ α} (arrives : (activity.run world).progress = .atGate gate rest) :
    rest.Independent view device := by
  rcases independent.behind.run arrives with ⟨uniform, behind⟩
  exact ⟨uniform, behind⟩

section

variable {view : σ → π} {device : Address}

theorem uniform_note {entry : Note} {rest : Activity σ α} (uniform : rest.Uniform view device) :
    (note entry rest).Uniform view device := by
  intro first second same
  have alike := uniform first second same
  refine ⟨?_, alike.outcome_eq, alike.view_eq⟩
  have noted (world : σ) : callbacks device ((note entry rest).exhaust world).notes =
      callbacks device [entry] ++ callbacks device (rest.exhaust world).notes :=
    callbacks_append device [entry] _
  rw [noted, noted, alike.callbacks_eq]

theorem Uniform.bind {activity : Activity σ α} (uniform : activity.Uniform view device)
    {next : α → Activity σ β} (later : ∀ value, (next value).Uniform view device) :
    (activity.bind next).Uniform view device := by
  intro first second same
  have alike := uniform first second same
  rw [exhaust_bind, exhaust_bind, ← alike.outcome_eq]
  cases (activity.exhaust first).outcome with
  | ok value =>
      have goes_on := later value _ _ alike.view_eq
      refine ⟨?_, goes_on.outcome_eq, goes_on.view_eq⟩
      dsimp only
      rw [callbacks_append, callbacks_append, alike.callbacks_eq, goes_on.callbacks_eq]
  | error error => exact ⟨alike.callbacks_eq, rfl, alike.view_eq⟩
  | crashed => exact ⟨alike.callbacks_eq, rfl, alike.view_eq⟩

theorem independent_ofExcept (result : Except DeviceError α) :
    (ofExcept result : Activity σ α).Independent view device := by
  cases result with
  | ok value => exact ⟨fun _ _ same => ⟨rfl, rfl, same⟩, trivial⟩
  | error error => exact ⟨fun _ _ same => ⟨rfl, rfl, same⟩, trivial⟩

theorem independent_crash : (crash : Activity σ α).Independent view device :=
  ⟨fun _ _ same => ⟨rfl, rfl, same⟩, trivial⟩

theorem Independent.note {entry : Note} {rest : Activity σ α}
    (independent : rest.Independent view device) :
    (Activity.note entry rest).Independent view device :=
  ⟨uniform_note independent.uniform, independent.behind⟩

theorem Independent.bind {activity : Activity σ α} (independent : activity.Independent view device)
    {next : α → Activity σ β} (later : ∀ value, (next value).Independent view device) :
    (activity.bind next).Independent view device where
  uniform := independent.uniform.bind fun value => (later value).uniform
  behind := by
    rcases independent with ⟨-, behind⟩
    induction activity with
    | done value => exact (later value).behind
    | fail | crash => trivial
    | note entry rest ih => exact ih behind
    | read rest ih => exact fun world => ih world (behind world)
    | write changed rest ih => exact ih behind
    | wait gate rest ih => exact ⟨behind.1.bind fun value => (later value).uniform, ih behind.2⟩

end

end Activity

/--
A handler that serves each device from its own part of the world: what it does for a device
depends on the part of that device, and touches no other part.  That is what keeps devices
apart, and cores that serve them take it from here.
-/
structure Handler.Independent {σ π : Type} (view : Address → σ → π) (handler : Handler σ) :
    Prop where
  independent : handler.Each fun device activity => activity.Independent (view device) device
  spares : ∀ other, handler.Each fun device activity =>
    device ≠ other → activity.Leaves (view other) other

theorem DeviceCall.independent_perform {σ π : Type} {view : Address → σ → π} {handler : Handler σ}
    (each : handler.Each fun device activity => activity.Independent (view device) device)
    (slots : Nat) (device : Address) (call : DeviceCall) :
    (call.perform handler slots device).Independent (view device) device := by
  refine perform_of slots device (fun activity => activity.Independent (view device) device)
    Activity.independent_ofExcept Activity.independent_crash ?_ ?_ ?_ call
  · exact fun _ independent => independent.note
  · exact fun independent later => independent.bind later
  · exact ⟨fun _ keys same => same ▸ each.getProperties _ keys,
      fun _ datum same => same ▸ each.setProperty _ datum,
      fun _ service inputs outputs same => same ▸ each.callService _ service inputs outputs⟩

end DeviceLink
