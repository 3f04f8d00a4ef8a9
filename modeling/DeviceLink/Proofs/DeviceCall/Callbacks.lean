import DeviceLink.DeviceCall

namespace DeviceLink

/-!
The callbacks of a call.  A call notes each callback before device code is entered, so
the notes about a device tell which callbacks were made on it: an initial part of those
that the call asks for, as long as device code itself notes none.  `Follows` says of
code that it makes the callbacks of a script in their order, as far as it comes, and
`Leaves` says that it makes none on a device and keeps what that device sees of the
world.  Handlers that note no callbacks of their own are called reticent.
-/

/--
The device that a note is about, if it is about a callback.  Notes that device code makes
about gates are about none.
-/
def Note.device? : Note → Option Address
  | getProperties device _ => some device
  | setProperty device _ => some device
  | callService device _ _ _ => some device
  | resumed _ => none

/-- The notes about the callbacks on a device.  They keep their order. -/
def callbacks (device : Address) (notes : List Note) : List Note :=
  notes.filter fun note => note.device? = some device

theorem callbacks_append (device : Address) (first second : List Note) :
    callbacks device (first ++ second) = callbacks device first ++ callbacks device second :=
  List.filter_append first second

theorem callbacks_cons_of_eq {device : Address} {note : Note} (about : note.device? = some device)
    (notes : List Note) : callbacks device (note :: notes) = note :: callbacks device notes :=
  List.filter_cons_of_pos (decide_eq_true about)

theorem callbacks_cons_of_ne {device : Address} {note : Note} (other : note.device? ≠ some device)
    (notes : List Note) : callbacks device (note :: notes) = callbacks device notes :=
  List.filter_cons_of_neg (by simpa using other)

namespace Activity

variable {σ α β π : Type}

/-- No callback is noted.  That is asked of every way in which the activity may go on. -/
def Reticent : Activity σ α → Prop
  | done _ => True
  | fail _ => True
  | crash => True
  | note entry rest => entry.device? = none ∧ rest.Reticent
  | read rest => ∀ world, (rest world).Reticent
  | write _ rest => rest.Reticent
  | wait _ rest => rest.Reticent

/--
The callbacks on a device are those of a script, up to some point in it.  An activity may
end before the script does.
-/
def Follows (device : Address) : Activity σ α → List Note → Prop
  | done _, _ => True
  | fail _, _ => True
  | crash, _ => True
  | note entry rest, script =>
      if entry.device? = some device then
        ∃ later, script = entry :: later ∧ rest.Follows device later
      else rest.Follows device script
  | read rest, script => ∀ world, (rest world).Follows device script
  | write _ rest, script => rest.Follows device script
  | wait _ rest, script => rest.Follows device script

/--
From a world on, no callback on a device is noted, and what it sees stays as it is.  What it
sees may be changed by others at gates, and the activity has to keep to it then too.
-/
def LeavesAt (view : σ → π) (device : Address) : Activity σ α → σ → Prop
  | done _, _ => True
  | fail _, _ => True
  | crash, _ => True
  | note entry rest, world => entry.device? ≠ some device ∧ rest.LeavesAt view device world
  | read rest, world => (rest world).LeavesAt view device world
  | write changed rest, world => view changed = view world ∧ rest.LeavesAt view device changed
  | wait _ rest, _ => ∀ world, rest.LeavesAt view device world

/-- A device is left alone.  That holds from every world on. -/
def Leaves (view : σ → π) (device : Address) (activity : Activity σ α) : Prop :=
  ∀ world, activity.LeavesAt view device world

section

variable {view : σ → π} {device : Address}

/-! What holds of an activity holds of its stretches. -/

theorem Follows.run {activity : Activity σ α} {script : List Note}
    (follows : activity.Follows device script) (world : σ) :
    ∃ left, script = callbacks device (activity.run world).notes ++ left ∧
      ∀ gate rest, (activity.run world).progress = .atGate gate rest →
        rest.Follows device left := by
  induction activity generalizing script world with
  | done | fail | crash => exact ⟨script, rfl, nofun⟩
  | note entry rest ih =>
      rw [Follows] at follows
      split at follows
      · next onDevice =>
        rcases follows with ⟨later, rfl, follows⟩
        rcases ih follows world with ⟨left, rfl, goes_on⟩
        exact ⟨left, by rw [Activity.run, callbacks_cons_of_eq onDevice]; rfl, goes_on⟩
      · next elsewhere =>
        rcases ih follows world with ⟨left, rfl, goes_on⟩
        exact ⟨left, by rw [Activity.run, callbacks_cons_of_ne elsewhere], goes_on⟩
  | read rest ih => exact ih world (follows world) world
  | write changed rest ih => exact ih follows changed
  | wait gate rest ih =>
      refine ⟨script, rfl, fun _ _ arrives => ?_⟩
      cases arrives
      exact follows

/-- Nothing happens to a device that is left alone.  One stretch is looked at here. -/
structure Spared (view : σ → π) (device : Address) (world : σ) (stretch : Stretch σ α) : Prop where
  callbacks_eq : callbacks device stretch.notes = []
  view_eq : view stretch.world = view world
  rest : ∀ gate rest, stretch.progress = .atGate gate rest → rest.Leaves view device

theorem LeavesAt.run {activity : Activity σ α} {world : σ}
    (leaves : activity.LeavesAt view device world) :
    Spared view device world (activity.run world) := by
  induction activity generalizing world with
  | done | fail | crash => exact ⟨rfl, rfl, nofun⟩
  | note entry rest ih =>
      have spared := ih leaves.2
      refine ⟨?_, spared.view_eq, spared.rest⟩
      rw [Activity.run, callbacks_cons_of_ne leaves.1]
      exact spared.callbacks_eq
  | read rest ih => exact ih world leaves
  | write changed rest ih =>
      have spared := ih leaves.2
      exact ⟨spared.callbacks_eq, spared.view_eq.trans leaves.1, spared.rest⟩
  | wait gate rest ih =>
      refine ⟨rfl, rfl, fun _ _ arrives => ?_⟩
      cases arrives
      exact leaves

/-! Building activities. -/

theorem Follows.note {entry : Note} {rest : Activity σ α} {script : List Note}
    (about : entry.device? = some device) (follows : rest.Follows device script) :
    (Activity.note entry rest).Follows device (entry :: script) := by
  rw [Follows, if_pos about]
  exact ⟨script, rfl, follows⟩

theorem Reticent.follows_bind {activity : Activity σ α} (reticent : activity.Reticent)
    {next : α → Activity σ β} {script : List Note}
    (later : ∀ value, (next value).Follows device script) :
    (activity.bind next).Follows device script := by
  induction activity with
  | done value => exact later value
  | fail | crash => trivial
  | note entry rest ih =>
      rw [bind, Follows, if_neg (by rw [reticent.1]; exact nofun)]
      exact ih reticent.2
  | read rest ih => exact fun world => ih world (reticent world)
  | write _ rest ih | wait _ rest ih => exact ih reticent

/--
As long as nobody looks at the world, only the notes count.  Such a view is one that sees
nothing.
-/
theorem Reticent.leaves {activity : Activity σ α} (reticent : activity.Reticent)
    (device : Address) : activity.Leaves (fun _ => ()) device := by
  intro world
  induction activity generalizing world with
  | done | fail | crash => trivial
  | note entry rest ih => exact ⟨by rw [reticent.1]; exact nofun, ih reticent.2 world⟩
  | read rest ih => exact ih world (reticent world) world
  | write changed rest ih => exact ⟨rfl, ih reticent changed⟩
  | wait _ rest ih => exact fun world => ih reticent world

theorem LeavesAt.bind {activity : Activity σ α} {next : α → Activity σ β} {world : σ}
    (leaves : activity.LeavesAt view device world)
    (later : ∀ value, (next value).Leaves view device) :
    (activity.bind next).LeavesAt view device world := by
  induction activity generalizing world with
  | done value => exact later value world
  | fail | crash => trivial
  | note entry rest ih => exact ⟨leaves.1, ih leaves.2⟩
  | read rest ih => exact ih world leaves
  | write changed rest ih => exact ⟨leaves.1, ih leaves.2⟩
  | wait _ rest ih => exact fun world => ih (leaves world)

theorem Leaves.bind {activity : Activity σ α} {next : α → Activity σ β}
    (leaves : activity.Leaves view device) (later : ∀ value, (next value).Leaves view device) :
    (activity.bind next).Leaves view device := fun world => (leaves world).bind later

end

end Activity

namespace Handler

variable {σ π : Type}

/--
Something holds of all device code, whichever device it is for.  The three callbacks are
treated alike.
-/
structure Each (holds : ∀ {α : Type}, Address → Activity σ α → Prop) (handler : Handler σ) :
    Prop where
  getProperties : ∀ device keys, holds device (handler.getProperties device keys)
  setProperty : ∀ device datum, holds device (handler.setProperty device datum)
  callService : ∀ {slots : Nat} device service inputs (outputs : Vector Datum slots),
    holds device (handler.callService device service inputs outputs)

/--
Device code notes no callbacks itself.  So a note about a callback shows that the callback
was made.
-/
def Reticent (handler : Handler σ) : Prop := handler.Each fun _ activity => activity.Reticent

/-- Two handlers do the same on a call.  Only the callbacks that the call asks for are compared. -/
def Agree (slots : Nat) (first second : Handler σ) (device : Address) : DeviceCall → Prop
  | .getProperties keys => first.getProperties device keys = second.getProperties device keys
  | .setProperties items =>
      ∀ item ∈ items, first.setProperty device item = second.setProperty device item
  | .callService service inputs =>
      first.callService device service inputs (Vector.replicate slots Datum.empty) =
        second.callService device service inputs (Vector.replicate slots Datum.empty)

end Handler

namespace DeviceCall

variable {σ π : Type}

/--
The callbacks that a call asks for, as they are noted.  A call that sets items asks for one
for each of them.
-/
def callbacks (slots : Nat) (device : Address) : DeviceCall → List Note
  | getProperties keys => [.getProperties device keys]
  | setProperties items => items.map (.setProperty device)
  | callService service inputs => [.callService device service inputs slots]

section

variable {handler : Handler σ} (slots : Nat) (device : Address)

/--
A call does what its parts do, if that is kept when they are put together.  The parts are
callbacks, notes about them, and ends.
-/
theorem perform_of (holds : ∀ {α : Type}, Activity σ α → Prop)
    (ends : ∀ {α : Type} (result : Except DeviceError α), holds (.ofExcept result))
    (crashes : ∀ {α : Type}, holds (.crash : Activity σ α))
    (notes : ∀ {α : Type} {entry : Note} {rest : Activity σ α}, entry.device? = some device →
      holds rest → holds (.note entry rest))
    (binds : ∀ {α β : Type} {activity : Activity σ α} {next : α → Activity σ β},
      holds activity → (∀ value, holds (next value)) → holds (activity.bind next))
    (each : handler.Each fun target activity => target = device → holds activity)
    (call : DeviceCall) : holds (call.perform handler slots device) := by
  cases call with
  | getProperties keys =>
      exact notes rfl (binds (each.getProperties device keys rfl) fun values => ends _)
  | setProperties items =>
      have set : holds (setAll handler device items) := by
        induction items with
        | nil => exact ends (.ok ())
        | cons item rest ih =>
            exact notes rfl (binds (each.setProperty device item rfl) fun _ => ih)
      exact binds set fun _ => ends (.ok [])
  | callService service inputs =>
      rw [perform]
      split
      · exact crashes
      · exact notes rfl (binds (each.callService device service inputs _ rfl) fun outputs => ends _)

theorem follows_ofExcept {α : Type} (target : Address) (result : Except DeviceError α)
    (script : List Note) : (Activity.ofExcept result : Activity σ α).Follows target script := by
  cases result <;> trivial

theorem follows_setAll (reticent : handler.Reticent) (items : List Datum) :
    (setAll handler device items).Follows device (items.map (.setProperty device)) := by
  induction items with
  | nil => trivial
  | cons item rest ih =>
      exact .note rfl ((reticent.setProperty device item).follows_bind fun _ => ih)

theorem follows_bind_done {α β : Type} {activity : Activity σ α} {script : List Note}
    (follows : activity.Follows device script) (value : β) :
    (activity.bind fun _ => .done value).Follows device script := by
  induction activity generalizing script with
  | done | fail | crash => trivial
  | note entry rest ih =>
      rw [Activity.bind]
      rw [Activity.Follows] at follows ⊢
      split at follows
      · next onDevice =>
        rw [if_pos onDevice]
        rcases follows with ⟨later, same, follows⟩
        exact ⟨later, same, ih follows⟩
      · next elsewhere =>
        rw [if_neg elsewhere]
        exact ih follows
  | read rest ih => exact fun world => ih world (follows world)
  | write _ rest ih | wait _ rest ih => exact ih follows

/--
A call makes no callbacks but those that it asks for, in their order.  Those that are left
out come at the end.
-/
theorem follows_perform (reticent : handler.Reticent) (call : DeviceCall) :
    (call.perform handler slots device).Follows device (call.callbacks slots device) := by
  cases call with
  | getProperties keys =>
      exact .note rfl ((reticent.getProperties device keys).follows_bind fun values =>
        follows_ofExcept device _ [])
  | setProperties items => exact follows_bind_done device (follows_setAll device reticent items) []
  | callService service inputs =>
      rw [perform]
      split
      · trivial
      · exact .note rfl ((reticent.callService device service inputs _).follows_bind fun outputs =>
          follows_ofExcept device _ [])

/--
A call on one device leaves another alone, if the device code does.  The notes of the call
itself name its own device.
-/
theorem leaves_perform {view : σ → π} {other : Address} (apart : device ≠ other)
    (each : handler.Each fun target activity => target ≠ other → activity.Leaves view other)
    (call : DeviceCall) : (call.perform handler slots device).Leaves view other := by
  refine perform_of slots device (fun activity => activity.Leaves view other) ?_ ?_ ?_ ?_ ?_ call
  · intro α result world
    cases result <;> trivial
  · intro α world
    trivial
  · intro α entry rest about leaves world
    refine ⟨?_, leaves world⟩
    rw [about]
    exact fun same => apart (Option.some.inj same)
  · exact fun leaves later => leaves.bind later
  · exact ⟨fun _ keys same => each.getProperties _ keys (same ▸ apart),
      fun _ datum same => each.setProperty _ datum (same ▸ apart),
      fun _ service inputs outputs same => each.callService _ service inputs outputs (same ▸ apart)⟩

end

theorem setAll_congr {first second : Handler σ} (device : Address) {items : List Datum}
    (same : ∀ item ∈ items, first.setProperty device item = second.setProperty device item) :
    setAll first device items = setAll second device items := by
  induction items with
  | nil => rfl
  | cons item rest ih =>
      rw [List.forall_mem_cons] at same
      rw [setAll, setAll, same.1, ih same.2]

/--
A call looks at a handler in the places that it names, and nowhere else.  So handlers that
agree there cannot be told apart by it.
-/
theorem perform_congr {first second : Handler σ} {slots : Nat} {device : Address}
    {call : DeviceCall} (agree : Handler.Agree slots first second device call) :
    call.perform first slots device = call.perform second slots device := by
  cases call with
  | getProperties keys =>
      have same : first.getProperties device keys = second.getProperties device keys := agree
      rw [perform, perform, same]
  | setProperties items => rw [perform, perform, setAll_congr device agree]
  | callService service inputs =>
      have same : first.callService device service inputs (Vector.replicate slots Datum.empty) =
        second.callService device service inputs (Vector.replicate slots Datum.empty) := agree
      rw [perform, perform, same]

end DeviceCall
end DeviceLink
