import DeviceLink.Proofs.Core.Facet

namespace DeviceLink
namespace Core

variable {σ π : Type}

/-!
Code that leaves other devices alone.  As long as all code that runs for other devices
does, no move but one that runs the code of a device makes a callback on it or touches
what it sees of the world.  It is what lets one look at the calls on a single device
without knowing anything about the others.  `Spares` is what is asked of a handler, and
`Sparing` is that what other devices have begun in a pool is of this kind.  The frame
lemma at the end is the result: what the device sees before such a move it sees after
it.
-/

open Pool (Facet)

/--
Each device sees how things stand with its calls.  No two tasks have the same device, so
there is one way to see it.
-/
structure Faced (pool : Pool σ) : Prop where
  tidy : pool.Tidy
  shows : ∀ device, ∃ facet, pool.Shows device facet

theorem faced_new (options : Options) : Faced (Pool.new options : Pool σ) :=
  ⟨Pool.tidy_new options, fun device => ⟨.free, Pool.shows_new options device⟩⟩

theorem Faced.perform {core : Core σ} (faced : Faced core.pool) (setup : Setup σ)
    (move : Move σ) : Faced (Core.perform setup core move).pool where
  tidy := by
    rcases faced.shows ⟨"", ""⟩ with ⟨facet, shows⟩
    exact (advance setup faced.tidy shows move).1
  shows := by
    intro device
    rcases faced.shows device with ⟨facet, shows⟩
    rcases (advance setup faced.tidy shows move).2 with ⟨after, shown, -⟩
    exact ⟨after, shown⟩

/--
The code that runs for a device is that of the call which its lane is at.  It may be all of
its code or what is left of it.
-/
theorem driven_of_code {setup : Setup σ} {core : Core σ} {move : Move σ} {device : Address}
    {code : Activity σ Json.Members} {facet : Facet σ} (tidy : core.pool.Tidy)
    (shows : core.pool.Shows device facet) (runs : code? setup core move = some (device, code)) :
    ∃ call rest waiting, facet = .driven call rest waiting ∧
      code = codeOf setup device call rest := by
  rcases (advance setup tidy shows move).2 with ⟨after, -, way⟩
  generalize happeningsOn device (observe setup core move) = shown at way
  cases way with
  | aside _ elsewhere | join _ _ elsewhere => exact absurd runs (elsewhere code)
  | lose _ aborts =>
      cases move <;> cases aborts
      cases runs
  | goOn call rest waiting goes =>
      have same := runs.symm.trans goes
      exact ⟨call, rest, waiting, rfl, congrArg Prod.snd (Option.some.inj same)⟩

/--
What is left of the calls on other devices leaves a device alone.  They have begun earlier,
and stand at gates.
-/
def Sparing (view : σ → π) (device : Address) (pool : Pool σ) : Prop :=
  ∀ other call rest, other ≠ device → (call, some rest) ∈ Pool.drivers other pool.tasks →
    rest.Leaves view device

/--
What a handler does for other devices leaves a device alone.  Nothing is asked about what it
does for the device itself.
-/
def Spares (view : σ → π) (device : Address) (handler : Handler σ) : Prop :=
  handler.Each fun target activity => target ≠ device → activity.Leaves view device

/--
A handler that notes no callbacks makes none on other devices.  What it does to the world is
left open here.
-/
theorem spares_of_reticent {handler : Handler σ} (reticent : handler.Reticent)
    (device : Address) : Spares (fun _ => ()) device handler where
  getProperties := fun target keys _ => (reticent.getProperties target keys).leaves device
  setProperty := fun target datum _ => (reticent.setProperty target datum).leaves device
  callService := fun target service inputs outputs _ =>
    (reticent.callService target service inputs outputs).leaves device

section

variable {view : σ → π} {device : Address} {setup : Setup σ} {core : Core σ}

theorem sparing_new (view : σ → π) (device : Address) (options : Options) :
    Sparing view device (Pool.new options : Pool σ) := nofun

/--
Code of another device, at its beginning or later.  Both kinds are covered by what is
assumed.
-/
theorem leaves_codeOf (spares : Spares view device setup.handler)
    (sparing : Sparing view device core.pool) {other : Address} (apart : other ≠ device)
    {call : Pool.WaitingCall} {rest : Option (Activity σ Json.Members)}
    {waiting : List Pool.WaitingCall}
    (shows : core.pool.Shows other (.driven call rest waiting)) :
    (codeOf setup other call rest).Leaves view device := by
  cases rest with
  | none => exact DeviceCall.leaves_perform setup.options.outputSlots other apart spares call.call
  | some rest =>
      refine sparing other call rest apart ?_
      rw [shows.drivers_eq]
      exact List.mem_singleton_self _

theorem Sparing.perform (sparing : Sparing view device core.pool) (faced : Faced core.pool)
    (spares : Spares view device setup.handler) (move : Move σ) :
    Sparing view device (Core.perform setup core move).pool := by
  intro other call rest apart inside
  rcases faced.shows other with ⟨facet, shows⟩
  rcases (advance setup faced.tidy shows move).2 with ⟨after, shown, way⟩
  rw [shown.drivers_eq] at inside
  have before : (call, some rest) ∈ facet.drivers → rest.Leaves view device := by
    intro there
    exact sparing other call rest apart (shows.drivers_eq ▸ there)
  generalize happeningsOn other (observe setup core move) = happened at way
  cases way with
  | aside => exact before inside
  | join =>
      cases facet with
      | free => cases List.mem_singleton.mp inside
      | driven | stuck => exact before inside
  | lose => cases facet <;> cases inside
  | goOn call rest waiting =>
      have leaves := (leaves_codeOf spares sparing apart shows core.world).run
      unfold facetAfter at inside
      split at inside
      · cases waiting with
        | nil => cases inside
        | cons => cases List.mem_singleton.mp inside
      · next gate left progress =>
        cases List.mem_singleton.mp inside
        exact leaves.rest gate _ progress

/--
A move that runs no code of a device makes no callbacks on it and leaves its part alone.  It
may run the code of another one.
-/
theorem Sparing.frame (sparing : Sparing view device core.pool) (faced : Faced core.pool)
    (spares : Spares view device setup.handler) {move : Move σ}
    (elsewhere : ∀ code, code? setup core move ≠ some (device, code))
    (calm : ∀ world, move = .disturb world → view world = view core.world) :
    callbacks device (Core.perform setup core move).notes = callbacks device core.notes ∧
      view (Core.perform setup core move).world = view core.world := by
  cases runs : code? setup core move with
  | none =>
      by_cases disturbs : ∃ world, move = .disturb world
      · rcases disturbs with ⟨world, rfl⟩
        exact ⟨rfl, calm world rfl⟩
      · have quiet := quiet_perform runs fun world same => disturbs ⟨world, same⟩
        rw [quiet.notes_eq, quiet.world_eq]
        exact ⟨rfl, rfl⟩
  | some running =>
      rcases running with ⟨other, code⟩
      have apart : other ≠ device := by
        rintro rfl
        exact elsewhere code runs
      rcases faced.shows other with ⟨facet, shows⟩
      rcases driven_of_code faced.tidy shows runs with ⟨call, rest, waiting, rfl, rfl⟩
      have spared := (leaves_codeOf spares sparing apart shows core.world).run
      have ran := ran_perform runs
      rw [ran.notes_eq, ran.world_eq, callbacks_append, spared.callbacks_eq, List.append_nil]
      exact ⟨rfl, spared.view_eq⟩

end

end Core
end DeviceLink
