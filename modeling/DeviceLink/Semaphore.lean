namespace DeviceLink

/-!
Permits with a fair queue.  Whoever waits longest is served first, and a permit that is
given back goes straight to the head of the queue, so free permits and waiting tasks
never exist together.  The waiting ones are known by their task numbers alone.  The
workers of the pool and the gates of device code are both made of it.  A gate starts
without permits and is opened for a number of passages; a permit of the pool is given
back at the end of each job.
-/

structure Semaphore where
  free : Nat
  waiters : List Nat
  deriving DecidableEq, Repr

namespace Semaphore

/-- No semaphore has more permits than this.  Asking for one that would have more is a crash. -/
def permitLimit : Nat := 0x1FFFFFFFFFFFFFFF

def new (permits : Nat) : Semaphore := ⟨permits, []⟩

/--
Take a permit if one is free.  There is no result otherwise, and joining the queue is a step
of its own.
-/
def take? (semaphore : Semaphore) : Option Semaphore :=
  match semaphore.free with
  | 0 => none
  | left + 1 => some { semaphore with free := left }

/-- Wait behind everybody who waits already.  Nobody is ever put in front of somebody else. -/
def enqueue (semaphore : Semaphore) (task : Nat) : Semaphore :=
  { semaphore with waiters := semaphore.waiters ++ [task] }

/--
Give back permits; the answer lists the tasks that received one, in the order of the queue.
What is left over after that is free.
-/
def release (semaphore : Semaphore) (permits : Nat) : Semaphore × List Nat :=
  (⟨semaphore.free + (permits - semaphore.waiters.length), semaphore.waiters.drop permits⟩,
    semaphore.waiters.take permits)

/-- Leave the queue.  A task that does not wait leaves nothing behind. -/
def forget (semaphore : Semaphore) (task : Nat) : Semaphore :=
  { semaphore with waiters := semaphore.waiters.filter fun other => other ≠ task }

theorem release_one_of_waiters (free task : Nat) (rest : List Nat) :
    release ⟨free, task :: rest⟩ 1 = (⟨free, rest⟩, [task]) := by
  simp [release]

theorem release_one_of_none (free : Nat) : release ⟨free, []⟩ 1 = (⟨free + 1, []⟩, []) := rfl

end Semaphore

/--
Semaphores by name; a gate nobody has mentioned yet has no permits.  Gates are made when
somebody waits at them or opens them.
-/
abbrev Gates := List (String × Semaphore)

namespace Gates

def get (gates : Gates) (name : String) : Semaphore :=
  ((gates.find? fun gate => gate.1 = name).map Prod.snd).getD (Semaphore.new 0)

def set (gates : Gates) (name : String) (semaphore : Semaphore) : Gates :=
  (name, semaphore) :: gates.filter fun gate => gate.1 ≠ name

/--
Pass a gate if it has a permit.  That uses the permit up, since gates are opened for a
number of passages.
-/
def pass? (gates : Gates) (name : String) : Option Gates :=
  (gates.get name).take?.map fun left => gates.set name left

def enqueue (gates : Gates) (name : String) (task : Nat) : Gates :=
  gates.set name ((gates.get name).enqueue task)

def release (gates : Gates) (name : String) (permits : Nat) : Gates × List Nat :=
  let (semaphore, served) := (gates.get name).release permits
  (gates.set name semaphore, served)

def forget (gates : Gates) (task : Nat) : Gates :=
  gates.map fun gate => (gate.1, gate.2.forget task)

end Gates
end DeviceLink
