import DeviceLink.Core.Step

namespace DeviceLink

/-!
The order in which ready tasks take their steps.  The task at the front of the ready
queue has the turn and keeps it until it waits or ends.  No turn goes beyond a number of
permits, though: a task that asks for one more is put off, and comes back behind the
others when nobody else is ready or the round is over.  This is one order among all
those that are possible, and the one in which the core runs when it is driven from
outside; what is proved about interleavings does not rest on it.  `settle` is the only
function that uses it.
-/

/-- How far the turns of a round have gone.  All of it is forgotten once no task is ready. -/
structure Turns where
  /-- The permits that the task at the front may still take, once it has its turn. -/
  allowance : Option Nat
  /-- The tasks that have been put off, the latest one first. -/
  postponed : List Nat
  /--
  The turns that are left of the round.  When there are none, the tasks that have been put
  off come back before anybody else begins a turn.
  -/
  left : Nat
  deriving DecidableEq, Repr

namespace Turns

/--
The permits that a task may take in one turn.  A task that has taken them all keeps its turn
as long as it asks for nothing more.
-/
def allowanceLimit : Nat := 128

/-- The turns of a round.  Within so many turns, whoever has been put off is ready again. -/
def roundLength : Nat := 61

def new : Turns := ⟨none, [], roundLength⟩

/--
Whether the tasks that have been put off come back now.  They come back at the end of a
round, and earlier if they would be the only ones to go on.
-/
def isRoundOver (turns : Turns) (ready : List Nat) : Bool := turns.left = 0 || ready.isEmpty

/--
The ready queue for the next step; a new turn begins unless one is going on.  The tasks that
come back stand behind those that were ready already.
-/
def begin (turns : Turns) (ready : List Nat) : Turns × List Nat :=
  match turns.allowance with
  | some _ => (turns, ready)
  | none =>
      if turns.isRoundOver ready then
        (⟨some allowanceLimit, [], roundLength - 1⟩, ready ++ turns.postponed)
      else (⟨some allowanceLimit, turns.postponed, turns.left - 1⟩, ready)

/-- Use up a permit of the turn.  Permits of workers and permits of gates count alike. -/
def charge (turns : Turns) : Turns :=
  { turns with allowance := turns.allowance.map fun permits => permits - 1 }

/--
After a step of a task: its turn goes on, is over, or has to be continued later.  It goes on
as long as the task still stands at the front of the ready queue, where a step that does not
wait or end has left it.
-/
def afterStep (turns : Turns) (id : Nat) (asks : Bool) (ready : List Nat) : Turns × List Nat :=
  if ready.head? ≠ some id then ({ turns with allowance := none }, ready)
  else if asks && turns.allowance = some 0 then
    ({ turns with allowance := none, postponed := id :: turns.postponed }, ready.tail)
  else (turns, ready)

/-! Nobody gets lost between the ready queue and those who have been put off. -/

theorem mem_begin (turns : Turns) (ready : List Nat) (id : Nat) :
    (id ∈ (turns.begin ready).2 ∨ id ∈ (turns.begin ready).1.postponed) ↔
      (id ∈ ready ∨ id ∈ turns.postponed) := by
  unfold begin
  split
  · exact Iff.rfl
  · split
    · simp
    · exact Iff.rfl

theorem mem_afterStep (turns : Turns) (task : Nat) (asks : Bool) (ready : List Nat) (id : Nat) :
    (id ∈ (turns.afterStep task asks ready).2 ∨
        id ∈ (turns.afterStep task asks ready).1.postponed) ↔
      (id ∈ ready ∨ id ∈ turns.postponed) := by
  unfold afterStep
  split
  · exact Iff.rfl
  · rename_i front
    split
    · cases ready with
      | nil => simp at front
      | cons first rest =>
          have same : first = task := by simpa using front
          simp only [List.tail_cons, List.mem_cons, same]
          rw [or_left_comm, or_assoc]
    · exact Iff.rfl

end Turns

namespace Core

variable {σ : Type}

def withReady (core : Core σ) (ready : List Nat) : Core σ :=
  { core with pool := { core.pool with ready := ready } }

/--
Whether a task satisfies a condition on its stage.  A number that belongs to no task
satisfies none.
-/
def isAt (core : Core σ) (id : Nat) (condition : Pool.Stage σ → Bool) : Bool :=
  (core.pool.task? id).any fun task => condition task.stage

/--
Let ready tasks take their turns, at most `count` steps.  The count makes the recursion end;
when it runs out first, those who were put off are ready again.
-/
def settleFor (setup : Setup σ) : Nat → Turns → Core σ → Core σ
  | 0, turns, core => core.withReady (core.pool.ready ++ turns.postponed)
  | count + 1, turns, core =>
      let (begun, ready) := turns.begin core.pool.ready
      match ready with
      | [] => core
      | id :: _ =>
          let charged := if core.isAt id Pool.Stage.receives then begun.charge else begun
          let stepped := step setup (core.withReady ready) id
          let (next, remaining) :=
            charged.afterStep id (stepped.isAt id Pool.Stage.asks) stepped.pool.ready
          settleFor setup count next (stepped.withReady remaining)

/--
Let ready tasks take their turns until none is ready.  The bound on the steps is taken
before the first of them, and no task is ready when they have been taken.
-/
def settle (setup : Setup σ) (core : Core σ) : Core σ :=
  settleFor setup core.pendingSteps Turns.new core

end Core
end DeviceLink
