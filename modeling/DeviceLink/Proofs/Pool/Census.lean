import DeviceLink.Pool
import Mathlib.Data.List.Nodup

namespace DeviceLink

/-!
Counting the tasks and the lanes of a pool, and what changing, adding or removing one of
them does to the counts.  A task has its place between the tasks before and after it,
and no other task has its number, so an operation on the pool that names a task acts at
that place only.  The same goes for a lane and its device.  `Between` and `LaneBetween`
name these places.  A count over all tasks is then the sum of three counts, of which an
operation changes the one in the middle.
-/

namespace Pool

variable {σ : Type}

namespace Stage

/-- The job has begun.  It may stand at a gate by now. -/
def isRunning : Stage σ → Bool
  | fresh => false
  | queueing => false
  | granted => false
  | atGate _ _ => true
  | suspended _ => true
  | resumable _ => true

def isQueueing : Stage σ → Bool
  | queueing => true
  | _ => false

def isSuspended : Stage σ → Bool
  | suspended _ => true
  | _ => false

/-- The task can go on by itself.  The other tasks wait for a permit, of the pool or of a gate. -/
def isReady : Stage σ → Bool
  | fresh => true
  | queueing => false
  | granted => true
  | atGate _ _ => true
  | suspended _ => false
  | resumable _ => true

theorem eq_queueing {stage : Stage σ} (ready : stage.isReady = false)
    (suspended : stage.isSuspended = false) : stage = .queueing := by
  cases stage with
  | queueing => rfl
  | fresh | granted | atGate | resumable => cases ready
  | suspended => cases suspended

theorem exists_suspended {stage : Stage σ} (suspended : stage.isSuspended = true) :
    ∃ rest, stage = .suspended rest := by
  cases stage with
  | suspended rest => exact ⟨rest, rfl⟩
  | fresh | queueing | granted | atGate | resumable => cases suspended

end Stage

/--
The numbers of the tasks whose stage satisfies a condition.  They stand in the order of the
tasks.
-/
def idsWhere (condition : Stage σ → Bool) (tasks : List (Task σ)) : List Nat :=
  (tasks.filter fun task => condition task.stage).map Task.id

/--
The number of the tasks whose stage satisfies a condition.  Sums over tasks are written with
it.
-/
def countWhere (condition : Stage σ → Bool) (tasks : List (Task σ)) : Nat :=
  tasks.countP fun task => condition task.stage

theorem length_idsWhere (condition : Stage σ → Bool) (tasks : List (Task σ)) :
    (idsWhere condition tasks).length = countWhere condition tasks := by
  rw [idsWhere, List.length_map, countWhere, List.countP_eq_length_filter]

def isUnstarted (stage : Stage σ) : Bool := !stage.isRunning

/--
A task as a list of its number, if its stage satisfies a condition.  The list is empty
otherwise, so it can be added to the others.
-/
def mark (condition : Stage σ → Bool) (task : Task σ) : List Nat :=
  if condition task.stage then [task.id] else []

theorem mark_of {condition : Stage σ → Bool} {task : Task σ} (holds : condition task.stage = true) :
    mark condition task = [task.id] := if_pos holds

theorem mark_of_not {condition : Stage σ → Bool} {task : Task σ}
    (fails : condition task.stage = false) : mark condition task = [] := by
  rw [mark, fails]
  rfl

section

variable (condition : Stage σ → Bool)

theorem idsWhere_place (before after : List (Task σ)) (task : Task σ) :
    (idsWhere condition (before ++ task :: after)).Perm
      (idsWhere condition (before ++ after) ++ mark condition task) := by
  unfold idsWhere mark
  rw [List.filter_append, List.filter_append, List.map_append, List.map_append,
    List.filter_cons]
  split
  · rw [List.map_cons, List.append_assoc]
    exact List.Perm.append_left _ (List.perm_append_singleton task.id _).symm
  · rw [List.append_nil]

theorem countWhere_place (before after : List (Task σ)) (task : Task σ) :
    countWhere condition (before ++ task :: after) =
      countWhere condition (before ++ after) + (condition task.stage).toNat := by
  unfold countWhere
  rw [List.countP_append, List.countP_append, List.countP_cons, Nat.add_assoc]
  cases condition task.stage <;> rfl

theorem mem_idsWhere {tasks : List (Task σ)} {id : Nat} :
    id ∈ idsWhere condition tasks ↔ ∃ task ∈ tasks, condition task.stage = true ∧ task.id = id := by
  simp only [idsWhere, List.mem_map, List.mem_filter, and_assoc]

end

/--
The place of a task in a pool.  What is before and after it is known, and none of the others
has its number.
-/
structure Between (pool : Pool σ) (task : Task σ) (before after : List (Task σ)) : Prop where
  tasks_eq : pool.tasks = before ++ task :: after
  others : ∀ other ∈ before ++ after, other.id ≠ task.id

theorem exists_between {pool : Pool σ} (distinct : (pool.tasks.map Task.id).Nodup) {task : Task σ}
    (member : task ∈ pool.tasks) : ∃ before after, pool.Between task before after := by
  rcases List.append_of_mem member with ⟨before, after, split⟩
  refine ⟨before, after, split, ?_⟩
  rw [split, List.map_append, List.map_cons, List.nodup_middle, ← List.map_append,
    List.nodup_cons] at distinct
  intro other inside same
  exact distinct.1 (List.mem_map.mpr ⟨other, inside, same⟩)

theorem mem_of_task? {pool : Pool σ} {id : Nat} {task : Task σ}
    (found : pool.task? id = some task) : task ∈ pool.tasks ∧ task.id = id :=
  ⟨List.mem_of_find?_eq_some found, by simpa using List.find?_some found⟩

namespace Between

variable {pool : Pool σ} {task new : Task σ} {before after : List (Task σ)}

theorem tasks_setTask (place : pool.Between task before after) (same : new.id = task.id) :
    (pool.setTask new).tasks = before ++ new :: after := by
  have untouched : ∀ other ∈ before ++ after,
      (if other.id = new.id then new else other) = other := by
    intro other inside
    rw [same, if_neg (place.others other inside)]
  unfold setTask
  rw [place.tasks_eq, List.map_append, List.map_cons, if_pos same.symm]
  rw [List.map_congr_left fun other inside => untouched other (List.mem_append_left _ inside),
    List.map_congr_left fun other inside => untouched other (List.mem_append_right _ inside),
    List.map_id', List.map_id']

theorem tasks_removeTask (place : pool.Between task before after) :
    (pool.removeTask task.id).tasks = before ++ after := by
  have kept : ∀ other ∈ before ++ after, decide (other.id ≠ task.id) = true := by
    intro other inside
    exact decide_eq_true (place.others other inside)
  unfold removeTask
  rw [place.tasks_eq, List.filter_append, List.filter_cons, if_neg (by simp),
    ← List.filter_append, List.filter_eq_self.mpr kept]

theorem task?_eq (place : pool.Between task before after) : pool.task? task.id = some task := by
  unfold task?
  rw [place.tasks_eq, List.find?_append, List.find?_eq_none.mpr, Option.none_or,
    List.find?_cons_of_pos (by simp)]
  intro other inside
  simpa using place.others other (List.mem_append_left _ inside)

end Between

/-! ## Lanes -/

/--
The calls that wait behind another one, on any device.  They have been accepted, and have no
task of their own.
-/
def waitingCalls (pool : Pool σ) : List WaitingCall := pool.lanes.flatMap Prod.snd

/-- The devices that have a lane.  They are the busy ones. -/
def laneDevices (pool : Pool σ) : List Address := pool.lanes.map Prod.fst

/-- The place of a lane in a pool.  No other lane is for its device. -/
structure LaneBetween (pool : Pool σ) (device : Address) (waiting : List WaitingCall)
    (before after : List (Address × List WaitingCall)) : Prop where
  lanes_eq : pool.lanes = before ++ (device, waiting) :: after
  others : ∀ other ∈ before ++ after, other.1 ≠ device

theorem exists_laneBetween {pool : Pool σ} (distinct : pool.laneDevices.Nodup) {device : Address}
    {waiting : List WaitingCall} (found : pool.lane? device = some waiting) :
    ∃ before after, pool.LaneBetween device waiting before after := by
  rcases Option.map_eq_some_iff.mp found with ⟨lane, present, content⟩
  have key : lane.1 = device := by simpa using List.find?_some present
  rcases List.append_of_mem (List.mem_of_find?_eq_some present) with ⟨before, after, split⟩
  have lane_eq : lane = (device, waiting) := Prod.ext key content
  rw [lane_eq] at split
  refine ⟨before, after, split, ?_⟩
  unfold laneDevices at distinct
  rw [split, List.map_append, List.map_cons, List.nodup_middle, ← List.map_append,
    List.nodup_cons] at distinct
  intro other inside same
  exact distinct.1 (List.mem_map.mpr ⟨other, inside, same⟩)

theorem lane?_eq_none_iff {pool : Pool σ} {device : Address} :
    pool.lane? device = none ↔ device ∉ pool.laneDevices := by
  rw [lane?, Option.map_eq_none_iff, List.find?_eq_none, laneDevices, List.mem_map]
  simp only [decide_eq_true_eq]
  constructor
  · rintro free ⟨lane, inside, key⟩
    exact free lane inside key
  · intro absent lane inside key
    exact absent ⟨lane, inside, key⟩

namespace LaneBetween

variable {pool : Pool σ} {device : Address} {waiting : List WaitingCall}
  {before after : List (Address × List WaitingCall)}

theorem lanes_setLane (place : pool.LaneBetween device waiting before after)
    (calls : List WaitingCall) :
    (pool.setLane device calls).lanes = before ++ (device, calls) :: after := by
  have untouched : ∀ other ∈ before ++ after,
      (if other.1 = device then (device, calls) else other) = other := by
    intro other inside
    rw [if_neg (place.others other inside)]
  unfold setLane
  rw [place.lanes_eq, List.map_append, List.map_cons, if_pos rfl]
  rw [List.map_congr_left fun other inside => untouched other (List.mem_append_left _ inside),
    List.map_congr_left fun other inside => untouched other (List.mem_append_right _ inside),
    List.map_id', List.map_id']

theorem filter_lanes (place : pool.LaneBetween device waiting before after) :
    (pool.lanes.filter fun lane => lane.1 ≠ device) = before ++ after := by
  have kept : ∀ other ∈ before ++ after, decide (other.1 ≠ device) = true := by
    intro other inside
    exact decide_eq_true (place.others other inside)
  rw [place.lanes_eq, List.filter_append, List.filter_cons, if_neg (by simp),
    ← List.filter_append, List.filter_eq_self.mpr kept]

theorem length_waitingCalls (place : pool.LaneBetween device waiting before after) :
    pool.waitingCalls.length =
      (before.flatMap Prod.snd).length + waiting.length + (after.flatMap Prod.snd).length := by
  rw [waitingCalls, place.lanes_eq, List.flatMap_append, List.flatMap_cons, List.length_append,
    List.length_append, Nat.add_assoc]

theorem laneDevices_perm (place : pool.LaneBetween device waiting before after) :
    pool.laneDevices.Perm (device :: (before ++ after).map Prod.fst) := by
  unfold laneDevices
  rw [place.lanes_eq, List.map_append, List.map_cons, List.map_append]
  exact List.perm_middle

theorem length_waitingCalls_setLane (place : pool.LaneBetween device waiting before after)
    (calls : List WaitingCall) :
    (pool.setLane device calls).waitingCalls.length + waiting.length =
      pool.waitingCalls.length + calls.length := by
  rw [place.length_waitingCalls, waitingCalls, place.lanes_setLane]
  simp only [List.flatMap_append, List.flatMap_cons, List.length_append]
  omega

end LaneBetween

theorem laneDevices_setLane (pool : Pool σ) (device : Address) (calls : List WaitingCall) :
    (pool.setLane device calls).laneDevices = pool.laneDevices := by
  unfold laneDevices setLane
  rw [List.map_map]
  apply List.map_congr_left
  intro lane inside
  by_cases same : lane.1 = device
  · rw [Function.comp_apply, if_pos same, same]
  · rw [Function.comp_apply, if_neg same]

theorem lane?_setLane (pool : Pool σ) (device other : Address) (calls : List WaitingCall) :
    (pool.setLane device calls).lane? other =
      if other = device then (pool.lane? device).map fun _ => calls else pool.lane? other := by
  have same_key : ((fun lane : Address × List WaitingCall => decide (lane.1 = other)) ∘
      fun lane => if lane.1 = device then (device, calls) else lane) =
        fun lane => decide (lane.1 = other) := by
    funext lane
    by_cases key : lane.1 = device
    · simp only [Function.comp_apply, key, if_true]
    · simp only [Function.comp_apply, if_neg key]
  unfold lane? setLane
  rw [List.find?_map, same_key, Option.map_map]
  by_cases same : other = device
  · subst same
    rw [if_pos rfl, Option.map_map]
    cases found : pool.lanes.find? fun lane => decide (lane.1 = other) with
    | none => rfl
    | some lane =>
        have key : lane.1 = other := by simpa using List.find?_some found
        simp only [Option.map_some, Function.comp_apply, if_pos key]
  · rw [if_neg same]
    cases found : pool.lanes.find? fun lane => decide (lane.1 = other) with
    | none => rfl
    | some lane =>
        have key : lane.1 = other := by simpa using List.find?_some found
        have apart : lane.1 ≠ device := by rw [key]; exact same
        simp only [Option.map_some, Function.comp_apply, if_neg apart]

theorem lane?_of_opened {pool next : Pool σ} {device : Address}
    (opened : next.lanes = pool.lanes ++ [(device, [])]) (free : pool.lane? device = none)
    (other : Address) :
    next.lane? other = if other = device then some [] else pool.lane? other := by
  by_cases same : other = device
  · subst same
    rw [if_pos rfl, lane?, opened, List.find?_append, Option.map_eq_none_iff.mp free]
    simp
  · have apart : ¬ device = other := fun key => same key.symm
    rw [if_neg same, lane?, lane?, opened, List.find?_append]
    simp [apart]

theorem lane?_of_closed {pool next : Pool σ} {device : Address}
    (closed : next.lanes = pool.lanes.filter fun lane => lane.1 ≠ device) (other : Address) :
    next.lane? other = if other = device then none else pool.lane? other := by
  unfold lane?
  rw [closed, List.find?_filter]
  by_cases same : other = device
  · subst same
    rw [if_pos rfl, List.find?_eq_none.mpr]
    · rfl
    · intro lane _
      simp
  · rw [if_neg same]
    congr 2
    funext lane
    by_cases key : lane.1 = other
    · simp [key, same]
    · simp [key]

end Pool
end DeviceLink
