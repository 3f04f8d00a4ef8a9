import DeviceLink.Proofs.Pool.Ledger
import DeviceLink.Proofs.Pool.Winding

namespace DeviceLink
namespace Pool

/-!
A pool as one device sees it: the call that its lane is at, what is left of that call
once it has begun, and the calls that wait.  Whatever happens to the tasks of other
devices does not show, and neither does the waiting for permits and at gates.  A task
may be abandoned here; its lane then has nobody who works it off.  `Facet` has three
forms: nobody works for the device, a task drives its lane, or the lane has lost its
task.  `Shows` relates a pool to the facet of a device, and each operation is shown to
change the facet of one device at most.
-/

variable {σ : Type}

namespace Stage

/--
What is left of a call that has begun.  A call that has not begun has all of its code before
it.
-/
def rest? : Stage σ → Option (Activity σ Json.Members)
  | fresh => none
  | queueing => none
  | granted => none
  | atGate _ rest => some rest
  | suspended rest => some rest
  | resumable rest => some rest

theorem rest?_resume (stage : Stage σ) : stage.resume.rest? = stage.rest? := by
  cases stage <;> rfl

end Stage

/--
The call of a task, if it is for a device, and what is left of it.  Tasks of other devices
have nothing to do with it.
-/
def Task.on? (device : Address) (task : Task σ) :
    Option (WaitingCall × Option (Activity σ Json.Members)) :=
  (task.job.callOn? device).map fun call => (call, task.stage.rest?)

/--
The calls on a device that have a task.  There is one at most, as long as no task is
abandoned.
-/
def drivers (device : Address) (tasks : List (Task σ)) :
    List (WaitingCall × Option (Activity σ Json.Members)) := tasks.filterMap (Task.on? device)

/--
How things stand with the calls on a device.  It is all that matters to the device about the
pool.
-/
inductive Facet (σ : Type)
  | free
  /-- The lane is at a call, of which this is left if it has begun.  The calls behind it wait. -/
  | driven (call : WaitingCall) (rest : Option (Activity σ Json.Members))
      (waiting : List WaitingCall)
  /-- The task of the lane has been abandoned.  Its calls wait for ever. -/
  | stuck (waiting : List WaitingCall)

namespace Facet

def drivers : Facet σ → List (WaitingCall × Option (Activity σ Json.Members))
  | free => []
  | driven call rest _ => [(call, rest)]
  | stuck _ => []

def lane? : Facet σ → Option (List WaitingCall)
  | free => none
  | driven _ _ waiting => some waiting
  | stuck waiting => some waiting

/-- One more call has been accepted.  On a free device it is the one that its lane is at. -/
def join (call : WaitingCall) : Facet σ → Facet σ
  | free => driven call none []
  | driven current rest waiting => driven current rest (waiting ++ [call])
  | stuck waiting => stuck (waiting ++ [call])

/-- The call that the lane was at has ended.  The next one takes its place. -/
def ofWaiting : List WaitingCall → Facet σ
  | [] => free
  | next :: waiting => driven next none waiting

/-- The task of the lane is abandoned, if it has one.  What it was at is lost. -/
def lose : Facet σ → Facet σ
  | free => free
  | driven _ _ waiting => stuck waiting
  | stuck waiting => stuck waiting

end Facet

/-- A device sees this of a pool.  Task and lane are both looked at. -/
structure Shows (pool : Pool σ) (device : Address) (facet : Facet σ) : Prop where
  drivers_eq : Pool.drivers device pool.tasks = facet.drivers
  lane_eq : pool.lane? device = facet.lane?

/--
Tasks are told apart by their numbers, and who waits for a permit has asked for one.  Aborts
keep it as well, which they do not do with coherence.
-/
structure Tidy (pool : Pool σ) : Prop where
  ids_nodup : pool.taskIds.Nodup
  ids_lt : ∀ id ∈ pool.taskIds, id < pool.nextTask
  waiters_nodup : pool.permits.waiters.Nodup
  waiters_lt : ∀ id ∈ pool.permits.waiters, id < pool.nextTask
  queueing : ∀ task ∈ pool.tasks, task.id ∈ pool.permits.waiters → task.stage = .queueing

theorem tidy_new (options : Options) : (new options : Pool σ).Tidy where
  ids_nodup := List.nodup_nil
  ids_lt := nofun
  waiters_nodup := List.nodup_nil
  waiters_lt := nofun
  queueing := nofun

theorem shows_new (options : Options) (device : Address) :
    (new options : Pool σ).Shows device .free := ⟨rfl, rfl⟩

theorem drivers_place (device : Address) (before after : List (Task σ)) (task : Task σ) :
    drivers device (before ++ task :: after) =
      drivers device before ++ ((task.on? device).toList ++ drivers device after) := by
  unfold drivers
  rw [List.filterMap_append, List.filterMap_cons]
  cases task.on? device <;> rfl

theorem Task.on?_invoke (device : Address) (id : Nat) (call : WaitingCall) (stage : Stage σ) :
    (⟨id, .invoke call.messageId device call.call, stage⟩ : Task σ).on? device =
      some (call, stage.rest?) := by
  simp only [Task.on?, Job.callOn?, if_true, Option.map_some]

theorem Task.on?_eq_none {device : Address} {task : Task σ}
    (other : task.job.device? ≠ some device) : task.on? device = none := by
  rw [Task.on?, Job.callOn?_eq_none.mpr other]
  rfl

/--
The job of a task was for no device, or its lane goes on, or it has nothing left.  These are
the three ways in which a task can be done.
-/
theorem retire_cases (pool : Pool σ) (task : Task σ) :
    (task.job.device? = none ∧ pool.retire task = pool.removeTask task.id) ∨
      (∃ device next rest, task.job.device? = some device ∧
        pool.lane? device = some (next :: rest) ∧
        pool.retire task = (pool.setLane device rest).proceed
          ⟨task.id, .invoke next.messageId device next.call, .fresh⟩) ∨
      ∃ device, task.job.device? = some device ∧
        (∀ next rest, pool.lane? device ≠ some (next :: rest)) ∧
        pool.retire task =
          { pool with lanes := pool.lanes.filter fun lane => lane.1 ≠ device }.removeTask
            task.id := by
  rw [retire]
  cases task.job with
  | reportReply messageId code => exact .inl ⟨rfl, rfl⟩
  | invoke messageId device call =>
      simp only [advanceLane]
      split
      · next next rest lane => exact .inr (.inl ⟨device, next, rest, rfl, lane, rfl⟩)
      · next empty => exact .inr (.inr ⟨device, rfl, empty, rfl⟩)

/-! ## Keeping tidy -/

namespace Tidy

variable {pool next : Pool σ} {task : Task σ} {before after : List (Task σ)}

/--
Tasks and waiters only go, and no waiter leaves the queue in another way.  Whatever only
takes away keeps a pool tidy.
-/
theorem shrink (tidy : pool.Tidy) (ids : next.taskIds.Sublist pool.taskIds)
    (waiters : next.permits.waiters.Sublist pool.permits.waiters)
    (next_eq : next.nextTask = pool.nextTask)
    (queueing : ∀ task ∈ next.tasks, task.id ∈ next.permits.waiters → task.stage = .queueing) :
    next.Tidy where
  ids_nodup := ids.nodup tidy.ids_nodup
  ids_lt := fun id inside => next_eq ▸ tidy.ids_lt id (ids.subset inside)
  waiters_nodup := waiters.nodup tidy.waiters_nodup
  waiters_lt := fun id inside => next_eq ▸ tidy.waiters_lt id (waiters.subset inside)
  queueing := queueing

theorem of_tasks_eq (tidy : pool.Tidy) (tasks_eq : next.tasks = pool.tasks)
    (waiters_eq : next.permits.waiters = pool.permits.waiters)
    (next_eq : next.nextTask = pool.nextTask) : next.Tidy := by
  refine tidy.shrink ?_ (waiters_eq ▸ List.Sublist.refl _) next_eq ?_
  · rw [taskIds, tasks_eq, taskIds]
  · rw [tasks_eq, waiters_eq]
    exact tidy.queueing

theorem exists_between (tidy : pool.Tidy) (member : task ∈ pool.tasks) :
    ∃ before after, pool.Between task before after :=
  Pool.exists_between tidy.ids_nodup member

theorem notMem_waiters (tidy : pool.Tidy) (member : task ∈ pool.tasks)
    (stage : task.stage ≠ .queueing) : task.id ∉ pool.permits.waiters :=
  fun waits => stage (tidy.queueing task member waits)

/-- Tasks change their stages and jobs, but not those who wait for a permit.  Their numbers stay. -/
theorem of_map (tidy : pool.Tidy) {change : Task σ → Task σ}
    (tasks_eq : next.tasks = pool.tasks.map change)
    (keeps : ∀ task : Task σ, (change task).id = task.id)
    (waiters : next.permits.waiters.Sublist pool.permits.waiters)
    (next_eq : next.nextTask = pool.nextTask)
    (queueing : ∀ task ∈ pool.tasks, task.id ∈ next.permits.waiters → task.stage = .queueing →
      (change task).stage = .queueing) : next.Tidy := by
  refine tidy.shrink ?_ waiters next_eq ?_
  · have same : pool.tasks.map (Task.id ∘ change) = pool.taskIds :=
      List.map_congr_left fun task _ => keeps task
    rw [taskIds, tasks_eq, List.map_map, same]
  · intro changed inside waits
    rw [tasks_eq] at inside
    rcases List.mem_map.mp inside with ⟨task, member, rfl⟩
    rw [keeps] at waits
    exact queueing task member waits (tidy.queueing task member (waiters.subset waits))

theorem setTask (tidy : pool.Tidy) (changed : Task σ)
    (apart : changed.id ∉ pool.permits.waiters) : (pool.setTask changed).Tidy := by
  refine tidy.of_map rfl (fun other => ?_) (List.Sublist.refl _) rfl fun other _ waits stage => ?_
  · split
    · rename_i same
      exact same.symm
    · rfl
  · rw [if_neg]
    · exact stage
    · intro same
      exact apart (same ▸ waits)

theorem proceed (tidy : pool.Tidy) {changed : Task σ}
    (apart : changed.id ∉ pool.permits.waiters) : (pool.proceed changed).Tidy :=
  (tidy.setTask changed apart).of_tasks_eq rfl rfl rfl

theorem leaveReady (tidy : pool.Tidy) (id : Nat) : (pool.leaveReady id).Tidy :=
  tidy.of_tasks_eq rfl rfl rfl

theorem takeUp (tidy : pool.Tidy) (task : Task σ) : (pool.takeUp task).Tidy :=
  tidy.of_tasks_eq (by simp) (by simp) (by simp)

theorem removeTask (tidy : pool.Tidy) (id : Nat) : (pool.removeTask id).Tidy :=
  tidy.shrink (List.filter_sublist.map Task.id) (List.Sublist.refl _) rfl
    fun task inside => tidy.queueing task (List.mem_filter.mp inside).1

/--
A gate that is opened has nothing to do with those who wait for a permit.  Only those at the
gate are changed by it.
-/
theorem awaken (tidy : pool.Tidy) (ids : List Nat) : (pool.awaken ids Stage.resume).Tidy := by
  refine tidy.of_map rfl (fun task => ?_) (List.Sublist.refl _) rfl fun task _ _ stage => ?_
  · split <;> rfl
  · split
    · dsimp only
      rw [stage]
      rfl
    · exact stage

/-- Who is given a permit does not wait for it any longer.  It leaves the queue from the front. -/
theorem releasePermit (tidy : pool.Tidy) : pool.releasePermit.Tidy := by
  refine tidy.of_map rfl (fun task => ?_) (List.drop_sublist 1 _) rfl fun task _ waits stage => ?_
  · split <;> rfl
  · split
    · next served =>
      have first : task.id ∈ pool.permits.waiters.take 1 := by simpa using served
      have distinct := tidy.waiters_nodup
      rw [← List.take_append_drop 1 pool.permits.waiters] at distinct
      exact absurd waits (List.disjoint_of_nodup_append distinct first)
    · exact stage

/-- A task that asks for a permit has not asked for one before.  So it joins the queue once. -/
theorem acquire (tidy : pool.Tidy) (member : task ∈ pool.tasks) (stage : task.stage = .fresh) :
    (pool.acquire task).Tidy := by
  have apart := tidy.notMem_waiters member (by rw [stage]; exact nofun)
  unfold Pool.acquire
  split
  · rename_i left taken
    have waiters_eq : left.waiters = pool.permits.waiters := by
      unfold Semaphore.take? at taken
      split at taken <;> cases taken
      rfl
    have given : ({ pool with permits := left } : Pool σ).Tidy :=
      tidy.of_tasks_eq rfl waiters_eq rfl
    exact given.proceed (by rw [waiters_eq]; exact apart)
  · have set := tidy.setTask { task with stage := .queueing } apart
    refine
      { ids_nodup := set.ids_nodup
        ids_lt := set.ids_lt
        waiters_nodup := List.nodup_append.mpr
          ⟨tidy.waiters_nodup, List.nodup_singleton _, ?_⟩
        waiters_lt := ?_
        queueing := ?_ }
    · intro id waits other new same
      rw [List.mem_singleton] at new
      exact apart (new ▸ same ▸ waits)
    · intro id waits
      rcases List.mem_append.mp waits with old | new
      · exact tidy.waiters_lt id old
      · rw [List.mem_singleton.mp new]
        exact tidy.ids_lt task.id (List.mem_map_of_mem member)
    · intro other inside waits
      rcases List.mem_map.mp inside with ⟨was, present, rfl⟩
      by_cases same : was.id = task.id
      · rw [if_pos same]
      · rw [if_neg same] at waits ⊢
        rcases List.mem_append.mp waits with old | new
        · exact tidy.queueing was present old
        · exact absurd (List.mem_singleton.mp new) same

theorem retire (tidy : pool.Tidy) (apart : task.id ∉ pool.permits.waiters) :
    (pool.retire task).Tidy := by
  rcases pool.retire_cases task with ⟨-, same⟩ | ⟨device, next, rest, -, -, same⟩ |
    ⟨device, -, -, same⟩ <;> rw [same]
  · exact tidy.removeTask task.id
  · have taken : (pool.setLane device rest).Tidy := tidy.of_tasks_eq rfl rfl rfl
    exact taken.proceed apart
  · have closed : ({ pool with lanes := pool.lanes.filter fun lane => lane.1 ≠ device } :
        Pool σ).Tidy := tidy.of_tasks_eq rfl rfl rfl
    exact closed.removeTask task.id

theorem spawn (tidy : pool.Tidy) (job : Job) : (pool.spawn job).Tidy where
  ids_nodup := by
    have fresh : pool.nextTask ∉ pool.taskIds := fun inside =>
      absurd (tidy.ids_lt _ inside) (Nat.lt_irrefl _)
    rw [taskIds, Pool.spawn, List.map_append]
    refine List.nodup_append.mpr ⟨tidy.ids_nodup, List.nodup_singleton _, ?_⟩
    intro id old other new same
    have number : other = pool.nextTask := List.mem_singleton.mp new
    exact fresh (number ▸ same ▸ old)
  ids_lt := by
    intro id inside
    rw [taskIds, Pool.spawn, List.map_append] at inside
    rcases List.mem_append.mp inside with old | new
    · exact Nat.lt_succ_of_lt (tidy.ids_lt id old)
    · rw [List.mem_singleton.mp new]
      exact Nat.lt_succ_self _
  waiters_nodup := tidy.waiters_nodup
  waiters_lt := fun id waits => Nat.lt_succ_of_lt (tidy.waiters_lt id waits)
  queueing := by
    intro other inside waits
    rcases List.mem_append.mp inside with old | new
    · exact tidy.queueing other old waits
    · rw [List.mem_singleton.mp new] at waits
      exact absurd (tidy.waiters_lt _ waits) (Nat.lt_irrefl _)

theorem submit (tidy : pool.Tidy) {job : Job} (submitted : pool.submit job = .ok next) :
    next.Tidy := by
  rcases submit_ok submitted with ⟨-, -, rfl⟩
  have counted : ({ pool with queued := pool.queued + 1 } : Pool σ).Tidy :=
    tidy.of_tasks_eq rfl rfl rfl
  cases job with
  | reportReply messageId code => exact counted.spawn _
  | invoke messageId device call =>
      rw [Pool.enqueue]
      split
      · exact counted.of_tasks_eq rfl rfl rfl
      · have opened : ({ pool with
            queued := pool.queued + 1
            lanes := pool.lanes ++ [(device, [])] } : Pool σ).Tidy := tidy.of_tasks_eq rfl rfl rfl
        exact opened.spawn _

theorem abortOne (tidy : pool.Tidy) (id : Nat) : (pool.abortOne id).Tidy := by
  unfold Pool.abortOne
  split
  · exact tidy
  · have without : ({ pool.removeTask id with
        permits := pool.permits.forget id
        ready := pool.ready.filter fun other => other ≠ id } : Pool σ).Tidy := by
      refine (tidy.removeTask id).shrink (List.Sublist.refl _) List.filter_sublist rfl ?_
      intro task inside waits
      exact tidy.queueing task (List.mem_filter.mp inside).1 (List.mem_filter.mp waits).1
    dsimp only
    split
    · exact without.releasePermit
    · exact without

theorem abort (tidy : pool.Tidy) (ids : List Nat) : (pool.abort ids).Tidy := by
  induction ids generalizing pool with
  | nil => exact tidy
  | cons id rest ih => exact ih (tidy.abortOne id)

end Tidy

/-! ## What shows of the operations -/

/-- No device sees a difference.  Lanes, and the calls that have a task, are the same. -/
structure Resembles (pool next : Pool σ) : Prop where
  drivers_eq : ∀ device, drivers device next.tasks = drivers device pool.tasks
  lanes_eq : next.lanes = pool.lanes

namespace Resembles

variable {pool next last : Pool σ} {task : Task σ} {before after : List (Task σ)}

theorem of_tasks_eq (tasks_eq : next.tasks = pool.tasks) (lanes_eq : next.lanes = pool.lanes) :
    Resembles pool next := ⟨fun device => by rw [tasks_eq], lanes_eq⟩

theorem refl (pool : Pool σ) : Resembles pool pool := of_tasks_eq rfl rfl

theorem trans (first : Resembles pool next) (second : Resembles next last) :
    Resembles pool last where
  drivers_eq := fun device => (second.drivers_eq device).trans (first.drivers_eq device)
  lanes_eq := second.lanes_eq.trans first.lanes_eq

theorem shows (resembles : Resembles pool next) {device : Address} {facet : Facet σ}
    (shows : pool.Shows device facet) : next.Shows device facet where
  drivers_eq := (resembles.drivers_eq device).trans shows.drivers_eq
  lane_eq := by
    rw [Pool.lane?, resembles.lanes_eq]
    exact shows.lane_eq

/--
Stages change while nothing begins or goes on.  The permit of a task is nothing that a
device sees.
-/
theorem of_map {change : Task σ → Task σ} (tasks_eq : next.tasks = pool.tasks.map change)
    (lanes_eq : next.lanes = pool.lanes)
    (keeps : ∀ task ∈ pool.tasks, ∀ device, (change task).on? device = task.on? device) :
    Resembles pool next where
  drivers_eq := by
    intro device
    rw [drivers, tasks_eq, List.filterMap_map]
    exact List.filterMap_congr fun task member => keeps task member device
  lanes_eq := lanes_eq

theorem awaken (pool : Pool σ) (ids : List Nat) :
    Resembles pool (pool.awaken ids Stage.resume) := by
  refine of_map rfl rfl fun task _ device => ?_
  split
  · simp only [Task.on?, Stage.rest?_resume]
  · rfl

/--
Who waits for a permit has not begun, and has not begun when it is given one.  So handing on
a permit does not show.
-/
theorem releasePermit (tidy : pool.Tidy) : Resembles pool pool.releasePermit := by
  refine of_map rfl rfl fun task member device => ?_
  split
  · next served =>
    have first : task.id ∈ pool.permits.waiters.take 1 := by simpa using served
    have waits := List.mem_of_mem_take first
    simp only [Task.on?, tidy.queueing task member waits]
    rfl
  · rfl

/--
A task changes its stage but neither begins nor goes on.  What is left of its call is the
same.
-/
theorem setTask (tidy : pool.Tidy) (member : task ∈ pool.tasks) (stage : Stage σ)
    (same : stage.rest? = task.stage.rest?) :
    Resembles pool (pool.setTask { task with stage := stage }) := by
  refine of_map rfl rfl fun other present device => ?_
  split
  · next shared =>
    have only : other = task := List.inj_on_of_nodup_map tidy.ids_nodup present member shared
    rw [only]
    simp only [Task.on?, same]
  · rfl

theorem proceed (tidy : pool.Tidy) (member : task ∈ pool.tasks) (stage : Stage σ)
    (same : stage.rest? = task.stage.rest?) :
    Resembles pool (pool.proceed { task with stage := stage }) :=
  (setTask tidy member stage same).trans (of_tasks_eq rfl rfl)

theorem acquire (tidy : pool.Tidy) (member : task ∈ pool.tasks) (stage : task.stage = .fresh) :
    Resembles pool (pool.acquire task) := by
  unfold Pool.acquire
  split
  · rename_i left taken
    have waiters_eq : left.waiters = pool.permits.waiters := by
      unfold Semaphore.take? at taken
      split at taken <;> cases taken
      rfl
    have given : ({ pool with permits := left } : Pool σ).Tidy :=
      tidy.of_tasks_eq rfl waiters_eq rfl
    have first : Resembles pool { pool with permits := left } := of_tasks_eq rfl rfl
    exact first.trans (proceed given member .granted (by rw [stage]; rfl))
  · exact (setTask tidy member .queueing (by rw [stage]; rfl)).trans (of_tasks_eq rfl rfl)

end Resembles

namespace Shows

variable {pool next : Pool σ} {device : Address} {facet : Facet σ} {task : Task σ}
  {call : WaitingCall} {before after : List (Task σ)}

/--
The task of a call on a device is the only one that the device has.  No other task has a
call on it.
-/
theorem alone (shows : pool.Shows device facet) (place : pool.Between task before after)
    (isOn : task.job.callOn? device = some call) :
    drivers device before = [] ∧ drivers device after = [] ∧
      ∃ waiting, pool.lane? device = some waiting ∧
        facet = .driven call task.stage.rest? waiting := by
  have drivers_eq := shows.drivers_eq
  have lane_eq := shows.lane_eq
  have entry : task.on? device = some (call, task.stage.rest?) := by
    rw [Task.on?, isOn]
    rfl
  rw [place.tasks_eq, drivers_place, entry, Option.toList_some, List.singleton_append] at drivers_eq
  cases facet with
  | free | stuck =>
      exact absurd drivers_eq (List.append_ne_nil_of_right_ne_nil _ (List.cons_ne_nil _ _))
  | driven current rest waiting =>
      rcases List.append_eq_singleton_iff.mp drivers_eq with ⟨before_eq, here⟩ | ⟨-, here⟩
      · rw [List.cons.injEq] at here
        rcases here with ⟨here, after_eq⟩
        cases here
        exact ⟨before_eq, after_eq, waiting, lane_eq, rfl⟩
      · cases here

/--
A device that is not concerned sees that the lane of no other device is its own.  Lanes are
told apart by their devices.
-/
theorem elsewhere (shows : pool.Shows device facet)
    (drivers_eq : drivers device next.tasks = drivers device pool.tasks)
    (lane_eq : next.lane? device = pool.lane? device) : next.Shows device facet where
  drivers_eq := drivers_eq.trans shows.drivers_eq
  lane_eq := lane_eq.trans shows.lane_eq

theorem drivers_setTask (place : pool.Between task before after) (changed : Task σ)
    (same_id : changed.id = task.id) (device : Address) :
    drivers device (pool.setTask changed).tasks =
      drivers device before ++ ((changed.on? device).toList ++ drivers device after) := by
  rw [place.tasks_setTask same_id, drivers_place]

theorem drivers_removeTask (place : pool.Between task before after) (device : Address) :
    drivers device (pool.removeTask task.id).tasks =
      drivers device before ++ drivers device after := by
  rw [place.tasks_removeTask, drivers, List.filterMap_append]
  rfl

theorem drivers_elsewhere (place : pool.Between task before after)
    (other : task.job.device? ≠ some device) :
    drivers device pool.tasks = drivers device before ++ drivers device after := by
  rw [place.tasks_eq, drivers_place, Task.on?_eq_none other]
  rfl

/-- A call comes to a gate, or goes on there.  What is left of it is what the device sees change. -/
theorem proceed_here {waiting : List WaitingCall} {rest : Option (Activity σ Json.Members)}
    (shows : pool.Shows device (.driven call rest waiting))
    (place : pool.Between task before after) (isOn : task.job.callOn? device = some call)
    (stage : Stage σ) :
    (pool.proceed { task with stage := stage }).Shows device
      (.driven call stage.rest? waiting) := by
  let changed : Task σ := { task with stage := stage }
  have set := drivers_setTask place changed rfl device
  rcases shows.alone place isOn with ⟨before_eq, after_eq, -⟩
  have entry : changed.on? device = some (call, stage.rest?) := by
    simp only [changed, Task.on?, isOn, Option.map_some]
  rw [entry, before_eq, after_eq] at set
  exact ⟨set, shows.lane_eq⟩

theorem proceed_elsewhere (shows : pool.Shows device facet)
    (place : pool.Between task before after) (other : task.job.device? ≠ some device)
    (stage : Stage σ) : (pool.proceed { task with stage := stage }).Shows device facet := by
  let changed : Task σ := { task with stage := stage }
  have set := drivers_setTask place changed rfl device
  have here : changed.on? device = none := Task.on?_eq_none other
  rw [here] at set
  exact shows.elsewhere (set.trans (drivers_elsewhere place other).symm) rfl

/--
The lane of a call that ends goes on with the next one.  That is the end of the lane, if
there is none.
-/
theorem retire_here {waiting : List WaitingCall} {rest : Option (Activity σ Json.Members)}
    (shows : pool.Shows device (.driven call rest waiting))
    (place : pool.Between task before after) (isOn : task.job.callOn? device = some call) :
    (pool.retire task).Shows device (.ofWaiting waiting) := by
  have isFor : task.job.device? = some device := by
    rw [Job.callOn?_eq_some.mp isOn]
    rfl
  have lane_eq : pool.lane? device = some waiting := shows.lane_eq
  rcases shows.alone place isOn with ⟨before_eq, after_eq, -⟩
  cases waiting with
  | nil =>
      rw [retire_of_last pool task isFor lane_eq]
      let without : Pool σ := { pool with lanes := pool.lanes.filter fun lane => lane.1 ≠ device }
      have moved : without.Between task before after := ⟨place.tasks_eq, place.others⟩
      refine ⟨?_, ?_⟩
      · rw [drivers_removeTask moved, before_eq, after_eq]
        rfl
      · exact (lane?_of_closed rfl device).trans (if_pos rfl)
  | cons next waiting =>
      rw [retire_of_next pool task isFor lane_eq]
      have moved : (pool.setLane device waiting).Between task before after :=
        ⟨place.tasks_eq, place.others⟩
      have set := drivers_setTask moved
        ⟨task.id, .invoke next.messageId device next.call, .fresh⟩ rfl device
      rw [Task.on?_invoke, before_eq, after_eq] at set
      refine ⟨set, ?_⟩
      have lane := lane?_setLane pool device device waiting
      rw [if_pos rfl, lane_eq] at lane
      exact lane

theorem retire_elsewhere (shows : pool.Shows device facet)
    (place : pool.Between task before after) (other : task.job.device? ≠ some device) :
    (pool.retire task).Shows device facet := by
  have drivers_eq := drivers_elsewhere place other
  rcases pool.retire_cases task with ⟨-, same⟩ | ⟨target, next, rest, isFor, lane, same⟩ |
    ⟨target, isFor, empty, same⟩ <;> rw [same]
  · exact shows.elsewhere ((drivers_removeTask place device).trans drivers_eq.symm) rfl
  · have apart : device ≠ target := fun same => other (same ▸ isFor)
    let changed : Task σ := ⟨task.id, .invoke next.messageId target next.call, .fresh⟩
    have moved : (pool.setLane target rest).Between task before after :=
      ⟨place.tasks_eq, place.others⟩
    have set := drivers_setTask moved changed rfl device
    have foreign : changed.on? device = none :=
      Task.on?_eq_none fun same => apart (Option.some.inj same).symm
    rw [foreign] at set
    refine shows.elsewhere (set.trans drivers_eq.symm) ?_
    exact (lane?_setLane pool target device rest).trans (if_neg apart)
  · have apart : device ≠ target := fun same => other (same ▸ isFor)
    let without : Pool σ := { pool with lanes := pool.lanes.filter fun lane => lane.1 ≠ target }
    have moved : without.Between task before after := ⟨place.tasks_eq, place.others⟩
    refine shows.elsewhere ((drivers_removeTask moved device).trans drivers_eq.symm) ?_
    exact (lane?_of_closed rfl device).trans (if_neg apart)

/-- A call on the device is accepted.  It joins its lane at the end, or opens it. -/
theorem submit_here (shows : pool.Shows device facet) {messageId : UInt32} {body : DeviceCall}
    (submitted : pool.submit (.invoke messageId device body) = .ok next) :
    next.Shows device (facet.join ⟨messageId, body⟩) := by
  rcases submit_ok submitted with ⟨-, -, rfl⟩
  let counted : Pool σ := { pool with queued := pool.queued + 1 }
  have drivers_eq := shows.drivers_eq
  have lane_eq : counted.lane? device = facet.lane? := shows.lane_eq
  change (counted.enqueue _).Shows device _
  cases facet with
  | free =>
      simp only [Pool.enqueue, lane_eq, Facet.lane?]
      refine ⟨?_, (lane?_of_opened rfl lane_eq device).trans (if_pos rfl)⟩
      have spawned := drivers_place device pool.tasks []
        ⟨pool.nextTask, .invoke messageId device body, .fresh⟩
      rw [Task.on?_invoke device pool.nextTask ⟨messageId, body⟩, drivers_eq] at spawned
      exact spawned
  | driven current rest waiting | stuck waiting =>
      simp only [Pool.enqueue, lane_eq, Facet.lane?]
      refine ⟨drivers_eq, (lane?_setLane counted device device _).trans ?_⟩
      rw [if_pos rfl, lane_eq]
      rfl

/-- A job for something else is accepted.  The device does not notice. -/
theorem submit_elsewhere (shows : pool.Shows device facet) {job : Job}
    (other : job.device? ≠ some device) (submitted : pool.submit job = .ok next) :
    next.Shows device facet := by
  rcases submit_ok submitted with ⟨-, -, rfl⟩
  have spawned (lanes : List (Address × List WaitingCall)) :
      drivers device ({ pool with queued := pool.queued + 1, lanes := lanes }.spawn job).tasks =
        drivers device pool.tasks := by
    refine (drivers_place device pool.tasks [] ⟨pool.nextTask, job, .fresh⟩).trans ?_
    rw [Task.on?_eq_none other]
    exact List.append_nil _
  cases job with
  | reportReply messageId code => exact shows.elsewhere (spawned pool.lanes) rfl
  | invoke messageId target body =>
      have apart : device ≠ target := fun same => other (congrArg some same.symm)
      rw [Pool.enqueue]
      split
      · next waiting _ =>
        refine shows.elsewhere rfl ?_
        exact (lane?_setLane { pool with queued := pool.queued + 1 } target device _).trans
          (if_neg apart)
      · next free =>
        refine shows.elsewhere (spawned _) ?_
        exact (lane?_of_opened rfl free device).trans (if_neg apart)

/-- A task is abandoned: that of the device, or another one.  In the second case nothing shows. -/
theorem abortOne (shows : pool.Shows device facet) (tidy : pool.Tidy) (id : Nat) :
    (pool.abortOne id).Shows device facet ∨ (pool.abortOne id).Shows device facet.lose := by
  unfold Pool.abortOne
  split
  · exact .inl shows
  next task found =>
  rcases mem_of_task? found with ⟨member, rfl⟩
  rcases tidy.exists_between member with ⟨before, after, place⟩
  let without : Pool σ := { pool.removeTask task.id with
    permits := pool.permits.forget task.id
    ready := pool.ready.filter fun other => other ≠ task.id }
  have tidied : without.Tidy := by
    refine (tidy.removeTask task.id).shrink (List.Sublist.refl _) List.filter_sublist rfl ?_
    intro other inside waits
    exact tidy.queueing other (List.mem_filter.mp inside).1 (List.mem_filter.mp waits).1
  have released : ∀ {seen : Facet σ}, without.Shows device seen →
      (if task.stage.holdsPermit then without.releasePermit else without).Shows device seen := by
    intro seen shown
    split
    · exact (Resembles.releasePermit tidied).shows shown
    · exact shown
  cases isOn : task.job.callOn? device with
  | none =>
      have other : task.job.device? ≠ some device := Job.callOn?_eq_none.mp isOn
      refine .inl (released (shows.elsewhere ?_ rfl))
      exact (drivers_removeTask place device).trans (drivers_elsewhere place other).symm
  | some call =>
      rcases shows.alone place isOn with ⟨before_eq, after_eq, waiting, lane_eq, rfl⟩
      refine .inr (released ⟨?_, lane_eq⟩)
      refine (drivers_removeTask place device).trans ?_
      rw [before_eq, after_eq]
      rfl

theorem abort (shows : pool.Shows device facet) (tidy : pool.Tidy) (ids : List Nat) :
    (pool.abort ids).Shows device facet ∨ (pool.abort ids).Shows device facet.lose := by
  induction ids generalizing pool facet with
  | nil => exact .inl shows
  | cons id rest ih =>
      have tidied := tidy.abortOne id
      rcases shows.abortOne tidy id with same | lost
      · exact ih same tidied
      · right
        rcases ih lost tidied with still | again
        · exact still
        · cases facet <;> exact again

end Shows

end Pool
end DeviceLink
