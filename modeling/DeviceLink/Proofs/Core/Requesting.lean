import DeviceLink.Fleet.Handler
import DeviceLink.Proofs.Core.Requests
import DeviceLink.Proofs.Core.Run

namespace DeviceLink

namespace Run

variable {State Move Note : Type}

/--
What is always shown beside something else is so in the whole history.  This is how an order
that holds of the whole carries over to the part.
-/
theorem history_sublist {perform : State → Move → State} {part whole : State → Move → List Note}
    (each : ∀ state move, (part state move).Sublist (whole state move)) (state : State)
    (moves : List Move) :
    (history perform part state moves).Sublist (history perform whole state moves) := by
  induction moves generalizing state with
  | nil => exact .refl _
  | cons move rest ih => exact (each state move).append (ih _)

end Run

namespace Core

variable {σ : Type}

/-!
Runs with requests.  The message ids that are taken in a run are those from one on, each
in its turn; the ids that reach outlets and the ids that callers get are among them in
the same order.  `Tallied` keeps the counter and the registry in agreement with the ids
that have been taken.  The hypothesis is always that fewer ids have been taken than
there are, since a counter that has come round may give an id to somebody while another
still waits under it.
-/

section

variable (setup : Setup σ) (core : Core σ)

/-- The message id that a move takes, as the counter tells.  A move takes one at most. -/
def takenIds (move : Move σ) : List UInt32 :=
  if (perform setup core move).nextId = core.nextId then [] else [core.takeId.1]

/--
The message id of the request that a move puts to an outlet, taken by it or not.  An outlet
that refuses it has still seen it.
-/
def offeredIds : Move σ → List UInt32
  | .report device request => core.reportIds device request
  | .request device request now budget => core.requestIds device request now budget
  | _ => []

/--
The message id that a move gives to its caller.  Callers that await a reply are given a
handle and not an id.
-/
def returnedIds : Move σ → List UInt32
  | .report device request => (core.sendAsync device request).1.toOption.toList
  | _ => []

def taken : Core σ → List (Move σ) → List UInt32 := Run.history (perform setup) (takenIds setup)

def offered : Core σ → List (Move σ) → List UInt32 := Run.history (perform setup) offeredIds

def returned : Core σ → List (Move σ) → List UInt32 := Run.history (perform setup) returnedIds

theorem nextId_takeId_ne : core.takeId.2.nextId ≠ core.nextId := by
  by_cases zero : core.nextId = 0
  · have next_eq : core.takeId.2.nextId = 2 := by simp only [takeId, Request.takeId, zero, if_true]
    rw [next_eq, zero]
    decide
  · have next_eq : core.takeId.2.nextId = core.nextId + 1 := by
      simp only [takeId, Request.takeId, zero, if_false]
    rw [next_eq]
    intro same
    have number := congrArg UInt32.toNat same
    have one : (1 : UInt32).toNat = 1 := rfl
    have below := core.nextId.toNat_lt
    rw [UInt32.toNat_add, one] at number
    omega

variable {setup core} {move : Move σ}

theorem takenIds_of_same (same : (perform setup core move).nextId = core.nextId) :
    takenIds setup core move = [] := if_pos same

theorem takenIds_of_takeId
    (counted : (perform setup core move).nextId = core.takeId.2.nextId) :
    takenIds setup core move = [core.takeId.1] :=
  if_neg fun same => nextId_takeId_ne core (counted.symm.trans same)

theorem nextId_openWait (core : Core σ) (request : Request) (messageId : UInt32)
    (payload : Json.Members) (due : Nat) (budget : Duration) :
    (core.openWait request messageId payload due budget).2.nextId = core.nextId := by
  have opened := opened_openWait core request messageId payload due budget
  generalize (core.openWait request messageId payload due budget).1 = opening at opened
  generalize (core.openWait request messageId payload due budget).2 = next at opened ⊢
  cases opened with
  | refused => rfl
  | failed _ _ _ _ _ apart | sent _ _ _ _ apart => exact apart.nextId_eq

theorem takenIds_report (setup : Setup σ) (core : Core σ) (device : Address) (request : Request) :
    takenIds setup core (.report device request) = core.reportIds device request := by
  cases prepared : core.prepare device request with
  | error failure =>
      rw [reportIds, prepared]
      refine takenIds_of_same ?_
      rw [perform, sendAsync_of_error core prepared]
  | ok payload =>
      rw [reportIds, prepared]
      exact takenIds_of_takeId (apart_sendAsync core prepared).nextId_eq

theorem offered_sublist_taken (setup : Setup σ) (core : Core σ) (move : Move σ) :
    (core.offeredIds move).Sublist (takenIds setup core move) := by
  cases move with
  | report device request => exact takenIds_report setup core device request ▸ .refl _
  | request device request now budget =>
      have offered_eq : core.offeredIds (Move.request device request now budget : Move σ) =
          core.requestIds device request now budget := rfl
      rw [offered_eq, requestIds]
      split
      · rename_i due _ named _
        cases prepared : core.prepare device request with
        | error failure =>
            rw [reportIds, prepared]
            exact List.nil_sublist _
        | ok payload =>
            have counted : (core.sendSync device request now budget).2.nextId =
                core.takeId.2.nextId := by
              simp only [sendSync, named, prepared]
              exact nextId_openWait _ _ _ _ _ _
            have taken_eq : takenIds setup core (.request device request now budget) =
                [core.takeId.1] := takenIds_of_takeId counted
            rw [reportIds, prepared, taken_eq]
      · exact List.nil_sublist _
  | _ => exact List.nil_sublist _

theorem returned_sublist_offered (core : Core σ) (move : Move σ) :
    (core.returnedIds move).Sublist (core.offeredIds move) := by
  cases move with
  | report device request =>
      cases prepared : core.prepare device request with
      | error failure =>
          simp only [returnedIds, sendAsync, prepared]
          exact List.nil_sublist _
      | ok payload =>
          simp only [returnedIds, offeredIds, reportIds, sendAsync, prepared]
          split
          · exact .refl _
          · exact List.nil_sublist _
  | _ => exact List.nil_sublist _

end

/-! ## The tally -/

/-- No message id has been taken, and no handle registered.  Everything else may have changed. -/
structure Untaken (core next : Core σ) : Prop where
  nextId_eq : next.nextId = core.nextId
  coherent : core.registry.Coherent → next.registry.Coherent
  fewer : next.registry.ids.Sublist core.registry.ids

theorem Untaken.of_apart {core next : Core σ} (apart : Apart core next) : Untaken core next where
  nextId_eq := apart.nextId_eq
  coherent := fun coherent => apart.registry_eq.symm ▸ coherent
  fewer := apart.registry_eq.symm ▸ .refl _

theorem untaken_receive (setup : Setup σ) (core : Core σ) (text : String) :
    Untaken core (receive setup core text).2 := by
  simp only [receive]
  cases Inbound.ofText text with
  | error error => exact .of_apart (.refl core)
  | ok inbound =>
      cases inbound with
      | call messageId method payload => exact .of_apart (apart_receiveCall _ _ _ _)
      | response messageId code payload =>
          have apart := apart_receiveReply setup core ⟨messageId, code, payload⟩
          have registry_eq : (receiveReply setup core ⟨messageId, code, payload⟩).2.registry =
              (core.registry.deliver ⟨messageId, code, payload⟩).2 := apart.registry_eq
          refine ⟨apart.nextId_eq, fun coherent => ?_, ?_⟩
          · rw [registry_eq]
            exact coherent.deliver _
          · rw [registry_eq, Registry.ids_deliver]

/-- Whether a move makes a request.  It may fail, and is one all the same. -/
def Move.asks : Move σ → Bool
  | report _ _ => true
  | request _ _ _ _ => true
  | _ => false

/--
Whether a move may take entries from the registry.  Making a request is no such move,
although a failed one takes its own entry back.
-/
def Move.settles : Move σ → Bool
  | forget _ => true
  | forgetAll => true
  | receive _ => true
  | _ => false

theorem unsettled_perform (setup : Setup σ) (core : Core σ) {move : Move σ}
    (asks : move.asks = false) (settles : move.settles = false) :
    (perform setup core move).registry = core.registry ∧
      (perform setup core move).nextId = core.nextId := by
  have of_apart {next : Core σ} (apart : Apart core next) :
      next.registry = core.registry ∧ next.nextId = core.nextId :=
    ⟨apart.registry_eq, apart.nextId_eq⟩
  cases move with
  | report | request => cases asks
  | forget | forgetAll | receive => cases settles
  | shutdownLink =>
      rcases shutdownLink_eq setup core with ⟨registry_eq, nextId_eq, -⟩
      exact ⟨registry_eq, nextId_eq⟩
  | establish outlet => exact of_apart (apart_establish setup core outlet)
  | closeLink => exact of_apart (apart_closeLink setup core)
  | submit job => exact of_apart (apart_submit core job)
  | step task => exact of_apart (apart_step setup core task)
  | drain most => exact of_apart (.of_outward (outward_onNewestQueue core _))
  | hangUp => exact of_apart (.of_outward (outward_onNewestQueue core _))
  | openGate | closePool | abort | disturb => exact ⟨rfl, rfl⟩

theorem untaken_perform (setup : Setup σ) (core : Core σ) {move : Move σ}
    (asks : move.asks = false) : Untaken core (perform setup core move) := by
  cases settles : move.settles with
  | false =>
      rcases unsettled_perform setup core asks settles with ⟨registry_eq, nextId_eq⟩
      exact ⟨nextId_eq, fun coherent => registry_eq.symm ▸ coherent, registry_eq.symm ▸ .refl _⟩
  | true =>
      cases move with
      | forget token =>
          exact ⟨rfl, fun coherent => coherent.drop token, Registry.ids_drop core.registry token⟩
      | forgetAll =>
          exact ⟨rfl, fun coherent => coherent.clear, Registry.ids_clear core.registry ▸ .refl _⟩
      | receive text => exact untaken_receive setup core text
      | _ => cases settles

/--
The message ids that have been taken, and how things stand after that.  They are the first
numbers from one on, and no handle has any other.
-/
structure Tallied (taken : List UInt32) (core : Core σ) : Prop where
  taken_eq : taken = (List.range' 1 taken.length).map UInt32.ofNat
  nextId_eq : core.nextId = UInt32.ofNat (taken.length + 1)
  coherent : core.registry.Coherent
  distinct : core.registry.ids.Nodup
  ids_le : ∀ messageId ∈ core.registry.ids, messageId.toNat ≤ taken.length
  standing : core.Standing

theorem tallied_new (setup : Setup σ) (world : σ) : Tallied [] (new setup world) where
  taken_eq := rfl
  nextId_eq := rfl
  coherent := Registry.coherent_new _
  distinct := List.nodup_nil
  ids_le := nofun
  standing := standing_new setup world

section

variable {setup : Setup σ} {taken : List UInt32} {core next : Core σ} {move : Move σ}

namespace Tallied

theorem toNat_takeId (tallied : Tallied taken core) (few : taken.length + 1 < UInt32.size) :
    core.takeId.1.toNat = taken.length + 1 := by
  rw [takeId_eq tallied.nextId_eq few]
  exact toNat_nextId tallied.nextId_eq few

theorem fresh (tallied : Tallied taken core) (few : taken.length + 1 < UInt32.size) :
    core.takeId.1 ∉ core.registry.ids := by
  intro inside
  have below := tallied.ids_le _ inside
  rw [tallied.toNat_takeId few] at below
  exact Nat.not_succ_le_self _ below

theorem keep (tallied : Tallied taken core) (untaken : Untaken core next)
    (standing : next.Standing) : Tallied taken next where
  taken_eq := tallied.taken_eq
  nextId_eq := untaken.nextId_eq.trans tallied.nextId_eq
  coherent := untaken.coherent tallied.coherent
  distinct := untaken.fewer.nodup tallied.distinct
  ids_le := fun messageId inside => tallied.ids_le messageId (untaken.fewer.mem inside)
  standing := standing

/--
The next message id is taken, and a handle is registered for it or none.  Whether the
request succeeds after that does not matter.
-/
theorem take (tallied : Tallied taken core) (few : taken.length + 1 < UInt32.size)
    (nextId_eq : next.nextId = core.takeId.2.nextId) (coherent : next.registry.Coherent)
    (more : next.registry.ids = core.registry.ids ∨
      next.registry.ids = core.registry.ids ++ [core.takeId.1])
    (standing : next.Standing) : Tallied (taken ++ [core.takeId.1]) next := by
  have length_eq : (taken ++ [core.takeId.1]).length = taken.length + 1 := List.length_append
  have number := tallied.toNat_takeId few
  refine ⟨?_, ?_, coherent, ?_, ?_, standing⟩
  · have last : core.takeId.1 = UInt32.ofNat (1 + taken.length) := by
      rw [Nat.add_comm, ← number, UInt32.ofNat_toNat]
    rw [length_eq, List.range'_1_concat, List.map_append, ← tallied.taken_eq, List.map_singleton,
      ← last]
  · rw [length_eq, nextId_eq, takeId_eq tallied.nextId_eq few]
  · rcases more with same | more
    · exact same ▸ tallied.distinct
    · rw [more]
      exact tallied.distinct.append (List.nodup_singleton _)
        (List.disjoint_singleton.mpr (tallied.fresh few))
  · intro messageId inside
    have old : messageId ∈ core.registry.ids → messageId.toNat ≤ taken.length + 1 :=
      fun known => Nat.le_succ_of_le (tallied.ids_le messageId known)
    rw [length_eq]
    rcases more with same | more
    · exact old (same ▸ inside)
    · rcases List.mem_append.mp (more ▸ inside) with known | new
      · exact old known
      · rw [List.mem_singleton.mp new]
        exact Nat.le_of_eq number

theorem rising (tallied : Tallied taken core) (few : taken.length < UInt32.size) :
    taken.Pairwise (· < ·) := by
  rw [tallied.taken_eq, List.pairwise_map]
  have counted : (List.range' 1 taken.length).Pairwise (· < ·) := List.pairwise_lt_range'
  refine counted.imp_of_mem fun {first second} _ there less => ?_
  have bound : second < UInt32.size := by
    have below := (List.mem_range'_1.mp there).2
    omega
  rw [UInt32.lt_iff_toNat_lt, UInt32.toNat_ofNat', UInt32.toNat_ofNat',
    Nat.mod_eq_of_lt (Nat.lt_trans less bound), Nat.mod_eq_of_lt bound]
  exact less

theorem positive (tallied : Tallied taken core) (few : taken.length < UInt32.size) :
    0 ∉ taken := by
  rw [tallied.taken_eq]
  intro inside
  rcases List.mem_map.mp inside with ⟨number, there, zero⟩
  rcases List.mem_range'_1.mp there with ⟨above, below⟩
  have bound : number < UInt32.size := by omega
  have number_eq := congrArg UInt32.toNat zero
  rw [UInt32.toNat_ofNat', Nat.mod_eq_of_lt bound] at number_eq
  exact Nat.ne_of_gt above number_eq

theorem request_eq (tallied : Tallied taken core) (few : taken.length + 1 < UInt32.size)
    (device : Address) (request : Request) (now : Nat) (budget : Duration) :
    Requested core device request now budget (core.sendSync device request now budget).1
      (core.requestIds device request now budget)
      (core.sendSync device request now budget).2 :=
  requested tallied.standing tallied.coherent tallied.distinct (tallied.fresh few) device request
    now budget

theorem request (tallied : Tallied taken core) (few : taken.length + 1 < UInt32.size)
    (setup : Setup σ) (device : Address) (request : Request) (now : Nat) (budget : Duration) :
    let move : Move σ := .request device request now budget
    Tallied (taken ++ takenIds setup core move) (Core.perform setup core move) := by
  intro move
  have standing := tallied.standing.perform setup move
  have way := tallied.request_eq few device request now budget
  have keeps (same : Core.perform setup core move = core) :
      Tallied (taken ++ takenIds setup core move) (Core.perform setup core move) := by
    rw [takenIds_of_same (same.symm ▸ rfl), List.append_nil, same]
    exact tallied
  have takes (counted : (Core.perform setup core move).nextId = core.takeId.2.nextId)
      (coherent : (Core.perform setup core move).registry.Coherent)
      (more : (Core.perform setup core move).registry.ids = core.registry.ids ∨
        (Core.perform setup core move).registry.ids = core.registry.ids ++ [core.takeId.1]) :
      Tallied (taken ++ takenIds setup core move) (Core.perform setup core move) := by
    rw [takenIds_of_takeId counted]
    exact tallied.take few counted coherent more standing
  have after_eq : (core.sendSync device request now budget).2 = Core.perform setup core move := rfl
  rw [after_eq] at way
  generalize (core.sendSync device request now budget).1 = opening at way
  generalize core.requestIds device request now budget = offered at way
  generalize Core.perform setup core move = after at way keeps takes standing ⊢
  cases way with
  | crashed | rejected | offline => exact keeps rfl
  | full => exact takes rfl tallied.coherent (.inl rfl)
  | refused _ _ _ _ _ same =>
      exact takes rfl (same.coherent tallied.coherent)
        (.inl (congrArg (List.map Handle.messageId) same.handles_eq))
  | sent _ _ _ _ _ registered nextId_eq =>
      refine takes nextId_eq (tallied.coherent.register registered) (.inr ?_)
      rw [Registry.ids, Registry.handles_of_register registered, List.map_append]
      rfl

theorem report (tallied : Tallied taken core) (few : taken.length + 1 < UInt32.size)
    (setup : Setup σ) (device : Address) (request : Request) :
    let move : Move σ := .report device request
    Tallied (taken ++ takenIds setup core move) (Core.perform setup core move) := by
  intro move
  have standing := tallied.standing.perform setup move
  cases prepared : core.prepare device request with
  | error failure =>
      have same : Core.perform setup core move = core := sendAsync_of_error core prepared
      rw [takenIds_of_same (same.symm ▸ rfl), List.append_nil, same]
      exact tallied
  | ok payload =>
      have apart : Apart core.takeId.2 (Core.perform setup core move) :=
        apart_sendAsync core prepared
      have registry_eq : (Core.perform setup core move).registry = core.registry :=
        apart.registry_eq
      rw [takenIds_of_takeId apart.nextId_eq]
      exact tallied.take few apart.nextId_eq (registry_eq.symm ▸ tallied.coherent)
        (.inl (congrArg Registry.ids registry_eq)) standing

theorem perform (tallied : Tallied taken core)
    (few : (taken ++ takenIds setup core move).length + 1 < UInt32.size) :
    Tallied (taken ++ takenIds setup core move) (Core.perform setup core move) := by
  have few_before : taken.length + 1 < UInt32.size := by
    rw [List.length_append] at few
    omega
  cases asks : move.asks with
  | false =>
      have untaken := untaken_perform setup core asks
      rw [takenIds_of_same untaken.nextId_eq, List.append_nil]
      exact tallied.keep untaken (tallied.standing.perform setup move)
  | true =>
      cases move with
      | report device request => exact tallied.report few_before setup device request
      | request device request now budget =>
          exact tallied.request few_before setup device request now budget
      | _ => cases asks

end Tallied

theorem tallied_run (setup : Setup σ) (world : σ) (moves : List (Move σ))
    (few : (Core.taken setup (new setup world) moves).length + 1 < UInt32.size) :
    Tallied (Core.taken setup (new setup world) moves) (run setup (new setup world) moves) := by
  have kept : ∀ past core move, True →
      (past.length + 1 < UInt32.size → Tallied past core) →
      ((past ++ takenIds setup core move).length + 1 < UInt32.size →
        Tallied (past ++ takenIds setup core move) (Core.perform setup core move)) := by
    intro past core move _ tallied few
    refine (tallied (Nat.lt_of_le_of_lt ?_ few)).perform few
    rw [List.length_append]
    exact Nat.succ_le_succ (Nat.le_add_right _ _)
  exact Run.keeps kept (fun _ => tallied_new setup world) (fun _ _ => trivial) few

end

/--
What can be said of the requests of a run.  The fields speak of single requests at any point
of the run, and of the ids of the whole run.
-/
structure Requesting (setup : Setup σ) (world : σ) (moves : List (Move σ)) : Prop where
  offered_rising : (offered setup (new setup world) moves).Pairwise (· < ·)
  offered_positive : 0 ∉ offered setup (new setup world) moves
  returned_rising : (returned setup (new setup world) moves).Pairwise (· < ·)
  returned_positive : 0 ∉ returned setup (new setup world) moves
  reports {earlier later : List (Move σ)} {device : Address} {request : Request}
    (split : moves = earlier ++ .report device request :: later) :
    let core := run setup (new setup world) earlier
    Posted core device request (core.sendAsync device request).1
      (core.offeredIds (.report device request)) (perform setup core (.report device request))
  requests {earlier later : List (Move σ)} {device : Address} {request : Request} {now : Nat}
    {budget : Duration} (split : moves = earlier ++ .request device request now budget :: later) :
    let core := run setup (new setup world) earlier
    Requested core device request now budget (core.sendSync device request now budget).1
      (core.offeredIds (.request device request now budget))
      (perform setup core (.request device request now budget))
  /--
  Only for want of room is a message id not registered.  An id that comes next is never
  awaited already.
  -/
  registers {earlier later : List (Move σ)} (split : moves = earlier ++ later) {failure : Failure} :
    let core := run setup (new setup world) earlier
    core.registry.register core.takeId.1 = .error failure →
      core.registry.isFull = true ∧ failure = .allocationFailure
        (Decimal.naturalString core.registry.size ++ " requests already awaiting replies")

/--
As long as the counter has not come round, message ids are put to outlets and given to
callers in rising order; a request leaves no trace if something is wrong with it or with the
link, and has cost just a message id if it fails later.  The bound is on the ids that the
run has taken, and not on its length.
-/
theorem requests_all_or_nothing (setup : Setup σ) (world : σ) (moves : List (Move σ))
    (few : (taken setup (new setup world) moves).length + 1 < UInt32.size) :
    Requesting setup world moves := by
  have among : (offered setup (new setup world) moves).Sublist
      (taken setup (new setup world) moves) :=
    Run.history_sublist (offered_sublist_taken setup) _ moves
  have within : (returned setup (new setup world) moves).Sublist
      (offered setup (new setup world) moves) :=
    Run.history_sublist returned_sublist_offered _ moves
  have tallied := tallied_run setup world moves few
  have rising := tallied.rising (Nat.lt_of_succ_lt few)
  have positive := tallied.positive (Nat.lt_of_succ_lt few)
  have stands {earlier later : List (Move σ)} (split : moves = earlier ++ later) :
      ∃ past, past.length + 1 < UInt32.size ∧
        Tallied past (run setup (new setup world) earlier) := by
    rw [split, taken, Run.history_append, List.length_append] at few
    have few_before : (taken setup (new setup world) earlier).length + 1 < UInt32.size :=
      Nat.lt_of_le_of_lt (Nat.succ_le_succ (Nat.le_add_right _ _)) few
    exact ⟨_, few_before, tallied_run setup world earlier few_before⟩
  exact
    { offered_rising := rising.sublist among
      offered_positive := fun zero => positive (among.mem zero)
      returned_rising := rising.sublist (within.trans among)
      returned_positive := fun zero => positive ((within.trans among).mem zero)
      reports := fun split => by
        rcases stands split with ⟨past, -, tallied⟩
        exact posted tallied.standing _ _
      requests := fun split => by
        rcases stands split with ⟨past, few, tallied⟩
        exact tallied.request_eq few _ _ _ _
      registers := fun split => by
        intro failure core failed
        rcases stands split with ⟨past, few, tallied⟩
        have free := tallied.coherent.contains_of_fresh (tallied.fresh few)
        rcases core.registry.register_cases free with ⟨full, refused⟩ | ⟨-, token, next, registered⟩
        · rw [refused] at failed
          cases failed
          exact ⟨full, rfl⟩
        · rw [registered] at failed
          cases failed }

/--
Requests before there is a link, with an empty name, and over a link that holds two frames.
The registry has room for a single one of them.
-/
def crowded : List (Move Fleet) :=
  let device : Address := ⟨"house", "lamp"⟩
  let budget : Duration := .ofSeconds 1
  [.report device .online, .establish (.queue 2 [] true), .report ⟨"", "lamp"⟩ .online,
    .report device .online, .request device .offline 0 budget, .request device .offline 0 budget,
    .report device .online, .drain none, .report device .online]

/--
The third request over the link finds no room to wait, and the fourth no room for its frame.
They show the two ways in which a request can fail after it has taken its id.
-/
theorem requesting_crowded :
    let setup : Setup Fleet :=
      ⟨{ Options.standard with maxInFlight := 1 }, Fleet.handler, false, none, .standard⟩
    taken setup (new setup (Fleet.new [])) crowded = [1, 2, 3, 4, 5] ∧
      offered setup (new setup (Fleet.new [])) crowded = [1, 2, 4, 5] ∧
      returned setup (new setup (Fleet.new [])) crowded = [1, 5] ∧
      Requesting setup (Fleet.new []) crowded :=
  ⟨by decide +kernel, by decide +kernel, by decide +kernel,
    requests_all_or_nothing _ _ _ (by decide +kernel)⟩

end Core
end DeviceLink
