import DeviceLink.Proofs.Core.Run
import DeviceLink.Proofs.Session.Rest

namespace DeviceLink
namespace Session

variable {σ : Type}

/-!
Synchronous requests over whole runs: which of them the registry knows, and what each of
them ends with and when.  `Correlation` has the answers: what a move that opens a
request does, what is in the registry when everything is at rest, when a request finds a
result and which one it is, and what passes it by.  All of it holds as long as the
message ids have not come round.
-/

/-! ## Requests that are opened -/

/--
A move makes a request whose frame the link takes, and this is the request.  The message id
is the next one, and the deadline is counted from the present time.
-/
def Opens (session : Session σ) (move : Move σ) (call : Call) : Prop :=
  ∃ device request payload,
    move = .request call.tag.label device request call.wait.budget ∧ call.since = session.now ∧
      session.core.prepare device request = .ok payload ∧
        (session.core.send (request.frame call.messageId payload)).1 = .ok ()

theorem opened_not_counted (call : Call) (core : Core σ) (device : Address) (request : Request) :
    .opened call ∉ counted core device request := by
  unfold counted
  split <;> simp

theorem opens_of_requested {session : Session σ} {label : String} {device : Address}
    {request : Request} {budget : Duration} {call : Call}
    (shown : .opened call ∈ session.requested label device request budget) :
    session.Opens (.request label device request budget) call := by
  unfold requested at shown
  cases clock : session.core.clock.after? session.now budget with
  | none =>
      rw [clock] at shown
      cases shown
  | some due =>
      rw [clock] at shown
      rcases List.mem_append.mp shown with inside | inside
      · exact absurd inside (opened_not_counted call session.core device request)
      · cases prepared : session.core.prepare device request with
        | error failure =>
            simp only [Core.sendSync, clock, prepared, opening] at inside
            cases inside
        | ok payload =>
            simp only [Core.sendSync, clock, prepared] at inside
            cases opens : session.core.takeId.2.openWait request session.core.takeId.1
                payload due budget with
            | mk opening core =>
                rw [opens] at inside
                cases opening with
                | fails failure => cases inside
                | crashes => cases inside
                | waits wait =>
                    cases List.mem_singleton.mp inside
                    rcases Core.sent_of_openWait opens with ⟨rfl, sent⟩
                    have direct := Core.sent_eq session.core session.core.takeId.2 rfl rfl
                      (request.frame session.core.takeId.1 payload)
                    exact ⟨device, request, payload, rfl, rfl, prepared, direct ▸ sent⟩

theorem opens_of_observe {session : Session σ} {move : Move σ} {call : Call}
    (shown : .opened call ∈ observe session move) : session.Opens move call := by
  cases move with
  | request label device request budget => exact opens_of_requested shown
  | report device request =>
      exact absurd shown (opened_not_counted call session.core device request)
  | receive text =>
      simp only [observe, received] at shown
      split at shown <;> simp at shown
  | shutdown label => simp [observe] at shown
  | abort label =>
      simp only [observe, aborted] at shown
      split at shown
      · cases shown
      · split at shown <;> simp at shown
  | poll tag =>
      simp only [observe, polled] at shown
      split at shown <;> simp at shown
  | _ => cases shown

/-! ## The results -/

/--
The moves that pass by a request for a reply to a message id.  Links come and go under it,
and replies to other message ids are delivered to others.
-/
def Move.passes (messageId : UInt32) : Move σ → Bool
  | establish _ => true
  | closeLink => true
  | receive text =>
      match Inbound.ofText text with
      | .ok (.response other _ _) => other ≠ messageId
      | _ => true
  | _ => false

namespace Correlated

variable {past : List Occurrence} {session : Session σ} {call : Call}

theorem waits_of_split (correlated : Correlated past session) {earlier later : List Occurrence}
    (split : past = earlier ++ .opened call :: later) (waits : call.tag ∉ concluded past) :
    call ∈ waiting past ∧
      ∀ now, call.outcome? (since past call.tag) now = call.outcome? later now := by
  have inside : call ∈ opened past := by
    rw [mem_opened, split]
    exact List.mem_append_right _ List.mem_cons_self
  refine ⟨mem_waiting.mpr ⟨inside, waits⟩, fun now => ?_⟩
  rw [split, since_split (correlated.orderly.fresh_of_split split)]
  rfl

theorem outcome_of_atRest (correlated : Correlated past session) (rest : session.AtRest)
    (waits : call ∈ waiting past) :
    call.outcome? (since past call.tag) session.now = none := by
  have nothing := atRest_iff.mp rest _ (correlated.mem_callers.mpr ⟨call, waits, rfl⟩)
  rw [result?_eq (correlated.handle?_eq waits)] at nothing
  exact nothing

theorem ids_eq (correlated : Correlated past session) (rest : session.AtRest) :
    session.core.registry.entries.map Entry.messageId =
      (waiting past).map Call.messageId := by
  have pending : ∀ call ∈ waiting past,
      (handleOf past call).pending? = some ⟨call.messageId, call.wait.token⟩ := by
    intro call waits
    have nothing := correlated.outcome_of_atRest rest waits
    have undecided : decided? past call = none := (Option.or_eq_none_iff.mp nothing).1
    rw [handleOf, undecided]
    rfl
  have entries_eq : session.core.registry.entries =
      (waiting past).map fun call => ⟨call.messageId, call.wait.token⟩ := by
    rw [correlated.coherent.entries_eq, correlated.handles_eq, List.filterMap_map,
      ← List.filterMap_eq_map]
    exact List.filterMap_congr pending
  rw [entries_eq, List.map_map]
  rfl

/--
What passes by a request shows nothing, or a reply to somebody else.  Neither is an
occurrence that decides anything for the request.
-/
theorem shown_of_passes {messageId : UInt32} (session : Session σ) {move : Move σ}
    (passes : move.passes messageId = true) :
    observe session move = [] ∨
      ∃ reply : Reply, observe session move = [.replied reply] ∧ reply.messageId ≠ messageId := by
  cases move with
  | receive text =>
      simp only [Move.passes] at passes
      simp only [observe, received]
      cases inbound : Inbound.ofText text with
      | error fault => exact Or.inl rfl
      | ok frame =>
          cases frame with
          | call => exact Or.inl rfl
          | response other code payload =>
              rw [inbound] at passes
              exact Or.inr ⟨⟨other, code, payload⟩, rfl, of_decide_eq_true passes⟩
  | establish | closeLink => exact Or.inl rfl
  | _ => cases passes

theorem passed (correlated : Correlated past session) (few : issued past < UInt32.size)
    (setup : Setup σ) (waits : call ∈ waiting past) {move : Move σ}
    (passes : move.passes call.messageId = true) :
    call ∈ waiting (past ++ observe session move) ∧
      (session.perform setup move).seen? call.tag = session.seen? call.tag := by
  have now_eq : (session.perform setup move).now = session.now := by
    cases move with
    | establish | closeLink | receive => rfl
    | _ => cases passes
  have still : issued (past ++ observe session move) = issued past := by
    rw [issued_append]
    rcases shown_of_passes session passes with shown | ⟨reply, shown, -⟩ <;> rw [shown] <;> rfl
  have after := correlated.perform setup move (still ▸ few)
  rcases shown_of_passes session passes with shown | ⟨reply, shown, other⟩
  · rw [shown, List.append_nil] at after ⊢
    exact ⟨waits, by rw [after.seen?_eq waits, correlated.seen?_eq waits, now_eq]⟩
  · rw [shown] at after ⊢
    have waits_on : call ∈ waiting (past ++ [.replied reply]) := by
      rw [waiting_concat_quiet rfl rfl]
      exact waits
    have undecided : (Occurrence.replied reply).decision? call.messageId = none := if_neg other
    refine ⟨waits_on, ?_⟩
    rw [after.seen?_eq waits_on, correlated.seen?_eq waits, now_eq,
      since_concat (mem_waiting.mp waits).1, Call.outcome?, List.findSome?_append,
      List.findSome?_singleton, undecided, Option.or_none, Call.outcome?]

end Correlated

/--
What becomes of the synchronous requests of a run.  Everything is said in terms of the
history, that is, of what can be seen from outside.
-/
structure Correlation (setup : Setup σ) (start : Session σ) (moves : List (Move σ)) :
    Prop where
  orderly : Orderly (history setup start moves)
  /-- A request that is opened was made by this move, and its frame is on its way. -/
  opens : ∀ earlier move later call, moves = earlier ++ move :: later →
    .opened call ∈ observe (run setup start earlier) move →
      (run setup start earlier).Opens move call
  /--
  At rest the registry holds the message ids of those who wait, and nothing else.  So no
  entry outlives its request, and no request loses its entry.
  -/
  ids_eq : (run setup start moves).AtRest →
    (run setup start moves).core.registry.entries.map Entry.messageId =
      (waiting (history setup start moves)).map Call.messageId
  inFlight_eq : (run setup start moves).AtRest →
    (run setup start moves).inFlight = (waiting (history setup start moves)).length
  /--
  A request that looks finds its result if and only if there is one.  It finds the first
  thing that has been decided for it, and looking again would show the same.
  -/
  finds : ∀ earlier call later, history setup start moves = earlier ++ .opened call :: later →
    call.tag ∉ concluded (history setup start moves) →
      (run setup start moves).seen? call.tag =
        (call.outcome? later (run setup start moves).now).map fun result => (call.wait, result)
  /--
  At rest nobody waits for whom anything has been decided or whose deadline has come.
  Whoever still waits has time left, and no reply to it has come.
  -/
  ahead : (run setup start moves).AtRest → ∀ earlier call later,
    history setup start moves = earlier ++ .opened call :: later →
      call.tag ∉ concluded (history setup start moves) →
        later.findSome? (Occurrence.decision? call.messageId) = none ∧
          (run setup start moves).now < call.wait.deadline
  /--
  The link, and replies to others, neither end a request nor change what it finds.  In
  particular a request outlives the link on which its frame was sent.
  -/
  passed : ∀ call ∈ waiting (history setup start moves), ∀ move : Move σ,
    move.passes call.messageId = true →
      call ∈ waiting (history setup start (moves ++ [move])) ∧
        (run setup start (moves ++ [move])).seen? call.tag =
          (run setup start moves).seen? call.tag
  /--
  Without anything from outside the session comes to rest, and no time passes.  What the
  history decides can therefore always be found out.
  -/
  settles : ∃ more, Settling setup (run setup start moves) more

/--
Synchronous requests in any run of a session in which the message ids do not come
round, with a look of somebody who waits, a step of a task, or an operation of
anybody else as a move.
-/
theorem calls_correlated (setup : Setup σ) (world : σ) (moves : List (Move σ))
    (few : issued (history setup (new setup world) moves) < UInt32.size) :
    Correlation setup (new setup world) moves := by
  have correlated := Correlated.run setup world moves few
  exact
    { orderly := correlated.orderly
      opens := fun _ _ _ _ _ shown => opens_of_observe shown
      ids_eq := correlated.ids_eq
      inFlight_eq := by
        intro rest
        have ids := congrArg List.length (correlated.ids_eq rest)
        rw [List.length_map, List.length_map] at ids
        exact ids
      finds := by
        intro earlier call later split waits
        rcases correlated.waits_of_split split waits with ⟨inside, outcome_eq⟩
        rw [correlated.seen?_eq inside, outcome_eq]
      ahead := by
        intro rest earlier call later split waits
        rcases correlated.waits_of_split split waits with ⟨inside, outcome_eq⟩
        have nothing := correlated.outcome_of_atRest rest inside
        rw [outcome_eq, Call.outcome?, Option.or_eq_none_iff] at nothing
        refine ⟨nothing.1, Nat.lt_of_not_le fun due => ?_⟩
        rw [if_pos due] at nothing
        cases nothing.2
      passed := by
        intro call waits move passes
        have history_eq : history setup (new setup world) (moves ++ [move]) =
            history setup (new setup world) moves ++
              observe (run setup (new setup world) moves) move := by
          rw [history, Run.history_append]
          exact congrArg _ (List.append_nil _)
        have run_eq : run setup (new setup world) (moves ++ [move]) =
            perform setup (run setup (new setup world) moves) move := List.foldl_append
        rw [history_eq, run_eq]
        exact correlated.passed few setup waits passes
      settles := exists_settling setup _ }

/--
Two requests, of which the second has its reply before the link goes down, while the
first waits until its deadline.
-/
def linkLost : List (Move Unit) :=
  let lamp : Address := ⟨"house", "lamp"⟩
  [.establish (.record "gateway"),
    .request "first" lamp .online (.ofSeconds 5), .request "second" lamp .offline (.ofSeconds 5),
    .receive "\x7b\"messageId\":2,\"code\":0,\"payload\":\x7b\x7d\x7d", .closeLink,
    .poll ⟨"second", 1⟩, .poll ⟨"first", 0⟩, .advance (.ofSeconds 5), .poll ⟨"first", 0⟩]

theorem calls_correlated_linkLost :
    Correlation Core.plainSetup (new Core.plainSetup ()) linkLost ∧
      concluded (history Core.plainSetup (new Core.plainSetup ()) linkLost) =
        [⟨"second", 1⟩, ⟨"first", 0⟩] :=
  ⟨calls_correlated Core.plainSetup () linkLost (by decide +kernel), by decide +kernel⟩

end Session
end DeviceLink
