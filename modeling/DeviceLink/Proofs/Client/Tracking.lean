import DeviceLink.Proofs.Client.Standing

namespace DeviceLink
namespace Client

variable {σ : Type}

/-!
Every move of a client keeps what is true of the client and its log, so every run does.
A move that brings an attempt to its end shows how the attempt came out and what the
client makes of it; what others do shows up only if it ends the run.  There is one lemma
for each move, and each of them is put together from the lemmas about shutting down,
starting an attempt and concluding one.  `tracks_run` is the induction over the moves;
nothing about single moves is needed after it.
-/

section

variable {plan : Plan} {setup : Setup σ} {past : List Milestone} {client : Client σ}
  {milestone : Milestone} {backoff : Backoff} {session : Session σ} {cancelled : Bool}
  {failure : Failure}

/-! ## Moves -/

theorem stage_shutDown (client : Client σ) (setup : Setup σ) (failure : Failure) :
    (client.shutDown setup failure).stage = .closing failure ∨
      (client.shutDown setup failure).stage = .finished failure := by
  unfold shutDown
  generalize client.session.shutdownCore setup none = result
  rcases result with ⟨_ | _, session⟩
  · exact .inl rfl
  · exact .inr rfl

theorem stage_afterAttempt (plan : Plan) (client : Client σ) (setup : Setup σ) :
    (∃ resumeAt, (client.afterAttempt plan setup).stage = .pausing resumeAt) ∨
      ∃ failure, (client.afterAttempt plan setup).stage = .closing failure ∨
        (client.afterAttempt plan setup).stage = .finished failure := by
  unfold afterAttempt
  split
  · exact .inr ⟨_, .inr rfl⟩
  · split
    · exact .inr ⟨_, stage_shutDown client setup _⟩
    · exact .inl ⟨_, rfl⟩

theorem stage_attemptAgain (plan : Plan) (client : Client σ) (setup : Setup σ) :
    (∃ deadline, (client.attemptAgain plan setup).stage = .connecting deadline) ∨
      (client.attemptAgain plan setup).stage = .closing .shutdown ∨
        (client.attemptAgain plan setup).stage = .finished .shutdown := by
  unfold attemptAgain
  split
  · exact .inr (stage_shutDown client setup .shutdown)
  · exact .inl ⟨_, rfl⟩

/--
The stages of a client that goes on come before those of its end.  That is how a move that
ends a client can be told from the numbers of its stages.
-/
theorem ctorIdx_lt {before : Client σ} (running : before.isRunning = true) :
    before.stage.ctorIdx < 3 := by
  rcases before with ⟨session, attempt, cancelled, stage⟩
  cases stage with
  | connecting deadline => exact (by decide : 0 < 3)
  | serving quietSince firstPing => exact (by decide : 1 < 3)
  | pausing resumeAt => exact (by decide : 2 < 3)
  | closing | finished | crashed => cases running

theorem arrived_shutDown {before : Client σ} (running : before.isRunning = true) :
    arrived before (client.shutDown setup failure) = (client.shutDown setup failure).arrival := by
  refine if_neg fun same => ?_
  have early := ctorIdx_lt running
  rcases stage_shutDown client setup failure with stage | stage <;> rw [same, stage] at early
  · exact absurd early (by decide : ¬ 3 < 3)
  · exact absurd early (by decide : ¬ 4 < 3)

theorem arrived_afterAttempt {before : Client σ} (trying : before.stage.ctorIdx < 2) :
    arrived before (client.afterAttempt plan setup) = (client.afterAttempt plan setup).arrival := by
  refine if_neg fun same => ?_
  rcases stage_afterAttempt plan client setup with ⟨_, stage⟩ | ⟨_, stage | stage⟩ <;>
    rw [same, stage] at trying
  · exact absurd trying (by decide : ¬ 2 < 2)
  · exact absurd trying (by decide : ¬ 3 < 2)
  · exact absurd trying (by decide : ¬ 4 < 2)

theorem arrived_attemptAgain {before : Client σ} {resumeAt : Nat}
    (pausing : before.stage = .pausing resumeAt) :
    arrived before (client.attemptAgain plan setup) = (client.attemptAgain plan setup).arrival := by
  refine if_neg fun same => ?_
  rw [pausing] at same
  rcases stage_attemptAgain plan client setup with ⟨_, stage⟩ | stage | stage <;>
    rw [stage] at same <;> cases same

/--
A move that does nothing shows nothing.  Its log stays as it is, and so does all that is
true of it.
-/
theorem Tracks.unmoved {move : Move σ} (tracks : Tracks plan setup past client)
    (still : client.perform plan setup move = client) (alone : surroundings client move = [])
    (undecided : client.concluded? plan setup move = none) :
    Tracks plan setup (past ++ observe plan setup client move)
      (client.perform plan setup move) := by
  have quiet : observe plan setup client move = [] := by
    rw [observe, alone, undecided, still, arrived, if_pos rfl]
    rfl
  rw [quiet, still, List.append_nil]
  exact tracks

/--
A milestone of the surroundings changes nothing about what the client does.  What the client
knows concerns its own milestones and the core.
-/
theorem Stands.foreign {grace : Duration} {attempt : UInt32} {stage : Stage}
    (stands : Stands backoff grace past session attempt stage) (foreign : milestone.isOwn = false) :
    Stands backoff grace (past ++ [milestone]) session attempt stage := by
  have unending : milestone.ending? = none ∧ milestone.attempt? = none := by
    cases milestone with
    | told | shut => exact ⟨rfl, rfl⟩
    | began | cameUp | tried | returned => cases foreign
  have ends (failure : Failure) : ∀ other, milestone.ending? = some other → other = failure := by
    intro other ends
    cases unending.1.symm.trans ends
  have latest : latest? (past ++ [milestone]) = latest? past := latest?_concat_other foreign
  have same : attempts (past ++ [milestone]) = attempts past := by
    rw [attempts_concat, unending.2, Option.toList_none, List.append_nil]
  cases stage with
  | connecting deadline =>
      rcases stands with ⟨goesOn, began, counted, allowed⟩
      refine ⟨goesOn.concat unending.1, latest ▸ began, ?_⟩
      rw [count_concat unending.2]
      exact ⟨counted, allowed⟩
  | serving quietSince firstPing =>
      exact ⟨stands.1.concat unending.1, latest ▸ stands.2⟩
  | pausing resumeAt =>
      rcases stands with ⟨goesOn, tried, counted, allowed⟩
      refine ⟨goesOn.concat unending.1, latest ▸ tried, ?_⟩
      rw [same]
      exact ⟨counted, allowed⟩
  | closing failure =>
      refine ⟨fun other inside => ?_, stands.endsIn.concat (ends failure), stands.closed, ?_,
        stands.within⟩
      · rcases List.mem_append.mp inside with before | last
        · exact stands.unreturned other before
        · cases List.mem_singleton.mp last
          cases foreign
      · unfold Justified
        rw [latest]
        refine stands.justified.imp_left fun stops => ⟨stops.1, ?_, ?_⟩
        · exact stops.2.1.imp (List.mem_append_left _) (List.mem_append_left _)
        · exact unended_concat stops.2.2 unending.1
  | finished failure =>
      exact ⟨stands.endsIn.concat (ends failure), stands.closed,
        List.mem_append_left _ stands.returned⟩
  | crashed => exact unended_concat stands unending.1

/--
What is done to the core by others changes nothing about what the client does.  Only its
phase matters, and that it is told when it closes.
-/
theorem Stands.of_session {grace : Duration} {attempt : UInt32} {stage : Stage} {next : Session σ}
    (stands : Stands backoff grace past session attempt stage)
    (stays : session.phase = .closed → next.phase = .closed)
    (told : next.phase = .closed → session.phase = .closed ∨ .shut ∈ past)
    (within : session.EndsWithin grace → next.EndsWithin grace) :
    Stands backoff grace past next attempt stage := by
  have goOn (goesOn : GoesOn past session) : GoesOn past next :=
    ⟨goesOn.unended, fun closed => (told closed).elim goesOn.shut_of_closed id⟩
  cases stage with
  | connecting deadline => exact ⟨goOn stands.1, stands.2⟩
  | serving quietSince firstPing => exact ⟨goOn stands.1, stands.2⟩
  | pausing resumeAt => exact ⟨goOn stands.1, stands.2⟩
  | closing failure =>
      exact ⟨stands.unreturned, stands.endsIn, stays stands.closed, stands.justified,
        within stands.within⟩
  | finished failure => exact ⟨stands.endsIn, stays stands.closed, stands.returned⟩
  | crashed => exact stands

theorem Tracks.tell (tracks : Tracks plan setup past client) :
    Tracks plan setup (past ++ observe plan setup client .tell)
      (client.perform plan setup .tell) := by
  have shown : observe plan setup client .tell = [.told] := by
    rw [observe, perform, arrived, if_pos rfl]
    rfl
  rw [shown]
  exact ⟨tracks.ledger.tell, tracks.stands.foreign rfl⟩

theorem Tracks.outside (tracks : Tracks plan setup past client) (move : Session.Move σ) :
    Tracks plan setup (past ++ observe plan setup client (.outside move))
      (client.perform plan setup (.outside move)) := by
  have shown : observe plan setup client (.outside move) =
      surroundings client (.outside move) := by
    rw [observe, perform, arrived, if_pos rfl, List.append_nil]
    exact List.append_nil _
  have ends : (client.session.perform setup move).EndsClosed :=
    tracks.ledger.endsClosed.perform move
  have stays (closed : client.session.phase = .closed) :
      (client.session.perform setup move).phase = .closed :=
    Session.phase_perform_of_closed closed move
  have kept := tracks.ledger.of_session ends stays
  rw [shown]
  by_cases others : ∃ label, move = .shutdown label
  · rcases others with ⟨label, rfl⟩
    by_cases closed : client.session.phase = .closed
    · rw [surroundings, if_pos closed, List.append_nil]
      exact ⟨kept, tracks.stands.of_session stays (fun _ => .inl closed) (·.perform _)⟩
    · rw [surroundings, if_neg closed]
      have shut : .shut ∈ past ++ [.shut] := List.mem_append_right _ (List.mem_singleton.mpr rfl)
      exact ⟨kept.shut (Session.phase_perform_shutdown label),
        (tracks.stands.foreign rfl).of_session stays (fun _ => .inr shut) (·.perform _)⟩
  · rw [not_exists] at others
    have quiet : surroundings client (.outside move) = [] := by
      cases move with
      | shutdown label => exact absurd rfl (others label)
      | _ => rfl
    rw [quiet, List.append_nil]
    exact ⟨kept, tracks.stands.of_session stays
      (fun closed => .inl ((Session.closed_perform_iff others).mp closed)) (·.perform _)⟩

theorem Tracks.goesOn (tracks : Tracks plan setup past client)
    (running : client.isRunning = true) : GoesOn past client.session := by
  rcases client with ⟨session, attempt, cancelled, stage⟩
  cases stage with
  | connecting | serving | pausing => exact tracks.stands.1
  | closing | finished | crashed => cases running

theorem Tracks.heed (tracks : Tracks plan setup past client) :
    Tracks plan setup (past ++ observe plan setup client .heed)
      (client.perform plan setup .heed) := by
  by_cases told : (client.cancelled && client.isRunning) = true
  · have does : client.perform plan setup .heed = client.shutDown setup .shutdown := if_pos told
    have heeds := Bool.and_eq_true_iff.mp told
    rw [observe, does, arrived_shutDown heeds.2]
    exact tracks_shutdown setup tracks.ledger (tracks.goesOn heeds.2) (.inl heeds.1)
  · exact tracks.unmoved (if_neg told) rfl rfl

/--
A move that brings an attempt to its end shows how, and what the client makes of it.  The
ways in which an attempt can end differ only in how it came out.
-/
theorem tracks_conclude {move : Move σ} {attempt : Attempt} {next : Client σ}
    (does : client.perform plan setup move = next.afterAttempt plan setup)
    (alone : surroundings client move = [])
    (ended : client.concluded? plan setup move = some attempt) (trying : client.stage.ctorIdx < 2)
    (after : Tracks plan setup
      (past ++ [.tried attempt (next.afterAttempt plan setup).ruling] ++
        (next.afterAttempt plan setup).arrival) (next.afterAttempt plan setup)) :
    Tracks plan setup (past ++ observe plan setup client move)
      (client.perform plan setup move) := by
  have shown : observe plan setup client move =
      [.tried attempt (next.afterAttempt plan setup).ruling] ++
        (next.afterAttempt plan setup).arrival := by
    rw [observe, alone, ended, does, arrived_afterAttempt trying]
    rfl
  rw [shown, does, ← List.append_assoc]
  exact after

theorem Tracks.fail (tracks : Tracks plan setup past client) :
    Tracks plan setup (past ++ observe plan setup client .fail)
      (client.perform plan setup .fail) := by
  rcases client with ⟨session, attempt, cancelled, stage⟩
  cases stage with
  | connecting deadline =>
      rcases tracks.stands with ⟨goesOn, began, counted, allowed⟩
      exact tracks_conclude rfl rfl rfl (by decide : 0 < 2)
        (tracks_afterAttempt setup _ .failed tracks.ledger goesOn began counted allowed)
  | serving | pausing | closing | finished | crashed => exact tracks.unmoved rfl rfl rfl

/--
A client whose core has been changed by a move that does not shut it down.  Such a move is
no milestone at all.
-/
theorem Tracks.moved (tracks : Tracks plan setup past client) {move : Session.Move σ}
    (other : ∀ label, move ≠ .shutdown label) :
    Tracks plan setup past { client with session := client.session.perform setup move } := by
  have same : (client.session.perform setup move).phase = .closed ↔
      client.session.phase = .closed := Session.closed_perform_iff other
  exact ⟨tracks.ledger.of_session (tracks.ledger.endsClosed.perform move) same.mpr,
    tracks.stands.of_session same.mpr (fun closed => .inl (same.mp closed)) (·.perform move)⟩

theorem tracks_serve (setup : Setup σ)
    (ledger : Ledger plan.backoff past client.session client.cancelled)
    (goesOn : GoesOn past client.session) (began : ∃ now, latest? past = some (.began now)) :
    Tracks plan setup (past ++ [.cameUp client.session.now]) (client.serve plan) := by
  have next : Ledger plan.backoff (past ++ [.cameUp client.session.now]) client.session
      client.cancelled := ledger.concat rfl began
  have left : GoesOn (past ++ [.cameUp client.session.now]) client.session := goesOn.concat rfl
  unfold serve
  split
  · exact ⟨next, left, _, latest?_concat_own rfl⟩
  · exact ⟨next, left.unended⟩

theorem arrived_serve {before : Client σ} {deadline : Nat}
    (connecting : before.stage = .connecting deadline) :
    arrived before (client.serve plan) = [.cameUp client.session.now] := by
  unfold serve arrived arrival
  rw [connecting]
  split <;> rfl

/--
A link that comes up is served, unless the core refuses it.  A core that refuses it has been
shut down, and then the attempt counts as failed.
-/
theorem Tracks.linkUp (tracks : Tracks plan setup past client) :
    Tracks plan setup (past ++ observe plan setup client .linkUp)
      (client.perform plan setup .linkUp) := by
  rcases client with ⟨session, attempt, cancelled, stage⟩
  cases stage with
  | connecting deadline =>
      let outlet : Outlet := .queue plan.outboundCapacity [] true
      have establishes : ∀ label : String, (.establish outlet : Session.Move σ) ≠ .shutdown label :=
        nofun
      have moved := tracks.moved establishes
      rcases moved.stands with ⟨goesOn, began, counted, allowed⟩
      cases accepted : (session.core.establish setup outlet).1 with
      | false =>
          refine tracks_conclude ?_ rfl ?_ (by decide : 0 < 2)
            (tracks_afterAttempt setup _ .failed moved.ledger goesOn began counted allowed)
          · exact if_neg (Bool.eq_false_iff.mp accepted)
          · exact if_neg (Bool.eq_false_iff.mp accepted)
      | true =>
          have does : Client.perform plan setup ⟨session, attempt, cancelled, .connecting deadline⟩
              .linkUp = serve plan ⟨session.perform setup (.establish outlet), attempt, cancelled,
                .connecting deadline⟩ := if_pos accepted
          have undecided : concluded? plan setup ⟨session, attempt, cancelled, .connecting deadline⟩
              .linkUp = none := if_pos accepted
          rw [observe, undecided, does, arrived_serve rfl]
          exact tracks_serve setup moved.ledger goesOn began
  | serving | pausing | closing | finished | crashed => exact tracks.unmoved rfl rfl rfl

/--
A link that was up starts the count of the failures again.  Whatever failed before it is
forgotten, and the next pause is a short one.
-/
theorem tracks_linkDown {move : Move σ}
    (tracks : Tracks plan setup past client) {quietSince : Nat} {firstPing : Option Nat}
    (serving : client.stage = .serving quietSince firstPing)
    (does : client.perform plan setup move = client.linkDown plan setup)
    (alone : surroundings client move = [])
    (ended : client.concluded? plan setup move = some .served) :
    Tracks plan setup (past ++ observe plan setup client move)
      (client.perform plan setup move) := by
  rcases client with ⟨session, attempt, cancelled, stage⟩
  cases serving
  have closes : ∀ label : String, (.closeLink : Session.Move σ) ≠ .shutdown label := nofun
  have moved := tracks.moved closes
  rcases moved.stands with ⟨goesOn, cameUp⟩
  have unmissed : count past .served = 0 := misses_served _
  have counted : (0 : UInt32) = .ofNat (count past .served) := by
    rw [unmissed]
    rfl
  have allowed : Allows plan.backoff (count past .served) := fun _ => unmissed ▸ Nat.zero_le _
  exact tracks_conclude does alone ended (by decide : 1 < 2)
    (tracks_afterAttempt setup
      ⟨session.perform setup .closeLink, 0, cancelled, .serving quietSince firstPing⟩ .served
      moved.ledger goesOn cameUp counted allowed)

theorem Tracks.linkDown (tracks : Tracks plan setup past client) :
    Tracks plan setup (past ++ observe plan setup client .linkDown)
      (client.perform plan setup .linkDown) := by
  rcases client with ⟨session, attempt, cancelled, stage⟩
  cases stage with
  | serving quietSince firstPing => exact tracks_linkDown tracks rfl rfl rfl rfl
  | connecting | pausing | closing | finished | crashed => exact tracks.unmoved rfl rfl rfl

theorem Tracks.hear (tracks : Tracks plan setup past client) :
    Tracks plan setup (past ++ observe plan setup client .hear)
      (client.perform plan setup .hear) := by
  rcases client with ⟨session, attempt, cancelled, stage⟩
  cases stage with
  | serving quietSince firstPing =>
      have heard : Tracks plan setup (past ++ [])
          ⟨session, attempt, cancelled, .serving session.now firstPing⟩ := by
        rw [List.append_nil]
        exact ⟨tracks.ledger, tracks.stands⟩
      exact heard
  | connecting | pausing | closing | finished | crashed => exact tracks.unmoved rfl rfl rfl

theorem Tracks.receive (tracks : Tracks plan setup past client) (text : String) :
    Tracks plan setup (past ++ observe plan setup client (.receive text))
      (client.perform plan setup (.receive text)) := by
  rcases client with ⟨session, attempt, cancelled, stage⟩
  cases stage with
  | serving quietSince firstPing =>
      have heard : Tracks plan setup past
          ⟨session, attempt, cancelled, .serving session.now firstPing⟩ :=
        ⟨tracks.ledger, tracks.stands⟩
      have receives : ∀ label : String, (.receive text : Session.Move σ) ≠ .shutdown label := nofun
      have does : Client.perform plan setup
          ⟨session, attempt, cancelled, .serving quietSince firstPing⟩ (.receive text) =
        if plan.maxInboundBytes < text.utf8ByteSize then
          ⟨session, attempt, cancelled, .serving session.now firstPing⟩
        else
          ⟨session.perform setup (.receive text), attempt, cancelled,
            .serving session.now firstPing⟩ := rfl
      have quiet : observe plan setup ⟨session, attempt, cancelled, .serving quietSince firstPing⟩
          (.receive text) = [] := by
        rw [observe, does, arrived]
        split <;> rfl
      rw [quiet, does, List.append_nil]
      split
      · exact heard
      · exact heard.moved receives
  | connecting | pausing | closing | finished | crashed => exact tracks.unmoved rfl rfl rfl

/--
What time brings about.  A deadline that has passed ends an attempt, a link that was silent
for too long is lost, and a pause that is over leads to an attempt.
-/
theorem Tracks.passTime (tracks : Tracks plan setup past client) :
    Tracks plan setup (past ++ observe plan setup client .passTime)
      (client.perform plan setup .passTime) := by
  rcases client with ⟨session, attempt, cancelled, stage⟩
  cases stage with
  | connecting deadline =>
      by_cases elapsed : deadline ≤ session.now
      · rcases tracks.stands with ⟨goesOn, began, counted, allowed⟩
        exact tracks_conclude (if_pos elapsed) rfl (if_pos elapsed) (by decide : 0 < 2)
          (tracks_afterAttempt setup _ .failed tracks.ledger goesOn began counted allowed)
      · exact tracks.unmoved (if_neg elapsed) rfl (if_neg elapsed)
  | serving quietSince firstPing =>
      by_cases silent : quietSince + plan.idleLimit.nanoseconds ≤ session.now
      · exact tracks_linkDown tracks rfl (if_pos silent) rfl (if_pos silent)
      · exact tracks.unmoved (if_neg silent) rfl (if_neg silent)
  | pausing resumeAt =>
      by_cases elapsed : resumeAt ≤ session.now
      · rcases tracks.stands with ⟨goesOn, ⟨last, since, tried⟩, counted, allowed⟩
        have attempted : attempts past ≠ [] := attempts_ne_nil (mem_of_latest? tried)
        have one_more : count past .failed = misses (attempts past) + 1 := misses_failed attempted
        have counts : attempt + 1 = .ofNat (count past .failed) := by
          rw [one_more, UInt32.ofNat_add, ← counted]
          rfl
        have does : Client.perform plan setup ⟨session, attempt, cancelled, .pausing resumeAt⟩
            .passTime = attemptAgain plan setup
              ⟨session, attempt + 1, cancelled, .pausing resumeAt⟩ := if_pos elapsed
        rw [observe, does, arrived_attemptAgain rfl]
        exact tracks_attemptAgain tracks.ledger goesOn
          (.inr ⟨last, since, resumeAt, tried, elapsed⟩) counts (one_more ▸ allowed)
      · exact tracks.unmoved (if_neg elapsed) rfl rfl
  | closing | finished | crashed => exact tracks.unmoved rfl rfl rfl

/--
A client ends with its core, for the reason that is on record.  What it returns has been
settled before, or comes from the shutdown by somebody else.
-/
theorem Tracks.justified_ending (tracks : Tracks plan setup past client)
    (closed : client.session.phase = .closed) (ending : client.stage.ending? = some failure) :
    EndsIn past failure ∧ Justified plan.backoff past (.returned failure) := by
  rcases client with ⟨session, attempt, cancelled, stage⟩
  have ends (running : isRunning ⟨session, attempt, cancelled, stage⟩ = true) :
      EndsIn past .shutdown ∧ Justified plan.backoff past (.returned .shutdown) := by
    have goesOn := tracks.goesOn running
    exact ⟨.of_unended goesOn.unended _, justified_shutdown tracks.ledger goesOn (.inr closed)⟩
  cases stage with
  | connecting | serving | pausing =>
      cases ending
      exact ends rfl
  | closing =>
      cases ending
      exact ⟨tracks.stands.endsIn, tracks.stands.justified⟩
  | finished | crashed => cases ending

theorem Tracks.noticeEnd (tracks : Tracks plan setup past client) :
    Tracks plan setup (past ++ observe plan setup client .noticeEnd)
      (client.perform plan setup .noticeEnd) := by
  by_cases ended : client.session.ended = true
  · have closed := tracks.ledger.endsClosed.closed ended
    cases ending : client.stage.ending? with
    | none =>
        have still : client.noticeEnd = client := by rw [Client.noticeEnd, if_pos ended, ending]
        exact tracks.unmoved still rfl rfl
    | some failure =>
        have does : client.perform plan setup .noticeEnd =
            { client with stage := .finished failure } := by
          rw [perform, Client.noticeEnd, if_pos ended, ending]
        have shown : arrived client { client with stage := .finished failure } =
            [.returned failure] := by
          refine if_neg fun same => ?_
          cases stage : client.stage <;> rw [stage] at same ending <;> cases same
          cases ending
        rcases tracks.justified_ending closed ending with ⟨endsIn, justified⟩
        rw [observe, does, shown]
        exact tracks_finished tracks.ledger endsIn closed justified
  · exact tracks.unmoved (if_neg ended) rfl rfl

/--
Whatever happens to a client, its log goes on to account for what it does.  There is one
case for each move, and each of them adds the milestones that it shows.
-/
theorem Tracks.perform (tracks : Tracks plan setup past client) (move : Move σ) :
    Tracks plan setup (past ++ observe plan setup client move)
      (client.perform plan setup move) := by
  cases move with
  | outside move => exact tracks.outside move
  | tell => exact tracks.tell
  | heed => exact tracks.heed
  | fail => exact tracks.fail
  | linkUp => exact tracks.linkUp
  | linkDown => exact tracks.linkDown
  | hear => exact tracks.hear
  | receive text => exact tracks.receive text
  | passTime => exact tracks.passTime
  | noticeEnd => exact tracks.noticeEnd

/-! ## Runs -/

theorem cases_beforehand (inside : milestone ∈ beforehand session cancelled) :
    milestone = .told ∨ milestone = .shut := by
  unfold beforehand at inside
  rcases List.mem_append.mp inside with told | shut
  · split at told
    · exact .inl (List.mem_singleton.mp told)
    · cases told
  · split at shut
    · exact .inr (List.mem_singleton.mp shut)
    · cases shut

theorem ledger_beforehand (backoff : Backoff) (endsClosed : session.EndsClosed) :
    Ledger backoff (beforehand session cancelled) session cancelled where
  justified := by
    intro earlier milestone later split
    have inside : milestone ∈ beforehand session cancelled :=
      split ▸ List.mem_append_right _ List.mem_cons_self
    rcases cases_beforehand inside with rfl | rfl <;> trivial
  endsClosed := endsClosed
  told_iff := by
    by_cases closed : session.phase = .closed <;> cases cancelled <;> simp [beforehand, closed]
  closed_of_shut := by
    by_cases closed : session.phase = .closed
    · exact fun _ => closed
    · cases cancelled <;> simp [beforehand, closed]

theorem goesOn_beforehand (session : Session σ) (cancelled : Bool) :
    GoesOn (beforehand session cancelled) session where
  unended := by
    intro milestone inside
    rcases cases_beforehand inside with rfl | rfl <;> rfl
  shut_of_closed := by
    intro closed
    rw [beforehand, if_pos closed]
    exact List.mem_append_right _ (List.mem_singleton.mpr rfl)

theorem latest?_beforehand (session : Session σ) (cancelled : Bool) :
    latest? (beforehand session cancelled) = none := by
  refine List.find?_eq_none.mpr fun milestone inside own => ?_
  rcases cases_beforehand (List.mem_reverse.mp inside) with rfl | rfl <;> cases own

theorem attempts_beforehand (session : Session σ) (cancelled : Bool) :
    attempts (beforehand session cancelled) = [] := by
  refine List.filterMap_eq_nil_iff.mpr fun milestone inside => ?_
  rcases cases_beforehand inside with rfl | rfl <;> rfl

theorem tracks_start (plan : Plan) (setup : Setup σ) (endsClosed : session.EndsClosed)
    (cancelled : Bool) :
    Tracks plan setup
      (beforehand session cancelled ++ (start plan setup session cancelled).arrival)
      (start plan setup session cancelled) := by
  have unmissed : count (beforehand session cancelled) .failed = 0 := by
    rw [count, attempts_beforehand]
    rfl
  have counted : (0 : UInt32) = .ofNat (count (beforehand session cancelled) .failed) := by
    rw [unmissed]
    rfl
  exact tracks_attemptAgain (ledger_beforehand plan.backoff endsClosed)
    (goesOn_beforehand session cancelled) (.inl (latest?_beforehand session cancelled)) counted
    fun _ => unmissed ▸ Nat.zero_le _

theorem tracks_run (plan : Plan) (setup : Setup σ) (endsClosed : session.EndsClosed)
    (cancelled : Bool) (moves : List (Move σ)) :
    Tracks plan setup (log plan setup session cancelled moves)
      (run plan setup (start plan setup session cancelled) moves) :=
  Run.keeps (fun _ _ move _ tracks => tracks.perform move)
    (tracks_start plan setup endsClosed cancelled) fun _ _ => trivial

end

end Client
end DeviceLink
