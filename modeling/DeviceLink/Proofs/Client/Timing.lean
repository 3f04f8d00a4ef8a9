import DeviceLink.Proofs.Client.Tracking
import DeviceLink.Script

namespace DeviceLink

/-!
The sums of times that a client works out.  When a link comes up the client takes its
heartbeat three times, for how long the link may be silent, and adds it to the present
time, for the first ping.  Whoever makes a request adds its budget to the present time.
A sum that is too large crashes whoever works it out.  A plan is accepted whatever its
sums come to, so whether that happens depends on the plan and on the time.  `Timing`
says for both, and for every clock, exactly when that is.
-/

/--
How long a request may await its reply.  Announcements have a budget of their own, and
everything else shares another.
-/
def Options.budget (options : Options) : Request → Duration
  | .online => options.handshakeTimeout
  | .offline => options.handshakeTimeout
  | .properties _ => options.requestTimeout
  | .event _ _ => options.requestTimeout

/-- A plan with other spans than its own.  Whatever else the plan says stays as it is. -/
def Plan.withSpans (plan : Plan) (heartbeat report announcement : Duration) : Plan :=
  (plan.withHeartbeat heartbeat).withOptions fun options =>
    { options with requestTimeout := report, handshakeTimeout := announcement }

namespace Client

variable {σ : Type}

/--
All sums that come up at some time exist, if no moment after the last can be named.  There
are four of them: the span of a silent link, the first ping, and the deadlines of both kinds
of requests.
-/
structure InRange (plan : Plan) (last now : Nat) : Prop where
  silence : plan.idleLimit.Fits
  ping : now + plan.heartbeat.nanoseconds ≤ last
  report : now + plan.options.requestTimeout.nanoseconds ≤ last
  announcement : now + plan.options.handshakeTimeout.nanoseconds ≤ last

/--
Neither the client nor its pinger has crashed, and nobody crashes who makes a request now.
These are the three places where a sum is worked out.
-/
structure Sound (plan : Plan) (client : Client σ) : Prop where
  alive : client.stage ≠ .crashed
  pings : ∀ quietSince, client.stage ≠ .serving quietSince none
  opens : ∀ device request,
    (client.session.core.sendSync device request client.session.now
      (plan.options.budget request)).1 ≠ .crashes

/--
A client that has run on a core that others have used before.  Every state that a client can
be in is of this form.
-/
def reached (plan : Plan) (setup : Setup σ) (world : σ) (before : List (Session.Move σ))
    (cancelled : Bool) (moves : List (Move σ)) : Client σ :=
  run plan setup (start plan setup (Session.run setup (.new setup world) before) cancelled) moves

/-- The log of such a client.  It starts where the client does, and not where the core does. -/
def logged (plan : Plan) (setup : Setup σ) (world : σ) (before : List (Session.Move σ))
    (cancelled : Bool) (moves : List (Move σ)) : List Milestone :=
  log plan setup (Session.run setup (.new setup world) before) cancelled moves

/-! ## A move and the link -/

/--
Whether a link has come up and has not been lost.  A client that crashes does so while it
takes up its link, and counts as having it.
-/
def Stage.isUp : Stage → Bool
  | connecting _ => false
  | serving _ _ => true
  | pausing _ => false
  | closing _ => false
  | finished _ => false
  | crashed => true

/--
What a move can do to the stage of a client, and to the time.  Time never goes back, and a
link comes up in one way only.
-/
inductive Turn (plan : Plan) (client next : Client σ) : Prop
  | stays (same : next.stage = client.stage) (later : client.session.now ≤ next.session.now)
  | leaves (working : client.stage ≠ .crashed) (down : next.stage.isUp = false)
      (now_eq : next.session.now = client.session.now)
  | hears {quietSince heard : Nat} {firstPing : Option Nat}
      (serving : client.stage = .serving quietSince firstPing)
      (still : next.stage = .serving heard firstPing)
      (now_eq : next.session.now = client.session.now)
  | comesUp {deadline : Nat} (connecting : client.stage = .connecting deadline)
      (serves : next.stage =
        if plan.idleLimit.Fits then
          .serving client.session.now (client.session.due? plan.heartbeat)
        else .crashed)
      (now_eq : next.session.now = client.session.now)

section

variable {plan : Plan} {setup : Setup σ} {client next : Client σ} {past : List Milestone}
  {move : Move σ} {clock : Clock} {latest since : Nat}

theorem isUp_shutDown (client : Client σ) (setup : Setup σ) (failure : Failure) :
    (client.shutDown setup failure).stage.isUp = false := by
  rcases stage_shutDown client setup failure with stage | stage <;> rw [stage] <;> rfl

theorem isUp_afterAttempt (plan : Plan) (client : Client σ) (setup : Setup σ) :
    (client.afterAttempt plan setup).stage.isUp = false := by
  rcases stage_afterAttempt plan client setup with ⟨_, stage⟩ | ⟨_, stage | stage⟩ <;>
    rw [stage] <;> rfl

theorem isUp_attemptAgain (plan : Plan) (client : Client σ) (setup : Setup σ) :
    (client.attemptAgain plan setup).stage.isUp = false := by
  rcases stage_attemptAgain plan client setup with ⟨_, stage⟩ | stage | stage <;>
    rw [stage] <;> rfl

theorem now_shutDown (client : Client σ) (setup : Setup σ) (failure : Failure) :
    (client.shutDown setup failure).session.now = client.session.now := by
  simp only [shutDown, Session.shutdownCore, Session.drainPool]
  split
  · rfl
  · split <;> rfl

theorem now_afterAttempt (plan : Plan) (client : Client σ) (setup : Setup σ) :
    (client.afterAttempt plan setup).session.now = client.session.now := by
  unfold afterAttempt
  split
  · rfl
  · split
    · exact now_shutDown client setup _
    · rfl

theorem now_attemptAgain (plan : Plan) (client : Client σ) (setup : Setup σ) :
    (client.attemptAgain plan setup).session.now = client.session.now := by
  unfold attemptAgain
  split
  · exact now_shutDown client setup _
  · rfl

theorem clock_shutDown (client : Client σ) (setup : Setup σ) (failure : Failure) :
    (client.shutDown setup failure).session.core.clock = client.session.core.clock := by
  have same := client.session.clock_shutdownCore setup none
  exact same

theorem clock_afterAttempt (plan : Plan) (client : Client σ) (setup : Setup σ) :
    (client.afterAttempt plan setup).session.core.clock = client.session.core.clock := by
  unfold afterAttempt
  split
  · rfl
  · split
    · exact clock_shutDown client setup _
    · rfl

theorem clock_attemptAgain (plan : Plan) (client : Client σ) (setup : Setup σ) :
    (client.attemptAgain plan setup).session.core.clock = client.session.core.clock := by
  unfold attemptAgain
  split
  · exact clock_shutDown client setup _
  · rfl

theorem session_serve (plan : Plan) (client : Client σ) :
    (serve plan client).session = client.session := by
  unfold serve
  split <;> rfl

theorem working_of_isRunning (running : client.isRunning = true) : client.stage ≠ .crashed := by
  intro crashed
  rw [isRunning, crashed] at running
  cases running

theorem turn_shutDown (setup : Setup σ) (failure : Failure) (running : client.isRunning = true) :
    Turn plan client (client.shutDown setup failure) :=
  .leaves (working_of_isRunning running) (isUp_shutDown client setup failure)
    (now_shutDown client setup failure)

/--
An attempt comes to its end, after something has been done to the core.  The client leaves
the stage in which it could have a link.
-/
theorem turn_afterAttempt {done : Client σ} (setup : Setup σ) (running : client.isRunning = true)
    (now_eq : done.session.now = client.session.now) :
    Turn plan client (done.afterAttempt plan setup) :=
  .leaves (working_of_isRunning running) (isUp_afterAttempt plan done setup)
    ((now_afterAttempt plan done setup).trans now_eq)

theorem turn_linkUp (plan : Plan) (setup : Setup σ) (client : Client σ) :
    Turn plan client (client.linkUp plan setup) := by
  rcases client with ⟨session, attempt, cancelled, stage⟩
  cases stage with
  | connecting deadline =>
      simp only [linkUp]
      split
      · have same := (Core.apart_establish setup session.core
          (.queue plan.outboundCapacity [] true)).clock_eq
        refine .comesUp rfl ?_ (by rw [session_serve])
        simp only [serve, Session.due?, same]
        split <;> rfl
      · exact turn_afterAttempt setup rfl rfl
  | serving | pausing | closing | finished | crashed => exact .stays rfl le_rfl

theorem turn_passTime (plan : Plan) (setup : Setup σ) (client : Client σ) :
    Turn plan client (client.passTime plan setup) := by
  rcases client with ⟨session, attempt, cancelled, stage⟩
  cases stage with
  | connecting deadline =>
      simp only [passTime]
      split
      · exact turn_afterAttempt setup rfl rfl
      · exact .stays rfl le_rfl
  | serving quietSince firstPing =>
      simp only [passTime]
      split
      · exact turn_afterAttempt setup rfl rfl
      · exact .stays rfl le_rfl
  | pausing resumeAt =>
      simp only [passTime]
      split
      · exact .leaves (working_of_isRunning rfl) (isUp_attemptAgain plan _ setup)
          (now_attemptAgain plan _ setup)
      · exact .stays rfl le_rfl
  | closing | finished | crashed => exact .stays rfl le_rfl

theorem turn_noticeEnd (plan : Plan) (client : Client σ) : Turn plan client client.noticeEnd := by
  rcases client with ⟨session, attempt, cancelled, stage⟩
  unfold noticeEnd
  split
  · cases stage with
    | connecting | serving | pausing | closing => exact .leaves nofun rfl rfl
    | finished | crashed => exact .stays rfl le_rfl
  · exact .stays rfl le_rfl

theorem turn_perform (plan : Plan) (setup : Setup σ) (client : Client σ) (move : Move σ) :
    Turn plan client (client.perform plan setup move) := by
  rcases client with ⟨session, attempt, cancelled, stage⟩
  cases move with
  | outside move => exact .stays rfl (Session.now_perform_le move)
  | tell => exact .stays rfl le_rfl
  | heed =>
      simp only [perform, heed]
      split
      · next told => exact turn_shutDown setup .shutdown (Bool.and_eq_true_iff.mp told).2
      · exact .stays rfl le_rfl
  | fail =>
      cases stage with
      | connecting => exact turn_afterAttempt setup rfl rfl
      | serving | pausing | closing | finished | crashed => exact .stays rfl le_rfl
  | linkUp => exact turn_linkUp plan setup _
  | linkDown =>
      cases stage with
      | serving => exact turn_afterAttempt setup rfl rfl
      | connecting | pausing | closing | finished | crashed => exact .stays rfl le_rfl
  | hear =>
      cases stage with
      | serving => exact .hears rfl rfl rfl
      | connecting | pausing | closing | finished | crashed => exact .stays rfl le_rfl
  | receive text =>
      cases stage with
      | serving =>
          simp only [perform, receiveText]
          split <;> exact .hears rfl rfl rfl
      | connecting | pausing | closing | finished | crashed => exact .stays rfl le_rfl
  | passTime => exact turn_passTime plan setup _
  | noticeEnd => exact turn_noticeEnd plan _

/--
Whatever happens, all sums are worked out by the same clock.  No operation of a core
replaces the clock that it was set up with.
-/
theorem clock_perform (plan : Plan) (setup : Setup σ) (client : Client σ) (move : Move σ) :
    (client.perform plan setup move).session.core.clock = client.session.core.clock := by
  rcases client with ⟨session, attempt, cancelled, stage⟩
  have closed : (session.core.closeLink setup).clock = session.core.clock :=
    Core.clock_apply setup session.core _
  cases move with
  | outside move => exact session.clock_perform setup move
  | tell => rfl
  | heed =>
      simp only [perform, heed]
      split
      · exact clock_shutDown _ setup _
      · rfl
  | fail =>
      cases stage with
      | connecting => exact clock_afterAttempt plan _ setup
      | serving | pausing | closing | finished | crashed => rfl
  | linkUp =>
      cases stage with
      | connecting =>
          have same := (Core.apart_establish setup session.core
            (.queue plan.outboundCapacity [] true)).clock_eq
          simp only [perform, linkUp]
          split
          · rw [session_serve]
            exact same
          · exact (clock_afterAttempt plan _ setup).trans same
      | serving | pausing | closing | finished | crashed => rfl
  | linkDown =>
      cases stage with
      | serving => exact (clock_afterAttempt plan _ setup).trans closed
      | connecting | pausing | closing | finished | crashed => rfl
  | hear => cases stage <;> rfl
  | receive text =>
      cases stage with
      | serving =>
          simp only [perform, receiveText]
          split
          · rfl
          · exact Core.clock_receive setup session.core text
      | connecting | pausing | closing | finished | crashed => rfl
  | passTime =>
      cases stage with
      | connecting =>
          simp only [perform, passTime]
          split
          · exact clock_afterAttempt plan _ setup
          · rfl
      | serving =>
          simp only [perform, passTime]
          split
          · exact (clock_afterAttempt plan _ setup).trans closed
          · rfl
      | pausing =>
          simp only [perform, passTime]
          split
          · exact clock_attemptAgain plan _ setup
          · rfl
      | closing | finished | crashed => rfl
  | noticeEnd =>
      simp only [perform, noticeEnd]
      split
      · split <;> rfl
      · rfl

/-! ## A move and the log -/

theorem cameUp_mem_arrival_iff :
    .cameUp since ∈ client.arrival ↔ client.stage.isUp = true ∧ since = client.session.now := by
  unfold arrival
  cases client.stage <;> simp [Stage.isUp]

theorem cameUp_mem_observe_iff :
    .cameUp since ∈ observe plan setup client move ↔
      .cameUp since ∈ arrived client (client.perform plan setup move) := by
  have elsewhere : .cameUp since ∉ surroundings client move := by
    unfold surroundings
    split
    · split <;> simp
    · simp
    · exact List.not_mem_nil
  have untried : .cameUp since ∉ ((client.concluded? plan setup move).map fun attempt =>
      Milestone.tried attempt (client.perform plan setup move).ruling).toList := by
    cases client.concluded? plan setup move <;> simp
  simp only [observe, List.mem_append, elsewhere, untried, false_or]

/--
An attempt that has come to its end leaves no link.  That holds of a link that was lost and
of one that never came up.
-/
theorem isUp_of_concluded {attempt : Attempt}
    (concluded : client.concluded? plan setup move = some attempt) :
    (client.perform plan setup move).stage.isUp = false := by
  rcases client with ⟨session, last, cancelled, stage⟩
  cases move with
  | outside | tell | heed | hear | receive | noticeEnd => cases concluded
  | fail =>
      cases stage with
      | connecting => exact isUp_afterAttempt plan _ setup
      | serving | pausing | closing | finished | crashed => cases concluded
  | linkUp =>
      cases stage with
      | connecting =>
          simp only [concluded?] at concluded
          split at concluded
          · cases concluded
          · next refused =>
            simp only [perform, linkUp]
            rw [if_neg refused]
            exact isUp_afterAttempt plan _ setup
      | serving | pausing | closing | finished | crashed => cases concluded
  | linkDown =>
      cases stage with
      | serving => exact isUp_afterAttempt plan _ setup
      | connecting | pausing | closing | finished | crashed => cases concluded
  | passTime =>
      cases stage with
      | connecting | serving =>
          simp only [concluded?] at concluded
          split at concluded
          · next elapsed =>
            simp only [perform, passTime]
            rw [if_pos elapsed]
            exact isUp_afterAttempt plan _ setup
          · cases concluded
      | pausing | closing | finished | crashed => cases concluded

theorem cameUp_mem_arrived (shown : .cameUp since ∈ arrived client next) :
    client.stage.ctorIdx ≠ next.stage.ctorIdx ∧ next.stage.isUp = true ∧
      since = next.session.now := by
  unfold arrived at shown
  split at shown
  · cases shown
  · next other => exact ⟨other, cameUp_mem_arrival_iff.mp shown⟩

theorem foreign_of_surroundings {milestone : Milestone}
    (shown : milestone ∈ surroundings client move) : milestone.isOwn = false := by
  unfold surroundings at shown
  split at shown
  · split at shown
    · cases shown
    · rw [List.mem_singleton.mp shown]
      rfl
  · rw [List.mem_singleton.mp shown]
    rfl
  · cases shown

/--
As long as a link goes on, nothing is seen of the client itself.  Milestones of the
surroundings may still be added to the log.
-/
theorem foreign_of_goesOn (up : (client.perform plan setup move).stage.isUp = true)
    (same : client.stage.ctorIdx = (client.perform plan setup move).stage.ctorIdx)
    {milestone : Milestone} (shown : milestone ∈ observe plan setup client move) :
    milestone.isOwn = false := by
  have untried : client.concluded? plan setup move = none := by
    refine Option.eq_none_iff_forall_ne_some.mpr fun attempt concluded => ?_
    exact Bool.false_ne_true ((isUp_of_concluded concluded).symm.trans up)
  simp only [observe, untried, arrived, if_pos same, Option.map_none, Option.toList_none,
    List.append_nil] at shown
  exact foreign_of_surroundings shown

theorem latest?_append_foreign {shown : List Milestone}
    (foreign : ∀ milestone ∈ shown, milestone.isOwn = false) :
    latest? (past ++ shown) = latest? past := by
  have no_own : shown.reverse.find? Milestone.isOwn = none :=
    List.find?_eq_none.mpr fun milestone inside own =>
      Bool.false_ne_true ((foreign milestone (List.mem_reverse.mp inside)).symm.trans own)
  rw [latest?, List.reverse_append, List.find?_append, no_own, Option.none_or, latest?]

/-! ## Runs -/

/--
What the log tells about the sums that a client has worked out by its clock.  Every link
that came up, except perhaps the last, had the sums that it needed.
-/
structure Timed (plan : Plan) (clock : Clock) (past : List Milestone) (client : Client σ) :
    Prop where
  clock_eq : client.session.core.clock = clock
  fits : client.stage ≠ .crashed → ∀ since, .cameUp since ∈ past → plan.idleLimit.Fits
  crashed : client.stage = .crashed → ¬ plan.idleLimit.Fits ∧ ∃ since, .cameUp since ∈ past
  serving : ∀ quietSince firstPing, client.stage = .serving quietSince firstPing →
    ∃ since, latest? past = some (.cameUp since) ∧ since ≤ client.session.now ∧
      firstPing = clock.after? since plan.heartbeat

/--
A client that stays at its stage, whatever it hears.  The log may only have grown by
milestones of others.
-/
theorem Timed.goesOn (timed : Timed plan clock past client)
    (same : client.stage.ctorIdx = (client.perform plan setup move).stage.ctorIdx)
    (crashed_iff : (client.perform plan setup move).stage = .crashed ↔ client.stage = .crashed)
    (serving : ∀ heard firstPing,
      (client.perform plan setup move).stage = .serving heard firstPing →
        ∃ quietSince, client.stage = .serving quietSince firstPing)
    (later : client.session.now ≤ (client.perform plan setup move).session.now) :
    Timed plan clock (past ++ observe plan setup client move) (client.perform plan setup move) where
  clock_eq := (clock_perform plan setup client move).trans timed.clock_eq
  fits := by
    intro working since shown
    rcases List.mem_append.mp shown with before | last
    · exact timed.fits (mt crashed_iff.mpr working) since before
    · exact absurd same (cameUp_mem_arrived (cameUp_mem_observe_iff.mp last)).1
  crashed := by
    intro crashed
    rcases timed.crashed (crashed_iff.mp crashed) with ⟨long, since, before⟩
    exact ⟨long, since, List.mem_append_left _ before⟩
  serving := by
    intro heard firstPing goesOn
    rcases serving heard firstPing goesOn with ⟨quietSince, before⟩
    rcases timed.serving quietSince firstPing before with ⟨since, cameUp, earlier, due⟩
    have up : (client.perform plan setup move).stage.isUp = true := by
      rw [goesOn]
      rfl
    refine ⟨since, ?_, earlier.trans later, due⟩
    rw [latest?_append_foreign fun _ => foreign_of_goesOn up same]
    exact cameUp

/--
Without a link there is only the past to account for.  The sums of past links existed, or
the client would not have gone on.
-/
theorem timed_of_down (clock_eq : client.session.core.clock = clock)
    (down : client.stage.isUp = false)
    (fits : ∀ since, .cameUp since ∈ past → plan.idleLimit.Fits) :
    Timed plan clock past client where
  clock_eq := clock_eq
  fits := fun _ => fits
  crashed := by
    intro crashed
    rw [crashed] at down
    cases down
  serving := by
    intro quietSince firstPing serving
    rw [serving] at down
    cases down

theorem Timed.leaves (timed : Timed plan clock past client) (working : client.stage ≠ .crashed)
    (down : (client.perform plan setup move).stage.isUp = false) :
    Timed plan clock (past ++ observe plan setup client move) (client.perform plan setup move) := by
  have same := (clock_perform plan setup client move).trans timed.clock_eq
  refine timed_of_down same down fun since shown => ?_
  rcases List.mem_append.mp shown with before | last
  · exact timed.fits working since before
  · have up := (cameUp_mem_arrived (cameUp_mem_observe_iff.mp last)).2.1
    exact absurd (down.symm.trans up) Bool.false_ne_true

theorem Timed.comesUp (timed : Timed plan clock past client) {deadline : Nat}
    (connecting : client.stage = .connecting deadline)
    (serves : (client.perform plan setup move).stage =
      if plan.idleLimit.Fits then
        .serving client.session.now (client.session.due? plan.heartbeat)
      else .crashed)
    (now_eq : (client.perform plan setup move).session.now = client.session.now) :
    Timed plan clock (past ++ observe plan setup client move) (client.perform plan setup move) := by
  have shown : arrived client (client.perform plan setup move) =
      [.cameUp client.session.now] := by
    rw [arrived, arrival, connecting, serves, now_eq]
    split <;> rfl
  have inside : .cameUp client.session.now ∈ past ++ observe plan setup client move := by
    refine List.mem_append_right _ (cameUp_mem_observe_iff.mpr ?_)
    rw [shown]
    exact List.mem_singleton.mpr rfl
  have latest : latest? (past ++ observe plan setup client move) =
      some (.cameUp client.session.now) := by
    rw [observe, shown, ← List.append_assoc]
    exact latest?_concat_own rfl
  have same := (clock_perform plan setup client move).trans timed.clock_eq
  by_cases fits : plan.idleLimit.Fits
  · rw [if_pos fits] at serves
    refine ⟨same, fun _ _ _ => fits, fun crashed => ?_, fun quietSince firstPing serving => ?_⟩
    · cases serves.symm.trans crashed
    · cases serves.symm.trans serving
      refine ⟨_, latest, now_eq.ge, ?_⟩
      rw [Session.due?, timed.clock_eq]
  · rw [if_neg fits] at serves
    refine ⟨same, fun working => absurd serves working, fun _ => ⟨fits, _, inside⟩, ?_⟩
    intro quietSince firstPing serving
    cases serves.symm.trans serving

theorem Timed.perform (timed : Timed plan clock past client) (move : Move σ) :
    Timed plan clock (past ++ observe plan setup client move) (client.perform plan setup move) := by
  cases turn_perform plan setup client move with
  | stays same later =>
      refine timed.goesOn (by rw [same]) (by rw [same]) ?_ later
      exact fun heard firstPing goesOn => ⟨heard, same ▸ goesOn⟩
  | leaves working down now_eq => exact timed.leaves working down
  | hears serving still now_eq =>
      refine timed.goesOn (by rw [serving, still]; rfl) (by rw [serving, still]; simp) ?_ now_eq.ge
      intro heard firstPing goesOn
      cases still.symm.trans goesOn
      exact ⟨_, serving⟩
  | comesUp connecting serves now_eq => exact timed.comesUp connecting serves now_eq

theorem timed_start (plan : Plan) (setup : Setup σ) (session : Session σ) (cancelled : Bool) :
    Timed plan session.core.clock
      (beforehand session cancelled ++ (start plan setup session cancelled).arrival)
      (start plan setup session cancelled) := by
  have down : (start plan setup session cancelled).stage.isUp = false :=
    isUp_attemptAgain plan _ setup
  have same : (start plan setup session cancelled).session.core.clock = session.core.clock :=
    clock_attemptAgain plan _ setup
  refine timed_of_down same down fun since shown => ?_
  rcases List.mem_append.mp shown with before | first
  · rcases cases_beforehand before with same | same <;> cases same
  · exact absurd (down.symm.trans (cameUp_mem_arrival_iff.mp first).1) Bool.false_ne_true

theorem timed_reached (plan : Plan) (setup : Setup σ) (world : σ)
    (before : List (Session.Move σ)) (cancelled : Bool) (moves : List (Move σ)) :
    Timed plan setup.clock (logged plan setup world before cancelled moves)
      (reached plan setup world before cancelled moves) := by
  have started := timed_start plan setup (Session.run setup (.new setup world) before) cancelled
  rw [Session.clock_run] at started
  exact Run.keeps (fun _ _ move _ timed => timed.perform move) started fun _ _ => trivial

/-! ## Sums that do not exist -/

theorem after?_eq_none_iff (clock : Clock) (now : Nat) (span : Duration) :
    clock.after? now span = none ↔ clock.lastMoment < now + span.nanoseconds := by
  unfold Clock.after?
  split
  · next named => exact iff_of_false nofun (Nat.not_lt.mpr named)
  · next late => exact iff_of_true rfl (Nat.not_le.mp late)

theorem openWait_ne_crashes (core : Core σ) (request : Request) (messageId : UInt32)
    (payload : Json.Members) (due : Nat) (budget : Duration) :
    (core.openWait request messageId payload due budget).1 ≠ .crashes := by
  unfold Core.openWait
  split
  · nofun
  · split <;> nofun

/--
Only the deadline of a request makes the caller crash.  It is worked out before anything
else, so nothing about the core or the request matters.
-/
theorem sendSync_crashes_iff (core : Core σ) (device : Address) (request : Request) (now : Nat)
    (budget : Duration) :
    (core.sendSync device request now budget).1 = .crashes ↔
      core.clock.lastMoment < now + budget.nanoseconds := by
  rw [← after?_eq_none_iff]
  unfold Core.sendSync
  split
  · next late => exact iff_of_true rfl late
  · next due named =>
    refine iff_of_false ?_ (by rw [named]; nofun)
    split
    · nofun
    · exact openWait_ne_crashes _ _ _ _ _ _

theorem Timed.sound (timed : Timed plan clock past client)
    (inRange : InRange plan clock.lastMoment latest) (soon : client.session.now ≤ latest) :
    Sound plan client where
  alive := fun crashed => (timed.crashed crashed).1 inRange.silence
  pings := by
    intro quietSince serving
    rcases timed.serving quietSince none serving with ⟨since, -, earlier, due⟩
    have late := (after?_eq_none_iff clock since plan.heartbeat).mp due.symm
    have room := inRange.ping
    omega
  opens := by
    intro device request crashes
    have late := (sendSync_crashes_iff _ _ _ _ _).mp crashes
    rw [timed.clock_eq] at late
    have report := inRange.report
    have announcement := inRange.announcement
    cases request <;> simp only [Options.budget] at late <;> omega

/--
A link that comes up at some time, and requests that are made then, need all the sums.  Both
can be brought about at any time that a client may reach.
-/
theorem inRange_of_sound (world : σ)
    (sound : ∀ before cancelled moves,
      (reached plan setup world before cancelled moves).session.now ≤ latest →
        Sound plan (reached plan setup world before cancelled moves)) :
    InRange plan setup.clock.lastMoment latest := by
  let served := reached plan setup world [] false [.outside (.advance ⟨latest⟩), .linkUp]
  have comesUp : ∃ client : Client σ, served = serve plan client ∧
      client.session.now = 0 + latest := ⟨_, rfl, rfl⟩
  rcases comesUp with ⟨client, served_eq, now_eq⟩
  rw [Nat.zero_add] at now_eq
  have served_now : served.session.now = latest := by
    rw [served_eq, serve]
    split <;> exact now_eq
  have served_clock : served.session.core.clock = setup.clock :=
    (timed_reached plan setup world [] false _).clock_eq
  have goesWell : Sound plan served := sound [] false _ served_now.le
  have opens (request : Request) : latest + (plan.options.budget request).nanoseconds ≤
      setup.clock.lastMoment := by
    have opened := goesWell.opens ⟨"", ""⟩ request
    rw [ne_eq, sendSync_crashes_iff, served_now, served_clock] at opened
    exact Nat.not_lt.mp opened
  have fits : plan.idleLimit.Fits := by
    by_contra long
    exact goesWell.alive (by rw [served_eq, serve, if_neg long])
  have pings : setup.clock.after? latest plan.heartbeat ≠ none := by
    intro late
    refine goesWell.pings latest ?_
    rw [served_eq, session_serve] at served_clock
    rw [served_eq, serve, if_pos fits, Session.due?, now_eq, served_clock, late]
  rw [ne_eq, after?_eq_none_iff] at pings
  exact ⟨fits, Nat.not_lt.mp pings, opens (.properties []), opens .online⟩

end

/-- The longest span of time.  One nanosecond more has no representation. -/
def longest : Nat := Duration.secondsLimit * Duration.nanosecondsPerSecond - 1

theorem InRange.of_le {plan : Plan} {last further now : Nat} (inRange : InRange plan last now)
    (le : last ≤ further) : InRange plan further now :=
  ⟨inRange.silence, inRange.ping.trans le, inRange.report.trans le, inRange.announcement.trans le⟩

/--
What a client of a plan makes of the sums that it works out.  The fields are the conditions
under which each sum exists, and what becomes of the client otherwise.
-/
structure Timing (plan : Plan) (setup : Setup σ) (world : σ) : Prop where
  /--
  Whether a plan is accepted does not depend on how long its spans are.  Only whether a span
  is zero is looked at.
  -/
  accepts : ∀ heartbeat report announcement, heartbeat.isZero = plan.heartbeat.isZero →
    (plan.withSpans heartbeat report announcement).fault? = plan.fault?
  /--
  By whose clock the sums are worked out.  A clock that has been running for longer leaves
  less room for them.
  -/
  clock : ∀ before cancelled moves,
    (reached plan setup world before cancelled moves).session.core.clock = setup.clock
  crashed_iff : ∀ before cancelled moves,
    (reached plan setup world before cancelled moves).stage = .crashed ↔
      ¬ plan.idleLimit.Fits ∧
        ∃ since, .cameUp since ∈ logged plan setup world before cancelled moves
  pings : ∀ before cancelled moves quietSince firstPing,
    (reached plan setup world before cancelled moves).stage = .serving quietSince firstPing →
      ∃ since, latest? (logged plan setup world before cancelled moves) = some (.cameUp since) ∧
        (firstPing = none ↔ setup.clock.lastMoment < since + plan.heartbeat.nanoseconds)
  opens_iff : ∀ (core : Core σ) device request now,
    (core.sendSync device request now (plan.options.budget request)).1 = .crashes ↔
      core.clock.lastMoment < now + (plan.options.budget request).nanoseconds
  /--
  All goes well until some time if and only if the sums of that time exist.  The conditions
  become harder with time, so it is enough that the last moment meets them.
  -/
  sound_iff : ∀ latest,
    (∀ before cancelled moves,
      (reached plan setup world before cancelled moves).session.now ≤ latest →
        Sound plan (reached plan setup world before cancelled moves)) ↔
      InRange plan setup.clock.lastMoment latest
  /--
  What a clock can name is no longer than a span.  So whoever stays within the clock stays
  within the spans.
  -/
  fits : ∀ now, InRange plan setup.clock.lastMoment now → InRange plan longest now

/--
Whatever the plan is and whatever happens, these sums decide whether all goes well.  Nothing
is assumed about how the core has been used before or is used meanwhile.
-/
theorem timing (plan : Plan) (setup : Setup σ) (world : σ) : Timing plan setup world where
  accepts := by
    intro heartbeat report announcement same
    have zero : (plan.withSpans heartbeat report announcement).heartbeat.isZero =
        plan.heartbeat.isZero := same
    rw [Plan.fault?, zero]
    rfl
  clock := fun before cancelled moves =>
    (timed_reached plan setup world before cancelled moves).clock_eq
  crashed_iff := by
    intro before cancelled moves
    have timed := timed_reached plan setup world before cancelled moves
    refine ⟨timed.crashed, fun ⟨long, since, cameUp⟩ => ?_⟩
    by_contra working
    exact long (timed.fits working since cameUp)
  pings := by
    intro before cancelled moves quietSince firstPing serving
    have timed := timed_reached plan setup world before cancelled moves
    rcases timed.serving quietSince firstPing serving with ⟨since, cameUp, -, rfl⟩
    exact ⟨since, cameUp, after?_eq_none_iff setup.clock since plan.heartbeat⟩
  opens_iff := fun core device request now => sendSync_crashes_iff core device request now _
  sound_iff := fun latest =>
    ⟨inRange_of_sound world, fun inRange before cancelled moves soon =>
      (timed_reached plan setup world before cancelled moves).sound inRange soon⟩
  fits := fun now inRange => inRange.of_le (Nat.le_sub_one_of_lt setup.clock.lastMoment_lt)

/--
How long a link may be silent is known for the first third of all heartbeats in seconds.  It
is the product with the number of heartbeats that must fit the word.
-/
theorem fits_idleLimit_iff (settings : Settings) :
    (Plan.ofSettings settings).idleLimit.Fits ↔
      settings.heartbeatSeconds.toNat * Plan.silentHeartbeats < Duration.secondsLimit := by
  have idle : (Plan.ofSettings settings).idleLimit.nanoseconds =
      settings.heartbeatSeconds.toNat * Plan.silentHeartbeats * Duration.nanosecondsPerSecond :=
    Nat.mul_right_comm _ _ _
  rw [Duration.Fits, idle]
  exact Nat.mul_lt_mul_right (by decide)

/--
Settings of somebody who never wants to stop waiting.  Each time in them is the largest that
a word can count.
-/
def endless : Settings :=
  { Settings.standard with
    requestTimeoutSeconds := 0xFFFFFFFFFFFFFFFF
    handshakeTimeoutSeconds := 0xFFFFFFFFFFFFFFFF
    heartbeatSeconds := 0xFFFFFFFFFFFFFFFF }

/--
These settings are accepted, but one second after the start none of the sums is a span any more,
and the first link that comes up and the first request crash.
-/
theorem endless_overflows :
    let plan := Plan.ofSettings endless
    let setup : Setup Unit := ⟨plan.options, Script.handler ⟨[], [], []⟩, false, none, .standard⟩
    let client := start plan setup (.new setup ()) false
    plan.check = .ok plan ∧ ¬ plan.idleLimit.Fits ∧
      (∀ span ∈ [plan.heartbeat, plan.options.requestTimeout, plan.options.handshakeTimeout],
        span.Fits ∧ longest < (Duration.ofSeconds 1).nanoseconds + span.nanoseconds) ∧
      (run plan setup client [.linkUp]).stage = .crashed ∧
      ∀ request ∈ [.online, .properties []],
        (client.session.core.sendSync ⟨"house", "lamp"⟩ request client.session.now
          (plan.options.budget request)).1 = .crashes := by
  have faultless : (Plan.ofSettings endless).fault? = none := by decide +kernel
  refine ⟨?_, ?_, ?_, ?_, ?_⟩
  · rw [Plan.check, faultless]
  · rw [fits_idleLimit_iff]
    decide
  · decide
  · rfl
  · decide

end Client
end DeviceLink
