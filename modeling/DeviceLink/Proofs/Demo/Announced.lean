import DeviceLink.Proofs.Demo.Tracking
import DeviceLink.Proofs.Session.Attended

namespace DeviceLink
namespace Demo

/-!
The lamps that are reported have been announced, and the gateway has agreed, since the
reporter last noticed the link.  Whether that was over the connection that is there now
is another matter: a connection may be lost and come up again while the reporter has
something else to do, and when a tick is due as well, the reporter may take that first.
`Kept` is what a run of the reporter keeps, and `Reporting` is what follows for each
report in it.
-/

/-! ## Steps of the reporter -/

/--
The reporter is retired, or what it relies on has been seen.  One that is retired makes no
report any more.
-/
def Kept (past : List Sight) (round : Round) : Prop :=
  round.doing.isOver = true ∨ Tracked past round

section

variable {start : Start} {past news : List Sight} {round next : Round}

/--
A step that takes no notice of the link, nor does anything to it.  What the reporter relies
on stays as it was.
-/
theorem Tracked.own (tracked : Tracked past round) (noticed : .noticed ∉ news)
    (established : .established ∉ news) (running : round.doing ≠ .waiting .awaitingLink)
    (seen_eq : next.seen = round.seen) (link_eq : next.core.link = round.core.link)
    (pool_eq : next.core.pool = round.core.pool) (coherent : next.core.registry.Coherent)
    (announced : ∀ lamp ∈ next.core.world.online, Announced lamp (past ++ news))
    (relied : Relied (past ++ news) next.core next.doing) : Tracked (past ++ news) next where
  coherent := coherent
  faced := pool_eq.symm ▸ tracked.faced
  sparing := pool_eq.symm ▸ tracked.sparing
  announced := announced
  relied := relied
  seen_le := by
    rw [seen_eq, link_eq]
    exact tracked.seen_le
  unseen := by
    intro _ opens
    rw [recent_append past noticed] at opens
    rw [seen_eq, link_eq]
    exact tracked.unseen running ((List.mem_append.mp opens).resolve_right established)

theorem Tracked.nothing (tracked : Tracked past round) : Tracked (past ++ []) round := by
  rwa [List.append_nil]

theorem Tracked.noticeLink (tracked : Tracked past round) :
    Tracked (past ++ Round.observe start round .noticeLink) round.noticeLink := by
  rcases round with ⟨core, now, doing, seen⟩
  cases doing with
  | waiting stage =>
      cases stage with
      | awaitingLink =>
          by_cases connected : core.link.watched = .connected
          · simp only [Round.observe, Round.noticeLink, connected, if_true]
            have nobody : core.world.online = [] := tracked.relied
            have nothing : recent (past ++ [.noticed]) = [] := by rw [recent_concat, if_pos rfl]
            exact
              { coherent := tracked.coherent
                faced := tracked.faced
                sparing := tracked.sparing
                announced := fun lamp inside => nomatch nobody ▸ inside
                relied := List.mem_concat_self
                seen_le := Nat.le_refl _
                unseen := fun _ opens => nomatch nothing ▸ opens }
          · simp only [Round.observe, Round.noticeLink, connected, if_false]
            exact tracked.nothing
      | _ => exact tracked.nothing
  | _ => exact tracked.nothing

/--
The end of a wait: at most the lamp that was announced is online afterwards.  The others are
online or offline as before.
-/
structure Settled (core next : Core Fleet) (lamp : Address) (wait : Wait)
    (result : Except Failure Reply) : Prop where
  link_eq : next.link = core.link
  pool_eq : next.pool = core.pool
  registry_eq : next.registry = core.registry.drop wait.token
  online {other : Address} (inside : other ∈ next.world.online) :
    other ∈ core.world.online ∨
      other = lamp ∧ ∃ reply, result = .ok reply ∧ reply.isSuccess = true

theorem settled_settleAnswer (core : Core Fleet) (lamp : Address) (wait : Wait)
    (result : Except Failure Reply) :
    Settled core (Round.settleAnswer core lamp wait result) lamp wait result := by
  cases result with
  | error failure => exact ⟨rfl, rfl, rfl, .inl⟩
  | ok reply =>
      unfold Round.settleAnswer
      dsimp only
      split
      · rename_i success
        refine ⟨rfl, rfl, rfl, fun inside => ?_⟩
        rcases Fleet.mem_online_setOnline inside with same | old
        · exact .inr ⟨same, reply, rfl, success⟩
        · exact .inl old
      · exact ⟨rfl, rfl, rfl, .inl⟩

theorem Awaiting.announced {registry : Registry} {lamp : Address} {wait : Wait} {now : Nat}
    {reply : Reply} (awaiting : Awaiting past registry lamp wait)
    (ready : wait.result? registry now = some (.ok reply)) (success : reply.isSuccess = true) :
    Announced lamp past := by
  rcases Session.result?_eq_ok.mp ready with ⟨id, found⟩
  rcases awaiting.exists_id with ⟨messageId, -, knows⟩
  exact (knows _ found).2 reply rfl success

theorem Tracked.noticeAnswer (tracked : Tracked past round) :
    Tracked (past ++ []) round.noticeAnswer := by
  rcases round with ⟨core, now, doing, seen⟩
  cases doing with
  | waiting stage =>
      cases stage with
      | announcing lamp wait rest =>
          cases ready : wait.result? core.registry now with
          | none =>
              simp only [Round.noticeAnswer, ready]
              exact tracked.nothing
          | some result =>
              simp only [Round.noticeAnswer, ready]
              have awaiting : Awaiting past core.registry lamp wait := tracked.relied
              have settled := settled_settleAnswer core lamp wait result
              refine tracked.own List.not_mem_nil List.not_mem_nil (by simp) rfl settled.link_eq
                settled.pool_eq ?_ ?_ (List.mem_append_left _ awaiting.noticed)
              · rw [settled.registry_eq]
                exact tracked.coherent.drop wait.token
              · intro other inside
                rw [List.append_nil]
                rcases settled.online inside with old | ⟨rfl, reply, rfl, success⟩
                · exact tracked.announced other old
                · exact awaiting.announced ready success
      | _ => exact tracked.nothing
  | _ => exact tracked.nothing

theorem Tracked.tick (tracked : Tracked past round) (interval : Duration) :
    Tracked (past ++ []) (round.tick interval) := by
  rcases round with ⟨core, now, doing, seen⟩
  cases doing with
  | waiting stage =>
      cases stage with
      | ticking due =>
          by_cases ready : due ≤ now
          · simp only [Round.tick, ready, if_true]
            have announced := tracked.nothing.announced
            exact tracked.own List.not_mem_nil List.not_mem_nil (by simp) rfl rfl rfl
              tracked.coherent announced announced
          · simp only [Round.tick, ready, if_false]
            exact tracked.nothing
      | _ => exact tracked.nothing
  | _ => exact tracked.nothing

theorem mem_observeReport {core : Core Fleet} {lamp : Address} {request : Request} {sight : Sight}
    (seen : sight ∈ Round.observeReport core lamp request) : sight = .reported lamp := by
  rcases List.mem_map.mp seen with ⟨id, -, rfl⟩
  rfl

/--
A report makes no difference to what the reporter relies on.  It only puts frames to the
outlet.
-/
theorem Tracked.report {core : Core Fleet} {now seen : Nat} {doing after : Doing} {lamp : Address}
    {request : Request} (tracked : Tracked past ⟨core, now, doing, seen⟩)
    (running : doing ≠ .waiting .awaitingLink)
    (relied : ∀ {news}, .noticed ∉ news →
      Relied (past ++ news) (core.sendAsync lamp request).2 after) :
    Tracked (past ++ Round.observeReport core lamp request)
      ⟨(core.sendAsync lamp request).2, now, after, seen⟩ := by
  have noticed : .noticed ∉ Round.observeReport core lamp request :=
    fun shown => nomatch mem_observeReport shown
  have established : .established ∉ Round.observeReport core lamp request :=
    fun shown => nomatch mem_observeReport shown
  have beside := Core.beside_sendAsync core lamp request
  have rooted := Core.rooted_sendAsync core lamp request
  refine tracked.own noticed established running rfl rooted.link_eq beside.pool_eq ?_ ?_
    (relied noticed)
  · rw [Core.registry_sendAsync]
    exact tracked.coherent
  · intro other inside
    rw [beside.world_eq] at inside
    exact (tracked.announced other inside).append noticed

theorem Tracked.ask {core : Core Fleet} {now seen : Nat} {lamp : Address} {rest : List Address}
    (tracked : Tracked past ⟨core, now, .announcing (lamp :: rest), seen⟩) (time : String) :
    let round : Round := ⟨core, now, .announcing (lamp :: rest), seen⟩
    Kept (past ++ Round.observeGoOn start time round)
      (round.ask (Program.setup start) lamp rest) := by
  intro round
  have noticed : .noticed ∈ past := tracked.relied
  have beside := Core.beside_sendSync core lamp .online now
    (Program.setup start).options.handshakeTimeout
  have rooted := Core.rooted_sendSync core lamp .online now
    (Program.setup start).options.handshakeTimeout
  have coherent := Core.coherent_sendSync tracked.coherent lamp .online now
    (Program.setup start).options.handshakeTimeout
  have registered := @Core.registered_of_waits Fleet core lamp .online now
    (Program.setup start).options.handshakeTimeout
  simp only [Round.observeGoOn, Round.ask, round]
  generalize core.sendSync lamp .online now (Program.setup start).options.handshakeTimeout = result
    at beside rooted coherent registered ⊢
  rcases result with ⟨opening, after⟩
  cases opening with
  | crashes => exact .inl rfl
  | fails failure =>
      refine .inr (tracked.own List.not_mem_nil List.not_mem_nil (by simp) rfl rooted.link_eq
        beside.pool_eq coherent ?_ (List.mem_append_left _ noticed))
      intro other inside
      exact tracked.nothing.announced other (beside.world_eq ▸ inside)
  | waits wait =>
      have quiet : .noticed ∉ [Sight.asked lamp core.takeId.1] := by simp
      refine .inr (tracked.own quiet (by simp) (by simp) rfl rooted.link_eq beside.pool_eq coherent
        ?_ ?_)
      · intro other inside
        exact (tracked.announced other (beside.world_eq ▸ inside)).append quiet
      · refine ⟨List.mem_append_left _ noticed, core.takeId.1, ?_, fun handle found => ?_⟩
        · rw [recent_append past quiet]
          exact .of_last _ lamp _
        · rw [tracked.coherent.handle?_register (registered rfl)] at found
          cases found
          exact ⟨rfl, by simp⟩

theorem Tracked.goOn (tracked : Tracked past round) (time : String) :
    Kept (past ++ Round.observeGoOn start time round)
      (round.goOn (Program.setup start) time) := by
  rcases round with ⟨core, now, doing, seen⟩
  have own {after : Doing} (running : doing ≠ .waiting .awaitingLink)
      (relied : Relied (past ++ []) core after) :
      Kept (past ++ []) ⟨core, now, after, seen⟩ :=
    .inr (tracked.own List.not_mem_nil List.not_mem_nil running rfl rfl rfl tracked.coherent
      tracked.nothing.announced relied)
  cases doing with
  | waiting stage => exact .inr tracked.nothing
  | announcing rest =>
      cases rest with
      | nil => exact own (by simp) trivial
      | cons lamp rest => exact tracked.ask time
  | reporting rest due =>
      cases rest with
      | nil => exact own (by simp) trivial
      | cons lamp rest =>
          have relied : ∀ other ∈ lamp :: rest, Announced other past := tracked.relied
          simp only [Round.observeGoOn, Round.goOn]
          cases found : core.world.snapshot? lamp with
          | none =>
              refine own (by simp) fun other inside => ?_
              exact (relied other (List.mem_cons_of_mem _ inside)).append List.not_mem_nil
          | some data =>
              exact .inr (tracked.report (by simp) fun quiet other inside =>
                (relied other inside).append quiet)
  | checking lamp rest due =>
      have relied : ∀ other ∈ lamp :: rest, Announced other past := tracked.relied
      simp only [Round.observeGoOn, Round.goOn]
      split
      · exact .inr (tracked.report (by simp) fun quiet other inside =>
          (relied other (List.mem_cons_of_mem _ inside)).append quiet)
      · refine own (by simp) fun other inside => ?_
        exact (relied other (List.mem_cons_of_mem _ inside)).append List.not_mem_nil

theorem Tracked.noticeChange (tracked : Tracked past round) :
    Tracked (past ++ []) (round.whole Reporter.noticeChange?) := by
  rcases whole_cases round Reporter.noticeChange? with same | ⟨stage, next, doing, ready, same⟩
  · rw [same]
    exact tracked.nothing
  · rw [same]
    unfold Reporter.noticeChange? at ready
    split at ready
    · split at ready
      · cases ready
        have nobody := Fleet.online_markAllOffline round.core.world
        exact
          { coherent := tracked.coherent
            faced := tracked.faced
            sparing := tracked.sparing
            announced := fun lamp inside => nomatch nobody ▸ inside
            relied := nobody
            seen_le := Nat.le_refl _
            unseen := fun running => absurd rfl running }
      · cases ready
    · cases ready

/--
What is done as a whole may be the end of it.  A step that leads to no report is taken like
this.
-/
theorem Tracked.whole (tracked : Tracked past round) {step : Reporter → Option Reporter}
    (ended : ∀ reporter next, step reporter = some next → next.stage.isOver = true) :
    Kept (past ++ []) (round.whole step) := by
  rcases whole_cases round step with same | ⟨stage, next, doing, ready, same⟩
  · exact .inr (same.symm ▸ tracked.nothing)
  · exact .inl (same.symm ▸ ended _ next ready)

theorem Tracked.step (tracked : Tracked past round) (move : Round.Move) :
    Kept (past ++ Round.observe start round move) (round.perform start move) := by
  cases move with
  | foreign move => exact .inr (tracked.perform move.property)
  | advance span =>
      exact .inr ⟨tracked.coherent, tracked.faced, tracked.sparing, tracked.nothing.announced,
        tracked.nothing.relied, tracked.seen_le, tracked.nothing.unseen⟩
  | noticeLink => exact .inr tracked.noticeLink
  | noticeAnswer => exact .inr tracked.noticeAnswer
  | noticeChange => exact .inr tracked.noticeChange
  | noticeWithdrawal => exact tracked.whole fun _ _ notices => over_noticeWithdrawal notices
  | tick => exact .inr (tracked.tick _)
  | stop => exact tracked.whole fun _ _ stops => over_stop stops
  | goOn time => exact tracked.goOn time

/-- Who is retired stays so.  None of its moves does anything. -/
theorem over_perform (ended : round.doing.isOver = true) (move : Round.Move) :
    (Round.perform start round move).doing.isOver = true := by
  have whole {step : Reporter → Option Reporter} (ends : ∀ stage next,
      step (round.reporter stage) = some next → round.doing = .waiting stage →
        next.stage.isOver = true) : (round.whole step).doing.isOver = true := by
    rcases whole_cases round step with same | ⟨stage, next, doing, ready, same⟩
    · rwa [same]
    · exact same.symm ▸ ends stage next ready doing
  have noticeChange : (round.whole Reporter.noticeChange?).doing.isOver = true := by
    refine whole fun stage next notices doing => ?_
    rw [doing] at ended
    cases stage with
    | awaitingLink | announcing | ticking => cases ended
    | withdrawing | silenced | stopped | crashed => cases notices
  rcases round with ⟨core, now, doing, seen⟩
  cases doing with
  | announcing | reporting | checking => cases ended
  | waiting stage =>
      cases move with
      | foreign | advance | goOn => exact ended
      | noticeChange => exact noticeChange
      | noticeWithdrawal => exact whole fun _ _ notices _ => over_noticeWithdrawal notices
      | stop => exact whole fun _ _ stops _ => over_stop stops
      | noticeLink | noticeAnswer | tick =>
          cases stage with
          | awaitingLink | announcing | ticking => cases ended
          | withdrawing | silenced | stopped | crashed => rfl

theorem Kept.perform (kept : Kept past round) (move : Round.Move) :
    Kept (past ++ Round.observe start round move) (round.perform start move) :=
  kept.elim (fun ended => .inl (over_perform ended move)) fun tracked => tracked.step move

theorem tracked_new (start : Start) : Tracked [] (Round.new start) where
  coherent := Registry.coherent_new _
  faced := Core.faced_new _
  sparing := fun device => Core.sparing_new Fleet.online device _
  announced := fun _ inside => nomatch Fleet.online_new start.settings.lamps ▸ inside
  relied := Fleet.online_new start.settings.lamps
  seen_le := Nat.le_refl _
  unseen := fun running => absurd rfl running

theorem kept_run (start : Start) (moves : List Round.Move) :
    Kept (Round.history start (Round.new start) moves)
      (Round.run start (Round.new start) moves) := by
  have kept : ∀ past round move, True → Kept past round →
      Kept (past ++ Round.observe start round move) (Round.perform start round move) :=
    fun _ _ move _ kept => kept.perform move
  exact Run.keeps kept (.inr (tracked_new start)) fun _ _ => trivial

/--
Whoever is reported has been announced since the reporter last noticed the link.  The answer
was a success, and was handed to the reporter.
-/
theorem Kept.reported (kept : Kept past round) {move : Round.Move} {lamp : Address}
    (shown : .reported lamp ∈ Round.observe start round move) :
    Announced lamp past ∧
      (.established ∈ recent past → round.seen < round.core.link.publications) := by
  cases move with
  | goOn time =>
      rcases round with ⟨core, now, doing, seen⟩
      have relies (running : doing ≠ .waiting .awaitingLink) (unfinished : doing.isOver = false)
          (relied : Relied past core doing → Announced lamp past) :
          Announced lamp past ∧ (.established ∈ recent past → seen < core.link.publications) := by
        rcases kept with retired | tracked
        · cases unfinished.symm.trans retired
        · exact ⟨relied tracked.relied, tracked.unseen running⟩
      simp only [Round.observe, Round.observeGoOn] at shown
      split at shown
      · split at shown
        · cases List.mem_singleton.mp shown
        · cases shown
      · split at shown
        · cases shown
        · cases mem_observeReport shown
          exact relies nofun rfl fun relied => relied lamp List.mem_cons_self
      · split at shown
        · cases mem_observeReport shown
          exact relies nofun rfl fun relied => relied lamp List.mem_cons_self
        · cases shown
      · cases shown
  | noticeLink =>
      simp only [Round.observe] at shown
      split at shown
      · split at shown
        · cases List.mem_singleton.mp shown
        · cases shown
      · cases shown
  | foreign move =>
      rcases mem_observeForeign shown with connection | ⟨_, _, answer⟩
      · cases connection
      · cases answer
  | _ => cases shown

end

/--
What can be said of the reports of a run.  It is said for each report at the moment at which
it is made.
-/
structure Reporting (start : Start) (moves : List Round.Move) : Prop where
  announced {earlier later : List Round.Move} {move : Round.Move} {lamp : Address}
    (split : moves = earlier ++ move :: later) :
    .reported lamp ∈ Round.observe start (Round.run start (Round.new start) earlier) move →
      Announced lamp (Round.history start (Round.new start) earlier)
  /--
  Unless there is news of the link, or another connection has quietly taken its place.  In
  both cases the reporter has no way to know yet.
  -/
  current {earlier later : List Round.Move} {move : Round.Move} {lamp : Address}
    (split : moves = earlier ++ move :: later) :
    let round := Round.run start (Round.new start) earlier
    let past := Round.history start (Round.new start) earlier
    .reported lamp ∈ Round.observe start round move →
      round.seen = round.core.link.publications → .replaced ∉ recent past → Current lamp past

/--
Every lamp that is reported has been announced, and agreed to, since the reporter last
noticed the link; and that was over the connection that is there, unless the reporter has
not taken notice of the link since it changed.  Nothing is assumed about the order in which
the reporter takes what is ready.
-/
theorem reports_announced (start : Start) (moves : List Round.Move) : Reporting start moves where
  announced := fun _ shown => ((kept_run start _).reported shown).1
  current := by
    intro earlier later move lamp _ round past shown no_news kept_up
    rcases (kept_run start earlier).reported shown with ⟨announced, unseen⟩
    refine announced.current fun sight inside => ?_
    cases sight with
    | established => exact absurd (unseen inside) (no_news ▸ Nat.lt_irrefl _)
    | replaced => exact absurd inside kept_up
    | _ => rfl

/--
A single lamp that is reported every fifteen seconds.  All other settings are the standard
ones.
-/
def singleLamp : Start where
  settings := ⟨.standard, Settings.standardReportSeconds, [⟨"house", "lamp"⟩]⟩
  plan := .standard

/--
The connection is lost and comes up again before the first tick, which is taken first.  The
news of the link is ready as well by then.
-/
def overtakenNews : List Round.Move :=
  let agreement := (Envelope.response 1 ResultCode.success.number []).text
  [.foreign ⟨.establish (.record "first"), rfl⟩, .noticeLink, .goOn "",
    .foreign ⟨.receive agreement, rfl⟩, .noticeAnswer, .goOn "", .foreign ⟨.closeLink, rfl⟩,
    .foreign ⟨.establish (.record "second"), rfl⟩, .tick, .goOn ""]

/--
The lamp is reported over a connection that nobody has been announced on.  It was announced,
but over the connection before.
-/
theorem reported_unannounced :
    ∃ past, Round.history singleLamp (Round.new singleLamp) overtakenNews =
        past ++ [.reported ⟨"house", "lamp"⟩] ∧ ¬Current ⟨"house", "lamp"⟩ past := by
  have seen : Round.history singleLamp (Round.new singleLamp) overtakenNews =
      [.established, .noticed, .asked ⟨"house", "lamp"⟩ 1, .answered 1 0] ++ [.established] ++
        [.reported ⟨"house", "lamp"⟩] := by decide +kernel
  exact ⟨_, seen, not_current_of_connection rfl⟩

end Demo
end DeviceLink
