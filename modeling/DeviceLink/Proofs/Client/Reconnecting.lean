import DeviceLink.Proofs.Client.Tracking

namespace DeviceLink
namespace Client

/-!
How a client reconnects.  Every pause is as long as the number of failures in a row asks
for, every attempt but the first comes after a pause that is over, and the client gives
up with the failure that uses up its budget and with no other.  Whichever way it ends,
its core is closed.  All of it is read off the log, so it holds of every plan and on
every core, however others use that core meanwhile.  `Reconnects` collects what is said,
and each part comes from a lemma about what a client keeps true of its log.  The
progress of a client is among it: one that is told to end does end, and one whose pause
is over does try again.
-/

variable {σ : Type}

/--
How a client reconnects.  Every milestone of the log is justified by the milestones before it; the
other fields say what comes of that.
-/
structure Reconnects (plan : Plan) (setup : Setup σ) (log : List Milestone) (client : Client σ) :
    Prop where
  justified : ∀ past milestone later, log = past ++ milestone :: later →
    Justified plan.backoff past milestone
  /--
  Pauses grow with the failures in a row.  The moment of the next attempt is fixed when the
  one before has ended.
  -/
  pauses : ∀ past attempt since resumeAt later,
    log = past ++ .tried attempt (.pauses since resumeAt) :: later →
      resumeAt = since + (plan.backoff.delay (.ofNat (count past attempt))).nanoseconds
  /--
  The budget is used up by the failure that it counts, by no earlier one.  A budget of zero
  is never used up, and a core that has been shut down leaves no pause to decide on.
  -/
  givesUp_iff : ∀ past attempt ruling later, log = past ++ .tried attempt ruling :: later →
    ((∃ number, ruling = .givesUp number) ↔ .shut ∉ past ∧ plan.backoff.maxAttempts ≠ 0 ∧
      count past attempt = plan.backoff.maxAttempts.toNat)
  exhausted : ∀ number, .returned (.reconnectExhausted number) ∈ log →
    number = plan.backoff.maxAttempts ∧ ∃ past later,
      log = past ++ .tried .failed (.givesUp number) :: later ∧
        count past .failed = number.toNat ∧ number ≠ 0
  gaveUp : ∀ attempt number, .tried attempt (.givesUp number) ∈ log →
    client.stage = .closing (.reconnectExhausted number) ∨
      client.stage = .finished (.reconnectExhausted number)
  /--
  Whichever way the client returns, the core is closed.  It closes the core itself unless
  somebody else has.
  -/
  closed : ∀ failure, client.result? = some failure → client.session.phase = .closed
  returned_iff : ∀ failure, client.result? = some failure ↔ .returned failure ∈ log
  /--
  A client that is about to return does so when the core has had its time to drain.  Nothing
  from outside is needed for that but the passing of time.
  -/
  returns : ∀ failure, client.stage = .closing failure →
    (run plan setup client [.outside (.advance setup.options.drainTimeout), .outside .endDrains,
      .noticeEnd]).result? = some failure
  /--
  After a pause comes an attempt, as long as nobody wants the client to end.  The attempt
  begins when the client is looked at once its pause is over.
  -/
  resumes : ∀ resumeAt, client.stage = .pausing resumeAt → .told ∉ log → .shut ∉ log →
    resumeAt ≤ client.session.now → ∃ deadline,
      (client.perform plan setup .passTime).stage = .connecting deadline

section

variable {plan : Plan} {setup : Setup σ} {past : List Milestone} {client : Client σ}
  {failure : Failure}

theorem due_eq_givesUp_iff (backoff : Backoff) (number since : Nat) (limit : UInt32) :
    due backoff number since = .givesUp limit ↔
      limit = backoff.maxAttempts ∧ backoff.maxAttempts ≠ 0 ∧
        number = backoff.maxAttempts.toNat := by
  unfold due
  split
  · next spent =>
    rw [Ruling.givesUp.injEq, eq_comm]
    exact (and_iff_left spent).symm
  · next unspent => exact iff_of_false nofun fun limited => unspent limited.2

/--
The budget is given up for failures only.  A link that came up has set the count to zero,
and with zero no budget is used up.
-/
theorem eq_failed {attempt : Attempt} (missed : count past attempt ≠ 0) : attempt = .failed := by
  cases attempt with
  | failed => rfl
  | served => exact absurd (misses_served _) missed

theorem Tracks.pauses (tracks : Tracks plan setup past client) {earlier later : List Milestone}
    {attempt : Attempt} {since resumeAt : Nat}
    (split : past = earlier ++ .tried attempt (.pauses since resumeAt) :: later) :
    resumeAt = since + (plan.backoff.delay (.ofNat (count earlier attempt))).nanoseconds := by
  have justified := (tracks.ledger.justified earlier _ later split).2
  split at justified
  · cases justified
  · rcases justified with ⟨began, ruling_eq⟩
    unfold due at ruling_eq
    split at ruling_eq
    · cases ruling_eq
    · cases ruling_eq
      rfl

theorem Tracks.givesUp_iff (tracks : Tracks plan setup past client) {earlier later : List Milestone}
    {attempt : Attempt} {ruling : Ruling}
    (split : past = earlier ++ .tried attempt ruling :: later) (number : UInt32) :
    ruling = .givesUp number ↔ number = plan.backoff.maxAttempts ∧ .shut ∉ earlier ∧
      plan.backoff.maxAttempts ≠ 0 ∧ count earlier attempt = plan.backoff.maxAttempts.toNat := by
  have justified := (tracks.ledger.justified earlier _ later split).2
  split at justified
  · next shut =>
    rw [justified]
    exact iff_of_false nofun fun spent => spent.2.1 shut
  · next unshut =>
    rcases justified with ⟨since, rfl⟩
    rw [due_eq_givesUp_iff]
    exact and_congr_right fun _ => (and_iff_right unshut).symm

theorem Tracks.exhausted (tracks : Tracks plan setup past client) {number : UInt32}
    (returned : .returned (.reconnectExhausted number) ∈ past) :
    number = plan.backoff.maxAttempts ∧ ∃ earlier later,
      past = earlier ++ .tried .failed (.givesUp number) :: later ∧
        count earlier .failed = number.toNat ∧ number ≠ 0 := by
  rcases List.append_of_mem returned with ⟨before, after, split⟩
  rcases tracks.ledger.justified before _ after split with ⟨stops, -⟩ |
    ⟨attempt, limit, same, latest⟩
  · cases stops
  · cases same
    rcases List.append_of_mem (mem_of_latest? latest) with ⟨earlier, between, rfl⟩
    rw [List.append_assoc, List.cons_append] at split
    rcases (tracks.givesUp_iff split number).mp rfl with ⟨rfl, -, limited, counted⟩
    have missed : count earlier attempt ≠ 0 := by
      intro unmissed
      exact limited (UInt32.toNat_inj.mp (counted.symm.trans unmissed))
    cases eq_failed missed
    exact ⟨rfl, earlier, _, split, counted, limited⟩

theorem Tracks.returned_iff (tracks : Tracks plan setup past client) (failure : Failure) :
    client.result? = some failure ↔ .returned failure ∈ past := by
  rcases client with ⟨session, attempt, cancelled, stage⟩
  have stands := tracks.stands
  cases stage with
  | connecting | serving | pausing =>
      exact iff_of_false nofun (unreturned_of_unended stands.1.unended failure)
  | closing => exact iff_of_false nofun (stands.unreturned failure)
  | crashed => exact iff_of_false nofun (unreturned_of_unended stands failure)
  | finished other =>
      refine ⟨fun result => ?_, fun inside => ?_⟩
      · cases result
        exact stands.returned
      · exact congrArg some (stands.endsIn _ inside failure rfl).symm

/--
A client that has given up does nothing any more but return.  The failure that it returns is
the one that tells the number of failures.
-/
theorem Tracks.gaveUp (tracks : Tracks plan setup past client) {attempt : Attempt}
    {number : UInt32} (gives : .tried attempt (.givesUp number) ∈ past) :
    client.stage = .closing (.reconnectExhausted number) ∨
      client.stage = .finished (.reconnectExhausted number) := by
  rcases client with ⟨session, last, cancelled, stage⟩
  have stands := tracks.stands
  cases stage with
  | connecting | serving | pausing => cases stands.1.unended _ gives
  | crashed => cases stands _ gives
  | closing failure => exact .inl (congrArg Stage.closing (stands.endsIn _ gives _ rfl).symm)
  | finished failure => exact .inr (congrArg Stage.finished (stands.endsIn _ gives _ rfl).symm)

theorem Tracks.returns (tracks : Tracks plan setup past client)
    (closing : client.stage = .closing failure) :
    (run plan setup client [.outside (.advance setup.options.drainTimeout), .outside .endDrains,
      .noticeEnd]).result? = some failure := by
  rcases client with ⟨session, attempt, cancelled, stage⟩
  cases closing
  have ended := tracks.stands.within.ended
  have does : run plan setup ⟨session, attempt, cancelled, .closing failure⟩
      [.outside (.advance setup.options.drainTimeout), .outside .endDrains, .noticeEnd] =
        ⟨(session.advance setup.options.drainTimeout).endDrains.1, attempt, cancelled,
          .finished failure⟩ := if_pos ended
  rw [does]
  rfl

theorem Tracks.resumes (tracks : Tracks plan setup past client) {resumeAt : Nat}
    (pausing : client.stage = .pausing resumeAt) (untold : .told ∉ past) (unshut : .shut ∉ past)
    (elapsed : resumeAt ≤ client.session.now) : ∃ deadline,
      (client.perform plan setup .passTime).stage = .connecting deadline := by
  rcases client with ⟨session, attempt, cancelled, stage⟩
  cases pausing
  have goesOn : ¬ (cancelled || session.phase = .closed) = true := by
    rw [Bool.or_eq_true, decide_eq_true_eq, not_or]
    exact ⟨mt tracks.ledger.told_iff.mpr untold, mt tracks.stands.1.shut_of_closed unshut⟩
  have does : Client.perform plan setup ⟨session, attempt, cancelled, .pausing resumeAt⟩ .passTime =
      attemptAgain plan setup ⟨session, attempt + 1, cancelled, .pausing resumeAt⟩ := if_pos elapsed
  rw [does, attemptAgain, if_neg goesOn]
  exact ⟨_, rfl⟩

theorem Tracks.reconnects (tracks : Tracks plan setup past client) :
    Reconnects plan setup past client where
  justified := tracks.ledger.justified
  pauses := fun _ _ _ _ _ split => tracks.pauses split
  givesUp_iff := by
    intro earlier attempt ruling later split
    refine ⟨fun ⟨number, gives⟩ => ((tracks.givesUp_iff split number).mp gives).2, fun spent => ?_⟩
    exact ⟨_, (tracks.givesUp_iff split _).mpr ⟨rfl, spent⟩⟩
  exhausted := fun _ returned => tracks.exhausted returned
  gaveUp := fun _ _ gives => tracks.gaveUp gives
  closed := by
    intro failure result
    rcases client with ⟨session, attempt, cancelled, stage⟩
    cases stage with
    | finished other => exact tracks.stands.closed
    | connecting | serving | pausing | closing | crashed => cases result
  returned_iff := tracks.returned_iff
  returns := fun _ closing => tracks.returns closing
  resumes := fun _ pausing untold unshut elapsed => tracks.resumes pausing untold unshut elapsed

end

/--
Whatever happens to a client on whatever core, this is how it reconnects.  The core may have
been used before the client starts on it, and others may go on using it.
-/
theorem reconnecting (plan : Plan) (setup : Setup σ) (world : σ) (before : List (Session.Move σ))
    (cancelled : Bool) (moves : List (Move σ)) :
    let session := Session.run setup (Session.new setup world) before
    Reconnects plan setup (log plan setup session cancelled moves)
      (run plan setup (start plan setup session cancelled) moves) :=
  have endsClosed := (Session.endsClosed_new setup world).run before
  (tracks_run plan setup endsClosed cancelled moves).reconnects

end Client
end DeviceLink
