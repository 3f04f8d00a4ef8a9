import DeviceLink.Proofs.Client.Run
import DeviceLink.Proofs.Session.Ended

namespace DeviceLink
namespace Client

/-!
What is true of a client beside its log.  At every stage the count of a client is the
number of failures in a row that the log tells, the budget has room for it, and the
client knows a good reason for whatever it is about to return.  None of it can be read
off the client alone, since the reasons for what it does lie in the past.  So a client
is described together with the milestones that it has passed.  `Ledger` is about the
count, `GoesOn` about a client that is at work, and `EndsIn` about one that is about to
return; `Tracks` puts the three together.
-/

variable {σ : Type}

/--
What is true of a client and its log at every stage.  Its log is justified throughout, and
tells correctly whether the client has been told to end.
-/
structure Ledger (backoff : Backoff) (past : List Milestone) (session : Session σ)
    (cancelled : Bool) : Prop where
  justified : ∀ earlier milestone later, past = earlier ++ milestone :: later →
    Justified backoff earlier milestone
  endsClosed : session.EndsClosed
  told_iff : .told ∈ past ↔ cancelled = true
  closed_of_shut : .shut ∈ past → session.phase = .closed

/--
A client that goes on has not given up, and only others can have closed its core.  So if its
core is closed, the log names a shutdown by somebody else.
-/
structure GoesOn (past : List Milestone) (session : Session σ) : Prop where
  unended : ∀ milestone ∈ past, milestone.ending? = none
  shut_of_closed : session.phase = .closed → .shut ∈ past

/--
Nothing has happened that makes the client return anything else.  A failure that is settled
once stays settled.
-/
def EndsIn (past : List Milestone) (failure : Failure) : Prop :=
  ∀ milestone ∈ past, ∀ other, milestone.ending? = some other → other = failure

/--
A client that waits for its core to drain will return for good reason.  Its core is closed
already, and the drain is over within the time that it may take.
-/
structure Closes (backoff : Backoff) (grace : Duration) (past : List Milestone)
    (session : Session σ) (failure : Failure) : Prop where
  unreturned : ∀ other, .returned other ∉ past
  endsIn : EndsIn past failure
  closed : session.phase = .closed
  justified : Justified backoff past (.returned failure)
  within : session.EndsWithin grace

structure Returned (past : List Milestone) (session : Session σ) (failure : Failure) : Prop where
  endsIn : EndsIn past failure
  closed : session.phase = .closed
  returned : .returned failure ∈ past

/-- The budget allows so many failures in a row.  A budget of zero allows any number. -/
def Allows (backoff : Backoff) (count : Nat) : Prop :=
  backoff.maxAttempts ≠ 0 → count ≤ backoff.maxAttempts.toNat

/--
What is true of a client at its stage.  Each stage knows the milestone that led to it, and
those with an attempt know its number.
-/
def Stands (backoff : Backoff) (grace : Duration) (past : List Milestone) (session : Session σ)
    (attempt : UInt32) : Stage → Prop
  | .connecting _ => GoesOn past session ∧ (∃ now, latest? past = some (.began now)) ∧
      attempt = .ofNat (count past .failed) ∧ Allows backoff (count past .failed)
  | .serving _ _ => GoesOn past session ∧ ∃ now, latest? past = some (.cameUp now)
  | .pausing resumeAt => GoesOn past session ∧
      (∃ last since, latest? past = some (.tried last (.pauses since resumeAt))) ∧
      attempt = .ofNat (misses (attempts past)) ∧ Allows backoff (misses (attempts past) + 1)
  | .closing failure => Closes backoff grace past session failure
  | .finished failure => Returned past session failure
  | .crashed => ∀ milestone ∈ past, milestone.ending? = none

structure Tracks (plan : Plan) (setup : Setup σ) (past : List Milestone) (client : Client σ) :
    Prop where
  ledger : Ledger plan.backoff past client.session client.cancelled
  stands : Stands plan.backoff setup.options.drainTimeout past client.session client.attempt
    client.stage

section

variable {plan : Plan} {setup : Setup σ} {past : List Milestone} {client : Client σ}
  {milestone : Milestone} {backoff : Backoff} {session : Session σ} {cancelled : Bool}
  {failure : Failure}

/-! ## The log grows -/

theorem justified_concat
    (justified : ∀ earlier milestone later, past = earlier ++ milestone :: later →
      Justified backoff earlier milestone) (last : Justified backoff past milestone) :
    ∀ earlier other later, past ++ [milestone] = earlier ++ other :: later →
      Justified backoff earlier other := by
  intro earlier other later split
  rcases Run.split_concat split with ⟨rfl, rfl⟩ | ⟨rest, inner⟩
  · exact last
  · exact justified earlier other rest inner

theorem Ledger.concat (ledger : Ledger backoff past session cancelled)
    (own : milestone.isOwn = true) (justified : Justified backoff past milestone) :
    Ledger backoff (past ++ [milestone]) session cancelled where
  justified := justified_concat ledger.justified justified
  endsClosed := ledger.endsClosed
  told_iff := by
    have other : .told ≠ milestone := fun same => by cases same; cases own
    rw [List.mem_append, List.mem_singleton, or_iff_left other]
    exact ledger.told_iff
  closed_of_shut := by
    have other : .shut ≠ milestone := fun same => by cases same; cases own
    rw [List.mem_append, List.mem_singleton, or_iff_left other]
    exact ledger.closed_of_shut

theorem Ledger.tell (ledger : Ledger backoff past session cancelled) :
    Ledger backoff (past ++ [.told]) session true where
  justified := justified_concat ledger.justified trivial
  endsClosed := ledger.endsClosed
  told_iff := iff_of_true (List.mem_append_right _ (List.mem_singleton.mpr rfl)) rfl
  closed_of_shut := fun shut => by
    rcases List.mem_append.mp shut with before | last
    · exact ledger.closed_of_shut before
    · cases List.mem_singleton.mp last

theorem Ledger.shut (ledger : Ledger backoff past session cancelled)
    (closed : session.phase = .closed) :
    Ledger backoff (past ++ [.shut]) session cancelled where
  justified := justified_concat ledger.justified trivial
  endsClosed := ledger.endsClosed
  told_iff := by
    rw [List.mem_append, List.mem_singleton, or_iff_left nofun]
    exact ledger.told_iff
  closed_of_shut := fun _ => closed

/-- The core may change as long as it stays closed.  The ledger looks at nothing else of it. -/
theorem Ledger.of_session {next : Session σ} (ledger : Ledger backoff past session cancelled)
    (endsClosed : next.EndsClosed) (closed : session.phase = .closed → next.phase = .closed) :
    Ledger backoff past next cancelled :=
  ⟨ledger.justified, endsClosed, ledger.told_iff, fun shut => closed (ledger.closed_of_shut shut)⟩

theorem unended_concat (unended : ∀ milestone ∈ past, milestone.ending? = none)
    (other : milestone.ending? = none) : ∀ seen ∈ past ++ [milestone], seen.ending? = none := by
  intro seen inside
  rcases List.mem_append.mp inside with before | last
  · exact unended seen before
  · exact List.mem_singleton.mp last ▸ other

theorem GoesOn.concat (goesOn : GoesOn past session) (other : milestone.ending? = none) :
    GoesOn (past ++ [milestone]) session where
  unended := unended_concat goesOn.unended other
  shut_of_closed := fun closed => List.mem_append_left _ (goesOn.shut_of_closed closed)

theorem unreturned_of_unended (unended : ∀ milestone ∈ past, milestone.ending? = none)
    (failure : Failure) : .returned failure ∉ past := by
  intro inside
  cases unended _ inside

theorem EndsIn.of_unended (unended : ∀ milestone ∈ past, milestone.ending? = none)
    (failure : Failure) : EndsIn past failure := by
  intro milestone inside other ends
  cases (unended milestone inside).symm.trans ends

theorem EndsIn.concat (endsIn : EndsIn past failure)
    (last : ∀ other, milestone.ending? = some other → other = failure) :
    EndsIn (past ++ [milestone]) failure := by
  intro seen inside other ends
  rcases List.mem_append.mp inside with before | final
  · exact endsIn seen before other ends
  · exact last other (List.mem_singleton.mp final ▸ ends)

/-! ## The end -/

theorem tracks_finished (ledger : Ledger plan.backoff past client.session client.cancelled)
    (endsIn : EndsIn past failure) (closed : client.session.phase = .closed)
    (justified : Justified plan.backoff past (.returned failure)) :
    Tracks plan setup (past ++ [.returned failure]) { client with stage := .finished failure } where
  ledger := ledger.concat rfl justified
  stands := ⟨endsIn.concat fun _ ends => (Option.some.inj ends).symm, closed,
    List.mem_append_right _ (List.mem_singleton.mpr rfl)⟩

/--
A client that ends for good reason closes its core.  From then on it waits for the core to
drain.
-/
theorem tracks_shutDown (ledger : Ledger plan.backoff past client.session client.cancelled)
    (unreturned : ∀ other, .returned other ∉ past) (endsIn : EndsIn past failure)
    (justified : Justified plan.backoff past (.returned failure)) :
    Tracks plan setup (past ++ (client.shutDown setup failure).arrival)
      (client.shutDown setup failure) := by
  have closed := client.session.phase_shutdownCore setup none
  have within (waits : (client.session.shutdownCore setup none).1 = false) :
      (client.session.shutdownCore setup none).2.EndsWithin setup.options.drainTimeout :=
    Session.endsWithin_shutdownCore waits
  unfold shutDown
  generalize client.session.shutdownCore setup none = result at closed within
  rcases result with ⟨_ | _, session⟩
  · have waits : Tracks plan setup (past ++ [])
        { client with session := session, stage := .closing failure } := by
      rw [List.append_nil]
      exact ⟨ledger.of_session (.inl closed) fun _ => closed,
        unreturned, endsIn, closed, justified, within rfl⟩
    exact waits
  · have kept : Ledger plan.backoff past session client.cancelled :=
      ledger.of_session (.inl closed) fun _ => closed
    have returns : Tracks plan setup (past ++ [.returned failure])
        { { client with session := session } with stage := .finished failure } :=
      tracks_finished kept endsIn closed justified
    exact returns

/--
Nobody but others closes the core of a client that goes on.  So a client that finds it
closed has a reason to return.
-/
theorem justified_shutdown (ledger : Ledger backoff past session cancelled)
    (goesOn : GoesOn past session) (ends : cancelled = true ∨ session.phase = .closed) :
    Justified backoff past (.returned .shutdown) :=
  .inl ⟨rfl, ends.imp ledger.told_iff.mpr goesOn.shut_of_closed, goesOn.unended⟩

theorem tracks_shutdown (setup : Setup σ)
    (ledger : Ledger plan.backoff past client.session client.cancelled)
    (goesOn : GoesOn past client.session)
    (ends : client.cancelled = true ∨ client.session.phase = .closed) :
    Tracks plan setup (past ++ (client.shutDown setup .shutdown).arrival)
      (client.shutDown setup .shutdown) :=
  tracks_shutDown ledger (unreturned_of_unended goesOn.unended) (.of_unended goesOn.unended _)
    (justified_shutdown ledger goesOn ends)

/-! ## Attempts -/

theorem tracks_attemptAgain (ledger : Ledger plan.backoff past client.session client.cancelled)
    (goesOn : GoesOn past client.session)
    (before : latest? past = none ∨ ∃ attempt since resumeAt,
      latest? past = some (.tried attempt (.pauses since resumeAt)) ∧
        resumeAt ≤ client.session.now)
    (counted : client.attempt = .ofNat (count past .failed))
    (allowed : Allows plan.backoff (count past .failed)) :
    Tracks plan setup (past ++ (client.attemptAgain plan setup).arrival)
      (client.attemptAgain plan setup) := by
  unfold attemptAgain
  by_cases ends : client.cancelled = true ∨ client.session.phase = .closed
  · have told : (client.cancelled || client.session.phase = .closed) = true := by
      simpa only [Bool.or_eq_true, decide_eq_true_eq] using ends
    rw [if_pos told]
    exact tracks_shutdown setup ledger goesOn ends
  · have untold : ¬ (client.cancelled || client.session.phase = .closed) = true := by
      simpa only [Bool.or_eq_true, decide_eq_true_eq] using ends
    rw [not_or] at ends
    rw [if_neg untold]
    have justified : Justified plan.backoff past (.began client.session.now) :=
      ⟨fun told => ends.1 (ledger.told_iff.mp told),
        fun shut => ends.2 (ledger.closed_of_shut shut), before⟩
    have same : count (past ++ [.began client.session.now]) .failed = count past .failed :=
      count_concat rfl .failed
    rw [← same] at counted allowed
    exact ⟨ledger.concat rfl justified, goesOn.concat rfl, ⟨_, latest?_concat_own rfl⟩,
      counted, allowed⟩

theorem isExhausted_iff {number : Nat} (allowed : Allows backoff number) :
    backoff.isExhausted (.ofNat number) = true ↔
      backoff.maxAttempts ≠ 0 ∧ number = backoff.maxAttempts.toNat := by
  rw [Backoff.isExhausted, Bool.and_eq_true, decide_eq_true_eq, decide_eq_true_eq]
  refine and_congr_right fun limited => ?_
  have small := allowed limited
  have fits : number < UInt32.size := lt_of_le_of_lt small backoff.maxAttempts.toNat_lt_size
  rw [UInt32.le_iff_toNat_le, UInt32.toNat_ofNat_of_lt' fits]
  omega

theorem ruling_shutDown (client : Client σ) (setup : Setup σ) (count : UInt32) :
    (client.shutDown setup (.reconnectExhausted count)).ruling = .givesUp count := by
  unfold shutDown
  generalize client.session.shutdownCore setup none = result
  rcases result with ⟨_ | _, session⟩ <;> rfl

/--
What a client makes of an attempt that has come to its end.  It pauses, gives up or stops,
as the count and the core demand.
-/
theorem tracks_afterAttempt (setup : Setup σ) (client : Client σ) (attempt : Attempt)
    (ledger : Ledger plan.backoff past client.session client.cancelled)
    (goesOn : GoesOn past client.session)
    (tried : match attempt with
      | .failed => ∃ now, latest? past = some (.began now)
      | .served => ∃ now, latest? past = some (.cameUp now))
    (counted : client.attempt = .ofNat (count past attempt))
    (allowed : Allows plan.backoff (count past attempt)) :
    Tracks plan setup
      (past ++ [.tried attempt (client.afterAttempt plan setup).ruling] ++
        (client.afterAttempt plan setup).arrival)
      (client.afterAttempt plan setup) := by
  unfold afterAttempt
  by_cases closed : client.session.phase = .closed
  · rw [if_pos closed]
    have justified : Justified plan.backoff past (.tried attempt .stops) :=
      ⟨tried, (if_pos (goesOn.shut_of_closed closed)).mpr rfl⟩
    have next := ledger.concat rfl justified
    have left : GoesOn (past ++ [.tried attempt .stops]) client.session :=
      goesOn.concat rfl
    exact tracks_finished next (.of_unended left.unended _) closed
      (justified_shutdown next left (.inr closed))
  · have unshut : .shut ∉ past := fun shut => closed (ledger.closed_of_shut shut)
    have justified (since : Nat) : Justified plan.backoff past
        (.tried attempt (due plan.backoff (count past attempt) since)) :=
      ⟨tried, (if_neg unshut).mpr ⟨since, rfl⟩⟩
    rw [if_neg closed, counted]
    by_cases exhausted : plan.backoff.isExhausted (.ofNat (count past attempt)) = true
    · have spent := (isExhausted_iff allowed).mp exhausted
      have all : UInt32.ofNat (count past attempt) = plan.backoff.maxAttempts := by
        rw [spent.2, UInt32.ofNat_toNat]
      have ruling_eq : due plan.backoff (count past attempt) 0 =
          .givesUp plan.backoff.maxAttempts := if_pos spent
      have unreturned (other : Failure) :
          .returned other ∉ past ++ [.tried attempt (.givesUp plan.backoff.maxAttempts)] := by
        rw [List.mem_append, List.mem_singleton, or_iff_left nofun]
        exact unreturned_of_unended goesOn.unended other
      rw [if_pos exhausted, ruling_shutDown, all]
      exact tracks_shutDown (ledger.concat rfl (ruling_eq ▸ justified 0)) unreturned
        ((EndsIn.of_unended goesOn.unended _).concat fun _ ends => (Option.some.inj ends).symm)
        (.inr ⟨attempt, _, rfl, latest?_concat_own rfl⟩)
    · have unspent := mt (isExhausted_iff allowed).mpr exhausted
      have ruling_eq (since : Nat) : due plan.backoff (count past attempt) since =
          .pauses since (since + (plan.backoff.delay (.ofNat (count past attempt))).nanoseconds) :=
        if_neg unspent
      let pausing : Milestone := .tried attempt (.pauses client.session.now
        (client.session.now + (plan.backoff.delay (.ofNat (count past attempt))).nanoseconds))
      have misses_eq : misses (attempts (past ++ [pausing])) = count past attempt :=
        congrArg misses (attempts_concat past _)
      have justified : Justified plan.backoff past pausing := by
        have said := justified client.session.now
        rw [ruling_eq] at said
        exact said
      have pauses : Tracks plan setup (past ++ [pausing] ++ [])
          { client with
            attempt := .ofNat (count past attempt)
            stage := .pausing (client.session.now +
              (plan.backoff.delay (.ofNat (count past attempt))).nanoseconds) } := by
        rw [List.append_nil]
        refine ⟨ledger.concat rfl justified, goesOn.concat rfl,
          ⟨attempt, client.session.now, latest?_concat_own rfl⟩, ?_⟩
        rw [misses_eq]
        refine ⟨rfl, fun limited => Nat.lt_of_le_of_ne (allowed limited) fun same => ?_⟩
        exact unspent ⟨limited, same⟩
      rw [if_neg exhausted]
      exact pauses

end

end Client
end DeviceLink
