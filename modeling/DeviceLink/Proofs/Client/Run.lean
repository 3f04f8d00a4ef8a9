import DeviceLink.Client
import DeviceLink.Proofs.Run
import DeviceLink.Proofs.Session.Run

namespace DeviceLink
namespace Client

/-!
Runs of a client.  A run is a list of moves, each of which is one thing that happens to the
client or that it takes notice of; between two of them others may do to the core what they
like.  That somebody tells the client to end and that it takes notice are two moves, and so
are the end of the core and its notice, so the outcome of an attempt may come in between.

The log of a run tells how the attempts to connect came out and what the client made of it.
-/

variable {σ : Type}

inductive Move (σ : Type)
  /--
  What others, the clock and the tasks of the pool do to the core.  Moves of the core come
  one at a time, so others may act between any two steps of the client.
  -/
  | outside (move : Session.Move σ)
  | tell
  | heed
  | fail
  | linkUp
  | linkDown
  | hear
  | receive (text : String)
  | passTime
  | noticeEnd

def perform (plan : Plan) (setup : Setup σ) (client : Client σ) (move : Move σ) : Client σ :=
  match move with
  | .outside move => { client with session := client.session.perform setup move }
  | .tell => { client with cancelled := true }
  | .heed => client.heed setup
  | .fail => client.attemptFailed plan setup
  | .linkUp => client.linkUp plan setup
  | .linkDown => client.linkDown plan setup
  | .hear => client.hear
  | .receive text => client.receiveText plan setup text
  | .passTime => client.passTime plan setup
  | .noticeEnd => client.noticeEnd

def run (plan : Plan) (setup : Setup σ) (client : Client σ) (moves : List (Move σ)) : Client σ :=
  moves.foldl (perform plan setup) client

/-! ## The log -/

/--
How an attempt to connect came out.  It has come to its end when it failed or when its link
is lost.
-/
inductive Attempt
  | failed
  /-- The link came up, and later it was lost. -/
  | served
  deriving DecidableEq

/--
What the client makes of it.  The failures in a row decide, unless the core has been shut
down.
-/
inductive Ruling
  /-- The core has been shut down.  There is no next attempt and no pause then. -/
  | stops
  | givesUp (count : UInt32)
  | pauses (since resumeAt : Nat)
  deriving DecidableEq

inductive Milestone
  /-- The client is told to end.  It need not have taken notice of that yet. -/
  | told
  /-- Somebody else shuts the core down.  Only the first shutdown counts. -/
  | shut
  | began (now : Nat)
  | cameUp (now : Nat)
  | tried (attempt : Attempt) (ruling : Ruling)
  | returned (failure : Failure)
  deriving DecidableEq

/--
Whether a milestone is one of the client, and not one of its surroundings.  The surroundings
may speak at any time, and the client only in its turn.
-/
def Milestone.isOwn : Milestone → Bool
  | told => false
  | shut => false
  | _ => true

/--
The attempt that a move brings to its end.  Most moves bring none to its end, whatever they
are.
-/
def concluded? (plan : Plan) (setup : Setup σ) (client : Client σ) (move : Move σ) :
    Option Attempt :=
  match move, client.stage with
  | .fail, .connecting _ => some .failed
  | .linkUp, .connecting _ =>
      if (client.session.core.establish setup (.queue plan.outboundCapacity [] true)).1 then none
      else some .failed
  | .linkDown, .serving _ _ => some .served
  | .passTime, .connecting deadline =>
      if deadline ≤ client.session.now then some .failed else none
  | .passTime, .serving quietSince _ =>
      if quietSince + plan.idleLimit.nanoseconds ≤ client.session.now then some .served else none
  | _, _ => none

/--
What a client is seen to make of an attempt.  It is read off the stage that the client has
come to.
-/
def ruling (client : Client σ) : Ruling :=
  match client.stage with
  | .pausing resumeAt => .pauses client.session.now resumeAt
  | .closing (.reconnectExhausted count) => .givesUp count
  | .finished (.reconnectExhausted count) => .givesUp count
  | _ => .stops

/--
What is seen when a client arrives at a stage.  A client that crashes does so when its link
has come up.
-/
def arrival (client : Client σ) : List Milestone :=
  match client.stage with
  | .connecting _ => [.began client.session.now]
  | .serving _ _ => [.cameUp client.session.now]
  | .crashed => [.cameUp client.session.now]
  | .finished failure => [.returned failure]
  | .pausing _ => []
  | .closing _ => []

/--
What is seen of the stage of a client before and after a move.  A client that stays at its
stage shows nothing.
-/
def arrived (before after : Client σ) : List Milestone :=
  if before.stage.ctorIdx = after.stage.ctorIdx then [] else after.arrival

/--
What others do that matters to the client.  Everything else that is done to the core is no
business of the client.
-/
def surroundings (client : Client σ) (move : Move σ) : List Milestone :=
  match move with
  | .outside (.shutdown _) => if client.session.phase = .closed then [] else [.shut]
  | .tell => [.told]
  | _ => []

def observe (plan : Plan) (setup : Setup σ) (client : Client σ) (move : Move σ) : List Milestone :=
  let after := client.perform plan setup move
  surroundings client move ++
    ((client.concluded? plan setup move).map fun attempt =>
      Milestone.tried attempt after.ruling).toList ++
    arrived client after

/--
What has happened before a client starts on a core.  It may have been told to end by then,
and its core may be closed.
-/
def beforehand (session : Session σ) (cancelled : Bool) : List Milestone :=
  (if cancelled then [.told] else []) ++ (if session.phase = .closed then [.shut] else [])

/--
The log of a client from its start.  It begins with what has happened before, so that
nothing the client does is without a reason in its log.
-/
def log (plan : Plan) (setup : Setup σ) (session : Session σ) (cancelled : Bool)
    (moves : List (Move σ)) : List Milestone :=
  beforehand session cancelled ++ (start plan setup session cancelled).arrival ++
    Run.history (perform plan setup) (observe plan setup) (start plan setup session cancelled) moves

/-! ## What the log should say -/

def Milestone.attempt? : Milestone → Option Attempt
  | tried attempt _ => some attempt
  | _ => none

/--
The attempts that have come to their end, in order.  An attempt that still goes on is not
among them.
-/
def attempts (past : List Milestone) : List Attempt := past.filterMap Milestone.attempt?

/--
The attempts that have failed in a row; the very first attempt does not count.  A link that
was served ends the row.
-/
def misses (attempts : List Attempt) : Nat :=
  (attempts.tail.reverse.takeWhile fun attempt => attempt = .failed).length

/--
How many have failed in a row if one more comes out in some way.  That is the number which
the pause after it depends on.
-/
def count (past : List Milestone) (attempt : Attempt) : Nat := misses (attempts past ++ [attempt])

/--
The latest milestone of the client itself.  What the surroundings have done since is passed
over.
-/
def latest? (past : List Milestone) : Option Milestone := past.reverse.find? Milestone.isOwn

/--
What a client returns once it has given up or has returned.  Other milestones settle nothing
about its return.
-/
def Milestone.ending? : Milestone → Option Failure
  | tried _ (.givesUp count) => some (.reconnectExhausted count)
  | returned failure => some failure
  | _ => none

/-- The ruling on a number of failures in a row.  The pause begins at the time that is given. -/
def due (backoff : Backoff) (count since : Nat) : Ruling :=
  if backoff.maxAttempts ≠ 0 ∧ count = backoff.maxAttempts.toNat then
    .givesUp backoff.maxAttempts
  else .pauses since (since + (backoff.delay (.ofNat count)).nanoseconds)

/--
What must have been before a milestone.  Milestones of the surroundings need no reason, and
the others follow each other in the order of an attempt.
-/
def Justified (backoff : Backoff) (past : List Milestone) : Milestone → Prop
  | .told => True
  | .shut => True
  | .began now => .told ∉ past ∧ .shut ∉ past ∧
      (latest? past = none ∨ ∃ attempt since resumeAt,
        latest? past = some (.tried attempt (.pauses since resumeAt)) ∧ resumeAt ≤ now)
  | .cameUp _ => ∃ now, latest? past = some (.began now)
  | .tried attempt ruling =>
      (match attempt with
        | .failed => ∃ now, latest? past = some (.began now)
        | .served => ∃ now, latest? past = some (.cameUp now)) ∧
      if .shut ∈ past then ruling = .stops
      else ∃ since, ruling = due backoff (count past attempt) since
  | .returned failure =>
      (failure = .shutdown ∧ (.told ∈ past ∨ .shut ∈ past) ∧
        ∀ milestone ∈ past, milestone.ending? = none) ∨
      ∃ attempt count, failure = .reconnectExhausted count ∧
        latest? past = some (.tried attempt (.givesUp count))

section

variable {past : List Milestone} {milestone : Milestone}

theorem latest?_concat_own (own : milestone.isOwn = true) :
    latest? (past ++ [milestone]) = some milestone := by
  rw [latest?, List.reverse_concat, List.find?_cons, own]

theorem latest?_concat_other (other : milestone.isOwn = false) :
    latest? (past ++ [milestone]) = latest? past := by
  rw [latest?, List.reverse_concat, List.find?_cons, other, latest?]

theorem mem_of_latest? (latest : latest? past = some milestone) : milestone ∈ past :=
  List.mem_reverse.mp (List.mem_of_find?_eq_some latest)

theorem attempts_concat (past : List Milestone) (milestone : Milestone) :
    attempts (past ++ [milestone]) = attempts past ++ milestone.attempt?.toList :=
  Run.filterMap_concat Milestone.attempt? past milestone

theorem count_concat (other : milestone.attempt? = none) (attempt : Attempt) :
    count (past ++ [milestone]) attempt = count past attempt := by
  rw [count, attempts_concat, other, Option.toList_none, List.append_nil, count]

theorem misses_served (attempts : List Attempt) : misses (attempts ++ [.served]) = 0 := by
  cases attempts with
  | nil => rfl
  | cons first rest =>
      rw [misses, List.cons_append, List.tail_cons, List.reverse_concat,
        List.takeWhile_cons_of_neg (by decide)]
      rfl

theorem misses_failed {attempts : List Attempt} (tried : attempts ≠ []) :
    misses (attempts ++ [.failed]) = misses attempts + 1 := by
  cases attempts with
  | nil => exact absurd rfl tried
  | cons first rest =>
      rw [misses, misses, List.cons_append, List.tail_cons, List.tail_cons, List.reverse_concat,
        List.takeWhile_cons_of_pos (by decide), List.length_cons]

theorem attempts_ne_nil {attempt : Attempt} {ruling : Ruling}
    (tried : .tried attempt ruling ∈ past) : attempts past ≠ [] :=
  List.ne_nil_of_mem (List.mem_filterMap.mpr ⟨_, tried, rfl⟩)

end

end Client
end DeviceLink
