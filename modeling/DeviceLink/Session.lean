import DeviceLink.Agenda
import DeviceLink.Core.Turn

namespace DeviceLink

/-!
A core at work under a clock that moves only when told to.  Those who wait for something
go by labels.  After every operation all tasks take the steps they can, and then
everybody whose waiting is over gets a result: first those who have a deadline, in the
order of their deadlines, then the shutdowns.  Time is exact and moves between
operations only, so what a run does depends on nothing but its operations.  The
operations of the users are here, and the moves of which runs consist are made of them.
-/

/--
What was started under a label.  A label may be used again; it then stands for
what was started last, and the ticket tells apart what was started before.
-/
structure Tag where
  label : String
  ticket : Nat
  deriving DecidableEq, Repr

/-- What a wait ends with.  Each kind of wait has a kind of result of its own. -/
inductive Result
  | reply (result : Except Failure Reply)
  | connected (result : Except Failure Unit)
  | shut
  | closed (isClosed : Bool)

/--
A wait for the link to come up.  It reads what has been published last and not the state
behind it.
-/
structure Watch where
  deadline : Nat
  budget : Duration
  deriving DecidableEq, Repr

namespace Watch

/--
Both the connected and the closed link end the wait, and so does the deadline.  The state of
the link goes before the deadline.
-/
def result? (watch : Watch) (link : Link) (now : Nat) : Option (Except Failure Unit) :=
  match link.watched with
  | .connected => some (.ok ())
  | .closed => some (.error .closed)
  | _ => if watch.deadline ≤ now then some (.error (.connectTimeout watch.budget)) else none

end Watch

/--
A shutdown that lets tasks finish until a deadline.  It waits for the tasks that were there
when it began, and no others can begin after it.
-/
structure Drain where
  tasks : List Nat
  deadline : Nat
  /--
  Whether the end of this drain is the end of the whole core.  Closing the pool alone leaves
  the link as it is.
  -/
  ofCore : Bool
  deriving DecidableEq, Repr

structure Session (σ : Type) where
  core : Core σ
  now : Nat
  /-- In the order of their deadlines. -/
  callers : List (Tag × Wait)
  /-- In the order of their deadlines. -/
  watchers : List (Tag × Watch)
  /-- A shutdown that nobody waits for has no tag. -/
  drains : List (Option Tag × Drain)
  /--
  Those who wait for the end of a shutdown.  They are told in the order in which they began
  to wait.
  -/
  awaitingEnd : List Tag
  /-- Whether a shutdown of the core has finished.  It stays so for good. -/
  ended : Bool
  /-- What the labels in use stand for.  Each label stands for one tag at most. -/
  started : List Tag
  nextTicket : Nat

namespace Session

variable {σ : Type}

abbrev Finished := List (String × Result)

def new (setup : Setup σ) (world : σ) : Session σ :=
  { core := Core.new setup world
    now := 0
    callers := []
    watchers := []
    drains := []
    awaitingEnd := []
    ended := false
    started := []
    nextTicket := 0 }

/--
Synchronous requests that await a reply.  They are counted by their entries, so one that has
been answered is not among them.
-/
def inFlight (session : Session σ) : Nat := session.core.registry.size

def phase (session : Session σ) : Phase := session.core.link.phase

/--
When a span of time that begins now will be over, if the clock can name that moment.  Waits
for the link and drains do without this, since their deadlines may lie further away.
-/
def due? (session : Session σ) (span : Duration) : Option Nat :=
  session.core.clock.after? session.now span

/-! Ending waits. -/

/--
A wait that is over, and when it would have been over at the latest.  The ends of one round
are sorted by that moment.
-/
structure Ending where
  tag : Tag
  deadline : Nat
  result : Result

namespace Ending

/--
The earlier deadline goes first, and of equal deadlines what was started first.  That is the
order in which a clock would have ended them.
-/
def precedes (first second : Ending) : Bool :=
  first.deadline < second.deadline ||
    (first.deadline = second.deadline && first.tag.ticket ≤ second.tag.ticket)

def entry (ending : Ending) : String × Result := (ending.tag.label, ending.result)

end Ending

/--
End the first synchronous request that has a result, and drop its handle.  The drop may take
the entry of another request, which then ends in the same round.
-/
def endCaller? (session : Session σ) : Option (Session σ × Ending) :=
  session.callers.findSome? fun (tag, wait) =>
    (wait.result? session.core.registry session.now).map fun result =>
      ({ session with
          core := { session.core with registry := session.core.registry.drop wait.token }
          callers := session.callers.filter fun other => other.2.token ≠ wait.token },
        ⟨tag, wait.deadline, .reply result⟩)

def endCallersFor : Nat → Session σ → Session σ × List Ending
  | 0, session => (session, [])
  | count + 1, session =>
      match session.endCaller? with
      | none => (session, [])
      | some (next, ending) =>
          let (final, endings) := endCallersFor count next
          (final, ending :: endings)

def endCallers (session : Session σ) : Session σ × List Ending :=
  endCallersFor session.callers.length session

def endWatchers (session : Session σ) : Session σ × List Ending :=
  let result? (entry : Tag × Watch) := entry.2.result? session.core.link session.now
  ({ session with watchers := session.watchers.filter fun entry => (result? entry).isNone },
    session.watchers.filterMap fun entry =>
      (result? entry).map fun result => ⟨entry.1, entry.2.deadline, .connected result⟩)

/--
A drain is over when its tasks have ended or its time has run out.  Tasks count as ended
once they are gone from the pool, for whatever reason.
-/
def drainIsOver (session : Session σ) (drain : Drain) : Bool :=
  !session.core.pool.anyAlive drain.tasks || drain.deadline ≤ session.now

/-- What is reported about the end of a drain.  Nothing is, unless somebody waits for it. -/
def shutEntry (tag : Option Tag) : Finished :=
  match tag with
  | some tag => [(tag.label, .shut)]
  | none => []

/--
Tasks that have not ended by the deadline of their drain are abandoned.  A drain that is
over early has nobody left to abandon.
-/
def endDrains (session : Session σ) : Session σ × Finished :=
  let (spent, running) := session.drains.partition fun entry => session.drainIsOver entry.2
  ({ session with
      core := spent.foldl (fun core entry => core.abortTasks entry.2.tasks) session.core
      drains := running
      ended := session.ended || spent.any fun entry => entry.2.ofCore },
    spent.flatMap fun entry => shutEntry entry.1)

def endAwaiting (session : Session σ) : Session σ × Finished :=
  if session.ended then
    ({ session with awaitingEnd := [] },
      session.awaitingEnd.map fun tag => (tag.label, .closed (session.phase = .closed)))
  else (session, [])

/--
Let everything happen that can happen without the outside.  The tasks come first, so
whatever they send has left before anybody hears of an end.
-/
def settle (setup : Setup σ) (session : Session σ) : Session σ × Finished :=
  let (afterCallers, replies) := { session with core := session.core.settle setup }.endCallers
  let (afterWatchers, connections) := afterCallers.endWatchers
  let (afterDrains, shut) := afterWatchers.endDrains
  let (final, closed) := afterDrains.endAwaiting
  (final, (replies.merge connections Ending.precedes).map Ending.entry ++ shut ++ closed)

/-! Starting something under a label. -/

/--
What an operation leaves to be reported at once.  What ends only when everything settles is
not part of it.
-/
structure Started (σ : Type) where
  session : Session σ
  finished : Finished

/-- A new tag; from now on the label stands for it.  Tickets are never used twice. -/
def start (session : Session σ) (label : String) : Tag × Session σ :=
  let tag : Tag := ⟨label, session.nextTicket⟩
  (tag,
    { session with
      started := tag :: session.started.filter fun other => other.label ≠ label
      nextTicket := session.nextTicket + 1 })

/--
A synchronous request.  One that fails before it waits is over at once, and nothing is ever
heard of one that crashes.  Otherwise its wait joins the others, in the order of the
deadlines.
-/
def request (session : Session σ) (label : String) (device : Address) (request : Request)
    (budget : Duration) : Started σ :=
  let (tag, begun) := session.start label
  match begun.core.sendSync device request begun.now budget with
  | (.waits wait, core) =>
      ⟨{ begun with
          core := core
          callers := Agenda.insert (fun entry => entry.2.deadline) (tag, wait) begun.callers }, []⟩
  | (.fails failure, core) => ⟨{ begun with core := core }, [(label, .reply (.error failure))]⟩
  | (.crashes, core) => ⟨{ begun with core := core }, []⟩

def waitConnected (session : Session σ) (label : String) (budget : Duration) : Session σ :=
  let (tag, begun) := session.start label
  let watch : Watch := ⟨begun.now + budget.nanoseconds, budget⟩
  { begun with
    watchers := Agenda.insert (fun entry => entry.2.deadline) (tag, watch) begun.watchers }

/--
Wait for the end of a shutdown.  The wait is without a deadline, and ends at once if a
shutdown has finished before.
-/
def awaitEnd (session : Session σ) (label : String) : Session σ :=
  let (tag, begun) := session.start label
  { begun with awaitingEnd := begun.awaitingEnd ++ [tag] }

/--
Close the pool and let its tasks finish for a while.  The answer says whether that is over
at once, because there are no tasks.  Otherwise a drain begins, whether or not anybody waits
for its end.
-/
def drainPool (session : Session σ) (tag : Option Tag) (grace : Duration) (ofCore : Bool) :
    Bool × Session σ :=
  let (pool, tasks) := session.core.pool.close
  let closed := { session with core := { session.core with pool := pool } }
  if tasks.isEmpty then (true, { closed with ended := closed.ended || ofCore })
  else
    (false,
      { closed with
        drains := closed.drains ++ [(tag, ⟨tasks, closed.now + grace.nanoseconds, ofCore⟩)] })

/--
Shut the whole core down: the link closes, requests that wait fail, and then the pool
drains.  A second shutdown is over at once and waits for nothing.  It does not even wait for
the end of the first one.
-/
def shutdownCore (setup : Setup σ) (session : Session σ) (tag : Option Tag) :
    Bool × Session σ :=
  match session.core.shutdownLink setup with
  | (false, core) => (true, { session with core := core })
  | (true, core) =>
      let cleared := { session with core := { core with registry := core.registry.clear.2 } }
      cleared.drainPool tag setup.options.drainTimeout true

/-- Report a shutdown that is over at once.  Any other is reported when its drain ends. -/
def reportShut (tag : Tag) (begun : Bool × Session σ) : Started σ :=
  ⟨begun.2, if begun.1 then shutEntry (some tag) else []⟩

/--
Shut down the pool alone.  The link goes on sending and receiving, but every call that comes
in is refused.
-/
def shutdownPool (session : Session σ) (label : String) (grace : Duration) : Started σ :=
  let (tag, begun) := session.start label
  reportShut tag (begun.drainPool (some tag) grace false)

/-- Shut down the whole core.  Whoever asked for it hears when the drain is over. -/
def shutdown (setup : Setup σ) (session : Session σ) (label : String) : Started σ :=
  let (tag, begun) := session.start label
  reportShut tag (begun.shutdownCore setup (some tag))

/--
Give up what a tag stands for, as far as it has not ended.  A request that is given up drops
its handle, and a shutdown that is given up abandons its tasks.
-/
def giveUp (session : Session σ) (tag : Tag) : Session σ :=
  let registry := session.callers.foldl (fun registry entry =>
    if entry.1 = tag then registry.drop entry.2.token else registry) session.core.registry
  let core := session.drains.foldl (fun core entry =>
    if entry.1 = some tag then core.abortTasks entry.2.tasks else core)
    { session.core with registry := registry }
  { session with
    core := core
    callers := session.callers.filter fun entry => entry.1 ≠ tag
    watchers := session.watchers.filter fun entry => entry.1 ≠ tag
    drains := session.drains.filter fun entry => entry.1 ≠ some tag
    awaitingEnd := session.awaitingEnd.filter fun other => other ≠ tag
    started := session.started.filter fun other => other ≠ tag }

/--
Give up what a label stands for; the answer says whether it stood for anything.  What was
started earlier under the same label goes on.
-/
def abort (session : Session σ) (label : String) : Bool × Session σ :=
  match session.started.find? fun tag => tag.label = label with
  | some tag => (true, session.giveUp tag)
  | none => (false, session)

def advance (session : Session σ) (span : Duration) : Session σ :=
  { session with now := session.now + span.nanoseconds }

end Session
end DeviceLink
