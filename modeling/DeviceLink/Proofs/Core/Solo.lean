import DeviceLink.Proofs.Core.Vetting
import DeviceLink.Proofs.DeviceCall.Independence

namespace DeviceLink

/-!
One device by itself.  A handler that serves each device from its own part of the world
does for a device what it would do if the calls on it were carried out one after the
other with nothing else going on.  At every moment of a run, what has come of these
calls so far, together with what the lane of the device still has to do, is what would
come of all of them by themselves.  `Solo` is the state of such a calculation: the
world, and the notes and answers so far.
-/

open Json (Value Members)
open Pool (Facet WaitingCall)

namespace Happening

/--
The answer to a call on a device, with the message id of the call.  Calls on other devices
and reports have none.
-/
def answerOn? (device : Address) : Happening → Option (UInt32 × Int32 × Members)
  | ended (.invoke messageId target _) (some (code, payload)) =>
      if target = device then some (messageId, code, payload) else none
  | _ => none

end Happening

/--
The answers to the calls on a device, in the order in which they were handed on.  A call
that has not ended has none among them.
-/
def answersOn (device : Address) (past : List Happening) : List (UInt32 × Int32 × Members) :=
  past.filterMap (Happening.answerOn? device)

theorem answersOn_append (device : Address) (first second : List Happening) :
    answersOn device (first ++ second) = answersOn device first ++ answersOn device second :=
  List.filterMap_append

theorem answersOn_happeningsOn (device : Address) (past : List Happening) :
    answersOn device (happeningsOn device past) = answersOn device past := by
  refine filterMap_happeningsOn (fun happening elsewhere => ?_) past
  cases happening with
  | received | sent | accepted | began => rfl
  | ended job answer =>
      cases job with
      | reportReply => rfl
      | invoke messageId target call =>
          cases answer with
          | none => rfl
          | some answer => exact if_neg fun same => elsewhere (congrArg some same)

namespace Core

variable {σ π : Type}

/-! ## One device by itself -/

/--
What has come of the calls on a device.  These are the world that they leave, their
callbacks and their answers.
-/
structure Solo (σ : Type) where
  world : σ
  made : List Note
  answers : List (UInt32 × Int32 × Members)

namespace Solo

/-- A call goes on to its end with nothing else going on.  Gates let it pass at once. -/
def conclude (device : Address) (call : WaitingCall) (code : Activity σ Members) (solo : Solo σ) :
    Solo σ :=
  let finish := code.exhaust solo.world
  { world := finish.world
    made := solo.made ++ callbacks device finish.notes
    answers := solo.answers ++ [(call.messageId, DeviceCall.answer finish.outcome)] }

/--
A call is carried out with nothing else going on.  It begins with the code that the handler
has for it.
-/
def play (setup : Setup σ) (device : Address) (solo : Solo σ) (call : WaitingCall) : Solo σ :=
  solo.conclude device call (codeOf setup device call none)

/--
All is done that a device still has to do.  First comes what is left of the call that it is
at, and then the calls that wait.
-/
def finish (setup : Setup σ) (device : Address) (solo : Solo σ) : Facet σ → Solo σ
  | .free => solo
  | .driven call rest waiting =>
      waiting.foldl (play setup device) (solo.conclude device call (codeOf setup device call rest))
  | .stuck _ => solo

/-- The device cannot tell the difference.  The worlds may differ in parts that it does not see. -/
structure Alike (view : σ → π) (first second : Solo σ) : Prop where
  made_eq : first.made = second.made
  answers_eq : first.answers = second.answers
  view_eq : view first.world = view second.world

section

variable {view : σ → π} {device : Address} {setup : Setup σ} {first second third : Solo σ}

theorem Alike.trans (there : Alike view first second) (here : Alike view second third) :
    Alike view first third where
  made_eq := there.made_eq.trans here.made_eq
  answers_eq := there.answers_eq.trans here.answers_eq
  view_eq := there.view_eq.trans here.view_eq

theorem Alike.conclude (alike : Alike view first second) {code : Activity σ Members}
    (uniform : code.Uniform view device) (call : WaitingCall) :
    Alike view (first.conclude device call code) (second.conclude device call code) := by
  have ends := uniform first.world second.world alike.view_eq
  refine ⟨?_, ?_, ends.view_eq⟩
  · simp only [Solo.conclude, alike.made_eq, ends.callbacks_eq]
  · simp only [Solo.conclude, alike.answers_eq, ends.outcome_eq]

end

end Solo

/-! ## What is still to be done -/

section

variable {view : σ → π} {setup : Setup σ} {device : Address} {solo other : Solo σ}
  {facet : Facet σ}

/--
A lane that has its task, with nothing left of its call but independent code.  What handlers
leave at a gate is independent whenever they are.
-/
def Diligent (view : σ → π) (device : Address) : Facet σ → Prop
  | .free => True
  | .driven _ none _ => True
  | .driven _ (some rest) _ => rest.Independent view device
  | .stuck _ => False

theorem Diligent.join (diligent : Diligent view device facet) (call : WaitingCall) :
    Diligent view device (facet.join call) := by
  cases facet with
  | free => trivial
  | driven current rest waiting => cases rest <;> exact diligent
  | stuck => exact diligent.elim

theorem diligent_ofWaiting (waiting : List WaitingCall) :
    Diligent view device (.ofWaiting waiting : Facet σ) := by
  cases waiting <;> trivial

theorem Solo.finish_ofWaiting (setup : Setup σ) (device : Address) (solo : Solo σ)
    (waiting : List WaitingCall) :
    solo.finish setup device (.ofWaiting waiting) = waiting.foldl (play setup device) solo := by
  cases waiting <;> rfl

/--
A call that joins the lane is carried out after all the others.  So it does not matter when
it has joined.
-/
theorem Solo.finish_join (diligent : Diligent view device facet) (setup : Setup σ)
    (solo : Solo σ) (call : WaitingCall) :
    solo.finish setup device (facet.join call) =
      (solo.finish setup device facet).play setup device call := by
  cases facet with
  | free => rfl
  | driven current rest waiting => exact List.foldl_concat _ _ _ _
  | stuck => exact diligent.elim

theorem answersOn_goingOn (device : Address) (world : σ) (call : WaitingCall)
    (rest : Option (Activity σ Members)) :
    answersOn device (goingOn setup device world call rest) =
      match ((codeOf setup device call rest).run world).progress with
      | .ended outcome => [(call.messageId, DeviceCall.answer outcome)]
      | .atGate _ _ => [] := by
  have begins : answersOn device
      (if rest.isNone then [.began (.invoke call.messageId device call.call)] else []) = [] := by
    split <;> rfl
  rw [goingOn, answersOn_append, begins, List.nil_append, concluded]
  cases ((codeOf setup device call rest).run world).progress with
  | ended outcome =>
      simp only [answersOn, List.filterMap_cons, List.filterMap_nil, Happening.answerOn?, if_true]
  | atGate => rfl

/--
After a stretch of code, what is left to be done leads to the same end.  Going on by a
stretch and doing all the rest at once are the same.
-/
theorem Solo.finish_facetAfter (setup : Setup σ) (device : Address) (solo : Solo σ)
    (call : WaitingCall) (rest : Option (Activity σ Members)) (waiting : List WaitingCall) :
    Solo.finish setup device
      { world := ((codeOf setup device call rest).run solo.world).world
        made := solo.made ++ callbacks device ((codeOf setup device call rest).run solo.world).notes
        answers := solo.answers ++ answersOn device (goingOn setup device solo.world call rest) }
      (facetAfter call waiting ((codeOf setup device call rest).run solo.world).progress) =
    solo.finish setup device (.driven call rest waiting) := by
  rw [answersOn_goingOn, Solo.finish, Solo.conclude, Activity.exhaust_eq]
  cases ((codeOf setup device call rest).run solo.world).progress with
  | ended outcome => exact Solo.finish_ofWaiting setup device _ waiting
  | atGate gate left =>
      simp only [facetAfter, Solo.finish, Solo.conclude, codeOf, Option.getD_some, List.append_nil,
        callbacks_append, List.append_assoc]

end

/-! ## Runs -/

section

variable {view : Address → σ → π} {setup : Setup σ} {device : Address} {world : σ}
  {past : List Happening} {core : Core σ} {facet : Facet σ} {call : WaitingCall}
  {rest : Option (Activity σ Members)} {waiting : List WaitingCall}

/-- What has come so far of the calls on a device.  It is read off the core and its history. -/
def soFar (device : Address) (past : List Happening) (core : Core σ) : Solo σ :=
  ⟨core.world, callbacks device core.notes, answersOn device past⟩

/--
What comes of calls on a device by themselves.  They are carried out one after the other,
from the world that is given.
-/
def alone (setup : Setup σ) (device : Address) (world : σ) (calls : List WaitingCall) : Solo σ :=
  calls.foldl (Solo.play setup device) ⟨world, [], []⟩

/--
What has come of the calls on a device, with what its lane still has to do, is what they
come to alone.  That is what each move keeps.
-/
structure Secluded (view : Address → σ → π) (setup : Setup σ) (device : Address) (world : σ)
    (past : List Happening) (core : Core σ) : Prop where
  faced : Faced core.pool
  sparing : Sparing (view device) device core.pool
  sees : ∃ facet, core.pool.Shows device facet ∧ Diligent (view device) device facet ∧
    Solo.Alike (view device) ((soFar device past core).finish setup device facet)
      (alone setup device world (acceptedCalls device past))

theorem secluded_new (view : Address → σ → π) (setup : Setup σ) (device : Address) (world : σ) :
    Secluded view setup device world [] (new setup world) where
  faced := faced_new setup.options
  sparing := sparing_new (view device) device setup.options
  sees := ⟨.free, Pool.shows_new setup.options device, trivial, ⟨rfl, rfl, rfl⟩⟩

/--
What is done beside the pool and the code of devices leaves a device secluded.  Such moves
neither add a call nor take one further.
-/
theorem Secluded.of_quiet {next : Core σ} (secluded : Secluded view setup device world past core)
    (pool_eq : next.pool = core.pool) (quiet : Quiet core next) :
    Secluded view setup device world past next where
  faced := pool_eq ▸ secluded.faced
  sparing := pool_eq ▸ secluded.sparing
  sees := by
    rw [pool_eq, soFar, quiet.world_eq, quiet.notes_eq]
    exact secluded.sees

/--
A device whose calls have all ended has come to what they come to alone.  Nothing is left to
be done then.
-/
theorem Secluded.alike_of_ended (secluded : Secluded view setup device world past core)
    (ended : core.pool.tasks = []) :
    Solo.Alike (view device) (soFar device past core)
      (alone setup device world (acceptedCalls device past)) := by
  rcases secluded.sees with ⟨facet, shows, diligent, alike⟩
  have nobody := shows.drivers_eq
  rw [ended] at nobody
  cases facet with
  | free => exact alike
  | driven => cases nobody
  | stuck => exact diligent.elim

variable (independent : setup.handler.Independent view)

include independent

theorem Diligent.codeOf (diligent : Diligent (view device) device (.driven call rest waiting)) :
    (codeOf setup device call rest).Independent (view device) device := by
  cases rest with
  | none => exact DeviceCall.independent_perform independent.independent _ device call.call
  | some rest => exact diligent

theorem Diligent.facetAfter (diligent : Diligent (view device) device (.driven call rest waiting))
    (world : σ) : Diligent (view device) device
      (facetAfter call waiting ((Core.codeOf setup device call rest).run world).progress) := by
  cases progress : ((Core.codeOf setup device call rest).run world).progress with
  | ended outcome => exact diligent_ofWaiting waiting
  | atGate gate left => exact (diligent.codeOf independent).run progress

/--
Calls by themselves come to the same when a device cannot tell where they begin.  Their code
sees the same of both worlds, and changes both in the same way.
-/
theorem Solo.Alike.play {first second : Solo σ} (alike : Alike (view device) first second)
    (calls : List WaitingCall) :
    Alike (view device) (calls.foldl (Solo.play setup device) first)
      (calls.foldl (Solo.play setup device) second) := by
  induction calls generalizing first second with
  | nil => exact alike
  | cons call calls ih =>
      have fresh : Diligent (view device) device (.driven call none []) := trivial
      exact ih (alike.conclude (fresh.codeOf independent).uniform call)

theorem Solo.Alike.finish {first second : Solo σ} (alike : Alike (view device) first second)
    (diligent : Diligent (view device) device facet) :
    Alike (view device) (first.finish setup device facet) (second.finish setup device facet) := by
  cases facet with
  | free | stuck => exact alike
  | driven call rest waiting =>
      exact (alike.conclude (diligent.codeOf independent).uniform call).play independent waiting

theorem Secluded.perform (secluded : Secluded view setup device world past core) {move : Move σ}
    (orderly : move.isAbort = false)
    (calm : ∀ world, move = .disturb world → view device world = view device core.world) :
    Secluded view setup device world (past ++ observe setup core move)
      (Core.perform setup core move) where
  faced := secluded.faced.perform setup move
  sparing := secluded.sparing.perform secluded.faced (independent.spares device) move
  sees := by
    rcases secluded.sees with ⟨facet, shows, diligent, alike⟩
    rcases (advance setup secluded.faced.tidy shows move).2 with ⟨after, shown, way⟩
    refine ⟨after, shown, ?_⟩
    rw [soFar, answersOn_append, acceptedCalls_append,
      ← answersOn_happeningsOn device (observe setup core move),
      ← acceptedCalls_happeningsOn device (observe setup core move)]
    -- A move that runs none of its code neither calls the device nor touches its part.
    have frame (elsewhere : ∀ code, code? setup core move ≠ some (device, code)) :
        Solo.Alike (view device)
          ⟨(Core.perform setup core move).world,
            callbacks device (Core.perform setup core move).notes, answersOn device past ++ []⟩
          (soFar device past core) := by
      have kept := secluded.sparing.frame secluded.faced (independent.spares device) elsewhere calm
      exact ⟨kept.1, List.append_nil _, kept.2⟩
    generalize happeningsOn device (observe setup core move) = told at way ⊢
    cases way with
    | aside _ elsewhere =>
        refine ⟨diligent, ?_⟩
        have nothing : acceptedCalls device [] = [] := rfl
        rw [nothing, List.append_nil]
        exact ((frame elsewhere).finish independent diligent).trans alike
    | join _ call elsewhere =>
        refine ⟨diligent.join call, ?_⟩
        have joined : acceptedCalls device [.accepted (.invoke call.messageId device call.call)] =
            [call] := by
          rw [acceptedCalls_accepted, Job.callOn?_eq_some.mpr rfl]
          rfl
        rw [joined, alone, List.foldl_append, Solo.finish_join diligent]
        have before := ((frame elsewhere).finish independent diligent).trans alike
        exact before.play independent [call]
    | lose _ aborts => rw [orderly] at aborts; cases aborts
    | goOn call rest waiting runs =>
        refine ⟨diligent.facetAfter independent core.world, ?_⟩
        have ran := ran_perform runs
        rw [acceptedCalls_goingOn, List.append_nil, ran.world_eq, ran.notes_eq, callbacks_append]
        have same := Solo.finish_facetAfter setup device (soFar device past core) call rest waiting
        rw [← same] at alike
        exact alike

/--
Whatever disturbs the world in a run leaves the part of the device as it is.  That is asked
of the run, since anything else would be noticed.
-/
theorem Secluded.run (secluded : Secluded view setup device world past core)
    {moves : List (Move σ)} (orderly : ∀ move ∈ moves, move.isAbort = false)
    (calm : ∀ earlier changed later, moves = earlier ++ .disturb changed :: later →
      view device changed = view device (Core.run setup core earlier).world) :
    Secluded view setup device world (past ++ history setup core moves)
      (Core.run setup core moves) := by
  induction moves generalizing past core with
  | nil =>
      rw [history_nil, List.append_nil]
      exact secluded
  | cons move rest ih =>
      have first := secluded.perform independent (orderly move List.mem_cons_self)
        fun changed same => calm [] changed rest (congrArg (· :: rest) same)
      rw [history_cons, ← List.append_assoc]
      refine ih first (fun other inside => orderly other (List.mem_cons_of_mem _ inside)) ?_
      intro earlier changed later split
      exact calm (move :: earlier) changed later (congrArg (move :: ·) split)

end

end Core
end DeviceLink
