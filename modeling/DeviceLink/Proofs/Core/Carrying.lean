import DeviceLink.Proofs.Core.Frames
import DeviceLink.Proofs.Core.Solo
import DeviceLink.Proofs.DeviceCall.Passages

namespace DeviceLink
namespace Core

variable {σ : Type}

/-!
The calls on a device in a run, each with the way that its code has taken.  These calls
account for all that the run does while it runs code of the device: for every span of
the world, for every note, and for every answer.  The account of a device is a list of
such calls, the last of which may still be going on.  A step that runs code of the
device adds a stretch to the last one or begins another, and a step that does not leaves
the account as it is.
-/

open Json (Members)
open Pool (Facet WaitingCall)

/-! ## What a run does for a device -/

section

variable (setup : Setup σ) (device : Address) (core : Core σ) (move : Move σ)

/-- Whether a move runs code of a device.  A move runs code of one device at most. -/
def runsOn : Bool := (code? setup core move).any fun running => running.1 = device

/--
The worlds before and after the code of a device, if a move runs it.  Everything between the
two has been done by that code.
-/
def spanOn : List (σ × σ) :=
  if runsOn setup device core move then [(core.world, (perform setup core move).world)] else []

/--
What the code of a device notes, if a move runs it.  These are the notes that the move adds
to the log.
-/
def noteOn : List Note :=
  if runsOn setup device core move then (perform setup core move).notes.drop core.notes.length
  else []

def spansOn : Core σ → List (Move σ) → List (σ × σ) :=
  Run.history (perform setup) (spanOn setup device)

def notesOn : Core σ → List (Move σ) → List Note :=
  Run.history (perform setup) (noteOn setup device)

variable {setup device core move}

theorem exists_code (runs : runsOn setup device core move = true) :
    ∃ code, code? setup core move = some (device, code) := by
  unfold runsOn at runs
  cases found : code? setup core move with
  | none =>
      rw [found] at runs
      cases runs
  | some running =>
      rcases running with ⟨target, code⟩
      rw [found] at runs
      cases of_decide_eq_true runs
      exact ⟨code, rfl⟩

theorem runsOn_of_elsewhere (elsewhere : ∀ code, code? setup core move ≠ some (device, code)) :
    runsOn setup device core move = false := by
  unfold runsOn
  cases runs : code? setup core move with
  | none => rfl
  | some running =>
      rcases running with ⟨target, code⟩
      refine decide_eq_false ?_
      rintro rfl
      exact elsewhere code runs

theorem spanOn_of_elsewhere (elsewhere : ∀ code, code? setup core move ≠ some (device, code)) :
    spanOn setup device core move = [] := by
  rw [spanOn, runsOn_of_elsewhere elsewhere]
  rfl

theorem noteOn_of_elsewhere (elsewhere : ∀ code, code? setup core move ≠ some (device, code)) :
    noteOn setup device core move = [] := by
  rw [noteOn, runsOn_of_elsewhere elsewhere]
  rfl

variable {code : Activity σ Members} (runs : code? setup core move = some (device, code))

include runs

theorem runsOn_of_code : runsOn setup device core move = true := by
  rw [runsOn, runs]
  exact decide_eq_true rfl

theorem spanOn_of_code :
    spanOn setup device core move = [(core.world, (code.run core.world).world)] := by
  rw [spanOn, runsOn_of_code runs, if_pos rfl, (ran_perform runs).world_eq]

theorem noteOn_of_code : noteOn setup device core move = (code.run core.world).notes := by
  rw [noteOn, runsOn_of_code runs, if_pos rfl, (ran_perform runs).notes_eq, List.drop_left]

end

/-! ## The calls that account for it -/

/--
A call that has begun, and the way that its code has taken so far.  The way is a passage:
the stretches of its code, each from the world that it found to the one that it left.
-/
structure Carried (σ : Type) where
  call : WaitingCall
  passage : Passage σ Members

namespace Carried

def answer? (carried : Carried σ) : Option (UInt32 × Int32 × Members) :=
  carried.passage.answer?.map fun answer => (carried.call.messageId, answer)

/--
The call comes to the end of its first stretch.  The stretch begins with the code that the
handler has for the call.
-/
def begun (call : WaitingCall) (code : Activity σ Members) (world : σ) : Carried σ :=
  ⟨call, .arrive world [] [] (code.run world)⟩

/--
What is left of the call goes on, and comes to the end of one more stretch.  The world that
it finds need not be the one that it left.
-/
def resumed (carried : Carried σ) (rest : Activity σ Members) (found : σ) : Carried σ :=
  ⟨carried.call, .arrive carried.passage.before
    (carried.passage.pauses ++ [⟨carried.passage.after, found⟩]) carried.passage.notes
    (rest.run found)⟩

end Carried

/--
The calls on a device that have begun, with all that has been done by them.  Spans, notes
and answers are those of the calls put one after the other, so no two calls mix.
-/
structure Account (setup : Setup σ) (device : Address) (begun : List WaitingCall)
    (spans : List (σ × σ)) (notes : List Note) (answers : List (UInt32 × Int32 × Members))
    (calls : List (Carried σ)) : Prop where
  begun_eq : calls.map Carried.call = begun
  taken : ∀ carried ∈ calls, (codeOf setup device carried.call none).Takes carried.passage
  spans_eq : calls.flatMap (fun carried => carried.passage.spans) = spans
  notes_eq : calls.flatMap (fun carried => carried.passage.notes) = notes
  answers_eq : calls.filterMap Carried.answer? = answers

section

variable {setup : Setup σ} {device : Address} {begun : List WaitingCall} {spans : List (σ × σ)}
  {notes : List Note} {answers : List (UInt32 × Int32 × Members)}
  {calls kept : List (Carried σ)} {last : Carried σ} {call : WaitingCall}
  {waiting : List WaitingCall} {facet : Facet σ}

theorem Account.nil (setup : Setup σ) (device : Address) :
    Account setup device [] [] [] [] [] := ⟨rfl, nofun, rfl, rfl, rfl⟩

/-- One more call begins.  It stands behind all that have begun before. -/
theorem Account.begin (account : Account setup device begun spans notes answers calls)
    (call : WaitingCall) (world : σ) :
    let code := codeOf setup device call none
    Account setup device (begun ++ [call]) (spans ++ [(world, (code.run world).world)])
      (notes ++ (code.run world).notes)
      (answers ++ (Carried.begun call code world).answer?.toList)
      (calls ++ [.begun call code world]) where
  begun_eq := by
    rw [List.map_append, account.begun_eq]
    rfl
  taken := by
    intro carried inside
    rcases List.mem_append.mp inside with old | new
    · exact account.taken carried old
    · rw [List.mem_singleton.mp new]
      exact .setOut world
  spans_eq := by
    rw [List.flatMap_append, account.spans_eq, List.flatMap_singleton]
    rfl
  notes_eq := by
    rw [List.flatMap_append, account.notes_eq, List.flatMap_singleton]
    rfl
  answers_eq := by rw [Run.filterMap_concat, account.answers_eq]

/--
The last call, which is at a gate, goes on.  All earlier calls have ended, so none of them
is touched.
-/
theorem Account.resume {gate : String} {rest : Activity σ Members}
    (account : Account setup device begun spans notes answers (kept ++ [last]))
    (waits : last.passage.progress = .atGate gate rest) (found : σ) :
    Account setup device begun (spans ++ [(found, (rest.run found).world)])
      (notes ++ (rest.run found).notes) (answers ++ (last.resumed rest found).answer?.toList)
      (kept ++ [last.resumed rest found]) where
  begun_eq := by
    rw [← account.begun_eq, List.map_append, List.map_append]
    rfl
  taken := by
    intro carried inside
    rcases List.mem_append.mp inside with old | new
    · exact account.taken carried (List.mem_append_left _ old)
    · rw [List.mem_singleton.mp new]
      exact (account.taken last List.mem_concat_self).goOn waits found
  spans_eq := by
    rw [← account.spans_eq, List.flatMap_append, List.flatMap_append, List.flatMap_singleton,
      List.flatMap_singleton, List.append_assoc]
    exact congrArg _ (last.passage.spans_arrive found last.passage.notes (rest.run found))
  notes_eq := by
    rw [← account.notes_eq, List.flatMap_append, List.flatMap_append, List.flatMap_singleton,
      List.flatMap_singleton, List.append_assoc]
    rfl
  answers_eq := by
    have unanswered : last.answer? = none := by
      rw [Carried.answer?, Passage.answer?, waits]
      rfl
    rw [Run.filterMap_concat, ← account.answers_eq, Run.filterMap_concat, unanswered,
      Option.toList_none, List.append_nil]

/-! ## Moves and runs -/

/--
The last call is the one of which the lane has something left.  If nothing is left of it,
every call that has begun has ended.
-/
def AtWork (calls : List (Carried σ)) : Facet σ → Prop
  | .driven call (some rest) _ => ∃ kept last gate, calls = kept ++ [last] ∧ last.call = call ∧
      last.passage.progress = .atGate gate rest
  | _ => True

theorem AtWork.join (working : AtWork calls facet) (call : WaitingCall) :
    AtWork calls (facet.join call) := by
  cases facet with
  | free | stuck => trivial
  | driven current rest waiting => cases rest <;> exact working

theorem AtWork.lose (calls : List (Carried σ)) (facet : Facet σ) : AtWork calls facet.lose := by
  cases facet <;> trivial

theorem atWork_facetAfter {progress : Progress σ Members} (same : last.call = call)
    (progress_eq : last.passage.progress = progress) :
    AtWork (kept ++ [last]) (facetAfter call waiting progress) := by
  cases progress with
  | ended outcome => cases waiting <;> trivial
  | atGate gate rest => exact ⟨kept, last, gate, rfl, same, progress_eq⟩

/--
A call that has gone on has its answer if it has come to its end.  Otherwise it has come to
another gate, and there is none yet.
-/
theorem answersOn_goingOn_eq {world : σ} {rest : Option (Activity σ Members)}
    (same : last.call = call)
    (progress_eq : last.passage.progress = ((codeOf setup device call rest).run world).progress) :
    answersOn device (goingOn setup device world call rest) = last.answer?.toList := by
  rw [answersOn_goingOn, ← progress_eq, Carried.answer?, Passage.answer?, same]
  cases last.passage.progress <;> rfl

/--
What has come of the calls on a device so far, and how things stand with them.  This is what
each move keeps: the account of the calls, and that the pool shows the device as the account
has it.
-/
structure Carries (setup : Setup σ) (device : Address) (begun : List WaitingCall)
    (spans : List (σ × σ)) (notes : List Note) (answers : List (UInt32 × Int32 × Members))
    (core : Core σ) : Prop where
  faced : Faced core.pool
  exists_account : ∃ calls facet, Account setup device begun spans notes answers calls ∧
    core.pool.Shows device facet ∧ AtWork calls facet

variable {core : Core σ} {move : Move σ} {told : List Happening}

/--
A move that runs no code of a device adds nothing.  It may add a call to the lane, but that
one has not begun.
-/
theorem Account.aside (account : Account setup device begun spans notes answers calls)
    (elsewhere : ∀ code, code? setup core move ≠ some (device, code))
    (begins : begunCalls device told = []) (ends : answersOn device told = []) :
    Account setup device (begun ++ begunCalls device told) (spans ++ spanOn setup device core move)
      (notes ++ noteOn setup device core move) (answers ++ answersOn device told) calls := by
  rw [begins, ends, spanOn_of_elsewhere elsewhere, noteOn_of_elsewhere elsewhere]
  simpa only [List.append_nil] using account

theorem Carries.perform (carries : Carries setup device begun spans notes answers core)
    (move : Move σ) :
    Carries setup device (begun ++ begunCalls device (observe setup core move))
      (spans ++ spanOn setup device core move) (notes ++ noteOn setup device core move)
      (answers ++ answersOn device (observe setup core move)) (Core.perform setup core move) where
  faced := carries.faced.perform setup move
  exists_account := by
    rcases carries.exists_account with ⟨calls, facet, account, shows, working⟩
    rcases (advance setup carries.faced.tidy shows move).2 with ⟨after, shown, way⟩
    rw [← begunCalls_happeningsOn, ← answersOn_happeningsOn]
    generalize happeningsOn device (observe setup core move) = told at way ⊢
    cases way with
    | aside _ elsewhere => exact ⟨calls, facet, account.aside elsewhere rfl rfl, shown, working⟩
    | join _ call elsewhere =>
        exact ⟨calls, _, account.aside elsewhere rfl rfl, shown, working.join call⟩
    | lose _ aborts =>
        have elsewhere : ∀ code, code? setup core move ≠ some (device, code) := by
          cases move <;> cases aborts
          exact nofun
        exact ⟨calls, _, account.aside elsewhere rfl rfl, shown, .lose calls facet⟩
    | goOn call rest waiting runs =>
        rw [spanOn_of_code runs, noteOn_of_code runs, begunCalls_goingOn]
        cases rest with
        | none =>
            let begins := Carried.begun call (codeOf setup device call none) core.world
            have ends : answersOn device (goingOn setup device core.world call none) =
                begins.answer?.toList := answersOn_goingOn_eq rfl rfl
            rw [ends]
            exact ⟨_, _, account.begin call core.world, shown, atWork_facetAfter rfl rfl⟩
        | some rest =>
            rcases working with ⟨kept, last, gate, rfl, same, waits⟩
            let goes := last.resumed rest core.world
            have ends : answersOn device (goingOn setup device core.world call (some rest)) =
                goes.answer?.toList := answersOn_goingOn_eq same rfl
            have gone := account.resume waits core.world
            rw [← List.append_nil begun] at gone
            rw [ends]
            exact ⟨_, _, gone, shown, atWork_facetAfter same rfl⟩

theorem Carries.run (carries : Carries setup device begun spans notes answers core)
    (moves : List (Move σ)) :
    Carries setup device (begun ++ begunCalls device (history setup core moves))
      (spans ++ spansOn setup device core moves) (notes ++ notesOn setup device core moves)
      (answers ++ answersOn device (history setup core moves)) (Core.run setup core moves) := by
  induction moves generalizing begun spans notes answers core with
  | nil =>
      simpa only [history_nil, spansOn, notesOn, Run.history, begunCalls, answersOn,
        List.filterMap_nil, List.append_nil, Core.run, List.foldl_nil] using carries
  | cons move rest ih =>
      have later := ih (carries.perform move)
      rw [history_cons, begunCalls_append, answersOn_append]
      simpa only [spansOn, notesOn, Run.history, List.append_assoc, Core.run, List.foldl_cons]
        using later

end

/--
The calls that have begun on a device in a run from the start account for it.  They are the
calls of the history, in their order, with a passage for each.
-/
theorem exists_account (setup : Setup σ) (device : Address) (world : σ) (moves : List (Move σ)) :
    ∃ calls, Account setup device (begunCalls device (history setup (new setup world) moves))
      (spansOn setup device (new setup world) moves) (notesOn setup device (new setup world) moves)
      (answersOn device (history setup (new setup world) moves)) calls := by
  have start : Carries setup device [] [] [] [] (new setup world) :=
    ⟨faced_new setup.options, [], .free, .nil setup device,
      Pool.shows_new setup.options device, trivial⟩
  rcases (start.run moves).exists_account with ⟨calls, -, account, -, -⟩
  exact ⟨calls, account⟩

/-! ## Answers on the wire -/

/--
The frame of an answer.  It has the message id of the call, and whatever the code has ended
with.
-/
def responseOf (answer : UInt32 × Int32 × Members) : String :=
  (Envelope.response answer.1 answer.2.1 answer.2.2).text

/--
What a stretch of code shows calls for the frame of its answer, if it has one.  A stretch
that comes to a gate has none.
-/
theorem frames_of_running {setup : Setup σ} {core : Core σ} {task : Pool.Task σ} {device : Address}
    {code : Activity σ Members} {messageId : UInt32} {call : DeviceCall}
    (running : Running setup core task device code messageId call) :
    (stepped setup core task.id).filterMap Happening.frame? =
      (answersOn device (stepped setup core task.id)).map responseOf := by
  have begins : (Pool.beginning task).filterMap Happening.frame? = [] ∧
      answersOn device (Pool.beginning task) = [] := by
    unfold Pool.beginning
    split <;> exact ⟨rfl, rfl⟩
  rw [running.shown_eq, List.filterMap_append, answersOn_append, begins.1, begins.2,
    running.job_eq]
  unfold concluded
  cases (code.run core.world).progress with
  | ended outcome =>
      simp only [answersOn, List.filterMap_cons, List.filterMap_nil, Happening.answerOn?, if_true]
      rfl
  | atGate gate rest => rfl

/--
A link that serves hands over the frame of the answer, when code of a device has ended.
That is the only frame which the move hands over.
-/
theorem Serving.handed {setup : Setup σ} {core : Core σ} {move : Move σ} {device : Address}
    (serving : core.Serving) (runs : runsOn setup device core move = true) :
    (Core.perform setup core move).frames =
      core.frames ++ (answersOn device (observe setup core move)).map responseOf := by
  rcases exists_code runs with ⟨code, found⟩
  cases foreign : move.step? with
  | none =>
      rw [code?_of_not_step setup core foreign] at found
      cases found
  | some id =>
      cases move <;> cases foreign
      rcases Option.bind_eq_some_iff.mp found with ⟨task, there, its⟩
      rcases Pool.mem_of_task? there with ⟨-, rfl⟩
      rcases running_of_code there its with ⟨messageId, call, running⟩
      have handed : Hands core (Core.perform setup core (.step task.id)) _ := serving.perform rfl
      rw [handed.frames_eq]
      exact congrArg _ (frames_of_running running)

end Core
end DeviceLink
