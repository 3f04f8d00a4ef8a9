import DeviceLink.Proofs.Core.Answers
import DeviceLink.Proofs.Core.Reports
import DeviceLink.Proofs.Core.Solo
import DeviceLink.Proofs.Fleet.Independence

namespace DeviceLink

/-!
Devices do not influence each other's results.  As long as a link serves and its queue
has room, the calls on a device are those that its frames ask for, in their order.  So
two runs with the same frames for a device come to the same callbacks on it and to the
same answers, whatever else is done in them and however many workers they have.
`Undisturbed` is the hypothesis on a run, and it is about the link and the room in the
queue, not about other devices.  What the other devices do may be anything, as long as
their code keeps to its own part of the world.
-/

open Pool (WaitingCall)

/--
The device that an inbound call is addressed to.  A call without an address has none, and so
has a reply.
-/
def Inbound.addressee? (text : String) : Option Address :=
  match Inbound.ofText text with
  | .ok (.call _ _ payload) => Address.ofPayload? payload
  | _ => none

/--
The device whose frame has met a full queue.  That frame was answered with a code of its
own, and leads to no call.
-/
def Happening.overflow? : Happening → Option Address
  | received text (.rejected .allocationFailure) => Inbound.addressee? text
  | _ => none

namespace Core

variable {σ π : Type}

/-! ## Frames for a device -/

/--
The call on a device that a frame asks for.  It depends on the text alone, and on nothing
that has happened.
-/
def callOf? (device : Address) (text : String) : Option WaitingCall :=
  match Inbound.ofText text with
  | .ok (.call messageId method payload) =>
      (offeredCall? messageId method payload).bind (Job.callOn? device)
  | _ => none

def Move.inbound? : Move σ → Option String
  | receive text => some text
  | _ => none

/--
The frames for a device, in the order in which they arrive.  Frames for other devices may
come between them.
-/
def framesFor (device : Address) (moves : List (Move σ)) : List String :=
  (moves.filterMap Move.inbound?).filter fun text => Inbound.addressee? text = some device

theorem callOf?_eq_none {device : Address} {text : String}
    (elsewhere : Inbound.addressee? text ≠ some device) : callOf? device text = none := by
  unfold Inbound.addressee? at elsewhere
  unfold callOf?
  split
  · next messageId method payload inbound =>
    rw [inbound] at elsewhere
    unfold offeredCall?
    split
    · next target call address read =>
      have apart : (Job.invoke messageId target call).device? ≠ some device := fun same =>
        elsewhere (address.trans same)
      exact Job.callOn?_eq_none.mpr apart
    · rfl
  · rfl

/--
A frame offers the pool the call that it asks for.  So what the frames ask for can be
compared with what was accepted.
-/
theorem callOf?_eq_offered (setup : Setup σ) (core : Core σ) (device : Address) (text : String) :
    callOf? device text = (offered? setup core text).bind (Job.callOn? device) := by
  unfold callOf? offered?
  cases Inbound.ofText text with
  | error fault => rfl
  | ok message =>
      cases message with
      | call messageId method payload => rfl
      | response messageId code payload =>
          dsimp only
          unfold offeredReply?
          split
          · rfl
          · split <;> rfl

theorem calls_framesFor (device : Address) (moves : List (Move σ)) :
    (framesFor device moves).filterMap (callOf? device) =
      moves.filterMap fun move => move.inbound?.bind (callOf? device) := by
  rw [framesFor, List.filterMap_filter, List.filterMap_filterMap]
  refine List.filterMap_congr fun move _ => ?_
  cases move.inbound? with
  | none => rfl
  | some text =>
      by_cases here : Inbound.addressee? text = some device
      · simp only [Option.bind_some, here, decide_true, if_true]
      · simp only [Option.bind_some, here, decide_false, Bool.false_eq_true, if_false,
          callOf?_eq_none here]

section

variable {setup : Setup σ} {past : List Happening} {core : Core σ} {device : Address}

/--
Only a full queue keeps an open pool from accepting a job.  There is no other reason for a
refusal.
-/
theorem code_of_refused (isOpen : core.pool.closed = false) {job : Job} {failure : Failure}
    (refused : (core.submit job).1 = .error failure) : failure.code = .allocationFailure := by
  unfold submit Pool.submit at refused
  rw [isOpen] at refused
  simp only [Bool.false_eq_true, if_false] at refused
  by_cases full : core.pool.queueLimit ≤ core.pool.queued
  · rw [if_pos full] at refused
    cases refused
    rfl
  · rw [if_neg full] at refused
    cases refused

/--
A frame leads to the call that it asks for, unless the queue is full.  It may have to wait,
but it is not lost.
-/
theorem acceptedCalls_receive (isOpen : core.pool.closed = false) {text : String}
    (room : Inbound.addressee? text = some device →
      (receive setup core text).1 ≠ .rejected .allocationFailure) :
    acceptedCalls device (observe setup core (.receive text)) = (callOf? device text).toList := by
  have way := routing setup core text
  have unfolded : acceptedCalls device (observe setup core (.receive text)) =
      acceptedCalls device (core.admitted (offered? setup core text)) := rfl
  rw [unfolded, callOf?_eq_offered setup core]
  generalize (receive setup core text).1 = verdict at way room
  generalize (receive setup core text).2 = after at way
  generalize offered? setup core text = offer at way ⊢
  cases way with
  | dropped | delivered | unmatched | unreadable => rfl
  | observed reply =>
      unfold admitted
      dsimp only
      split <;> rfl
  | submitted messageId method payload target call inbound address read accepted =>
      rw [admitted_of_ok accepted]
      exact acceptedCalls_accepted device _
  | refused messageId method payload target call failure inbound address read refused =>
      have full := code_of_refused isOpen (congrArg Prod.fst refused)
      have toward : Inbound.addressee? text = some target := by
        simp only [Inbound.addressee?, inbound, address]
      rw [admitted_of_error (congrArg Prod.fst refused), Option.bind_some,
        Job.callOn?_eq_none.mpr]
      · rfl
      · exact fun same => room (toward.trans same) (congrArg Verdict.rejected full)

/--
A link that goes on serving neither abandons tasks nor takes jobs from elsewhere.  Both are
excluded by what serving means.
-/
theorem Move.of_serves {move : Move σ} (serves : move.serves = true) :
    move.isAbort = false ∧ ∀ job, move ≠ .submit job := by
  cases move with
  | abort | submit => cases serves
  | _ => exact ⟨rfl, nofun⟩

/--
The calls on a device that a run accepts are those that its frames ask for.  Calls for other
devices may have met a full queue.
-/
theorem acceptedCalls_history (accounted : Accounted setup past core)
    (isOpen : core.pool.closed = false) {moves : List (Move σ)}
    (serves : ∀ move ∈ moves, move.serves = true)
    (unclosing : ∀ move ∈ moves, move.isClosePool = false)
    (room : ∀ happening ∈ history setup core moves, happening.overflow? ≠ some device) :
    acceptedCalls device (history setup core moves) =
      (framesFor device moves).filterMap (callOf? device) := by
  rw [calls_framesFor]
  induction moves generalizing past core with
  | nil => rfl
  | cons move rest ih =>
      rcases Move.of_serves (serves move List.mem_cons_self) with ⟨orderly, not_submit⟩
      rw [history_cons] at room ⊢
      have stays := closed_perform accounted orderly (unclosing move List.mem_cons_self)
      have later := ih (accounted.perform orderly) (stays.trans isOpen)
        (fun other inside => serves other (List.mem_cons_of_mem _ inside))
        (fun other inside => unclosing other (List.mem_cons_of_mem _ inside))
        (fun happening shown => room happening (List.mem_append_right _ shown))
      rw [acceptedCalls_append, later]
      by_cases inbound : ∃ text, move = .receive text
      · rcases inbound with ⟨text, rfl⟩
        have shown : .received text (receive setup core text).1 ∈
            observe setup core (.receive text) := List.mem_cons_self
        have here := room _ (List.mem_append_left _ shown)
        rw [acceptedCalls_receive isOpen fun toward full => here (by rw [full]; exact toward)]
        simp only [List.filterMap_cons, Move.inbound?, Option.bind_some]
        cases callOf? device text <;> rfl
      · have none_here : acceptedCalls device (observe setup core move) = [] := by
          refine List.filterMap_eq_nil_iff.mpr fun happening shown => ?_
          exact (neither_accepted_nor_ordered shown (fun text same => inbound ⟨text, same⟩)
            not_submit device).1
        have silent : move.inbound? = none := by
          cases move with
          | receive text => exact absurd ⟨text, rfl⟩ inbound
          | _ => rfl
        rw [none_here, List.nil_append, List.filterMap_cons, silent]
        rfl

end

/-! ## Two runs -/

/--
A run of a link that has come up with an outlet which takes every frame.  It keeps all that
is needed to tell what happens in it.
-/
structure Spell (σ : Type) where
  setup : Setup σ
  world : σ
  outlet : String
  moves : List (Move σ)

namespace Spell

def start (spell : Spell σ) : Core σ :=
  ((new spell.setup spell.world).establish spell.setup (.record spell.outlet)).2

def last (spell : Spell σ) : Core σ := run spell.setup spell.start spell.moves

def past (spell : Spell σ) : List Happening := history spell.setup spell.start spell.moves

/--
The link serves on with room for the calls on a device, and in the end nothing is left to
do.  What other devices do, and how long it takes them, is left open.
-/
structure Undisturbed (view : Address → σ → π) (device : Address) (spell : Spell σ) : Prop where
  serves : ∀ move ∈ spell.moves, move.serves = true
  unclosing : ∀ move ∈ spell.moves, move.isClosePool = false
  /--
  Whatever changes the world from outside leaves the part of the device as it is.  The rest
  of the world may be changed at will.
  -/
  calm : ∀ earlier changed later, spell.moves = earlier ++ .disturb changed :: later →
    view device changed = view device (run spell.setup spell.start earlier).world
  /-- No frame for the device meets a full queue.  Those for other devices may. -/
  room : ∀ happening ∈ spell.past, happening.overflow? ≠ some device
  ready_eq : spell.last.pool.ready = []
  waiting_eq : spell.last.gates.waiting = []

namespace Undisturbed

variable {view : Address → σ → π} {device : Address} {spell : Spell σ}

/--
The calls on a device come to what the frames for it come to by themselves.  That is the
same for any two runs, which is why they can be compared.
-/
theorem alike (undisturbed : spell.Undisturbed view device)
    (independent : spell.setup.handler.Independent view) :
    Solo.Alike (view device) (soFar device spell.past spell.last)
      (alone spell.setup device spell.world
        ((framesFor device spell.moves).filterMap (callOf? device))) := by
  have beside := beside_establish spell.setup (new spell.setup spell.world) (.record spell.outlet)
  have quiet : Quiet (new spell.setup spell.world) (perform spell.setup
      (new spell.setup spell.world) (.establish (.record spell.outlet))) :=
    quiet_of_not_step spell.setup (new spell.setup spell.world) rfl nofun
  have accounted : Accounted spell.setup [] spell.start :=
    (accounted_new spell.setup spell.world).of_beside beside
  have isOpen : spell.start.pool.closed = false := congrArg Pool.closed beside.pool_eq
  have orderly : ∀ move ∈ spell.moves, move.isAbort = false :=
    fun move inside => (Move.of_serves (undisturbed.serves move inside)).1
  have started := (secluded_new view spell.setup device spell.world).of_quiet beside.pool_eq quiet
  have secluded := started.run independent orderly undisturbed.calm
  have ended := (accounted.run spell.moves orderly).tasks_eq_nil undisturbed.ready_eq
    undisturbed.waiting_eq
  rw [← acceptedCalls_history accounted isOpen undisturbed.serves undisturbed.unclosing
    undisturbed.room]
  exact secluded.alike_of_ended ended

/--
The answers leave through the outlet, among the other frames that the history calls for.
They keep their order there.
-/
theorem frames_eq (undisturbed : spell.Undisturbed view device) :
    spell.last.frames = spell.past.filterMap Happening.frame? :=
  ((answered_opened spell.setup spell.world spell.outlet).run spell.setup
    undisturbed.serves).frames_eq

end Undisturbed
end Spell

theorem alone_congr {first second : Setup σ} (same_handler : first.handler = second.handler)
    (same_slots : first.options.outputSlots = second.options.outputSlots) (device : Address)
    (world : σ) (calls : List WaitingCall) :
    alone first device world calls = alone second device world calls := by
  have same : Solo.play first device = Solo.play second device := by
    funext solo call
    rw [Solo.play, Solo.play, codeOf, codeOf, same_handler, same_slots]
  rw [alone, alone, same]

/--
A device cannot tell two runs from each other, and their frames hold its answers.
Callbacks, answers and calls are the same, in the same order.
-/
structure Inseparable (device : Address) (first second : Spell σ) : Prop where
  callbacks_eq : callbacks device first.last.notes = callbacks device second.last.notes
  answers_eq : answersOn device first.past = answersOn device second.past
  first_frames : first.last.frames = first.past.filterMap Happening.frame?
  second_frames : second.last.frames = second.past.filterMap Happening.frame?

/--
Runs that bring a device the same frames make the same callbacks on it and give the same
answers to its calls, whatever they do besides and however many workers they have.  The
handler has to keep the devices apart itself, and that is the only thing which is asked of
it.
-/
theorem devices_apart {view : Address → σ → π} (device : Address) (first second : Spell σ)
    (independent : first.setup.handler.Independent view)
    (same_handler : first.setup.handler = second.setup.handler)
    (same_slots : first.setup.options.outputSlots = second.setup.options.outputSlots)
    (same_part : view device first.world = view device second.world)
    (same_frames : framesFor device first.moves = framesFor device second.moves)
    (first_undisturbed : first.Undisturbed view device)
    (second_undisturbed : second.Undisturbed view device) : Inseparable device first second := by
  have here := first_undisturbed.alike independent
  have there := second_undisturbed.alike (same_handler ▸ independent)
  have start : Solo.Alike (view device) ⟨first.world, [], []⟩ ⟨second.world, [], []⟩ :=
    ⟨rfl, rfl, same_part⟩
  have between := start.play independent ((framesFor device first.moves).filterMap (callOf? device))
  have second_alone := alone_congr same_handler same_slots device second.world
    ((framesFor device first.moves).filterMap (callOf? device))
  rw [← same_frames, ← second_alone] at there
  exact
    { callbacks_eq := (here.made_eq.trans between.made_eq).trans there.made_eq.symm
      answers_eq := (here.answers_eq.trans between.answers_eq).trans there.answers_eq.symm
      first_frames := first_undisturbed.frames_eq
      second_frames := second_undisturbed.frames_eq }

/--
A lamp is switched on and asked about it, with nothing else going on.  It is the first of
two evenings that the lamp cannot tell apart.
-/
def quietEvening : Spell Fleet :=
  let power := "\x7b\"identifier\":\"power\",\"type\":\"bool\",\"value\":1\x7d"
  { setup := lampSetup
    world := Fleet.new [hallLamp]
    outlet := "gateway"
    moves :=
      [.receive (lampFrame "lamp" "1" "setProperty" ("\"properties\":[" ++ power ++ "]")),
        .step 0, .step 0,
        .receive (lampFrame "lamp" "2" "getProperty" "\"properties\":[\"power\"]"),
        .step 1, .step 1] }

/--
Two lamps, one of which has been announced.  The busy evening comes to this world when it
begins.
-/
def announcedLamps : Fleet := (Fleet.new [⟨"house", "porch"⟩, hallLamp]).setOnline hallLamp true

/--
The same with another lamp that is dimmed meanwhile, the lamp being announced, a reply that
nobody awaits, and a single worker.  Much more happens in it, but not to the lamp.
-/
def busyEvening : Spell Fleet :=
  let power := "\x7b\"identifier\":\"power\",\"type\":\"bool\",\"value\":1\x7d"
  let level := "\x7b\"identifier\":\"brightness\",\"type\":\"int\",\"value\":50\x7d"
  { setup := { lampSetup with options := { Options.standard with workers := 1 } }
    world := Fleet.new [⟨"house", "porch"⟩, hallLamp]
    outlet := "gateway"
    moves :=
      [.disturb announcedLamps,
        .receive (lampFrame "porch" "8" "setProperty" ("\"properties\":[" ++ level ++ "]")),
        .receive (lampFrame "lamp" "1" "setProperty" ("\"properties\":[" ++ power ++ "]")),
        .step 0, .step 1,
        .receive "\x7b\"messageId\":9,\"code\":0,\"payload\":\x7b\x7d\x7d",
        .receive (lampFrame "lamp" "2" "getProperty" "\"properties\":[\"power\"]"),
        .step 0, .step 1, .step 1, .step 1] }

/--
Both evenings come to their end without a full queue, with the same frames for the lamp.
That is all which the comparison asks of them.
-/
theorem evenings_end :
    (∀ happening ∈ quietEvening.past, happening.overflow? ≠ some hallLamp) ∧
      quietEvening.last.pool.ready = [] ∧ quietEvening.last.gates.waiting = [] ∧
      (∀ happening ∈ busyEvening.past, happening.overflow? ≠ some hallLamp) ∧
      busyEvening.last.pool.ready = [] ∧ busyEvening.last.gates.waiting = [] ∧
      framesFor hallLamp quietEvening.moves = framesFor hallLamp busyEvening.moves ∧
      (answersOn hallLamp busyEvening.past).map (fun answer => (answer.1, answer.2.1)) =
        [(1, 0), (2, 0)] := by decide +kernel

theorem devices_apart_evenings :
    Inseparable hallLamp quietEvening busyEvening ∧
      (answersOn hallLamp busyEvening.past).map (fun answer => (answer.1, answer.2.1)) =
        [(1, 0), (2, 0)] := by
  rcases evenings_end with ⟨quiet_room, quiet_ready, quiet_waiting, busy_room, busy_ready,
    busy_waiting, same_frames, answers⟩
  have quiet : quietEvening.Undisturbed Fleet.settings? hallLamp := by
    refine ⟨by decide, by decide, ?_, quiet_room, quiet_ready, quiet_waiting⟩
    intro earlier changed later split
    have inside : .disturb changed ∈ quietEvening.moves :=
      split ▸ List.mem_append_right _ List.mem_cons_self
    simp only [quietEvening, List.mem_cons, reduceCtorEq, List.not_mem_nil, or_self] at inside
  have busy : busyEvening.Undisturbed Fleet.settings? hallLamp := by
    refine ⟨by decide, by decide, ?_, busy_room, busy_ready, busy_waiting⟩
    intro earlier changed later split
    cases earlier with
    | nil =>
        have same : announcedLamps = changed := Move.disturb.inj (List.cons.inj split).1
        rw [← same]
        decide +kernel
    | cons first earlier =>
        have rest : busyEvening.moves.tail = earlier ++ .disturb changed :: later :=
          (List.cons.inj split).2
        have inside : .disturb changed ∈ busyEvening.moves.tail :=
          rest ▸ List.mem_append_right _ List.mem_cons_self
        simp only [busyEvening, List.tail_cons, List.mem_cons, reduceCtorEq, List.not_mem_nil,
          or_self] at inside
  exact ⟨devices_apart hallLamp quietEvening busyEvening Fleet.independent_handler rfl rfl
    (by decide +kernel) same_frames quiet busy, answers⟩

end Core
end DeviceLink
