import DeviceLink.Fleet.Handler
import DeviceLink.Proofs.Core.Serial
import DeviceLink.Proofs.Core.Sparing
import DeviceLink.Proofs.DeviceCall.Reading

namespace DeviceLink

/-!
What device code gets to see.  The calls on a device begin in the order of the frames
that they come from, each frame for one call at most; a call makes no callbacks but
those that its frame asks for, and nothing else that a handler would do matters.  This
holds of all runs, with tasks abandoned anywhere.  `Owing` is about the order of calls,
`Scripted` and `Reciting` are about the callbacks that a call still has to make, and
`Vetted` is the result.  That invalid frames are turned away has a part of its own.
-/

open Json (Value)
open Pool (Facet WaitingCall)

namespace Happening

/--
The job that an inbound frame has been turned into.  There is one only if the pool has taken
it.
-/
def order? : Happening → Option Job
  | received text .submitted =>
      match Inbound.ofText text with
      | .ok (.call messageId method payload) => Core.offeredCall? messageId method payload
      | _ => none
  | _ => none

end Happening

/--
The calls on a device that frames have been turned into, in the order of the frames.  They
are read off the frames, and not off what the pool has accepted.
-/
def orders (device : Address) (past : List Happening) : List WaitingCall :=
  past.filterMap fun happening => happening.order?.bind (Job.callOn? device)

section

variable (device : Address) (first second : List Happening)

theorem acceptedCalls_append :
    acceptedCalls device (first ++ second) =
      acceptedCalls device first ++ acceptedCalls device second := List.filterMap_append

theorem begunCalls_append :
    begunCalls device (first ++ second) = begunCalls device first ++ begunCalls device second :=
  List.filterMap_append

theorem acceptedCalls_accepted (job : Job) :
    acceptedCalls device [.accepted job] = (job.callOn? device).toList := by
  simp only [acceptedCalls, List.filterMap_cons, List.filterMap_nil, Happening.acceptedCall?]
  cases job.callOn? device <;> rfl

theorem begunCalls_nil : begunCalls device [] = [] := rfl

theorem orders_append :
    orders device (first ++ second) = orders device first ++ orders device second :=
  List.filterMap_append

end

/--
Nothing is accepted on a device by what happens elsewhere.  It is enough to look at what
happened on the device.
-/
theorem acceptedCalls_happeningsOn (device : Address) (past : List Happening) :
    acceptedCalls device (happeningsOn device past) = acceptedCalls device past := by
  refine filterMap_happeningsOn (fun happening elsewhere => ?_) past
  cases happening with
  | accepted job => exact Job.callOn?_eq_none.mpr elsewhere
  | received | sent | began | ended => rfl

theorem begunCalls_happeningsOn (device : Address) (past : List Happening) :
    begunCalls device (happeningsOn device past) = begunCalls device past := by
  refine filterMap_happeningsOn (fun happening elsewhere => ?_) past
  cases happening with
  | began job => exact Job.callOn?_eq_none.mpr elsewhere
  | received | sent | accepted | ended => rfl

namespace Core

variable {σ : Type}

/-! ## Calls and frames -/

/--
Only frames and submits lead to calls.  A step of a task may end a call or begin one, but
accepts none.
-/
theorem neither_accepted_nor_ordered {setup : Setup σ} {core : Core σ} {move : Move σ}
    {happening : Happening} (shown : happening ∈ observe setup core move)
    (not_receive : ∀ text, move ≠ .receive text) (not_submit : ∀ job, move ≠ .submit job)
    (device : Address) : happening.acceptedCall? device = none ∧ happening.order? = none := by
  cases origin_of_observe shown with
  | report | request => exact ⟨rfl, rfl⟩
  | received text | offered text => exact absurd rfl (not_receive text)
  | submitted job => exact absurd rfl (not_submit job)
  | stepped id _ shown =>
      rcases shows_of_stepped shown with ⟨task, -, shows⟩
      cases shows <;> exact ⟨rfl, rfl⟩

/--
Without submits from elsewhere, a call is accepted when its frame has been submitted.
Acceptance and order are the same then.
-/
theorem acceptedCalls_observe {setup : Setup σ} {core : Core σ} {move : Move σ}
    (not_submit : ∀ job, move ≠ .submit job) (device : Address) :
    acceptedCalls device (observe setup core move) = orders device (observe setup core move) := by
  by_cases inbound : ∃ text, move = .receive text
  · rcases inbound with ⟨text, rfl⟩
    have way := routing setup core text
    rw [observe]
    generalize (receive setup core text).1 = verdict at way ⊢
    generalize (receive setup core text).2 = after at way
    generalize offered? setup core text = offer at way ⊢
    cases way with
    | dropped | delivered | unmatched | unreadable => rfl
    | observed reply =>
        unfold admitted
        dsimp only
        split <;> rfl
    | submitted messageId method payload target call inbound address read accepted =>
        have offered : offeredCall? messageId method payload =
            some (.invoke messageId target call) := by
          simp only [offeredCall?, address, read]
        rw [admitted_of_ok accepted]
        simp only [acceptedCalls, orders, List.filterMap_cons, List.filterMap_nil,
          Happening.acceptedCall?, Happening.order?, inbound, offered, Option.bind_some,
          Option.bind_none]
    | refused _ _ _ _ _ _ _ _ _ refused =>
        rw [admitted_of_error (congrArg Prod.fst refused)]
        rfl
  · have neither : ∀ happening ∈ observe setup core move,
        happening.acceptedCall? device = none ∧ happening.order? = none := by
      intro happening shown
      exact neither_accepted_nor_ordered shown (fun text same => inbound ⟨text, same⟩) not_submit
        device
    rw [acceptedCalls, orders,
      List.filterMap_eq_nil_iff.mpr fun happening inside => (neither happening inside).1,
      List.filterMap_eq_nil_iff.mpr fun happening inside => ?_]
    rw [(neither happening inside).2]
    rfl

/--
A call that comes from a frame is what the frame says.  Device, message id and data are all
found in the text.
-/
theorem exists_frame {device : Address} {past : List Happening} {order : WaitingCall}
    (inside : order ∈ orders device past) :
    ∃ text method payload, .received text .submitted ∈ past ∧
      Inbound.ofText text = .ok (.call order.messageId method payload) ∧
      Address.ofPayload? payload = some device ∧
      DeviceCall.ofPayload method payload = .ok order.call := by
  rcases List.mem_filterMap.mp inside with ⟨happening, there, found⟩
  rcases Option.bind_eq_some_iff.mp found with ⟨job, ordered, isOn⟩
  have job_eq := Job.callOn?_eq_some.mp isOn
  subst job_eq
  unfold Happening.order? at ordered
  split at ordered
  · next text =>
    split at ordered
    · next messageId method payload inbound =>
      unfold offeredCall? at ordered
      split at ordered
      · next address read =>
        cases ordered
        exact ⟨text, method, payload, there, inbound, address, read⟩
      · cases ordered
    · cases ordered
  · cases ordered

/-! ## What has begun of what has been accepted -/

/--
The calls that have been accepted are those that have begun and those still to begin.  Those
that are still to begin stand in the lane, in their order.
-/
def Owing (accepted begun : List WaitingCall) : Facet σ → Prop
  | .free => accepted = begun
  | .driven call none waiting => accepted = begun ++ call :: waiting
  | .driven _ (some _) waiting => accepted = begun ++ waiting
  | .stuck _ => begun <+: accepted

/--
The callbacks on a device are those of the calls that have begun, each up to some point.  A
call may have failed before its last callback, or not have come to it yet.
-/
def Scripted (slots : Nat) (device : Address) (made : List Note) (begun : List WaitingCall) :
    Prop :=
  ∃ parts : List (List Note), made = parts.flatten ∧
    List.Forall₂ (fun part call => part <+: call.call.callbacks slots device) parts begun

/--
Moreover, what is left of the call that the lane is at makes the rest of its callbacks.
That fixes how its callbacks will go on.
-/
def Reciting (slots : Nat) (device : Address) (made : List Note) (begun : List WaitingCall) :
    Facet σ → Prop
  | .driven call (some rest) _ => ∃ earlier before part left, begun = earlier ++ [call] ∧
      made = before ++ part ∧ Scripted slots device before earlier ∧
      call.call.callbacks slots device = part ++ left ∧ rest.Follows device left
  | _ => Scripted slots device made begun

section

variable {slots : Nat} {device : Address} {made part left : List Note}
  {accepted begun : List WaitingCall} {call : WaitingCall} {facet : Facet σ}

theorem Owing.begun_prefix (owing : Owing accepted begun facet) : begun <+: accepted := by
  cases facet with
  | free => exact owing ▸ List.prefix_rfl
  | driven call rest waiting => cases rest <;> exact ⟨_, owing.symm⟩
  | stuck waiting => exact owing

theorem Owing.join (owing : Owing accepted begun facet) (call : WaitingCall) :
    Owing (accepted ++ [call]) begun (facet.join call) := by
  cases facet with
  | free => exact congrArg (· ++ [call]) owing
  | driven current rest waiting =>
      cases rest <;> exact (congrArg (· ++ [call]) owing).trans (List.append_assoc _ _ _)
  | stuck waiting => exact owing.trans (List.prefix_append _ _)

theorem Owing.lose (owing : Owing accepted begun facet) : Owing accepted begun facet.lose := by
  cases facet with
  | free => exact owing
  | driven | stuck => exact owing.begun_prefix

/-- A call that ends leaves those that wait behind it.  The first of them is the next to begin. -/
theorem owing_ofWaiting {waiting : List WaitingCall} (rest : accepted = begun ++ waiting) :
    Owing accepted begun (.ofWaiting waiting : Facet σ) := by
  cases waiting with
  | nil => exact rest.trans (List.append_nil _)
  | cons next waiting => exact rest

theorem Scripted.concat (scripted : Scripted slots device made begun)
    (written : call.call.callbacks slots device = part ++ left) :
    Scripted slots device (made ++ part) (begun ++ [call]) := by
  rcases scripted with ⟨parts, rfl, each⟩
  refine ⟨parts ++ [part], by rw [List.flatten_append, List.flatten_singleton], ?_⟩
  exact List.rel_append each (.cons ⟨left, written.symm⟩ .nil)

/--
The part of a call that is not over yet is a part of it as well.  What has been made of it
is the beginning of what it asks for.
-/
theorem Reciting.scripted (reciting : Reciting slots device made begun facet) :
    Scripted slots device made begun := by
  cases facet with
  | free | stuck => exact reciting
  | driven call rest waiting =>
      cases rest with
      | none => exact reciting
      | some rest =>
          rcases reciting with ⟨earlier, before, part, left, rfl, rfl, scripted, written, -⟩
          exact scripted.concat written

theorem reciting_ofWaiting (scripted : Scripted slots device made begun)
    (waiting : List WaitingCall) :
    Reciting slots device made begun (.ofWaiting waiting : Facet σ) := by
  cases waiting <;> exact scripted

theorem Reciting.join (reciting : Reciting slots device made begun facet) (call : WaitingCall) :
    Reciting slots device made begun (facet.join call) := by
  cases facet with
  | free | stuck => exact reciting
  | driven current rest waiting => cases rest <;> exact reciting

theorem Reciting.lose (reciting : Reciting slots device made begun facet) :
    Reciting slots device made begun facet.lose := by
  cases facet with
  | free => exact reciting
  | driven | stuck => exact reciting.scripted

end

/-! ## Steps and runs -/

section

variable {setup : Setup σ} {core : Core σ} {move : Move σ} {device : Address}
  {facet after : Facet σ} {shown : List Happening} {accepted begun : List WaitingCall}

theorem acceptedCalls_goingOn (world : σ) (call : WaitingCall)
    (rest : Option (Activity σ Json.Members)) :
    acceptedCalls device (goingOn setup device world call rest) = [] := by
  rw [goingOn, acceptedCalls_append, concluded]
  split <;> split <;> rfl

theorem begunCalls_goingOn (world : σ) (call : WaitingCall)
    (rest : Option (Activity σ Json.Members)) :
    begunCalls device (goingOn setup device world call rest) =
      if rest.isNone then [call] else [] := by
  have isOn : (Job.invoke call.messageId device call.call).callOn? device = some call :=
    Job.callOn?_eq_some.mpr rfl
  have ends (activity : Activity σ Json.Members) :
      begunCalls device (concluded (.invoke call.messageId device call.call) activity world) =
        [] := by
    unfold concluded
    split <;> rfl
  rw [goingOn, begunCalls_append, ends, List.append_nil]
  split
  · simp only [begunCalls, List.filterMap_cons, List.filterMap_nil, Happening.begunCall?, isOn]
  · rfl

/--
A call that goes on has begun now or earlier, and what comes after it waits.  Nothing
changes about those that wait.
-/
theorem owing_facetAfter {call : WaitingCall} {rest : Option (Activity σ Json.Members)}
    {waiting : List WaitingCall} (owing : Owing accepted begun (.driven call rest waiting))
    (progress : Progress σ Json.Members) :
    Owing accepted (begun ++ if rest.isNone then [call] else [])
      (facetAfter call waiting progress) := by
  have split_eq : accepted = (begun ++ if rest.isNone then [call] else []) ++ waiting := by
    cases rest with
    | none => exact owing.trans (List.append_assoc begun [call] waiting).symm
    | some rest => exact owing.trans (congrArg (· ++ waiting) (List.append_nil begun).symm)
  cases progress with
  | ended outcome => exact owing_ofWaiting split_eq
  | atGate gate rest => exact split_eq

theorem owing_advance (way : Advance setup core move device facet shown after)
    (owing : Owing accepted begun facet) :
    Owing (accepted ++ acceptedCalls device shown) (begun ++ begunCalls device shown) after := by
  cases way with
  | aside =>
      simp only [acceptedCalls, begunCalls, List.filterMap_nil, List.append_nil]
      exact owing
  | join _ call =>
      have isOn : (Job.invoke call.messageId device call.call).callOn? device = some call :=
        Job.callOn?_eq_some.mpr rfl
      simp only [acceptedCalls, begunCalls, List.filterMap_cons, List.filterMap_nil,
        Happening.acceptedCall?, Happening.begunCall?, isOn, List.append_nil]
      exact owing.join call
  | lose =>
      simp only [acceptedCalls, begunCalls, List.filterMap_nil, List.append_nil]
      exact owing.lose
  | goOn call rest waiting =>
      rw [acceptedCalls_goingOn, begunCalls_goingOn, List.append_nil]
      exact owing_facetAfter owing _

/--
The code of a call makes the callbacks that the call asks for, as far as it has not.  It may
make fewer, if one of them fails.
-/
theorem exists_script {call : WaitingCall} {rest : Option (Activity σ Json.Members)}
    {waiting : List WaitingCall} {made : List Note} (reticent : setup.handler.Reticent)
    (reciting : Reciting setup.options.outputSlots device made begun
      (.driven call rest waiting)) :
    ∃ earlier before part left,
      (begun ++ if rest.isNone then [call] else []) = earlier ++ [call] ∧
      made = before ++ part ∧ Scripted setup.options.outputSlots device before earlier ∧
      call.call.callbacks setup.options.outputSlots device = part ++ left ∧
      (codeOf setup device call rest).Follows device left := by
  cases rest with
  | none =>
      exact ⟨begun, made, [], _, rfl, (List.append_nil _).symm, reciting, rfl,
        DeviceCall.follows_perform _ device reticent call.call⟩
  | some rest =>
      rcases reciting with ⟨earlier, before, part, left, same, made_eq, scripted, written, follows⟩
      exact ⟨earlier, before, part, left, (List.append_nil _).trans same, made_eq, scripted,
        written, follows⟩

theorem reciting_facetAfter {call : WaitingCall} {rest : Option (Activity σ Json.Members)}
    {waiting : List WaitingCall} {made : List Note} (reticent : setup.handler.Reticent)
    (reciting : Reciting setup.options.outputSlots device made begun (.driven call rest waiting))
    (world : σ) :
    Reciting setup.options.outputSlots device
      (made ++ callbacks device ((codeOf setup device call rest).run world).notes)
      (begun ++ if rest.isNone then [call] else [])
      (facetAfter call waiting ((codeOf setup device call rest).run world).progress) := by
  rcases exists_script reticent reciting with
    ⟨earlier, before, part, left, same, rfl, scripted, written, follows⟩
  rcases follows.run world with ⟨later, rfl, goes_on⟩
  rw [same, List.append_assoc]
  rw [← List.append_assoc] at written
  cases progress : ((codeOf setup device call rest).run world).progress with
  | ended outcome => exact reciting_ofWaiting (scripted.concat written) waiting
  | atGate gate rest =>
      exact ⟨earlier, before, _, later, rfl, rfl, scripted, written, goes_on gate rest progress⟩

end

/--
A core whose calls are accounted for, together with the callbacks they have made.  Every
reachable core is one.
-/
structure Overseen (setup : Setup σ) (past : List Happening) (core : Core σ) : Prop where
  faced : Faced core.pool
  sees : ∀ device, ∃ facet, core.pool.Shows device facet ∧
    Owing (acceptedCalls device past) (begunCalls device past) facet ∧
    (setup.handler.Reticent →
      Reciting setup.options.outputSlots device (callbacks device core.notes)
        (begunCalls device past) facet)
  sparing : setup.handler.Reticent → ∀ device, Sparing (fun _ => ()) device core.pool
  /-- Calls come from frames only.  It is what a run without submits from elsewhere keeps. -/
  ordered : ∀ device, acceptedCalls device past = orders device past

theorem overseen_new (setup : Setup σ) (world : σ) : Overseen setup [] (new setup world) where
  faced := faced_new setup.options
  sees := fun device => ⟨.free, Pool.shows_new setup.options device, rfl, fun _ => ⟨[], rfl, .nil⟩⟩
  sparing := fun _ device => sparing_new _ device setup.options
  ordered := fun _ => rfl

namespace Overseen

variable {setup : Setup σ} {past : List Happening} {core : Core σ}

/--
The callbacks on a device go on with the code of its call and stay the same otherwise.  That
is the case analysis on which all about callbacks rests.
-/
theorem reciting_perform (overseen : Overseen setup past core) (reticent : setup.handler.Reticent)
    (move : Move σ) {device : Address} {facet after : Facet σ}
    (reciting : Reciting setup.options.outputSlots device (callbacks device core.notes)
      (begunCalls device past) facet)
    (way : Advance setup core move device facet (happeningsOn device (observe setup core move))
      after) :
    Reciting setup.options.outputSlots device
      (callbacks device (Core.perform setup core move).notes)
      (begunCalls device past ++ begunCalls device (observe setup core move)) after := by
  have frame (elsewhere : ∀ code, code? setup core move ≠ some (device, code)) :
      callbacks device (Core.perform setup core move).notes = callbacks device core.notes :=
    ((overseen.sparing reticent device).frame overseen.faced (spares_of_reticent reticent device)
      elsewhere fun _ _ => rfl).1
  rw [← begunCalls_happeningsOn device (observe setup core move)]
  generalize happeningsOn device (observe setup core move) = shown at way ⊢
  cases way with
  | aside _ elsewhere =>
      rw [frame elsewhere, begunCalls_nil, List.append_nil]
      exact reciting
  | join _ call elsewhere =>
      have nothing : begunCalls device [.accepted (.invoke call.messageId device call.call)] = [] :=
        rfl
      rw [frame elsewhere, nothing, List.append_nil]
      exact reciting.join call
  | lose _ aborts =>
      have elsewhere : ∀ code, code? setup core move ≠ some (device, code) := by
        cases move <;> cases aborts
        exact nofun
      rw [frame elsewhere, begunCalls_nil, List.append_nil]
      exact reciting.lose
  | goOn call rest waiting runs =>
      rw [(ran_perform runs).notes_eq, callbacks_append, begunCalls_goingOn]
      exact reciting_facetAfter reticent reciting core.world

theorem perform (overseen : Overseen setup past core) {move : Move σ}
    (not_submit : ∀ job, move ≠ .submit job) :
    Overseen setup (past ++ observe setup core move) (Core.perform setup core move) where
  faced := overseen.faced.perform setup move
  sees := by
    intro device
    rcases overseen.sees device with ⟨facet, shows, owing, reciting⟩
    rcases (advance setup overseen.faced.tidy shows move).2 with ⟨after, shown, way⟩
    refine ⟨after, shown, ?_, fun reticent => ?_⟩
    · rw [acceptedCalls_append, begunCalls_append,
        ← acceptedCalls_happeningsOn device (observe _ _ _),
        ← begunCalls_happeningsOn device (observe _ _ _)]
      exact owing_advance way owing
    · rw [begunCalls_append]
      exact overseen.reciting_perform reticent move (reciting reticent) way
  sparing := fun reticent device => (overseen.sparing reticent device).perform overseen.faced
    (spares_of_reticent reticent device) move
  ordered := by
    intro device
    rw [acceptedCalls_append, orders_append, overseen.ordered, acceptedCalls_observe not_submit]

theorem run (overseen : Overseen setup past core) {moves : List (Move σ)}
    (inbound : ∀ move ∈ moves, ∀ job, move ≠ .submit job) :
    Overseen setup (past ++ history setup core moves) (Core.run setup core moves) :=
  run_induction setup (fun _ _ _ kind overseen => overseen.perform kind) overseen inbound

end Overseen

/-! ## What a handler is asked -/

section

variable {setup : Setup σ} {other : Handler σ}

/-- Until a call begins no handler is asked anything.  So two handlers do the same up to then. -/
theorem step_congr {core : Core σ} {id : Nat}
    (agree : ∀ messageId device call,
      .began (.invoke messageId device call) ∈ stepped setup core id →
      Handler.Agree setup.options.outputSlots setup.handler other device call) :
    step { setup with handler := other } core id = step setup core id ∧
      stepped { setup with handler := other } core id = stepped setup core id := by
  unfold stepped at agree ⊢
  unfold step
  cases found : core.pool.task? id with
  | none => exact ⟨rfl, rfl⟩
  | some task =>
      rw [found] at agree
      dsimp only at agree ⊢
      unfold stepTask beginJob
      cases stage : task.stage with
      | fresh | queueing | atGate | suspended => exact ⟨rfl, rfl⟩
      | resumable rest => cases task.job <;> exact ⟨rfl, rfl⟩
      | granted =>
          cases job : task.job with
          | reportReply messageId code => exact ⟨rfl, rfl⟩
          | invoke messageId device call =>
              rw [stage, job] at agree
              have same := DeviceCall.perform_congr
                (agree messageId device call List.mem_cons_self)
              dsimp only
              rw [← same]
              exact ⟨rfl, rfl⟩

theorem perform_congr_handler {core : Core σ} {move : Move σ}
    (agree : ∀ messageId device call,
      .began (.invoke messageId device call) ∈ observe setup core move →
      Handler.Agree setup.options.outputSlots setup.handler other device call) :
    perform { setup with handler := other } core move = perform setup core move ∧
      observe { setup with handler := other } core move = observe setup core move := by
  cases move with
  | step id => exact step_congr agree
  | _ => exact ⟨rfl, rfl⟩

/--
Handlers that agree on the calls that begin cannot be told apart.  What they would do on
other calls is never found out.
-/
theorem run_congr_handler {core : Core σ} {moves : List (Move σ)}
    (agree : ∀ messageId device call,
      .began (.invoke messageId device call) ∈ history setup core moves →
      Handler.Agree setup.options.outputSlots setup.handler other device call) :
    run { setup with handler := other } core moves = run setup core moves ∧
      history { setup with handler := other } core moves = history setup core moves := by
  induction moves generalizing core with
  | nil => exact ⟨rfl, rfl⟩
  | cons move rest ih =>
      rw [history_cons] at agree ⊢
      rcases perform_congr_handler fun messageId device call shown =>
        agree messageId device call (List.mem_append_left _ shown) with ⟨performed, observed⟩
      rcases ih fun messageId device call shown =>
        agree messageId device call (List.mem_append_right _ shown) with ⟨ran, told⟩
      rw [history_cons, performed, observed, told]
      refine ⟨?_, rfl⟩
      rw [run, run, List.foldl_cons, List.foldl_cons, performed]
      exact ran

end

/-! ## Frames that are no calls -/

/--
A frame that leaves the pool, the world of device code and its notes as they are.  It may
have been answered, or handed to whoever awaits it.
-/
structure TurnedAway (setup : Setup σ) (core : Core σ) (text : String) : Prop where
  shown : ∃ verdict ∈ [.dropped, .rejected .invalidParameter],
    observe setup core (.receive text) = [.received text verdict]
  pool_eq : (perform setup core (.receive text)).pool = core.pool
  quiet : Quiet core (perform setup core (.receive text))

theorem turnedAway (setup : Setup σ) (core : Core σ) {text : String} {messageId : UInt32}
    {method : String} {payload : Value}
    (inbound : Inbound.ofText text = .ok (.call messageId method payload))
    (unreadable : ∀ call, DeviceCall.ofPayload method payload ≠ .ok call) :
    TurnedAway setup core text := by
  have quiet : Quiet core (perform setup core (.receive text)) := quiet_receive setup core text
  have way := routing setup core text
  suffices same : (∃ verdict ∈ [.dropped, .rejected .invalidParameter],
      observe setup core (.receive text) = [.received text verdict]) ∧
      (receive setup core text).2.pool = core.pool from ⟨same.1, same.2, quiet⟩
  rw [observe]
  generalize (receive setup core text).1 = verdict at way ⊢
  generalize (receive setup core text).2 = after at way ⊢
  generalize offered? setup core text = offer at way ⊢
  cases way with
  | dropped => exact ⟨⟨.dropped, List.mem_cons_self, rfl⟩, rfl⟩
  | delivered reply reads | unmatched reply reads | observed reply reads =>
      cases inbound.symm.trans reads
  | submitted _ _ _ _ call reads _ read | refused _ _ _ _ call _ reads _ read =>
      cases inbound.symm.trans reads
      exact absurd read (unreadable call)
  | unreadable =>
      exact ⟨⟨_, List.mem_cons_of_mem _ List.mem_cons_self, rfl⟩, (beside_send core _).pool_eq⟩

/-! ## The whole -/

/-- A job that does not come from a frame.  Programs may submit such jobs themselves. -/
def Move.isSubmit : Move σ → Bool
  | submit _ => true
  | _ => false

/--
What device code gets to see in a run.  The fields say which calls begin, which callbacks
they make, and what is kept from the handler.
-/
structure Vetted (setup : Setup σ) (world : σ) (moves : List (Move σ)) : Prop where
  /--
  Calls begin in the order of the frames that they come from, each frame at most once.  A
  frame that was not turned into a call is passed over.
  -/
  begun_prefix : ∀ device, begunCalls device (history setup (new setup world) moves) <+:
    orders device (history setup (new setup world) moves)
  /--
  The callbacks on a device are those of the calls that have begun, in that order.  A
  handler that forged notes of its own could not be told from one that is asked.
  -/
  scripted : setup.handler.Reticent → ∀ device,
    Scripted setup.options.outputSlots device
      (callbacks device (run setup (new setup world) moves).notes)
      (begunCalls device (history setup (new setup world) moves))
  /--
  Each of these calls is what its frame says, and sound.  A call whose data break a rule is
  none of them.
  -/
  sound : ∀ device, ∀ order ∈ orders device (history setup (new setup world) moves),
    ∃ text method payload,
      .received text .submitted ∈ history setup (new setup world) moves ∧
      Inbound.ofText text = .ok (.call order.messageId method payload) ∧
      Address.ofPayload? payload = some device ∧
      DeviceCall.ofPayload method payload = .ok order.call ∧ order.call.Sound
  /--
  What a handler would do on anything but the calls that begin makes no difference.  Another
  handler in its place leads to the same run.
  -/
  blind : ∀ other : Handler σ,
    (∀ device, ∀ call ∈ begunCalls device (history setup (new setup world) moves),
      Handler.Agree setup.options.outputSlots setup.handler other device call.call) →
    run { setup with handler := other } (new setup world) moves =
        run setup (new setup world) moves ∧
      history { setup with handler := other } (new setup world) moves =
        history setup (new setup world) moves
  /--
  A frame without a call, or with one datum that is not acceptable, leads to nothing.  The
  good data beside the bad one are not seen either.
  -/
  refused : ∀ earlier text later messageId name payload, moves = earlier ++ .receive text :: later →
    Inbound.ofText text = .ok (.call messageId name payload) →
    ((∀ method call, name = method.name → ¬ DeviceCall.Reads payload method call) ∨
      ∃ method elements, name = method.name ∧
        DeviceCall.data? method payload = some (.array elements) ∧
        ∃ element ∈ elements, ¬ DeviceCall.Acceptable method element) →
    TurnedAway setup (run setup (new setup world) earlier) text

/--
Where the data of a call stand in its payload.  Of the two members that may hold them, one
goes before the other.
-/
structure Placed (method : Method) (payload : Value) : Prop where
  primary : ∀ data, payload.get? method.dataFields.1 = some data →
    DeviceCall.data? method payload = some data
  alternate : payload.get? method.dataFields.1 = none →
    DeviceCall.data? method payload = payload.get? method.dataFields.2
  /--
  Renaming the only one of the two members that is there gives the same call.  It may even
  be renamed back.
  -/
  renamed : ∀ old new renamed,
    (old, new) = method.dataFields ∨ (new, old) = method.dataFields →
    DeviceCall.Renamed old new payload renamed →
    ∀ messageId, offeredCall? messageId method.name renamed =
      offeredCall? messageId method.name payload

theorem offeredCall?_of_renamed {method : Method} {payload renamed : Value} {old new : String}
    (pair : (old, new) = method.dataFields ∨ (new, old) = method.dataFields)
    (moves : DeviceCall.Renamed old new payload renamed) (messageId : UInt32) :
    offeredCall? messageId method.name renamed = offeredCall? messageId method.name payload := by
  have others (name : String)
      (used : name ∈ [Address.productKeyField, Address.deviceNameField, Method.identifierField]) :
      renamed.get? name = payload.get? name := by
    have apart := DeviceCall.dataFields_apart method used
    rcases pair with pair | pair <;> rw [← pair] at apart
    · exact moves.others name apart.1 apart.2
    · exact moves.others name apart.2 apart.1
  have address : Address.ofPayload? renamed = Address.ofPayload? payload := by
    simp only [Address.ofPayload?, others Address.productKeyField (by decide),
      others Address.deviceNameField (by decide)]
  have read : DeviceCall.ofPayload method.name renamed = DeviceCall.ofPayload method.name payload :=
    DeviceCall.ofPayload_congr (moves.data?_eq pair) (others Method.identifierField (by decide))
  rw [offeredCall?, address, read, offeredCall?]

theorem placed (method : Method) (payload : Value) : Placed method payload where
  primary := fun _ => DeviceCall.data?_of_primary
  alternate := DeviceCall.data?_of_alternate
  renamed := fun _ _ _ pair moves => offeredCall?_of_renamed pair moves

/--
Device code sees the sound calls of frames that were addressed to its device, and no others.
Nothing is assumed about the handler, except where its own notes could be mistaken for
callbacks.
-/
theorem input_vetted (setup : Setup σ) (world : σ) (moves : List (Move σ))
    (inbound : ∀ move ∈ moves, move.isSubmit = false) :
    Vetted setup world moves ∧ ∀ method payload, Placed method payload := by
  have not_submit : ∀ move ∈ moves, ∀ job, move ≠ .submit job := by
    rintro move inside job rfl
    cases inbound _ inside
  have overseen := (overseen_new setup world).run not_submit
  rw [List.nil_append] at overseen
  refine ⟨?_, placed⟩
  refine ⟨fun device => ?_, fun reticent device => ?_, fun device order inside => ?_,
    fun other agree => ?_, ?_⟩
  · rcases overseen.sees device with ⟨facet, -, owing, -⟩
    rw [← overseen.ordered]
    exact owing.begun_prefix
  · rcases overseen.sees device with ⟨facet, -, -, reciting⟩
    exact (reciting reticent).scripted
  · rcases exists_frame inside with ⟨text, method, payload, there, inbound, address, read⟩
    rcases DeviceCall.ofPayload_eq_ok_iff.mp read with ⟨known, -, reads⟩
    exact ⟨text, method, payload, there, inbound, address, read, reads.sound⟩
  · refine run_congr_handler fun messageId device call begins => ?_
    have isOn : (Job.invoke messageId device call).callOn? device = some ⟨messageId, call⟩ :=
      Job.callOn?_eq_some.mpr rfl
    exact agree device ⟨messageId, call⟩ (List.mem_filterMap.mpr ⟨_, begins, isOn⟩)
  · rintro earlier text later messageId name payload - inbound faulty
    refine turnedAway setup _ inbound fun call read => ?_
    rcases DeviceCall.ofPayload_eq_ok_iff.mp read with ⟨known, rfl, reads⟩
    rcases faulty with nothing | ⟨method, elements, same, given, element, inside, bad⟩
    · exact nothing known call rfl reads
    · have known_eq : known = method := by
        have found := Method.ofName?_name known
        rw [same, Method.ofName?_name] at found
        exact (Option.some.inj found).symm
      subst known_eq
      exact bad (reads.acceptable given element inside)

/-- The code of a lamp notes nothing itself.  So its notes are those of its callbacks. -/
theorem reticent_fleet : Fleet.handler.Reticent where
  getProperties := by
    intro device keys fleet
    dsimp only
    cases fleet.getProperties device keys <;> trivial
  setProperty := by
    intro device datum fleet
    dsimp only
    cases fleet.setProperty device datum <;> trivial
  callService := by
    intro slots device service inputs outputs fleet
    dsimp only
    cases fleet.callService device service <;> trivial

/-- One lamp and its device code.  The options are the standard ones. -/
def lampSetup : Setup Fleet := ⟨Options.standard, Fleet.handler, false, none, .standard⟩

def hallLamp : Address := ⟨"house", "lamp"⟩

/--
A text of a call on a lamp of the house.  The parts that vary are given, and the rest is the
same for all of them.
-/
def lampFrame (name messageId method members : String) : String :=
  "\x7b\"messageId\":" ++ messageId ++ ",\"method\":\"" ++ method ++
    "\",\"payload\":\x7b\"productKey\":\"house\",\"deviceName\":\"" ++ name ++ "\"," ++ members ++
    "\x7d\x7d"

/--
A call with an empty key behind a good one, a call that sets two properties, and a service
whose inputs stand under the other name.  The first leads to nothing, and the others are
carried out.
-/
def lampMoves : List (Move Fleet) :=
  let power := "\x7b\"identifier\":\"power\",\"type\":\"bool\",\"value\":1\x7d"
  let level := "\x7b\"identifier\":\"brightness\",\"type\":\"int\",\"value\":50\x7d"
  [.receive (lampFrame "lamp" "1" "setProperty" ("\"properties\":[" ++ power ++ ",\"\"]")),
    .receive (lampFrame "lamp" "2" "setProperty"
      ("\"properties\":[" ++ power ++ "," ++ level ++ "]")),
    .receive (lampFrame "lamp" "3" "callService"
      ("\"identifier\":\"blink\",\"properties\":[" ++ level ++ "]")),
    .step 0, .step 0, .step 0, .step 0]

theorem input_vetted_lampMoves :
    (Vetted lampSetup (Fleet.new [hallLamp]) lampMoves ∧ ∀ method payload, Placed method payload) ∧
      lampSetup.handler.Reticent ∧
      callbacks hallLamp (run lampSetup (new lampSetup (Fleet.new [hallLamp])) lampMoves).notes =
        [.setProperty hallLamp ⟨"power", .bool, "1"⟩,
          .setProperty hallLamp ⟨"brightness", .int, "50"⟩,
          .callService hallLamp "blink" [⟨"brightness", .int, "50"⟩] 16] :=
  ⟨input_vetted lampSetup (Fleet.new [hallLamp]) lampMoves (by decide), reticent_fleet,
    by decide +kernel⟩

end Core
end DeviceLink
