import DeviceLink.Proofs.Session.Correlation

namespace DeviceLink
namespace Session

variable {σ : Type}

/-!
Every move of a session leaves synchronous requests alone, or opens one, decides
something for those that wait, or ends one.  So the registry of every run agrees with
the history of the run.  The moves that do not concern requests are treated together.
The others come one by one, and each is reduced to the lemma about the occurrence that
it brings, with the checks of a request that have to be passed before it is opened.
-/

/-! ## Moves that leave synchronous requests alone -/

namespace Apart

variable {session next last : Session σ}

theorem refl (session : Session σ) : Apart session session :=
  ⟨Core.Apart.refl _, rfl, le_rfl⟩

theorem trans (first : Apart session next) (second : Apart next last) : Apart session last where
  core := first.core.trans second.core
  callers_eq := second.callers_eq.trans first.callers_eq
  tickets_le := first.tickets_le.trans second.tickets_le

theorem of_core {core : Core σ} (apart : Core.Apart session.core core) :
    Apart session { session with core := core } := ⟨apart, rfl, le_rfl⟩

end Apart

section

variable (session : Session σ)

theorem apart_start (label : String) : Apart session (session.start label).2 :=
  ⟨Core.Apart.refl _, rfl, Nat.le_succ _⟩

theorem apart_drainPool (tag : Option Tag) (grace : Duration) (ofCore : Bool) :
    Apart session (session.drainPool tag grace ofCore).2 := by
  have closed : Core.Apart session.core
      { session.core with pool := session.core.pool.close.1 } := ⟨rfl, rfl, rfl, Iff.rfl⟩
  unfold drainPool
  dsimp only
  split <;> exact ⟨closed, rfl, le_rfl⟩

theorem apart_endWatchers : Apart session session.endWatchers.1 :=
  ⟨Core.Apart.refl _, rfl, le_rfl⟩

theorem apart_endDrains : Apart session session.endDrains.1 := by
  unfold endDrains
  dsimp only
  generalize (session.drains.partition fun entry => session.drainIsOver entry.2).1 = spent
  have abandoned : Core.Apart session.core
      (spent.foldl (fun core entry => core.abortTasks entry.2.tasks) session.core) :=
    Core.Apart.foldl (fun core entry => core.abortTasks entry.2.tasks)
      (fun _ _ => ⟨rfl, rfl, rfl, Iff.rfl⟩) spent session.core
  exact ⟨abandoned, rfl, le_rfl⟩

theorem apart_endAwaiting : Apart session session.endAwaiting.1 := by
  unfold endAwaiting
  split
  · exact ⟨Core.Apart.refl _, rfl, le_rfl⟩
  · exact Apart.refl session

end

/--
The moves that have to do with requests.  All others leave the history as it is, and the
registry too.
-/
def Move.concernsRequests : Move σ → Bool
  | report _ _ => true
  | receive _ => true
  | request _ _ _ _ => true
  | shutdown _ => true
  | abort _ => true
  | poll _ => true
  | _ => false

theorem observe_of_unconcerned (session : Session σ) {move : Move σ}
    (unconcerned : move.concernsRequests = false) : observe session move = [] := by
  cases move with
  | report | receive | request | shutdown | abort | poll => cases unconcerned
  | _ => rfl

theorem apart_of_unconcerned (setup : Setup σ) (session : Session σ) {move : Move σ}
    (unconcerned : move.concernsRequests = false) :
    Apart session (session.perform setup move) := by
  cases move with
  | report | receive | request | shutdown | abort | poll => cases unconcerned
  | establish outlet => exact .of_core (Core.apart_establish setup session.core outlet)
  | closeLink => exact .of_core (Core.apart_closeLink setup session.core)
  | waitConnected label budget => exact ⟨Core.Apart.refl _, rfl, Nat.le_succ _⟩
  | awaitEnd label => exact ⟨Core.Apart.refl _, rfl, Nat.le_succ _⟩
  | shutdownPool label grace => exact (apart_start session label).trans (apart_drainPool _ _ _ _)
  | advance span => exact ⟨Core.Apart.refl _, rfl, le_rfl⟩
  | openGate gate permits => exact .of_core ⟨rfl, rfl, rfl, Iff.rfl⟩
  | drain most => exact .of_core (.of_outward (Core.outward_onNewestQueue session.core _))
  | hangUp => exact .of_core (.of_outward (Core.outward_onNewestQueue session.core _))
  | disturb world => exact .of_core ⟨rfl, rfl, rfl, Iff.rfl⟩
  | step task => exact .of_core (Core.apart_step setup session.core task)
  | settleTasks => exact .of_core (Core.apart_settle setup session.core)
  | endWatchers => exact apart_endWatchers session
  | endDrains => exact apart_endDrains session
  | endAwaiting => exact apart_endAwaiting session

/--
A session after a synchronous request has tried to send its frame.  If the frame is out the
request is among the callers, and otherwise its failure is known at once.
-/
def carryOn (session : Session σ) (label : String) (result : Core.Opening × Core σ) : Session σ :=
  match result with
  | (.waits wait, core) =>
      { (session.start label).2 with
        core := core
        callers := Agenda.insert (fun entry => entry.2.deadline)
          (⟨label, session.nextTicket⟩, wait) session.callers }
  | (_, core) => { (session.start label).2 with core := core }

theorem request_eq (session : Session σ) (label : String) (device : Address) (request : Request)
    (budget : Duration) :
    (session.request label device request budget).session =
      session.carryOn label (session.core.sendSync device request session.now budget) := by
  unfold Session.request
  dsimp only [start]
  split <;> rename_i result <;> rw [result] <;> rfl

namespace Correlated

variable {setup : Setup σ} {past : List Occurrence} {session next : Session σ}

/-! ## Outbound requests -/

theorem issued_append (first second : List Occurrence) :
    issued (first ++ second) = issued first + issued second := List.countP_append

/--
The next message id is the number of those taken so far and one.  It is so as long as the
counter has not come round.
-/
theorem toNat_takeId (correlated : Correlated past session) (few : issued past + 1 < UInt32.size) :
    session.core.takeId.1.toNat = issued past + 1 := by
  rw [Core.takeId_eq correlated.numbered.nextId_eq few]
  exact Core.toNat_nextId correlated.numbered.nextId_eq few

/--
The next message id is one that no request has had.  Its registration will therefore not be
refused as a duplicate.
-/
theorem takeId_fresh (correlated : Correlated past session) (few : issued past + 1 < UInt32.size) :
    session.core.takeId.1 ∉ (opened past).map Call.messageId := by
  intro inside
  rcases List.mem_map.mp inside with ⟨call, there, same⟩
  have below := correlated.numbered.ids_le call there
  rw [same, correlated.toNat_takeId few] at below
  exact Nat.not_succ_le_self _ below

theorem report (correlated : Correlated past session) (device : Address) (request : Request)
    (few : issued (past ++ counted session.core device request) < UInt32.size) :
    Correlated (past ++ counted session.core device request)
      { session with core := (session.core.sendAsync device request).2 } := by
  rw [issued_append] at few
  cases prepared : session.core.prepare device request with
  | error failure =>
      have quiet : counted session.core device request = [] := by simp only [counted, prepared]
      rw [quiet, List.append_nil, Core.sendAsync_of_error session.core prepared]
      exact correlated
  | ok payload =>
      have shown : counted session.core device request = [.issued session.core.takeId.1] := by
        simp only [counted, prepared]
      rw [shown] at few ⊢
      refine (correlated.issue few).of_apart ?_
      exact ⟨Core.apart_sendAsync session.core prepared, rfl, le_rfl⟩

/--
A registration that is dropped again at once leaves everybody else as they were.  This is
what comes of a request whose frame the outlet does not take.
-/
theorem withdraw (correlated : Correlated past session) {messageId : UInt32} {token : Nat}
    {registry : Registry}
    (registered : session.core.registry.register messageId = .ok (token, registry))
    (fresh : messageId ∉ (opened past).map Call.messageId)
    (isOpen : session.core.link.phase ≠ .closed) :
    Correlated past
      { session with core := { session.core with registry := registry.drop token } } := by
  have unknown : messageId ∉ session.core.registry.handles.map Handle.messageId := by
    rw [correlated.handles_eq, List.map_map]
    exact fun inside => fresh ((List.filter_sublist.map _).subset inside)
  exact
    { orderly := correlated.orderly
      coherent := (correlated.coherent.register registered).drop token
      handles_eq := by
        rw [← correlated.handles_eq]
        exact correlated.coherent.drop_of_register correlated.ids_nodup unknown registered
      callers_perm := correlated.callers_perm
      numbered := ⟨correlated.numbered.nextId_eq, correlated.numbered.ids_le,
        correlated.numbered.tickets_lt⟩
      closed := fun phase => absurd phase isOpen }

/--
A request that has its message id is registered and sent.  Unless the registry is full or
the frame cannot leave, it waits afterwards, and the history has it as opened.
-/
theorem openWait (correlated : Correlated past session) (label : String) (request : Request)
    {messageId : UInt32} (payload : Json.Members) (budget : Duration)
    (fresh : messageId ∉ (opened past).map Call.messageId)
    (counted : messageId.toNat ≤ issued past)
    (isOpen : session.core.link.phase ≠ .closed) {result : Core.Opening × Core σ}
    (opens : session.core.openWait request messageId payload
      (session.now + budget.nanoseconds) budget = result) :
    Correlated (past ++ session.opening label messageId result.1)
      (session.carryOn label result) := by
  have way := Core.opened_openWait session.core request messageId payload
    (session.now + budget.nanoseconds) budget
  rw [opens] at way
  rcases result with ⟨opening, core⟩
  cases way with
  | refused failure =>
      rw [Session.opening, List.append_nil]
      exact correlated.of_apart (apart_start session label)
  | failed failure token registry registered _ apart =>
      rw [Session.opening, List.append_nil]
      refine (correlated.withdraw registered fresh isOpen).of_apart ?_
      exact ⟨apart, rfl, Nat.le_succ _⟩
  | sent token registry registered _ apart =>
      refine correlated.openCall registered fresh counted rfl rfl apart.registry_eq
        apart.nextId_eq (fun closed => isOpen (apart.closed_iff.mp closed)) ?_ rfl
      exact Agenda.perm_insert _ _ _

theorem request (correlated : Correlated past session) (label : String) (device : Address)
    (request : Request) (budget : Duration)
    (few : issued (past ++ session.requested label device request budget) < UInt32.size) :
    Correlated (past ++ session.requested label device request budget)
      (session.request label device request budget).session := by
  rw [request_eq]
  cases clock : session.core.clock.after? session.now budget with
  | none =>
      have crashed : session.core.sendSync device request session.now budget =
          (.crashes, session.core) := by
        simp only [Core.sendSync, clock]
      have quiet : session.requested label device request budget = [] := by
        simp only [requested, clock]
      rw [quiet, List.append_nil, crashed]
      exact correlated.of_apart (apart_start session label)
  | some due =>
      cases prepared : session.core.prepare device request with
      | error failure =>
          have refused : session.core.sendSync device request session.now budget =
              (.fails failure, session.core) := by
            simp only [Core.sendSync, clock, prepared]
          have quiet : session.requested label device request budget = [] := by
            simp only [requested, clock, refused, counted, prepared, opening, List.append_nil]
          rw [quiet, List.append_nil, refused]
          exact correlated.of_apart (apart_start session label)
      | ok payload =>
          have sent : session.core.sendSync device request session.now budget =
              session.core.takeId.2.openWait request session.core.takeId.1 payload
                (session.now + budget.nanoseconds) budget := by
            simp only [Core.sendSync, clock, prepared, Clock.after?_eq_some clock]
          have shown : session.requested label device request budget =
              [.issued session.core.takeId.1] ++
                session.opening label session.core.takeId.1
                  (session.core.sendSync device request session.now budget).1 := by
            simp only [requested, clock, counted, prepared]
          rw [shown, issued_append, issued_append] at few
          have one : issued [.issued session.core.takeId.1] = 1 := rfl
          have few_more : issued past + 1 < UInt32.size := by omega
          have isOpen : session.core.link.phase ≠ .closed := by
            rw [Core.phase_of_prepare session.core prepared]
            exact nofun
          have fresh : session.core.takeId.1 ∉
              (opened (past ++ [.issued session.core.takeId.1])).map Call.messageId := by
            rw [opened_concat_none rfl]
            exact correlated.takeId_fresh few_more
          have number : session.core.takeId.1.toNat ≤
              issued (past ++ [.issued session.core.takeId.1]) := by
            rw [correlated.toNat_takeId few_more, issued_concat]
            rfl
          rw [shown, ← List.append_assoc]
          exact (correlated.issue few_more).openWait label request payload budget fresh number
            isOpen sent.symm

/-! ## Inbound frames -/

theorem receive (correlated : Correlated past session) (setup : Setup σ) (text : String) :
    Correlated (past ++ received text)
      { session with core := (session.core.receive setup text).2 } := by
  unfold received Core.receive
  cases Inbound.ofText text with
  | error fault =>
      rw [List.append_nil]
      exact correlated
  | ok inbound =>
      cases inbound with
      | response messageId code payload =>
          refine (correlated.reply ⟨messageId, code, payload⟩).of_apart ?_
          exact ⟨Core.apart_receiveReply setup session.core _, rfl, le_rfl⟩
      | call messageId method payload =>
          rw [List.append_nil]
          exact correlated.of_apart (.of_core (Core.apart_receiveCall session.core _ _ _))

/-! ## The end of a request -/

theorem poll (correlated : Correlated past session) (tag : Tag) :
    Correlated (past ++ session.polled tag) (session.poll tag) := by
  cases seen : session.seen? tag with
  | none =>
      simp only [polled, Session.poll, seen, List.append_nil]
      exact correlated
  | some found =>
      rcases found with ⟨wait, result⟩
      rcases correlated.exists_of_seen? seen with ⟨call, waits, rfl, rfl, outcome⟩
      simp only [polled, Session.poll, seen]
      refine correlated.endCall waits rfl ?_ rfl rfl Iff.rfl ?_ rfl
      · intro now other same
        cases same
        exact outcome
      · refine List.filter_congr fun entry inside => ?_
        rcases correlated.mem_callers.mp inside with ⟨other, there, rfl⟩
        exact decide_eq_decide.mpr (not_congr (correlated.token_eq_iff there waits))

/--
The requests that still wait under a tag when it is given up.  They are what remains to be
cleaned up when their owner stops.
-/
def pending (session : Session σ) (tag : Tag) : List (Tag × Wait) :=
  session.callers.filter fun entry => entry.1 = tag

/--
When a tag is given up, the handles of its requests are dropped.  Nothing else in the core
is touched by that.
-/
theorem apart_giveUp (session : Session σ) (tag : Tag) :
    Core.Apart
      { session.core with
        registry := (pending session tag).foldl (fun registry entry =>
          registry.drop entry.2.token) session.core.registry }
      (session.giveUp tag).core := by
  have each : ∀ (core : Core σ) (entry : Option Tag × Drain),
      Core.Apart core
        (if entry.1 = some tag then core.abortTasks entry.2.tasks else core) := by
    intro core entry
    split
    · exact ⟨rfl, rfl, rfl, Iff.rfl⟩
    · exact Core.Apart.refl core
  rw [pending, List.foldl_filter]
  simp only [decide_eq_true_eq]
  exact Core.Apart.foldl _ each session.drains _

/--
At most one request waits under a tag.  So giving up a tag cancels this one request or
nobody.
-/
theorem pending_eq (correlated : Correlated past session) {call : Call}
    (waits : call ∈ waiting past) : pending session call.tag = [(call.tag, call.wait)] := by
  have distinct : (session.callers.map Prod.fst).Nodup := by
    have tags := correlated.callers_perm.map Prod.fst
    rw [List.map_map] at tags
    exact tags.nodup_iff.mpr correlated.tags_nodup
  have nodup : (pending session call.tag).Nodup := distinct.of_map.filter _
  refine List.perm_singleton.mp ((List.perm_ext_iff_of_nodup nodup (List.nodup_singleton _)).mpr ?_)
  intro entry
  rw [pending, List.mem_filter, List.mem_singleton, decide_eq_true_iff, correlated.mem_callers]
  constructor
  · rintro ⟨⟨other, there, rfl⟩, same⟩
    rw [List.inj_on_of_nodup_map correlated.tags_nodup there waits same]
  · rintro rfl
    exact ⟨⟨call, waits, rfl⟩, rfl⟩

theorem giveUp (correlated : Correlated past session) (tag : Tag) :
    Correlated
      (past ++ if session.callers.any (fun entry => entry.1 = tag) then [.cancelled tag] else [])
      (session.giveUp tag) := by
  have apart := apart_giveUp session tag
  split
  · rename_i called
    rcases List.any_eq_true.mp called with ⟨entry, inside, same⟩
    rcases correlated.mem_callers.mp inside with ⟨call, waits, rfl⟩
    have tag_eq : call.tag = tag := of_decide_eq_true same
    subst tag_eq
    rw [correlated.pending_eq waits] at apart
    exact correlated.endCall waits rfl nofun apart.registry_eq apart.nextId_eq apart.closed_iff
      rfl rfl
  · rename_i uncalled
    have others : ∀ entry ∈ session.callers, entry.1 ≠ tag := by
      intro entry inside same
      exact uncalled (List.any_eq_true.mpr ⟨entry, inside, decide_eq_true same⟩)
    have nobody : pending session tag = [] :=
      List.filter_eq_nil_iff.mpr fun entry inside => by simpa using others entry inside
    rw [nobody] at apart
    rw [List.append_nil]
    refine correlated.of_apart ⟨apart, ?_, le_rfl⟩
    exact List.filter_eq_self.mpr fun entry inside => decide_eq_true (others entry inside)

theorem abort (correlated : Correlated past session) (label : String) :
    Correlated (past ++ session.aborted label) (session.abort label).2 := by
  unfold aborted Session.abort
  split
  · rename_i unknown
    rw [unknown, List.append_nil]
    exact correlated
  · rename_i tag known
    rw [known]
    exact correlated.giveUp tag

theorem shutdown (correlated : Correlated past session) (setup : Setup σ) (label : String) :
    Correlated (past ++ [.shut]) (session.shutdown setup label).session := by
  have begun := correlated.of_apart (apart_start session label)
  -- After the first shutdown nobody waits, and there is nothing left to clear.
  by_cases closed : session.core.link.phase = .closed
  · have nobody := begun.closed closed
    have again : (session.shutdown setup label).session = (session.start label).2 := by
      have refused : (session.start label).2.core.shutdownLink setup =
          (false, (session.start label).2.core) := Core.shutdownLink_of_closed setup _ closed
      simp only [Session.shutdown, reportShut, shutdownCore, refused]
    rw [again]
    refine begun.shut begun.coherent nobody ?_ rfl rfl le_rfl
    refine ((List.map_congr_left fun handle inside => ?_).trans (List.map_id _)).symm
    exact Handle.fill_of_pending?_eq_none
      (begun.coherent.entries_eq_nil_iff.mp nobody handle inside)
  · rcases Core.shutdownLink_of_open setup (session.start label).2.core closed with
      ⟨core, accepted, registry_eq, nextId_eq⟩
    have cleared : Correlated (past ++ [.shut])
        { (session.start label).2 with
          core := { core with registry := core.registry.clear.2 } } := by
      refine begun.shut ?_ rfl ?_ nextId_eq rfl le_rfl
      · rw [registry_eq]
        exact begun.coherent.clear
      · rw [registry_eq]
        exact begun.coherent.clear_handles
    have drained := cleared.of_apart
      (apart_drainPool _ (some (session.start label).1) setup.options.drainTimeout true)
    simp only [Session.shutdown, reportShut, shutdownCore, accepted]
    exact drained

/-! ## Runs -/

theorem perform (correlated : Correlated past session) (setup : Setup σ) (move : Move σ)
    (few : issued (past ++ observe session move) < UInt32.size) :
    Correlated (past ++ observe session move) (session.perform setup move) := by
  cases concerned : move.concernsRequests with
  | false =>
      rw [observe_of_unconcerned session concerned, List.append_nil]
      exact correlated.of_apart (apart_of_unconcerned setup session concerned)
  | true =>
      cases move with
      | report device request => exact correlated.report device request few
      | receive text => exact correlated.receive setup text
      | request label device request budget =>
          exact correlated.request label device request budget few
      | shutdown label => exact correlated.shutdown setup label
      | abort label => exact correlated.abort label
      | poll tag => exact correlated.poll tag
      | _ => cases concerned

theorem run (setup : Setup σ) (world : σ) (moves : List (Move σ))
    (few : issued (history setup (new setup world) moves) < UInt32.size) :
    Correlated (history setup (new setup world) moves) (run setup (new setup world) moves) := by
  have kept : ∀ past session move, True →
      (issued past < UInt32.size → Correlated past session) →
        issued (past ++ observe session move) < UInt32.size →
          Correlated (past ++ observe session move) (session.perform setup move) := by
    intro past session move _ correlated few
    have before : issued past < UInt32.size := by
      rw [issued_append] at few
      omega
    exact (correlated before).perform setup move few
  exact Run.keeps kept (fun _ => correlated_new setup world) (fun _ _ => trivial) few

end Correlated

end Session
end DeviceLink
