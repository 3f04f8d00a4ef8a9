import DeviceLink.Proofs.Core.Sealed
import DeviceLink.Proofs.Session.Drain

namespace DeviceLink
namespace Session

variable {σ : Type}

/-!
Sessions whose link has been closed.  Only a shutdown closes it, and that seals the
registry and the pool as well; from then on every operation is answered without an
effect, whatever the tasks, the clock and those who still wait do.  `Terminal` lists the
operations with their answers, and what never changes again: frames, publications, the
counter of ids and the registry.  It follows from the seal, which each further move
keeps.
-/

section

variable {setup : Setup σ} {session : Session σ}

theorem closed_perform_iff {move : Move σ} (other : ∀ label, move ≠ .shutdown label) :
    (session.perform setup move).core.link.phase = .closed ↔ session.core.link.phase = .closed := by
  by_cases settling : move = .settleTasks
  · rw [settling]
    exact (Core.apart_settle setup session.core).closed_iff
  · rw [← run_coreMoves fun same => absurd same settling]
    refine Core.closed_run_iff setup session.core fun inward inside shuts => ?_
    have does := inward_of_mem inside
    rw [shuts] at does
    cases does with
    | shutdownLink label => exact other label rfl

/--
Whenever the link is closed, all of the core has been shut down.  No move closes the link
and leaves the registry or the pool open.
-/
theorem sealed_perform (shut : session.core.link.phase = .closed → session.core.Sealed)
    {move : Move σ} (closed : (session.perform setup move).core.link.phase = .closed) :
    (session.perform setup move).core.Sealed := by
  by_cases before : session.core.link.phase = .closed
  · exact (shut before).still (still_perform before move)
  · by_cases shuts : ∃ label, move = .shutdown label
    · rcases shuts with ⟨label, rfl⟩
      rw [perform, core_shutdown, coreMoves, if_neg before]
      exact Core.sealed_shutdown setup session.core
    · rw [not_exists] at shuts
      exact absurd ((closed_perform_iff shuts).mp closed) before

theorem sealed_run (shut : session.core.link.phase = .closed → session.core.Sealed)
    (moves : List (Move σ)) (closed : (run setup session moves).core.link.phase = .closed) :
    (run setup session moves).core.Sealed := by
  induction moves generalizing session with
  | nil => exact shut closed
  | cons move rest ih => exact ih (fun phase => sealed_perform shut phase) closed

end

/--
What a closed session stays like, and how it answers, after any further moves.  The first
parts say what stays, and the others say how each operation is answered.
-/
structure Terminal (setup : Setup σ) (reached : Session σ) (later : List (Move σ)) : Prop where
  phase_eq : (run setup reached later).phase = .closed
  /--
  Neither the observer of the link nor those who watch it are told anything.  The transition
  to the closed link was the last one to tell of.
  -/
  notified_eq : (run setup reached later).core.notified = reached.core.notified
  publications_eq :
    (run setup reached later).core.link.publications = reached.core.link.publications
  /--
  No frame reaches an outlet; what an outlet held may be taken from it.  An outlet may hang
  up as well, but it never gets anything new.
  -/
  frames_eq : (run setup reached later).core.frames = reached.core.frames
  outlets : ∀ (index : Nat) (outlet : Outlet), reached.core.outlets[index]? = some outlet →
    ∃ left, (run setup reached later).core.outlets[index]? = some left ∧ outlet.Leaves left
  send_eq : ∀ text, (run setup reached later).core.send text =
    (.error .closed, (run setup reached later).core)
  inFlight_eq : (run setup reached later).inFlight = 0
  /--
  Requests fail and take no message id.  They find the link closed before they come to the
  counter.
  -/
  nextId_eq : (run setup reached later).core.nextId = reached.core.nextId
  sendAsync_eq : ∀ device (request : Request) payload, request.payload device = .ok payload →
    (run setup reached later).core.sendAsync device request =
      (.error .closed, (run setup reached later).core)
  sendSync_eq : ∀ device (request : Request) payload, request.payload device = .ok payload →
    ∀ budget due,
      (run setup reached later).core.clock.after? (run setup reached later).now budget = some due →
      (run setup reached later).core.sendSync device request (run setup reached later).now budget =
        (.fails .closed, (run setup reached later).core)
  /--
  An inbound frame is answered by its verdict alone, and leaves the session as it was.
  Nobody is called, nobody gets a reply, and nothing is sent back.
  -/
  receive_call : ∀ text messageId method payload device,
    Inbound.ofText text = .ok (.call messageId method payload) →
    Address.ofPayload? payload = some device →
      ((run setup reached later).core.receive setup text).1 =
        .rejected (Core.refusalOf method payload)
  receive_response : ∀ text messageId code payload,
    Inbound.ofText text = .ok (.response messageId code payload) →
      ((run setup reached later).core.receive setup text).1 = .unmatched
  receive_eq : ∀ text, (run setup reached later).perform setup (.receive text) =
    run setup reached later
  /--
  The hooks of the transport do nothing, and neither does another shutdown of the core.  An
  outlet that is offered too late is not used.
  -/
  establish_eq : ∀ outlet, (run setup reached later).core.establish setup outlet =
    (false, { (run setup reached later).core with
      outlets := (run setup reached later).core.outlets ++ [outlet] })
  closeLink_eq : (run setup reached later).core.closeLink setup = (run setup reached later).core
  shutdownLink_eq : (run setup reached later).core.shutdownLink setup =
    (false, (run setup reached later).core)

/--
Any run of a session that has come to the closed link, with any moves afterwards.  The moves
afterwards may include further links, requests, frames and shutdowns.
-/
theorem closed_terminal (setup : Setup σ) (world : σ) (before : List (Move σ))
    (closed : (run setup (new setup world) before).phase = .closed) (later : List (Move σ)) :
    Terminal setup (run setup (new setup world) before) later := by
  have opened : (new setup world).core.link.phase ≠ .closed :=
    (nofun : Phase.connecting ≠ .closed)
  have shut : (run setup (new setup world) before).core.Sealed :=
    sealed_run (fun phase => absurd phase opened) before closed
  have still : Core.Still (run setup (new setup world) before).core
      (run setup (run setup (new setup world) before) later).core := still_run closed later
  generalize run setup (new setup world) before = reached at shut still ⊢
  have final := shut.still still
  exact
    { phase_eq := final.phase_eq
      notified_eq := still.notified_eq
      publications_eq := congrArg Link.publications still.link_eq
      frames_eq := still.frames_eq
      outlets := still.outlets
      send_eq := Core.send_of_closed final.phase_eq
      inFlight_eq := by
        rw [inFlight, Registry.size, final.entries_eq, List.length_nil]
      nextId_eq := still.nextId_eq
      sendAsync_eq := fun device request payload passes => final.sendAsync_eq passes
      sendSync_eq := fun device request payload passes budget due clock =>
        final.sendSync_eq passes clock
      receive_call := by
        intro text messageId method payload device inbound address
        simp only [Core.receive, inbound, final.receiveCall_eq, address]
      receive_response := by
        intro text messageId code payload inbound
        simp only [Core.receive, inbound, final.receiveReply_eq]
      receive_eq := by
        intro text
        rw [perform, final.receive_eq]
      establish_eq := Core.establish_of_closed setup final.phase_eq
      closeLink_eq := Core.closeLink_of_closed setup final.phase_eq
      shutdownLink_eq := Core.shutdownLink_of_closed setup _ final.phase_eq }

/--
The transport comes up again after the end, and a call comes in.  The call is turned down
without anybody being told.
-/
theorem closed_terminal_reconnected :
    let shut : List (Move Unit) := [.establish (.record "gateway"), .shutdown "stop"]
    (run Core.plainSetup (new Core.plainSetup ()) shut).phase = .closed ∧
      Terminal Core.plainSetup (run Core.plainSetup (new Core.plainSetup ()) shut)
        [.establish (.record "gateway"), .receive (lampCall "7"), .settleTasks] :=
  ⟨rfl, closed_terminal Core.plainSetup () _ rfl _⟩

end Session
end DeviceLink
