import DeviceLink.Proofs.Core.Effect

namespace DeviceLink
namespace Core

variable {σ : Type}

/-!
The pool of every run that abandons no tasks is coherent, and its ledger agrees with the
history of the run.  Most of what is proved about counters, lanes and permits starts
from these two facts.  `Accounted` holds the two together with the limit of the queue
and with the fact that no gate stands in the list twice.  It is kept by each move, since
each is a transition of the pool or leaves the pool alone.
-/

/--
The pool of a core and its history are in order.  The limits of the pool are those of the
options that it was made with.
-/
structure Accounted (setup : Setup σ) (past : List Happening) (core : Core σ) : Prop where
  coherent : core.pool.Coherent setup.options.workerCount core.gates.waiting
  limit_eq : core.pool.queueLimit = setup.options.queueLimit
  gates_distinct : core.gates.Distinct
  recorded : core.pool.ledger.Recorded past

namespace Accounted

variable {setup : Setup σ} {past shown : List Happening} {core next : Core σ}

theorem of_same (accounted : Accounted setup past core) (pool_eq : next.pool = core.pool)
    (gates_eq : next.gates = core.gates) : Accounted setup past next where
  coherent := by
    rw [pool_eq, gates_eq]
    exact accounted.coherent
  limit_eq := by
    rw [pool_eq]
    exact accounted.limit_eq
  gates_distinct := by
    rw [gates_eq]
    exact accounted.gates_distinct
  recorded := by
    rw [pool_eq]
    exact accounted.recorded

theorem of_beside (accounted : Accounted setup past core) (beside : Beside core next) :
    Accounted setup past next := accounted.of_same beside.pool_eq beside.gates_eq

theorem of_transition (accounted : Accounted setup past core) {held : List Nat}
    (transition : core.pool.Transition core.gates.waiting shown next.pool held)
    (waits : held.Perm next.gates.waiting) (distinct : next.gates.Distinct) :
    Accounted setup (past ++ shown) next where
  coherent :=
    let coherent := transition.coherent accounted.coherent
    { coherent with blocked_perm := waits.symm.trans coherent.blocked_perm }
  limit_eq := transition.queueLimit_eq.trans accounted.limit_eq
  gates_distinct := distinct
  recorded := transition.recorded accounted.coherent accounted.recorded

theorem skip (accounted : Accounted setup past core) (happening : Happening)
    (aside : happening.job? = none) : Accounted setup (past ++ [happening]) core :=
  { accounted with recorded := accounted.recorded.skip aside }

theorem of_effect (accounted : Accounted setup past core) (effect : Effect core next shown) :
    Accounted setup (past ++ shown) next := by
  induction effect generalizing past with
  | beside pool_eq gates_eq =>
      rw [List.append_nil]
      exact accounted.of_same pool_eq gates_eq
  | transition transition waits distinct =>
      exact accounted.of_transition transition waits distinct
  | aside happening aside _ ih =>
      rw [← List.singleton_append, ← List.append_assoc]
      exact ih (accounted.skip happening aside)

/--
Every move keeps the accounts, unless it abandons tasks.  Abandoned tasks leave lanes behind
that nobody works off, so they are excluded here.
-/
theorem perform (accounted : Accounted setup past core) {move : Move σ}
    (orderly : move.isAbort = false) :
    Accounted setup (past ++ observe setup core move) (Core.perform setup core move) :=
  accounted.of_effect (effect_perform accounted.coherent setup accounted.gates_distinct orderly)

theorem step (accounted : Accounted setup past core) (id : Nat) :
    Accounted setup (past ++ stepped setup core id) (Core.step setup core id) := by
  have moved : Accounted setup (past ++ observe setup core (.step id))
      (Core.perform setup core (.step id)) := accounted.perform rfl
  exact moved

/-- The accounts of a run.  It may start from any core whose accounts are in order. -/
theorem run (accounted : Accounted setup past core) (moves : List (Move σ))
    (orderly : ∀ move ∈ moves, move.isAbort = false) :
    Accounted setup (past ++ history setup core moves) (Core.run setup core moves) :=
  run_induction setup (fun _ _ _ kind accounted => accounted.perform kind) accounted orderly

end Accounted

/--
The accounts of a core that nothing has happened to.  Its pool is empty, and all its permits
are free.
-/
theorem accounted_new (setup : Setup σ) (world : σ) : Accounted setup [] (new setup world) where
  coherent := Pool.coherent_new setup.options
  limit_eq := rfl
  gates_distinct := List.nodup_nil
  recorded :=
    { accepted_eq := fun _ => rfl
      boundaries_eq := fun _ => rfl
      accepted_count := rfl
      begun_count := rfl }

theorem accounted_run (setup : Setup σ) (world : σ) (moves : List (Move σ))
    (orderly : ∀ move ∈ moves, move.isAbort = false) :
    Accounted setup (history setup (new setup world) moves)
      (run setup (new setup world) moves) :=
  (accounted_new setup world).run moves orderly

end Core
end DeviceLink
