import DeviceLink.Semaphore
import Mathlib.Data.List.Nodup

namespace DeviceLink
namespace Gates

/-!
Who waits at the gates.  Changing one gate moves it to the front of the list, so the
tasks that wait are determined up to their order only.  That order never matters, since
nobody is served across gates.  The gates themselves know the waiting tasks by their
numbers.  What is proved here is that a task waits at one gate at most, that opening a
gate serves those at its front, and that nobody is forgotten when gates change places.
-/

/--
The tasks that wait at any gate.  A task waits at one gate at most, though the list alone
does not say so.
-/
def waiting (gates : Gates) : List Nat := gates.flatMap fun gate => gate.2.waiters

/--
Each gate occurs once.  Gates are found by their names, and a second one of the same name
would be out of reach.
-/
def Distinct (gates : Gates) : Prop := (gates.map Prod.fst).Nodup

/-- The gates beside one.  They stay as they are when that one changes. -/
def others (gates : Gates) (name : String) : Gates := gates.filter fun gate => gate.1 ≠ name

variable {gates : Gates}

theorem distinct_set (distinct : gates.Distinct) (name : String) (semaphore : Semaphore) :
    (gates.set name semaphore).Distinct := by
  unfold Distinct set
  rw [List.map_cons, List.nodup_cons]
  constructor
  · intro inside
    rcases List.mem_map.mp inside with ⟨gate, kept, same⟩
    have apart := (List.mem_filter.mp kept).2
    simp [same] at apart
  · exact distinct.sublist (List.filter_sublist.map Prod.fst)

theorem waiting_set (gates : Gates) (name : String) (semaphore : Semaphore) :
    (gates.set name semaphore).waiting = semaphore.waiters ++ (gates.others name).waiting := by
  rw [set, waiting, List.flatMap_cons]
  rfl

/--
A gate that has been mentioned is one of the gates; any other one has nothing.  Either way,
looking at the gate and at the others covers all who wait.
-/
theorem perm_others (distinct : gates.Distinct) (name : String) :
    gates.Perm ((name, gates.get name) :: gates.others name) ∨
      gates.others name = gates ∧ gates.get name = Semaphore.new 0 := by
  cases found : gates.find? fun gate => gate.1 = name with
  | none =>
      refine Or.inr ⟨?_, by rw [get, found]; rfl⟩
      apply List.filter_eq_self.mpr
      intro gate inside
      simpa using List.find?_eq_none.mp found gate inside
  | some gate =>
      have key : gate.1 = name := by simpa using List.find?_some found
      rcases List.append_of_mem (List.mem_of_find?_eq_some found) with ⟨before, after, split⟩
      have apart : ∀ other ∈ before ++ after, decide (other.1 ≠ name) = true := by
        intro other inside
        unfold Distinct at distinct
        rw [split, List.map_append, List.map_cons, List.nodup_middle, ← List.map_append,
          List.nodup_cons] at distinct
        apply decide_eq_true
        intro same
        exact distinct.1 (List.mem_map.mpr ⟨other, inside, same.trans key.symm⟩)
      have rest : gates.others name = before ++ after := by
        rw [others, split, List.filter_append, List.filter_cons, if_neg (by simp [key]),
          ← List.filter_append, List.filter_eq_self.mpr apart]
      have gate_eq : (name, gates.get name) = gate := by
        rw [get, found, ← key]
        rfl
      rw [gate_eq, rest, split]
      exact Or.inl List.perm_middle

/--
Those who wait at one gate are among those who wait.  The rest of them wait at the other
gates.
-/
theorem waiting_perm (distinct : gates.Distinct) (name : String) :
    gates.waiting.Perm ((gates.get name).waiters ++ (gates.others name).waiting) := by
  rcases perm_others distinct name with parts | ⟨same, nothing⟩
  · exact parts.flatMap_right _
  · rw [same, nothing]
    exact List.Perm.refl _

theorem waiting_of_pass? {next : Gates} {name : String} (distinct : gates.Distinct)
    (passed : gates.pass? name = some next) :
    next.Distinct ∧ gates.waiting.Perm next.waiting := by
  rcases Option.map_eq_some_iff.mp passed with ⟨left, taken, rfl⟩
  have same : left.waiters = (gates.get name).waiters := by
    unfold Semaphore.take? at taken
    split at taken
    · cases taken
    · cases taken
      rfl
  refine ⟨distinct_set distinct name left, ?_⟩
  rw [waiting_set, same]
  exact waiting_perm distinct name

theorem waiting_enqueue (distinct : gates.Distinct) (name : String) (task : Nat) :
    (gates.waiting ++ [task]).Perm (gates.enqueue name task).waiting := by
  rw [enqueue, waiting_set]
  refine ((waiting_perm distinct name).append_right [task]).trans ?_
  rw [Semaphore.enqueue, List.append_assoc, List.append_assoc]
  exact List.perm_append_comm.append_left _

/-- Who is served no longer waits.  The others wait on, at the same gate and elsewhere. -/
theorem waiting_release (distinct : gates.Distinct) (name : String) (permits : Nat) :
    gates.waiting.Perm
      ((gates.release name permits).2 ++ (gates.release name permits).1.waiting) := by
  have split : (gates.release name permits).2 ++ (gates.release name permits).1.waiting =
      (gates.get name).waiters ++ (gates.others name).waiting := by
    rw [release, waiting_set]
    simp only [Semaphore.release]
    rw [← List.append_assoc, List.take_append_drop]
  rw [split]
  exact waiting_perm distinct name

theorem distinct_release (distinct : gates.Distinct) (name : String) (permits : Nat) :
    (gates.release name permits).1.Distinct := distinct_set distinct name _

end Gates
end DeviceLink
