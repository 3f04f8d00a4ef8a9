namespace DeviceLink
namespace Agenda

/-!
Lists in the order of deadlines, and among equal deadlines in the order of insertion.
Whoever has the earliest deadline stands at the front, so walking such a list ends waits
in the order in which they run out.  It is used for the waits of a session and of a desk
alike.  What an agenda holds is the same as if it were a plain list; only the order
depends on the deadlines, which is why the lemmas speak of permutations.
-/

variable {α : Type}

/--
Insert behind everything that is due no later.  An item with a later deadline is moved back
for nothing else, so equal deadlines keep their order.
-/
def insert (due : α → Nat) (item : α) (items : List α) : List α :=
  items.takeWhile (fun other => due other ≤ due item) ++
    item :: items.dropWhile fun other => due other ≤ due item

theorem perm_insert (due : α → Nat) (item : α) (items : List α) :
    (insert due item items).Perm (item :: items) := by
  have split := List.takeWhile_append_dropWhile
    (p := fun entry => decide (due entry ≤ due item)) (l := items)
  rw [insert]
  refine List.perm_middle.trans ?_
  rw [split]

theorem mem_insert {due : α → Nat} {item other : α} {items : List α} :
    other ∈ insert due item items ↔ other = item ∨ other ∈ items := by
  rw [(perm_insert due item items).mem_iff, List.mem_cons]

end Agenda
end DeviceLink
