namespace DeviceLink
namespace Run

/-!
Runs of a system that performs one move after another.  Beside the states of a run
stands its history, which is read off each move in the state before it.  What is proved
of such a system speaks of both at once: each move keeps it, and so every run does.
`keeps` is that step from a single move to a run.  The other lemmas split a history at
an occurrence, which gives the moves before and after the one that shows it, so that a
theorem about an occurrence becomes one about the state in which it came about.
-/

variable {State Move Note : Type}

/--
What is picked out of a history grows with what is picked out of the last note.  Histories
grow at their end, and everything that is counted in them grows there too.
-/
theorem filterMap_concat {α : Type} (pick : Note → Option α) (past : List Note) (last : Note) :
    (past ++ [last]).filterMap pick = past.filterMap pick ++ (pick last).toList := by
  rw [List.filterMap_append]
  cases result : pick last <;> simp [result]

/--
Where an item stands when one list follows another.  It stands in one of the two, and the
other is all before it or all behind it.
-/
theorem split_append {first second earlier later : List Note} {note : Note}
    (split : first ++ second = earlier ++ note :: later) :
    (∃ between, first = earlier ++ note :: between ∧ later = between ++ second) ∨
      ∃ between, earlier = first ++ between ∧ second = between ++ note :: later := by
  rcases List.append_eq_append_iff.mp split with ⟨between, earlier_eq, second_eq⟩ |
    ⟨between, first_eq, rest_eq⟩
  · exact .inr ⟨between, earlier_eq, second_eq⟩
  · cases between with
    | nil =>
        rw [List.append_nil] at first_eq
        exact .inr ⟨[], by rw [first_eq, List.append_nil], rest_eq.symm⟩
    | cons head between =>
        rcases List.cons_eq_cons.mp rest_eq with ⟨rfl, later_eq⟩
        exact .inl ⟨between, first_eq, later_eq⟩

/--
Where an item stands in a list that has grown by one.  It is the new one or stood there
before.
-/
theorem split_concat {past earlier later : List Note} {last note : Note}
    (split : past ++ [last] = earlier ++ note :: later) :
    past = earlier ∧ last = note ∨ ∃ rest, past = earlier ++ note :: rest := by
  rcases later.eq_nil_or_concat with rfl | ⟨rest, final, rfl⟩
  · rcases List.append_inj' split rfl with ⟨same, singleton⟩
    exact Or.inl ⟨same, List.head_eq_of_cons_eq singleton⟩
  · refine Or.inr ⟨rest, ?_⟩
    rw [List.concat_eq_append, ← List.cons_append, ← List.append_assoc] at split
    exact (List.append_inj' split rfl).1

/--
What the moves of a run show, one after the other.  A move may show nothing, and it may show
more than one thing.
-/
def history (perform : State → Move → State) (observe : State → Move → List Note) :
    State → List Move → List Note
  | _, [] => []
  | state, move :: rest => observe state move ++ history perform observe (perform state move) rest

section

variable (perform : State → Move → State) (observe : State → Move → List Note)

theorem history_append (state : State) (first second : List Move) :
    history perform observe state (first ++ second) =
      history perform observe state first ++
        history perform observe (first.foldl perform state) second := by
  induction first generalizing state with
  | nil => rfl
  | cons move rest ih =>
      rw [List.cons_append, history, ih, List.foldl_cons, history, List.append_assoc]

theorem history_concat (state : State) (moves : List Move) (last : Move) :
    history perform observe state (moves ++ [last]) =
      history perform observe state moves ++ observe (moves.foldl perform state) last := by
  rw [history_append, history, history, List.append_nil]

variable {perform observe}

/--
Whatever a history tells has been shown by a move.  So to know what was the case at some
point of a history, one looks at the state in which that move was made.
-/
theorem split_history {state : State} {moves : List Move} {earlier later : List Note} {note : Note}
    (split : history perform observe state moves = earlier ++ note :: later) :
    ∃ first move rest before after, moves = first ++ move :: rest ∧
      observe (first.foldl perform state) move = before ++ note :: after ∧
      earlier = history perform observe state first ++ before := by
  induction moves generalizing state earlier with
  | nil => exact absurd split (by simp [history])
  | cons head tail ih =>
      rcases split_append split with ⟨between, shown, -⟩ | ⟨between, rfl, later_split⟩
      · exact ⟨[], head, tail, earlier, between, rfl, shown, rfl⟩
      · rcases ih later_split with ⟨first, move, rest, before, after, rfl, shown, rfl⟩
        exact ⟨head :: first, move, rest, before, after, rfl, shown,
          (List.append_assoc _ _ _).symm⟩

/--
What every move keeps, a run keeps.  The property may speak of the history so
far, and the moves may be restricted to some kind.
-/
theorem keeps {kind : Move → Prop} {holds : List Note → State → Prop}
    (kept : ∀ past state move, kind move → holds past state →
      holds (past ++ observe state move) (perform state move))
    {past : List Note} {state : State} (start : holds past state)
    {moves : List Move} (kinds : ∀ move ∈ moves, kind move) :
    holds (past ++ history perform observe state moves) (moves.foldl perform state) := by
  induction moves generalizing past state with
  | nil => simpa only [history, List.append_nil, List.foldl_nil] using start
  | cons move rest ih =>
      have first := kept past state move (kinds move List.mem_cons_self) start
      rw [history, ← List.append_assoc]
      exact ih first fun other later => kinds other (List.mem_cons_of_mem _ later)

end

end Run
end DeviceLink
