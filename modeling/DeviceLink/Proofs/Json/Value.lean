import DeviceLink.Json.Value

namespace DeviceLink
namespace Json

/-!
Values and what is inside them.  The parts of a value are the value itself and the parts
of its items and members; a property of all parts is one of the value and of everything
that it holds.  `Ordered`, `FloatFree` and `Embeddable` are such properties, and
`Sorted` is about the names of members.  The depth of a value is compared with a limit
by comparing the depths of its parts with the next smaller one, which is how the readers
count.
-/

namespace Members

/-- In the order of the names, each name once.  Names are compared as strings. -/
def Sorted (members : Members) : Prop := (members.map Prod.fst).Pairwise (· < ·)

instance (members : Members) : Decidable members.Sorted :=
  inferInstanceAs (Decidable (List.Pairwise _ _))

theorem sorted_cons {entry : String × Value} {members : Members} :
    Sorted (entry :: members) ↔ (∀ other ∈ members, entry.1 < other.1) ∧ members.Sorted := by
  simp [Sorted]

theorem sorted_append {members others : Members} :
    Sorted (members ++ others) ↔
      members.Sorted ∧ others.Sorted ∧
        ∀ first ∈ members, ∀ second ∈ others, first.1 < second.1 := by
  simp only [Sorted, List.map_append, List.pairwise_append, List.forall_mem_map]

/-- Names alone decide whether members are sorted.  Their values may be changed at will. -/
theorem sorted_congr {members others : Members}
    (names : members.map Prod.fst = others.map Prod.fst) : members.Sorted ↔ others.Sorted := by
  rw [Sorted, Sorted, names]

section

variable {name : String} {value : Value} {members : Members}

theorem insert_of_lt (last : ∀ member ∈ members, member.1 < name) :
    members.insert name value = members ++ [(name, value)] := by
  induction members with
  | nil => rfl
  | cons member members ih =>
      rcases member with ⟨other, current⟩
      rw [List.forall_mem_cons] at last
      have after : ¬ name < other := String.lt_asymm last.1
      have different : name ≠ other := by
        rintro rfl
        exact String.lt_irrefl _ last.1
      rw [insert, if_neg after, if_neg different, ih last.2, List.cons_append]

theorem foldl_insert {entries : List (String × Value)} (sorted : Sorted (members ++ entries)) :
    entries.foldl (fun members entry => insert entry.1 entry.2 members) members =
      members ++ entries := by
  induction entries generalizing members with
  | nil => exact (List.append_nil members).symm
  | cons entry entries ih =>
      have last : ∀ member ∈ members, member.1 < entry.1 := fun member inside =>
        (sorted_append.mp sorted).2.2 member inside entry List.mem_cons_self
      rw [List.foldl_cons, insert_of_lt last, ih, List.append_assoc, List.singleton_append]
      rwa [List.append_assoc, List.singleton_append]

/-- Members that are sorted already stay as they are.  Making an object of them changes nothing. -/
theorem Sorted.ofList {entries : List (String × Value)} (sorted : Sorted entries) :
    ofList entries = entries :=
  @foldl_insert [] entries sorted

theorem mem_insert {entry : String × Value} (inside : entry ∈ members.insert name value) :
    entry = (name, value) ∨ entry ∈ members := by
  induction members with
  | nil => exact Or.inl (List.mem_singleton.mp inside)
  | cons member members ih =>
      rcases member with ⟨other, current⟩
      rw [insert] at inside
      split at inside
      · exact List.mem_cons.mp inside
      split at inside
      · rcases List.mem_cons.mp inside with new | old
        · exact Or.inl new
        · exact Or.inr (List.mem_cons_of_mem _ old)
      · rcases List.mem_cons.mp inside with old | later
        · exact Or.inr (old ▸ List.mem_cons_self)
        · exact (ih later).imp_right (List.mem_cons_of_mem _)

theorem Sorted.insert (sorted : members.Sorted) : (members.insert name value).Sorted := by
  induction members with
  | nil => exact List.pairwise_singleton _ _
  | cons member members ih =>
      rcases member with ⟨other, current⟩
      rcases sorted_cons.mp sorted with ⟨first, rest⟩
      rw [Members.insert]
      split
      · next before =>
        refine sorted_cons.mpr ⟨?_, sorted⟩
        rw [List.forall_mem_cons]
        exact ⟨before, fun later inside => String.lt_trans before (first later inside)⟩
      split
      · next same =>
        cases same
        exact sorted_cons.mpr ⟨first, rest⟩
      · next after different =>
        have above : other < name :=
          Decidable.byContradiction fun below =>
            different (String.le_antisymm (String.not_lt.mp below) (String.not_lt.mp after))
        refine sorted_cons.mpr ⟨fun entry inside => ?_, ih rest⟩
        rcases mem_insert inside with rfl | old
        · exact above
        · exact first entry old

theorem get?_insert_self (members : Members) :
    (members.insert name value).get? name = some value := by
  induction members with
  | nil => simp [insert, get?]
  | cons member members ih =>
      rcases member with ⟨other, current⟩
      rw [insert]
      split
      · simp [get?]
      split
      · simp [get?]
      · next different =>
        rw [get?, List.find?_cons_of_neg (by simp [Ne.symm different])]
        exact ih

theorem get?_insert_of_ne {other : String} (different : name ≠ other) (members : Members) :
    (members.insert name value).get? other = members.get? other := by
  induction members with
  | nil => simp [insert, get?, different]
  | cons member members ih =>
      rcases member with ⟨first, current⟩
      rw [insert]
      split
      · rw [get?, List.find?_cons_of_neg (by simp [different])]
        rfl
      split
      · next same =>
        subst same
        simp [get?, different]
      · by_cases here : first = other
        · simp [get?, here]
        · rw [get?, List.find?_cons_of_neg (by simp [here]), get?,
            List.find?_cons_of_neg (by simp [here])]
          exact ih

theorem mem_insert_self (name : String) (value : Value) (members : Members) :
    (name, value) ∈ members.insert name value := by
  rcases Option.map_eq_some_iff.mp (get?_insert_self members) with ⟨member, found, given⟩
  have named := List.find?_some found
  rw [decide_eq_true_eq] at named
  exact Prod.ext (y := (name, value)) named given ▸ List.mem_of_find?_eq_some found

end

/--
Whatever the order of the entries, the members are sorted.  So objects that were read are
always sorted.
-/
theorem sorted_ofList (entries : List (String × Value)) : (ofList entries).Sorted :=
  List.foldlRecOn entries _ List.Pairwise.nil fun _ sorted _ _ => sorted.insert

theorem mem_ofList {entry : String × Value} {entries : List (String × Value)}
    (inside : entry ∈ ofList entries) : entry ∈ entries :=
  List.foldlRecOn entries _ (motive := fun members => ∀ entry ∈ members, entry ∈ entries)
    (List.forall_mem_nil _)
    (fun _ kept _ here _ inside => (mem_insert inside).elim (fun new => new ▸ here) (kept _))
    entry inside

end Members

namespace Value

/--
A property that passes from the items of an array and the members of an object to the whole.
It is the induction on values that all others use.
-/
@[elab_as_elim]
theorem induct {motive : Value → Prop} (null : motive .null) (bool : ∀ value, motive (.bool value))
    (number : ∀ value, motive (.number value)) (string : ∀ value, motive (.string value))
    (array : ∀ items, (∀ item ∈ items, motive item) → motive (.array items))
    (object : ∀ members, (∀ member ∈ members, motive member.2) → motive (.object members))
    (value : Value) : motive value :=
  @Value.rec motive (fun items => ∀ item ∈ items, motive item)
    (fun members => ∀ member ∈ members, motive member.2) (fun member => motive member.2)
    null bool number string array object
    (List.forall_mem_nil _) (fun _ _ first rest => List.forall_mem_cons.mpr ⟨first, rest⟩)
    (List.forall_mem_nil _) (fun _ _ first rest => List.forall_mem_cons.mpr ⟨first, rest⟩)
    (fun _ _ value => value) value

/-! Depth. -/

theorem depthItems_le_iff {items : List Value} {levels : Nat} :
    depth.depthItems items ≤ levels ↔ ∀ item ∈ items, item.depth ≤ levels := by
  induction items with
  | nil => simp [depth.depthItems]
  | cons item items ih => rw [depth.depthItems, Nat.max_le, ih, List.forall_mem_cons]

theorem depthMembers_le_iff {members : List (String × Value)} {levels : Nat} :
    depth.depthMembers members ≤ levels ↔ ∀ member ∈ members, member.2.depth ≤ levels := by
  induction members with
  | nil => simp [depth.depthMembers]
  | cons member members ih => rw [depth.depthMembers, Nat.max_le, ih, List.forall_mem_cons]

theorem depth_array_le_iff {items : List Value} {levels : Nat} :
    (array items).depth ≤ levels + 1 ↔ ∀ item ∈ items, item.depth ≤ levels := by
  rw [depth, Nat.add_comm, Nat.add_le_add_iff_right, depthItems_le_iff]

theorem depth_object_le_iff {members : List (String × Value)} {levels : Nat} :
    (object members).depth ≤ levels + 1 ↔ ∀ member ∈ members, member.2.depth ≤ levels := by
  rw [depth, Nat.add_comm, Nat.add_le_add_iff_right, depthMembers_le_iff]

/-! Parts. -/

/-- A value and everything inside it.  They are listed from the outside to the inside. -/
def parts : Value → List Value
  | .array items => .array items :: partsOfItems items
  | .object members => .object members :: partsOfMembers members
  | value => [value]
where
  partsOfItems : List Value → List Value
    | [] => []
    | item :: rest => item.parts ++ partsOfItems rest
  partsOfMembers : List (String × Value) → List Value
    | [] => []
    | (_, value) :: rest => value.parts ++ partsOfMembers rest

theorem mem_partsOfItems {part : Value} {items : List Value} :
    part ∈ parts.partsOfItems items ↔ ∃ item ∈ items, part ∈ item.parts := by
  induction items with
  | nil => simp [parts.partsOfItems]
  | cons item items ih => simp [parts.partsOfItems, ih]

theorem mem_partsOfMembers {part : Value} {members : List (String × Value)} :
    part ∈ parts.partsOfMembers members ↔ ∃ member ∈ members, part ∈ member.2.parts := by
  induction members with
  | nil => simp [parts.partsOfMembers]
  | cons member members ih => simp [parts.partsOfMembers, ih]

@[simp] theorem mem_parts_array {part : Value} {items : List Value} :
    part ∈ (array items).parts ↔ part = .array items ∨ ∃ item ∈ items, part ∈ item.parts := by
  rw [parts, List.mem_cons, mem_partsOfItems]

@[simp] theorem mem_parts_object {part : Value} {members : List (String × Value)} :
    part ∈ (object members).parts ↔
      part = .object members ∨ ∃ member ∈ members, part ∈ member.2.parts := by
  rw [parts, List.mem_cons, mem_partsOfMembers]

/-- A property of a value and of everything inside it.  It can be decided if the property can. -/
def Everywhere (property : Value → Prop) (value : Value) : Prop :=
  ∀ part ∈ value.parts, property part

instance (property : Value → Prop) [DecidablePred property] (value : Value) :
    Decidable (value.Everywhere property) :=
  inferInstanceAs (Decidable (∀ part ∈ value.parts, property part))

section

variable {property : Value → Prop}

theorem everywhere_single {value : Value} (alone : value.parts = [value]) :
    value.Everywhere property ↔ property value := by
  rw [Everywhere, alone, List.forall_mem_singleton]

theorem everywhere_array {items : List Value} :
    (array items).Everywhere property ↔
      property (.array items) ∧ ∀ item ∈ items, item.Everywhere property := by
  simp only [Everywhere, mem_parts_array, forall_eq_or_imp]
  exact and_congr_right fun _ =>
    ⟨fun all item here part inside => all part ⟨item, here, inside⟩,
      fun all part found => all _ found.choose_spec.1 part found.choose_spec.2⟩

theorem everywhere_object {members : List (String × Value)} :
    (object members).Everywhere property ↔
      property (.object members) ∧ ∀ member ∈ members, member.2.Everywhere property := by
  simp only [Everywhere, mem_parts_object, forall_eq_or_imp]
  exact and_congr_right fun _ =>
    ⟨fun all member here part inside => all part ⟨member, here, inside⟩,
      fun all part found => all _ found.choose_spec.1 part found.choose_spec.2⟩

end

/--
An object lists its members in the order of their names, each name once.  Other values have
nothing to list.
-/
def isOrdered : Value → Bool
  | .object members => Members.Sorted members
  | _ => true

/-- A binary64 number.  An integer is none, even if binary64 has it. -/
def isFloat : Value → Bool
  | .number (.float _) => true
  | _ => false

/--
Every object inside lists its members in the order of their names, each name once.  Values
that were read or made by `insert` are like that.
-/
def Ordered (value : Value) : Prop := value.Everywhere fun part => part.isOrdered = true

instance (value : Value) : Decidable value.Ordered :=
  inferInstanceAs (Decidable (value.Everywhere _))

/-- No number inside is a binary64 number.  For such values reading and writing are exact. -/
def FloatFree (value : Value) : Prop := value.Everywhere fun part => part.isFloat = false

instance (value : Value) : Decidable value.FloatFree :=
  inferInstanceAs (Decidable (value.Everywhere _))

theorem ordered_array {items : List Value} :
    (array items).Ordered ↔ ∀ item ∈ items, item.Ordered :=
  everywhere_array.trans (and_iff_right rfl)

theorem ordered_object {members : List (String × Value)} :
    (object members).Ordered ↔ Members.Sorted members ∧ ∀ member ∈ members, member.2.Ordered :=
  everywhere_object.trans (and_congr_left' decide_eq_true_iff)

theorem floatFree_array {items : List Value} :
    (array items).FloatFree ↔ ∀ item ∈ items, item.FloatFree :=
  everywhere_array.trans (and_iff_right rfl)

theorem floatFree_object {members : List (String × Value)} :
    (object members).FloatFree ↔ ∀ member ∈ members, member.2.FloatFree :=
  everywhere_object.trans (and_iff_right rfl)

/--
A value with its members in order, without floats, and of a limited depth.  It can stand
inside another one without harm.
-/
structure Embeddable (levels : Nat) (value : Value) : Prop where
  ordered : value.Ordered
  floatFree : value.FloatFree
  depth_le : value.depth ≤ levels

theorem embeddable_string (levels : Nat) (s : String) : Embeddable levels (string s) where
  ordered := (everywhere_single rfl).mpr rfl
  floatFree := (everywhere_single rfl).mpr rfl
  depth_le := Nat.zero_le _

theorem Embeddable.array {levels : Nat} {items : List Value}
    (each : ∀ item ∈ items, Embeddable levels item) : Embeddable (levels + 1) (.array items) where
  ordered := ordered_array.mpr fun item inside => (each item inside).ordered
  floatFree := floatFree_array.mpr fun item inside => (each item inside).floatFree
  depth_le := depth_array_le_iff.mpr fun item inside => (each item inside).depth_le

theorem Embeddable.object {levels : Nat} {members : Members} (sorted : members.Sorted)
    (each : ∀ member ∈ members, Embeddable levels member.2) :
    Embeddable (levels + 1) (.object members) where
  ordered := ordered_object.mpr ⟨sorted, fun member inside => (each member inside).ordered⟩
  floatFree := floatFree_object.mpr fun member inside => (each member inside).floatFree
  depth_le := depth_object_le_iff.mpr fun member inside => (each member inside).depth_le

/--
A member more, in its place, leaves an object as deep as its members allow.  The levels
count from the object.
-/
theorem Embeddable.insert {levels : Nat} {value : Value} {members : Members} (name : String)
    (sorted : members.Sorted) (each : ∀ member ∈ members, Embeddable levels member.2)
    (embeddable : Embeddable levels value) :
    (members.insert name value).Sorted ∧
      ∀ member ∈ members.insert name value, Embeddable levels member.2 := by
  refine ⟨sorted.insert, fun member inside => ?_⟩
  rcases Members.mem_insert inside with rfl | old
  · exact embeddable
  · exact each member old

/--
An object with one more member is as deep as that member allows.  It may replace one that
was deeper.
-/
theorem depth_insert_le_iff {members : Members} {name : String} {value : Value} {levels : Nat}
    (shallow : ∀ member ∈ members, member.2.depth ≤ levels) :
    (object (members.insert name value)).depth ≤ levels + 1 ↔ value.depth ≤ levels := by
  rw [depth_object_le_iff]
  constructor
  · exact fun each => each _ (Members.mem_insert_self name value members)
  · intro within member inside
    rcases Members.mem_insert inside with rfl | old
    · exact within
    · exact shallow member old

theorem Ordered.insert {members : Members} {value : Value} (ordered : (object members).Ordered)
    (inner : value.Ordered) (name : String) : (object (members.insert name value)).Ordered := by
  rw [ordered_object] at ordered ⊢
  refine ⟨ordered.1.insert, fun member inside => ?_⟩
  rcases Members.mem_insert inside with rfl | old
  · exact inner
  · exact ordered.2 member old

end Value
end Json
end DeviceLink
