import DeviceLink.Json.Record
import DeviceLink.Proofs.Json.Number
import Mathlib.Data.List.Forall2
import Mathlib.Data.List.Nodup

namespace DeviceLink

/-!
Records read from documents.  What is given under each name decides how a record is
read: a field is found if it is given once, and an object with every name readable is
read as its known members.  The readers of single fields are described by what the
documents spell.  `values` lists everything that a record gives under a name, so that a
field is missing, given once or repeated according to the length of that list.
Envelopes are records of five fields, and settings are records as well.
-/

namespace Fields

variable {δ : Type} {fields : Fields δ} {name : String}

/-- Everything that is given under a name.  There may be nothing, or more than one thing. -/
def values (fields : Fields δ) (name : String) : List δ :=
  (fields.filter fun field => field.1 = name).map Prod.snd

theorem get?_eq_head? (fields : Fields δ) (name : String) :
    fields.get? name = (fields.values name).head? := by
  rw [get?, values, List.head?_map, List.head?_filter]

/-- The fields whose names are among some others.  Their order is kept. -/
def known (names : List String) (fields : Fields δ) : Fields δ :=
  fields.filter fun field => names.contains field.1

theorem known_cons_of_mem {names : List String} (listed : names.contains name = true)
    (value : δ) (fields : Fields δ) :
    known names ((name, value) :: fields) = (name, value) :: known names fields :=
  List.filter_cons_of_pos listed

theorem known_cons_of_not_mem {names : List String} (unlisted : ¬ names.contains name = true)
    (value : δ) (fields : Fields δ) : known names ((name, value) :: fields) = known names fields :=
  List.filter_cons_of_neg unlisted

/-- Fields of other names do not matter.  They may be left out before one looks. -/
theorem values_known {names : List String} (listed : name ∈ names) (fields : Fields δ) :
    (known names fields).values name = fields.values name := by
  rw [values, values, known, List.filter_filter]
  congr 2
  funext field
  by_cases same : field.1 = name
  · simp [same, listed]
  · simp [same]

theorem length_values (fields : Fields δ) (name : String) :
    (fields.values name).length = (fields.map Prod.fst).count name := by
  rw [values, List.length_map, ← List.countP_eq_length_filter, List.count, List.countP_map]
  congr 1

theorem length_values_le_one (distinct : (fields.map Prod.fst).Nodup) (name : String) :
    (fields.values name).length ≤ 1 := by
  rw [length_values]
  exact List.nodup_iff_count_le_one.mp distinct name

/--
Names of a list that are given at most once are distinct.  Then there is one value to each
name.
-/
theorem nodup_of_values {names : List String} (known : ∀ field ∈ fields, field.1 ∈ names)
    (single : ∀ name ∈ names, (fields.values name).length ≤ 1) :
    (fields.map Prod.fst).Nodup := by
  rw [List.nodup_iff_count_le_one]
  intro name
  by_cases listed : name ∈ names
  · rw [← length_values]
    exact single name listed
  · have absent : name ∉ fields.map Prod.fst := by
      intro inside
      rcases List.mem_map.mp inside with ⟨field, there, rfl⟩
      exact listed (known field there)
    rw [List.count_eq_zero_of_not_mem absent]
    exact Nat.zero_le _

theorem names_ofItems (names : List String) (items : List δ) :
    ((ofItems names items).map Prod.fst).Sublist names := by
  induction names generalizing items with
  | nil => exact .slnil
  | cons name names ih =>
      cases items with
      | nil => exact List.nil_sublist _
      | cons item items => exact (ih items).cons_cons name

end Fields

namespace Json

namespace Record

/--
A member of an object with its name decoded.  A name whose escapes stand for nothing has no
decoding.
-/
def Names (member : List Quoted.Piece × Document) (field : String × Document) : Prop :=
  Quoted.string? member.1 = some field.1 ∧ field.2 = member.2

theorem names_unique {members : List (List Quoted.Piece × Document)} {record other : Record}
    (named : List.Forall₂ Names members record) (renamed : List.Forall₂ Names members other) :
    record = other := by
  induction named generalizing other with
  | nil => exact (List.forall₂_nil_left_iff.mp renamed).symm
  | @cons member field members record first _ ih =>
      rcases List.forall₂_cons_left_iff.mp renamed with ⟨again, others, second, rest, rfl⟩
      have name := Option.some.inj (first.1.symm.trans second.1)
      rw [Prod.ext name (first.2.trans second.2.symm), ih rest]

/--
The known members are taken, each at most once, if all names can be read.  There is no other
condition on an object.
-/
theorem ofMembers?_eq_some_iff {fields : List String}
    {members : List (List Quoted.Piece × Document)} {record : Record} :
    ofMembers? fields members = some record ↔
      ∃ all, List.Forall₂ Names members all ∧
        record = Fields.known fields all ∧ (record.map Prod.fst).Nodup := by
  induction members generalizing record with
  | nil =>
      rw [ofMembers?]
      constructor
      · rintro ⟨⟩
        exact ⟨[], .nil, rfl, .nil⟩
      · rintro ⟨_, ⟨⟩, rfl, -⟩
        rfl
  | cons member members ih =>
      rcases member with ⟨pieces, value⟩
      have fresh : ∀ (name : String) (found : Record),
          (found.any fun other => decide (other.1 = name)) = false ↔
            name ∉ found.map Prod.fst := by
        intro name found
        rw [List.any_eq_false, List.mem_map, not_exists]
        simp only [decide_eq_true_eq, not_and]
      rw [ofMembers?]
      constructor
      · intro read
        split at read
        · next name found named rest =>
          rcases ih.mp rest with ⟨all, each, rfl, distinct⟩
          refine ⟨(name, value) :: all, .cons ⟨named, rfl⟩ each, ?_⟩
          split at read
          · next known =>
            split at read
            · cases read
            · next unique =>
              cases read
              rw [Fields.known_cons_of_mem known, List.map_cons, List.nodup_cons]
              exact ⟨rfl, (fresh name _).mp (Bool.not_eq_true _ ▸ unique), distinct⟩
          · next unknown =>
            cases read
            rw [Fields.known_cons_of_not_mem unknown]
            exact ⟨rfl, distinct⟩
        · cases read
      · rintro ⟨all, each, rfl, distinct⟩
        cases each with
        | @cons _ field _ all first each =>
            rcases field with ⟨name, _⟩
            rcases first with ⟨named, rfl⟩
            dsimp only at named
            by_cases known : fields.contains name = true
            · rw [Fields.known_cons_of_mem known] at distinct ⊢
              rw [List.map_cons, List.nodup_cons] at distinct
              have unique := (fresh name _).mpr distinct.1
              simp only [named, ih.mpr ⟨all, each, rfl, distinct.2⟩, known, if_true, unique,
                Bool.false_eq_true, if_false]
            · rw [Fields.known_cons_of_not_mem known] at distinct ⊢
              simp only [named, ih.mpr ⟨all, each, rfl, distinct⟩, known, Bool.false_eq_true,
                if_false]

end Record

/-! What single fields hold. -/

namespace Document

/-- A string, as it reads when its escapes are decoded.  The document keeps the escapes. -/
def IsString (document : Document) (s : String) : Prop :=
  ∃ pieces, document = .quoted pieces ∧ Quoted.string? pieces = some s

/-- A literal of whole digits.  It stands for that integer. -/
def IsInteger (document : Document) (value : Int) : Prop :=
  ∃ literal, document = .numeral literal ∧ literal.IsInteger value

theorem string?_eq_some_iff {document : Document} {s : String} :
    document.string? = some s ↔ document.IsString s := by
  cases document <;> simp [string?, IsString]

theorem integer?_eq_some_iff {document : Document} {low high value : Int}
    (least : -0x8000000000000000 ≤ low) (most : high < 0x10000000000000000) :
    document.integer? low high = some value ↔
      document.IsInteger value ∧ low ≤ value ∧ value ≤ high := by
  constructor
  · intro read
    unfold integer? at read
    split at read
    · next literal =>
      split at read
      · next found _ _ number =>
        split at read
        · next within =>
          cases read
          exact ⟨⟨literal, rfl, Number.ofNumeral?_eq_integer_iff.mp number⟩, within⟩
        · cases read
      · cases read
    · cases read
  · rintro ⟨⟨literal, rfl, integer⟩, within⟩
    have number : Number.ofNumeral? literal =
        some (.integer value (by omega) (by omega)) := Number.ofNumeral?_eq_integer_iff.mpr integer
    simp only [integer?, number, within, and_self, if_true]

theorem uint32?_eq_some_iff {document : Document} {word : UInt32} :
    document.uint32? = some word ↔ document.IsInteger word.toNat := by
  have bound := word.toNat_lt
  rw [uint32?, Option.map_eq_some_iff]
  constructor
  · rintro ⟨value, read, rfl⟩
    rcases (integer?_eq_some_iff (by decide) (by decide)).mp read with ⟨integer, low, high⟩
    have same : ((UInt32.ofNat value.toNat).toNat : Int) = value := by
      have small : value.toNat < UInt32.size := by
        simp only [UInt32.size]
        omega
      rw [UInt32.toNat_ofNat_of_lt' small]
      omega
    rwa [same]
  · intro integer
    refine ⟨word.toNat, (integer?_eq_some_iff (by decide) (by decide)).mpr ⟨integer, ?_⟩, ?_⟩
    · omega
    · simp

theorem int32?_eq_some_iff {document : Document} {word : Int32} :
    document.int32? = some word ↔ document.IsInteger word.toInt := by
  have least := word.le_toInt
  have most := word.toInt_lt
  rw [int32?, Option.map_eq_some_iff]
  constructor
  · rintro ⟨value, read, rfl⟩
    rcases (integer?_eq_some_iff (by decide) (by decide)).mp read with ⟨integer, low, high⟩
    rwa [Int32.toInt_ofInt_of_le (by omega) (by omega)]
  · intro integer
    refine ⟨word.toInt, (integer?_eq_some_iff (by decide) (by decide)).mpr ⟨integer, ?_⟩, ?_⟩
    · omega
    · simp

end Document

/--
A field that may be left out, or be written as null, given at most once.  In the last case
it has a value, which is read.
-/
inductive Optional {α : Type} (reads : Document → α → Prop) : List Document → Option α → Prop
  | absent : Optional reads [] none
  | null : Optional reads [.null] none
  | given {document : Document} {a : α} (read : reads document a) :
      Optional reads [document] (some a)

theorem eq_nil_or_singleton {α : Type} {items : List α} (single : items.length ≤ 1) :
    items = [] ∨ ∃ item, items = [item] := by
  cases items with
  | nil => exact Or.inl rfl
  | cons item items =>
      cases List.eq_nil_of_length_eq_zero (Nat.le_zero.mp (Nat.le_of_succ_le_succ single))
      exact Or.inr ⟨item, rfl⟩

theorem Optional.length_le_one {α : Type} {reads : Document → α → Prop}
    {documents : List Document} {value : Option α} (optional : Optional reads documents value) :
    documents.length ≤ 1 := by
  cases optional with
  | absent => exact Nat.zero_le _
  | null => exact Nat.le_refl _
  | given => exact Nat.le_refl _

/--
A field given at most once is read as one that may be left out.  A field that is given twice
is not read at all.
-/
theorem withDefault?_nullable_iff {α : Type} {record : Record} {name : String}
    {read : Document → Option α} {reads : Document → α → Prop} {value : Option α}
    (single : (record.values name).length ≤ 1) (null : read .null = none)
    (sound : ∀ {document a}, read document = some a ↔ reads document a) :
    record.withDefault? name (Document.nullable? read) none = some value ↔
      Optional reads (record.values name) value := by
  rw [Fields.withDefault?, Fields.get?_eq_head?]
  generalize record.values name = documents at single
  constructor
  · intro found
    rcases eq_nil_or_singleton single with rfl | ⟨document, rfl⟩
    · cases found
      exact .absent
    · simp only [List.head?_cons] at found
      unfold Document.nullable? at found
      split at found
      · cases found
        exact .null
      · rcases Option.map_eq_some_iff.mp found with ⟨a, here, rfl⟩
        exact .given (sound.mp here)
  · intro optional
    cases optional with
    | absent => rfl
    | null => rfl
    | @given document a here =>
        have found := sound.mpr here
        simp only [List.head?_cons]
        unfold Document.nullable?
        split
        · rw [null] at found
          cases found
        · rw [found, Option.map_some]

end Json

end DeviceLink
