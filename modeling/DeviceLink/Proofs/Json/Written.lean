import DeviceLink.Proofs.Json.Document
import DeviceLink.Proofs.Json.Number
import DeviceLink.Proofs.Json.Value

namespace DeviceLink
namespace Json
namespace Value

/-!
The document that a value is written as, and what is read from it.  Different values are
written differently, and a value is read back exactly if it nests within the limit and
every number inside it is read back; integers always are.  `document` is what the
printer spells, and `ReadsAs` is what the reader makes of it.  Members come back in the
order of their names, which is the order in which a value has them, so nothing is moved
on the way.
-/

/-- The document that the text of a value spells.  It keeps the order of the members. -/
def document : Value → Document
  | .null => .null
  | .bool value => .bool value
  | .number value => .numeral value.numeral
  | .string value => .quoted (Quoted.pieces value)
  | .array items => .array (documentItems items)
  | .object members => .object (documentMembers members)
where
  documentItems : List Value → List Document
    | [] => []
    | item :: rest => item.document :: documentItems rest
  documentMembers : List (String × Value) → List (List Quoted.Piece × Document)
    | [] => []
    | (name, value) :: rest => (Quoted.pieces name, value.document) :: documentMembers rest

/-- The written member of an object.  Its name is in quotes and escaped. -/
def documentMember (member : String × Value) : List Quoted.Piece × Document :=
  (Quoted.pieces member.1, member.2.document)

theorem documentItems_eq (items : List Value) :
    document.documentItems items = items.map document := by
  induction items with
  | nil => rfl
  | cons item items ih => rw [document.documentItems, ih, List.map_cons]

theorem documentMembers_eq (members : List (String × Value)) :
    document.documentMembers members = members.map documentMember := by
  induction members with
  | nil => rfl
  | cons member members ih =>
      rw [document.documentMembers, ih, List.map_cons, documentMember]

theorem renderItems_eq (items : List Value) : render.renderItems items = items.map render := by
  induction items with
  | nil => rfl
  | cons item items ih => rw [render.renderItems, ih, List.map_cons]

theorem renderMembers_eq (members : List (String × Value)) :
    render.renderMembers members =
      members.map fun member => memberText member.1 member.2.render := by
  induction members with
  | nil => rfl
  | cons member members ih => rw [render.renderMembers, ih, List.map_cons]

theorem spells_render (value : Value) : Spells value.render value.document := by
  induction value using induct with
  | null => exact spells_null
  | bool value => exact spells_bool value
  | number value =>
      rw [render, document, ← Number.text_numeral]
      exact spells_numeral (Number.proper_numeral value)
  | string value => exact spells_quoted value
  | array items ih =>
      rw [render, document, renderItems_eq, documentItems_eq]
      refine Spells.array ?_
      rw [List.forall₂_map_left_iff, List.forall₂_map_right_iff, List.forall₂_same]
      exact ih
  | object members ih =>
      rw [render, document, renderMembers_eq, documentMembers_eq]
      refine Spells.object ?_
      rw [List.forall₂_map_left_iff, List.forall₂_map_right_iff, List.forall₂_same]
      exact fun member inside => (ih member inside).member member.1

/--
Reading a text is reading the document that it spells.  The limit on the depth is that of
texts.
-/
theorem ofText?_of_spells {text : List Char} {document : Document}
    (spells : Spells text document) :
    ofText? (String.ofList text) = ofDocument? nestingLimit document := by
  rw [ofText?, spells.ofText?, Option.bind_some]

theorem ofText?_text (value : Value) :
    ofText? value.text = ofDocument? nestingLimit value.document :=
  ofText?_of_spells (spells_render value)

/-! Different values are written differently. -/

/--
A list is known from its images if each of its elements is.  It serves arrays and objects
alike.
-/
theorem eq_of_map_eq {α β : Type} {f : α → β} {first second : List α}
    (known : ∀ a ∈ first, ∀ b, f a = f b → a = b) (same : first.map f = second.map f) :
    first = second := by
  induction first generalizing second with
  | nil => exact (List.map_eq_nil_iff.mp same.symm).symm
  | cons a first ih =>
      rcases List.map_eq_cons_iff.mp same.symm with ⟨b, others, rfl, head, tail⟩
      rw [List.forall_mem_cons] at known
      rw [known.1 b head.symm, ih known.2 tail.symm]

theorem document_injective {first second : Value} (same : first.document = second.document) :
    first = second := by
  induction first using induct generalizing second with
  | null => cases second <;> simp only [document, reduceCtorEq] at same ⊢
  | bool value =>
      cases second <;> simp only [document, Document.bool.injEq, reduceCtorEq] at same ⊢
      rw [same]
  | number value =>
      cases second <;> simp only [document, Document.numeral.injEq, reduceCtorEq] at same ⊢
      rw [Number.numeral_injective same]
  | string value =>
      cases second <;> simp only [document, Document.quoted.injEq, reduceCtorEq] at same ⊢
      rw [Quoted.pieces_injective same]
  | array items ih =>
      cases second <;> simp only [document, Document.array.injEq, reduceCtorEq] at same ⊢
      rw [documentItems_eq, documentItems_eq] at same
      rw [eq_of_map_eq (fun item inside other => ih item inside) same]
  | object members ih =>
      cases second <;> simp only [document, Document.object.injEq, reduceCtorEq] at same ⊢
      rw [documentMembers_eq, documentMembers_eq] at same
      have known : ∀ member ∈ members, ∀ other,
          documentMember member = documentMember other → member = other := by
        intro member inside other equal
        rcases Prod.mk.inj equal with ⟨name, value⟩
        exact Prod.ext (Quoted.pieces_injective name) (ih member inside value)
      rw [eq_of_map_eq known same]

/-- Different values have different texts.  So a text that is compared stands for the value. -/
theorem text_injective {first second : Value} (same : first.text = second.text) :
    first = second := by
  have read : some first.document = some second.document := by
    rw [← (spells_render first).ofText?, ← (spells_render second).ofText?]
    exact congrArg Document.ofText? same
  exact document_injective (Option.some.inj read)

/-! Reading documents. -/

theorem ofItems?_eq_some_iff {levels : Nat} {items : List Document} {values : List Value} :
    ofItems? levels items = some values ↔
      List.Forall₂ (fun item value => ofDocument? levels item = some value) items values := by
  induction items generalizing values with
  | nil =>
      rw [ofItems?, List.forall₂_nil_left_iff, Option.some.injEq, eq_comm]
  | cons item items ih =>
      rw [ofItems?, List.forall₂_cons_left_iff]
      constructor
      · intro read
        split at read
        · next value values first rest =>
          cases read
          exact ⟨value, values, first, ih.mp rest, rfl⟩
        · cases read
      · rintro ⟨value, values, first, rest, rfl⟩
        simp only [first, ih.mpr rest]

/-- Reading one member of an object.  Name and value have to be readable. -/
def ReadsAs (levels : Nat) (member : List Quoted.Piece × Document) (entry : String × Value) :
    Prop :=
  Quoted.string? member.1 = some entry.1 ∧ ofDocument? levels member.2 = some entry.2

theorem ofMembers?_eq_some_iff {levels : Nat} {members : List (List Quoted.Piece × Document)}
    {entries : List (String × Value)} :
    ofMembers? levels members = some entries ↔ List.Forall₂ (ReadsAs levels) members entries := by
  induction members generalizing entries with
  | nil =>
      rw [ofMembers?, List.forall₂_nil_left_iff, Option.some.injEq, eq_comm]
  | cons member members ih =>
      rcases member with ⟨pieces, item⟩
      rw [ofMembers?, List.forall₂_cons_left_iff]
      constructor
      · intro read
        split at read
        · next name value entries key first rest =>
          cases read
          exact ⟨(name, value), entries, ⟨key, first⟩, ih.mp rest, rfl⟩
        · cases read
      · rintro ⟨⟨name, value⟩, entries, ⟨key, first⟩, rest, rfl⟩
        dsimp only at key first
        simp only [key, first, ih.mpr rest]

/-- Each result of a list has something that it comes from.  It stands at the same place. -/
theorem exists_of_forall₂ {α β : Type} {relation : α → β → Prop} {sources : List α}
    {results : List β} (each : List.Forall₂ relation sources results) {result : β}
    (inside : result ∈ results) : ∃ source ∈ sources, relation source result := by
  induction each with
  | nil => cases inside
  | cons first _ ih =>
      cases inside with
      | head => exact ⟨_, List.mem_cons_self, first⟩
      | tail _ later =>
          rcases ih later with ⟨source, there, related⟩
          exact ⟨source, List.mem_cons_of_mem _ there, related⟩

/--
What is read nests within the limit, and its members are in order.  Whoever gets a value
from outside may rely on that.
-/
theorem sound_ofDocument? {levels : Nat} {document : Document} {value : Value}
    (read : ofDocument? levels document = some value) : value.Ordered ∧ value.depth ≤ levels := by
  induction levels using Nat.strongRecOn generalizing document value with
  | ind levels ih =>
    cases document with
    | null =>
        cases read
        exact ⟨(everywhere_single rfl).mpr rfl, Nat.zero_le _⟩
    | bool value =>
        cases read
        exact ⟨(everywhere_single rfl).mpr rfl, Nat.zero_le _⟩
    | numeral literal =>
        rcases Option.map_eq_some_iff.mp read with ⟨number, -, rfl⟩
        exact ⟨(everywhere_single rfl).mpr rfl, Nat.zero_le _⟩
    | quoted pieces =>
        rcases Option.map_eq_some_iff.mp read with ⟨s, -, rfl⟩
        exact ⟨(everywhere_single rfl).mpr rfl, Nat.zero_le _⟩
    | array items =>
        cases levels with
        | zero => cases read
        | succ inner =>
            rcases Option.map_eq_some_iff.mp read with ⟨values, each, rfl⟩
            rw [ofItems?_eq_some_iff] at each
            rw [ordered_array, depth_array_le_iff, ← forall₂_and]
            intro value inside
            rcases exists_of_forall₂ each inside with ⟨item, -, found⟩
            exact ih inner (Nat.lt_succ_self _) found
    | object members =>
        cases levels with
        | zero => cases read
        | succ inner =>
            rcases Option.map_eq_some_iff.mp read with ⟨entries, each, rfl⟩
            rw [ofMembers?_eq_some_iff] at each
            rw [ordered_object, depth_object_le_iff, and_assoc, ← forall₂_and]
            refine ⟨Members.sorted_ofList entries, fun entry inside => ?_⟩
            rcases exists_of_forall₂ each (Members.mem_ofList inside) with ⟨member, -, found⟩
            exact ih inner (Nat.lt_succ_self _) found.2

theorem sound_ofText? {text : String} {value : Value} (read : ofText? text = some value) :
    value.Ordered ∧ value.depth ≤ nestingLimit := by
  rcases Option.bind_eq_some_iff.mp read with ⟨document, -, found⟩
  exact sound_ofDocument? found

/--
A value that nests deeper than the limit is not read at all.  Nothing is cut off to make it
fit.
-/
theorem depth_le_of_ofDocument? {levels : Nat} {value found : Value}
    (read : ofDocument? levels value.document = some found) : value.depth ≤ levels := by
  induction value using induct generalizing levels found with
  | null => exact Nat.zero_le _
  | bool value => exact Nat.zero_le _
  | number value => exact Nat.zero_le _
  | string value => exact Nat.zero_le _
  | array items ih =>
      cases levels with
      | zero => cases read
      | succ inner =>
          rcases Option.map_eq_some_iff.mp read with ⟨values, each, -⟩
          rw [documentItems_eq, ofItems?_eq_some_iff, List.forall₂_map_left_iff] at each
          refine depth_array_le_iff.mpr fun item inside => ?_
          rcases exists_of_forall₂ each.flip inside with ⟨value, -, found⟩
          exact ih item inside found
  | object members ih =>
      cases levels with
      | zero => cases read
      | succ inner =>
          rcases Option.map_eq_some_iff.mp read with ⟨entries, each, -⟩
          rw [documentMembers_eq, ofMembers?_eq_some_iff, List.forall₂_map_left_iff] at each
          refine depth_object_le_iff.mpr fun member inside => ?_
          rcases exists_of_forall₂ each.flip inside with ⟨entry, -, found⟩
          exact ih member inside found.2

/-! Reading a written value. -/

/--
A number is read back from its own text; nothing is asked of other values.  Some floats are
not.
-/
def IsReread (value : Value) : Prop :=
  match value with
  | .number _ => ofText? value.text = some value
  | _ => True

/-- Every number inside is read back from its own text.  It can be checked for a given value. -/
def Rereads (value : Value) : Prop := value.Everywhere IsReread

theorem isReread_number_iff {value : Number} :
    IsReread (number value) ↔ Number.ofNumeral? value.numeral = some value := by
  rw [IsReread, ofText?_text, document, ofDocument?]
  simp only [Option.map_eq_some_iff, number.injEq, exists_eq_right]

theorem rereads_array {items : List Value} :
    (array items).Rereads ↔ ∀ item ∈ items, item.Rereads :=
  everywhere_array.trans (and_iff_right trivial)

theorem rereads_object {members : List (String × Value)} :
    (object members).Rereads ↔ ∀ member ∈ members, member.2.Rereads :=
  everywhere_object.trans (and_iff_right trivial)

/-- Integers are always read back.  So only floats can do harm. -/
theorem FloatFree.rereads {value : Value} (floatFree : value.FloatFree) : value.Rereads := by
  intro part inside
  cases part with
  | number number =>
      cases number with
      | integer value low high =>
          exact isReread_number_iff.mpr (Number.ofNumeral?_integer low high)
      | float x => cases floatFree _ inside
  | _ => trivial

/-- Names are read back, whatever becomes of the values.  They stay in their order. -/
theorem names_of_ofMembers? {levels : Nat} {members entries : List (String × Value)}
    (read : ofMembers? levels (members.map documentMember) = some entries) :
    entries.map Prod.fst = members.map Prod.fst := by
  rw [ofMembers?_eq_some_iff, List.forall₂_map_left_iff] at read
  have same : List.Forall₂ (fun member entry => member = entry)
      (members.map Prod.fst) (entries.map Prod.fst) := by
    rw [List.forall₂_map_left_iff, List.forall₂_map_right_iff]
    refine read.imp fun member entry found => ?_
    have key := found.1
    rw [documentMember, Quoted.string?_pieces] at key
    exact Option.some.inj key
  rw [List.forall₂_eq_eq_eq] at same
  exact same.symm

/--
A value whose members are in order is read back exactly if it nests within the limit and its
numbers are read back.  Both conditions can be checked before it is written.
-/
theorem ofDocument?_document_iff {levels : Nat} {value : Value} (ordered : value.Ordered) :
    ofDocument? levels value.document = some value ↔ value.depth ≤ levels ∧ value.Rereads := by
  induction value using induct generalizing levels with
  | null => exact iff_of_true rfl ⟨Nat.zero_le _, (everywhere_single rfl).mpr trivial⟩
  | bool value => exact iff_of_true rfl ⟨Nat.zero_le _, (everywhere_single rfl).mpr trivial⟩
  | number value =>
      have flat : (number value).depth ≤ levels := Nat.zero_le _
      rw [Rereads, everywhere_single rfl, isReread_number_iff, and_iff_right flat, document,
        ofDocument?]
      simp only [Option.map_eq_some_iff, number.injEq, exists_eq_right]
  | string value =>
      refine iff_of_true ?_ ⟨Nat.zero_le _, (everywhere_single rfl).mpr trivial⟩
      rw [document, ofDocument?, Quoted.string?_pieces, Option.map_some]
  | array items ih =>
      rw [ordered_array] at ordered
      cases levels with
      | zero =>
          refine iff_of_false (fun read => by cases read) fun within => ?_
          rw [depth] at within
          omega
      | succ inner =>
          rw [depth_array_le_iff, rereads_array, ← forall₂_and, document, documentItems_eq,
            ofDocument?]
          simp only [Option.map_eq_some_iff, array.injEq, exists_eq_right]
          rw [ofItems?_eq_some_iff, List.forall₂_map_left_iff, List.forall₂_same]
          exact forall₂_congr fun item inside => ih item inside (ordered item inside)
  | object members ih =>
      rw [ordered_object] at ordered
      cases levels with
      | zero =>
          refine iff_of_false (fun read => by cases read) fun within => ?_
          rw [depth] at within
          omega
      | succ inner =>
          have each : ofMembers? inner (members.map documentMember) = some members ↔
              ∀ member ∈ members, member.2.depth ≤ inner ∧ member.2.Rereads := by
            rw [ofMembers?_eq_some_iff, List.forall₂_map_left_iff, List.forall₂_same]
            refine forall₂_congr fun member inside => ?_
            rw [ReadsAs, documentMember, Quoted.string?_pieces, and_iff_right rfl]
            exact ih member inside (ordered.2 member inside)
          rw [depth_object_le_iff, rereads_object, ← forall₂_and, ← each, document,
            documentMembers_eq, ofDocument?]
          simp only [Option.map_eq_some_iff, object.injEq]
          constructor
          · rintro ⟨entries, read, listed⟩
            have sorted := (Members.sorted_congr (names_of_ofMembers? read)).mpr ordered.1
            rwa [← sorted.ofList, listed] at read
          · intro read
            exact ⟨members, read, ordered.1.ofList⟩

theorem ofText?_text_iff {value : Value} (ordered : value.Ordered) :
    ofText? value.text = some value ↔ value.depth ≤ nestingLimit ∧ value.Rereads := by
  rw [ofText?_text, ofDocument?_document_iff ordered]

end Value
end Json
end DeviceLink
