import DeviceLink.Proofs.Datum.Codec
import DeviceLink.Proofs.Datum.Number
import DeviceLink.Proofs.Json.Written

namespace DeviceLink
namespace Datum

/-!
Data in canonical form.  Their value texts are those that reading gives, so a list of
them comes back from the array that it is written as, and that array can stand inside a
frame: it holds no float and nests two levels deeper than the values do.
`structureLimit` is how deep such a value may be, so that the frame around it is still
read.  Floats have canonical texts as well, but printing a structure may change them,
and they are treated where that is the subject.
-/

open Json (Value)

/--
The deepest structure that a datum may embed.  Four levels more are what a text may have in
all.
-/
def structureLimit : Nat := 123

/--
A value text in the form that reading gives it: the digits of a signed word, any string, or
the compact text of a structure without floats.  Floats have such texts too, but are left
aside, since printing may change them.
-/
def Canonical (datum : Datum) : Prop :=
  match datum.type with
  | .int | .bool | .enum => ∃ word : Int64, datum.value = Decimal.integerString word.toInt
  | .text | .date => True
  | .struct | .array => ∃ value : Value, value.Ordered ∧ value.FloatFree ∧
      value.depth ≤ structureLimit ∧ datum.value = value.text
  | .float | .double | .invalid => False

/--
A canonical datum is written as a value that shows its text.  The value is the one that its
text stands for.
-/
theorem Canonical.encodeValue {datum : Datum} (canonical : datum.Canonical) :
    ∃ value, datum.encodeValue = .ok value ∧ textOfValue? datum.type value = some datum.value ∧
      value.Embeddable structureLimit := by
  rcases datum with ⟨key, type, text⟩
  cases type with
  | invalid | float | double => cases canonical
  | int | bool | enum =>
      rcases canonical with ⟨word, shown⟩
      dsimp only at shown ⊢
      subst shown
      refine ⟨_, encodeValue_word (by decide), ?_, ?_⟩
      · rw [textOfValue?_word (by decide), integerOfText_integerString, integerText?_ofInt64]
      · exact ⟨(Value.everywhere_single rfl).mpr rfl, (Value.everywhere_single rfl).mpr rfl,
          Nat.zero_le _⟩
  | text | date => exact ⟨.string text, rfl, rfl, Value.embeddable_string _ _⟩
  | struct | array =>
      rcases canonical with ⟨value, ordered, floatFree, within, shown⟩
      dsimp only at shown ⊢
      subst shown
      have shallow : value.depth ≤ Value.nestingLimit := Nat.le_trans within (by decide)
      have read : Value.ofText? value.text = some value :=
        (Value.ofText?_text_iff ordered).mpr ⟨shallow, floatFree.rereads⟩
      exact ⟨value, (encodeValue_structured rfl).mpr read, textOfValue?_structured rfl value,
        ordered, floatFree, within⟩

theorem Canonical.declared {datum : Datum} (canonical : datum.Canonical) :
    datum.type ≠ .invalid := by
  rcases datum with ⟨key, type, text⟩
  rintro ⟨⟩
  exact canonical

theorem Canonical.stable {datum : Datum} (canonical : datum.Canonical)
    (within : datum.WithinLimits) : datum.Stable := by
  rcases canonical.encodeValue with ⟨value, encoded, shown, -⟩
  exact stable_iff.mpr ⟨canonical.declared, within, value, encoded, shown⟩

/--
The element that a canonical datum is written as nests one level deeper.  That level is the
object around the value.
-/
theorem Canonical.embeddable {datum : Datum} {item : Value} (canonical : datum.Canonical)
    (written : datum.encodeItem = .ok item) : item.Embeddable (structureLimit + 1) := by
  rcases canonical.encodeValue with ⟨value, encoded, -, embeddable⟩
  rcases encodeItem_eq_ok_iff.mp written with ⟨_, same, rfl⟩
  rw [encoded] at same
  cases same
  have sorted : [identifierField, typeField, valueField].Pairwise (· < ·) := by decide
  refine Value.Embeddable.object sorted ?_
  refine List.forall_mem_cons.mpr ⟨Value.embeddable_string _ _, ?_⟩
  refine List.forall_mem_cons.mpr ⟨Value.embeddable_string _ _, ?_⟩
  exact List.forall_mem_singleton.mpr embeddable

/--
Canonical data come back from an array that can stand in a frame.  Keys, types and texts are
as they were, and in the same order.
-/
theorem exists_wire {data : List Datum} (canonical : ∀ datum ∈ data, datum.Canonical)
    (within : ∀ datum ∈ data, datum.WithinLimits) :
    ∃ wire, encode data = .ok wire ∧ decode wire = .ok data ∧
      wire.Embeddable (structureLimit + 2) := by
  have stable : ∀ datum ∈ data, datum.Stable := fun datum inside =>
    (canonical datum inside).stable (within datum inside)
  rcases decode_encode_iff.mpr stable with ⟨wire, written, read⟩
  rcases encode_eq_ok_iff.mp written with ⟨items, rfl, each⟩
  refine ⟨.array items, written, read, Value.Embeddable.array fun item inside => ?_⟩
  rcases Value.exists_of_forall₂ each inside with ⟨datum, there, itemWritten⟩
  exact (canonical datum there).embeddable itemWritten

end Datum
end DeviceLink
