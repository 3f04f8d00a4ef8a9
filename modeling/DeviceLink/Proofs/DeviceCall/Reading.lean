import DeviceLink.DeviceCall
import DeviceLink.Proofs.Datum.Codec

namespace DeviceLink
namespace DeviceCall

/-!
Which payloads are calls.  A call is read from one of two members of its payload, and
from all elements of that member or from none; what has been read keeps every limit that
device code relies on.  `Reads` says which payload is which call, without running the
reader, and `Sound` lists the limits.  A payload whose data are under the other of the
two names is read as the same call, as long as only one of the names is used.
-/

open Json (Value)

/--
Nothing in a call breaks what device code is promised.  Keys have a length, items have a
type, and values keep their limit.
-/
def Sound : DeviceCall → Prop
  | getProperties keys => ∀ key ∈ keys, 1 ≤ key.utf8ByteSize ∧ key.utf8ByteSize ≤ 64
  | setProperties items => ∀ item ∈ items, item.type ∈ DataType.declared ∧
      (1 ≤ item.key.utf8ByteSize ∧ item.key.utf8ByteSize ≤ 64) ∧ item.value.utf8ByteSize ≤ 2048
  | callService service inputs => service ≠ "" ∧ ∀ input ∈ inputs, input.limitFault? = none

/--
An element that can stand among the data of a call.  It depends on the method whether an
element may be a bare key.
-/
def Acceptable (method : Method) (element : Value) : Prop :=
  ∃ datum, Datum.Carries element datum ∧ (method = .setProperty → datum.type ≠ .invalid)

/--
What a payload has to be for a call to be read from it.  There is one case for each method,
and for services one without data.
-/
inductive Reads (payload : Value) : Method → DeviceCall → Prop
  | get {elements : List Value} {items : List Datum}
      (given : data? .getProperty payload = some (.array elements))
      (each : List.Forall₂ Datum.Carries elements items) :
      Reads payload .getProperty (.getProperties (items.map Datum.key))
  | set {elements : List Value} {items : List Datum}
      (given : data? .setProperty payload = some (.array elements))
      (each : List.Forall₂ Datum.Carries elements items)
      (declared : ∀ item ∈ items, item.type ≠ .invalid) :
      Reads payload .setProperty (.setProperties items)
  | service {service : String} {elements : List Value} {inputs : List Datum}
      (identified : payload.get? Method.identifierField = some (.string service))
      (named : service ≠ "") (given : data? .callService payload = some (.array elements))
      (each : List.Forall₂ Datum.Carries elements inputs) :
      Reads payload .callService (.callService service inputs)
  | bare {service : String}
      (identified : payload.get? Method.identifierField = some (.string service))
      (named : service ≠ "") (absent : data? .callService payload = none) :
      Reads payload .callService (.callService service [])

section

variable {payload : Value} {method : Method} {call : DeviceCall}

theorem readData_eq_ok_iff {data : Value} {items : List Datum} :
    readData data = .ok items ↔
      ∃ elements, data = .array elements ∧ List.Forall₂ Datum.Carries elements items := by
  rw [← Datum.decode_eq_ok_iff, readData]
  cases Datum.decode data with
  | ok read => simp only [Except.ok.injEq]
  | error fault => exact ⟨nofun, nofun⟩

theorem requiredData_eq_ok_iff {items : List Datum} :
    requiredData method payload = .ok items ↔
      ∃ elements, data? method payload = some (.array elements) ∧
        List.Forall₂ Datum.Carries elements items := by
  rw [requiredData]
  cases data? method payload with
  | none => exact ⟨nofun, nofun⟩
  | some data => simp only [readData_eq_ok_iff, Option.some.injEq]

theorem readGet_eq_ok_iff : readGet payload = .ok call ↔ Reads payload .getProperty call := by
  rw [readGet]
  constructor
  · intro read
    split at read
    · next items required =>
      cases read
      rcases requiredData_eq_ok_iff.mp required with ⟨elements, given, each⟩
      exact .get given each
    · cases read
  · intro reads
    cases reads with
    | get given each => simp only [requiredData_eq_ok_iff.mpr ⟨_, given, each⟩]

theorem find?_invalid_eq_none_iff {items : List Datum} :
    (items.find? fun item => item.type = .invalid) = none ↔
      ∀ item ∈ items, item.type ≠ .invalid := by
  simp only [List.find?_eq_none, decide_eq_true_eq, ne_eq]

theorem readSet_eq_ok_iff : readSet payload = .ok call ↔ Reads payload .setProperty call := by
  rw [readSet]
  constructor
  · intro read
    split at read
    · cases read
    next items required =>
    split at read
    · cases read
    next typed =>
    cases read
    rcases requiredData_eq_ok_iff.mp required with ⟨elements, given, each⟩
    exact .set given each (find?_invalid_eq_none_iff.mp typed)
  · intro reads
    cases reads with
    | set given each declared =>
        simp only [requiredData_eq_ok_iff.mpr ⟨_, given, each⟩,
          find?_invalid_eq_none_iff.mpr declared]

theorem serviceName?_eq_some_iff {service : String} :
    serviceName? payload = some service ↔
      payload.get? Method.identifierField = some (.string service) ∧ service ≠ "" := by
  rw [← Datum.bind_string?_eq_some_iff, serviceName?]
  cases (payload.get? Method.identifierField).bind Value.string? with
  | none => exact ⟨nofun, nofun⟩
  | some name =>
      dsimp only
      split
      · next empty =>
        rw [String.isEmpty_iff.mp empty]
        exact ⟨nofun, fun both => absurd (Option.some.inj both.1).symm both.2⟩
      · next filled =>
        constructor
        · intro same
          cases same
          exact ⟨rfl, fun empty => filled (String.isEmpty_iff.mpr empty)⟩
        · exact And.left

theorem readService_eq_ok_iff :
    readService payload = .ok call ↔ Reads payload .callService call := by
  rw [readService]
  constructor
  · intro read
    split at read
    · cases read
    next service name =>
    rcases serviceName?_eq_some_iff.mp name with ⟨identified, named⟩
    split at read
    · next absent =>
      cases read
      exact .bare identified named absent
    next data given =>
    split at read
    · next inputs decoded =>
      cases read
      rcases readData_eq_ok_iff.mp decoded with ⟨elements, rfl, each⟩
      exact .service identified named given each
    · cases read
  · intro reads
    cases reads with
    | service identified named given each =>
        simp only [serviceName?_eq_some_iff.mpr ⟨identified, named⟩, given,
          readData_eq_ok_iff.mpr ⟨_, rfl, each⟩]
    | bare identified named absent =>
        simp only [serviceName?_eq_some_iff.mpr ⟨identified, named⟩, absent]

theorem eq_name_of_ofName? {name : String} (known : Method.ofName? name = some method) :
    name = method.name := by
  unfold Method.ofName? at known
  have same := List.find?_some known
  exact (of_decide_eq_true same).symm

/--
A call is read exactly where there is one.  This is where the reader meets what is said
about payloads.
-/
theorem ofPayload_eq_ok_iff {name : String} :
    ofPayload name payload = .ok call ↔
      ∃ method, name = method.name ∧ Reads payload method call := by
  constructor
  · intro read
    unfold ofPayload at read
    split at read
    · next known => exact ⟨_, eq_name_of_ofName? known, readGet_eq_ok_iff.mp read⟩
    · next known => exact ⟨_, eq_name_of_ofName? known, readSet_eq_ok_iff.mp read⟩
    · next known => exact ⟨_, eq_name_of_ofName? known, readService_eq_ok_iff.mp read⟩
    · cases read
  · rintro ⟨method, rfl, reads⟩
    rw [ofPayload, Method.ofName?_name]
    cases method with
    | getProperty => exact readGet_eq_ok_iff.mpr reads
    | setProperty => exact readSet_eq_ok_iff.mpr reads
    | callService => exact readService_eq_ok_iff.mpr reads
    | onlineDevice | offlineDevice | reportProperty | reportEvent => cases reads

/-! ## What has been read -/

theorem one_le_utf8ByteSize {key : String} (filled : key ≠ "") : 1 ≤ key.utf8ByteSize := by
  refine Nat.one_le_iff_ne_zero.mpr fun nothing => filled ?_
  exact String.utf8ByteSize_eq_zero_iff.mp nothing

/-- Whatever an element carries is within the limits.  It would not have been read otherwise. -/
theorem withinLimits_of_carries {element : Value} {datum : Datum}
    (carries : Datum.Carries element datum) : datum.WithinLimits := by
  cases carries with
  | key sound =>
      rcases Datum.keyFault?_eq_none_iff.mp sound with ⟨filled, short⟩
      exact ⟨filled, short, Nat.zero_le _⟩
  | typed _ _ _ _ _ within => exact within

/--
What holds for each datum that an element can carry holds for all that have been read.  Data
are looked at one by one in this way.
-/
theorem forall_of_carries {elements : List Value} {items : List Datum}
    (each : List.Forall₂ Datum.Carries elements items) :
    ∀ item ∈ items, item.WithinLimits := by
  induction each with
  | nil => exact List.forall_mem_nil _
  | cons first _ ih => exact List.forall_mem_cons.mpr ⟨withinLimits_of_carries first, ih⟩

theorem Reads.sound (reads : Reads payload method call) : call.Sound := by
  cases reads with
  | get given each =>
      intro key inside
      rcases List.mem_map.mp inside with ⟨item, listed, rfl⟩
      have within := forall_of_carries each item listed
      exact ⟨one_le_utf8ByteSize within.1, within.2.1⟩
  | set given each declared =>
      intro item listed
      have within := forall_of_carries each item listed
      exact ⟨(DataType.mem_declared_iff _).mpr (declared item listed),
        ⟨one_le_utf8ByteSize within.1, within.2.1⟩, within.2.2⟩
  | service identified named given each =>
      refine ⟨named, fun input listed => ?_⟩
      exact (Datum.limitFault?_eq_none_iff input).mpr (forall_of_carries each input listed)
  | bare identified named absent => exact ⟨named, List.forall_mem_nil _⟩

/--
An element from which nothing is read spoils all of its list.  The same is so for one that a
method does not admit.
-/
theorem acceptable_of_forall {elements : List Value} {items : List Datum}
    (each : List.Forall₂ Datum.Carries elements items)
    (declared : method = .setProperty → ∀ item ∈ items, item.type ≠ .invalid) :
    ∀ element ∈ elements, Acceptable method element := by
  induction each with
  | nil => exact List.forall_mem_nil _
  | cons first _ ih =>
      refine List.forall_mem_cons.mpr ⟨⟨_, first, fun set => ?_⟩, ih fun set item listed => ?_⟩
      · exact declared set _ List.mem_cons_self
      · exact declared set item (List.mem_cons_of_mem _ listed)

/--
A call is read only if all elements of its data are acceptable.  That is what protects
device code from the others.
-/
theorem Reads.acceptable (reads : Reads payload method call) {elements : List Value}
    (given : data? method payload = some (.array elements)) :
    ∀ element ∈ elements, Acceptable method element := by
  cases reads with
  | get there each =>
      cases there.symm.trans given
      exact acceptable_of_forall each nofun
  | set there each declared =>
      cases there.symm.trans given
      exact acceptable_of_forall each fun _ => declared
  | service identified named there each =>
      cases there.symm.trans given
      exact acceptable_of_forall each nofun
  | bare identified named absent => cases absent.symm.trans given

/-! ## The two members that may hold the data -/

/--
One payload holds something under one name where another one holds it under another.  The
payloads agree everywhere else.
-/
structure Renamed (old new : String) (payload renamed : Value) : Prop where
  free : payload.get? new = none
  moved : renamed.get? new = payload.get? old
  gone : renamed.get? old = none
  others : ∀ name, name ≠ old → name ≠ new → renamed.get? name = payload.get? name

/--
A call depends on its data and on the name of its service.  Other members may be there and
do not matter.
-/
theorem ofPayload_congr {other : Value} (same : data? method other = data? method payload)
    (named : other.get? Method.identifierField = payload.get? Method.identifierField) :
    ofPayload method.name other = ofPayload method.name payload := by
  rw [ofPayload, ofPayload, Method.ofName?_name]
  cases method with
  | getProperty => simp only [readGet, requiredData, same]
  | setProperty => simp only [readSet, requiredData, same]
  | callService => simp only [readService, serviceName?, same, named]
  | onlineDevice | offlineDevice | reportProperty | reportEvent => rfl

/--
The two names are not used for anything else in a call.  So a member may move from one to
the other.
-/
theorem dataFields_apart (method : Method) {name : String}
    (used : name ∈ [Address.productKeyField, Address.deviceNameField, Method.identifierField]) :
    name ≠ method.dataFields.1 ∧ name ≠ method.dataFields.2 := by
  simp only [List.mem_cons, List.not_mem_nil, or_false] at used
  rcases used with rfl | rfl | rfl <;> cases method <;> decide

theorem data?_of_primary {data : Value}
    (given : payload.get? method.dataFields.1 = some data) :
    data? method payload = some data := by
  simp only [data?, given]

theorem data?_of_alternate (absent : payload.get? method.dataFields.1 = none) :
    data? method payload = payload.get? method.dataFields.2 := by
  simp only [data?, absent]

/--
It does not matter which of the two members the data stand in, if it is only one.  If both
are there, one of them goes before the other.
-/
theorem Renamed.data?_eq {old new : String} {renamed : Value}
    (moves : Renamed old new payload renamed)
    (pair : (old, new) = method.dataFields ∨ (new, old) = method.dataFields) :
    data? method renamed = data? method payload := by
  rcases moves with ⟨free, moved, gone, -⟩
  rcases pair with pair | pair
  · simp only [data?, ← pair, free, moved, gone]
    cases payload.get? old <;> rfl
  · simp only [data?, ← pair, free, moved, gone]
    cases payload.get? old <;> rfl

end

end DeviceCall
end DeviceLink
