import DeviceLink.Proofs.Core.Emission

namespace DeviceLink

/-!
What may be wrong with a request before it is sent.  A request has a payload if its
address is complete, its event is named, its data are within the limits and its
structures are JSON texts; otherwise the first of these that it lacks is what is wrong
with it.  Nothing about the link comes into it.  `Faulty` has one constructor for each
fault, and the order of its cases is the order in which the checks are made.
`payload_cases` says that a request has a payload or is faulty, with the failure that
belongs to the fault.
-/

namespace Datum

open Json (Value)

/-- A structure whose text is none.  Other types have no such texts. -/
def Malformed (datum : Datum) : Prop :=
  datum.type.isStructured = true ∧ Value.ofText? datum.value = none

theorem encodeValue_of_malformed {datum : Datum} (malformed : datum.Malformed) :
    datum.encodeValue = .error (.malformedValue datum.key datum.type) := by
  rcases datum with ⟨key, type, text⟩
  rcases malformed with ⟨structured, unread⟩
  cases type <;> cases structured <;> simp only [encodeValue, unread]

theorem exists_encodeValue {datum : Datum} (sound : ¬ datum.Malformed) :
    ∃ value, datum.encodeValue = .ok value := by
  rcases datum with ⟨key, type, text⟩
  cases type with
  | int | bool | enum | float | double | text | date | invalid => exact ⟨_, rfl⟩
  | struct | array =>
      cases read : Value.ofText? text with
      | none => exact absurd ⟨rfl, read⟩ sound
      | some value => exact ⟨value, by simp only [encodeValue, read]⟩

/--
The first datum of a list that is malformed keeps the list from being written.  The error
names its key and type.
-/
inductive FirstMalformed : List Datum → CodecError → Prop
  | here {datum : Datum} (malformed : datum.Malformed) (data : List Datum) :
      FirstMalformed (datum :: data) (.malformedValue datum.key datum.type)
  | later {datum : Datum} (sound : ¬ datum.Malformed) {data : List Datum} {error : CodecError}
      (rest : FirstMalformed data error) : FirstMalformed (datum :: data) error

theorem encodeItems_of_firstMalformed {data : List Datum} {error : CodecError}
    (first : FirstMalformed data error) : encodeItems data = .error error := by
  induction first with
  | here malformed data =>
      simp only [encodeItems, encodeItem, encodeValue_of_malformed malformed]
  | later sound rest ih =>
      rcases exists_encodeValue sound with ⟨value, written⟩
      simp only [encodeItems, encodeItem, written, ih]

/--
A list is written unless one of its data is malformed.  There is no other reason for a
failure.
-/
theorem written_or_malformed (data : List Datum) :
    ((∀ datum ∈ data, ¬ datum.Malformed) ∧ ∃ items, encodeItems data = .ok items) ∨
      ∃ error, FirstMalformed data error := by
  induction data with
  | nil => exact .inl ⟨List.forall_mem_nil _, [], rfl⟩
  | cons datum data ih =>
      by_cases malformed : datum.Malformed
      · exact .inr ⟨_, .here malformed data⟩
      · rcases ih with ⟨all, items, rest⟩ | ⟨error, rest⟩
        · rcases exists_encodeValue malformed with ⟨value, written⟩
          refine .inl ⟨List.forall_mem_cons.mpr ⟨malformed, all⟩,
            itemOf datum.key datum.type value :: items, ?_⟩
          simp only [encodeItems, encodeItem, written, rest]
          rfl
        · exact .inr ⟨error, .later malformed rest⟩

/--
The first datum of a list that breaks a limit, and the limit that it breaks first.  Those
before it keep all limits.
-/
def FirstBeyond (data : List Datum) (fault : LimitFault) : Prop :=
  ∃ before datum after, data = before ++ datum :: after ∧ datum.limitFault? = some fault ∧
    ∀ other ∈ before, other.WithinLimits

theorem firstLimitFault?_eq_some_iff {data : List Datum} {fault : LimitFault} :
    firstLimitFault? data = some fault ↔ FirstBeyond data fault := by
  simp only [firstLimitFault?, List.findSome?_eq_some_iff, FirstBeyond, limitFault?_eq_none_iff]

theorem firstLimitFault?_eq_none_iff {data : List Datum} :
    firstLimitFault? data = none ↔ ∀ datum ∈ data, datum.WithinLimits := by
  simp only [firstLimitFault?, List.findSome?_eq_none_iff, limitFault?_eq_none_iff]

end Datum

namespace Request

variable {device : Address} {request : Request} {data : List Datum} {failure : Failure}

/-- An event has a name of at most 64 bytes.  Requests of other kinds have no name to check. -/
def Named : Request → Prop
  | event name _ => name ≠ "" ∧ name.utf8ByteSize ≤ 64
  | _ => True

/--
The first thing that is wrong with a request, in the order in which it is looked for.  Each
case says that everything before it is in order.
-/
inductive Faulty (device : Address) (request : Request) : Failure → Prop
  | address (incomplete : device.productKey = "" ∨ device.deviceName = "") :
      Faulty device request addressRequired
  | eventName (complete : device.isComplete = true) (unnamed : ¬ request.Named) :
      Faulty device request eventNameRequired
  | limits (complete : device.isComplete = true) (named : request.Named)
      {fault : Datum.LimitFault} (beyond : Datum.FirstBeyond request.data fault) :
      Faulty device request (.invalidParameter fault.message)
  | malformed (complete : device.isComplete = true) (named : request.Named)
      (within : ∀ datum ∈ request.data, datum.WithinLimits) {error : CodecError}
      (first : Datum.FirstMalformed request.data error) : Faulty device request (.codec error)

/-- A request that nothing is wrong with.  It can be sent as soon as there is a link. -/
structure Sound (device : Address) (request : Request) : Prop where
  complete : device.productKey ≠ "" ∧ device.deviceName ≠ ""
  named : request.Named
  within : ∀ datum ∈ request.data, datum.WithinLimits
  readable : ∀ datum ∈ request.data, ¬ datum.Malformed

theorem isComplete_iff (device : Address) :
    device.isComplete = true ↔ device.productKey ≠ "" ∧ device.deviceName ≠ "" := by
  simp [Address.isComplete]

theorem isEventName_iff (name : String) (data : List Datum) :
    isEventName name = true ↔ (event name data).Named := by
  simp only [isEventName, Bool.and_eq_true, Bool.not_eq_true', decide_eq_true_eq,
    Bool.eq_false_iff, ne_eq, String.isEmpty_iff]
  exact Iff.rfl

/-- Data are written if nothing is wrong with them.  Limits are looked at before texts. -/
theorem data_cases (data : List Datum) :
    (∃ fault, Datum.FirstBeyond data fault ∧
        encodeData data = .error (.invalidParameter fault.message)) ∨
      (∀ datum ∈ data, datum.WithinLimits) ∧
        ((∃ error, Datum.FirstMalformed data error ∧ encodeData data = .error (.codec error)) ∨
          (∀ datum ∈ data, ¬ datum.Malformed) ∧ ∃ wire, encodeData data = .ok wire) := by
  cases broken : Datum.firstLimitFault? data with
  | some fault =>
      refine .inl ⟨fault, Datum.firstLimitFault?_eq_some_iff.mp broken, ?_⟩
      simp only [encodeData, broken]
  | none =>
      refine .inr ⟨Datum.firstLimitFault?_eq_none_iff.mp broken, ?_⟩
      rcases Datum.written_or_malformed data with ⟨sound, items, written⟩ | ⟨error, first⟩
      · refine .inr ⟨sound, .array items, ?_⟩
        simp only [encodeData, broken, Datum.encode, written]
      · refine .inl ⟨error, first, ?_⟩
        simp only [encodeData, broken, Datum.encode, Datum.encodeItems_of_firstMalformed first]

/--
What is wrong with the data of a request is wrong with the request.  Address and name have
been found in order by then.
-/
theorem payload_of_data {assemble : Json.Value → Json.Members}
    (complete : device.isComplete = true) (named : request.Named)
    (payload_eq : request.payload device =
      match encodeData request.data with
      | .ok wire => .ok (assemble wire)
      | .error failure => .error failure) :
    (∃ failure, Faulty device request failure ∧ request.payload device = .error failure) ∨
      Sound device request ∧ ∃ payload, request.payload device = .ok payload := by
  rcases data_cases request.data with
    ⟨fault, beyond, failed⟩ | ⟨within, ⟨error, first, failed⟩ | ⟨readable, wire, written⟩⟩
  · rw [failed] at payload_eq
    exact .inl ⟨_, .limits complete named beyond, payload_eq⟩
  · rw [failed] at payload_eq
    exact .inl ⟨_, .malformed complete named within first, payload_eq⟩
  · rw [written] at payload_eq
    exact .inr ⟨⟨(isComplete_iff device).mp complete, named, within, readable⟩, _, payload_eq⟩

/--
Either something is wrong with a request, and that is why it has no payload, or it has one.
The two exclude each other.
-/
theorem payload_cases (device : Address) (request : Request) :
    (∃ failure, Faulty device request failure ∧ request.payload device = .error failure) ∨
      Sound device request ∧ ∃ payload, request.payload device = .ok payload := by
  by_cases complete : device.isComplete = true
  · cases request with
    | online | offline =>
        refine .inr ⟨⟨(isComplete_iff device).mp complete, trivial, List.forall_mem_nil _,
          List.forall_mem_nil _⟩, device.payload, ?_⟩
        simp only [payload, complete, Bool.not_true, Bool.false_eq_true, if_false]
    | properties data =>
        have assembled : (properties data).payload device =
            match encodeData data with
            | .ok wire => .ok (device.payload.insert Method.propertiesField wire)
            | .error failure => .error failure := by
          cases built : encodeData data <;>
            simp only [payload, complete, built, Bool.not_true, Bool.false_eq_true, if_false]
        exact payload_of_data complete trivial assembled
    | event name data =>
        by_cases named : isEventName name = true
        · have assembled : (event name data).payload device =
              match encodeData data with
              | .ok wire =>
                  .ok ((device.payload.insert Method.identifierField (.string name)).insert
                    Method.outputDataField wire)
              | .error failure => .error failure := by
            cases built : encodeData data <;>
              simp only [payload, complete, named, built, Bool.not_true, Bool.false_eq_true,
                if_false]
          exact payload_of_data complete ((isEventName_iff name data).mp named) assembled
        · refine .inl ⟨_, .eventName complete fun sound => named ?_, ?_⟩
          · exact (isEventName_iff name data).mpr sound
          · simp only [payload, complete, Bool.eq_false_iff.mpr named, Bool.not_true,
              Bool.not_false, Bool.false_eq_true, if_false, if_true]
  · refine .inl ⟨_, .address ?_, ?_⟩
    · by_contra given
      exact complete ((isComplete_iff device).mpr (not_or.mp given))
    · simp only [payload, Bool.eq_false_iff.mpr complete, Bool.not_false, if_true]

end Request
end DeviceLink
