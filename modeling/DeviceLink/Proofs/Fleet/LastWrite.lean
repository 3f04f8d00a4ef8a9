import DeviceLink.Proofs.Fleet.Setting
import Mathlib.Data.List.Induction

namespace DeviceLink

/-!
A fleet of lamps as a map in which the last write wins.  What a lamp shows is read off
the list of the uses that were made of the fleet: a property has the value that was last
accepted for it, and a lamp is announced if the last word about it was that it is.  A
use that fails is no write, and neither is a service.  `Use` lists what can be done to a
fleet, `value` and `announced` are read off a list of uses, and `LastWriteWins` says
that the fleet agrees with them.
-/

namespace Lamp

/-- The two properties of a lamp.  Keys are compared letter by letter. -/
def IsProperty (key : String) : Prop := key = powerKey ∨ key = brightnessKey

instance (key : String) : Decidable (IsProperty key) := inferInstanceAs (Decidable (_ ∨ _))

/-- The values that a property may have.  Power is a digit, and brightness is limited. -/
def Allowed (key : String) (level : Int) : Prop :=
  (key = powerKey ∧ (level = 0 ∨ level = 1)) ∨
    (key = brightnessKey ∧ 0 ≤ level ∧ level ≤ maxBrightness)

instance (key : String) (level : Int) : Decidable (Allowed key level) :=
  inferInstanceAs (Decidable (_ ∨ _))

/--
The value that a datum gives to the property that it names.  There is none if the datum
names no property, or if its value is not allowed.
-/
def accepted? (datum : Datum) : Option Int :=
  ((Decimal.readInt64? datum.value.toList).map Int64.toInt).filter fun level =>
    Allowed datum.key level

/-- How the value of a property is told.  It has the type that belongs to the property. -/
def shown (key : String) (level : Int) : Datum :=
  ⟨key, if key = powerKey then .bool else .int, Decimal.integerString level⟩

/-- The value of a property; what is no property reads zero.  Both properties are numbers here. -/
def reading (lamp : Lamp) (key : String) : Int :=
  if key = powerKey then if lamp.power then 1 else 0
  else if key = brightnessKey then lamp.brightness.val
  else 0

theorem brightnessKey_ne : brightnessKey ≠ powerKey := by decide

theorem reading_power (lamp : Lamp) : lamp.reading powerKey = if lamp.power then 1 else 0 :=
  if_pos rfl

theorem reading_brightness (lamp : Lamp) : lamp.reading brightnessKey = lamp.brightness.val := by
  rw [reading, if_neg brightnessKey_ne, if_pos rfl]

theorem powerDatum_eq (lamp : Lamp) :
    lamp.powerDatum = shown powerKey (lamp.reading powerKey) := by
  cases power : lamp.power <;> simp only [powerDatum, reading_power, power] <;> decide +kernel

theorem brightnessDatum_eq (lamp : Lamp) :
    lamp.brightnessDatum = shown brightnessKey (lamp.reading brightnessKey) := by
  have small := lamp.brightness.isLt
  have word : (Int64.ofInt lamp.brightness.val).toInt = lamp.brightness.val := by
    apply Int64.toInt_ofInt_of_le <;> unfold maxBrightness at small <;> omega
  rw [reading_brightness, shown, if_neg brightnessKey_ne, brightnessDatum, Datum.ofInt, word]

theorem property_eq (lamp : Lamp) {key : String} (known : IsProperty key) :
    lamp.property key = .ok (shown key (lamp.reading key)) := by
  rcases known with rfl | rfl
  · rw [← powerDatum_eq, property, if_pos rfl]
  · rw [← brightnessDatum_eq, property, if_neg brightnessKey_ne, if_pos rfl]

theorem property_unknown (lamp : Lamp) {key : String} (unknown : ¬ IsProperty key) :
    lamp.property key = .error (.propertyNotExist key) := by
  rw [property, if_neg fun same => unknown (.inl same), if_neg fun same => unknown (.inr same)]

/--
The keys are answered in order if they are properties all.  Repeated keys are answered
repeatedly.
-/
theorem properties_eq (lamp : Lamp) {keys : List String} (known : ∀ key ∈ keys, IsProperty key) :
    lamp.properties keys = .ok (keys.map fun key => shown key (lamp.reading key)) := by
  induction keys with
  | nil => rfl
  | cons key rest ih =>
      rw [List.forall_mem_cons] at known
      rw [properties, property_eq lamp known.1, ih known.2]
      rfl

/--
The first key that is no property is what the answer is about.  What has been read before it
is not sent.
-/
theorem properties_unknown (lamp : Lamp) {known rest : List String} {key : String}
    (before : ∀ key ∈ known, IsProperty key) (unknown : ¬ IsProperty key) :
    lamp.properties (known ++ key :: rest) = .error (.propertyNotExist key) := by
  induction known with
  | nil => rw [List.nil_append, properties, property_unknown lamp unknown]
  | cons first known ih =>
      rw [List.forall_mem_cons] at before
      rw [List.cons_append, properties, property_eq lamp before.1, ih before.2]

/--
What becomes of a lamp when a property of it gets a value.  The other property stays, and so
does what is known about its announcement.
-/
structure Takes (lamp : Lamp) (datum : Datum) (level : Int) (changed : Lamp) : Prop where
  own : changed.reading datum.key = level
  others : ∀ key, key ≠ datum.key → changed.reading key = lamp.reading key
  online_eq : changed.online = lamp.online

/--
A lamp takes the value that is accepted; without one it is left alone.  A datum that is not
accepted is answered with an error.
-/
inductive Responds (lamp : Lamp) (datum : Datum) : Option Int → Except DeviceError Lamp → Prop
  | refuses (error : DeviceError) : Responds lamp datum none (.error error)
  | takes {level : Int} {changed : Lamp} (takes : lamp.Takes datum level changed) :
      Responds lamp datum (some level) (.ok changed)

theorem responds_setPower (lamp : Lamp) {datum : Datum} (power : datum.key = powerKey)
    (level : Int) :
    lamp.Responds datum (if Allowed datum.key level then some level else none)
      (lamp.setPower level) := by
  have allowed_iff : Allowed datum.key level ↔ level = 0 ∨ level = 1 := by
    simp [Allowed, power, brightnessKey_ne.symm]
  have others (on : Bool) : ∀ key, key ≠ datum.key →
      Lamp.reading { lamp with power := on } key = lamp.reading key := by
    intro key apart
    rw [power] at apart
    rw [reading, reading, if_neg apart, if_neg apart]
  unfold setPower
  by_cases off : level = 0
  · rw [if_pos off, if_pos (allowed_iff.mpr (.inl off))]
    refine .takes ⟨?_, others false, rfl⟩
    rw [power, reading_power, off]
    rfl
  · by_cases on : level = 1
    · rw [if_neg off, if_pos on, if_pos (allowed_iff.mpr (.inr on))]
      refine .takes ⟨?_, others true, rfl⟩
      rw [power, reading_power, on]
      rfl
    · rw [if_neg off, if_neg on, if_neg fun allowed => (allowed_iff.mp allowed).elim off on]
      exact .refuses _

theorem responds_setBrightness (lamp : Lamp) {datum : Datum}
    (brightness : datum.key = brightnessKey) (level : Int) :
    lamp.Responds datum (if Allowed datum.key level then some level else none)
      (lamp.setBrightness level) := by
  have allowed_iff : Allowed datum.key level ↔ 0 ≤ level ∧ level ≤ maxBrightness := by
    simp [Allowed, brightness, brightnessKey_ne]
  unfold setBrightness
  by_cases inRange : 0 ≤ level ∧ level ≤ maxBrightness
  · rw [dif_pos inRange, if_pos (allowed_iff.mpr inRange)]
    refine .takes ⟨?_, ?_, rfl⟩
    · rw [brightness, reading_brightness]
      exact Int.toNat_of_nonneg inRange.1
    · intro key apart
      rw [brightness] at apart
      rw [reading, reading, if_neg apart, if_neg apart]
  · rw [dif_neg inRange, if_neg fun allowed => inRange (allowed_iff.mp allowed)]
    exact .refuses _

theorem accepted?_of_readInt64? {datum : Datum} {word : Int64}
    (spelt : Decimal.readInt64? datum.value.toList = some word) :
    accepted? datum = if Allowed datum.key word.toInt then some word.toInt else none := by
  rw [accepted?, spelt, Option.map_some, Option.filter_some]
  simp only [decide_eq_true_eq]

theorem accepted?_eq_none {datum : Datum} (unknown : ¬ IsProperty datum.key) :
    accepted? datum = none := by
  refine Option.filter_eq_none_iff.mpr fun level _ allowed => unknown ?_
  exact (of_decide_eq_true allowed).imp And.left And.left

/--
Setting a property is the same as to take what is accepted.  So one needs to know only which
values are accepted.
-/
theorem responds_set (lamp : Lamp) (datum : Datum) :
    lamp.Responds datum (accepted? datum) (lamp.set datum) := by
  unfold Lamp.set level
  by_cases known : IsProperty datum.key
  · cases spelt : Decimal.readInt64? datum.value.toList with
    | none =>
        have refused : accepted? datum = none := by
          rw [accepted?, spelt]
          rfl
        rw [refused]
        rcases known with power | brightness
        · rw [if_pos power]
          exact .refuses _
        · rw [if_neg (brightness ▸ brightnessKey_ne), if_pos brightness]
          exact .refuses _
    | some word =>
        rw [accepted?_of_readInt64? spelt]
        rcases known with power | brightness
        · rw [if_pos power]
          exact responds_setPower lamp power word.toInt
        · have apart : datum.key ≠ powerKey := brightness ▸ brightnessKey_ne
          rw [if_neg apart, if_pos brightness]
          exact responds_setBrightness lamp brightness word.toInt
  · rw [accepted?_eq_none known, if_neg fun same => known (.inl same),
      if_neg fun same => known (.inr same)]
    exact .refuses _

end Lamp

namespace Fleet

open Lamp (IsProperty accepted? shown powerKey brightnessKey brightnessKey_ne)

/--
One use that is made of a fleet: by its device code, or by who announces lamps.  There is no
other way in which a fleet can change.
-/
inductive Use
  | getProperties (device : Address) (keys : List String)
  | setProperty (device : Address) (datum : Datum)
  | callService {slots : Nat} (device : Address) (service : String) (inputs : List Datum)
      (outputs : Vector Datum slots)
  | setOnline (device : Address) (online : Bool)
  | markAllOffline

namespace Use

/--
What a use does, and the data that it is answered with.  It is the code that runs, and not a
description of it.
-/
def activity : Use → Activity Fleet (List Datum)
  | getProperties device keys => handler.getProperties device keys
  | setProperty device datum => (handler.setProperty device datum).bind fun _ => .done []
  | callService device service inputs outputs =>
      (handler.callService device service inputs outputs).bind fun filled => .done filled.toList
  | setOnline device online =>
      .read fun fleet => .write (fleet.setOnline device online) (.done [])
  | markAllOffline => .read fun fleet => .write fleet.markAllOffline (.done [])

/--
What a use comes to: the fleet after it and the data, or an error.  Uses have no other
effect and no other answer.
-/
def result (use : Use) (fleet : Fleet) : Except DeviceError (Fleet × List Datum) :=
  match use with
  | getProperties device keys => (fleet.getProperties device keys).map fun data => (fleet, data)
  | setProperty device datum => (fleet.setProperty device datum).map fun changed => (changed, [])
  | callService device service _ outputs =>
      (fleet.callService device service).map fun _ => (fleet, outputs.toList)
  | setOnline device online => .ok (fleet.setOnline device online, [])
  | markAllOffline => .ok (fleet.markAllOffline, [])

/-- A use is over at once, and if it fails the fleet is what it was.  It never stands at a gate. -/
theorem run_activity (use : Use) (fleet : Fleet) :
    use.activity.run fleet =
      match use.result fleet with
      | .ok (changed, data) => ⟨changed, [], .ended (.ok data)⟩
      | .error error => ⟨fleet, [], .ended (.error error)⟩ := by
  cases use with
  | getProperties device keys =>
      simp only [activity, result, handler, readProperties, Activity.run]
      cases fleet.getProperties device keys <;> rfl
  | setProperty device datum =>
      simp only [activity, result, handler, writeProperty, Activity.bind, Activity.run]
      cases fleet.setProperty device datum <;> rfl
  | callService device service inputs outputs =>
      simp only [activity, result, handler, Activity.bind, Activity.run]
      cases fleet.callService device service <;> rfl
  | setOnline device online => rfl
  | markAllOffline => rfl

/--
The device that a use is about, if it is not about all of them.  Only the end of all
announcements is about all of them.
-/
def device? : Use → Option Address
  | getProperties device _ => some device
  | setProperty device _ => some device
  | callService device _ _ _ => some device
  | setOnline device _ => some device
  | markAllOffline => none

def isService : Use → Bool
  | callService _ _ _ _ => true
  | _ => false

/-- The value that a use gives to a property of a lamp.  A use of another kind gives none. -/
def written? (address : Address) (key : String) : Use → Option Int
  | setProperty device datum =>
      if device = address ∧ datum.key = key then accepted? datum else none
  | _ => none

/-- The word of a use on whether a lamp is announced.  Other uses do not speak about that. -/
def announced? (address : Address) : Use → Option Bool
  | setOnline device online => if device = address then some online else none
  | markAllOffline => some false
  | _ => none

end Use

/-- The last of what can be seen in a list of uses.  There is none if nothing can be seen. -/
def last? {α : Type} (sight? : Use → Option α) (uses : List Use) : Option α :=
  uses.reverse.findSome? sight?

/--
The value that was last given to a property of a lamp; all start out as zero.  Values that
were not accepted do not count.
-/
def value (uses : List Use) (address : Address) (key : String) : Int :=
  (last? (Use.written? address key) uses).getD 0

/--
The last word on whether a lamp is announced; at first none is.  It may be about that lamp,
or about all.
-/
def announced (uses : List Use) (address : Address) : Bool :=
  (last? (Use.announced? address) uses).getD false

theorem last?_concat {α : Type} (sight? : Use → Option α) (uses : List Use) (use : Use) :
    last? sight? (uses ++ [use]) = (sight? use).or (last? sight? uses) := by
  rw [last?, last?, List.reverse_concat, List.findSome?_cons]
  cases sight? use <;> rfl

theorem value_concat (uses : List Use) (use : Use) (address : Address) (key : String) :
    value (uses ++ [use]) address key =
      (use.written? address key).getD (value uses address key) := by
  rw [value, value, last?_concat]
  cases use.written? address key <;> rfl

theorem announced_concat (uses : List Use) (use : Use) (address : Address) :
    announced (uses ++ [use]) address =
      (use.announced? address).getD (announced uses address) := by
  rw [announced, announced, last?_concat]
  cases use.announced? address <;> rfl

/-- The fleet that uses make of a new one, one after the other.  It may be any list of them. -/
def after (addresses : List Address) (uses : List Use) : Fleet :=
  uses.foldl (fun fleet use => (use.activity.run fleet).world) (new addresses)

theorem after_concat (addresses : List Address) (uses : List Use) (use : Use) :
    after addresses (uses ++ [use]) = (use.activity.run (after addresses uses)).world := by
  rw [after, List.foldl_append]
  rfl

/-! ## What one use does -/

/-- A lamp shows what uses have made of it.  Both properties and the announcement are meant. -/
structure Reads (uses : List Use) (address : Address) (lamp : Lamp) : Prop where
  reading_eq : ∀ key, lamp.reading key = value uses address key
  online_eq : lamp.online = announced uses address

/--
There is a lamp for every address, and it shows what uses have made of it.  There is no lamp
elsewhere.
-/
structure Tracks (addresses : List Address) (uses : List Use) (fleet : Fleet) : Prop where
  order_eq : fleet.order = addresses
  known : ∀ address ∈ addresses, ∃ lamp, fleet.lamp? address = some lamp ∧ Reads uses address lamp
  unknown : ∀ address, address ∉ addresses → fleet.lamp? address = none

section

variable {addresses : List Address} {uses : List Use} {fleet : Fleet} {use : Use}
  {address device : Address} {lamp changed : Lamp}

/-- A use that is no word about a lamp leaves it as it is read.  What has been last stays last. -/
theorem Reads.idle (reads : Reads uses address lamp)
    (unwritten : ∀ key, use.written? address key = none)
    (silent : use.announced? address = none) : Reads (uses ++ [use]) address lamp where
  reading_eq := by
    intro key
    rw [value_concat, unwritten key, reads.reading_eq key]
    rfl
  online_eq := by
    rw [announced_concat, silent, reads.online_eq]
    rfl

theorem Reads.set {datum : Datum} {level : Int} (reads : Reads uses address lamp)
    (accepted : accepted? datum = some level) (takes : lamp.Takes datum level changed) :
    Reads (uses ++ [.setProperty address datum]) address changed where
  reading_eq := by
    intro key
    rw [value_concat, Use.written?]
    by_cases same : datum.key = key
    · rw [if_pos ⟨rfl, same⟩, accepted, ← same, takes.own]
      rfl
    · rw [if_neg fun both => same both.2, takes.others key (Ne.symm same), reads.reading_eq key]
      rfl
  online_eq := by
    rw [announced_concat, takes.online_eq, reads.online_eq]
    rfl

theorem Reads.announce {online : Bool} (reads : Reads uses address lamp)
    (unwritten : ∀ key, use.written? address key = none)
    (told : use.announced? address = some online) :
    Reads (uses ++ [use]) address { lamp with online := online } where
  reading_eq := by
    intro key
    rw [value_concat, unwritten key]
    exact reads.reading_eq key
  online_eq := by
    rw [announced_concat, told]
    rfl

theorem Tracks.idle (tracks : Tracks addresses uses fleet)
    (unwritten : ∀ address ∈ addresses, ∀ key, use.written? address key = none)
    (silent : ∀ address ∈ addresses, use.announced? address = none) :
    Tracks addresses (uses ++ [use]) fleet where
  order_eq := tracks.order_eq
  known := by
    intro address inside
    rcases tracks.known address inside with ⟨lamp, found, reads⟩
    exact ⟨lamp, found, reads.idle (unwritten address inside) (silent address inside)⟩
  unknown := tracks.unknown

/-- A use that is about one lamp is no word about the others.  They are read as before. -/
theorem Tracks.modify {change : Lamp → Lamp} (tracks : Tracks addresses uses fleet)
    (own : ∀ lamp, fleet.lamp? device = some lamp → Reads uses device lamp →
      Reads (uses ++ [use]) device (change lamp))
    (unwritten : ∀ other, other ≠ device → ∀ key, use.written? other key = none)
    (silent : ∀ other, other ≠ device → use.announced? other = none) :
    Tracks addresses (uses ++ [use]) (fleet.modify device change) where
  order_eq := tracks.order_eq
  known := by
    intro address inside
    rcases tracks.known address inside with ⟨lamp, found, reads⟩
    rw [lamp?_modify]
    by_cases same : address = device
    · subst same
      rw [if_pos rfl, found]
      exact ⟨_, rfl, own lamp found reads⟩
    · rw [if_neg same]
      exact ⟨lamp, found, reads.idle (unwritten address same) (silent address same)⟩
  unknown := by
    intro address outside
    rw [lamp?_modify, tracks.unknown address outside]
    split
    · next same => rw [← same, tracks.unknown address outside]; rfl
    · rfl

theorem lamp?_markAllOffline (fleet : Fleet) (address : Address) :
    fleet.markAllOffline.lamp? address =
      (fleet.lamp? address).map fun lamp => { lamp with online := false } := by
  unfold lamp? markAllOffline
  rw [List.find?_map, Option.map_map, Option.map_map]
  rfl

theorem Tracks.markAllOffline (tracks : Tracks addresses uses fleet) :
    Tracks addresses (uses ++ [.markAllOffline]) fleet.markAllOffline where
  order_eq := tracks.order_eq
  known := by
    intro address inside
    rcases tracks.known address inside with ⟨lamp, found, reads⟩
    rw [lamp?_markAllOffline, found]
    exact ⟨_, rfl, reads.announce (fun _ => rfl) rfl⟩
  unknown := by
    intro address outside
    rw [lamp?_markAllOffline, tracks.unknown address outside]
    rfl

theorem lamp?_new (addresses : List Address) (address : Address) :
    (new addresses).lamp? address = if address ∈ addresses then some Lamp.dark else none := by
  have same_key : ((fun entry : Address × Lamp => decide (entry.1 = address)) ∘
      fun other => (other, Lamp.dark)) = fun other => decide (other = address) := rfl
  unfold lamp? new
  rw [List.find?_map, same_key]
  split
  · next inside =>
    cases found : addresses.eraseDups.find? fun other => decide (other = address) with
    | none =>
        have absent := List.find?_eq_none.mp found address (List.mem_eraseDups.mpr inside)
        exact absurd (decide_eq_true rfl) absent
    | some other => rfl
  · next outside =>
    cases found : addresses.eraseDups.find? fun other => decide (other = address) with
    | none => rfl
    | some other =>
        have same : other = address := by simpa using List.find?_some found
        exact absurd (List.mem_eraseDups.mp (same ▸ List.mem_of_find?_eq_some found)) outside

theorem tracks_new (addresses : List Address) : Tracks addresses [] (new addresses) where
  order_eq := rfl
  known := by
    intro address inside
    refine ⟨Lamp.dark, (lamp?_new addresses address).trans (if_pos inside), fun key => ?_, rfl⟩
    rw [Lamp.reading]
    split
    · rfl
    · split <;> rfl
  unknown := fun address outside => (lamp?_new addresses address).trans (if_neg outside)

/-! ## What becomes of the fleet -/

/--
Setting a property fails and is no write, or the addressed lamp takes the value.  There is
nothing in between.
-/
theorem Tracks.setProperty_cases (tracks : Tracks addresses uses fleet) (device : Address)
    (datum : Datum) :
    (∃ error, fleet.setProperty device datum = .error error ∧
        (device ∈ addresses → accepted? datum = none)) ∨
      ∃ lamp level changed, device ∈ addresses ∧ fleet.lamp? device = some lamp ∧
        accepted? datum = some level ∧ lamp.Takes datum level changed ∧
        fleet.setProperty device datum = .ok (fleet.modify device fun _ => changed) := by
  by_cases inside : device ∈ addresses
  · rcases tracks.known device inside with ⟨lamp, found, -⟩
    rw [setProperty_known found]
    have responds := lamp.responds_set datum
    generalize accepted? datum = level? at responds
    generalize lamp.set datum = result at responds
    cases responds with
    | refuses error => exact .inl ⟨error, rfl, fun _ => rfl⟩
    | takes takes => exact .inr ⟨lamp, _, _, inside, found, rfl, takes, rfl⟩
  · rcases setProperty_unknown (tracks.unknown device inside) datum with ⟨error, fails, -⟩
    exact .inl ⟨error, fails, fun known => absurd known inside⟩

/--
One more use is made of a fleet.  What is tracked goes on to be so, with that use at the end
of the list.
-/
theorem Tracks.perform (tracks : Tracks addresses uses fleet) (use : Use) :
    Tracks addresses (uses ++ [use]) (use.activity.run fleet).world := by
  rw [Use.run_activity]
  cases use with
  | getProperties device keys =>
      have still : Tracks addresses (uses ++ [.getProperties device keys]) fleet :=
        tracks.idle (fun _ _ _ => rfl) fun _ _ => rfl
      rw [Use.result]
      cases fleet.getProperties device keys <;> exact still
  | setProperty device datum =>
      rw [Use.result]
      rcases tracks.setProperty_cases device datum with
        ⟨error, fails, unaccepted⟩ | ⟨lamp, level, changed, -, found, accepted, takes, succeeds⟩
      · rw [fails]
        refine tracks.idle (fun address inside key => ?_) fun _ _ => rfl
        rw [Use.written?]
        split
        · next same => exact unaccepted (same.1 ▸ inside)
        · rfl
      · rw [succeeds]
        have kept : Tracks addresses (uses ++ [.setProperty device datum])
            (fleet.modify device fun _ => changed) := by
          refine tracks.modify (fun own there reads => ?_)
            (fun other apart key => if_neg fun both => apart both.1.symm) fun _ _ => rfl
          cases found.symm.trans there
          exact reads.set accepted takes
        exact kept
  | callService device service inputs outputs =>
      have still : Tracks addresses (uses ++ [.callService device service inputs outputs]) fleet :=
        tracks.idle (fun _ _ _ => rfl) fun _ _ => rfl
      rw [Use.result]
      cases fleet.callService device service <;> exact still
  | setOnline device online =>
      have kept : Tracks addresses (uses ++ [.setOnline device online])
          (fleet.setOnline device online) :=
        tracks.modify (fun lamp found reads => reads.announce (fun _ => rfl) (if_pos rfl))
          (fun _ _ _ => rfl) fun other apart => if_neg apart.symm
      exact kept
  | markAllOffline => exact tracks.markAllOffline

theorem tracks_after (addresses : List Address) (uses : List Use) :
    Tracks addresses uses (after addresses uses) := by
  induction uses using List.reverseRecOn with
  | nil => exact tracks_new addresses
  | append_singleton uses use ih =>
      rw [after_concat]
      exact ih.perform use

theorem modify_unknown (absent : fleet.lamp? address = none) (change : Lamp → Lamp) :
    fleet.modify address change = fleet := by
  have elsewhere : ∀ entry ∈ fleet.lamps,
      (if entry.1 = address then (entry.1, change entry.2) else entry) = entry := by
    intro entry inside
    have found := List.find?_eq_none.mp (Option.map_eq_none_iff.mp absent) entry inside
    exact if_neg fun same => found (decide_eq_true same)
  rw [modify, List.map_congr_left elsewhere, List.map_id']

end

/-! ## What uses are answered -/

/-- A use is answered as soon as it is made.  Nothing else can be seen of it. -/
def Use.Answered (use : Use) (fleet : Fleet) (outcome : Outcome (List Datum)) : Prop :=
  (use.activity.run fleet).progress = .ended outcome

/--
The fleet is a map in which the last write wins.  The fields say what it holds after some
uses, and what one more use of it is answered and leaves behind.  It holds of every list of
uses, the empty one included.
-/
structure LastWriteWins (addresses : List Address) (uses : List Use) (fleet : Fleet) : Prop where
  known_iff : ∀ address, (∃ lamp, fleet.lamp? address = some lamp) ↔ address ∈ addresses
  holds : ∀ address lamp, fleet.lamp? address = some lamp →
    lamp.brightness.val ≤ maxBrightness ∧
      lamp.brightness.val = value uses address brightnessKey ∧
      (if lamp.power then 1 else 0) = value uses address powerKey
  snapshot_eq : ∀ address, fleet.snapshot? address =
    if address ∈ addresses then
      some [shown brightnessKey (value uses address brightnessKey),
        shown powerKey (value uses address powerKey)]
    else none
  broken_iff : ∀ address, fleet.isBroken address = true ↔ address ∈ addresses ∧
    value uses address powerKey = 1 ∧ value uses address brightnessKey = 0
  online_eq : fleet.online = addresses.filter (announced uses)
  /-- Nothing waits or crashes.  Every use has one answer. -/
  answers : ∀ use : Use, ∃ outcome, use.Answered fleet outcome ∧ outcome ≠ .crashed
  gets : ∀ address ∈ addresses, ∀ keys, (∀ key ∈ keys, IsProperty key) →
    (Use.getProperties address keys).Answered fleet
      (.ok (keys.map fun key => shown key (value uses address key)))
  /-- The first key that is no property.  It is named in the answer. -/
  misses : ∀ address ∈ addresses, ∀ known key rest, (∀ key ∈ known, IsProperty key) →
    ¬ IsProperty key → (Use.getProperties address (known ++ key :: rest)).Answered fleet
      (.error (.propertyNotExist key))
  sets_iff : ∀ address datum, (Use.setProperty address datum).Answered fleet (.ok []) ↔
    address ∈ addresses ∧ ∃ level, accepted? datum = some level
  /--
  A use that fails, is about an unknown device or calls a service.  None of them changes
  anything.
  -/
  stays : ∀ use : Use, (∃ error, use.Answered fleet (.error error)) ∨
    (∃ device, use.device? = some device ∧ device ∉ addresses) ∨ use.isService = true →
      (use.activity.run fleet).world = fleet

section

variable {addresses : List Address} {uses : List Use} {fleet : Fleet}

theorem Use.answered_of_result {use : Use} {changed : Fleet} {data : List Datum}
    (result : use.result fleet = .ok (changed, data)) : use.Answered fleet (.ok data) := by
  rw [Answered, run_activity, result]

theorem Use.answered_of_error {use : Use} {error : DeviceError}
    (result : use.result fleet = .error error) : use.Answered fleet (.error error) := by
  rw [Answered, run_activity, result]

theorem Tracks.sets_iff (tracks : Tracks addresses uses fleet) (address : Address)
    (datum : Datum) :
    (Use.setProperty address datum).Answered fleet (.ok []) ↔
      address ∈ addresses ∧ ∃ level, accepted? datum = some level := by
  rw [Use.Answered, Use.run_activity, Use.result]
  rcases tracks.setProperty_cases address datum with
    ⟨error, fails, unaccepted⟩ | ⟨lamp, level, changed, inside, -, accepted, -, succeeds⟩
  · rw [fails]
    refine ⟨nofun, ?_⟩
    rintro ⟨inside, level, accepted⟩
    cases (unaccepted inside).symm.trans accepted
  · rw [succeeds]
    exact ⟨fun _ => ⟨inside, level, accepted⟩, fun _ => rfl⟩

theorem Use.world_eq {use : Use}
    (keeps : ∀ success, use.result fleet = .ok success → success.1 = fleet) :
    (use.activity.run fleet).world = fleet := by
  rw [run_activity]
  cases result : use.result fleet with
  | ok success => exact keeps success result
  | error error => rfl

theorem Use.keeps_of_map {α : Type} {outcome : Except DeviceError α} {data : α → List Datum}
    {success : Fleet × List Datum}
    (result : outcome.map (fun value => (fleet, data value)) = .ok success) :
    success.1 = fleet := by
  cases outcome with
  | ok value =>
      cases result
      rfl
  | error error => cases result

theorem Tracks.stays (tracks : Tracks addresses uses fleet) (use : Use)
    (idle : (∃ error, use.Answered fleet (.error error)) ∨
      (∃ device, use.device? = some device ∧ device ∉ addresses) ∨ use.isService = true) :
    (use.activity.run fleet).world = fleet := by
  refine Use.world_eq fun success succeeds => ?_
  rcases idle with ⟨error, failed⟩ | ⟨device, about, outside⟩ | service
  · rw [Use.Answered, Use.run_activity, succeeds] at failed
    cases failed
  · have absent := tracks.unknown device outside
    cases use with
    | getProperties other keys => exact Use.keeps_of_map succeeds
    | callService other name inputs outputs => exact Use.keeps_of_map succeeds
    | setProperty other datum =>
        cases about
        rcases setProperty_unknown absent datum with ⟨error, fails, -⟩
        rw [Use.result, fails] at succeeds
        cases succeeds
    | setOnline other online =>
        cases about
        cases succeeds
        exact modify_unknown absent fun lamp => { lamp with online := online }
    | markAllOffline => cases about
  · cases use with
    | callService device name inputs outputs => exact Use.keeps_of_map succeeds
    | getProperties | setProperty | setOnline | markAllOffline => cases service

theorem Tracks.isBroken_iff (tracks : Tracks addresses uses fleet) (address : Address) :
    fleet.isBroken address = true ↔ address ∈ addresses ∧
      value uses address powerKey = 1 ∧ value uses address brightnessKey = 0 := by
  by_cases inside : address ∈ addresses
  · rcases tracks.known address inside with ⟨lamp, found, reads⟩
    have power_iff : (if lamp.power then (1 : Int) else 0) = 1 ↔ lamp.power = true := by
      cases lamp.power <;> decide
    have dark_iff : (lamp.brightness.val : Int) = 0 ↔ lamp.brightness = 0 :=
      Int.natCast_eq_zero.trans Fin.val_eq_zero_iff
    rw [← reads.reading_eq, ← reads.reading_eq, Lamp.reading_power, Lamp.reading_brightness,
      power_iff, dark_iff, isBroken, found, Option.map_some, Option.getD_some, Lamp.isBroken,
      Bool.and_eq_true, decide_eq_true_eq]
    exact (and_iff_right inside).symm
  · simp [isBroken, tracks.unknown address inside, inside]

theorem Tracks.online_eq (tracks : Tracks addresses uses fleet) :
    fleet.online = addresses.filter (announced uses) := by
  rw [online, tracks.order_eq]
  refine List.filter_congr fun address inside => ?_
  rcases tracks.known address inside with ⟨lamp, found, reads⟩
  rw [isOnline, found, ← reads.online_eq]
  rfl

/-- What is tracked is seen in every answer.  The answers are worked out from the fleet alone. -/
theorem Tracks.lastWriteWins (tracks : Tracks addresses uses fleet) :
    LastWriteWins addresses uses fleet where
  known_iff := by
    intro address
    refine ⟨fun ⟨lamp, found⟩ => ?_, fun inside => ?_⟩
    · by_contra outside
      cases (tracks.unknown address outside).symm.trans found
    · rcases tracks.known address inside with ⟨lamp, found, -⟩
      exact ⟨lamp, found⟩
  holds := by
    intro address lamp found
    have inside : address ∈ addresses := by
      by_contra outside
      cases (tracks.unknown address outside).symm.trans found
    rcases tracks.known address inside with ⟨own, there, reads⟩
    cases found.symm.trans there
    rw [← reads.reading_eq, ← reads.reading_eq, Lamp.reading_power, Lamp.reading_brightness]
    exact ⟨Nat.le_of_lt_succ lamp.brightness.isLt, rfl, rfl⟩
  snapshot_eq := by
    intro address
    rw [snapshot?]
    split
    · next inside =>
      rcases tracks.known address inside with ⟨lamp, found, reads⟩
      rw [found, Option.map_some, Lamp.brightnessDatum_eq, Lamp.powerDatum_eq,
        reads.reading_eq, reads.reading_eq]
    · next outside => rw [tracks.unknown address outside, Option.map_none]
  broken_iff := tracks.isBroken_iff
  online_eq := tracks.online_eq
  answers := by
    intro use
    cases result : use.result fleet with
    | ok success => exact ⟨_, Use.answered_of_result result, nofun⟩
    | error error => exact ⟨_, Use.answered_of_error result, nofun⟩
  gets := by
    intro address inside keys known
    rcases tracks.known address inside with ⟨lamp, found, reads⟩
    have result : (Use.getProperties address keys).result fleet =
        .ok (fleet, keys.map fun key => shown key (value uses address key)) := by
      rw [Use.result, getProperties, find, found]
      simp only [lamp.properties_eq known, reads.reading_eq]
      rfl
    exact Use.answered_of_result result
  misses := by
    intro address inside known key rest before unknown
    rcases tracks.known address inside with ⟨lamp, found, -⟩
    refine Use.answered_of_error ?_
    rw [Use.result, getProperties, find, found]
    simp only [lamp.properties_unknown before unknown]
    rfl
  sets_iff := tracks.sets_iff
  stays := tracks.stays

end

/--
Whatever use is made of a fleet, the last write wins.  Neither the addresses nor the uses
are restricted.
-/
theorem last_write_wins (addresses : List Address) (uses : List Use) :
    LastWriteWins addresses uses (after addresses uses) :=
  (tracks_after addresses uses).lastWriteWins

end Fleet
end DeviceLink
