import DeviceLink.Proofs.Core.Sparing
import DeviceLink.Proofs.Fleet.Independence

namespace DeviceLink

/-!
Which lamps of a fleet count as announced.  Only who announces them changes that; the
device code of the fleet leaves it as it is, whatever it is called for.  The reporter
relies on it: while it announces lamps and reports on them, calls of the gateway are
carried out on the same fleet.  `online` keeps the order in which the lamps were
configured, and that order does not change either.
-/

namespace Lamp

variable {lamp changed : Lamp}

theorem online_of_setPower {level : Int} (set : lamp.setPower level = .ok changed) :
    changed.online = lamp.online := by
  unfold setPower at set
  split at set
  · cases set
    rfl
  · split at set
    · cases set
      rfl
    · cases set

theorem online_of_setBrightness {level : Int} (set : lamp.setBrightness level = .ok changed) :
    changed.online = lamp.online := by
  unfold setBrightness at set
  split at set
  · cases set
    rfl
  · cases set

theorem online_of_set {datum : Datum} (set : lamp.set datum = .ok changed) :
    changed.online = lamp.online := by
  unfold Lamp.set at set
  split at set
  · split at set
    · exact online_of_setPower set
    · cases set
  · split at set
    · split at set
      · exact online_of_setBrightness set
      · cases set
    · cases set

end Lamp

namespace Fleet

variable {fleet changed : Fleet} {device lamp : Address}

theorem isOnline_modify (fleet : Fleet) (address other : Address) (change : Lamp → Lamp) :
    (fleet.modify address change).isOnline other =
      if other = address then
        ((fleet.lamp? address).map fun lamp => (change lamp).online).getD false
      else fleet.isOnline other := by
  unfold isOnline
  rw [lamp?_modify]
  split
  · rw [Option.map_map]
    rfl
  · rfl

theorem isOnline_setProperty {datum : Datum}
    (set : fleet.setProperty device datum = .ok changed) : changed.isOnline = fleet.isOnline := by
  unfold setProperty find at set
  split at set
  · cases set
  · rename_i lamp found
    split at found
    · rename_i there
      cases found
      split at set
      · cases set
      · rename_i after accepted
        cases set
        funext other
        rw [isOnline_modify]
        split
        · rename_i same
          rw [same, isOnline, there, Option.map_some, Option.map_some,
            Lamp.online_of_set accepted]
        · rfl
    · cases found

theorem online_setProperty {datum : Datum}
    (set : fleet.setProperty device datum = .ok changed) : changed.online = fleet.online := by
  have order_eq : changed.order = fleet.order := by
    rcases exists_modify set with ⟨lamp, rfl⟩
    rfl
  rw [online, online, order_eq, isOnline_setProperty set]

theorem online_new (addresses : List Address) : (new addresses).online = [] := by
  refine List.filter_eq_nil_iff.mpr fun address _ => ?_
  have dark : ∀ lamp, (new addresses).lamp? address = some lamp → lamp.online = false := by
    intro lamp found
    rcases Option.map_eq_some_iff.mp found with ⟨entry, there, rfl⟩
    rcases List.mem_map.mp (List.mem_of_find?_eq_some there) with ⟨other, -, rfl⟩
    rfl
  unfold isOnline
  cases found : (new addresses).lamp? address with
  | none => exact Bool.false_ne_true
  | some lamp =>
      rw [Option.map_some, dark lamp found]
      exact Bool.false_ne_true

theorem online_markAllOffline (fleet : Fleet) : fleet.markAllOffline.online = [] := by
  refine List.filter_eq_nil_iff.mpr fun address _ => ?_
  unfold isOnline
  cases found : fleet.markAllOffline.lamp? address with
  | none => exact Bool.false_ne_true
  | some lamp =>
      rcases Option.map_eq_some_iff.mp found with ⟨entry, there, rfl⟩
      rcases List.mem_map.mp (List.mem_of_find?_eq_some there) with ⟨former, -, rfl⟩
      exact Bool.false_ne_true

/-- Announcing a lamp announces no other.  Withdrawing it is covered as well. -/
theorem mem_online_setOnline (inside : lamp ∈ (fleet.setOnline device true).online) :
    lamp = device ∨ lamp ∈ fleet.online := by
  rcases List.mem_filter.mp inside with ⟨known, announced⟩
  by_cases same : lamp = device
  · exact .inl same
  · rw [setOnline, isOnline_modify, if_neg same] at announced
    exact .inr (List.mem_filter.mpr ⟨known, announced⟩)

/--
Whichever device is served, the announced lamps stay the same.  Device code cannot announce
anybody.
-/
theorem spares_online (other : Address) : Core.Spares Fleet.online other handler where
  getProperties := by
    intro device keys _ fleet
    simp only [handler, readProperties, Activity.LeavesAt]
    cases fleet.getProperties device keys <;> trivial
  setProperty := by
    intro device datum _ fleet
    simp only [handler, writeProperty, Activity.LeavesAt]
    split
    · next changed set => exact ⟨online_setProperty set, trivial⟩
    · trivial
  callService := by
    intro slots device service inputs outputs _ fleet
    simp only [handler, Activity.LeavesAt]
    cases fleet.callService device service <;> trivial

end Fleet

namespace Core

variable {setup : Setup Fleet} {core : Core Fleet} {move : Move Fleet}

/--
Only who changes the fleet from outside changes which lamps are announced.  No other move of
a core has an effect on that.
-/
theorem online_perform (lamps : setup.handler = Fleet.handler) (faced : Faced core.pool)
    (sparing : ∀ device, Sparing Fleet.online device core.pool)
    (calm : ∀ world, move ≠ .disturb world) :
    (perform setup core move).world.online = core.world.online := by
  -- the code that a move runs is that of one device, and so not of some other
  have elsewhere : ∃ device, ∀ code, code? setup core move ≠ some (device, code) := by
    cases runs : code? setup core move with
    | none => exact ⟨⟨"", ""⟩, nofun⟩
    | some running =>
        have other : ∃ device, running.1 ≠ device := by
          by_cases first : running.1 = ⟨"", ""⟩
          · exact ⟨⟨"other", ""⟩, first ▸ by decide⟩
          · exact ⟨_, first⟩
        rcases other with ⟨device, apart⟩
        exact ⟨device, fun code same => apart (congrArg Prod.fst (Option.some.inj same))⟩
  rcases elsewhere with ⟨device, elsewhere⟩
  have spares : Spares Fleet.online device setup.handler := lamps ▸ Fleet.spares_online device
  exact ((sparing device).frame faced spares elsewhere
    fun world same => absurd same (calm world)).2

end Core
end DeviceLink
