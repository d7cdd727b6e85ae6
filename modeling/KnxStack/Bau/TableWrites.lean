import KnxStack.Bau.ManagedObjects

/-!
# Writes to the tables

What a successful write does to a loadable table, and what of it a device notices: a load event that
clears a table, a load that completes and applies the segment, a write of entries.
-/

set_option autoImplicit false

namespace KnxStack.Bau

open KnxStack.Application KnxStack.Lib.Octets KnxStack.Objects

variable {τ : Type}

/-! ## Load control -/

theorem writeProperty_loadControl {D : Type} {loadable : Loadable D} {id : UInt8} {o o' : D}
    {startIndex : Nat} {value : List UInt8}
    (h : (loadable.handler id).writeProperty o startIndex value = some o') :
    ∃ event, value.head? = some event ∧ o' = loadable.applyLoadControlEvent o event := by
  obtain ⟨-, -, -, ⟨-, -, -, hwritten⟩ | ⟨htype, -⟩⟩ := Handler.writeProperty_cases h
  · obtain ⟨event, hevent, rfl⟩ := Option.map_eq_some_iff.mp hwritten
    exact ⟨event, hevent, rfl⟩
  · exact absurd rfl htype

theorem entries_applyLoadControlEvent {α : Type} {format : EntryFormat α} (t : LoadableTable format)
    (event : UInt8) :
    (LoadableTable.loadable.applyLoadControlEvent t event).entries
      = if event = 1 ∨ event = 4 then [] else t.entries := by
  rw [Loadable.applyLoadControlEvent]
  by_cases hstart : event = 1
  · subst hstart
    rfl
  · by_cases hunload : event = 4
    · subst hunload
      rfl
    · simp only [hstart, hunload, or_self, if_false]
      repeat' split
      all_goals rfl

theorem loadState_applyLoadControlEvent (a : ApplicationProgram) (event : UInt8) :
    { ApplicationProgram.loadable.applyLoadControlEvent a event with loadState := a.loadState } = a := by
  rw [Loadable.applyLoadControlEvent]
  repeat' split
  all_goals rfl

theorem writeProperty_control (schema : ReferenceSchema) {D : Type} {loadable : Loadable D}
    {get : CoreObjects → D} {set : CoreObjects → D → CoreObjects} {objectType : UInt16}
    {p : ObjectProperty} (hfind : findProperty schema objectType 5 = some p)
    (hp : p.handler = (loadable.handler 5).lift get set) (hdevice : p.objectType ≠ 0)
    {o o' : CoreObjects} {startIndex : Nat} {value : List UInt8}
    (h : o.writeProperty schema objectType 5 startIndex value = some o') :
    ∃ event, value.head? = some event
      ∧ o' = set o (loadable.applyLoadControlEvent (get o) event) := by
  obtain ⟨q, hq, hcases⟩ := CoreObjects.writeProperty_cases schema h
  rw [hfind, Option.some.injEq] at hq
  subst hq
  rcases hcases with ⟨_, rfl, -⟩ | ⟨_, rfl, -⟩ | ⟨-, -, hwritten⟩
  · exact absurd rfl hdevice
  · exact absurd rfl hdevice
  · rw [hp, Handler.writeProperty_lift] at hwritten
    obtain ⟨t, ht, rfl⟩ := Option.map_eq_some_iff.mp hwritten
    obtain ⟨event, hevent, rfl⟩ := writeProperty_loadControl ht
    exact ⟨event, hevent, rfl⟩

theorem writeProperty_addressControl (schema : ReferenceSchema) {o o' : CoreObjects}
    {startIndex : Nat} {value : List UInt8}
    (h : o.writeProperty schema 1 5 startIndex value = some o') :
    ∃ event, value.head? = some event
      ∧ o' = { o with
        addressTable := LoadableTable.loadable.applyLoadControlEvent o.addressTable event } :=
  writeProperty_control schema (p := .addressTable .loadState) rfl rfl (by decide) h

theorem writeProperty_associationControl (schema : ReferenceSchema) {o o' : CoreObjects}
    {startIndex : Nat} {value : List UInt8}
    (h : o.writeProperty schema 2 5 startIndex value = some o') :
    ∃ event, value.head? = some event
      ∧ o' = { o with
        associationTable := LoadableTable.loadable.applyLoadControlEvent o.associationTable event } :=
  writeProperty_control schema (p := .associationTable .loadState) rfl rfl (by decide) h

theorem writeProperty_programControl (schema : ReferenceSchema) {o o' : CoreObjects}
    {startIndex : Nat} {value : List UInt8}
    (h : o.writeProperty schema 3 5 startIndex value = some o') :
    ∃ event, value.head? = some event
      ∧ o' = { o with applicationProgram :=
        ApplicationProgram.loadable.applyLoadControlEvent o.applicationProgram event } :=
  writeProperty_control schema (p := .applicationProgram .loadState) rfl rfl (by decide) h

namespace ManagedDevice

/-! ## Marks -/

/-- A load event that clears: the start of a load, or an unload. -/
def Clears (value : List UInt8) : Prop := value.head? = some 1 ∨ value.head? = some 4

theorem control_of_unmarked {objectType : UInt16} {propertyId : UInt8} {value : List UInt8}
    (htable : isTableObject objectType = true)
    (hmarked : marksTable objectType propertyId value = false) :
    propertyId = 5 ∧ value.head? ≠ some 2 := by
  rw [marksTable, htable, Bool.true_and, Bool.or_eq_false_iff, isLoadCompleted] at hmarked
  obtain ⟨hcontrol, hcompleted⟩ := hmarked
  rw [Bool.not_eq_false'] at hcontrol
  rw [hcontrol, Bool.true_and] at hcompleted
  refine ⟨?_, by simpa using hcompleted⟩
  rw [isLoadControlWrite, Bool.and_eq_true, Bool.and_eq_true] at hcontrol
  exact eq_of_beq hcontrol.1.2

theorem marksTable_of_clears {objectType : UInt16} {value : List UInt8}
    (htable : isTableObject objectType = true) (hclears : Clears value) :
    marksTable objectType 5 value = false ∧ isLoadCompleted objectType 5 value = false := by
  rcases value with _ | ⟨event, rest⟩
  · rcases hclears with hclears | hclears <;> cases hclears
  · have hevent : event = 1 ∨ event = 4 := by
      rw [Clears, List.head?_cons, Option.some.injEq, Option.some.injEq] at hclears
      exact hclears
    rw [marksTable, isLoadCompleted, isLoadControlWrite, htable]
    rcases hevent with rfl | rfl <;> exact ⟨rfl, rfl⟩

/-! ## Writes through the services -/

/-- Where a segment lies, and how long it is. -/
def layout (segment : MemorySegment) : MemoryRegion × Nat := (segment.region, segment.storage.length)

theorem layout_writeMemory {address : UInt16} {data : List UInt8} {memory memory' : Memory}
    (h : writeMemory address data memory = some memory') :
    memory'.map layout = memory.map layout := by
  induction memory generalizing memory' with
  | nil => cases h
  | cons segment memory ih =>
    rw [writeMemory] at h
    split at h
    · rename_i hrange
      cases h
      have hfits := Nat.le_trans (MemoryRegion.offset_add_le hrange) segment.covers
      rw [List.map_cons, List.map_cons, layout, MemorySegment.write, length_overwrite hfits]
      rfl
    · obtain ⟨rest, hrest, rfl⟩ := Option.map_eq_some_iff.mp h
      rw [List.map_cons, List.map_cons, ih hrest]

theorem apply_writeProperty {objectIndex propertyId : UInt8} {startIndex : Nat} {value : List UInt8}
    {objectType : UInt16} {core : CoreObjects} (config : Configuration τ)
    {d : ManagedDevice (CoreObjects × τ)}
    (hindex : d.resolveObjectType objectIndex = some objectType)
    (hsecurity : objectType ≠ securityInterfaceObjectType)
    (hwritten : d.core.writeProperty config.schema objectType propertyId startIndex value = some core) :
    d.apply config.backend (.writeProperty objectIndex propertyId startIndex value)
      = d.afterOtherWrite config.backend objectType propertyId value (core, d.others.2) := by
  have hbackend : config.backend.writeProperty d.others objectType propertyId startIndex value
      = some (core, d.others.2) := congrArg (Option.map (·, d.others.2)) hwritten
  rw [ManagedDevice.apply, writeProvider, hindex]
  dsimp only
  rw [if_neg hsecurity, hbackend]
  rfl

end ManagedDevice

end KnxStack.Bau
