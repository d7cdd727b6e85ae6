import KnxStack.Objects.LoadableTables

/-!
# Writing a table by property

`writeProperty` of the kernel and `VariableTableProperty::write` (`objects/property_kernel.hpp`) on the
address table and the association table, octet by octet: the entries are read from the data twice, the
first time to validate them and the second time to set them.

`handler_writeProperty_eq` ties this to the handler of a table. `table_writes_iff` says when a write is
an update of an array: the number of elements is cut to sixteen bits, so that a write of 65536 elements
and more is accepted for what is left of its number.
-/

set_option autoImplicit false

namespace KnxStack.Objects

open KnxStack.Lib.Growing KnxStack.Lib.Octets KnxStack.Lib.Words

namespace LoadableTable

variable {α : Type} {format : EntryFormat α}

/-! ## The two passes -/

/-- `setExpand`. -/
def setExpand (t : LoadableTable format) (index : UInt16) (entry : α) :
    Result Unit × LoadableTable format :=
  if h : format.maxEntries ≤ index.toNat then (.error .invalidParameter, t)
  else
    (.ok (),
      { entries := growSet format.blank t.entries index.toNat entry
        bounded := by
          rw [length_growSet]
          exact Nat.max_le.mpr ⟨t.bounded, by omega⟩
        loadState := t.loadState })

/-- `ScalarCodec::read`: an entry, and the octets behind it. -/
def readEntry (format : EntryFormat α) (octets : List UInt8) : Result (α × List UInt8) :=
  if octets.length < format.size then .error .bufferTooSmall
  else .ok (format.decode (octets.take format.size), octets.drop format.size)

/-- The first pass: `validateTableEntry` on as many entries. -/
def validateEntries (format : EntryFormat α) : Nat → List UInt8 → Result Unit
  | 0, _ => .ok ()
  | elementCount + 1, octets =>
      match readEntry format octets with
      | .error e => .error e
      | .ok (entry, rest) =>
          if !format.isValid entry then .error .invalidParameter
          else validateEntries format elementCount rest

/-- The second pass: `setTableEntry` on as many entries. -/
def setLoop : Nat → UInt16 → List UInt8 → LoadableTable format → Result Unit × LoadableTable format
  | 0, _, _, t => (.ok (), t)
  | elementCount + 1, index, octets, t =>
      match readEntry format octets with
      | .error e => (.error e, t)
      | .ok (entry, rest) =>
          match t.setExpand index entry with
          | (.error e, t) => (.error e, t)
          | (.ok (), t) => setLoop elementCount (index + 1) rest t

/-- `VariableTableProperty::write`. -/
def writeElements (t : LoadableTable format) (startIndex : UInt16) (elementCount : UInt16)
    (octets : List UInt8) : Result Unit × LoadableTable format :=
  match validateEntries format elementCount.toNat octets with
  | .error e => (.error e, t)
  | .ok () => setLoop elementCount.toNat startIndex octets t

/-- `writeProperty` of the kernel on the table property, with the data type of its entries. -/
def writeTable (dataType : UInt8) (t : LoadableTable format) (startIndex : UInt16)
    (value : List UInt8) : Result Unit × LoadableTable format :=
  let elementSize := propertyElementSize dataType
  if startIndex = 0 then (.error .invalidParameter, t)
  else if elementSize = 0 then (.error .invalidParameter, t)
  else if value = [] ∨ value.length % elementSize ≠ 0 then (.error .invalidParameter, t)
  else
    let elementCount := UInt16.ofNat (value.length / elementSize)
    if format.maxEntries < startIndex.toNat + elementCount.toNat - 1 then (.error .outOfRange, t)
    else t.writeElements (startIndex - 1) elementCount value

/-! ## What the passes do -/

theorem decodeEntries_succ (format : EntryFormat α) (octets : List UInt8) (elementCount : Nat) :
    format.decodeEntries octets 0 (elementCount + 1)
      = format.decode (octets.take format.size)
        :: format.decodeEntries (octets.drop format.size) 0 elementCount := by
  rw [EntryFormat.decodeEntries, List.range_succ_eq_map, List.map_cons, List.map_map]
  congr 1
  · simp [slice]
  · apply List.map_congr_left
    intro i _
    simp only [Function.comp_apply, slice, List.drop_drop]
    congr 3
    rw [Nat.succ_mul]
    omega

theorem readEntry_of_le {octets : List UInt8} (h : format.size ≤ octets.length) :
    readEntry format octets
      = .ok (format.decode (octets.take format.size), octets.drop format.size) :=
  if_neg (Nat.not_lt.mpr h)

theorem validateEntries_eq (elementCount : Nat) :
    ∀ {octets : List UInt8}, elementCount * format.size ≤ octets.length →
      validateEntries format elementCount octets
        = if (format.decodeEntries octets 0 elementCount).all format.isValid then .ok ()
          else .error .invalidParameter := by
  induction elementCount with
  | zero =>
    intro octets _
    rfl
  | succ elementCount ih =>
    intro octets hlength
    rw [Nat.succ_mul] at hlength
    have hrest : elementCount * format.size ≤ (octets.drop format.size).length := by
      rw [List.length_drop]
      omega
    rw [validateEntries, readEntry_of_le (by omega), decodeEntries_succ, List.all_cons]
    simp only [ih hrest]
    cases format.isValid (format.decode (octets.take format.size)) <;> simp

theorem setLoop_eq (elementCount : Nat) :
    ∀ {index : UInt16} {octets : List UInt8} {t : LoadableTable format},
      elementCount * format.size ≤ octets.length → index.toNat + elementCount ≤ format.maxEntries →
      format.maxEntries < 2 ^ 16 →
      ∃ t' : LoadableTable format, setLoop elementCount index octets t = (.ok (), t')
        ∧ t'.entries = writeFrom format.blank t.entries index.toNat
            (format.decodeEntries octets 0 elementCount)
        ∧ t'.loadState = t.loadState := by
  induction elementCount with
  | zero =>
    intro index octets t _ _ _
    exact ⟨t, rfl, rfl, rfl⟩
  | succ elementCount ih =>
    intro index octets t hlength hroom hmax
    rw [Nat.succ_mul] at hlength
    have hrest : elementCount * format.size ≤ (octets.drop format.size).length := by
      rw [List.length_drop]
      omega
    -- the index stays below the capacity, so it does not wrap
    have hnext : (index + 1).toNat = index.toNat + 1 := by
      rw [UInt16.toNat_add]
      exact Nat.mod_eq_of_lt (by simp only [UInt16.toNat_one]; omega)
    rw [setLoop, readEntry_of_le (by omega), decodeEntries_succ]
    simp only [setExpand, dif_neg (show ¬ format.maxEntries ≤ index.toNat by omega)]
    obtain ⟨t', hrun, hentries, hstate⟩ := @ih (index + 1) _ _ hrest (by omega) hmax
    exact ⟨t', hrun, by rw [hentries, hnext, writeFrom], hstate⟩

/-- The two passes together are `setEntries`. -/
theorem writeElements_eq {t : LoadableTable format} {start elementCount : UInt16}
    {octets : List UInt8} (hlength : elementCount.toNat * format.size ≤ octets.length)
    (hroom : start.toNat + elementCount.toNat ≤ format.maxEntries) (hmax : format.maxEntries < 2 ^ 16) :
    t.writeElements start elementCount octets
      = match t.setEntries start.toNat (format.decodeEntries octets 0 elementCount.toNat) with
        | none => (.error .invalidParameter, t)
        | some t' => (.ok (), t') := by
  rw [writeElements, validateEntries_eq _ hlength, setEntries]
  by_cases hvalid : (format.decodeEntries octets 0 elementCount.toNat).all format.isValid = true
  · obtain ⟨t', hrun, hentries, hstate⟩ := setLoop_eq elementCount.toNat (t := t) hlength hroom hmax
    rw [if_pos hvalid, if_pos hvalid, dif_pos (by simpa using hroom)]
    simp only [hrun]
    congr 1
    cases t'
    simp_all
  · rw [if_neg hvalid, if_neg hvalid]

/-- The outcome of a write as the handlers give it. -/
def outcome (result : Result Unit × LoadableTable format) : Option (LoadableTable format) :=
  match result with
  | (.error _, _) => none
  | (.ok (), t) => some t

theorem toNat_elementCount (value : List UInt8) (size : Nat) :
    (UInt16.ofNat (value.length / size)).toNat = value.length / size % 2 ^ 16 := rfl

theorem toNat_pred {index : UInt16} (h : index ≠ 0) : (index - 1).toNat = index.toNat - 1 := by
  have hpos : 1 ≤ index.toNat := Nat.one_le_iff_ne_zero.mpr fun hzero =>
    h (UInt16.toNat_inj.mp hzero)
  rw [UInt16.toNat_sub_of_le _ _ (UInt16.le_iff_toNat_le.mpr (by simpa using hpos)), UInt16.toNat_one]

theorem elementSize_tableData {dataType : UInt8}
    (hsize : propertyElementSize dataType = format.size) (objectType : UInt16) (base : Nat) :
    (handler objectType dataType base .tableData : Handler (LoadableTable format)).elementSize
      = format.size := by
  rw [Handler.elementSize]
  simp only [handler, hsize, if_neg (Nat.ne_of_gt format.size_pos)]

section

variable {dataType : UInt8} (hsize : propertyElementSize dataType = format.size)
  (htype : dataType ≠ 0x00) (hmax : format.maxEntries < 2 ^ 16)

include hsize hmax

theorem writeTable_of_checks {t : LoadableTable format} {start : UInt16} {value : List UInt8}
    (hstart : start ≠ 0) (hvalue : value ≠ []) (hwhole : value.length % format.size = 0)
    (hroom : start.toNat + value.length / format.size % 2 ^ 16 - 1 ≤ format.maxEntries) :
    t.writeTable dataType start value
      = match t.setEntries (start.toNat - 1)
          (format.decodeEntries value 0 (value.length / format.size % 2 ^ 16)) with
        | none => (.error .invalidParameter, t)
        | some t' => (.ok (), t') := by
  have hpos := format.size_pos
  have hone : 1 ≤ start.toNat := Nat.one_le_iff_ne_zero.mpr fun hzero =>
    hstart (UInt16.toNat_inj.mp hzero)
  have hpred := toNat_pred hstart
  have hcount := toNat_elementCount value format.size
  have hoctets : (UInt16.ofNat (value.length / format.size)).toNat * format.size
      ≤ value.length := by
    rw [hcount]
    exact Nat.le_trans (Nat.mul_le_mul_right _ (Nat.mod_le _ _)) (Nat.div_mul_le_self _ _)
  simp only [writeTable, hsize]
  rw [if_neg hstart, if_neg (by omega), if_neg (by simp [hvalue, hwhole]), hcount,
    if_neg (by omega), writeElements_eq hoctets (by rw [hpred, hcount]; omega) hmax, hpred, hcount]

include htype

theorem handler_writeProperty_eq (objectType : UInt16) (base : Nat) (t : LoadableTable format)
    (start : UInt16) (value : List UInt8) :
    (handler objectType dataType base .tableData : Handler (LoadableTable format)).writeProperty t
        start.toNat value
      = outcome (t.writeTable dataType start value) := by
  have hpos := format.size_pos
  have helement := elementSize_tableData hsize objectType base
  by_cases hstart : start = 0
  · subst hstart
    rfl
  have hstartNat : start.toNat ≠ 0 := fun hzero => hstart (UInt16.toNat_inj.mp hzero)
  have hcan : (handler objectType dataType base .tableData :
      Handler (LoadableTable format)).capability.canWrite = true := rfl
  have htypeNe : (handler objectType dataType base .tableData :
      Handler (LoadableTable format)).type ≠ 0x00 := htype
  rw [Handler.writeProperty, if_neg hstartNat, if_neg (by simp [hcan]), if_neg htypeNe, helement,
    if_neg (Nat.ne_of_gt hpos)]
  -- Both make the same checks in the same order; only the passes over the octets differ.
  by_cases hvalue : value = [] ∨ value.length % format.size ≠ 0
  · rw [if_pos hvalue, writeTable, if_neg hstart, hsize, if_neg (Nat.ne_of_gt hpos), if_pos hvalue]
    rfl
  · rw [if_neg hvalue]
    simp only [not_or, not_not] at hvalue
    by_cases hroom : format.maxEntries < start.toNat + value.length / format.size % 2 ^ 16 - 1
    · have hrefused : t.writeTable dataType start value = (.error .outOfRange, t) := by
        rw [writeTable, if_neg hstart, hsize, if_neg (Nat.ne_of_gt hpos),
          if_neg (by simp [hvalue.1, hvalue.2])]
        exact if_pos hroom
      rw [hrefused]
      exact if_pos hroom
    · rw [writeTable_of_checks hsize hmax hstart hvalue.1 hvalue.2 (Nat.not_lt.mp hroom)]
      refine (if_neg hroom).trans ?_
      change t.setEntries _ _ = _
      cases t.setEntries (start.toNat - 1)
          (format.decodeEntries value 0 (value.length / format.size % 2 ^ 16)) <;> rfl

end

/-! ## Tables as arrays -/

section

variable (objectType : UInt16) (dataType : UInt8) (base : Nat)

/-- Element `index` as a client reads it. -/
def elementAt (t : LoadableTable format) (index : Nat) : Option (List UInt8) :=
  (handler objectType dataType base .tableData : Handler (LoadableTable format)).readProperty none t
    index 1

/-- The number of elements as a client reads it. -/
def elementCount (t : LoadableTable format) : Option Nat :=
  (handler objectType dataType base .tableData : Handler (LoadableTable format)).propertyElementCount t

/-- The elements of the data, from a start on, and nothing else. -/
structure ArrayUpdate (t t' : LoadableTable format) (start : Nat) (value : List UInt8) : Prop where
  written : ∀ i < value.length / format.size,
    t'.elementAt objectType dataType base (start + i)
      = some (slice value (i * format.size) format.size)
  others : ∀ j, j < start ∨ start + value.length / format.size ≤ j →
    t'.elementAt objectType dataType base j = t.elementAt objectType dataType base j
  count : ∀ old, t.elementCount objectType dataType base = some old →
    t'.elementCount objectType dataType base
      = some (max old (start + value.length / format.size - 1))

/-- A write is an update of the array, or it fails and leaves the table. -/
def WritesArray (t : LoadableTable format) (start : UInt16) (value : List UInt8) : Prop :=
  match t.writeTable dataType start value with
  | (.ok (), t') => t.ArrayUpdate objectType dataType base t' start.toNat value
  | (.error _, t') => t' = t

end

/-- The writes that are accepted for what is left of their number of elements modulo `2 ^ 16`. -/
structure CutShort (format : EntryFormat α) (start : UInt16) (value : List UInt8) : Prop where
  many : 2 ^ 16 ≤ value.length / format.size
  counted : start ≠ 0
  whole : value.length % format.size = 0
  room : start.toNat + value.length / format.size % 2 ^ 16 - 1 ≤ format.maxEntries
  valid : (format.decodeEntries value 0 (value.length / format.size % 2 ^ 16)).all format.isValid

section

variable {objectType : UInt16} {dataType : UInt8} {base : Nat}
  (hsize : propertyElementSize dataType = format.size) (hmax : format.maxEntries < 2 ^ 16)

include hsize

theorem elementAt_eq (t : LoadableTable format) (index : Nat) :
    t.elementAt objectType dataType base index
      = if index = 0 ∨ format.maxEntries < index then none
        else some (format.encode (t.get (index - 1))) := by
  have hpos := format.size_pos
  have helement := elementSize_tableData hsize objectType base
  have hread : (handler objectType dataType base .tableData :
      Handler (LoadableTable format)).read t (index - 1) 1
        = some (format.encode (t.get (index - 1))) := by
    simp [handler, EntryFormat.encodeEntries]
  have hlength := format.length_encode (t.get (index - 1))
  rw [elementAt, Handler.readProperty]
  simp only [helement, hread, Nat.add_sub_cancel, Nat.one_mul]
  have hcan : (handler objectType dataType base .tableData :
      Handler (LoadableTable format)).capability.canRead = true := rfl
  have hcapacity : (handler objectType dataType base .tableData :
      Handler (LoadableTable format)).maxElements = format.maxEntries := rfl
  by_cases hzero : index = 0
  · rw [if_pos (.inl hzero), if_pos (.inl hzero)]
  · rw [if_neg (by simp [hzero]), if_neg (by simp [hcan]), hcapacity]
    by_cases hlarge : format.maxEntries < index
    · rw [if_pos hlarge, if_pos (.inr hlarge)]
    · rw [if_neg hlarge, if_neg (Nat.ne_of_gt hpos), if_neg (not_or.mpr ⟨hzero, hlarge⟩)]
      simp [hlength]

omit hsize in
theorem elementCount_eq (t : LoadableTable format) :
    t.elementCount objectType dataType base = some t.entries.length := rfl

omit hsize in
theorem get_of_writeFrom {t t' : LoadableTable format} {start : Nat} {news : List α}
    (h : t'.entries = writeFrom format.blank t.entries start news) (index : Nat) :
    t'.get index
      = if start ≤ index ∧ index < start + news.length then news.getD (index - start) format.blank
        else t.get index := by
  rw [get, get, List.getD_eq_getElem?_getD, h, getElem?_writeFrom, List.getD_eq_getElem?_getD,
    List.getD_eq_getElem?_getD]
  by_cases hinside : start ≤ index ∧ index < start + news.length
  · rw [if_pos hinside, if_pos hinside]
  · rw [if_neg hinside, if_neg hinside]
    by_cases hold : index < t.entries.length
    · rw [if_pos hold]
    · -- past the old end there was the blank, and there it is still
      rw [if_neg hold, List.getElem?_eq_none (Nat.not_lt.mp hold)]
      split <;> rfl

theorem arrayUpdate_of_writeFrom {t t' : LoadableTable format} {start : Nat} {value : List UInt8}
    (hstart : 1 ≤ start) (hvalue : value ≠ []) (hwhole : value.length % format.size = 0)
    (hroom : start + value.length / format.size - 1 ≤ format.maxEntries)
    (h : t'.entries = writeFrom format.blank t.entries (start - 1)
      (format.decodeEntries value 0 (value.length / format.size))) :
    t.ArrayUpdate objectType dataType base t' start value where
  written := by
    intro i hi
    have hslice : (slice value (i * format.size) format.size).length = format.size := by
      have hend : (i + 1) * format.size ≤ value.length / format.size * format.size :=
        Nat.mul_le_mul_right _ hi
      have hle := Nat.le_trans hend (Nat.div_mul_le_self _ _)
      rw [Nat.succ_mul] at hle
      rw [slice, List.length_take, List.length_drop]
      omega
    -- The client counts elements from one, the entries count from zero.
    have hget := get_of_writeFrom h (start + i - 1)
    rw [if_pos (by rw [EntryFormat.length_decodeEntries]; omega), List.getD_eq_getElem?_getD,
      EntryFormat.getElem?_decodeEntries, if_pos (by omega), Option.getD_some, Nat.zero_add] at hget
    have hindex : start + i - 1 - (start - 1) = i := by omega
    rw [hindex] at hget
    rw [elementAt_eq hsize, if_neg (by omega), hget, format.encode_decode _ hslice]
  others := by
    intro j hj
    have hget := get_of_writeFrom h (j - 1)
    rw [elementAt_eq hsize, elementAt_eq hsize]
    by_cases hout : j = 0 ∨ format.maxEntries < j
    · rw [if_pos hout, if_pos hout]
    · rw [if_neg hout, if_neg hout, hget,
        if_neg (by rw [EntryFormat.length_decodeEntries]; omega)]
  count := by
    intro old hold
    rw [elementCount_eq, Option.some.injEq] at hold
    -- A write of no entries would leave the length as it is.
    have hne : format.decodeEntries value 0 (value.length / format.size) ≠ [] := by
      intro hnil
      have hzero := congrArg List.length hnil
      rw [EntryFormat.length_decodeEntries, List.length_nil] at hzero
      have hlength := List.length_pos_of_ne_nil hvalue
      have hdiv := Nat.div_add_mod value.length format.size
      rw [hzero, hwhole] at hdiv
      omega
    rw [elementCount_eq, h, length_writeFrom, if_neg hne, EntryFormat.length_decodeEntries, hold,
      Nat.sub_add_comm hstart]

include hmax

/-- When a write is an update of the array, for a table whose entries have the size that the
catalogue has for their data type. -/
theorem writesArray_iff (t : LoadableTable format) (start : UInt16) (value : List UInt8) :
    t.WritesArray objectType dataType base start value ↔ ¬ CutShort format start value := by
  have hpos := format.size_pos
  rw [WritesArray]
  by_cases hstart : start = 0
  · subst hstart
    exact ⟨fun _ hcut => hcut.counted rfl, fun _ => rfl⟩
  have hone : 1 ≤ start.toNat := Nat.one_le_iff_ne_zero.mpr fun hzero =>
    hstart (UInt16.toNat_inj.mp hzero)
  by_cases hvalue : value = [] ∨ value.length % format.size ≠ 0
  · have hrefused : t.writeTable dataType start value = (.error .invalidParameter, t) := by
      rw [writeTable, if_neg hstart, hsize, if_neg (Nat.ne_of_gt hpos), if_pos hvalue]
    rw [hrefused]
    refine ⟨fun _ hcut => ?_, fun _ => rfl⟩
    rcases hvalue with hnil | hpart
    · have hmany := hcut.many
      rw [hnil, List.length_nil, Nat.zero_div] at hmany
      omega
    · exact hpart hcut.whole
  simp only [not_or, not_not] at hvalue
  by_cases hroom : format.maxEntries < start.toNat + value.length / format.size % 2 ^ 16 - 1
  · have hrefused : t.writeTable dataType start value = (.error .outOfRange, t) := by
      rw [writeTable, if_neg hstart, hsize, if_neg (Nat.ne_of_gt hpos),
        if_neg (by simp [hvalue.1, hvalue.2])]
      exact if_pos hroom
    rw [hrefused]
    exact ⟨fun _ hcut => Nat.not_lt.mpr hcut.room hroom, fun _ => rfl⟩
  rw [writeTable_of_checks hsize hmax hstart hvalue.1 hvalue.2 (Nat.not_lt.mp hroom), setEntries]
  by_cases hvalid :
      (format.decodeEntries value 0 (value.length / format.size % 2 ^ 16)).all format.isValid = true
  · rw [if_pos hvalid, dif_pos (by rw [EntryFormat.length_decodeEntries]; omega)]
    dsimp only
    constructor
    · -- an accepted write of so many elements cannot make the table that long
      intro hupdate hcut
      have hcount := hupdate.count _ (elementCount_eq t)
      have hbounded := hcut.many
      rw [elementCount_eq, Option.some.injEq, length_writeFrom,
        EntryFormat.length_decodeEntries] at hcount
      have hlength := t.bounded
      split at hcount <;> omega
    -- Without the cut, the octets that are decoded are all that were given.
    · intro hcut
      have hfew : value.length / format.size < 2 ^ 16 := by
        by_contra hmany
        exact hcut ⟨Nat.not_lt.mp hmany, hstart, hvalue.2, Nat.not_lt.mp hroom, hvalid⟩
      rw [Nat.mod_eq_of_lt hfew] at hroom
      apply arrayUpdate_of_writeFrom hsize hone hvalue.1 hvalue.2 (Nat.not_lt.mp hroom)
      dsimp only
      rw [Nat.mod_eq_of_lt hfew]
  · rw [if_neg hvalid]
    exact ⟨fun _ hcut => hvalid hcut.valid, fun _ => rfl⟩

end

/-- Table writes as array updates. A write to the address table or the association table is an
update of an array, or fails and changes nothing, unless it is cut short. -/
theorem table_writes_iff (addresses : AddressTable) (associations : AssociationTable) (start : UInt16)
    (value : List UInt8) :
    (addresses.WritesArray 1 0x04 0x4000 start value ↔ ¬ CutShort groupAddressFormat start value)
    ∧ (associations.WritesArray 2 0x14 0x4400 start value ↔ ¬ CutShort associationFormat start value) :=
  ⟨writesArray_iff (by decide) (by decide) addresses start value,
    writesArray_iff (by decide) (by decide) associations start value⟩

/-- A write of 65536 addresses is accepted and writes none of them. -/
theorem many_addresses_cut_short :
    ({} : AddressTable).writeTable 0x04 1 (List.replicate (2 ^ 17) 0x01) = (.ok (), {})
    ∧ ¬ ({} : AddressTable).WritesArray 1 0x04 0x4000 1 (List.replicate (2 ^ 17) 0x01) := by
  have hlength : (List.replicate (2 ^ 17) (0x01 : UInt8)).length = 2 ^ 17 := List.length_replicate
  have hne : List.replicate (2 ^ 17) (0x01 : UInt8) ≠ [] := by
    intro hnil
    rw [hnil] at hlength
    cases hlength
  have hcount : (List.replicate (2 ^ 17) (0x01 : UInt8)).length / groupAddressFormat.size % 2 ^ 16
      = 0 := by
    rw [hlength]
    rfl
  have hwhole : (List.replicate (2 ^ 17) (0x01 : UInt8)).length % groupAddressFormat.size = 0 := by
    rw [hlength]
    rfl
  constructor
  · rw [writeTable_of_checks (by decide) (by decide) (by decide) hne hwhole
      (by rw [hcount]; decide), hcount]
    rfl
  · rw [writesArray_iff (by decide) (by decide), not_not]
    refine ⟨?_, by decide, hwhole, by rw [hcount]; decide, by rw [hcount]; rfl⟩
    rw [hlength]
    decide

end LoadableTable

end KnxStack.Objects
