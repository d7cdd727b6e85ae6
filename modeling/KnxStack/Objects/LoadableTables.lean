import KnxStack.Objects.PropertyKernel

/-!
# Loadable tables

`AddressTableDomain` and `AssociationTableDomain` (`objects/address_table_object.cpp`,
`objects/association_table_object.cpp`): a list of entries with a fixed capacity and a load state,
that a management client writes by property and that a download fills from a memory segment.

The two differ in their entries alone, and in how an entry is added: an `EntryFormat` has the octets,
the validity and the blank of an entry.
-/

set_option autoImplicit false

namespace KnxStack.Objects

open KnxStack.Lib.Growing KnxStack.Lib.Octets KnxStack.Lib.Words

/-! ## Entries -/

/-- The entries of a table: `ScalarCodec`, `isValid` and the entry that fills a gap. -/
structure EntryFormat (α : Type) where
  size : Nat
  maxEntries : Nat
  encode : α → List UInt8
  decode : List UInt8 → α
  isValid : α → Bool
  blank : α
  size_pos : 0 < size
  length_encode : ∀ entry, (encode entry).length = size
  decode_encode : ∀ entry, decode (encode entry) = entry
  encode_decode : ∀ octets, octets.length = size → encode (decode octets) = octets
  blank_not_valid : isValid blank = false

/-- Two octets as one word, the high one first. -/
def wordAt (octets : List UInt8) (offset : Nat) : UInt16 :=
  joinBytes (octets.getD offset 0) (octets.getD (offset + 1) 0)

theorem wordAt_pair (high low : UInt8) : wordAt [high, low] 0 = joinBytes high low := rfl

/-- A group address: two octets, not zero. -/
def groupAddressFormat : EntryFormat UInt16 where
  size := 2
  maxEntries := 256
  encode := fun address => [highByte address, lowByte address]
  decode := fun octets => wordAt octets 0
  isValid := fun address => address != 0
  blank := 0
  size_pos := by decide
  length_encode := fun _ => rfl
  decode_encode := fun address => joinBytes_highByte_lowByte address
  encode_decode := by
    intro octets hlength
    obtain ⟨high, low, rfl⟩ := List.length_eq_two.mp hlength
    rw [wordAt_pair, highByte_joinBytes, lowByte_joinBytes]
  blank_not_valid := rfl

/-- `AssociationEntry`. -/
structure AssociationEntry where
  addressIndex : UInt16
  groupObjectNumber : UInt16
  deriving DecidableEq, Repr

/-- `AssociationEntry::isValid`: the index zero and the number `0xFFFF` stand for none. -/
def AssociationEntry.isValid (entry : AssociationEntry) : Bool :=
  entry.addressIndex != 0 && entry.groupObjectNumber != 0xFFFF

/-- An association: four octets, the index before the number. -/
def associationFormat : EntryFormat AssociationEntry where
  size := 4
  maxEntries := 512
  encode := fun entry =>
    [highByte entry.addressIndex, lowByte entry.addressIndex, highByte entry.groupObjectNumber,
      lowByte entry.groupObjectNumber]
  decode := fun octets => ⟨wordAt octets 0, wordAt octets 2⟩
  isValid := AssociationEntry.isValid
  blank := ⟨0, 0xFFFF⟩
  size_pos := by decide
  length_encode := fun _ => rfl
  decode_encode := by
    intro entry
    exact congrArg₂ AssociationEntry.mk (joinBytes_highByte_lowByte _) (joinBytes_highByte_lowByte _)
  encode_decode := by
    intro octets hlength
    rcases octets with _ | ⟨a, _ | ⟨b, _ | ⟨c, _ | ⟨d, _ | ⟨e, rest⟩⟩⟩⟩⟩
    case cons.cons.cons.cons.nil =>
      have hfirst : wordAt [a, b, c, d] 0 = joinBytes a b := rfl
      have hsecond : wordAt [a, b, c, d] 2 = joinBytes c d := rfl
      simp only [hfirst, hsecond, highByte_joinBytes, lowByte_joinBytes]
    all_goals simp at hlength
  blank_not_valid := rfl

namespace EntryFormat

variable {α : Type} (format : EntryFormat α)

/-- The entries that some octets hold, from an offset on. -/
def decodeEntries (octets : List UInt8) (offset count : Nat) : List α :=
  (List.range count).map fun i => format.decode (slice octets (offset + i * format.size) format.size)

/-- The octets of some entries. -/
def encodeEntries (entries : List α) : List UInt8 := entries.flatMap format.encode

@[simp] theorem length_decodeEntries (octets : List UInt8) (offset count : Nat) :
    (format.decodeEntries octets offset count).length = count := by
  rw [decodeEntries, List.length_map, List.length_range]

theorem length_encodeEntries (entries : List α) :
    (format.encodeEntries entries).length = entries.length * format.size := by
  induction entries with
  | nil => exact (Nat.zero_mul _).symm
  | cons entry entries ih =>
    rw [encodeEntries, List.flatMap_cons, List.length_append, ← encodeEntries, ih,
      format.length_encode, List.length_cons, Nat.succ_mul, Nat.add_comm]

theorem encodeEntries_ne_nil {entries : List α} (h : entries ≠ []) :
    format.encodeEntries entries ≠ [] := by
  intro hnil
  have hlength := format.length_encodeEntries entries
  rw [hnil, List.length_nil] at hlength
  have hpos := Nat.mul_pos (List.length_pos_of_ne_nil h) format.size_pos
  omega

theorem getElem?_decodeEntries (octets : List UInt8) (offset count i : Nat) :
    (format.decodeEntries octets offset count)[i]?
      = if i < count then
          some (format.decode (slice octets (offset + i * format.size) format.size))
        else none := by
  rw [decodeEntries, List.getElem?_map]
  by_cases hi : i < count
  · rw [if_pos hi, List.getElem?_range hi]
    rfl
  · rw [if_neg hi, List.getElem?_eq_none (by rw [List.length_range]; omega)]
    rfl

theorem slice_encodeEntries (entries : List α) :
    ∀ (i : Nat) (entry : α), entries[i]? = some entry →
      slice (format.encodeEntries entries) (i * format.size) format.size = format.encode entry := by
  induction entries with
  | nil =>
    intro i entry h
    cases h
  | cons first entries ih =>
    intro i entry h
    have hfirst := format.length_encode first
    rw [encodeEntries, List.flatMap_cons, ← encodeEntries, slice]
    cases i with
    | zero =>
      rw [List.getElem?_cons_zero, Option.some.injEq] at h
      rw [Nat.zero_mul, List.drop_zero, h, List.take_append_of_le_length (by rw [← h, hfirst]),
        List.take_of_length_le (by rw [← h, hfirst])]
    | succ i =>
      have hskip : (i + 1) * format.size = (format.encode first).length + i * format.size := by
        rw [hfirst, Nat.succ_mul, Nat.add_comm]
      rw [hskip, List.drop_length_add_append]
      exact ih i entry h

theorem decodeEntries_encodeEntries (entries : List α) :
    format.decodeEntries (format.encodeEntries entries) 0 entries.length = entries := by
  apply List.ext_getElem?
  intro i
  rw [getElem?_decodeEntries]
  by_cases hi : i < entries.length
  · have hentry := List.getElem?_eq_getElem hi
    rw [if_pos hi, Nat.zero_add, format.slice_encodeEntries entries i _ hentry,
      format.decode_encode, hentry]
  · rw [if_neg hi, List.getElem?_eq_none (by omega)]

theorem bounded_nil : ([] : List α).length ≤ format.maxEntries := Nat.zero_le _

end EntryFormat

/-! ## Tables -/

/-- `AddressTableDomain` and `AssociationTableDomain`: as many entries as fit, and the load state. A
device starts with tables that count as loaded. -/
structure LoadableTable {α : Type} (format : EntryFormat α) where
  entries : List α := []
  bounded : entries.length ≤ format.maxEntries := by exact EntryFormat.bounded_nil _
  loadState : UInt8 := 1

/-- The group address table. -/
abbrev AddressTable : Type := LoadableTable groupAddressFormat

/-- The association table. -/
abbrev AssociationTable : Type := LoadableTable associationFormat

namespace LoadableTable

variable {α : Type} {format : EntryFormat α}

/-- `get`: past the end there is the blank entry. -/
def get (t : LoadableTable format) (index : Nat) : α := t.entries.getD index format.blank

/-- `clear`. -/
def clear (t : LoadableTable format) : LoadableTable format := { loadState := t.loadState }

/-- `isValid`. -/
def isValid (t : LoadableTable format) : Bool := t.entries.all format.isValid

/-- The writes of `VariableTableProperty::write`: all entries are validated first, and then set one
by one with `setExpand`. -/
def setEntries (t : LoadableTable format) (start : Nat) (news : List α) :
    Option (LoadableTable format) :=
  if news.all format.isValid then
    if h : start + news.length ≤ format.maxEntries then
      some
        { entries := writeFrom format.blank t.entries start news
          bounded := by
            have hbounded := t.bounded
            rw [length_writeFrom]
            split
            · exact hbounded
            · omega
          loadState := t.loadState }
    else none
  else none

/-- The push of an entry that is not there yet, if the table is not full. -/
def insert [DecidableEq α] (t : LoadableTable format) (entry : α) : LoadableTable format :=
  if h : t.entries.length < format.maxEntries then
    { entries := insertNew t.entries entry
      bounded := Nat.le_trans (length_insertNew_le t.entries entry) h
      loadState := t.loadState }
  else t

/-- `loadState`, `setLoadState` and `loadControlReset`. -/
def loadable : Loadable (LoadableTable format) where
  loadState := fun t => t.loadState
  setLoadState := fun t state => { t with loadState := state }
  loadControlReset := clear

/-- The properties of a loadable table. -/
inductive Property where
  | objectType
  | loadState
  | tableReference
  | tableData
  deriving DecidableEq, Repr

/-- The handlers of a table: its object type, the data type of its entries and the address of its
load segment. -/
def handler (objectType : UInt16) (dataType : UInt8) (base : Nat) :
    Property → Handler (LoadableTable format)
  | .objectType => .scalar 1 0x04 .readOnly 2 (fun _ => objectType.toNat) fun _ _ => none
  | .loadState => loadable.handler 5
  | .tableReference => .scalar 7 0x09 .readOnly 4 (fun _ => base) fun _ _ => none
  | .tableData =>
      { id := 23
        type := dataType
        capability := .readWrite
        maxElements := format.maxEntries
        read := fun t start elementCount =>
          some (format.encodeEntries ((List.range elementCount).map fun i => t.get (start + i)))
        write := fun t start elementCount value =>
          t.setEntries start (format.decodeEntries value 0 elementCount)
        count := some fun t => t.entries.length }

/-! ## Filling a table from its segment -/

/-- The number of entries that a segment announces, cut to the capacity. -/
def segmentCount (format : EntryFormat α) (segment : List UInt8) : Nat :=
  min (wordAt segment 0).toNat format.maxEntries

/-- The entries that a segment announces. -/
def segmentEntries (format : EntryFormat α) (segment : List UInt8) : List α :=
  format.decodeEntries segment 2 (segmentCount format segment)

theorem length_segmentEntries_le (format : EntryFormat α) (segment : List UInt8) :
    (segmentEntries format segment).length ≤ format.maxEntries := by
  rw [segmentEntries, EntryFormat.length_decodeEntries]
  exact Nat.min_le_right _ _

variable [DecidableEq α]

theorem entries_insert {t : LoadableTable format} (h : t.entries.length < format.maxEntries)
    (entry : α) : (t.insert entry).entries = insertNew t.entries entry := by
  rw [insert, dif_pos h]

theorem entries_foldl_insert (news : List α) :
    ∀ t : LoadableTable format, t.entries.length + news.length ≤ format.maxEntries →
      (news.foldl insert t).entries = news.foldl insertNew t.entries := by
  induction news with
  | nil =>
    intro t _
    rfl
  | cons entry news ih =>
    intro t hroom
    rw [List.length_cons] at hroom
    have hentry : (t.insert entry).entries = insertNew t.entries entry :=
      entries_insert (by omega) entry
    have hlength := length_insertNew_le t.entries entry
    rw [List.foldl_cons, List.foldl_cons, ih, hentry]
    rw [hentry]
    omega

end LoadableTable

/-- `AddressTableDomain::add`: an address is not validated here. -/
def AddressTable.add (t : AddressTable) (address : UInt16) : AddressTable := t.insert address

/-- `AssociationTableDomain::add`. -/
def AssociationTable.add (t : AssociationTable) (entry : AssociationEntry) : AssociationTable :=
  if entry.isValid then t.insert entry else t

/-- `applyLoadedTableSegment` on the group address table. -/
def AddressTable.applySegment (t : AddressTable) (segment : List UInt8) : AddressTable :=
  (LoadableTable.segmentEntries groupAddressFormat segment).foldl AddressTable.add t.clear

/-- `applyLoadedTableSegment` on the association table. -/
def AssociationTable.applySegment (t : AssociationTable) (segment : List UInt8) :
    AssociationTable :=
  (LoadableTable.segmentEntries associationFormat segment).foldl AssociationTable.add t.clear

theorem AddressTable.entries_applySegment (t : AddressTable) (segment : List UInt8) :
    (t.applySegment segment).entries
      = (LoadableTable.segmentEntries groupAddressFormat segment).foldl insertNew [] := by
  have hroom := LoadableTable.length_segmentEntries_le groupAddressFormat segment
  exact LoadableTable.entries_foldl_insert _ t.clear (by rwa [LoadableTable.clear, List.length_nil,
    Nat.zero_add])

theorem AssociationTable.foldl_add (news : List AssociationEntry) (t : AssociationTable) :
    news.foldl AssociationTable.add t
      = (news.filter AssociationEntry.isValid).foldl LoadableTable.insert t := by
  induction news generalizing t with
  | nil => rfl
  | cons entry news ih =>
    rw [List.foldl_cons, ih, AssociationTable.add]
    by_cases hvalid : entry.isValid = true
    · rw [if_pos hvalid, List.filter_cons_of_pos hvalid, List.foldl_cons]
    · rw [if_neg hvalid, List.filter_cons_of_neg hvalid]

theorem AssociationTable.entries_applySegment (t : AssociationTable) (segment : List UInt8) :
    (t.applySegment segment).entries
      = ((LoadableTable.segmentEntries associationFormat segment).filter
          AssociationEntry.isValid).foldl insertNew [] := by
  have hroom := LoadableTable.length_segmentEntries_le associationFormat segment
  have hfilter := List.length_filter_le AssociationEntry.isValid
    (LoadableTable.segmentEntries associationFormat segment)
  rw [applySegment, foldl_add]
  exact LoadableTable.entries_foldl_insert _ t.clear (by
    rw [LoadableTable.clear, List.length_nil]
    omega)

end KnxStack.Objects
