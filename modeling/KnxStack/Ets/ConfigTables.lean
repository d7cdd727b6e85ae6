import KnxStack.Ets.ConfigLoader

/-!
# The tables of a loaded configuration

What a loader holds after any files (`Numbered`): the parsers number the entries by their positions,
narrowed to the width of the number, and take the object of an association from one octet. From it, what
`findAsapByAddress` and `findGoIndexByAsap` (`ets/ets_config_loader.cpp`) answer, and which octets of a
file the parsers take for which section.

- `numbered_loadFiles`: every loader is numbered.
- `parseDeviceConfig_reads`, `parseTable_reads`: the octets that a parser takes.
- `boundsRespected_iff`: when the parsers keep to the sections that the header declares.
- `lookupExact_iff`: when the lookups give the object of the association at the position of an address.
-/

set_option autoImplicit false

namespace KnxStack.Ets

open KnxStack.Lib KnxStack.Lib.Words

/-! ## Loaders after some files -/

/-- The loader after some files, each at a validation level of its own. -/
def loadFiles (files : List (List UInt8 × ValidationLevel)) : EtsConfigLoader :=
  run (fun s file => (loadFromBuffer s file.1 file.2).1) {} files

/-- The entries are numbered by their positions, objects of associations are one octet, and a valid
loader has group objects or addresses. -/
structure Numbered (s : EtsConfigLoader) : Prop where
  addresses : ∀ (i : Nat) (entry : AddressTableEntry), s.addressTable[i]? = some entry →
    entry.asap = UInt8.ofNat i
  associations : ∀ (i : Nat) (entry : AssociationTableEntry), s.associationTable[i]? = some entry →
    entry.asap = UInt8.ofNat i ∧ entry.groupObjectIndex.toNat < 256
  objects : ∀ (i : Nat) (entry : GroupObjectConfig), s.groupObjects[i]? = some entry →
    entry.index = UInt16.ofNat i
  nonempty : s.isValid = true → ¬(s.groupObjects = [] ∧ s.addressTable = [])

theorem parseTable_eq_some_iff {α : Type} {entrySize : Nat} {entry : Nat → Nat → α}
    {buffer : List UInt8} {offset : Nat} {table : List α} :
    parseTable entrySize entry buffer offset = some table ↔
      offset + 2 + (wordAt buffer offset).toNat * entrySize ≤ buffer.length ∧
        table = (List.range (wordAt buffer offset).toNat).map
          fun i => entry i (offset + 2 + i * entrySize) := by
  rw [parseTable]
  by_cases hcount : buffer.length < offset + 2
  · simp only [if_pos hcount, reduceCtorEq, false_iff, not_and]
    omega
  · rw [if_neg hcount]
    by_cases hentries : buffer.length < offset + 2 + (wordAt buffer offset).toNat * entrySize
    · simp only [if_pos hentries, reduceCtorEq, false_iff, not_and]
      omega
    · simp only [if_neg hentries, Option.some.injEq, Nat.le_of_not_lt hentries, true_and]
      exact eq_comm

theorem getElem?_of_parseTable {α : Type} {entrySize : Nat} {entry : Nat → Nat → α}
    {buffer : List UInt8} {offset : Nat} {table : List α}
    (h : parseTable entrySize entry buffer offset = some table) {i : Nat} {value : α}
    (hi : table[i]? = some value) : value = entry i (offset + 2 + i * entrySize) := by
  obtain ⟨-, rfl⟩ := parseTable_eq_some_iff.mp h
  rw [List.getElem?_map, Option.map_eq_some_iff] at hi
  obtain ⟨k, hk, rfl⟩ := hi
  obtain ⟨hlt, rfl⟩ := List.getElem?_eq_some_iff.mp hk
  rw [List.getElem_range]

theorem of_eq_read {α : Type} {present : Bool} {parsed : Option α} {value : α}
    (h : Section.of present parsed = .read value) : parsed = some value := by
  unfold Section.of at h
  cases present with
  | false => cases h
  | true =>
    cases parsed with
    | none => cases h
    | some parsed =>
      cases h
      rfl

/-- The sections that were read come out of their parsers. -/
structure Sections.ReadFrom (file : Sections) (buffer : List UInt8) : Prop where
  addresses : ∀ value, file.addresses = .read value →
    parseAddressTable buffer (addressOffset buffer) = some value
  associations : ∀ value, file.associations = .read value →
    parseAssociationTable buffer (associationOffset buffer) = some value
  objects : ∀ value, file.objects = .read value →
    parseGroupObjectTable buffer (groupObjectOffset buffer) = some value

theorem readFrom_readSections (buffer : List UInt8) : (readSections buffer).ReadFrom buffer := by
  rw [readSections]
  repeat' split
  all_goals
    refine ⟨?_, ?_, ?_⟩
    all_goals
      intro value hread
      first
        | exact of_eq_read hread
        | cases hread

theorem replace_cases {α : Type} (part : Section α) (old : α) :
    part.replace old = old ∨ ∃ value, part = .read value ∧ part.replace old = value := by
  cases part with
  | missing => exact Or.inl rfl
  | broken => exact Or.inl rfl
  | read value => exact Or.inr ⟨value, rfl, rfl⟩

theorem Numbered.loadFromBuffer {s : EtsConfigLoader} (h : Numbered s) (buffer : List UInt8)
    (level : ValidationLevel) : Numbered (loadFromBuffer s buffer level).1 := by
  by_cases hrefused : Refused buffer level
  · obtain ⟨-, hsame, hvalid⟩ := loadFromBuffer_refused hrefused s
    simp only [EtsConfigLoader.configuration, Prod.mk.injEq] at hsame
    obtain ⟨-, haddresses, hassociations, hobjects⟩ := hsame
    refine ⟨?_, ?_, ?_, ?_⟩
    · rw [haddresses]
      exact h.addresses
    · rw [hassociations]
      exact h.associations
    · rw [hobjects]
      exact h.objects
    · rw [haddresses, hobjects, hvalid]
      exact h.nonempty
  · obtain ⟨hconfiguration, -, hvalid⟩ := loadFromBuffer_parsed hrefused s
    have hread := readFrom_readSections buffer
    simp only [EtsConfigLoader.configuration, EtsConfigLoader.replace, Prod.mk.injEq]
      at hconfiguration
    obtain ⟨-, haddresses, hassociations, hobjects⟩ := hconfiguration
    refine ⟨?_, ?_, ?_, ?_⟩
    · rw [haddresses]
      rcases replace_cases (readSections buffer).addresses s.addressTable with hsame | ⟨table, htable, hsame⟩
      · rw [hsame]
        exact h.addresses
      · rw [hsame]
        intro i entry hi
        rw [getElem?_of_parseTable (hread.addresses table htable) hi]
    · rw [hassociations]
      rcases replace_cases (readSections buffer).associations s.associationTable with hsame | ⟨table, htable, hsame⟩
      · rw [hsame]
        exact h.associations
      · rw [hsame]
        intro i entry hi
        rw [getElem?_of_parseTable (hread.associations table htable) hi]
        refine ⟨rfl, ?_⟩
        rw [UInt8.toNat_toUInt16]
        exact UInt8.toNat_lt _
    · rw [hobjects]
      rcases replace_cases (readSections buffer).objects s.groupObjects with hsame | ⟨table, htable, hsame⟩
      · rw [hsame]
        exact h.objects
      · rw [hsame]
        intro i entry hi
        rw [getElem?_of_parseTable (hread.objects table htable) hi]
    · intro hsuccess
      rw [haddresses, hobjects]
      exact (hvalid.mp hsuccess).2

theorem numbered_loadFiles (files : List (List UInt8 × ValidationLevel)) :
    Numbered (loadFiles files) := by
  have hstep : ∀ (s : EtsConfigLoader) (file : List UInt8 × ValidationLevel),
      Numbered s → Numbered (loadFromBuffer s file.1 file.2).1 :=
    fun _ file h => h.loadFromBuffer file.1 file.2
  exact run_invariant hstep ⟨by simp, by simp, by simp, by simp⟩ files

/-! ## Octets of a section -/

/-- Octets that lie inside a section of a file. -/
def Inside (start size : Nat) (reads : List Nat) : Prop :=
  ∀ index ∈ reads, start ≤ index ∧ index < start + size

/-- The octets that `_parseDeviceConfig` takes. -/
def deviceReads (offset : Nat) : List Nat := List.range' offset 10

/-- The octets that a table parser takes: the count, and as many entries. -/
def tableReads (entrySize : Nat) (buffer : List UInt8) (offset : Nat) : List Nat :=
  [offset, offset + 1] ++ (List.range (wordAt buffer offset).toNat).flatMap
    fun i => List.range' (offset + 2 + i * entrySize) entrySize

/-- Two files of one length, with the same octets at some places. -/
structure SameAt (reads : List Nat) (buffer buffer' : List UInt8) : Prop where
  length : buffer'.length = buffer.length
  octets : ∀ index ∈ reads, octetAt buffer' index = octetAt buffer index

section Reads

variable {buffer buffer' : List UInt8} {offset : Nat}

theorem wordAt_congr {place : Nat} (h : octetAt buffer' place = octetAt buffer place)
    (h' : octetAt buffer' (place + 1) = octetAt buffer (place + 1)) :
    wordAt buffer' place = wordAt buffer place := by
  rw [wordAt, wordAt, h, h']

/-- The parsers take no other octets than these. -/
theorem parseDeviceConfig_reads (h : SameAt (deviceReads offset) buffer buffer') :
    parseDeviceConfig buffer' offset = parseDeviceConfig buffer offset := by
  have hoctet : ∀ k < 10, octetAt buffer' (offset + k) = octetAt buffer (offset + k) := by
    intro k hk
    apply h.octets
    rw [deviceReads, List.mem_range'_1]
    omega
  have hword : ∀ k < 9, wordAt buffer' (offset + k) = wordAt buffer (offset + k) := fun k hk =>
    wordAt_congr (hoctet k (by omega)) (hoctet (k + 1) (by omega))
  have hfirst := hword 0 (by decide)
  rw [Nat.add_zero] at hfirst
  have hserial : dwordAt buffer' (offset + 4) = dwordAt buffer (offset + 4) := by
    unfold dwordAt
    simp only [Nat.add_assoc, Nat.reduceAdd, hoctet 4 (by decide), hoctet 5 (by decide),
      hoctet 6 (by decide), hoctet 7 (by decide)]
  rw [parseDeviceConfig, parseDeviceConfig, h.length, hfirst, hword 2 (by decide), hserial,
    hoctet 8 (by decide), hoctet 9 (by decide)]

theorem parseTable_reads {α : Type} {entrySize : Nat} (entry : List UInt8 → Nat → Nat → α)
    (h : SameAt (tableReads entrySize buffer offset) buffer buffer')
    (hentry : ∀ i place, (∀ k < entrySize, octetAt buffer' (place + k) = octetAt buffer (place + k)) →
      entry buffer' i place = entry buffer i place) :
    parseTable entrySize (entry buffer') buffer' offset
      = parseTable entrySize (entry buffer) buffer offset := by
  have hcount : wordAt buffer' offset = wordAt buffer offset :=
    wordAt_congr (h.octets _ (by simp [tableReads])) (h.octets _ (by simp [tableReads]))
  have hentries : ∀ i ∈ List.range (wordAt buffer offset).toNat,
      entry buffer' i (offset + 2 + i * entrySize) = entry buffer i (offset + 2 + i * entrySize) := by
    intro i hi
    apply hentry
    intro k hk
    apply h.octets
    rw [tableReads, List.mem_append, List.mem_flatMap]
    refine Or.inr ⟨i, hi, ?_⟩
    rw [List.mem_range'_1]
    omega
  rw [parseTable, parseTable, h.length, hcount]
  dsimp only
  rw [List.map_congr_left hentries]

theorem parseAddressTable_reads (h : SameAt (tableReads 2 buffer offset) buffer buffer') :
    parseAddressTable buffer' offset = parseAddressTable buffer offset := by
  refine parseTable_reads
    (fun file i place => (⟨⟨wordAt file place⟩, UInt8.ofNat i⟩ : AddressTableEntry)) h ?_
  intro i place hsame
  have hfirst : octetAt buffer' place = octetAt buffer place := hsame 0 (by decide)
  rw [wordAt_congr hfirst (hsame 1 (by decide))]

theorem parseAssociationTable_reads (h : SameAt (tableReads 2 buffer offset) buffer buffer') :
    parseAssociationTable buffer' offset = parseAssociationTable buffer offset := by
  refine parseTable_reads (fun file i place =>
    (⟨UInt8.ofNat i, (octetAt file place).toUInt16, octetAt file (place + 1)⟩ :
      AssociationTableEntry)) h ?_
  intro i place hsame
  have hfirst : octetAt buffer' place = octetAt buffer place := hsame 0 (by decide)
  rw [hfirst, hsame 1 (by decide)]

theorem parseGroupObjectTable_reads (h : SameAt (tableReads 5 buffer offset) buffer buffer') :
    parseGroupObjectTable buffer' offset = parseGroupObjectTable buffer offset := by
  refine parseTable_reads (fun file i place =>
    (⟨UInt16.ofNat i, wordAt file place, octetAt file (place + 2), wordAt file (place + 3)⟩ :
      GroupObjectConfig)) h ?_
  intro i place hsame
  have hfirst : octetAt buffer' place = octetAt buffer place := hsame 0 (by decide)
  rw [wordAt_congr hfirst (hsame 1 (by decide)), hsame 2 (by decide),
    wordAt_congr (hsame 3 (by decide)) (hsame 4 (by decide))]

end Reads

/-- Where the header has the address table begin. -/
def addressStart (buffer : List UInt8) : Nat := 20 + (wordAt buffer 12).toNat

/-- Where the header has the association table begin. -/
def associationStart (buffer : List UInt8) : Nat :=
  addressStart buffer + (wordAt buffer 14).toNat

/-- Where the header has the group object table begin. -/
def objectStart (buffer : List UInt8) : Nat :=
  associationStart buffer + (wordAt buffer 16).toNat

/-- No declared section is skipped, and what is taken for it lies inside it. -/
structure BoundsRespected (buffer : List UInt8) : Prop where
  device : 0 < (wordAt buffer 12).toNat → devicePresent buffer = true ∧
    Inside 20 (wordAt buffer 12).toNat (deviceReads 20)
  addresses : 0 < (wordAt buffer 14).toNat → addressPresent buffer = true ∧
    Inside (addressStart buffer) (wordAt buffer 14).toNat
      (tableReads 2 buffer (addressOffset buffer))
  associations : 0 < (wordAt buffer 16).toNat → associationPresent buffer = true ∧
    Inside (associationStart buffer) (wordAt buffer 16).toNat
      (tableReads 2 buffer (associationOffset buffer))
  objects : 0 < (wordAt buffer 18).toNat → groupObjectPresent buffer = true ∧
    Inside (objectStart buffer) (wordAt buffer 18).toNat
      (tableReads 5 buffer (groupObjectOffset buffer))

/-- The declared size of a table is enough for the entries that it counts, and the file does not end in
front of it. -/
def TableFits (entrySize : Nat) (buffer : List UInt8) (start : Nat) (size : UInt16) : Prop :=
  0 < size.toNat → start < buffer.length ∧ 2 + (wordAt buffer start).toNat * entrySize ≤ size.toNat

/-- The sizes in the header agree with the file and with the counts of the tables. -/
structure SizesAgree (buffer : List UInt8) : Prop where
  device : 0 < (wordAt buffer 12).toNat →
    addressStart buffer ≤ buffer.length ∧ 10 ≤ (wordAt buffer 12).toNat
  addresses : TableFits 2 buffer (addressStart buffer) (wordAt buffer 14)
  associations : TableFits 2 buffer (associationStart buffer) (wordAt buffer 16)
  objects : TableFits 5 buffer (objectStart buffer) (wordAt buffer 18)

theorem inside_deviceReads_iff (size : Nat) : Inside 20 size (deviceReads 20) ↔ 10 ≤ size := by
  constructor
  · intro h
    have hlast := h 29 (by decide)
    omega
  · intro h index hindex
    rw [deviceReads, List.mem_range'_1] at hindex
    omega

theorem inside_tableReads_iff {entrySize : Nat} (hentry : 0 < entrySize) (buffer : List UInt8)
    (start size : Nat) :
    Inside start size (tableReads entrySize buffer start) ↔
      2 + (wordAt buffer start).toNat * entrySize ≤ size := by
  constructor
  · intro h
    by_cases hcount : (wordAt buffer start).toNat = 0
    · have hlow := h (start + 1) (by simp [tableReads])
      rw [hcount]
      omega
    · -- The last octet of the last entry.
      obtain ⟨last, hlast⟩ := Nat.exists_eq_succ_of_ne_zero hcount
      have hmem : start + 2 + last * entrySize + (entrySize - 1) ∈ tableReads entrySize buffer start := by
        rw [tableReads, List.mem_append, List.mem_flatMap]
        refine Or.inr ⟨last, List.mem_range.mpr (by omega), ?_⟩
        rw [List.mem_range'_1]
        omega
      have hend := (h _ hmem).2
      rw [hlast, Nat.succ_mul]
      omega
  · intro h index hindex
    rw [tableReads, List.mem_append, List.mem_flatMap] at hindex
    rcases hindex with hcount | ⟨i, hi, hentryIndex⟩
    · rcases List.mem_cons.mp hcount with rfl | hsecond
      · omega
      · rw [List.mem_singleton] at hsecond
        omega
    · rw [List.mem_range'_1] at hentryIndex
      have hroom : i * entrySize + entrySize ≤ (wordAt buffer start).toNat * entrySize := by
        rw [← Nat.succ_mul]
        exact Nat.mul_le_mul_right entrySize (List.mem_range.mp hi)
      omega

theorem zero_lt_iff_toNat (w : UInt16) : 0 < w ↔ 0 < w.toNat := UInt16.lt_iff_toNat_lt

theorem devicePresent_iff (buffer : List UInt8) :
    devicePresent buffer = true ↔
      0 < (wordAt buffer 12).toNat ∧ addressStart buffer ≤ buffer.length := by
  rw [devicePresent, Bool.and_eq_true, decide_eq_true_iff, decide_eq_true_iff, zero_lt_iff_toNat]
  rfl

theorem tablePresent_iff (size : UInt16) (offset length : Nat) :
    (decide (0 < size) && decide (offset < length)) = true ↔ 0 < size.toNat ∧ offset < length := by
  rw [Bool.and_eq_true, decide_eq_true_iff, decide_eq_true_iff, zero_lt_iff_toNat]

theorem offset_eq {size : UInt16} {present : Bool} {start : Nat}
    (h : 0 < size.toNat → present = true) :
    (if present then start + size.toNat else start) = start + size.toNat := by
  cases present with
  | true => rfl
  | false =>
    have hzero : size.toNat = 0 := by
      by_contra hsome
      exact absurd (h (Nat.pos_of_ne_zero hsome)) Bool.false_ne_true
    rw [hzero]
    rfl

theorem addressOffset_eq {buffer : List UInt8}
    (h : 0 < (wordAt buffer 12).toNat → devicePresent buffer = true) :
    addressOffset buffer = addressStart buffer := offset_eq h

theorem associationOffset_eq {buffer : List UInt8} (hstart : addressOffset buffer = addressStart buffer)
    (h : 0 < (wordAt buffer 14).toNat → addressPresent buffer = true) :
    associationOffset buffer = associationStart buffer := by
  rw [associationOffset, hstart]
  exact offset_eq h

theorem groupObjectOffset_eq {buffer : List UInt8}
    (hstart : associationOffset buffer = associationStart buffer)
    (h : 0 < (wordAt buffer 16).toNat → associationPresent buffer = true) :
    groupObjectOffset buffer = objectStart buffer := by
  rw [groupObjectOffset, hstart]
  exact offset_eq h

theorem tableRespected_iff {entrySize : Nat} (hentry : 0 < entrySize) (buffer : List UInt8)
    (start : Nat) (size : UInt16) :
    (0 < size.toNat → (decide (0 < size) && decide (start < buffer.length)) = true ∧
        Inside start size.toNat (tableReads entrySize buffer start)) ↔
      TableFits entrySize buffer start size := by
  unfold TableFits
  rw [tablePresent_iff, inside_tableReads_iff hentry]
  constructor
  · intro h hsize
    obtain ⟨⟨-, hstart⟩, hroom⟩ := h hsize
    exact ⟨hstart, hroom⟩
  · intro h hsize
    obtain ⟨hstart, hroom⟩ := h hsize
    exact ⟨⟨hsize, hstart⟩, hroom⟩

theorem boundsRespected_iff (buffer : List UInt8) : BoundsRespected buffer ↔ SizesAgree buffer := by
  have htable₂ := @tableRespected_iff 2 (by decide) buffer
  constructor
  · rintro ⟨hdevice, haddresses, hassociations, hobjects⟩
    have haddress := addressOffset_eq fun hsize => (hdevice hsize).1
    have hassociation := associationOffset_eq haddress fun hsize => (haddresses hsize).1
    have hobject := groupObjectOffset_eq hassociation fun hsize => (hassociations hsize).1
    rw [addressPresent, haddress] at haddresses
    rw [associationPresent, hassociation] at hassociations
    rw [groupObjectPresent, hobject] at hobjects
    refine ⟨?_, (htable₂ _ _).mp haddresses, (htable₂ _ _).mp hassociations,
      (tableRespected_iff (by decide) buffer _ _).mp hobjects⟩
    intro hsize
    obtain ⟨hpresent, hinside⟩ := hdevice hsize
    exact ⟨((devicePresent_iff buffer).mp hpresent).2, (inside_deviceReads_iff _).mp hinside⟩
  · rintro ⟨hdevice, haddresses, hassociations, hobjects⟩
    have hdevice' : 0 < (wordAt buffer 12).toNat → devicePresent buffer = true := fun hsize =>
      (devicePresent_iff buffer).mpr ⟨hsize, (hdevice hsize).1⟩
    have haddress := addressOffset_eq hdevice'
    have haddresses' := (htable₂ _ _).mpr haddresses
    have hassociation := associationOffset_eq haddress (by
      rw [addressPresent, haddress]
      exact fun hsize => (haddresses' hsize).1)
    have hassociations' := (htable₂ _ _).mpr hassociations
    have hobject := groupObjectOffset_eq hassociation (by
      rw [associationPresent, hassociation]
      exact fun hsize => (hassociations' hsize).1)
    have hobjects' := (tableRespected_iff (by decide) buffer _ _).mpr hobjects
    refine ⟨?_, ?_, ?_, ?_⟩
    · exact fun hsize => ⟨hdevice' hsize, (inside_deviceReads_iff _).mpr (hdevice hsize).2⟩
    · rw [addressPresent, haddress]
      exact haddresses'
    · rw [associationPresent, hassociation]
      exact hassociations'
    · rw [groupObjectPresent, hobject]
      exact hobjects'

/-! ## Lookups -/

/-- `findAsapByAddress`. -/
def EtsConfigLoader.findAsapByAddress (s : EtsConfigLoader) (groupAddr : GroupAddress) : Int :=
  match s.addressTable.find? fun entry => entry.groupAddress = groupAddr with
  | some entry => entry.asap.toNat
  | none => -1

/-- `GroupObjectIndex::invalid`. -/
def invalidGroupObjectIndex : UInt16 := 0xFFFF

/-- `findGoIndexByAsap`. -/
def EtsConfigLoader.findGoIndexByAsap (s : EtsConfigLoader) (asap : UInt8) : UInt16 :=
  match s.associationTable.find? fun entry => entry.asap = asap with
  | some entry => entry.groupObjectIndex
  | none => invalidGroupObjectIndex

/-- The lookups, for an address at its first position and the association at that position. -/
def LookupExact (s : EtsConfigLoader) : Prop :=
  ∀ (i : Nat) (address : AddressTableEntry) (association : AssociationTableEntry),
    s.addressTable[i]? = some address → s.associationTable[i]? = some association →
      (∀ j < i, ∀ other, s.addressTable[j]? = some other → other.groupAddress ≠ address.groupAddress) →
        s.findGoIndexByAsap (UInt8.ofNat (s.findAsapByAddress address.groupAddress).toNat)
          = association.groupObjectIndex

theorem find?_eq_of_first {α : Type} {l : List α} {p : α → Bool} {i : Nat} {a : α}
    (hi : l[i]? = some a) (ha : p a = true) (hfirst : ∀ j < i, ∀ b, l[j]? = some b → p b = false) :
    l.find? p = some a := by
  obtain ⟨hlt, hget⟩ := List.getElem?_eq_some_iff.mp hi
  rw [List.find?_eq_some_iff_getElem]
  refine ⟨ha, i, hlt, hget, ?_⟩
  intro j hj
  rw [hfirst j hj l[j] (List.getElem?_eq_getElem (by omega))]
  rfl

theorem Numbered.findAsapByAddress {s : EtsConfigLoader} (h : Numbered s) {i : Nat}
    {address : AddressTableEntry} (hi : s.addressTable[i]? = some address)
    (hfirst : ∀ j < i, ∀ other, s.addressTable[j]? = some other →
      other.groupAddress ≠ address.groupAddress) :
    UInt8.ofNat (s.findAsapByAddress address.groupAddress).toNat = UInt8.ofNat i := by
  have hfound : s.addressTable.find? (fun entry => entry.groupAddress = address.groupAddress)
      = some address :=
    find?_eq_of_first hi (by simp) fun j hj other hother => by simp [hfirst j hj other hother]
  rw [EtsConfigLoader.findAsapByAddress, hfound]
  simp only [Int.toNat_natCast]
  rw [UInt8.ofNat_toNat, h.addresses i address hi]

/-- The number of a position finds the first association with that number, 256 positions apart from the
others. -/
theorem Numbered.findGoIndexByAsap {s : EtsConfigLoader} (h : Numbered s) {i : Nat}
    {association : AssociationTableEntry} (hi : s.associationTable[i % 256]? = some association) :
    s.findGoIndexByAsap (UInt8.ofNat i) = association.groupObjectIndex := by
  have hsame : UInt8.ofNat (i % 256) = UInt8.ofNat i := by
    apply UInt8.toNat_inj.mp
    rw [UInt8.toNat_ofNat', UInt8.toNat_ofNat']
    exact Nat.mod_mod i 256
  have hfound : s.associationTable.find? (fun entry => entry.asap = UInt8.ofNat i)
      = some association := by
    refine find?_eq_of_first hi ?_ ?_
    · rw [(h.associations _ _ hi).1, hsame]
      simp
    · intro j hj other hother
      rw [(h.associations _ _ hother).1, decide_eq_false_iff_not]
      intro hnumber
      have hvalue := congrArg UInt8.toNat hnumber
      rw [UInt8.toNat_ofNat', UInt8.toNat_ofNat'] at hvalue
      omega
  rw [EtsConfigLoader.findGoIndexByAsap, hfound]

/-- Where a position repeats modulo 256, its object repeats, as far as the position is the first one of
an address. -/
def ObjectsRepeat (addresses : List GroupAddress) (objects : List UInt16) : Prop :=
  ∀ (i : Nat) (address : GroupAddress) (object : UInt16), addresses[i]? = some address →
    objects[i]? = some object → (∀ j < i, addresses[j]? ≠ some address) →
      objects[i % 256]? = some object

theorem Numbered.lookupExact_iff {s : EtsConfigLoader} (h : Numbered s) :
    LookupExact s ↔ ObjectsRepeat (s.addressTable.map (·.groupAddress))
      (s.associationTable.map (·.groupObjectIndex)) := by
  constructor
  · intro hexact i g object hg hobject hfirst
    rw [List.getElem?_map, Option.map_eq_some_iff] at hg hobject
    obtain ⟨address, haddress, rfl⟩ := hg
    obtain ⟨association, hassociation, rfl⟩ := hobject
    have hfirst' : ∀ j < i, ∀ other, s.addressTable[j]? = some other →
        other.groupAddress ≠ address.groupAddress := by
      intro j hj other hother hsame
      apply hfirst j hj
      rw [List.getElem?_map, hother, Option.map_some, hsame]
    have hlt := (List.getElem?_eq_some_iff.mp hassociation).1
    have hlow : i % 256 < s.associationTable.length := Nat.lt_of_le_of_lt (Nat.mod_le i 256) hlt
    have hfound := hexact i address association haddress hassociation hfirst'
    rw [h.findAsapByAddress haddress hfirst',
      h.findGoIndexByAsap (List.getElem?_eq_getElem hlow)] at hfound
    rw [List.getElem?_map, List.getElem?_eq_getElem hlow, Option.map_some, hfound]
  · intro hrepeat i address association haddress hassociation hfirst
    have hobject := hrepeat i address.groupAddress association.groupObjectIndex
      (by rw [List.getElem?_map, haddress, Option.map_some])
      (by rw [List.getElem?_map, hassociation, Option.map_some])
      (by
        intro j hj hsame
        rw [List.getElem?_map, Option.map_eq_some_iff] at hsame
        obtain ⟨other, hother, hsame⟩ := hsame
        exact hfirst j hj other hother hsame)
    rw [List.getElem?_map, Option.map_eq_some_iff] at hobject
    obtain ⟨first, hlow, hsame⟩ := hobject
    rw [h.findAsapByAddress haddress hfirst, h.findGoIndexByAsap hlow, hsame]

/-! ## What a file makes of the tables -/

/-- The group addresses behind a file: its own, or the ones that were there. -/
def addressesAfter (s : EtsConfigLoader) (buffer : List UInt8) : List GroupAddress :=
  if 0 < (wordAt buffer 14).toNat then
    (List.range (wordAt buffer (addressStart buffer)).toNat).map
      fun i => ⟨wordAt buffer (addressStart buffer + 2 + i * 2)⟩
  else s.addressTable.map (·.groupAddress)

/-- The objects of the associations behind a file: its own, or the ones that were there. -/
def objectsAfter (s : EtsConfigLoader) (buffer : List UInt8) : List UInt16 :=
  if 0 < (wordAt buffer 16).toNat then
    (List.range (wordAt buffer (associationStart buffer)).toNat).map
      fun i => (octetAt buffer (associationStart buffer + 2 + i * 2)).toUInt16
  else s.associationTable.map (·.groupObjectIndex)

theorem readSections_whole {buffer : List UInt8} :
    (readSections buffer).broken = false →
      (readSections buffer).addresses
          = Section.of (addressPresent buffer) (parseAddressTable buffer (addressOffset buffer)) ∧
        (readSections buffer).associations
          = Section.of (associationPresent buffer)
              (parseAssociationTable buffer (associationOffset buffer)) := by
  rw [readSections]
  split
  · simp
  · cases Section.of (devicePresent buffer) (parseDeviceConfig buffer 20) with
    | broken => simp
    | _ =>
      cases Section.of (addressPresent buffer)
          (parseAddressTable buffer (addressOffset buffer)) with
      | broken => simp
      | _ =>
        cases Section.of (associationPresent buffer)
            (parseAssociationTable buffer (associationOffset buffer)) with
        | broken => simp
        | _ =>
          cases Section.of (groupObjectPresent buffer)
              (parseGroupObjectTable buffer (groupObjectOffset buffer)) with
          | broken => simp
          | _ => exact fun _ => ⟨rfl, rfl⟩

theorem map_replace_eq {α β : Type} (column : α → β) {entrySize : Nat} {entry : Nat → Nat → α}
    {buffer : List UInt8} {offset : Nat} {present : Bool} {whole : Section (List α)}
    (hpart : whole = Section.of present (parseTable entrySize entry buffer offset))
    (hread : whole ≠ .broken) (old : List α) :
    (whole.replace old).map column
      = if present then (List.range (wordAt buffer offset).toNat).map
          fun i => column (entry i (offset + 2 + i * entrySize))
        else old.map column := by
  cases present with
  | false =>
    rw [hpart]
    rfl
  | true =>
    cases htable : parseTable entrySize entry buffer offset with
    | none =>
      rw [htable] at hpart
      exact absurd hpart hread
    | some table =>
      rw [htable] at hpart
      rw [hpart, (parseTable_eq_some_iff.mp htable).2]
      simp [Section.of, Section.replace]

theorem tables_after {s : EtsConfigLoader} {buffer : List UInt8} {level : ValidationLevel}
    (haccepted : (loadFromBuffer s buffer level).2 = none) (hagree : SizesAgree buffer) :
    (loadFromBuffer s buffer level).1.addressTable.map (·.groupAddress) = addressesAfter s buffer ∧
      (loadFromBuffer s buffer level).1.associationTable.map (·.groupObjectIndex)
        = objectsAfter s buffer := by
  have hparsed : ¬Refused buffer level := fun hrefused =>
    (loadFromBuffer_refused hrefused s).1 haccepted
  obtain ⟨hconfiguration, hcomplete, -⟩ := loadFromBuffer_parsed hparsed s
  simp only [EtsConfigLoader.configuration, EtsConfigLoader.replace, Prod.mk.injEq]
    at hconfiguration
  obtain ⟨-, haddresses, hassociations, -⟩ := hconfiguration
  obtain ⟨haddressPart, hassociationPart⟩ := readSections_whole (hcomplete.mp haccepted).1
  have hwhole := whole_readSections buffer
  have hrespected := (boundsRespected_iff buffer).mpr hagree
  have haddress := addressOffset_eq fun hsize => (hrespected.device hsize).1
  have hassociation := associationOffset_eq haddress fun hsize => (hrespected.addresses hsize).1
  have haddressPresent : addressPresent buffer = true ↔ 0 < (wordAt buffer 14).toNat :=
    ⟨fun h => ((tablePresent_iff _ _ _).mp h).1, fun h => (hrespected.addresses h).1⟩
  have hassociationPresent : associationPresent buffer = true ↔ 0 < (wordAt buffer 16).toNat :=
    ⟨fun h => ((tablePresent_iff _ _ _).mp h).1, fun h => (hrespected.associations h).1⟩
  constructor
  · rw [haddresses, map_replace_eq (·.groupAddress) haddressPart hwhole.addresses, haddress,
      addressesAfter]
    simp only [haddressPresent]
  · rw [hassociations, map_replace_eq (·.groupObjectIndex) hassociationPart hwhole.associations,
      hassociation, objectsAfter]
    simp only [hassociationPresent]

/-- Sections and lookups. A loader after any files that takes one more file. -/
theorem load_respects_iff {files : List (List UInt8 × ValidationLevel)} {buffer : List UInt8}
    {level : ValidationLevel} (h : (loadFromBuffer (loadFiles files) buffer level).2 = none) :
    (BoundsRespected buffer ∧ LookupExact (loadFromBuffer (loadFiles files) buffer level).1) ↔
      (SizesAgree buffer ∧
        ObjectsRepeat (addressesAfter (loadFiles files) buffer)
          (objectsAfter (loadFiles files) buffer)) := by
  have hnumbered := (numbered_loadFiles files).loadFromBuffer buffer level
  rw [boundsRespected_iff, hnumbered.lookupExact_iff]
  constructor
  · rintro ⟨hagree, hrepeat⟩
    obtain ⟨haddresses, hobjects⟩ := tables_after h hagree
    rw [haddresses, hobjects] at hrepeat
    exact ⟨hagree, hrepeat⟩
  · rintro ⟨hagree, hrepeat⟩
    obtain ⟨haddresses, hobjects⟩ := tables_after h hagree
    rw [haddresses, hobjects]
    exact ⟨hagree, hrepeat⟩

/-- A group object on a fresh loader: all sizes agree. -/
theorem load_respects_iff_objectFile :
    (BoundsRespected objectFile ∧
        LookupExact (loadFromBuffer (loadFiles []) objectFile .full).1) ↔
      (SizesAgree objectFile ∧
        ObjectsRepeat (addressesAfter (loadFiles []) objectFile)
          (objectsAfter (loadFiles []) objectFile)) :=
  load_respects_iff (by decide +kernel)

/-- An address table of two octets that counts two entries, in front of an association table. -/
def overlapFile : List UInt8 :=
  [0xAE, 0xDD, 0x01, 0x00, 0x00, 0x00, 0x0F, 0xB7, 0x46, 0x1D, 0xD2, 0x7C, 0x00, 0x0A, 0x00, 0x02,
   0x00, 0x04, 0x00, 0x00, 0x11, 0x01, 0x00, 0xFA, 0x00, 0x00, 0x00, 0x01, 0x01, 0x01, 0x00, 0x02,
   0x00, 0x01, 0x05, 0x00]

/-- The addresses are taken out of the association table. -/
theorem not_load_respects :
    ¬ ∀ (files : List (List UInt8 × ValidationLevel)) (buffer : List UInt8) (level : ValidationLevel),
        (loadFromBuffer (loadFiles files) buffer level).2 = none →
          BoundsRespected buffer ∧ LookupExact (loadFromBuffer (loadFiles files) buffer level).1 := by
  intro h
  have hbounds := (h [] overlapFile .full (by decide +kernel)).1
  have hroom := (((boundsRespected_iff overlapFile).mp hbounds).addresses (by decide)).2
  revert hroom
  decide

end KnxStack.Ets
