import KnxStack.Lib.Checked
import KnxStack.Lib.Octets

/-!
# The ZIP reader of product files

`zip_support` of `ets/knxprog_importer.cpp`: the entries of a container by way of its central directory,
and the data of one entry. Every read of the input is a checked one, and the offsets are added in 32 bits
as the source adds them. The decompressor of zlib is a parameter; it is handed a range of the input, which
is read as a whole.

- `extractZipEntries_safe_iff`: the directory is read inside the input exactly where every record that is
  reached ends inside it.
- `extractFileData_safe_iff`: the data of an entry, and where the sums of its offsets do not wrap around.
-/

set_option autoImplicit false

namespace KnxStack.Ets.ZipReader

open KnxStack.Lib KnxStack.Lib.Octets

/-! ## The source -/

/-- `CENTRAL_DIR_SIGNATURE`. -/
def centralDirSignature : UInt32 := 0x02014b50

/-- `LOCAL_FILE_SIGNATURE`. -/
def localFileSignature : UInt32 := 0x04034b50

/-- `END_CENTRAL_DIR_SIGNATURE`. -/
def endCentralDirSignature : UInt32 := 0x06054b50

/-- `ZipEntry`. -/
structure ZipEntry where
  filename : List UInt8
  compressedSize : UInt32
  uncompressedSize : UInt32
  localHeaderOffset : UInt32
  compressionMethod : UInt16
  isDirectory : Bool
  deriving DecidableEq, Repr

/-- Two octets, the low one first. -/
def word16 (a b : UInt8) : UInt16 := a.toUInt16 ||| (b.toUInt16 <<< 8)

/-- Four octets, the low one first. -/
def word32 (a b c d : UInt8) : UInt32 :=
  a.toUInt32 ||| (b.toUInt32 <<< 8) ||| (c.toUInt32 <<< 16) ||| (d.toUInt32 <<< 24)

/-- A word of two octets at an index. -/
def readU16 (buffer : List UInt8) (i : Nat) : Checked Empty UInt16 := do
  let a ← readAt buffer i
  let b ← readAt buffer (i + 1)
  return word16 a b

/-- A word of four octets at an index. -/
def readU32 (buffer : List UInt8) (i : Nat) : Checked Empty UInt32 := do
  let a ← readAt buffer i
  let b ← readAt buffer (i + 1)
  let c ← readAt buffer (i + 2)
  let d ← readAt buffer (i + 3)
  return word32 a b c d

/-- The backward search for the end record, over the indices below a bound. -/
def searchEnd (buffer : List UInt8) : Nat → Checked Empty (Option Nat)
  | 0 => .done none
  | i + 1 => do
      let sig ← readU32 buffer i
      if sig = endCentralDirSignature then return some i else searchEnd buffer i

/-- How many indices the search visits; the size is narrowed to `int` for it. -/
def searchBound (size : Nat) : Nat := ((Int32.ofNat size).toInt - 21).toNat

/-- One record of the central directory: the entry, and the length of the record. -/
def readRecord (buffer : List UInt8) (pos : Nat) : Checked Empty (ZipEntry × Nat) := do
  let filenameLen ← readU16 buffer (pos + 28)
  let extraLen ← readU16 buffer (pos + 30)
  let commentLen ← readU16 buffer (pos + 32)
  let filename ← readSpan buffer (pos + 46) filenameLen.toNat
  let compressionMethod ← readU16 buffer (pos + 10)
  let compressedSize ← readU32 buffer (pos + 20)
  let uncompressedSize ← readU32 buffer (pos + 24)
  let localHeaderOffset ← readU32 buffer (pos + 42)
  return ({ filename := filename
            compressedSize := compressedSize
            uncompressedSize := uncompressedSize
            localHeaderOffset := localHeaderOffset
            compressionMethod := compressionMethod
            isDirectory := filename.getLast? = some 0x2F },
    46 + filenameLen.toNat + extraLen.toNat + commentLen.toNat)

/-- The loop over the records, for the entries that are still expected. -/
def readRecords (buffer : List UInt8) (endCentralDir : Nat) :
    Nat → Nat → List ZipEntry → Checked Empty (List ZipEntry)
  | 0, _, entries => .done entries
  | more + 1, pos, entries =>
      if pos < endCentralDir then do
        let sig ← readU32 buffer pos
        if sig ≠ centralDirSignature then return entries
        else
          let record ← readRecord buffer pos
          readRecords buffer endCentralDir more (pos + record.2) (entries ++ [record.1])
      else .done entries

/-- `extractZipEntries`; nothing where it returns false. -/
def extractZipEntries (buffer : List UInt8) : Checked Empty (Option (List ZipEntry)) :=
  if buffer.length < 22 then .done none
  else do
    match ← searchEnd buffer (searchBound buffer.length) with
    | none => return none
    | some endCentralDir =>
      let numEntries ← readU16 buffer (endCentralDir + 10)
      let centralDirOffset ← readU32 buffer (endCentralDir + 16)
      if buffer.length ≤ centralDirOffset.toNat then return none
      else
        let entries ← readRecords buffer endCentralDir numEntries.toNat centralDirOffset.toNat []
        return if entries = [] then none else some entries

/-- The decompressor, where the build has one: what it makes of some octets within an output of a
given size, or nothing where it does not reach the end of its stream. -/
abbrev Inflate : Type := List UInt8 → Nat → Option (List UInt8)

/-- `extractFileData`; nothing where it returns false. -/
def extractFileData (inflate : Option Inflate) (buffer : List UInt8) (entry : ZipEntry) :
    Checked Empty (Option (List UInt8)) :=
  if buffer.length < (entry.localHeaderOffset + 30).toNat then .done none
  else do
    let sig ← readU32 buffer entry.localHeaderOffset.toNat
    if sig ≠ localFileSignature then return none
    else
      let filenameLen ← readU16 buffer (entry.localHeaderOffset.toNat + 26)
      let extraLen ← readU16 buffer (entry.localHeaderOffset.toNat + 28)
      let dataOffset := entry.localHeaderOffset + 30 + filenameLen.toUInt32 + extraLen.toUInt32
      let dataSize := entry.compressedSize
      if buffer.length < (dataOffset + dataSize).toNat then return none
      else if entry.compressionMethod = 0 then do
        let data ← readSpan buffer dataOffset.toNat dataSize.toNat
        return some data
      else if entry.compressionMethod = 8 then
        match inflate with
        | none => return none
        | some inflate => do
          let input ← readSpan buffer dataOffset.toNat dataSize.toNat
          return (inflate input entry.uncompressedSize.toNat).map fun output =>
            output ++ List.replicate (entry.uncompressedSize.toNat - output.length) 0
      else return none

/-! ## The fields of an input -/

/-- The octet at an index, zero behind the end. -/
def octetAt (buffer : List UInt8) (i : Nat) : UInt8 := buffer[i]?.getD 0

/-- The word of two octets at an index. -/
def u16At (buffer : List UInt8) (i : Nat) : UInt16 :=
  word16 (octetAt buffer i) (octetAt buffer (i + 1))

/-- The word of four octets at an index. -/
def u32At (buffer : List UInt8) (i : Nat) : UInt32 :=
  word32 (octetAt buffer i) (octetAt buffer (i + 1)) (octetAt buffer (i + 2)) (octetAt buffer (i + 3))

/-- Where the record of the central directory at `pos` ends. -/
def recordEnd (buffer : List UInt8) (pos : Nat) : Nat :=
  pos + (46 + (u16At buffer (pos + 28)).toNat + (u16At buffer (pos + 30)).toNat
    + (u16At buffer (pos + 32)).toNat)

/-- Where the data of an entry ends, local header and all. -/
def dataEnd (buffer : List UInt8) (entry : ZipEntry) : Nat :=
  entry.localHeaderOffset.toNat + 30 + (u16At buffer (entry.localHeaderOffset.toNat + 26)).toNat
    + (u16At buffer (entry.localHeaderOffset.toNat + 28)).toNat + entry.compressedSize.toNat

variable {buffer : List UInt8} {i : Nat}

theorem readAt_eq (h : i < buffer.length) :
    (readAt buffer i : Checked Empty UInt8) = .done (octetAt buffer i) := by
  rw [readAt_of_lt h, octetAt, List.getElem?_eq_getElem h, Option.getD_some]

theorem readU16_of_le (h : i + 2 ≤ buffer.length) : readU16 buffer i = .done (u16At buffer i) := by
  rw [readU16, readAt_eq (by omega), Checked.done_bind, readAt_eq (by omega), Checked.done_bind]
  rfl

theorem readU32_of_le (h : i + 4 ≤ buffer.length) : readU32 buffer i = .done (u32At buffer i) := by
  rw [readU32, readAt_eq (by omega), Checked.done_bind, readAt_eq (by omega), Checked.done_bind,
    readAt_eq (by omega), Checked.done_bind, readAt_eq (by omega), Checked.done_bind]
  rfl

/-- Every read either stays inside or ends the computation, since nothing reports an error. -/
theorem done_or_outOfBounds {α : Type} (x : Checked Empty α) :
    (∃ a, x = .done a) ∨ ∃ j, x = .outOfBounds j := by
  cases x with
  | done a => exact Or.inl ⟨a, rfl⟩
  | fail e => exact e.elim
  | outOfBounds j => exact Or.inr ⟨j, rfl⟩

theorem readAt_eq_done {a : UInt8} (h : (readAt buffer i : Checked Empty UInt8) = .done a) :
    i < buffer.length := by
  by_contra hover
  rw [readAt_of_le (Nat.le_of_not_lt hover)] at h
  cases h

theorem readU16_eq_done {w : UInt16} (h : readU16 buffer i = .done w) : i + 2 ≤ buffer.length := by
  obtain ⟨a, -, h⟩ := Checked.bind_eq_done.mp h
  obtain ⟨b, hb, -⟩ := Checked.bind_eq_done.mp h
  have hlast := readAt_eq_done hb
  omega

theorem readU32_eq_done {w : UInt32} (h : readU32 buffer i = .done w) : i + 4 ≤ buffer.length := by
  obtain ⟨a, -, h⟩ := Checked.bind_eq_done.mp h
  obtain ⟨b, -, h⟩ := Checked.bind_eq_done.mp h
  obtain ⟨c, -, h⟩ := Checked.bind_eq_done.mp h
  obtain ⟨d, hd, -⟩ := Checked.bind_eq_done.mp h
  have hlast := readAt_eq_done hd
  omega

/-! ## The central directory -/

/-- The last end record that the search comes to. -/
def lastEnd (buffer : List UInt8) (bound : Nat) : Option Nat :=
  (List.range bound).reverse.find? fun i => u32At buffer i = endCentralDirSignature

/-- The record at `target` is reached from the one at `pos`: each one in between begins in front of the
end record and has the signature, as it has itself. -/
inductive Reaches (buffer : List UInt8) (endCentralDir : Nat) : Nat → Nat → Nat → Prop
  | here {more pos : Nat} (hpos : pos < endCentralDir)
      (hsig : u32At buffer pos = centralDirSignature) :
      Reaches buffer endCentralDir (more + 1) pos pos
  | next {more pos target : Nat} (hpos : pos < endCentralDir)
      (hsig : u32At buffer pos = centralDirSignature)
      (h : Reaches buffer endCentralDir more (recordEnd buffer pos) target) :
      Reaches buffer endCentralDir (more + 1) pos target

theorem Reaches.first {buffer : List UInt8} {endCentralDir more pos target : Nat}
    (h : Reaches buffer endCentralDir more pos target) :
    pos < endCentralDir ∧ u32At buffer pos = centralDirSignature ∧ ∃ more', more = more' + 1 := by
  cases h with
  | here hpos hsig => exact ⟨hpos, hsig, _, rfl⟩
  | next hpos hsig h => exact ⟨hpos, hsig, _, rfl⟩

/-- The input has a record of the central directory at `target`. -/
def HasRecord (buffer : List UInt8) (target : Nat) : Prop :=
  ∃ endCentralDir, lastEnd buffer (searchBound buffer.length) = some endCentralDir ∧
    Reaches buffer endCentralDir (u16At buffer (endCentralDir + 10)).toNat
      (u32At buffer (endCentralDir + 16)).toNat target

theorem searchBound_le {size : Nat} (h : 22 ≤ size) : searchBound size + 21 ≤ size := by
  have hvalue : (Int32.ofNat size).toInt ≤ size := by
    rw [Int32.toInt_ofNat', Int.bmod_def]
    unfold Int32.size
    split <;> omega
  unfold searchBound
  omega

theorem searchEnd_eq {bound : Nat} (h : bound + 3 ≤ buffer.length) :
    searchEnd buffer bound = .done (lastEnd buffer bound) := by
  induction bound with
  | zero => rfl
  | succ i ih =>
    rw [searchEnd, readU32_of_le (by omega), Checked.done_bind, lastEnd, List.range_succ,
      List.reverse_append, List.reverse_singleton, List.singleton_append, List.find?_cons]
    by_cases hsig : u32At buffer i = endCentralDirSignature
    · simp [hsig]
    · simp only [hsig, decide_false]
      exact ih (by omega)

theorem lastEnd_lt {bound endCentralDir : Nat} (h : lastEnd buffer bound = some endCentralDir) :
    endCentralDir < bound := by
  have hmem := List.mem_of_find?_eq_some h
  rw [List.mem_reverse] at hmem
  exact List.mem_range.mp hmem

theorem readRecord_of_le {pos : Nat} (h : recordEnd buffer pos ≤ buffer.length) :
    ∃ entry, readRecord buffer pos = .done (entry, recordEnd buffer pos - pos) := by
  unfold recordEnd at h ⊢
  rw [readRecord, readU16_of_le (by omega), Checked.done_bind, readU16_of_le (by omega),
    Checked.done_bind, readU16_of_le (by omega), Checked.done_bind, readSpan_of_le (by omega),
    Checked.done_bind, readU16_of_le (by omega), Checked.done_bind, readU32_of_le (by omega),
    Checked.done_bind, readU32_of_le (by omega), Checked.done_bind, readU32_of_le (by omega),
    Checked.done_bind, Nat.add_sub_cancel_left]
  exact ⟨_, rfl⟩

theorem readRecords_of_le {endCentralDir : Nat} (hend : endCentralDir + 22 ≤ buffer.length)
    (more : Nat) : ∀ (pos : Nat) (entries : List ZipEntry),
      (∀ target, Reaches buffer endCentralDir more pos target →
        recordEnd buffer target ≤ buffer.length) →
      ∃ entries', readRecords buffer endCentralDir more pos entries = .done entries' := by
  induction more with
  | zero =>
    intro pos entries _
    exact ⟨entries, rfl⟩
  | succ more ih =>
    intro pos entries hinside
    rw [readRecords]
    by_cases hpos : pos < endCentralDir
    · rw [if_pos hpos, readU32_of_le (by omega), Checked.done_bind]
      by_cases hsig : u32At buffer pos = centralDirSignature
      · have hrecord := hinside pos (.here hpos hsig)
        obtain ⟨entry, hread⟩ := readRecord_of_le hrecord
        have hnext : pos + (recordEnd buffer pos - pos) = recordEnd buffer pos := by
          unfold recordEnd
          omega
        rw [if_neg (not_not_intro hsig), hread, Checked.done_bind, hnext]
        exact ih _ _ fun target htarget => hinside target (.next hpos hsig htarget)
      · rw [if_pos hsig]
        exact ⟨entries, rfl⟩
    · rw [if_neg hpos]
      exact ⟨entries, rfl⟩

theorem readRecords_ne_nil {endCentralDir : Nat} (more : Nat) :
    ∀ (pos : Nat) (entries entries' : List ZipEntry), entries ≠ [] →
      readRecords buffer endCentralDir more pos entries = .done entries' → entries' ≠ [] := by
  induction more with
  | zero =>
    intro pos entries entries' hsome hread
    rw [readRecords, Checked.done.injEq] at hread
    rw [← hread]
    exact hsome
  | succ more ih =>
    intro pos entries entries' hsome hread
    rw [readRecords] at hread
    by_cases hpos : pos < endCentralDir
    · rw [if_pos hpos] at hread
      obtain ⟨sig, -, hread⟩ := Checked.bind_eq_done.mp hread
      by_cases hsig : sig = centralDirSignature
      · rw [if_neg (not_not_intro hsig)] at hread
        obtain ⟨record, -, hread⟩ := Checked.bind_eq_done.mp hread
        exact ih _ _ _ (by simp) hread
      · rw [if_pos hsig, Checked.pure_eq, Checked.done.injEq] at hread
        rw [← hread]
        exact hsome
    · rw [if_neg hpos, Checked.done.injEq] at hread
      rw [← hread]
      exact hsome

theorem readRecords_of_reaches {endCentralDir more pos target : Nat}
    (h : Reaches buffer endCentralDir more pos target) (entries entries' : List ZipEntry)
    (hread : readRecords buffer endCentralDir more pos entries = .done entries') : entries' ≠ [] := by
  -- The first record on the way is enough.
  obtain ⟨hpos, hsig, more', rfl⟩ := h.first
  rw [readRecords, if_pos hpos] at hread
  obtain ⟨sig, hread', hread⟩ := Checked.bind_eq_done.mp hread
  rw [readU32_of_le (readU32_eq_done hread'), Checked.done.injEq] at hread'
  rw [← hread', if_neg (not_not_intro hsig)] at hread
  obtain ⟨record, -, hread⟩ := Checked.bind_eq_done.mp hread
  exact readRecords_ne_nil _ _ _ _ (by simp) hread

/-- The directory is read at indices of the input only, and has no entries where a record is cut off by
the end of the input. -/
def DirectorySafe (buffer : List UInt8) : Prop :=
  (extractZipEntries buffer).InBounds ∧
    ((∃ target, HasRecord buffer target ∧ buffer.length < recordEnd buffer target) →
      extractZipEntries buffer = .done none)

theorem extractZipEntries_eq (h : 22 ≤ buffer.length) :
    extractZipEntries buffer
      = match lastEnd buffer (searchBound buffer.length) with
        | none => .done none
        | some endCentralDir =>
          if buffer.length ≤ (u32At buffer (endCentralDir + 16)).toNat then .done none
          else readRecords buffer endCentralDir (u16At buffer (endCentralDir + 10)).toNat
            (u32At buffer (endCentralDir + 16)).toNat [] >>= fun entries =>
              .done (if entries = [] then none else some entries) := by
  have hbound := searchBound_le h
  rw [extractZipEntries, if_neg (Nat.not_lt.mpr h), searchEnd_eq (by omega), Checked.done_bind]
  cases hend : lastEnd buffer (searchBound buffer.length) with
  | none => rfl
  | some endCentralDir =>
    have hlt := lastEnd_lt hend
    simp only
    rw [readU16_of_le (by omega), Checked.done_bind, readU32_of_le (by omega), Checked.done_bind]
    rfl

theorem searchBound_of_lt {size : Nat} (h : size < 22) : searchBound size = 0 := by
  unfold searchBound
  rw [Int32.toInt_ofNat', Int.bmod_def]
  unfold Int32.size
  split <;> omega

/-- The directory is read inside the input exactly where every record that is reached ends there. -/
theorem extractZipEntries_safe_iff (buffer : List UInt8) :
    DirectorySafe buffer ↔
      ∀ target, HasRecord buffer target → recordEnd buffer target ≤ buffer.length := by
  by_cases hsize : buffer.length < 22
  · -- Too short for an end record.
    have hnone : extractZipEntries buffer = .done none := by
      rw [extractZipEntries, if_pos hsize]
    constructor
    · rintro - target ⟨endCentralDir, hend, -⟩
      rw [searchBound_of_lt hsize] at hend
      cases hend
    · intro _
      exact ⟨by rw [hnone]; exact Checked.inBounds_done none, fun _ => hnone⟩
  have hroom : 22 ≤ buffer.length := Nat.le_of_not_lt hsize
  have hbound := searchBound_le hroom
  have hread := extractZipEntries_eq hroom
  constructor
  · rintro ⟨hinside, hfails⟩ target hrecord
    by_contra hover
    have hnone := hfails ⟨target, hrecord, Nat.lt_of_not_le hover⟩
    obtain ⟨endCentralDir, hend, hreach⟩ := hrecord
    have hlt := lastEnd_lt hend
    -- A record that is reached begins inside the input, so the directory does.
    have hfirst := hreach.first
    have hoffset : ¬ buffer.length ≤ (u32At buffer (endCentralDir + 16)).toNat := by omega
    simp only [hread, hend, if_neg hoffset] at hnone
    obtain ⟨entries, hentries, hempty⟩ := Checked.bind_eq_done.mp hnone
    have hsome := readRecords_of_reaches hreach [] entries hentries
    rw [if_neg hsome] at hempty
    cases hempty
  · intro hinside
    constructor
    · rw [hread]
      cases hend : lastEnd buffer (searchBound buffer.length) with
      | none => exact Checked.inBounds_done none
      | some endCentralDir =>
        have hlt := lastEnd_lt hend
        simp only
        split
        · exact Checked.inBounds_done none
        · obtain ⟨entries, hentries⟩ := readRecords_of_le (by omega) _ _ []
            fun target htarget => hinside target ⟨endCentralDir, hend, htarget⟩
          rw [hentries]
          exact Checked.inBounds_done _
    · rintro ⟨target, hrecord, hover⟩
      exact absurd (hinside target hrecord) (Nat.not_le.mpr hover)

/-! ## The data of an entry -/

/-- The offset of the data as the source adds it up. -/
def dataOffset (buffer : List UInt8) (entry : ZipEntry) : UInt32 :=
  entry.localHeaderOffset + 30 + (u16At buffer (entry.localHeaderOffset.toNat + 26)).toUInt32
    + (u16At buffer (entry.localHeaderOffset.toNat + 28)).toUInt32

/-- The data of an entry is read at indices of the input only. There is none where the entry is cut off
by the end of the input, and a stored entry has as many octets of the input as it says. -/
def DataSafe (inflate : Option Inflate) (buffer : List UInt8) (entry : ZipEntry) : Prop :=
  (extractFileData inflate buffer entry).InBounds ∧
    (buffer.length < dataEnd buffer entry → extractFileData inflate buffer entry = .done none) ∧
    ∀ data, entry.compressionMethod = 0 →
      extractFileData inflate buffer entry = .done (some data) →
        ∃ offset, offset + entry.compressedSize.toNat ≤ buffer.length ∧
          data = slice buffer offset entry.compressedSize.toNat

/-- The local header lies inside the input, or it is refused without an octet of it that does not. -/
def HeaderKept (buffer : List UInt8) (entry : ZipEntry) : Prop :=
  entry.localHeaderOffset.toNat + 30 ≤ buffer.length ∨
    buffer.length < (entry.localHeaderOffset + 30).toNat ∨
    entry.localHeaderOffset.toNat + 4 ≤ buffer.length ∧
      u32At buffer entry.localHeaderOffset.toNat ≠ localFileSignature

/-- The method of the entry is not one that data comes out of. -/
def Unsupported (inflate : Option Inflate) (buffer : List UInt8) (entry : ZipEntry) : Prop :=
  entry.compressionMethod ≠ 0 ∧
    (entry.compressionMethod = 8 → ∀ decompress, inflate = some decompress →
      (dataOffset buffer entry).toNat + entry.compressedSize.toNat ≤ buffer.length ∧
        decompress (slice buffer (dataOffset buffer entry).toNat entry.compressedSize.toNat)
          entry.uncompressedSize.toNat = none)

/-- The data behind a local header lies inside the input, or the sum that is compared with the size of
the input has not wrapped around to a place inside it, or nothing is made of the data. -/
def DataKept (inflate : Option Inflate) (buffer : List UInt8) (entry : ZipEntry) : Prop :=
  entry.localHeaderOffset.toNat + 30 ≤ buffer.length →
    u32At buffer entry.localHeaderOffset.toNat = localFileSignature →
      dataEnd buffer entry ≤ buffer.length ∨
        buffer.length < (dataOffset buffer entry + entry.compressedSize).toNat ∨
        Unsupported inflate buffer entry

variable {inflate : Option Inflate} {entry : ZipEntry}

theorem toNat_dataOffset (buffer : List UInt8) (entry : ZipEntry) :
    (dataOffset buffer entry).toNat + entry.compressedSize.toNat ≤ dataEnd buffer entry ∧
      (dataOffset buffer entry + entry.compressedSize).toNat ≤ dataEnd buffer entry := by
  unfold dataOffset dataEnd
  simp only [UInt32.toNat_add, UInt16.toNat_toUInt32]
  have hconst : (30 : UInt32).toNat = 30 := rfl
  rw [hconst]
  omega

theorem extractFileData_of_header (inflate : Option Inflate)
    (hheader : entry.localHeaderOffset.toNat + 30 ≤ buffer.length)
    (hsig : u32At buffer entry.localHeaderOffset.toNat = localFileSignature) :
    extractFileData inflate buffer entry
      = if buffer.length < (dataOffset buffer entry + entry.compressedSize).toNat then .done none
        else if entry.compressionMethod = 0 then
          readSpan buffer (dataOffset buffer entry).toNat entry.compressedSize.toNat >>= fun data =>
            .done (some data)
        else if entry.compressionMethod = 8 then
          match inflate with
          | none => .done none
          | some inflate =>
            readSpan buffer (dataOffset buffer entry).toNat entry.compressedSize.toNat >>= fun input =>
              .done ((inflate input entry.uncompressedSize.toNat).map fun output =>
                output ++ List.replicate (entry.uncompressedSize.toNat - output.length) 0)
        else .done none := by
  have hwrapped : ¬ buffer.length < (entry.localHeaderOffset + 30).toNat := by
    have hconst : (30 : UInt32).toNat = 30 := rfl
    rw [UInt32.toNat_add, hconst]
    omega
  rw [extractFileData, if_neg hwrapped, readU32_of_le (by omega), Checked.done_bind,
    if_neg (not_not_intro hsig), readU16_of_le (by omega), Checked.done_bind,
    readU16_of_le (by omega), Checked.done_bind]
  rfl

theorem readSpan_eq_done {off len : Nat} {octets : List UInt8}
    (h : (readSpan buffer off len : Checked Empty (List UInt8)) = .done octets) :
    off + len ≤ buffer.length ∧ octets = slice buffer off len := by
  unfold readSpan at h
  split at h
  · next hroom =>
    rw [Checked.done.injEq] at h
    exact ⟨hroom, h.symm⟩
  · cases h

theorem dataSafe_of_none (h : extractFileData inflate buffer entry = .done none) :
    DataSafe inflate buffer entry := by
  refine ⟨?_, fun _ => h, ?_⟩
  · rw [h]
    exact Checked.inBounds_done none
  · intro data _ hdone
    rw [h] at hdone
    cases hdone

/-- Behind a header inside the input, the data is safe exactly where `DataKept` says so. -/
theorem dataSafe_iff_of_header (inflate : Option Inflate)
    (hheader : entry.localHeaderOffset.toNat + 30 ≤ buffer.length)
    (hsig : u32At buffer entry.localHeaderOffset.toNat = localFileSignature) :
    DataSafe inflate buffer entry ↔
      dataEnd buffer entry ≤ buffer.length ∨
        buffer.length < (dataOffset buffer entry + entry.compressedSize).toNat ∨
        Unsupported inflate buffer entry := by
  have hread := extractFileData_of_header inflate hheader hsig
  obtain ⟨hrange, hsum⟩ := toNat_dataOffset buffer entry
  constructor
  · rintro ⟨hinside, hfails, -⟩
    by_cases hwhole : dataEnd buffer entry ≤ buffer.length
    · exact Or.inl hwhole
    by_cases hcompared : buffer.length < (dataOffset buffer entry + entry.compressedSize).toNat
    · exact Or.inr (Or.inl hcompared)
    -- The sum has wrapped around: nothing may come out.
    refine Or.inr (Or.inr ?_)
    have hnone := hfails (Nat.lt_of_not_le hwhole)
    rw [hread, if_neg hcompared] at hnone
    by_cases hstored : entry.compressionMethod = 0
    · rw [if_pos hstored] at hnone
      obtain ⟨data, -, hsome⟩ := Checked.bind_eq_done.mp hnone
      cases hsome
    · refine ⟨hstored, ?_⟩
      rintro hdeflate decompress rfl
      rw [if_neg hstored, if_pos hdeflate] at hnone
      obtain ⟨input, hinput, hempty⟩ := Checked.bind_eq_done.mp hnone
      obtain ⟨hroom, rfl⟩ := readSpan_eq_done hinput
      rw [Checked.done.injEq, Option.map_eq_none_iff] at hempty
      exact ⟨hroom, hempty⟩
  · rintro (hwhole | hcompared | ⟨hstored, hdeflate⟩)
    · have hspan : (readSpan buffer (dataOffset buffer entry).toNat entry.compressedSize.toNat :
          Checked Empty (List UInt8))
            = .done (slice buffer (dataOffset buffer entry).toNat entry.compressedSize.toNat) :=
        readSpan_of_le (by omega)
      have hroom : (dataOffset buffer entry).toNat + entry.compressedSize.toNat ≤ buffer.length := by
        omega
      rw [hspan] at hread
      refine ⟨?_, fun hover => absurd hwhole (Nat.not_le.mpr hover), ?_⟩
      · rw [hread]
        split
        · exact Checked.inBounds_done _
        · split
          · exact Checked.inBounds_done _
          · split
            · cases inflate <;> exact Checked.inBounds_done _
            · exact Checked.inBounds_done _
      · intro data hstored hdone
        rw [hread, if_neg (by omega), if_pos hstored, Checked.done_bind, Checked.done.injEq,
          Option.some.injEq] at hdone
        exact ⟨_, hroom, hdone.symm⟩
    · have hnone : extractFileData inflate buffer entry = .done none := by
        rw [hread, if_pos hcompared]
      exact dataSafe_of_none hnone
    · have hnone : extractFileData inflate buffer entry = .done none := by
        rw [hread, if_neg hstored]
        split
        · rfl
        · split
          · next hmethod =>
            cases hzlib : inflate with
            | none => rfl
            | some decompress =>
              obtain ⟨hroom, hempty⟩ := hdeflate hmethod decompress hzlib
              simp only
              rw [readSpan_of_le hroom, Checked.done_bind, ← slice, hempty]
              rfl
          · rfl
      exact dataSafe_of_none hnone

theorem extractFileData_safe_iff (inflate : Option Inflate) (buffer : List UInt8)
    (entry : ZipEntry) :
    DataSafe inflate buffer entry ↔ HeaderKept buffer entry ∧ DataKept inflate buffer entry := by
  by_cases hheader : entry.localHeaderOffset.toNat + 30 ≤ buffer.length
  · by_cases hsig : u32At buffer entry.localHeaderOffset.toNat = localFileSignature
    · rw [dataSafe_iff_of_header inflate hheader hsig]
      constructor
      · intro hkept
        exact ⟨Or.inl hheader, fun _ _ => hkept⟩
      · rintro ⟨-, hkept⟩
        exact hkept hheader hsig
    · -- Another signature: nothing more is read.
      have hnone : extractFileData inflate buffer entry = .done none := by
        rw [extractFileData]
        split
        · rfl
        · rw [readU32_of_le (by omega), Checked.done_bind, if_pos hsig]
          rfl
      constructor
      · intro _
        exact ⟨Or.inl hheader, fun _ hsame => absurd hsame hsig⟩
      · intro _
        exact dataSafe_of_none hnone
  · have hkept : DataKept inflate buffer entry := fun hinside => absurd hinside hheader
    constructor
    · rintro ⟨hinside, -, -⟩
      refine ⟨Or.inr ?_, hkept⟩
      by_cases hrefused : buffer.length < (entry.localHeaderOffset + 30).toNat
      · exact Or.inl hrefused
      · -- The sum has wrapped around, and the header is read.
        refine Or.inr ?_
        rcases done_or_outOfBounds (extractFileData inflate buffer entry) with ⟨data, hdone⟩ | ⟨j, hj⟩
        · rw [extractFileData, if_neg hrefused] at hdone
          obtain ⟨sig, hread, hdone⟩ := Checked.bind_eq_done.mp hdone
          have hroom := readU32_eq_done hread
          rw [readU32_of_le hroom, Checked.done.injEq] at hread
          refine ⟨hroom, fun hsig => ?_⟩
          rw [← hread, if_neg (not_not_intro hsig)] at hdone
          obtain ⟨filenameLen, -, hdone⟩ := Checked.bind_eq_done.mp hdone
          obtain ⟨extraLen, hlast, -⟩ := Checked.bind_eq_done.mp hdone
          have hover := readU16_eq_done hlast
          omega
        · rw [hj] at hinside
          exact absurd hinside (Checked.not_inBounds_outOfBounds j)
    · rintro ⟨hinside | hrefused | ⟨hroom, hsig⟩, -⟩
      · exact absurd hinside hheader
      · have hnone : extractFileData inflate buffer entry = .done none := by
          rw [extractFileData, if_pos hrefused]
        exact dataSafe_of_none hnone
      · have hnone : extractFileData inflate buffer entry = .done none := by
          rw [extractFileData]
          split
          · rfl
          · rw [readU32_of_le hroom, Checked.done_bind, if_pos hsig]
            rfl
        exact dataSafe_of_none hnone

/-- A stored entry whose size takes the sum around to zero. -/
example : extractFileData none ([0x50, 0x4b, 0x03, 0x04] ++ List.replicate 26 0)
    { filename := [], compressedSize := 0xFFFFFFE2, uncompressedSize := 0, localHeaderOffset := 0,
      compressionMethod := 0, isDirectory := false } = .outOfBounds 30 := by
  decide +kernel

/-- The reader as a whole. Every input and every entry. -/
theorem zip_safe_iff (inflate : Option Inflate) (buffer : List UInt8) (entry : ZipEntry) :
    (DirectorySafe buffer ∧ DataSafe inflate buffer entry) ↔
      (∀ target, HasRecord buffer target → recordEnd buffer target ≤ buffer.length) ∧
        HeaderKept buffer entry ∧ DataKept inflate buffer entry := by
  rw [extractZipEntries_safe_iff, extractFileData_safe_iff]

/-- A directory of one record, of which the input has only the signature in front of its end record. -/
def truncatedDirectory : List UInt8 :=
  [0x50, 0x4b, 0x01, 0x02] ++ [0x50, 0x4b, 0x05, 0x06, 0, 0, 0, 0, 1, 0, 1, 0] ++ List.replicate 10 0

/-- The record is read behind the end of the input. -/
theorem not_zip_safe :
    ¬ ∀ (inflate : Option Inflate) (buffer : List UInt8) (entry : ZipEntry),
        DirectorySafe buffer ∧ DataSafe inflate buffer entry := by
  intro h
  have hinside := (h none truncatedDirectory
    { filename := [], compressedSize := 0, uncompressedSize := 0, localHeaderOffset := 0,
      compressionMethod := 0, isDirectory := false }).1.1
  have hread : extractZipEntries truncatedDirectory = .outOfBounds 28 := by decide +kernel
  rw [hread] at hinside
  exact Checked.not_inBounds_outOfBounds 28 hinside

end KnxStack.Ets.ZipReader
