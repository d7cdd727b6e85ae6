import KnxStack.Lib.Blocks
import KnxStack.Lib.Words
import KnxStack.Network.FilterTable

/-!
# The filter table as octets

`FilterTable::saveTable` and `loadTable` (`network/filter_table.cpp`): the default action, a count,
and five octets for each entry. The octets say nothing of whether an entry is enabled, so a loaded
table has enabled entries only. Loading writes the default action before it checks the size, and adds
entries until the table is full.

- `loadTable_saveTable`: what a table becomes when it is saved and loaded.
- `file_faithful_iff`: when a saved table decides as before, and when a refused or oversized file
  leaves the table as it was.
-/

set_option autoImplicit false

namespace KnxStack.Network

open KnxStack.Lib KnxStack.Lib.Words

/-! ## Saving and loading -/

/-- The octet of an action. -/
def FilterAction.octet (action : FilterAction) : UInt8 := if action = .block then 1 else 0

/-- The action of an octet. -/
def FilterAction.ofOctet (b : UInt8) : FilterAction := if b ≠ 0 then .block else .allow

/-- Address, mask and action of an entry. -/
def FilterEntry.octets (entry : FilterEntry) : List UInt8 :=
  [highByte entry.address.raw, lowByte entry.address.raw, highByte entry.mask.raw,
    lowByte entry.mask.raw, entry.action.octet]

/-- The entry that `loadTable` reads at an offset. -/
def FilterEntry.readAt (data : List UInt8) (offset : Nat) : FilterEntry where
  address := ⟨joinBytes (data.getD offset 0) (data.getD (offset + 1) 0)⟩
  mask := ⟨joinBytes (data.getD (offset + 2) 0) (data.getD (offset + 3) 0)⟩
  action := .ofOctet (data.getD (offset + 4) 0)
  enabled := true

namespace FilterTable

/-- `saveTable` into a buffer of `capacity` octets. -/
def saveTable (table : FilterTable) (capacity : Nat) : Result (List UInt8) :=
  if capacity < 3 + table.entryCount * 5 then .error .bufferTooSmall
  else
    .ok ([table.defaultAction.octet, highByte (UInt16.ofNat table.entryCount),
        lowByte (UInt16.ofNat table.entryCount)]
      ++ table.entries.data.flatMap FilterEntry.octets)

/-- The entry count of a file. -/
def fileCount (data : List UInt8) : Nat := (joinBytes (data.getD 1 0) (data.getD 2 0)).toNat

/-- The entries of a file. -/
def fileEntries (data : List UInt8) : List FilterEntry :=
  (List.range (fileCount data)).map fun i => .readAt data (3 + 5 * i)

/-- `loadTable`. -/
def loadTable (table : FilterTable) (data : List UInt8) : FilterTable × Result Unit :=
  if data.length < 3 then (table, .error .invalidParameter)
  else
    let table := { table with defaultAction := .ofOctet (data.getD 0 0) }
    if data.length ≠ 3 + fileCount data * 5 then (table, .error .invalidFrameSize)
    else
      -- an entry that does not fit is dropped without notice
      ((fileEntries data).foldl (fun table entry => (table.addEntry entry).1) table.clear, .ok ())

/-! ## What is loaded -/

theorem foldl_addEntry (news : List FilterEntry) (table : FilterTable) :
    (news.foldl (fun table entry => (table.addEntry entry).1) table).entries.data
        = table.entries.data ++ news.take (maxFilterEntries - table.entryCount)
      ∧ (news.foldl (fun table entry => (table.addEntry entry).1) table).defaultAction
        = table.defaultAction := by
  induction news generalizing table with
  | nil => simp
  | cons entry news ih =>
    rw [List.foldl_cons]
    obtain ⟨hentries, hdefault⟩ := ih (table.addEntry entry).1
    rw [hentries, hdefault]
    by_cases hroom : table.entryCount < maxFilterEntries
    · have hplace : table.entries.data.length < maxFilterEntries := hroom
      have hadded : (table.addEntry entry).1 = table.appendEntries [entry] hroom := by
        rw [addEntry, if_neg (Nat.not_le.mpr hroom), FixedVector.pushBack, dif_pos hplace]
        rfl
      have hcount : maxFilterEntries - table.entryCount
          = maxFilterEntries - (table.appendEntries [entry] hroom).entryCount + 1 := by
        simp only [entryCount, appendEntries, FixedVector.size, List.length_append,
          List.length_singleton]
        omega
      rw [hadded, hcount, List.take_succ_cons]
      exact ⟨List.append_assoc table.entries.data [entry] _, rfl⟩
    · have hfull : (table.addEntry entry).1 = table := by
        rw [addEntry, if_pos (Nat.le_of_not_lt hroom)]
      have hnone : maxFilterEntries - table.entryCount = 0 :=
        Nat.sub_eq_zero_of_le (Nat.le_of_not_lt hroom)
      rw [hfull, hnone, List.take_zero, List.take_zero]
      exact ⟨rfl, rfl⟩

theorem loadTable_whole (table : FilterTable) {data : List UInt8} (hhead : 3 ≤ data.length)
    (hsize : data.length = 3 + fileCount data * 5) :
    (table.loadTable data).2 = .ok ()
      ∧ (table.loadTable data).1.entries.data = (fileEntries data).take maxFilterEntries
      ∧ (table.loadTable data).1.defaultAction = .ofOctet (data.getD 0 0) := by
  rw [loadTable, if_neg (Nat.not_lt.mpr hhead)]
  dsimp only
  rw [if_neg (not_not.mpr hsize)]
  obtain ⟨hentries, hdefault⟩ := foldl_addEntry (fileEntries data)
    ({ table with defaultAction := .ofOctet (data.getD 0 0) } : FilterTable).clear
  refine ⟨rfl, ?_, hdefault⟩
  rw [hentries]
  rfl

/-- An entry as it is loaded. -/
def enable (entry : FilterEntry) : FilterEntry := { entry with enabled := true }

theorem ofOctet_octet (action : FilterAction) : FilterAction.ofOctet action.octet = action := by
  cases action <;> rfl

theorem readAt_of_block {data : List UInt8} {offset : Nat} {entry : FilterEntry}
    (h : ∀ k < 5, data[offset + k]? = entry.octets[k]?) :
    FilterEntry.readAt data offset = enable entry := by
  have hoctet : ∀ k < 5, data.getD (offset + k) 0 = entry.octets.getD k 0 := by
    intro k hk
    rw [List.getD_eq_getElem?_getD, List.getD_eq_getElem?_getD, h k hk]
  have hfirst := hoctet 0 (by decide)
  rw [Nat.add_zero] at hfirst
  rw [FilterEntry.readAt, hfirst, hoctet 1 (by decide), hoctet 2 (by decide), hoctet 3 (by decide),
    hoctet 4 (by decide)]
  simp only [FilterEntry.octets, List.getD_cons_zero, List.getD_cons_succ,
    joinBytes_highByte_lowByte, ofOctet_octet, enable]

section Saved

variable {table : FilterTable} {capacity : Nat} {octets : List UInt8}

/-- What `saveTable` wrote. -/
theorem saveTable_eq (h : table.saveTable capacity = .ok octets) :
    octets = [table.defaultAction.octet, highByte (UInt16.ofNat table.entryCount),
        lowByte (UInt16.ofNat table.entryCount)]
      ++ table.entries.data.flatMap FilterEntry.octets := by
  rw [saveTable] at h
  split at h
  · cases h
  · exact (Except.ok.inj h).symm

theorem fileCount_saved (h : table.saveTable capacity = .ok octets) :
    fileCount octets = table.entryCount := by
  have hsize : table.entryCount ≤ 64 := table.entries.size_le
  rw [saveTable_eq h, fileCount]
  change (joinBytes (highByte _) (lowByte _)).toNat = _
  rw [joinBytes_highByte_lowByte]
  exact UInt16.toNat_ofNat_of_lt' (by simp only [UInt16.size]; omega)

theorem length_saved (h : table.saveTable capacity = .ok octets) :
    octets.length = 3 + fileCount octets * 5 := by
  rw [fileCount_saved h, saveTable_eq h, List.length_append,
    Blocks.length_flatMap (f := FilterEntry.octets) (n := 5) (fun _ => rfl)]
  rfl

theorem fileEntries_saved (h : table.saveTable capacity = .ok octets) :
    fileEntries octets = table.entries.data.map enable := by
  apply List.ext_getElem?
  intro i
  rw [fileEntries, fileCount_saved h, List.getElem?_map, List.getElem?_map]
  by_cases hi : i < table.entryCount
  · have hentry : table.entries.data[i]? = some table.entries.data[i] := List.getElem?_eq_getElem hi
    rw [List.getElem?_range hi, hentry]
    have hread : FilterEntry.readAt octets (3 + 5 * i) = enable table.entries.data[i] := by
      apply readAt_of_block
      intro k hk
      rw [saveTable_eq h, Nat.add_assoc, List.getElem?_append_right (Nat.le_add_right 3 _)]
      change (table.entries.data.flatMap FilterEntry.octets)[3 + (5 * i + k) - 3]? = _
      rw [Nat.add_sub_cancel_left]
      have hblock := Blocks.getElem?_flatMap (f := FilterEntry.octets) (n := 5) (fun _ => rfl)
        table.entries.data i hk
      rw [hentry] at hblock
      exact hblock
    exact congrArg some hread
  · rw [List.getElem?_eq_none (Nat.le_of_not_lt (by rwa [List.length_range])),
      List.getElem?_eq_none (Nat.le_of_not_lt hi)]
    rfl

theorem loadTable_saveTable (h : table.saveTable capacity = .ok octets) (other : FilterTable) :
    other.loadTable octets
      = (⟨⟨table.entries.data.map enable, by rw [List.length_map]; exact table.entries.size_le⟩,
          table.defaultAction⟩, .ok ()) := by
  have hlength := length_saved h
  obtain ⟨hok, hentries, hdefault⟩ := loadTable_whole other (by omega) hlength
  have htake : (table.entries.data.map enable).take maxFilterEntries
      = table.entries.data.map enable := by
    apply List.take_of_length_le
    rw [List.length_map]
    exact table.entries.size_le
  rw [fileEntries_saved h, htake] at hentries
  have hfirst : octets.getD 0 0 = table.defaultAction.octet := by
    rw [saveTable_eq h]
    rfl
  rw [hfirst, ofOctet_octet] at hdefault
  refine Prod.ext ?_ hok
  generalize (other.loadTable octets).1 = loaded at hentries hdefault
  obtain ⟨entries, defaultAction⟩ := loaded
  cases hdefault
  exact congrArg (fun entries => (⟨entries, table.defaultAction⟩ : FilterTable))
    (FixedVector.ext hentries)

end Saved

/-! ## When a saved table decides as before -/

/-- The decision of a list of entries. -/
def decisionOf (entries : List FilterEntry) (defaultAction : FilterAction) (addr : GroupAddress) :
    FilterAction :=
  match entries.find? fun entry => entry.enabled && entry.matches addr with
  | some entry => entry.action
  | none => defaultAction

section Decisions

variable {entry : FilterEntry} {rest : List FilterEntry} {defaultAction : FilterAction}
  {addr : GroupAddress}

theorem decisionOf_cons_of_matches (h : entry.matches addr = true) :
    decisionOf (entry :: rest) defaultAction addr
      = if entry.enabled then entry.action else decisionOf rest defaultAction addr := by
  rw [decisionOf, List.find?_cons, h, Bool.and_true]
  cases entry.enabled <;> rfl

theorem decisionOf_cons_of_not_matches (h : entry.matches addr = false) :
    decisionOf (entry :: rest) defaultAction addr = decisionOf rest defaultAction addr := by
  rw [decisionOf, List.find?_cons, h, Bool.and_false]
  rfl

end Decisions

/-- A disabled entry that is the first to match an address has the action that is decided without
it. -/
def DisabledHarmless (entries : List FilterEntry) (defaultAction : FilterAction)
    (addr : GroupAddress) : Prop :=
  ∀ earlier entry later, entries = earlier ++ entry :: later → entry.enabled = false →
    entry.matches addr = true → (∀ e ∈ earlier, FilterEntry.matches e addr = false) →
      entry.action = decisionOf later defaultAction addr

theorem decisionOf_enabled_iff (entries : List FilterEntry) (defaultAction : FilterAction)
    (addr : GroupAddress) :
    decisionOf (entries.map enable) defaultAction addr = decisionOf entries defaultAction addr
      ↔ DisabledHarmless entries defaultAction addr := by
  induction entries with
  | nil =>
    refine ⟨fun _ earlier entry later hsplit => ?_, fun _ => rfl⟩
    exact absurd hsplit.symm (List.append_ne_nil_of_right_ne_nil _ (List.cons_ne_nil _ _))
  | cons first rest ih =>
    rw [List.map_cons]
    cases hmatch : first.matches addr with
    | true =>
      -- the first entry matches: no other can be the first to match
      rw [decisionOf_cons_of_matches (show (enable first).matches addr = true from hmatch),
        decisionOf_cons_of_matches hmatch]
      change first.action = _ ↔ _
      constructor
      · intro hsame earlier entry later hsplit hdisabled hmatches hearlier
        cases earlier with
        | nil =>
          obtain ⟨rfl, rfl⟩ := List.cons.inj hsplit
          rw [hdisabled] at hsame
          exact hsame
        | cons e earlier =>
          obtain ⟨rfl, -⟩ := List.cons.inj hsplit
          have hno := hearlier first List.mem_cons_self
          rw [hmatch] at hno
          cases hno
      · intro hharmless
        cases henabled : first.enabled with
        | true => rfl
        | false => exact hharmless [] first rest rfl henabled hmatch (fun e he => (nomatch he))
    | false =>
      -- the first entry decides nothing, enabled or not
      rw [decisionOf_cons_of_not_matches (show (enable first).matches addr = false from hmatch),
        decisionOf_cons_of_not_matches hmatch, ih]
      constructor
      · intro hrest earlier entry later hsplit hdisabled hmatches hearlier
        cases earlier with
        | nil =>
          obtain ⟨rfl, rfl⟩ := List.cons.inj hsplit
          rw [hmatch] at hmatches
          cases hmatches
        | cons e earlier =>
          obtain ⟨rfl, hrestSplit⟩ := List.cons.inj hsplit
          exact hrest earlier entry later hrestSplit hdisabled hmatches
            fun e he => hearlier e (List.mem_cons_of_mem _ he)
      · intro hall earlier entry later hsplit hdisabled hmatches hearlier
        refine hall (first :: earlier) entry later ?_ hdisabled hmatches ?_
        · rw [hsplit]
          rfl
        · intro e he
          rcases List.mem_cons.mp he with rfl | he
          · exact hmatch
          · exact hearlier e he

/-! ## The file as a whole -/

/-- Saving a table and loading the octets into another gives the same decisions. -/
def RoundTrips (table other : FilterTable) : Prop :=
  ∀ capacity octets, table.saveTable capacity = .ok octets →
    ∃ loaded, other.loadTable octets = (loaded, .ok ())
      ∧ loaded.defaultAction = table.defaultAction
      ∧ ∀ addr, loaded.checkFilter addr = table.checkFilter addr

/-- A file that is refused, or that has more entries than a table, leaves the table as it was. -/
def FailsWhole (table : FilterTable) (data : List UInt8) : Prop :=
  (∃ e, (table.loadTable data).2 = .error e) ∨ maxFilterEntries < fileCount data →
    (table.loadTable data).1 = table

/-- The table already has what is written of a file that is refused for its size, or that has too
many entries. -/
def AlreadyHolds (table : FilterTable) (data : List UInt8) : Prop :=
  3 ≤ data.length →
    (data.length ≠ 3 + fileCount data * 5 → table.defaultAction = .ofOctet (data.getD 0 0))
    ∧ (data.length = 3 + fileCount data * 5 → maxFilterEntries < fileCount data →
      table.defaultAction = .ofOctet (data.getD 0 0)
        ∧ table.entries.data = (fileEntries data).take maxFilterEntries)

theorem roundTrips_iff (table other : FilterTable) :
    RoundTrips table other
      ↔ ∀ addr, DisabledHarmless table.entries.data table.defaultAction addr := by
  constructor
  · intro h addr
    have hsaved : table.saveTable (3 + table.entryCount * 5) = .ok _ := if_neg (Nat.lt_irrefl _)
    obtain ⟨loaded, hload, -, hsame⟩ := h _ _ hsaved
    rw [loadTable_saveTable hsaved] at hload
    cases hload
    exact (decisionOf_enabled_iff _ _ addr).mp (hsame addr)
  · intro hharmless capacity octets hsaved
    refine ⟨_, loadTable_saveTable hsaved other, rfl, ?_⟩
    intro addr
    exact (decisionOf_enabled_iff _ _ addr).mpr (hharmless addr)

theorem failsWhole_iff (table : FilterTable) (data : List UInt8) :
    FailsWhole table data ↔ AlreadyHolds table data := by
  by_cases hhead : data.length < 3
  · have hsame : (table.loadTable data).1 = table := by
      rw [loadTable, if_pos hhead]
    exact ⟨fun _ h => absurd hhead (Nat.not_lt.mpr h), fun _ _ => hsame⟩
  · have hlong : 3 ≤ data.length := Nat.le_of_not_lt hhead
    by_cases hsize : data.length = 3 + fileCount data * 5
    · -- the file is loaded, up to the capacity
      obtain ⟨hok, hentries, hdefault⟩ := loadTable_whole table hlong hsize
      have hsame : (table.loadTable data).1 = table
          ↔ table.defaultAction = .ofOctet (data.getD 0 0)
            ∧ table.entries.data = (fileEntries data).take maxFilterEntries := by
        constructor
        · intro h
          rw [h] at hentries hdefault
          exact ⟨hdefault, hentries⟩
        · rintro ⟨hd, he⟩
          generalize (table.loadTable data).1 = loaded at hentries hdefault
          obtain ⟨entries, defaultAction⟩ := loaded
          obtain ⟨entries', defaultAction'⟩ := table
          cases hdefault
          cases hd
          exact congrArg (fun entries => (⟨entries, _⟩ : FilterTable))
            (FixedVector.ext (hentries.trans he.symm))
      constructor
      · intro h _
        refine ⟨fun hne => absurd hsize hne, fun _ hmany => ?_⟩
        exact hsame.mp (h (.inr hmany))
      · rintro h (⟨e, herror⟩ | hmany)
        · rw [hok] at herror
          cases herror
        · exact hsame.mpr ((h hlong).2 hsize hmany)
    · -- the file is refused after the default action was written
      have hload : table.loadTable data
          = ({ table with defaultAction := .ofOctet (data.getD 0 0) }, .error .invalidFrameSize) := by
        rw [loadTable, if_neg hhead]
        dsimp only
        rw [if_pos hsize]
      have hsame : (table.loadTable data).1 = table
          ↔ table.defaultAction = .ofOctet (data.getD 0 0) := by
        rw [hload]
        constructor
        · intro h
          exact (congrArg FilterTable.defaultAction h).symm
        · intro h
          rw [← h]
      constructor
      · intro h _
        refine ⟨fun _ => hsame.mp (h (.inl ⟨_, by rw [hload]⟩)), fun heq => absurd heq hsize⟩
      · intro h _
        exact hsame.mpr ((h hlong).1 hsize)

/-- A table and its file: for every table, every other and every file, the saved table decides as
before exactly when its disabled entries are harmless, and a file that is refused or too long leaves
the table alone exactly when the table already has what is written of it. -/
theorem file_faithful_iff (table other : FilterTable) (data : List UInt8) :
    (RoundTrips table other
      ↔ ∀ addr, DisabledHarmless table.entries.data table.defaultAction addr)
    ∧ (FailsWhole table data ↔ AlreadyHolds table data) :=
  ⟨roundTrips_iff table other, failsWhole_iff table data⟩

/-- A table with one entry, which is disabled and would block. -/
def disabledTable : FilterTable where
  entries := ⟨[⟨⟨0x0901⟩, ⟨0xFFFF⟩, .block, false⟩], by decide⟩

/-- A disabled entry blocks after loading, and a file that is refused for its size changes the default
action. -/
theorem file_not_faithful : ¬ RoundTrips disabledTable {} ∧ ¬ FailsWhole {} [1, 0, 1] := by
  constructor
  · intro h
    obtain ⟨loaded, hload, -, hsame⟩ := h 8 _ rfl
    have hloaded : loaded = (loadTable {} [0, 0, 1, 0x09, 0x01, 0xFF, 0xFF, 1]).1 := by
      rw [show loadTable {} [0, 0, 1, 0x09, 0x01, 0xFF, 0xFF, 1] = (loaded, .ok ()) from hload]
    have hallowed := hsame ⟨0x0901⟩
    rw [hloaded] at hallowed
    exact absurd hallowed (by decide)
  · intro h
    have hsame := h (.inl ⟨.invalidFrameSize, rfl⟩)
    exact absurd hsame (by decide)

end FilterTable

end KnxStack.Network
