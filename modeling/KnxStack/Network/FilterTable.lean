import KnxStack.Types

/-!
# Group address filter table

`FilterTable` (`network/filter_table.cpp`): an ordered list of at most 64 mask entries, searched for
the first enabled entry that matches, with a default action for the addresses none matches. Couplers
ask it which group telegrams to pass on.

`checkFilter_appendEntries` says what appending entries does to the decisions: nothing at the
addresses an earlier entry matches.
-/

set_option autoImplicit false

namespace KnxStack.Network

/-- `FilterAction`. -/
inductive FilterAction where
  | allow
  | block
  deriving DecidableEq, Repr

/-- `FilterEntry`; a zero bit of the mask is a wildcard. -/
structure FilterEntry where
  address : GroupAddress := ⟨0⟩
  mask : GroupAddress := ⟨0xFFFF⟩
  action : FilterAction := .allow
  enabled : Bool := true
  deriving DecidableEq, Repr

/-- `FilterEntry::matches`. -/
def FilterEntry.matches (entry : FilterEntry) (addr : GroupAddress) : Bool :=
  addr.raw &&& entry.mask.raw == entry.address.raw &&& entry.mask.raw

/-- `MAX_ENTRIES`. -/
def maxFilterEntries : Nat := 64

/-- `FilterTable`. -/
structure FilterTable where
  entries : FixedVector FilterEntry maxFilterEntries := .clear
  defaultAction : FilterAction := .allow
  deriving DecidableEq

namespace FilterTable

/-- `entryCount`. -/
def entryCount (table : FilterTable) : Nat := table.entries.size

/-- `addEntry`: the index of the new entry, or nothing when the table is full. -/
def addEntry (table : FilterTable) (entry : FilterEntry) : FilterTable × Option Nat :=
  if maxFilterEntries ≤ table.entryCount then (table, none)
  else ({ table with entries := table.entries.pushBack entry }, some table.entryCount)

/-- `addEntry` with the fields of the entry. -/
def addEntryOf (table : FilterTable) (address mask : GroupAddress) (action : FilterAction)
    (enabled : Bool) : FilterTable × Result Unit :=
  match table.addEntry ⟨address, mask, action, enabled⟩ with
  | (table', some _) => (table', .ok ())
  | (table', none) => (table', .error .queueFull)

/-- `clear`: the entries, not the default action. -/
def clear (table : FilterTable) : FilterTable := { table with entries := .clear }

/-- `setDefaultAction`. -/
def setDefaultAction (table : FilterTable) (action : FilterAction) : FilterTable :=
  { table with defaultAction := action }

/-- `findEntry`: the first enabled entry that matches. -/
def findEntry (table : FilterTable) (addr : GroupAddress) : Option FilterEntry :=
  table.entries.data.find? fun entry => entry.enabled && entry.matches addr

/-- `checkFilter`. -/
def checkFilter (table : FilterTable) (addr : GroupAddress) : FilterAction :=
  match table.findEntry addr with
  | some entry => entry.action
  | none => table.defaultAction

theorem checkFilter_of_findEntry {table : FilterTable} {addr : GroupAddress} {entry : FilterEntry}
    (h : table.findEntry addr = some entry) : table.checkFilter addr = entry.action := by
  rw [checkFilter, h]

/-- The table with entries appended, as far as they fit. -/
def appendEntries (table : FilterTable) (more : List FilterEntry)
    (hroom : table.entryCount + more.length ≤ maxFilterEntries) : FilterTable :=
  { table with
    entries := ⟨table.entries.data ++ more, by rw [List.length_append]; exact hroom⟩ }

theorem checkFilter_appendEntries {table : FilterTable} {more : List FilterEntry}
    (hroom : table.entryCount + more.length ≤ maxFilterEntries) (addr : GroupAddress) :
    (table.appendEntries more hroom).checkFilter addr
      = match table.findEntry addr with
        | some entry => entry.action
        | none =>
            ((more.find? fun entry => entry.enabled && entry.matches addr).map
              FilterEntry.action).getD table.defaultAction := by
  have hfind : (table.appendEntries more hroom).findEntry addr
      = (table.findEntry addr).or (more.find? fun entry => entry.enabled && entry.matches addr) := by
    show (table.entries.data ++ more).find? _ = _
    rw [List.find?_append]
    rfl
  rw [checkFilter, hfind]
  cases table.findEntry addr with
  | some entry => rfl
  | none =>
    rw [Option.none_or]
    cases more.find? (fun entry => entry.enabled && entry.matches addr) with
    | some entry => rfl
    | none => rfl

theorem addEntryOf_of_lt {table : FilterTable} {address mask : GroupAddress} {action : FilterAction}
    {enabled : Bool} (h : table.entryCount < maxFilterEntries) :
    table.addEntryOf address mask action enabled
      = (table.appendEntries [⟨address, mask, action, enabled⟩] h, .ok ()) := by
  have hlt : table.entries.data.length < maxFilterEntries := h
  rw [addEntryOf, addEntry, if_neg (Nat.not_le.mpr h), FixedVector.pushBack, dif_pos hlt]
  rfl

end FilterTable

end KnxStack.Network
