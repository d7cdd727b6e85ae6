import KnxStack.Network.FilterTable
import KnxStack.Lib.Words
import KnxStack.Lib.Runs

/-!
# Routing table control of a coupler

`RoutingTableControl` (`network/routing_table_control.cpp`), the function property
PID_ROUTETABLE_CONTROL: four services that set or clear the whole filter table or a range of group
addresses.

The range services append one entry for each address to a table that is searched from the front.
`follows_iff` is what that amounts to: the table follows the commands exactly along the runs in
which no range command meets an address that an entry with the other action decides already.
-/

set_option autoImplicit false

namespace KnxStack.Network

open KnxStack.Lib KnxStack.Lib.Words

/-! ## Services -/

/-- `FunctionPropertyInvocation`. -/
inductive FunctionPropertyInvocation where
  | command
  | stateRead
  deriving DecidableEq, Repr

/-- `RouteTableServiceId`. -/
inductive RouteTableServiceId where
  | clearRoutingTable
  | setRoutingTable
  | clearGroupAddress
  | setGroupAddress
  deriving DecidableEq, Repr

/-- The service of a ServiceID octet. -/
def RouteTableServiceId.ofOctet (b : UInt8) : Option RouteTableServiceId :=
  if b = 0x01 then some clearRoutingTable
  else if b = 0x02 then some setRoutingTable
  else if b = 0x03 then some clearGroupAddress
  else if b = 0x04 then some setGroupAddress
  else none

/-- `RouteTableReturnCode`. -/
inductive RouteTableReturnCode where
  | success
  | error
  deriving DecidableEq, Repr

/-- `FunctionPropertyResult`: return code and data. -/
structure FunctionPropertyResult where
  returnCode : RouteTableReturnCode
  data : List UInt8
  deriving DecidableEq, Repr

/-- `makeResponse`. -/
def makeResponse (code : RouteTableReturnCode) (serviceId : UInt8) : FunctionPropertyResult :=
  ⟨code, [serviceId]⟩

/-- `kMaxStandardGroupAddress`. -/
def maxStandardGroupAddress : UInt16 := 0x6FFF

/-- `RoutingTableControl`, with the table it controls. -/
structure RoutingTableControl where
  filterTable : FilterTable
  lastAffectedAddressCount : Nat := 0
  deriving DecidableEq

namespace RoutingTableControl

/-- `clearRoutingTable`. -/
def clearRoutingTable (c : RoutingTableControl) : RoutingTableControl :=
  ⟨c.filterTable.clear.setDefaultAction .block, 0⟩

/-- `setRoutingTable`. -/
def setRoutingTable (c : RoutingTableControl) : RoutingTableControl :=
  ⟨c.filterTable.clear.setDefaultAction .allow, 0⟩

/-- The loop of `applyRange`: one exact entry for each address, until one does not fit. -/
def addAddresses (action : FilterAction) : List UInt16 → FilterTable → FilterTable × Result Unit
  | [], table => (table, .ok ())
  | address :: rest, table =>
      match table.addEntryOf ⟨address⟩ ⟨0xFFFF⟩ action true with
      | (table', .ok ()) => addAddresses action rest table'
      | (table', .error e) => (table', .error e)

/-- The addresses `start`, `start + 1`, … of a range. -/
def rangeAddresses (start : UInt16) (count : Nat) : List UInt16 :=
  (List.range count).map fun k => UInt16.ofNat (start.toNat + k)

/-- `clampedEnd`. -/
def clampEnd (last : UInt16) : UInt16 :=
  if last > maxStandardGroupAddress then maxStandardGroupAddress else last

/-- `requested`: entries a range needs. -/
def requestedEntries (start last : UInt16) : Nat := (clampEnd last).toNat - start.toNat + 1

/-- `applyRange`, once start and end are read. -/
def applyRangeOf (action : FilterAction) (start last : UInt16) (c : RoutingTableControl) :
    RoutingTableControl × Result Unit :=
  if start > last then (c, .error .invalidParameter)
  else if start > maxStandardGroupAddress then (c, .error .outOfRange)
  else if maxFilterEntries - c.filterTable.entryCount < requestedEntries start last then
    (c, .error .queueFull)
  else
    match addAddresses action (rangeAddresses start (requestedEntries start last)) c.filterTable with
    | (table, .error e) => ({ c with filterTable := table }, .error e)
    | (table, .ok ()) => (⟨table, requestedEntries start last⟩, .ok ())

/-- Start and end address of a range service. -/
def rangeOf (serviceInfo : List UInt8) : Option (UInt16 × UInt16) :=
  match serviceInfo with
  | startHi :: startLo :: endHi :: endLo :: _ => some (joinBytes startHi startLo, joinBytes endHi endLo)
  | _ => none

/-- `applyRange`. -/
def applyRange (action : FilterAction) (serviceInfo : List UInt8) (c : RoutingTableControl) :
    RoutingTableControl × Result Unit :=
  match rangeOf serviceInfo with
  | none => (c, .error .decodeFailed)
  | some (start, last) => c.applyRangeOf action start last

/-- The answer to a service that returned `outcome`. -/
def answer (serviceId : UInt8) (outcome : Result Unit) : FunctionPropertyResult :=
  match outcome with
  | .ok () => makeResponse .success serviceId
  | .error _ => makeResponse .error serviceId

/-- One invocation of the property. -/
structure Invocation where
  invocation : FunctionPropertyInvocation
  payload : List UInt8
  deriving DecidableEq, Repr

/-- `invoke`. -/
def invoke (c : RoutingTableControl) (i : Invocation) :
    RoutingTableControl × Result FunctionPropertyResult :=
  match i.payload with
  | _ :: serviceId :: serviceInfo =>
      match i.invocation, RouteTableServiceId.ofOctet serviceId with
      | .stateRead, some _ => (c, .ok (makeResponse .success serviceId))
      | .stateRead, none => (c, .ok (makeResponse .error serviceId))
      | .command, some .clearRoutingTable => (c.clearRoutingTable, .ok (answer serviceId (.ok ())))
      | .command, some .setRoutingTable => (c.setRoutingTable, .ok (answer serviceId (.ok ())))
      | .command, some .clearGroupAddress =>
          let (c', outcome) := c.applyRange .block serviceInfo
          (c', .ok (answer serviceId outcome))
      | .command, some .setGroupAddress =>
          let (c', outcome) := c.applyRange .allow serviceInfo
          (c', .ok (answer serviceId outcome))
      | .command, none => (c, .ok (makeResponse .error serviceId))
  | _ => (c, .error .decodeFailed)

/-- The filter decision for an address. -/
def decision (c : RoutingTableControl) (a : UInt16) : FilterAction := c.filterTable.checkFilter ⟨a⟩

/-! ## What the services ask for -/

/-- The action an invocation commands for every address. -/
def Invocation.wholeTable (i : Invocation) : Option FilterAction :=
  match i.invocation, i.payload with
  | .command, _ :: serviceId :: _ =>
      match RouteTableServiceId.ofOctet serviceId with
      | some .clearRoutingTable => some .block
      | some .setRoutingTable => some .allow
      | _ => none
  | _, _ => none

/-- The action an invocation commands for a range, and the range. -/
def Invocation.range (i : Invocation) : Option (FilterAction × UInt16 × UInt16) :=
  match i.invocation, i.payload with
  | .command, _ :: serviceId :: serviceInfo =>
      match RouteTableServiceId.ofOctet serviceId with
      | some .clearGroupAddress => (rangeOf serviceInfo).map fun r => (.block, r)
      | some .setGroupAddress => (rangeOf serviceInfo).map fun r => (.allow, r)
      | _ => none
  | _, _ => none

/-- The action an invocation commands for the address `a`, if it covers it. -/
def Invocation.commands (i : Invocation) (a : UInt16) : Option FilterAction :=
  match i.wholeTable, i.range with
  | some action, _ => some action
  | none, some (action, start, last) => if start ≤ a ∧ a ≤ last then some action else none
  | none, none => none

/-- The invocation was answered with Success. -/
def succeeded : Result FunctionPropertyResult → Bool
  | .ok r => r.returnCode == .success
  | .error _ => false

/-- The decisions wanted after an invocation, from those wanted before it: what it commands where it
covers an address and was answered with Success, else the same as before. -/
def wanted (c : RoutingTableControl) (before : UInt16 → FilterAction) (i : Invocation) (a : UInt16) :
    FilterAction :=
  if succeeded (c.invoke i).2 then (i.commands a).getD (before a) else before a

/-- The addresses the routing table is for. -/
def IsStandard (a : UInt16) : Prop := 0x0001 ≤ a ∧ a ≤ maxStandardGroupAddress
  deriving Decidable

/-- After each of the invocations, every standard address is decided as the last command that
covered it wants; `before` is what is wanted now. -/
def Follows (c : RoutingTableControl) (before : UInt16 → FilterAction) : List Invocation → Prop
  | [] => True
  | i :: rest =>
      (∀ a, IsStandard a → (c.invoke i).1.decision a = c.wanted before i a)
        ∧ Follows (c.invoke i).1 (c.wanted before i) rest

/-- A range that can be commanded: not inverted, not above the standard addresses, and with room
for an entry for each address. -/
def HasRoom (c : RoutingTableControl) (start last : UInt16) : Prop :=
  start ≤ last ∧ start ≤ maxStandardGroupAddress
    ∧ requestedEntries start last ≤ maxFilterEntries - c.filterTable.entryCount
  deriving Decidable

/-- No standard address in a range that `i` commands and that has room is decided by an entry with
the other action. -/
def Unshadowed (c : RoutingTableControl) (i : Invocation) : Prop :=
  ∀ action start last, i.range = some (action, start, last) → c.HasRoom start last →
    ∀ a, IsStandard a → start ≤ a → a ≤ last →
      ∀ entry, c.filterTable.findEntry ⟨a⟩ = some entry → entry.action = action

/-! ## One service -/

theorem toNat_clampEnd (last : UInt16) : (clampEnd last).toNat = min last.toNat 0x6FFF := by
  have hmax : maxStandardGroupAddress.toNat = 0x6FFF := rfl
  rw [clampEnd]
  split
  · rename_i h
    have hlt := UInt16.lt_iff_toNat_lt.mp h
    omega
  · rename_i h
    have hle := UInt16.le_iff_toNat_le.mp (UInt16.not_lt.mp h)
    omega

theorem mem_rangeAddresses {start last : UInt16} (h : start ≤ last)
    (hmax : start ≤ maxStandardGroupAddress) (a : UInt16) :
    a ∈ rangeAddresses start (requestedEntries start last)
      ↔ start.toNat ≤ a.toNat ∧ a.toNat ≤ (clampEnd last).toNat := by
  have hclamp := toNat_clampEnd last
  have hle : start.toNat ≤ last.toNat := UInt16.le_iff_toNat_le.mp h
  have hmax' : start.toNat ≤ 0x6FFF := UInt16.le_iff_toNat_le.mp hmax
  rw [rangeAddresses, requestedEntries, List.mem_map]
  constructor
  · rintro ⟨k, hk, rfl⟩
    rw [List.mem_range] at hk
    rw [UInt16.toNat_ofNat']
    omega
  · rintro ⟨hge, hlast⟩
    refine ⟨a.toNat - start.toNat, ?_, ?_⟩
    · rw [List.mem_range]
      omega
    · rw [Nat.add_sub_cancel' hge, UInt16.ofNat_toNat]

/-- The entries of a list of addresses, each matching its own address alone. -/
def exactEntries (action : FilterAction) (addresses : List UInt16) : List FilterEntry :=
  addresses.map fun address => ⟨⟨address⟩, ⟨0xFFFF⟩, action, true⟩

theorem and_ffff (x : UInt16) : x &&& 0xFFFF = x := by
  have hmask : (0xFFFF : UInt16).toNat = 2 ^ 16 - 1 := rfl
  apply UInt16.toNat_inj.mp
  rw [UInt16.toNat_and, hmask, Nat.and_two_pow_sub_one_eq_mod]
  exact Nat.mod_eq_of_lt x.toNat_lt

theorem find?_exactEntries (action : FilterAction) (addresses : List UInt16) (a : UInt16) :
    ((exactEntries action addresses).find? fun entry => entry.enabled && entry.matches ⟨a⟩).map
        FilterEntry.action
      = if a ∈ addresses then some action else none := by
  induction addresses with
  | nil => rfl
  | cons address rest ih =>
    have hmatches : FilterEntry.matches ⟨⟨address⟩, ⟨0xFFFF⟩, action, true⟩ ⟨a⟩ = (a == address) := by
      simp only [FilterEntry.matches, and_ffff]
    rw [exactEntries, List.map_cons, List.find?_cons, Bool.true_and, hmatches]
    by_cases heq : a = address
    · subst heq
      simp
    · have hne : (a == address) = false := beq_eq_false_iff_ne.mpr heq
      rw [hne]
      simp only [List.mem_cons, heq, false_or]
      exact ih

/-- The loop of `applyRange`, where there is room for every address. -/
theorem addAddresses_of_room (action : FilterAction) (addresses : List UInt16) :
    ∀ {table : FilterTable} (hroom : table.entryCount + addresses.length ≤ maxFilterEntries),
      addAddresses action addresses table
        = (table.appendEntries (exactEntries action addresses)
            (by rw [exactEntries, List.length_map]; exact hroom), .ok ()) := by
  induction addresses with
  | nil =>
    intro table hroom
    rw [addAddresses]
    simp [FilterTable.appendEntries, exactEntries]
  | cons address rest ih =>
    intro table hroom
    rw [List.length_cons] at hroom
    have hlt : table.entryCount < maxFilterEntries := by omega
    rw [addAddresses, FilterTable.addEntryOf_of_lt hlt]
    have hroom' : (table.appendEntries [⟨⟨address⟩, ⟨0xFFFF⟩, action, true⟩] hlt).entryCount
        + rest.length ≤ maxFilterEntries := by
      show (table.entries.data ++ [_]).length + rest.length ≤ maxFilterEntries
      rw [List.length_append, List.length_singleton]
      have hcount : table.entries.data.length = table.entryCount := rfl
      omega
    show addAddresses action rest _ = _
    rw [ih hroom']
    simp [FilterTable.appendEntries, exactEntries]

/-- A range with room: its addresses get the action, except where an entry decided before. -/
theorem applyRangeOf_of_hasRoom {c : RoutingTableControl} (action : FilterAction)
    {start last : UInt16} (h : c.HasRoom start last) :
    (c.applyRangeOf action start last).2 = .ok ()
      ∧ ∀ a, (c.applyRangeOf action start last).1.decision a
        = match c.filterTable.findEntry ⟨a⟩ with
          | some entry => entry.action
          | none =>
              if start.toNat ≤ a.toNat ∧ a.toNat ≤ (clampEnd last).toNat then action
              else c.filterTable.defaultAction := by
  obtain ⟨hle, hmax, hfree⟩ := h
  have hlength : (rangeAddresses start (requestedEntries start last)).length
      = requestedEntries start last := by
    rw [rangeAddresses, List.length_map, List.length_range]
  have hcount : c.filterTable.entryCount ≤ maxFilterEntries := c.filterTable.entries.size_le
  have hroom : c.filterTable.entryCount
      + (rangeAddresses start (requestedEntries start last)).length ≤ maxFilterEntries := by
    omega
  have happly : c.applyRangeOf action start last
      = (⟨c.filterTable.appendEntries
            (exactEntries action (rangeAddresses start (requestedEntries start last)))
            (by rw [exactEntries, List.length_map]; exact hroom),
          requestedEntries start last⟩, .ok ()) := by
    rw [applyRangeOf, if_neg (UInt16.not_lt.mpr hle), if_neg (UInt16.not_lt.mpr hmax),
      if_neg (Nat.not_lt.mpr hfree), addAddresses_of_room action _ hroom]
  rw [happly]
  refine ⟨rfl, ?_⟩
  intro a
  show FilterTable.checkFilter _ _ = _
  rw [FilterTable.checkFilter_appendEntries, find?_exactEntries]
  simp only [mem_rangeAddresses hle hmax]
  cases c.filterTable.findEntry ⟨a⟩ with
  | some entry => rfl
  | none =>
    by_cases hin : start.toNat ≤ a.toNat ∧ a.toNat ≤ (clampEnd last).toNat
    · simp [hin]
    · simp [hin]

theorem applyRangeOf_of_not_hasRoom {c : RoutingTableControl} (action : FilterAction)
    {start last : UInt16} (h : ¬ c.HasRoom start last) :
    (c.applyRangeOf action start last).1 = c
      ∧ ∃ e, (c.applyRangeOf action start last).2 = .error e := by
  rw [applyRangeOf]
  split
  · exact ⟨rfl, _, rfl⟩
  · rename_i hle
    split
    · exact ⟨rfl, _, rfl⟩
    · rename_i hmax
      split
      · exact ⟨rfl, _, rfl⟩
      · rename_i hfree
        exact absurd ⟨UInt16.not_lt.mp hle, UInt16.not_lt.mp hmax, Nat.not_lt.mp hfree⟩ h

/-! ## One invocation -/

/-- What an invocation can do, said once: decide every address, apply a range, or nothing. -/
theorem invoke_cases (c : RoutingTableControl) (i : Invocation) :
    (∃ action, i.wholeTable = some action ∧ succeeded (c.invoke i).2 = true
        ∧ ∀ a, (c.invoke i).1.decision a = action)
      ∨ (∃ action start last, i.wholeTable = none ∧ i.range = some (action, start, last)
        ∧ (c.invoke i).1 = (c.applyRangeOf action start last).1
        ∧ (succeeded (c.invoke i).2 = true ↔ (c.applyRangeOf action start last).2 = .ok ()))
      ∨ (i.wholeTable = none ∧ i.range = none ∧ (c.invoke i).1 = c) := by
  obtain ⟨invocation, payload⟩ := i
  match payload with
  | [] =>
    right
    right
    cases invocation <;> exact ⟨rfl, rfl, rfl⟩
  | [_] =>
    right
    right
    cases invocation <;> exact ⟨rfl, rfl, rfl⟩
  | b :: serviceId :: serviceInfo =>
    cases invocation with
    | stateRead =>
      right
      right
      refine ⟨rfl, rfl, ?_⟩
      cases hs : RouteTableServiceId.ofOctet serviceId with
      | none => simp only [invoke, hs]
      | some service => simp only [invoke, hs]
    | command =>
      -- a range service, with `action`, on a payload that holds a range or does not
      have hrange : ∀ action, (c.invoke ⟨.command, b :: serviceId :: serviceInfo⟩)
            = ((c.applyRange action serviceInfo).1,
              .ok (answer serviceId (c.applyRange action serviceInfo).2)) →
          Invocation.wholeTable ⟨.command, b :: serviceId :: serviceInfo⟩ = none →
          Invocation.range ⟨.command, b :: serviceId :: serviceInfo⟩
            = (rangeOf serviceInfo).map (fun r => (action, r)) →
          (∃ action start last,
            Invocation.wholeTable ⟨.command, b :: serviceId :: serviceInfo⟩ = none
              ∧ Invocation.range ⟨.command, b :: serviceId :: serviceInfo⟩
                = some (action, start, last)
              ∧ (c.invoke ⟨.command, b :: serviceId :: serviceInfo⟩).1
                = (c.applyRangeOf action start last).1
              ∧ (succeeded (c.invoke ⟨.command, b :: serviceId :: serviceInfo⟩).2 = true
                ↔ (c.applyRangeOf action start last).2 = .ok ()))
            ∨ (Invocation.wholeTable ⟨.command, b :: serviceId :: serviceInfo⟩ = none
              ∧ Invocation.range ⟨.command, b :: serviceId :: serviceInfo⟩ = none
              ∧ (c.invoke ⟨.command, b :: serviceId :: serviceInfo⟩).1 = c) := by
        intro action hinvoke hwhole hrange
        rw [hinvoke, hwhole, hrange]
        cases hr : rangeOf serviceInfo with
        | none =>
          right
          refine ⟨rfl, rfl, ?_⟩
          rw [applyRange, hr]
        | some r =>
          left
          refine ⟨action, r.1, r.2, rfl, rfl, ?_, ?_⟩
          · rw [applyRange, hr]
          · rw [applyRange, hr]
            show (answer serviceId (c.applyRangeOf action r.1 r.2).2).returnCode == .success ↔ _
            cases (c.applyRangeOf action r.1 r.2).2 with
            | ok u => exact ⟨fun _ => rfl, fun _ => rfl⟩
            | error e =>
              constructor
              · intro h
                cases h
              · intro h
                cases h
      cases hs : RouteTableServiceId.ofOctet serviceId with
      | none =>
        right
        right
        simp only [Invocation.wholeTable, Invocation.range, invoke, hs, and_self]
      | some service =>
        cases service with
        | clearRoutingTable =>
          left
          refine ⟨.block, ?_, ?_, ?_⟩
          · simp only [Invocation.wholeTable, hs]
          · simp only [invoke, hs]
            rfl
          · intro a
            simp only [invoke, hs]
            rfl
        | setRoutingTable =>
          left
          refine ⟨.allow, ?_, ?_, ?_⟩
          · simp only [Invocation.wholeTable, hs]
          · simp only [invoke, hs]
            rfl
          · intro a
            simp only [invoke, hs]
            rfl
        | clearGroupAddress =>
          right
          apply hrange .block
          · simp only [invoke, hs]
          · simp only [Invocation.wholeTable, hs]
          · simp only [Invocation.range, hs]
        | setGroupAddress =>
          right
          apply hrange .allow
          · simp only [invoke, hs]
          · simp only [Invocation.wholeTable, hs]
          · simp only [Invocation.range, hs]

theorem decision_of_not_covered (c : RoutingTableControl) {i : Invocation} {a : UInt16}
    (h : i.commands a = none) : (c.invoke i).1.decision a = c.decision a := by
  rcases invoke_cases c i with ⟨action, hwhole, -⟩ | ⟨action, start, last, hwhole, hr, heq, -⟩
    | ⟨-, -, heq⟩
  · rw [Invocation.commands, hwhole] at h
    cases h
  · rw [heq]
    by_cases hroom : c.HasRoom start last
    · have hout : ¬ (start.toNat ≤ a.toNat ∧ a.toNat ≤ (clampEnd last).toNat) := by
        have hclamp := toNat_clampEnd last
        rintro ⟨hge, hle⟩
        have hin : start ≤ a ∧ a ≤ last :=
          ⟨UInt16.le_iff_toNat_le.mpr hge, UInt16.le_iff_toNat_le.mpr (by omega)⟩
        rw [Invocation.commands, hwhole, hr] at h
        simp only [if_pos hin] at h
        cases h
      rw [(applyRangeOf_of_hasRoom action hroom).2 a, decision, FilterTable.checkFilter]
      cases c.filterTable.findEntry ⟨a⟩ with
      | some entry => rfl
      | none => exact if_neg hout
    · rw [(applyRangeOf_of_not_hasRoom action hroom).1]
  · rw [heq]

/-- An invocation that is not answered with Success, and every State_Read, keeps every decision. -/
theorem decision_of_failed (c : RoutingTableControl) {i : Invocation}
    (h : succeeded (c.invoke i).2 = false ∨ i.invocation = .stateRead) (a : UInt16) :
    (c.invoke i).1.decision a = c.decision a := by
  rcases h with hfailed | hread
  · rcases invoke_cases c i with ⟨action, -, hsuccess, -⟩
      | ⟨action, start, last, -, -, heq, hsuccess⟩ | ⟨-, -, heq⟩
    · rw [hfailed] at hsuccess
      cases hsuccess
    · have hroom : ¬ c.HasRoom start last := by
        intro hroom
        have hok := hsuccess.mpr (applyRangeOf_of_hasRoom action hroom).1
        rw [hfailed] at hok
        cases hok
      rw [heq, (applyRangeOf_of_not_hasRoom action hroom).1]
    · rw [heq]
  · apply decision_of_not_covered
    simp [Invocation.commands, Invocation.wholeTable, Invocation.range, hread]

/-- One invocation of a table that is as wanted leaves it as wanted exactly when no entry with
the other action stands before the new ones. -/
theorem follows_step_iff {c : RoutingTableControl} {before : UInt16 → FilterAction}
    (hbefore : ∀ a, IsStandard a → c.decision a = before a) (i : Invocation) :
    (∀ a, IsStandard a → (c.invoke i).1.decision a = c.wanted before i a) ↔ c.Unshadowed i := by
  rcases invoke_cases c i with ⟨action, hwhole, hsuccess, hall⟩
    | ⟨action, start, last, hwhole, hr, heq, hsuccess⟩ | ⟨hwhole, hr, heq⟩
  · -- a whole-table service always does as it is told
    have hcommands : ∀ a, i.commands a = some action := by
      intro a
      rw [Invocation.commands, hwhole]
    have hnone : i.range = none := by
      obtain ⟨invocation, payload⟩ := i
      simp only [Invocation.wholeTable] at hwhole
      simp only [Invocation.range]
      split
      · rename_i b serviceId serviceInfo
        simp only at hwhole
        split at hwhole
        · rename_i hs
          rw [hs]
        · rename_i hs
          rw [hs]
        · cases hwhole
      · rfl
    constructor
    · intro _ action' start last hr
      rw [hnone] at hr
      cases hr
    · intro _ a _
      rw [hall, wanted, hsuccess, if_pos rfl, hcommands, Option.getD_some]
  · have hcommands : ∀ a, i.commands a = if start ≤ a ∧ a ≤ last then some action else none := by
      intro a
      rw [Invocation.commands, hwhole, hr]
    by_cases hroom : c.HasRoom start last
    · obtain ⟨hok, hdecision⟩ := applyRangeOf_of_hasRoom action hroom
      -- on the standard addresses the clamped range is the commanded one
      have hrange : ∀ a, IsStandard a →
          ((start.toNat ≤ a.toNat ∧ a.toNat ≤ (clampEnd last).toNat) ↔ (start ≤ a ∧ a ≤ last)) := by
        intro a ha
        have hclamp := toNat_clampEnd last
        have hmax : a.toNat ≤ 0x6FFF := UInt16.le_iff_toNat_le.mp ha.2
        rw [UInt16.le_iff_toNat_le, UInt16.le_iff_toNat_le]
        omega
      have hwanted : ∀ a, c.wanted before i a = if start ≤ a ∧ a ≤ last then action else before a := by
        intro a
        rw [wanted, hsuccess.mpr hok, if_pos rfl, hcommands]
        split <;> rfl
      constructor
      · intro h action' start' last' hr' _ a ha hge hle entry hentry
        rw [hr] at hr'
        cases hr'
        have hafter := h a ha
        have hcommanded : c.wanted before i a = action := by rw [hwanted, if_pos ⟨hge, hle⟩]
        rw [heq, hdecision, hentry, hcommanded] at hafter
        exact hafter
      · intro h a ha
        rw [heq, hdecision, hwanted]
        cases hentry : c.filterTable.findEntry ⟨a⟩ with
        | some entry =>
          by_cases hin : start ≤ a ∧ a ≤ last
          · rw [if_pos hin]
            exact h action start last hr hroom a ha hin.1 hin.2 entry hentry
          · rw [if_neg hin, ← hbefore a ha]
            exact (FilterTable.checkFilter_of_findEntry hentry).symm
        | none =>
          by_cases hin : start ≤ a ∧ a ≤ last
          · rw [if_pos hin]
            exact if_pos ((hrange a ha).mpr hin)
          · rw [if_neg hin, ← hbefore a ha, decision, FilterTable.checkFilter, hentry]
            exact if_neg (fun hclamped => hin ((hrange a ha).mp hclamped))
    · -- a refused range changes nothing and wants nothing
      obtain ⟨hsame, e, herror⟩ := applyRangeOf_of_not_hasRoom action hroom
      have hfailed : succeeded (c.invoke i).2 = false := by
        rw [← Bool.not_eq_true, hsuccess, herror]
        intro h
        cases h
      constructor
      · intro _ action' start' last' hr' hroom'
        rw [hr] at hr'
        cases hr'
        exact absurd hroom' hroom
      · intro _ a ha
        rw [heq, hsame, wanted, hfailed]
        exact hbefore a ha
  · constructor
    · intro _ action start last hr'
      rw [hr] at hr'
      cases hr'
    · intro _ a ha
      have hcommands : i.commands a = none := by
        rw [Invocation.commands, hwhole, hr]
      rw [heq, wanted, hcommands, hbefore a ha]
      simp

/-! ## Runs -/

/-- The routing table follows its commands exactly along the runs in which no range command meets
an address that an entry with the other action decides already. In every run, addresses an
invocation does not cover keep their decision, and so do all addresses under an invocation that is
not answered with Success and under every State_Read. -/
theorem follows_iff (c : RoutingTableControl) :
    (∀ calls : List Invocation, Follows c c.decision calls
        ↔ Along (fun c i => (c.invoke i).1) Unshadowed c calls)
      ∧ (∀ (c : RoutingTableControl) (i : Invocation) (a : UInt16), i.commands a = none →
        (c.invoke i).1.decision a = c.decision a)
      ∧ (∀ (c : RoutingTableControl) (i : Invocation) (a : UInt16),
        succeeded (c.invoke i).2 = false ∨ i.invocation = .stateRead →
        (c.invoke i).1.decision a = c.decision a) := by
  refine ⟨?_, fun c i a h => decision_of_not_covered c h, fun c i a h => decision_of_failed c h a⟩
  have hrun : ∀ (calls : List Invocation) (c : RoutingTableControl) (before : UInt16 → FilterAction),
      (∀ a, IsStandard a → c.decision a = before a) →
      (Follows c before calls ↔ Along (fun c i => (c.invoke i).1) Unshadowed c calls) := by
    intro calls
    induction calls with
    | nil =>
      intro c before _
      exact Iff.rfl
    | cons i rest ih =>
      intro c before hbefore
      rw [Follows, along_cons, follows_step_iff hbefore i]
      constructor
      · rintro ⟨hstep, hrest⟩
        exact ⟨hstep, (ih _ _ ((follows_step_iff hbefore i).mpr hstep)).mp hrest⟩
      · rintro ⟨hstep, hrest⟩
        exact ⟨hstep, (ih _ _ ((follows_step_iff hbefore i).mpr hstep)).mpr hrest⟩
  intro calls
  exact hrun calls c c.decision (fun _ _ => rfl)

/-- Group address `0/0/1` set, all cleared, `0/0/1` set again. -/
theorem follows_set_clearAll_set :
    Follows ⟨{}, 0⟩ (decision ⟨{}, 0⟩)
      [⟨.command, [0, 4, 0, 1, 0, 1]⟩, ⟨.command, [0, 1]⟩, ⟨.command, [0, 4, 0, 1, 0, 1]⟩] := by
  refine ((follows_iff ⟨{}, 0⟩).1 _).mpr ⟨?_, ?_, ?_, trivial⟩
  · intro action start last _ _ a _ _ _ entry hentry
    cases hentry
  · intro action start last hr
    cases hr
  · intro action start last _ _ a _ _ _ entry hentry
    cases hentry

/-- Group address `0/0/1` set and then cleared, both answered with Success, is still passed. -/
theorem set_then_clear_passes :
    ¬ Follows ⟨{}, 0⟩ (decision ⟨{}, 0⟩)
      [⟨.command, [0, 4, 0, 1, 0, 1]⟩, ⟨.command, [0, 3, 0, 1, 0, 1]⟩] := by
  rintro ⟨-, hsecond, -⟩
  have hcleared := hsecond 1 (by decide)
  revert hcleared
  decide

end RoutingTableControl

end KnxStack.Network
