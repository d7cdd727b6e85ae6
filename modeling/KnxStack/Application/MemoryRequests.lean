import KnxStack.Application.MemoryMap

/-!
# Memory requests over registered regions

Regions that `addRegion` has admitted do not overlap, so the lookup of a request by its first address
and the one by its range find the same region, and an address has one octet.

`memory_requests_exact`: over every history of registrations and requests the services are those of
one memory with an octet at each address. The one access that no mode governs is the read-back of an
A_Memory_Write (`writeOnly_read_back`).
-/

set_option autoImplicit false

namespace KnxStack.Application

open KnxStack.Lib.Octets

namespace MemoryMap

/-! ## The invariant -/

/-- Regions that overlap no other, and bindings of regions of the address space. -/
structure WellFormed (m : MemoryMap) : Prop where
  apart : m.regions.Pairwise fun r other => r.overlaps other = false
  bound : (m.segments.map MemoryBinding.region).Sublist m.regions

theorem wellFormed_empty : WellFormed {} := ⟨List.Pairwise.nil, List.Sublist.slnil⟩

theorem WellFormed.addRegion {m : MemoryMap} (h : m.WellFormed) (region : RegionDescriptor) :
    (m.addRegion region).2.WellFormed ∧
      ((m.addRegion region).1 = .ok () →
        (m.addRegion region).2 = { m with regions := m.regions ++ [region] }) := by
  unfold MemoryMap.addRegion
  split
  · exact ⟨h, nofun⟩
  · split
    · exact ⟨h, nofun⟩
    · split
      · exact ⟨h, nofun⟩
      · rename_i hapart
        refine ⟨⟨?_, h.bound.trans (List.sublist_append_left _ _)⟩, fun _ => rfl⟩
        rw [List.pairwise_append]
        refine ⟨h.apart, List.pairwise_singleton _ _, ?_⟩
        intro r hr other hother
        rw [List.mem_singleton.mp hother]
        by_contra hoverlaps
        exact hapart (List.any_eq_true.mpr ⟨r, hr, by simpa using hoverlaps⟩)

/-- A registration keeps the regions apart and binds only what the address space has taken. -/
theorem WellFormed.registerMemoryRegion {m : MemoryMap} (h : m.WellFormed)
    (region : RegionDescriptor) (storage : List UInt8) :
    (m.registerMemoryRegion region storage).2.WellFormed := by
  unfold MemoryMap.registerMemoryRegion
  obtain ⟨hadded, heq⟩ := h.addRegion region
  split
  · rcases hadd : m.addRegion region with ⟨_ | _, m'⟩
    · rw [hadd] at hadded
      exact hadded
    · rw [hadd] at hadded heq
      have hm' : m' = { m with regions := m.regions ++ [region] } := heq rfl
      dsimp only
      split
      · exact hadded
      · refine ⟨hadded.apart, ?_⟩
        rw [List.map_append, hm']
        exact h.bound.append (List.Sublist.refl _)
  · exact h

theorem wellFormed_registered (registrations : List (RegionDescriptor × List UInt8)) :
    (registered registrations).WellFormed := by
  have hloop : ∀ (registrations : List (RegionDescriptor × List UInt8)) (m : MemoryMap),
      m.WellFormed →
        (registrations.foldl (fun m r => (m.registerMemoryRegion r.1 r.2).2) m).WellFormed := by
    intro registrations
    induction registrations with
    | nil =>
      intro m h
      exact h
    | cons r registrations ih =>
      intro m h
      exact ih _ (h.registerMemoryRegion r.1 r.2)
  exact hloop registrations {} wellFormed_empty

/-! ## The two lookups agree -/

section Lookups

variable {m : MemoryMap} {s : MemoryBinding} {r : RegionDescriptor} {b : Nat}

theorem WellFormed.region_unique (h : m.WellFormed) {r' : RegionDescriptor} (hr : r ∈ m.regions)
    (hr' : r' ∈ m.regions) (hb : r.Holds b) (hb' : r'.Holds b) : r = r' := by
  by_contra hne
  have hapart : r.overlaps r' = false ∨ r'.overlaps r = false := by
    obtain ⟨i, hi, rfl⟩ := List.getElem_of_mem hr
    obtain ⟨j, hj, rfl⟩ := List.getElem_of_mem hr'
    have hpairs := List.pairwise_iff_getElem.mp h.apart
    rcases Nat.lt_trichotomy i j with hlt | heq | hgt
    · exact Or.inl (hpairs i j hi hj hlt)
    · subst heq
      exact absurd rfl hne
    · exact Or.inr (hpairs j i hj hi hgt)
  rcases hapart with hapart | hapart
  · exact RegionDescriptor.not_holds_both hapart hb hb'
  · exact RegionDescriptor.not_holds_both hapart hb' hb

theorem WellFormed.region_mem (h : m.WellFormed) (hs : s ∈ m.segments) : s.region ∈ m.regions :=
  h.bound.subset (List.mem_map_of_mem hs)

theorem WellFormed.segments_apart (h : m.WellFormed) :
    m.segments.Pairwise fun s other => s.region.overlaps other.region = false :=
  List.pairwise_map.mp (h.apart.sublist h.bound)

theorem WellFormed.find_holds (h : m.WellFormed) (hs : s ∈ m.segments) (hb : s.region.Holds b) :
    (m.segments.find? fun s => decide (s.region.Holds b)) = some s := by
  obtain ⟨before, rest, hsplit⟩ := List.append_of_mem hs
  have hapart := h.segments_apart
  rw [hsplit, List.pairwise_append] at hapart
  rw [hsplit, List.find?_append, List.find?_eq_none.mpr]
  · simp [hb]
  · intro other hother
    rw [decide_eq_true_eq]
    have hoverlaps := hapart.2.2 other hother s List.mem_cons_self
    exact fun hheld => RegionDescriptor.not_holds_both hoverlaps hheld hb

theorem WellFormed.octetAt_eq (h : m.WellFormed) (hs : s ∈ m.segments) (hb : s.region.Holds b) :
    m.octetAt b = s.storage[b - s.region.startAddress.toNat]? := by
  rw [octetAt, h.find_holds hs hb, Option.bind_some]

/-- What `validateAccess` admits: the region of the first address contains the range and permits the
direction. -/
theorem validateAccess_eq_success_iff {address : UInt16} {length : UInt8} {accessType : AccessType}
    {maxLength : Nat} :
    m.validateAccess address length accessType maxLength = .success ↔
      length.toNat ≤ maxLength ∧ ∃ r, m.findRegion address = some r ∧
        r.containsRange address length = true ∧ r.permits accessType = true := by
  unfold validateAccess canAccess
  by_cases hzero : length = 0
  · subst hzero
    simp [RegionDescriptor.containsRange]
  · by_cases hlong : maxLength < length.toNat
    · simp [hzero, hlong]
    · have hshort : length.toNat ≤ maxLength := by omega
      cases hfind : m.findRegion address with
      | none => simp [hzero, hlong]
      | some r =>
        by_cases hpermits : r.containsRange address length = true ∧ r.permits accessType = true
        · simp [hzero, hlong, hpermits, hshort]
        · simp [hzero, hlong, hpermits, hshort]

theorem WellFormed.findRegion_eq (h : m.WellFormed) (hr : r ∈ m.regions) {address : UInt16}
    (hb : r.Holds address.toNat) : m.findRegion address = some r := by
  cases hfind : m.findRegion address with
  | none =>
    exact absurd ((RegionDescriptor.contains_iff r address).mpr hb)
      (List.find?_eq_none.mp hfind r hr)
  | some r' =>
    rw [findRegion] at hfind
    have hcontains := List.find?_some hfind
    rw [RegionDescriptor.contains_iff] at hcontains
    rw [h.region_unique (List.mem_of_find?_eq_some hfind) hr hcontains hb]

theorem WellFormed.permits_of_validated (h : m.WellFormed) (hs : s ∈ m.segments)
    {address : UInt16} {length : UInt8} {accessType : AccessType} {maxLength : Nat}
    (hvalid : m.validateAccess address length accessType maxLength = .success)
    (hrange : s.region.containsRange address length = true) :
    s.region.permits accessType = true := by
  obtain ⟨-, r, hfind, -, hpermits⟩ := validateAccess_eq_success_iff.mp hvalid
  have hheld := ((RegionDescriptor.containsRange_iff _ _ _).mp hrange).2.1
  rw [h.findRegion_eq (h.region_mem hs) hheld] at hfind
  cases hfind
  exact hpermits

end Lookups

/-! ## Reads -/

section Reads

variable {m : MemoryMap} {s : MemoryBinding} {address : UInt16} {length : UInt8}

/-- The access lies in the storage of a binding, inside its region. -/
def Inside (m : MemoryMap) (access : StorageAccess) : Prop :=
  ∃ s ∈ m.segments, access.region = s.region ∧
    access.offset + access.length ≤ s.region.size.toNat ∧
    access.offset + access.length ≤ s.storage.length

theorem inside_of_containsRange (hs : s ∈ m.segments)
    (hrange : s.region.containsRange address length = true) (direction : AccessType) :
    m.Inside ⟨direction, s.region, s.region.offset address, length.toNat⟩ := by
  have hle := RegionDescriptor.offset_add_le hrange
  exact ⟨s, hs, rfl, hle, hle.trans s.covers⟩

theorem WellFormed.readStorage_spec (h : m.WellFormed) {data : List UInt8} {access : StorageAccess}
    (hread : m.readStorage address length = some (data, access)) :
    (∃ s ∈ m.segments, s.region.containsRange address length = true ∧
        access = ⟨.read, s.region, s.region.offset address, length.toNat⟩) ∧
      data.length = length.toNat ∧
      ∀ i < length.toNat, data[i]? = m.octetAt (address.toNat + i) := by
  rw [readStorage, Option.map_eq_some_iff] at hread
  obtain ⟨s, hfind, heq⟩ := hread
  cases heq
  have hs := List.mem_of_find?_eq_some hfind
  have hrange := List.find?_some hfind
  have hle := RegionDescriptor.offset_add_le hrange
  have hcovers := s.covers
  refine ⟨⟨s, hs, hrange, rfl⟩, ?_, ?_⟩
  · rw [slice, List.length_take, List.length_drop]
    omega
  · intro i hi
    have hheld := RegionDescriptor.holds_of_containsRange hrange
      (show address.toNat ≤ address.toNat + i by omega) (by omega)
    have hfirst := ((RegionDescriptor.containsRange_iff _ _ _).mp hrange).2.1.1
    rw [h.octetAt_eq hs hheld, getElem?_slice, if_pos hi, RegionDescriptor.offset]
    congr 1
    omega

theorem readStorage_isSome (hs : s ∈ m.segments)
    (hrange : s.region.containsRange address length = true) :
    ∃ data access, m.readStorage address length = some (data, access) := by
  have hsome : (m.segments.find? fun s => s.region.containsRange address length).isSome :=
    List.find?_isSome.mpr ⟨s, hs, hrange⟩
  obtain ⟨s', hfind⟩ := Option.isSome_iff_exists.mp hsome
  exact ⟨_, _, by rw [readStorage, hfind]; rfl⟩

end Reads

/-! ## Writes -/

section Writes

variable {m : MemoryMap} {address : UInt16} {data : List UInt8} {hlength : data.length < 256}

theorem writeSegments_split {segments segments' : List MemoryBinding} {access : StorageAccess}
    (hwrite : writeSegments address data hlength segments = some (segments', access)) :
    ∃ before, ∃ s : MemoryBinding, ∃ rest, ∃ hfits : s.region.offset address + data.length ≤ s.region.size.toNat,
      segments = before ++ s :: rest ∧ segments' = before ++ s.write address data hfits :: rest ∧
        s.region.containsRange address (UInt8.ofNat data.length) = true ∧
        access = ⟨.write, s.region, s.region.offset address, data.length⟩ := by
  induction segments generalizing segments' with
  | nil => cases hwrite
  | cons s rest ih =>
    rw [writeSegments] at hwrite
    split at hwrite
    · rename_i hrange
      cases hwrite
      exact ⟨[], s, rest, _, rfl, rfl, hrange, rfl⟩
    · rw [Option.map_eq_some_iff] at hwrite
      obtain ⟨⟨written, access'⟩, hrest, heq⟩ := hwrite
      cases heq
      obtain ⟨before, s', rest', hfits, rfl, rfl, hrange, rfl⟩ := ih hrest
      exact ⟨s :: before, s', rest', hfits, rfl, rfl, hrange, rfl⟩

theorem WellFormed.of_same_regions (h : m.WellFormed) {segments : List MemoryBinding}
    (hsame : segments.map MemoryBinding.region = m.segments.map MemoryBinding.region) :
    WellFormed { m with segments := segments } :=
  ⟨h.apart, by rw [hsame]; exact h.bound⟩

theorem octetAt_of_not_holds {before rest : List MemoryBinding} {s s' : MemoryBinding} {b : Nat}
    (hm : m.segments = before ++ s :: rest) (hregion : s'.region = s.region)
    (hb : ¬ s.region.Holds b) :
    octetAt { m with segments := before ++ s' :: rest } b = m.octetAt b := by
  have hb' : ¬ s'.region.Holds b := by
    rw [hregion]
    exact hb
  simp only [octetAt, hm, List.find?_append, List.find?_cons, hb, hb', decide_false]

theorem WellFormed.writeSegments_spec (h : m.WellFormed) {segments' : List MemoryBinding}
    {access : StorageAccess}
    (hwrite : writeSegments address data hlength m.segments = some (segments', access)) :
    WellFormed { m with segments := segments' } ∧
      (∃ s ∈ m.segments, s.region.containsRange address (UInt8.ofNat data.length) = true ∧
        access = ⟨.write, s.region, s.region.offset address, data.length⟩) ∧
      ∀ b, octetAt { m with segments := segments' } b =
        if address.toNat ≤ b ∧ b < address.toNat + data.length then data[b - address.toNat]?
        else m.octetAt b := by
  obtain ⟨before, s, rest, hfits, hm, rfl, hrange, rfl⟩ := writeSegments_split hwrite
  have hs : s ∈ m.segments := by
    rw [hm]
    exact List.mem_append_right _ List.mem_cons_self
  have hwf : WellFormed { m with segments := before ++ s.write address data hfits :: rest } := by
    apply h.of_same_regions
    rw [hm, List.map_append, List.map_append]
    rfl
  refine ⟨hwf, ⟨s, hs, hrange, rfl⟩, ?_⟩
  intro b
  -- regions do not overlap, so `b` is read from the written binding or from one left alone
  by_cases hb : s.region.Holds b
  · have hmem : s.write address data hfits ∈ before ++ s.write address data hfits :: rest :=
      List.mem_append_right _ List.mem_cons_self
    have hcovers := s.covers
    have hfirst := ((RegionDescriptor.containsRange_iff _ _ _).mp hrange).2.1.1
    have hlow := hb.1
    rw [hwf.octetAt_eq hmem hb, h.octetAt_eq hs hb]
    change (overwrite s.storage (s.region.offset address) data)[b - s.region.startAddress.toNat]? = _
    have hoffset : s.region.offset address + s.region.startAddress.toNat = address.toNat := by
      rw [RegionDescriptor.offset]
      omega
    rw [getElem?_overwrite (hfits.trans hcovers)]
    by_cases hin : address.toNat ≤ b ∧ b < address.toNat + data.length
    · rw [if_pos hin, if_pos (by omega)]
      congr 1
      omega
    · rw [if_neg hin, if_neg (by omega)]
  · have hout : ¬ (address.toNat ≤ b ∧ b < address.toNat + data.length) := by
      rintro ⟨hlow, hhigh⟩
      apply hb
      apply RegionDescriptor.holds_of_containsRange hrange hlow
      rw [UInt8.toNat_ofNat_of_lt' hlength]
      exact hhigh
    rw [if_neg hout]
    exact octetAt_of_not_holds hm rfl hb

theorem readStorage_of_written {segments' : List MemoryBinding} {access : StorageAccess}
    (hwrite : writeSegments address data hlength m.segments = some (segments', access)) :
    ∃ data' access', readStorage { m with segments := segments' } address (UInt8.ofNat data.length)
      = some (data', access') := by
  obtain ⟨before, s, rest, hfits, -, rfl, hrange, -⟩ := writeSegments_split hwrite
  exact readStorage_isSome (s := s.write address data hfits)
    (List.mem_append_right _ List.mem_cons_self) hrange

theorem WellFormed.access_read_back (h : m.WellFormed) {segments' : List MemoryBinding}
    {access access' : StorageAccess} {data' : List UInt8}
    (hwrite : writeSegments address data hlength m.segments = some (segments', access))
    (hread : readStorage { m with segments := segments' } address (UInt8.ofNat data.length)
      = some (data', access')) :
    access' = { access with direction := .read } := by
  obtain ⟨hwf, ⟨s, hs, hrange, rfl⟩, -⟩ := h.writeSegments_spec hwrite
  obtain ⟨⟨s', hs', hrange', rfl⟩, -⟩ := hwf.readStorage_spec hread
  have hheld := ((RegionDescriptor.containsRange_iff _ _ _).mp hrange).2.1
  have hheld' := ((RegionDescriptor.containsRange_iff _ _ _).mp hrange').2.1
  rw [hwf.region_unique (hwf.region_mem hs') (h.region_mem hs) hheld' hheld,
    UInt8.toNat_ofNat_of_lt' hlength]

end Writes

/-! ## What a request can do -/

/-- The ways a request ends: refused, or admitted and carried out on the storage. -/
inductive Outcome (m : MemoryMap) (request : MemoryRequest) (served : Served) : Prop where
  | refused (failed : ∃ e, served.result = .error e) (map_eq : served.map = m)
      (accesses_eq : served.accesses = [])
  | read (address : UInt16) (data : List UInt8) (access : StorageAccess)
      (direction_eq : request.direction = .read) (address_eq : address.toNat = request.first)
      (admitted : m.validateAccess address request.count .read request.maxLength = .success)
      (read_eq : m.readStorage address request.count = some (data, access))
      (result_eq : served.result = .ok ()) (map_eq : served.map = m)
      (accesses_eq : served.accesses = [access]) (replies_eq : served.replies.map (·.data) = [data])
  | written (address : UInt16) (segments : List MemoryBinding) (access : StorageAccess)
      (hlength : request.octets.length < 256) (direction_eq : request.direction = .write)
      (address_eq : address.toNat = request.first)
      (octets_length : request.octets.length = request.count.toNat)
      (admitted : m.validateAccess address request.count .write request.maxLength = .success)
      (write_eq : writeSegments address request.octets hlength m.segments = some (segments, access))
      (result_eq : served.result = .ok ()) (map_eq : served.map = { m with segments := segments })
      -- an A_Memory_Write reads back what it wrote
      (accesses_eq : served.accesses = [access] ∨ request.isExtended = false ∧
        ∃ data access', readStorage { m with segments := segments } address request.count
          = some (data, access') ∧ served.accesses = [access, access'])

theorem exists_error_of_ne_success {result : MemoryAccessResult} (h : result ≠ .success) :
    ∃ e, result.toErrorCode = .error e := by
  cases result with
  | success => exact absurd rfl h
  | regionNotFound => exact ⟨_, rfl⟩
  | invalidLength => exact ⟨_, rfl⟩
  | accessDenied => exact ⟨_, rfl⟩

section Outcomes

variable {m : MemoryMap}

theorem outcome_read (m : MemoryMap) (count : UInt8) (address : UInt16) :
    Outcome m (.read count address) (m.handleReadRequest count address) := by
  unfold handleReadRequest
  split
  · rename_i hvalid
    cases hread : m.readStorage address count with
    | none => exact .refused ⟨_, rfl⟩ rfl rfl
    | some found =>
      obtain ⟨data, access⟩ := found
      exact .read address data access rfl rfl hvalid hread rfl rfl rfl rfl
  · rename_i hdenied
    exact .refused (exists_error_of_ne_success fun heq => hdenied heq) rfl rfl

theorem outcome_write (m : MemoryMap) (count : UInt8) (address : UInt16) (data : List UInt8) :
    Outcome m (.write count address data) (m.handleWriteRequest count address data) := by
  unfold handleWriteRequest
  split
  · rename_i hvalid
    split
    · rename_i hlength
      have hoctets : (MemoryRequest.write count address data).octets = data := by
        rw [MemoryRequest.octets, ← hlength, List.take_length]
      have hshort : data.length < 256 := hlength ▸ count.toNat_lt
      split
      · exact .refused ⟨_, rfl⟩ rfl rfl
      · rename_i segments access hwrite
        obtain ⟨data', access', hback⟩ := readStorage_of_written hwrite
        have hcount : UInt8.ofNat data.length = count := by
          rw [hlength, UInt8.ofNat_toNat]
        rw [hcount] at hback
        simp only [hback]
        refine .written address segments access (by rw [hoctets]; exact hshort) rfl rfl ?_ hvalid ?_
          rfl rfl
          (Or.inr ⟨rfl, data', access', hback, rfl⟩)
        · rw [hoctets]
          exact hlength
        · simpa only [hoctets] using hwrite
    · exact .refused ⟨_, rfl⟩ rfl rfl
  · rename_i hdenied
    exact .refused (exists_error_of_ne_success fun heq => hdenied heq) rfl rfl

/-- What `checkExtendedAccess` admits: a range in the 16-bit space that `validateAccess` admits. -/
theorem checkExtendedAccess_eq_success_iff {address : Nat} {count : UInt8}
    {accessType : AccessType} :
    m.checkExtendedAccess address count accessType = .success ↔
      count ≠ 0 ∧ count.toNat ≤ maxExtendedMemoryBytes ∧ address ≤ 0xFFFF ∧
        address + count.toNat ≤ 0x10000 ∧
        m.validateAccess (UInt16.ofNat address) count accessType maxExtendedMemoryBytes
          = .success := by
  unfold checkExtendedAccess
  by_cases hlength : count = 0 ∨ maxExtendedMemoryBytes < count.toNat
  · rw [if_pos hlength]
    constructor
    · nofun
    · rintro ⟨hzero, hlong, -⟩
      rcases hlength with hlength | hlength
      · exact absurd hlength hzero
      · omega
  · rw [if_neg hlength]
    by_cases hfar : 0xFFFF < address
    · rw [if_pos hfar]
      exact ⟨nofun, fun h => by omega⟩
    · rw [if_neg hfar]
      by_cases hpast : 0x10000 < address + count.toNat
      · rw [if_pos hpast]
        exact ⟨nofun, fun h => by omega⟩
      · rw [if_neg hpast]
        rw [not_or] at hlength
        have hbounds : count ≠ 0 ∧ count.toNat ≤ maxExtendedMemoryBytes ∧ address ≤ 0xFFFF ∧
            address + count.toNat ≤ 0x10000 := ⟨hlength.1, by omega, by omega, by omega⟩
        cases hvalid : m.validateAccess (UInt16.ofNat address) count accessType
            maxExtendedMemoryBytes with
        | success => simpa [hvalid] using hbounds
        | regionNotFound => simp [hvalid]
        | invalidLength => simp [hvalid]
        | accessDenied =>
          simp only [hvalid]
          split <;> simp

theorem toNat_narrow {address : Nat} (h : address ≤ 0xFFFF) :
    (UInt16.ofNat address).toNat = address :=
  UInt16.toNat_ofNat_of_lt' (show address < 2 ^ 16 by omega)

theorem outcome_extendedRead (m : MemoryMap) (count : UInt8) (address : Nat) :
    Outcome m (.extendedRead count address) (m.handleExtendedReadRequest count address) := by
  unfold handleExtendedReadRequest
  split
  · rename_i hcheck
    obtain ⟨-, -, hnear, -, hvalid⟩ := checkExtendedAccess_eq_success_iff.mp hcheck
    cases hread : m.readStorage (UInt16.ofNat address) count with
    | none => exact .refused ⟨_, rfl⟩ rfl rfl
    | some found =>
      obtain ⟨data, access⟩ := found
      exact .read (UInt16.ofNat address) data access rfl (toNat_narrow hnear) hvalid hread rfl rfl
        rfl rfl
  · exact .refused ⟨_, rfl⟩ rfl rfl

theorem outcome_extendedWrite (m : MemoryMap) (count : UInt8) (address : Nat)
    (data : List UInt8) :
    Outcome m (.extendedWrite count address data)
      (m.handleExtendedWriteRequest count address data) := by
  unfold handleExtendedWriteRequest
  split
  · rename_i hcheck
    obtain ⟨-, -, hnear, -, hvalid⟩ := checkExtendedAccess_eq_success_iff.mp hcheck
    split
    · exact .refused ⟨_, rfl⟩ rfl rfl
    · rename_i henough
      split
      · exact .refused ⟨_, rfl⟩ rfl rfl
      · rename_i segments access hwrite
        have hoctets : (data.take count.toNat).length = count.toNat := by
          rw [List.length_take]
          omega
        exact .written (UInt16.ofNat address) segments access (hoctets ▸ count.toNat_lt) rfl
          (toNat_narrow hnear) hoctets hvalid hwrite rfl rfl (Or.inl rfl)
  · exact .refused ⟨_, rfl⟩ rfl rfl

theorem outcome_serve (m : MemoryMap) (request : MemoryRequest) :
    Outcome m request (m.serve request) := by
  cases request with
  | read count address => exact outcome_read m count address
  | write count address data => exact outcome_write m count address data
  | extendedRead count address => exact outcome_extendedRead m count address
  | extendedWrite count address data => exact outcome_extendedWrite m count address data

theorem WellFormed.serve (h : m.WellFormed) (request : MemoryRequest) :
    (m.serve request).map.WellFormed := by
  cases outcome_serve m request with
  | refused _ hmap _ =>
    rw [hmap]
    exact h
  | read _ _ _ _ _ _ _ _ hmap =>
    rw [hmap]
    exact h
  | written _ _ _ _ _ _ _ _ hwrite _ hmap =>
    rw [hmap]
    exact (h.writeSegments_spec hwrite).1

theorem WellFormed.after (h : m.WellFormed) (requests : List MemoryRequest) :
    (m.after requests).WellFormed := by
  induction requests generalizing m with
  | nil => exact h
  | cons request requests ih => exact ih (h.serve request)

end Outcomes

/-! ## Exactness -/

/-- The read that an A_Memory_Write makes for its answer, of what it has just written. -/
def ReadBack (m : MemoryMap) (request : MemoryRequest) (access : StorageAccess) : Prop :=
  request.direction = .write ∧ request.isExtended = false ∧ access.direction = .read ∧
    { access with direction := .write } ∈ (m.serve request).accesses

/-- What a request does to the memory and answers. -/
structure Exact (m : MemoryMap) (request : MemoryRequest) : Prop where
  /-- Every access lies in the storage of one registered region. -/
  inside : ∀ access ∈ (m.serve request).accesses, m.Inside access
  /-- Every access but the read-back has a direction that the region permits. -/
  permitted : ∀ access ∈ (m.serve request).accesses,
    access.region.permits access.direction = true ∨ m.ReadBack request access
  /-- A read, and a request that is refused or fails, changes nothing. -/
  unchanged : request.direction = .read ∨ (m.serve request).result ≠ .ok () →
    (m.serve request).map = m
  /-- A write that succeeds changes the addressed octets to its data and no other. -/
  written : request.direction = .write → (m.serve request).result = .ok () →
    request.octets.length = request.count.toNat ∧
      ∀ b, (m.serve request).map.octetAt b =
        if request.Covers b then request.octets[b - request.first]? else m.octetAt b
  /-- It writes into the storage of one binding. -/
  frame : request.direction = .write → (m.serve request).result = .ok () →
    ∃ before, ∃ s s' : MemoryBinding, ∃ rest,
      m.segments = before ++ s :: rest ∧ (m.serve request).map.segments = before ++ s' :: rest ∧
        s'.region = s.region ∧ s.region.startAddress.toNat ≤ request.first ∧
        s'.storage = overwrite s.storage (request.first - s.region.startAddress.toNat)
          request.octets
  /-- A read that succeeds answers the octets of the memory. -/
  answered : request.direction = .read → (m.serve request).result = .ok () →
    ∃ data, (m.serve request).replies.map (·.data) = [data] ∧
      data.length = request.count.toNat ∧
      ∀ b, request.Covers b → data[b - request.first]? = m.octetAt b
  /-- A read inside a region that permits reading succeeds. -/
  readable : request.direction = .read → 0 < request.count.toNat →
    request.count.toNat ≤ request.maxLength →
    (request.isExtended = true → request.first + request.count.toNat ≤ 0x10000) →
    ∀ s ∈ m.segments, s.region.permits .read = true → (∀ b, request.Covers b → s.region.Holds b) →
      (m.serve request).result = .ok ()
  /-- An extended request is answered once. -/
  once : request.isExtended = true → (m.serve request).replies.length = 1

section Exactness

variable {m : MemoryMap} {request : MemoryRequest}

theorem WellFormed.inside (h : m.WellFormed) :
    ∀ access ∈ (m.serve request).accesses, m.Inside access := by
  intro access haccess
  cases outcome_serve m request with
  | refused _ _ hnone =>
    rw [hnone] at haccess
    cases haccess
  | read address data access' _ _ _ hread _ _ hone =>
    rw [hone, List.mem_singleton] at haccess
    obtain ⟨⟨s, hs, hrange, rfl⟩, -⟩ := h.readStorage_spec hread
    rw [haccess]
    exact inside_of_containsRange hs hrange .read
  | written address segments access' hlength _ _ hoctets _ hwrite _ _ haccesses =>
    obtain ⟨-, ⟨s, hs, hrange, rfl⟩, -⟩ := h.writeSegments_spec hwrite
    have hcount : UInt8.ofNat request.octets.length = request.count := by
      rw [hoctets, UInt8.ofNat_toNat]
    have hfirst : m.Inside ⟨.write, s.region, s.region.offset address, request.octets.length⟩ := by
      rw [hcount] at hrange
      rw [hoctets]
      exact inside_of_containsRange hs hrange .write
    rcases haccesses with hone | ⟨-, data, access'', hread, htwo⟩
    · rw [hone, List.mem_singleton] at haccess
      rw [haccess]
      exact hfirst
    · rw [htwo, List.mem_cons, List.mem_singleton] at haccess
      rcases haccess with rfl | rfl
      · exact hfirst
      · rw [← hcount] at hread
        rw [h.access_read_back hwrite hread]
        exact hfirst

theorem WellFormed.permitted (h : m.WellFormed) :
    ∀ access ∈ (m.serve request).accesses,
      access.region.permits access.direction = true ∨ m.ReadBack request access := by
  intro access haccess
  cases outcome_serve m request with
  | refused _ _ hnone =>
    rw [hnone] at haccess
    cases haccess
  | read address data access' _ _ hvalid hread _ _ hone =>
    rw [hone, List.mem_singleton] at haccess
    obtain ⟨⟨s, hs, hrange, rfl⟩, -⟩ := h.readStorage_spec hread
    rw [haccess]
    exact Or.inl (h.permits_of_validated hs hvalid hrange)
  | written address segments access' hlength hdirection _ hoctets hvalid hwrite _ _ haccesses =>
    obtain ⟨-, ⟨s, hs, hrange, rfl⟩, -⟩ := h.writeSegments_spec hwrite
    have hcount : UInt8.ofNat request.octets.length = request.count := by
      rw [hoctets, UInt8.ofNat_toNat]
    have hpermits : s.region.permits .write = true := by
      rw [hcount] at hrange
      exact h.permits_of_validated hs hvalid hrange
    rcases haccesses with hone | ⟨hclassic, data, access'', hread, htwo⟩
    · rw [hone, List.mem_singleton] at haccess
      rw [haccess]
      exact Or.inl hpermits
    · rw [htwo, List.mem_cons, List.mem_singleton] at haccess
      rcases haccess with rfl | rfl
      · exact Or.inl hpermits
      · rw [← hcount] at hread
        rw [ReadBack, htwo, h.access_read_back hwrite hread]
        exact Or.inr ⟨hdirection, hclassic, rfl, List.mem_cons_self⟩

theorem serve_unchanged
    (h : request.direction = .read ∨ (m.serve request).result ≠ .ok ()) :
    (m.serve request).map = m := by
  cases outcome_serve m request with
  | refused _ hmap _ => exact hmap
  | read _ _ _ _ _ _ _ _ hmap => exact hmap
  | written _ _ _ _ hdirection _ _ _ _ hresult =>
    rcases h with h | h
    · rw [hdirection] at h
      cases h
    · exact absurd hresult h

theorem written_of_ok (hdirection : request.direction = .write)
    (hok : (m.serve request).result = .ok ()) :
    ∃ (address : UInt16) (segments : List MemoryBinding) (access : StorageAccess)
      (hlength : request.octets.length < 256), address.toNat = request.first ∧
        request.octets.length = request.count.toNat ∧
        writeSegments address request.octets hlength m.segments = some (segments, access) ∧
        (m.serve request).map = { m with segments := segments } := by
  cases outcome_serve m request with
  | refused hfailed =>
    obtain ⟨e, hfailed⟩ := hfailed
    rw [hfailed] at hok
    cases hok
  | read _ _ _ hread =>
    rw [hdirection] at hread
    cases hread
  | written address segments access hlength _ haddress hoctets _ hwrite _ hmap =>
    exact ⟨address, segments, access, hlength, haddress, hoctets, hwrite, hmap⟩

theorem WellFormed.written (h : m.WellFormed) (hdirection : request.direction = .write)
    (hok : (m.serve request).result = .ok ()) :
    request.octets.length = request.count.toNat ∧
      ∀ b, (m.serve request).map.octetAt b =
        if request.Covers b then request.octets[b - request.first]? else m.octetAt b := by
  obtain ⟨address, segments, access, hlength, haddress, hoctets, hwrite, hmap⟩ :=
    written_of_ok hdirection hok
  refine ⟨hoctets, ?_⟩
  intro b
  rw [hmap, (h.writeSegments_spec hwrite).2.2 b, haddress, hoctets]
  rfl

theorem serve_frame (hdirection : request.direction = .write)
    (hok : (m.serve request).result = .ok ()) :
    ∃ before, ∃ s s' : MemoryBinding, ∃ rest,
      m.segments = before ++ s :: rest ∧ (m.serve request).map.segments = before ++ s' :: rest ∧
        s'.region = s.region ∧ s.region.startAddress.toNat ≤ request.first ∧
        s'.storage = overwrite s.storage (request.first - s.region.startAddress.toNat)
          request.octets := by
  obtain ⟨address, segments, access, hlength, haddress, -, hwrite, hmap⟩ :=
    written_of_ok hdirection hok
  obtain ⟨before, s, rest, hfits, hsplit, rfl, hrange, -⟩ := writeSegments_split hwrite
  have hlow := ((RegionDescriptor.containsRange_iff _ _ _).mp hrange).2.1.1
  rw [haddress] at hlow
  refine ⟨before, s, s.write address request.octets hfits, rest, hsplit, by rw [hmap], rfl, hlow, ?_⟩
  rw [← haddress]
  rfl

theorem WellFormed.answered (h : m.WellFormed) (hdirection : request.direction = .read)
    (hok : (m.serve request).result = .ok ()) :
    ∃ data, (m.serve request).replies.map (·.data) = [data] ∧
      data.length = request.count.toNat ∧
      ∀ b, request.Covers b → data[b - request.first]? = m.octetAt b := by
  cases outcome_serve m request with
  | refused hfailed =>
    obtain ⟨e, hfailed⟩ := hfailed
    rw [hfailed] at hok
    cases hok
  | read address data access _ haddress _ hread _ _ _ hreplies =>
    obtain ⟨-, hlength, hoctets⟩ := h.readStorage_spec hread
    refine ⟨data, hreplies, hlength, ?_⟩
    rintro b ⟨hlow, hhigh⟩
    rw [hoctets (b - request.first) (by omega), haddress]
    congr 1
    omega
  | written _ _ _ _ hwrite =>
    rw [hdirection] at hwrite
    cases hwrite

theorem containsRange_of_covers {s : MemoryBinding} {address : UInt16}
    (haddress : address.toNat = request.first) (hpos : 0 < request.count.toNat)
    (hheld : ∀ b, request.Covers b → s.region.Holds b) :
    s.region.containsRange address request.count = true := by
  rw [RegionDescriptor.containsRange_iff, haddress]
  exact ⟨hpos, hheld _ ⟨le_refl _, by omega⟩, hheld _ ⟨by omega, by omega⟩⟩

theorem serve_ok_of_readable (h : m.WellFormed) (hdirection : request.direction = .read)
    (hpos : 0 < request.count.toNat) (hlong : request.count.toNat ≤ request.maxLength)
    (hspace : request.isExtended = true → request.first + request.count.toNat ≤ 0x10000)
    {s : MemoryBinding} (hs : s ∈ m.segments) (hpermits : s.region.permits .read = true)
    (hheld : ∀ b, request.Covers b → s.region.Holds b) : (m.serve request).result = .ok () := by
  have hfirst : s.region.Holds request.first := hheld _ ⟨le_refl _, by omega⟩
  -- both services narrow the address to 16 bits before they look for the region
  have hvalid : ∀ address : UInt16, address.toNat = request.first →
      m.validateAccess address request.count .read request.maxLength = .success ∧
        s.region.containsRange address request.count = true := by
    intro address haddress
    have hrange := containsRange_of_covers (s := s) haddress hpos hheld
    rw [← haddress] at hfirst
    exact ⟨validateAccess_eq_success_iff.mpr
      ⟨hlong, s.region, h.findRegion_eq (h.region_mem hs) hfirst, hrange, hpermits⟩, hrange⟩
  cases request with
  | read count address =>
    obtain ⟨hadmitted, hrange⟩ := hvalid address rfl
    obtain ⟨data, access, hread⟩ := readStorage_isSome hs hrange
    have hadmitted' : m.validateAccess address count .read maxMemoryBytes = .success := hadmitted
    have hread' : m.readStorage address count = some (data, access) := hread
    simp [serve, handleReadRequest, hadmitted', hread']
  | extendedRead count address =>
    have hspace' : address + count.toNat ≤ 0x10000 := hspace rfl
    simp only [MemoryRequest.count] at hpos
    have hnear : address ≤ 0xFFFF := by omega
    obtain ⟨hadmitted, hrange⟩ := hvalid (UInt16.ofNat address) (toNat_narrow hnear)
    obtain ⟨data, access, hread⟩ := readStorage_isSome hs hrange
    have hcheck : m.checkExtendedAccess address count .read = .success := by
      rw [checkExtendedAccess_eq_success_iff]
      refine ⟨?_, hlong, hnear, hspace', hadmitted⟩
      rintro rfl
      exact absurd hpos (by decide)
    simp only [MemoryRequest.count] at hread
    simp [serve, handleExtendedReadRequest, hcheck, hread]
  | write count address data => cases hdirection
  | extendedWrite count address data => cases hdirection

theorem length_replies_extended (m : MemoryMap) (hextended : request.isExtended = true) :
    (m.serve request).replies.length = 1 := by
  cases request with
  | read count address => cases hextended
  | write count address data => cases hextended
  | extendedRead count address =>
    rw [serve, handleExtendedReadRequest]
    split
    · split <;> rfl
    · rfl
  | extendedWrite count address data =>
    rw [serve, handleExtendedWriteRequest]
    split
    · split
      · rfl
      · split <;> rfl
    · rfl

theorem WellFormed.exact (h : m.WellFormed) (request : MemoryRequest) : m.Exact request where
  inside := h.inside
  permitted := h.permitted
  unchanged := serve_unchanged
  written := h.written
  frame := serve_frame
  answered := h.answered
  readable := fun hdirection hpos hlong hspace _ hs hpermits hheld =>
    serve_ok_of_readable h hdirection hpos hlong hspace hs hpermits hheld
  once := length_replies_extended m

end Exactness

/-! ## Histories -/

/-- No request of the sequence writes the address. -/
def Quiet (b : Nat) : MemoryMap → List MemoryRequest → Prop
  | _, [] => True
  | m, request :: requests =>
      (request.direction = .write → (m.serve request).result = .ok () → ¬ request.Covers b) ∧
        Quiet b (m.serve request).map requests

theorem WellFormed.octetAt_after_quiet {m : MemoryMap} (h : m.WellFormed) {b : Nat}
    {requests : List MemoryRequest} (hquiet : Quiet b m requests) :
    (m.after requests).octetAt b = m.octetAt b := by
  induction requests generalizing m with
  | nil => rfl
  | cons request requests ih =>
    obtain ⟨hnot, hrest⟩ := hquiet
    have hstep : (m.serve request).map.octetAt b = m.octetAt b := by
      by_cases hwrites : request.direction = .write ∧ (m.serve request).result = .ok ()
      · rw [(h.written hwrites.1 hwrites.2).2 b, if_neg (hnot hwrites.1 hwrites.2)]
      · rw [serve_unchanged]
        cases hdirection : request.direction with
        | read => exact Or.inl rfl
        | write => exact Or.inr fun hok => hwrites ⟨hdirection, hok⟩
    exact (ih (h.serve request) hrest).trans hstep

/-- The memory services are exact. After any registrations and requests, a request does what
`Exact` says, and what a write has written at an address is what every read of that address answers
until the next write of it, whichever of the services they use. -/
theorem memory_requests_exact (registrations : List (RegionDescriptor × List UInt8))
    (earlier : List MemoryRequest) (request : MemoryRequest) :
    ((registered registrations).after earlier).Exact request ∧
      ∀ (later : List MemoryRequest) (b : Nat) (read : MemoryRequest),
        request.direction = .write →
        (((registered registrations).after earlier).serve request).result = .ok () →
        request.Covers b →
        Quiet b (((registered registrations).after earlier).serve request).map later →
        read.direction = .read → read.Covers b →
        (((((registered registrations).after earlier).serve request).map.after later).serve
          read).result = .ok () →
        ∃ data, (((((registered registrations).after earlier).serve request).map.after later).serve
            read).replies.map (·.data) = [data] ∧
          data[b - read.first]? = request.octets[b - request.first]? := by
  have hwf := (wellFormed_registered registrations).after earlier
  refine ⟨hwf.exact request, ?_⟩
  intro later b read hwrite hok hcovers hquiet hread hcovered hanswer
  have hwf' := hwf.serve request
  obtain ⟨data, hreplies, -, hoctets⟩ := (hwf'.after later).answered hread hanswer
  refine ⟨data, hreplies, ?_⟩
  rw [hoctets b hcovered, hwf'.octetAt_after_quiet hquiet, (hwf.written hwrite hok).2 b,
    if_pos hcovers]

/-- Two octets are written by the one service, and the second is read by the other one, behind another
write and a read. -/
theorem memory_requests_exact_read_back :
    ∃ data, (((((registered [(⟨0x4000, 4, .readWrite⟩, [0, 0, 0, 0])]).after []).serve
          (.write 2 0x4001 [0xAB, 0xCD])).map.after [.read 4 0x4000, .extendedWrite 1 0x4003 [0x11]]).serve
        (.extendedRead 2 0x4002)).replies.map (·.data) = [data]
      ∧ data[0x4002 - 0x4002]? = [(0xAB : UInt8), 0xCD][0x4002 - 0x4001]? :=
  (memory_requests_exact [(⟨0x4000, 4, .readWrite⟩, [0, 0, 0, 0])] []
    (.write 2 0x4001 [0xAB, 0xCD])).2 [.read 4 0x4000, .extendedWrite 1 0x4003 [0x11]] 0x4002
    (.extendedRead 2 0x4002) rfl (by decide +kernel) (by decide +kernel)
    ⟨fun himpossible => absurd himpossible (by decide), fun _ _ => by decide +kernel, trivial⟩ rfl
    (by decide +kernel) (by decide +kernel)

/-- A write-only region of four octets, and the octet AB written to its second. -/
theorem writeOnly_read_back :
    ¬ ∀ (registrations : List (RegionDescriptor × List UInt8)) (earlier : List MemoryRequest)
      (request : MemoryRequest),
      ∀ access ∈ (((registered registrations).after earlier).serve request).accesses,
        access.region.permits access.direction = true := by
  intro h
  have hread := h [(⟨0x4000, 4, .writeOnly⟩, [0, 0, 0, 0])] [] (.write 1 0x4001 [0xAB])
    ⟨.read, ⟨0x4000, 4, .writeOnly⟩, 1, 1⟩ (by decide)
  exact absurd hread (by decide)

end MemoryMap

end KnxStack.Application
