import KnxStack.Netip.ControlPacket

/-!
# Gateway discovery

`GatewayDiscoveryCodec` (`netip/gateway_discovery_codec.hpp`): a search or description response has an
endpoint and a sequence of description blocks, each with its length in front. `parseGatewayResponse`
goes from block to block until the end, or until a block that is too short or too long.

- `parseDibs_eq`: the loop ends, with what the well-formed blocks say.
- `parseGatewayResponse_cases`: a response is parsed to its end on every input, inside of it.
-/

set_option autoImplicit false

namespace KnxStack.Netip

open KnxStack.Lib KnxStack.Lib.Octets KnxStack.Lib.Words

/-- `kServiceSearchResponse`. -/
def searchResponse : UInt16 := 0x0202

/-- `GatewayInfo`. -/
structure GatewayInfo where
  ipAddress : List UInt8 := [0, 0, 0, 0]
  port : UInt16 := 0
  friendlyName : List UInt8 := []
  macAddress : List UInt8 := [0, 0, 0, 0, 0, 0]
  deviceDIB : List UInt8 := []
  supportedServices : List UInt8 := []
  securedServiceFamilies : List UInt8 := []
  deriving DecidableEq, Repr

namespace GatewayDiscoveryCodec

/-- `kDeviceInfoDibType`. -/
def deviceInfoDibType : UInt8 := 0x01
/-- `kSupportedServiceFamiliesDibType`. -/
def supportedServiceFamiliesDibType : UInt8 := 0x02
/-- `kSecuredServiceFamiliesDibType`. -/
def securedServiceFamiliesDibType : UInt8 := 0x06

/-- `parseControlEndpoint`: where the blocks begin, and the endpoint. -/
def parseControlEndpoint (data : List UInt8) (position : Nat) (info : GatewayInfo) :
    Checked ErrorCode (Nat × GatewayInfo) :=
  if data.length < position + 2 then .fail .invalidFrameSize
  else do
    let hpaiLen ← readAt data position
    if hpaiLen ≠ 0x08 then .fail .decodeFailed
    else if data.length < position + hpaiLen.toNat then .fail .invalidFrameSize
    else do
      let protocol ← readAt data (position + 1)
      if protocol ≠ 0x01 then .fail .decodeFailed
      else do
        let address ← readSpan data (position + 2) 4
        let portHi ← readAt data (position + 6)
        let portLo ← readAt data (position + 7)
        .done (position + hpaiLen.toNat,
          { info with ipAddress := address, port := joinBytes portHi portLo })

/-- The address in a device information block. -/
def readMacAddress (dib : List UInt8) (info : GatewayInfo) : Checked ErrorCode (List UInt8) :=
  if 24 ≤ dib.length then readSpan dib 18 6 else .done info.macAddress

/-- The name in a device information block; it ends at its first zero. -/
def readFriendlyName (dib : List UInt8) (info : GatewayInfo) : Checked ErrorCode (List UInt8) :=
  if 54 ≤ dib.length then do
    let field ← readSpan dib 24 30
    .done (field.takeWhile (· != 0))
  else .done info.friendlyName

/-- `parseDeviceInfoDib`. -/
def parseDeviceInfoDib (dib : List UInt8) (info : GatewayInfo) : Checked ErrorCode GatewayInfo := do
  let macAddress ← readMacAddress dib info
  let friendlyName ← readFriendlyName dib info
  .done { info with macAddress := macAddress, friendlyName := friendlyName, deviceDIB := dib }

/-- The block by its type. -/
def parseDibOfType (dibType : UInt8) (dib : List UInt8) (info : GatewayInfo) :
    Checked ErrorCode GatewayInfo :=
  if dibType = deviceInfoDibType then parseDeviceInfoDib dib info
  else if dibType = supportedServiceFamiliesDibType then .done { info with supportedServices := dib }
  else if dibType = securedServiceFamiliesDibType then
    .done { info with securedServiceFamilies := dib }
  else .done info

/-- `parseDib`: the position after the block, and what the block says. -/
def parseDib (data : List UInt8) (position : Nat) (info : GatewayInfo) :
    Checked ErrorCode (Nat × GatewayInfo) :=
  if data.length < position + 2 then .fail .invalidFrameSize
  else do
    let dibLen ← readAt data position
    let dibType ← readAt data (position + 1)
    if dibLen.toNat < 2 ∨ data.length < position + dibLen.toNat then .fail .invalidFrameSize
    else do
      let dib ← readSpan data position dibLen.toNat
      let info ← parseDibOfType dibType dib info
      .done (position + dibLen.toNat, info)

/-- The loop of `parseGatewayResponse`, for at most so many blocks; `none` if it has not ended. -/
def parseDibs (data : List UInt8) :
    Nat → Nat → GatewayInfo → Option (Checked ErrorCode GatewayInfo)
  | 0, position, info => if position < data.length then none else some (.done info)
  | fuel + 1, position, info =>
      if position < data.length then
        match parseDib data position info with
        | .done (position', info') => parseDibs data fuel position' info'
        | .fail _ => some (.done info)
        | .outOfBounds i => some (.outOfBounds i)
      else some (.done info)

/-- What `parseGatewayResponse` does before its loop: the frame, the position of the first block, and
the endpoint. -/
def parseHead (data : List UInt8) (expectedServiceType : UInt16) (info : GatewayInfo) :
    Checked ErrorCode (List UInt8 × Nat × GatewayInfo) := do
  let header ← decodeHeader data
  if header.serviceType ≠ expectedServiceType then .fail .decodeFailed
  else do
    let frame ← readSpan data 0 header.totalLength.toNat
    let endpoint ← parseControlEndpoint frame headerLen info
    .done (frame, endpoint)

/-- `parseGatewayResponse`. -/
def parseGatewayResponse (data : List UInt8) (expectedServiceType : UInt16) (info : GatewayInfo) :
    Option (Checked ErrorCode GatewayInfo) :=
  match parseHead data expectedServiceType info with
  | .done (frame, position, endpoint) => parseDibs frame frame.length position endpoint
  | .fail e => some (.fail e)
  | .outOfBounds i => some (.outOfBounds i)

/-! ## One block -/

/-- What a block says of a gateway. -/
def applyDib (info : GatewayInfo) (dib : List UInt8) : GatewayInfo :=
  let dibType := dib.getD 1 0
  if dibType = deviceInfoDibType then
    { info with
      macAddress := if 24 ≤ dib.length then slice dib 18 6 else info.macAddress
      friendlyName :=
        if 54 ≤ dib.length then (slice dib 24 30).takeWhile (· != 0) else info.friendlyName
      deviceDIB := dib }
  else if dibType = supportedServiceFamiliesDibType then { info with supportedServices := dib }
  else if dibType = securedServiceFamiliesDibType then { info with securedServiceFamilies := dib }
  else info

/-- A block stands at the position: two octets at least, and as many as its first octet says. -/
def HasDib (data : List UInt8) (position : Nat) : Prop :=
  position + 2 ≤ data.length ∧ 2 ≤ (data.getD position 0).toNat
    ∧ position + (data.getD position 0).toNat ≤ data.length

instance (data : List UInt8) (position : Nat) : Decidable (HasDib data position) :=
  inferInstanceAs (Decidable (_ ∧ _ ∧ _))

theorem parseDeviceInfoDib_eq (dib : List UInt8) (info : GatewayInfo) :
    parseDeviceInfoDib dib info
      = .done
        { info with
          macAddress := if 24 ≤ dib.length then slice dib 18 6 else info.macAddress
          friendlyName :=
            if 54 ≤ dib.length then (slice dib 24 30).takeWhile (· != 0) else info.friendlyName
          deviceDIB := dib } := by
  have hmac : readMacAddress dib info
      = .done (if 24 ≤ dib.length then slice dib 18 6 else info.macAddress) := by
    rw [readMacAddress]
    split
    · exact readSpan_of_le (by omega)
    · rfl
  have hname : readFriendlyName dib info
      = .done (if 54 ≤ dib.length then (slice dib 24 30).takeWhile (· != 0)
        else info.friendlyName) := by
    rw [readFriendlyName]
    split
    · rw [readSpan_of_le (by omega)]
      rfl
    · rfl
  rw [parseDeviceInfoDib, hmac, hname]
  rfl

theorem parseDibOfType_eq (dib : List UInt8) (info : GatewayInfo) :
    parseDibOfType (dib.getD 1 0) dib info = .done (applyDib info dib) := by
  rw [parseDibOfType, applyDib]
  split
  · exact parseDeviceInfoDib_eq dib info
  · split
    · rfl
    · split
      · rfl
      · rfl

theorem parseDib_of_hasDib {data : List UInt8} {position : Nat} (h : HasDib data position)
    (info : GatewayInfo) :
    parseDib data position info
      = .done (position + (data.getD position 0).toNat,
        applyDib info (slice data position (data.getD position 0).toNat)) := by
  obtain ⟨htwo, hlong, hinside⟩ := h
  have hlen : data[position] = data.getD position 0 := by
    rw [List.getD_eq_getElem _ _ (by omega)]
  have htype : (slice data position (data.getD position 0).toNat).getD 1 0 = data[position + 1] := by
    rw [List.getD_eq_getElem?_getD, getElem?_slice, if_pos (by omega),
      List.getElem?_eq_getElem (by omega)]
    rfl
  rw [parseDib, if_neg (by omega), readAt_of_lt (show position < data.length by omega),
    readAt_of_lt (show position + 1 < data.length by omega)]
  simp only [Checked.done_bind]
  rw [hlen, if_neg (by omega), readSpan_of_le hinside, Checked.done_bind, ← htype]
  change (parseDibOfType _ (slice data position (data.getD position 0).toNat) info >>= _) = _
  rw [parseDibOfType_eq]
  rfl

theorem parseDib_of_not_hasDib {data : List UInt8} {position : Nat} (h : ¬ HasDib data position)
    (info : GatewayInfo) : parseDib data position info = .fail .invalidFrameSize := by
  rw [parseDib]
  split
  · rfl
  · rename_i htwo
    have hlen : data[position] = data.getD position 0 := by
      rw [List.getD_eq_getElem _ _ (by omega)]
    rw [readAt_of_lt (show position < data.length by omega),
      readAt_of_lt (show position + 1 < data.length by omega)]
    simp only [Checked.done_bind]
    rw [hlen]
    apply if_pos
    by_contra hgood
    rw [not_or, Nat.not_lt, Nat.not_lt] at hgood
    exact h ⟨by omega, hgood.1, hgood.2⟩

/-! ## The loop -/

/-- The blocks from a position on, up to the first that is not well formed. -/
def dibsFrom (data : List UInt8) : Nat → Nat → List (List UInt8)
  | 0, _ => []
  | fuel + 1, position =>
      if HasDib data position then
        slice data position (data.getD position 0).toNat
          :: dibsFrom data fuel (position + (data.getD position 0).toNat)
      else []

/-- The loop ends, since every block has at least two octets, with what the well-formed blocks
say. -/
theorem parseDibs_eq (data : List UInt8) :
    ∀ (fuel position : Nat) (info : GatewayInfo), data.length ≤ position + fuel →
      parseDibs data fuel position info
        = some (.done ((dibsFrom data fuel position).foldl applyDib info)) := by
  intro fuel
  induction fuel with
  | zero =>
    intro position info hend
    rw [parseDibs, if_neg (by omega)]
    rfl
  | succ fuel ih =>
    intro position info hend
    rw [parseDibs, dibsFrom]
    by_cases hmore : position < data.length
    · rw [if_pos hmore]
      by_cases hdib : HasDib data position
      · rw [parseDib_of_hasDib hdib, if_pos hdib]
        dsimp only
        have hforward := hdib.2.1
        rw [ih _ _ (by omega)]
        rfl
      · rw [parseDib_of_not_hasDib hdib, if_neg hdib]
        rfl
    · rw [if_neg hmore, if_neg fun hdib : HasDib data position => hmore (by have := hdib.1; omega)]
      rfl

/-- Before the loop: an error, or a frame that the input covers with an endpoint of eight octets at its
front. -/
theorem parseHead_cases (data : List UInt8) (expectedServiceType : UInt16) (info : GatewayInfo) :
    (∃ e, parseHead data expectedServiceType info = .fail e)
      ∨ ∃ header endpoint, decodeHeader data = .done header
        ∧ parseHead data expectedServiceType info
          = .done (data.take header.totalLength.toNat, 14, endpoint)
        ∧ header.serviceType = expectedServiceType ∧ data.getD 6 0 = 0x08
        ∧ 14 ≤ header.totalLength.toNat ∧ header.totalLength.toNat ≤ data.length := by
  rw [parseHead]
  rcases decodeHeader_cases data with ⟨e, he⟩ | ⟨header, hdone, hleast, hcovered⟩
  · rw [he]
    exact .inl ⟨e, rfl⟩
  · rw [hdone, Checked.done_bind]
    split
    · exact .inl ⟨_, rfl⟩
    · rename_i htype
      rw [readSpan_of_le (by omega), Checked.done_bind, List.drop_zero]
      have hlength : (data.take header.totalLength.toNat).length = header.totalLength.toNat := by
        rw [List.length_take]
        omega
      rw [headerLen] at hleast ⊢
      rw [parseControlEndpoint, hlength]
      split
      · exact .inl ⟨_, rfl⟩
      · rename_i htwo
        rw [readAt_of_lt (show 6 < (data.take header.totalLength.toNat).length by omega),
          Checked.done_bind]
        split
        · exact .inl ⟨_, rfl⟩
        · rename_i hsize
          rw [not_not] at hsize
          rw [hsize]
          split
          · exact .inl ⟨_, rfl⟩
          · rename_i height
            have hfourteen : 14 ≤ header.totalLength.toNat := Nat.not_lt.mp height
            rw [readAt_of_lt (show 6 + 1 < (data.take header.totalLength.toNat).length by omega),
              Checked.done_bind]
            split
            · exact .inl ⟨_, rfl⟩
            · rw [readSpan_of_le (show 6 + 2 + 4 ≤ (data.take header.totalLength.toNat).length by omega),
                readAt_of_lt (show 6 + 6 < (data.take header.totalLength.toNat).length by omega),
                readAt_of_lt (show 6 + 7 < (data.take header.totalLength.toNat).length by omega)]
              refine .inr ⟨header, _, rfl, rfl, not_not.mp htype, ?_, hfourteen, hcovered⟩
              rw [List.getElem_take] at hsize
              rw [List.getD_eq_getElem _ _ (by omega), hsize]

/-- Every response is parsed to its end, inside the input: an error, or what the blocks say up to
the first that is not well formed. -/
theorem parseGatewayResponse_cases (data : List UInt8) (expectedServiceType : UInt16)
    (info : GatewayInfo) :
    (∃ e, parseGatewayResponse data expectedServiceType info = some (.fail e))
      ∨ ∃ header endpoint, decodeHeader data = .done header ∧ data.getD 6 0 = 0x08
        ∧ 14 ≤ header.totalLength.toNat ∧ header.totalLength.toNat ≤ data.length
        ∧ parseGatewayResponse data expectedServiceType info
          = some (.done ((dibsFrom (data.take header.totalLength.toNat)
            (data.take header.totalLength.toNat).length 14).foldl applyDib endpoint)) := by
  rw [parseGatewayResponse]
  rcases parseHead_cases data expectedServiceType info with
    ⟨e, he⟩ | ⟨header, endpoint, hheader, hdone, -, height, hleast, hcovered⟩
  · rw [he]
    exact .inl ⟨e, rfl⟩
  · rw [hdone]
    refine .inr ⟨header, endpoint, hheader, height, hleast, hcovered, ?_⟩
    exact parseDibs_eq _ _ _ _ (Nat.le_add_left _ _)

end GatewayDiscoveryCodec

end KnxStack.Netip
