import KnxStack.Lib.Runs
import KnxStack.Lib.Words
import KnxStack.Network.TreeRouting

/-!
# Authorised addresses

`AuthorizationService` (`application/authorization_service.cpp`) answers A_Authorize_Request with the level
of a key, and keeps the levels of the last sixteen addresses that it authorised, each with the reading of a
clock of 32 bits.

`Observed` is a service with what an observer of its answers knows: when each address was authorised, and the
answer to it that is in force.

- `Follows.step`: what the service stores, the observer knows.
- `authorization_exact`: the levels reported are those in force, in every run that denies no address with a
  stored level and evicts none when the clock has wrapped between two authorisations.
-/

set_option autoImplicit false

namespace KnxStack.Application

open KnxStack.Lib KnxStack.Lib.Words KnxStack.Network

/-! ## The service -/

/-- `AuthorizationLevel`. -/
inductive AuthorizationLevel where
  | none
  | management
  | configuration
  | maximum
  deriving DecidableEq, Repr

/-- `AuthorizedDevice`. -/
structure AuthorizedDevice where
  address : IndividualAddress
  level : AuthorizationLevel
  timestamp : UInt32
  deriving DecidableEq, Repr

/-- `MAX_AUTHORIZED_DEVICES`. -/
def maxAuthorizedDevices : Nat := 16

/-- `AuthorizationService`. A time source, where there is one, is read in the calls. -/
structure AuthorizationService where
  managementKey : List UInt8 := [0x00, 0x00, 0x00, 0x00]
  configurationKey : List UInt8 := [0x00, 0x00, 0x00, 0x00]
  maximumKey : List UInt8 := [0x00, 0x00, 0x00, 0x00]
  keysConfigured : Bool := false
  validationCallback : Option (IndividualAddress → List UInt8 → Result AuthorizationLevel) := .none
  hasTimeSource : Bool := false
  authorizationTimeout : UInt32 := 0
  authorizedDevices : List AuthorizedDevice := []
  logicalClock : UInt32 := 0

namespace AuthorizationService

/-- `validateKey`. -/
def validateKey (s : AuthorizationService) (key : List UInt8) : Option AuthorizationLevel :=
  if !s.keysConfigured then some .maximum
  else if key = s.maximumKey then some .maximum
  else if key = s.configurationKey then some .configuration
  else if key = s.managementKey then some .management
  else none

/-- What a request is granted: by the callback, or else by its key. -/
def granted (s : AuthorizationService) (source : IndividualAddress) (key : List UInt8) :
    Result AuthorizationLevel :=
  match s.validationCallback with
  | some callback => callback source key
  | none =>
    match s.validateKey key with
    | some level => .ok level
    | none => .error .operationNotSupported

/-- `currentTime_`, with what a time source would read. -/
def currentTime (s : AuthorizationService) (reading : UInt32) : AuthorizationService × UInt32 :=
  if s.hasTimeSource then (s, reading)
  else ({ s with logicalClock := s.logicalClock + 1 }, s.logicalClock + 1)

/-- `isExpired_`. -/
def isExpired (s : AuthorizationService) (device : AuthorizedDevice) (now : UInt32) : Bool :=
  if s.authorizationTimeout = 0 then false
  else decide (s.authorizationTimeout ≤ now - device.timestamp)

/-- `findAuthorizedDevice`. -/
def findAuthorizedDevice (s : AuthorizationService) (address : IndividualAddress) :
    Option AuthorizedDevice :=
  s.authorizedDevices.find? fun device =>
    device.address.area == address.area && device.address.line == address.line
      && device.address.device == address.device

/-- `removeExpiredAuthorizations_`: the others keep their order. -/
def removeExpiredAuthorizations (s : AuthorizationService) (now : UInt32) : AuthorizationService :=
  { s with authorizedDevices := s.authorizedDevices.filter fun device => !s.isExpired device now }

/-- `oldestAuthorizationIndex_`. -/
def oldestAuthorizationIndex (devices : List AuthorizedDevice) : Nat :=
  let timestamp (index : Nat) := (devices[index]?.map AuthorizedDevice.timestamp).getD 0
  (List.range' 1 (devices.length - 1)).foldl
    (fun oldest index => if timestamp index < timestamp oldest then index else oldest) 0

/-- The first device with the address is authorised again. -/
def refresh (renewed : AuthorizedDevice) : List AuthorizedDevice → List AuthorizedDevice
  | [] => []
  | device :: rest =>
    if device.address = renewed.address then renewed :: rest else device :: refresh renewed rest

/-- The devices with one more: authorised again, added, or in the place of the oldest. -/
def storeDevice (devices : List AuthorizedDevice) (device : AuthorizedDevice) :
    List AuthorizedDevice :=
  if device.address ∈ devices.map AuthorizedDevice.address then refresh device devices
  else if devices.length < maxAuthorizedDevices then devices ++ [device]
  else devices.set (oldestAuthorizationIndex devices) device

/-- `storeAuthorization`. -/
def storeAuthorization (s : AuthorizationService) (address : IndividualAddress)
    (level : AuthorizationLevel) (reading : UInt32) : AuthorizationService :=
  let (s, now) := s.currentTime reading
  let s := s.removeExpiredAuthorizations now
  { s with authorizedDevices := storeDevice s.authorizedDevices ⟨address, level, now⟩ }

/-- `handleRequest`, with the level that is sent as the response. -/
def handleRequest (s : AuthorizationService) (source : IndividualAddress) (key : List UInt8)
    (reading : UInt32) : AuthorizationService × AuthorizationLevel × Result Unit :=
  match s.granted source key with
  | .error error => (s, .none, .error error)
  | .ok level => (s.storeAuthorization source level reading, level, .ok ())

/-- `getCurrentLevel`; the clock is read for an address that is stored. -/
def getCurrentLevel (s : AuthorizationService) (address : IndividualAddress) (reading : UInt32) :
    AuthorizationService × AuthorizationLevel :=
  match s.findAuthorizedDevice address with
  | none => (s, .none)
  | some device =>
    let (s, now) := s.currentTime reading
    (s, if s.isExpired device now then .none else device.level)

/-- `clearAuthorization`. -/
def clearAuthorization (s : AuthorizationService) (address : IndividualAddress) :
    AuthorizationService :=
  { s with
    authorizedDevices := s.authorizedDevices.eraseP fun device => device.address == address }

/-- `clearAllAuthorizations`. -/
def clearAllAuthorizations (s : AuthorizationService) : AuthorizationService :=
  { s with authorizedDevices := [] }

/-- The stored addresses. -/
def addresses (s : AuthorizationService) : List IndividualAddress :=
  s.authorizedDevices.map AuthorizedDevice.address

end AuthorizationService

/-! ## The observer -/

/-- The calls, each with the time that a time source would read. -/
inductive AuthorizationCall where
  | handleRequest (source : IndividualAddress) (key : List UInt8) (t : Nat)
  | getCurrentLevel (address : IndividualAddress) (t : Nat)
  | clearAuthorization (address : IndividualAddress)
  | clearAllAuthorizations
  deriving DecidableEq, Repr

/-- A service, the first time that its clock can show next, the times when the addresses were authorised, and
the answers that are in force, with their times. -/
structure Observed where
  service : AuthorizationService
  next : Nat
  grantedAt : IndividualAddress → Nat := fun _ => 0
  inForce : IndividualAddress → Option (AuthorizationLevel × Nat) := fun _ => none

/-- An authorisation that is as old as the timeout. -/
def Lapsed (timeout : UInt32) (t since : Nat) : Prop := timeout ≠ 0 ∧ since + timeout.toNat ≤ t

instance (timeout : UInt32) (t since : Nat) : Decidable (Lapsed timeout t since) :=
  inferInstanceAs (Decidable (_ ∧ _))

namespace Observed

/-- The service as it starts: a time source may show any time, the logical clock shows one next. -/
def initial (service : AuthorizationService) : Observed :=
  { service, next := if service.hasTimeSource then 0 else 1 }

/-- The first time that can be read after a call at a time. -/
def advance (w : Observed) (t : Nat) (reads : Bool) : Nat :=
  if w.service.hasTimeSource then t else if reads then w.next + 1 else w.next

/-- One call. An answer is in force until the address is cleared, or is no longer stored after the request of
another one. -/
def step (w : Observed) : AuthorizationCall → Observed
  | .handleRequest source key t =>
    let handled := w.service.handleRequest source key (UInt32.ofNat t)
    let stores := (w.service.granted source key).isOk
    { service := handled.1
      next := w.advance t stores
      grantedAt := if stores then Function.update w.grantedAt source t else w.grantedAt
      inForce := fun address =>
        if address = source then some (handled.2.1, t)
        else if address ∈ w.service.addresses ∧ address ∉ handled.1.addresses then none
        else w.inForce address }
  | .getCurrentLevel address t =>
    { w with
      service := (w.service.getCurrentLevel address (UInt32.ofNat t)).1
      next := w.advance t (decide (address ∈ w.service.addresses)) }
  | .clearAuthorization address =>
    { w with
      service := w.service.clearAuthorization address
      inForce := Function.update w.inForce address none }
  | .clearAllAuthorizations =>
    { w with
      service := w.service.clearAllAuthorizations
      inForce := fun _ => none }

/-- The level in force. -/
def levelInForce (w : Observed) (address : IndividualAddress) (t : Nat) : AuthorizationLevel :=
  match w.inForce address with
  | none => .none
  | some (level, since) => if Lapsed w.service.authorizationTimeout t since then .none else level

/-- The stored addresses whose authorisation has not lapsed. -/
def unexpired (w : Observed) (t : Nat) : List IndividualAddress :=
  w.service.addresses.filter fun address =>
    !decide (Lapsed w.service.authorizationTimeout t (w.grantedAt address))

/-- The time of a call can be read, and no stored authorisation is older than half a turn of the clock. -/
def InTime (w : Observed) (t : Nat) : Prop :=
  (if w.service.hasTimeSource then w.next ≤ t else t = w.next)
    ∧ ∀ address ∈ w.service.addresses, t < w.grantedAt address + 2 ^ 31

/-- The clock does not go back. -/
def Clocked (w : Observed) : AuthorizationCall → Prop
  | .handleRequest _ _ t => w.InTime t
  | .getCurrentLevel _ t => w.InTime t
  | _ => True

/-- A request is denied to no address with a stored level, and evicts no address where the clock has wrapped
between two authorisations. -/
def Regular (w : Observed) : AuthorizationCall → Prop
  | .handleRequest source key t =>
    if (w.service.granted source key).isOk then
      source ∉ w.unexpired t → (w.unexpired t).length = maxAuthorizedDevices →
        ∀ a ∈ w.unexpired t, ∀ b ∈ w.unexpired t,
          w.grantedAt a / 2 ^ 32 = w.grantedAt b / 2 ^ 32
    else
      ∀ device ∈ w.service.authorizedDevices, device.address = source → device.level = .none
        ∨ Lapsed w.service.authorizationTimeout t (w.grantedAt source)
  | _ => True

instance (w : Observed) (t : Nat) : Decidable (w.InTime t) :=
  inferInstanceAs (Decidable ((if w.service.hasTimeSource then w.next ≤ t else t = w.next)
    ∧ ∀ address ∈ w.service.addresses, t < w.grantedAt address + 2 ^ 31))

instance (w : Observed) : DecidablePred w.Clocked
  | .handleRequest _ _ t => inferInstanceAs (Decidable (w.InTime t))
  | .getCurrentLevel _ t => inferInstanceAs (Decidable (w.InTime t))
  | .clearAuthorization _ => isTrue trivial
  | .clearAllAuthorizations => isTrue trivial

instance (w : Observed) : DecidablePred w.Regular
  | .handleRequest source key t => inferInstanceAs (Decidable (if (w.service.granted source key).isOk then
      source ∉ w.unexpired t → (w.unexpired t).length = maxAuthorizedDevices →
        ∀ a ∈ w.unexpired t, ∀ b ∈ w.unexpired t, w.grantedAt a / 2 ^ 32 = w.grantedAt b / 2 ^ 32
    else
      ∀ device ∈ w.service.authorizedDevices, device.address = source → device.level = .none
        ∨ Lapsed w.service.authorizationTimeout t (w.grantedAt source)))
  | .getCurrentLevel _ _ => isTrue trivial
  | .clearAuthorization _ => isTrue trivial
  | .clearAllAuthorizations => isTrue trivial

/-- An address that a request takes out of the store had lapsed, or was evicted: sixteen others had not
lapsed, and were not authorised before it. -/
def EvictsOldest (w : Observed) (source : IndividualAddress) (t : Nat)
    (after : AuthorizationService) : Prop :=
  ∀ address ∈ w.unexpired t, address ∉ after.addresses →
    source ∉ w.unexpired t ∧ (w.unexpired t).length = maxAuthorizedDevices
      ∧ ∀ other ∈ w.unexpired t, w.grantedAt address ≤ w.grantedAt other

/-- The state is exact: the stored addresses are distinct and at most sixteen, a level that is reported is
the one in force, and only the oldest address is evicted. -/
def Exact (w : Observed) (call : AuthorizationCall) : Prop :=
  ((w.step call).service.addresses.Nodup
      ∧ (w.step call).service.addresses.length ≤ maxAuthorizedDevices)
    ∧ match call with
      | .handleRequest source key t =>
        w.EvictsOldest source t (w.service.handleRequest source key (UInt32.ofNat t)).1
      | .getCurrentLevel address t =>
        (w.service.getCurrentLevel address (UInt32.ofNat t)).2 = w.levelInForce address t
      | _ => True

end Observed

/-! ## The store -/

theorem eq_of_parts {a b : IndividualAddress} (harea : a.area = b.area) (hline : a.line = b.line)
    (hdevice : a.device = b.device) : a = b := by
  have harea := congrArg UInt8.toNat harea
  have hline := congrArg UInt8.toNat hline
  have hdevice := congrArg UInt8.toNat hdevice
  rw [toNat_area, toNat_area] at harea
  rw [toNat_line, toNat_line] at hline
  rw [toNat_device, toNat_device] at hdevice
  have hraw : a.raw = b.raw := by
    apply UInt16.toNat_inj.mp
    omega
  cases a
  cases b
  exact congrArg IndividualAddress.mk hraw

namespace AuthorizationService

variable {devices : List AuthorizedDevice} {device d : AuthorizedDevice}

theorem findAuthorizedDevice_eq (s : AuthorizationService) (address : IndividualAddress) :
    s.findAuthorizedDevice address
      = s.authorizedDevices.find? fun device => decide (device.address = address) := by
  unfold findAuthorizedDevice
  congr 1
  funext device
  apply Bool.eq_iff_iff.mpr
  simp only [Bool.and_eq_true, beq_iff_eq, decide_eq_true_eq]
  constructor
  · rintro ⟨⟨harea, hline⟩, hdevice⟩
    exact eq_of_parts harea hline hdevice
  · rintro rfl
    exact ⟨⟨rfl, rfl⟩, rfl⟩

theorem map_refresh (renewed : AuthorizedDevice) (devices : List AuthorizedDevice) :
    (refresh renewed devices).map AuthorizedDevice.address
      = devices.map AuthorizedDevice.address := by
  induction devices with
  | nil => rfl
  | cons first rest ih =>
    unfold refresh
    split
    · rename_i hsame
      rw [List.map_cons, List.map_cons, hsame]
    · rw [List.map_cons, List.map_cons, ih]

theorem mem_refresh {renewed : AuthorizedDevice}
    (hnodup : (devices.map AuthorizedDevice.address).Nodup) (hd : d ∈ refresh renewed devices) :
    d = renewed ∨ (d ∈ devices ∧ d.address ≠ renewed.address) := by
  induction devices with
  | nil => cases hd
  | cons first rest ih =>
    rw [List.map_cons, List.nodup_cons] at hnodup
    unfold refresh at hd
    split at hd
    · rename_i hsame
      rcases List.mem_cons.mp hd with hself | hrest
      · exact .inl hself
      · refine .inr ⟨List.mem_cons_of_mem _ hrest, ?_⟩
        intro hagain
        apply hnodup.1
        rw [hsame, ← hagain]
        exact List.mem_map_of_mem hrest
    · rename_i hother
      rcases List.mem_cons.mp hd with hself | hrest
      · subst hself
        exact .inr ⟨List.mem_cons_self, hother⟩
      · rcases ih hnodup.2 hrest with hself | ⟨hold, hne⟩
        · exact .inl hself
        · exact .inr ⟨List.mem_cons_of_mem _ hold, hne⟩

theorem self_mem_refresh {renewed : AuthorizedDevice}
    (h : renewed.address ∈ devices.map AuthorizedDevice.address) :
    renewed ∈ refresh renewed devices := by
  induction devices with
  | nil => cases h
  | cons first rest ih =>
    unfold refresh
    split
    · exact List.mem_cons_self
    · rename_i hother
      rw [List.map_cons, List.mem_cons] at h
      rcases h with hsame | hrest
      · exact absurd hsame.symm hother
      · exact List.mem_cons_of_mem _ (ih hrest)

theorem foldl_smaller (key : Nat → UInt32) (indices : List Nat) (start : Nat) :
    let smallest := indices.foldl (fun least index => if key index < key least then index else least)
      start
    smallest ∈ start :: indices ∧ ∀ index ∈ start :: indices, key smallest ≤ key index := by
  induction indices generalizing start with
  | nil =>
    refine ⟨List.mem_cons_self, ?_⟩
    intro index hindex
    rw [List.mem_singleton.mp hindex]
    exact UInt32.le_refl _
  | cons next indices ih =>
    obtain ⟨hmem, hleast⟩ := ih (if key next < key start then next else start)
    dsimp only at hmem hleast ⊢
    rw [List.foldl_cons]
    have hfirst := hleast _ List.mem_cons_self
    by_cases hless : key next < key start
    · rw [if_pos hless] at hmem hleast hfirst ⊢
      refine ⟨List.mem_cons_of_mem _ hmem, ?_⟩
      intro index hindex
      rcases List.mem_cons.mp hindex with rfl | hrest
      · exact UInt32.le_trans hfirst (UInt32.le_of_lt hless)
      · exact hleast index hrest
    · rw [if_neg hless] at hmem hleast hfirst ⊢
      constructor
      · rcases List.mem_cons.mp hmem with hself | hrest
        · rw [hself]
          exact List.mem_cons_self
        · exact List.mem_cons_of_mem _ (List.mem_cons_of_mem _ hrest)
      · intro index hindex
        rcases List.mem_cons.mp hindex with rfl | hrest
        · exact hfirst
        · rcases List.mem_cons.mp hrest with rfl | hlater
          · exact UInt32.le_trans hfirst (UInt32.not_lt.mp hless)
          · exact hleast index (List.mem_cons_of_mem _ hlater)

theorem oldestAuthorizationIndex_spec (hne : devices ≠ []) :
    ∃ oldest, devices[oldestAuthorizationIndex devices]? = some oldest
      ∧ ∀ other ∈ devices, oldest.timestamp ≤ other.timestamp := by
  have hlength := List.length_pos_iff.mpr hne
  obtain ⟨hmem, hleast⟩ := foldl_smaller
    (fun index => (devices[index]?.map AuthorizedDevice.timestamp).getD 0)
    (List.range' 1 (devices.length - 1)) 0
  have hindices : ∀ index, index ∈ 0 :: List.range' 1 (devices.length - 1)
      ↔ index < devices.length := by
    intro index
    rw [List.mem_cons, List.mem_range'_1]
    omega
  have hlt := (hindices _).mp hmem
  refine ⟨_, List.getElem?_eq_getElem hlt, ?_⟩
  intro other hother
  obtain ⟨index, hindex, rfl⟩ := List.getElem_of_mem hother
  have hsmall := hleast index ((hindices index).mpr hindex)
  rw [List.getElem?_eq_getElem hlt, List.getElem?_eq_getElem hindex] at hsmall
  exact hsmall

/-- The devices that `storeDevice` leaves: the one that is stored, and others that were there. -/
theorem mem_storeDevice (device : AuthorizedDevice)
    (hnodup : (devices.map AuthorizedDevice.address).Nodup) (hd : d ∈ storeDevice devices device) :
    d = device ∨ (d ∈ devices ∧ d.address ≠ device.address) := by
  unfold storeDevice at hd
  split at hd
  · exact mem_refresh hnodup hd
  · rename_i hnew
    have hother : ∀ d ∈ devices, d.address ≠ device.address := by
      intro d hd hsame
      apply hnew
      rw [← hsame]
      exact List.mem_map_of_mem hd
    split at hd
    · rcases List.mem_append.mp hd with hold | hself
      · exact .inr ⟨hold, hother d hold⟩
      · exact .inl (List.mem_singleton.mp hself)
    · rcases List.mem_or_eq_of_mem_set hd with hold | hself
      · exact .inr ⟨hold, hother d hold⟩
      · exact .inl hself

theorem address_of_mem_eraseP {address : IndividualAddress}
    (hnodup : (devices.map AuthorizedDevice.address).Nodup)
    (hd : d ∈ devices.eraseP fun device => device.address == address) : d.address ≠ address := by
  induction devices with
  | nil => cases hd
  | cons first rest ih =>
    rw [List.map_cons, List.nodup_cons] at hnodup
    rw [List.eraseP_cons] at hd
    by_cases hsame : first.address = address
    · rw [beq_iff_eq.mpr hsame] at hd
      intro hagain
      apply hnodup.1
      rw [hsame, ← hagain]
      exact List.mem_map_of_mem hd
    · rw [beq_false_of_ne hsame] at hd
      rcases List.mem_cons.mp hd with rfl | hrest
      · exact hsame
      · exact ih hnodup.2 hrest

theorem map_storeDevice (devices : List AuthorizedDevice) (device : AuthorizedDevice) :
    (storeDevice devices device).map AuthorizedDevice.address =
      if device.address ∈ devices.map AuthorizedDevice.address then
        devices.map AuthorizedDevice.address
      else if devices.length < maxAuthorizedDevices then
        devices.map AuthorizedDevice.address ++ [device.address]
      else (devices.map AuthorizedDevice.address).set (oldestAuthorizationIndex devices)
        device.address := by
  unfold storeDevice
  split
  · exact map_refresh device devices
  · split
    · rw [List.map_append]
      rfl
    · rw [List.map_set]

theorem storeDevice_bounds (device : AuthorizedDevice) (hnodup : (devices.map AuthorizedDevice.address).Nodup)
    (hlength : (devices.map AuthorizedDevice.address).length ≤ maxAuthorizedDevices) :
    ((storeDevice devices device).map AuthorizedDevice.address).Nodup
      ∧ ((storeDevice devices device).map AuthorizedDevice.address).length
        ≤ maxAuthorizedDevices := by
  rw [map_storeDevice]
  split
  · exact ⟨hnodup, hlength⟩
  · rename_i hnew
    split
    · rename_i hroom
      constructor
      · rw [List.nodup_append]
        refine ⟨hnodup, List.nodup_singleton _, ?_⟩
        intro a ha b hb hsame
        rw [hsame, List.mem_singleton.mp hb] at ha
        exact hnew ha
      · rw [List.length_append, List.length_map]
        exact hroom
    · constructor
      · exact hnodup.set hnew
      · rwa [List.length_set]

theorem self_mem_storeDevice (devices : List AuthorizedDevice) (device : AuthorizedDevice) :
    device ∈ storeDevice devices device := by
  unfold storeDevice
  split
  · rename_i hthere
    exact self_mem_refresh hthere
  · split
    · exact List.mem_append_right _ (List.mem_singleton_self _)
    · rename_i hfull
      have hne : devices ≠ [] := by
        rintro rfl
        exact hfull (by decide)
      obtain ⟨oldest, holdest, -⟩ := oldestAuthorizationIndex_spec hne
      exact List.mem_set (List.getElem?_eq_some_iff.mp holdest).1 device

/-- An address that `storeDevice` takes out is the oldest of sixteen others. -/
theorem evicted_storeDevice {address : IndividualAddress}
    (hstored : address ∈ devices.map AuthorizedDevice.address)
    (hgone : address ∉ (storeDevice devices device).map AuthorizedDevice.address) :
    device.address ∉ devices.map AuthorizedDevice.address
      ∧ maxAuthorizedDevices ≤ devices.length
      ∧ ∃ oldest ∈ devices, oldest.address = address
        ∧ ∀ other ∈ devices, oldest.timestamp ≤ other.timestamp := by
  rw [map_storeDevice] at hgone
  split at hgone
  · exact absurd hstored hgone
  · rename_i hnew
    split at hgone
    · exact absurd (List.mem_append_left _ hstored) hgone
    · rename_i hfull
      have hne : devices ≠ [] := by
        rintro rfl
        cases hstored
      obtain ⟨oldest, holdest, hleast⟩ := oldestAuthorizationIndex_spec hne
      refine ⟨hnew, Nat.not_lt.mp hfull, oldest, List.mem_of_getElem? holdest, ?_, hleast⟩
      -- Any other place keeps its address.
      obtain ⟨index, hindex, hat⟩ := List.getElem_of_mem hstored
      by_cases hsame : oldestAuthorizationIndex devices = index
      · have holdest' := (List.getElem?_eq_some_iff.mp holdest).2
        rw [← hat, List.getElem_map]
        subst hsame
        rw [← holdest']
      · exfalso
        apply hgone
        rw [← hat]
        have hlt : index < ((devices.map AuthorizedDevice.address).set
            (oldestAuthorizationIndex devices) device.address).length := by
          rwa [List.length_set]
        have hkept := List.getElem_set_ne hsame hlt
        rw [← hkept]
        exact List.getElem_mem hlt

end AuthorizationService

/-! ## The clock -/

theorem Lapsed.mono {timeout : UInt32} {t t' since : Nat} (h : Lapsed timeout t since)
    (hle : t ≤ t') : Lapsed timeout t' since :=
  ⟨h.1, Nat.le_trans h.2 hle⟩

namespace AuthorizationService

variable (s : AuthorizationService) (reading : UInt32)

theorem currentTime_fst : ∃ logicalClock, (s.currentTime reading).1 = { s with logicalClock } := by
  unfold currentTime
  split
  · exact ⟨s.logicalClock, rfl⟩
  · exact ⟨s.logicalClock + 1, rfl⟩

theorem find_cases (address : IndividualAddress) :
    (s.findAuthorizedDevice address = none ∧ address ∉ s.addresses)
      ∨ ∃ device ∈ s.authorizedDevices, device.address = address
        ∧ s.findAuthorizedDevice address = some device := by
  rw [findAuthorizedDevice_eq]
  cases hfind : s.authorizedDevices.find? fun device => decide (device.address = address) with
  | none =>
    refine .inl ⟨rfl, ?_⟩
    intro hstored
    obtain ⟨device, hdevice, hsame⟩ := List.mem_map.mp hstored
    exact List.find?_eq_none.mp hfind device hdevice (decide_eq_true hsame)
  | some device =>
    refine .inr ⟨device, List.mem_of_find?_eq_some hfind, ?_, rfl⟩
    simpa using List.find?_some hfind

end AuthorizationService

namespace Observed

/-- The stored devices whose authorisation has not lapsed. -/
def live (w : Observed) (t : Nat) : List AuthorizedDevice :=
  w.service.authorizedDevices.filter fun device =>
    !decide (Lapsed w.service.authorizationTimeout t (w.grantedAt device.address))

/-- What the service stores, the observer knows. -/
structure Follows (w : Observed) : Prop where
  nodup : w.service.addresses.Nodup
  length : w.service.addresses.length ≤ maxAuthorizedDevices
  clock : w.service.hasTimeSource = false → w.service.logicalClock + 1 = UInt32.ofNat w.next
  stamped : ∀ device ∈ w.service.authorizedDevices,
    device.timestamp = UInt32.ofNat (w.grantedAt device.address)
      ∧ w.grantedAt device.address ≤ w.next
  levels : ∀ device ∈ w.service.authorizedDevices, device.level ≠ .none →
    ¬ Lapsed w.service.authorizationTimeout w.next (w.grantedAt device.address) →
    w.inForce device.address = some (device.level, w.grantedAt device.address)
  forced : ∀ address level since, w.inForce address = some (level, since) → level ≠ .none →
    (∃ device ∈ w.service.authorizedDevices, device.address = address ∧ device.level = level)
      ∧ since = w.grantedAt address

variable {w : Observed} {t : Nat}

theorem map_live (w : Observed) (t : Nat) :
    (w.live t).map AuthorizedDevice.address = w.unexpired t := by
  unfold live unexpired AuthorizationService.addresses
  rw [List.filter_map]
  rfl

theorem InTime.next_le (h : w.InTime t) : w.next ≤ t := by
  have hread := h.1
  split at hread
  · exact hread
  · exact hread.ge

theorem InTime.le_advance (h : w.InTime t) (reads : Bool) : t ≤ w.advance t reads := by
  have hread := h.1
  unfold advance
  split at hread
  · rename_i hsource
    rw [if_pos hsource]
  · rename_i hsource
    rw [if_neg hsource, hread]
    split
    · exact Nat.le_succ _
    · exact Nat.le_refl _

theorem Follows.reading (h : w.Follows) (htime : w.InTime t) :
    (w.service.currentTime (UInt32.ofNat t)).2 = UInt32.ofNat t := by
  have hread := htime.1
  unfold AuthorizationService.currentTime
  split at hread
  · rename_i hsource
    rw [if_pos hsource]
  · rename_i hsource
    rw [if_neg hsource, hread]
    exact h.clock (Bool.not_eq_true _ ▸ hsource)

theorem Follows.clock_advance (h : w.Follows) (t : Nat) (hsource : w.service.hasTimeSource = false) :
    w.service.logicalClock + 1 = UInt32.ofNat (w.advance t false)
      ∧ w.service.logicalClock + 1 + 1 = UInt32.ofNat (w.advance t true) := by
  have hclock := h.clock hsource
  unfold advance
  rw [hsource]
  refine ⟨hclock, ?_⟩
  rw [hclock]
  exact (UInt32.ofNat_add w.next 1).symm

theorem Follows.isExpired_iff (h : w.Follows) (htime : w.InTime t) {device : AuthorizedDevice}
    (hdevice : device ∈ w.service.authorizedDevices) :
    w.service.isExpired device (UInt32.ofNat t) = true
      ↔ Lapsed w.service.authorizationTimeout t (w.grantedAt device.address) := by
  obtain ⟨hstamp, hgranted⟩ := h.stamped device hdevice
  have hyoung := htime.2 device.address (List.mem_map_of_mem hdevice)
  have hnext := htime.next_le
  unfold AuthorizationService.isExpired Lapsed
  by_cases hnone : w.service.authorizationTimeout = 0
  · rw [if_pos hnone]
    exact iff_of_false Bool.false_ne_true fun hlapsed => hlapsed.1 hnone
  · rw [if_neg hnone, decide_eq_true_eq, hstamp, le_elapsed_iff ⟨by omega, by omega⟩]
    exact ⟨fun hle => ⟨hnone, hle⟩, fun hlapsed => hlapsed.2⟩

/-! ## Levels -/

theorem Follows.getCurrentLevel_eq (h : w.Follows) (htime : w.InTime t)
    (address : IndividualAddress) :
    (w.service.getCurrentLevel address (UInt32.ofNat t)).2 = w.levelInForce address t := by
  have hforced : ∀ level since, w.inForce address = some (level, since) → level ≠ .none →
      (∃ device ∈ w.service.authorizedDevices, device.address = address ∧ device.level = level)
        ∧ since = w.grantedAt address := h.forced address
  unfold AuthorizationService.getCurrentLevel levelInForce
  rcases w.service.find_cases address with ⟨hfind, hmissing⟩ | ⟨device, hdevice, rfl, hfind⟩
  · rw [hfind]
    dsimp only
    cases hin : w.inForce address with
    | none => rfl
    | some answer =>
      obtain ⟨level, since⟩ := answer
      have hnone : level = .none := by
        by_contra hlevel
        obtain ⟨⟨device, hdevice, hsame, -⟩, -⟩ := hforced level since hin hlevel
        exact hmissing (hsame ▸ List.mem_map_of_mem hdevice)
      dsimp only
      rw [hnone, ite_self]
  · rw [hfind]
    dsimp only
    rw [h.reading htime]
    obtain ⟨logicalClock, hclock⟩ := w.service.currentTime_fst (UInt32.ofNat t)
    rw [hclock]
    change (if w.service.isExpired device (UInt32.ofNat t) then AuthorizationLevel.none
      else device.level) = _
    simp only [h.isExpired_iff htime hdevice]
    by_cases hlapsed : Lapsed w.service.authorizationTimeout t (w.grantedAt device.address)
    · rw [if_pos hlapsed]
      cases hin : w.inForce device.address with
      | none => rfl
      | some answer =>
        obtain ⟨level, since⟩ := answer
        dsimp only
        by_cases hlevel : level = .none
        · rw [hlevel, ite_self]
        · rw [(hforced level since hin hlevel).2, if_pos hlapsed]
    · rw [if_neg hlapsed]
      by_cases hlevel : device.level = .none
      · -- No other device is stored for the address, so none gives it a level.
        rw [hlevel]
        cases hin : w.inForce device.address with
        | none => rfl
        | some answer =>
          obtain ⟨level, since⟩ := answer
          have hnone : level = .none := by
            by_contra hgiven
            obtain ⟨⟨other, hother, hsame, hlevel'⟩, -⟩ := hforced level since hin hgiven
            have heq := List.inj_on_of_nodup_map h.nodup hother hdevice hsame
            rw [heq, hlevel] at hlevel'
            exact hgiven hlevel'.symm
          dsimp only
          rw [hnone, ite_self]
      · have hnow : ¬ Lapsed w.service.authorizationTimeout w.next (w.grantedAt device.address) :=
          fun hearly => hlapsed (hearly.mono htime.next_le)
        rw [h.levels device hdevice hlevel hnow]
        dsimp only
        rw [if_neg hlapsed]

/-! ## One call -/

theorem Follows.getCurrentLevel (h : w.Follows) (htime : w.InTime t) (address : IndividualAddress) :
    (w.step (.getCurrentLevel address t)).Follows := by
  have hle : w.next ≤ w.advance t (decide (address ∈ w.service.addresses)) :=
    Nat.le_trans htime.next_le (htime.le_advance _)
  have hclock : ∃ logicalClock,
      (w.service.getCurrentLevel address (UInt32.ofNat t)).1 = { w.service with logicalClock }
        ∧ (w.service.hasTimeSource = false →
          logicalClock + 1
            = UInt32.ofNat (w.advance t (decide (address ∈ w.service.addresses)))) := by
    unfold AuthorizationService.getCurrentLevel
    rcases w.service.find_cases address with ⟨hfind, hmissing⟩ | ⟨device, hdevice, rfl, hfind⟩
    · rw [hfind]
      refine ⟨w.service.logicalClock, rfl, fun hsource => ?_⟩
      rw [decide_eq_false hmissing]
      exact (h.clock_advance t hsource).1
    · rw [hfind]
      have hstored : device.address ∈ w.service.addresses := List.mem_map_of_mem hdevice
      rw [decide_eq_true hstored]
      dsimp only
      unfold AuthorizationService.currentTime
      by_cases hsource : w.service.hasTimeSource = true
      · rw [if_pos hsource]
        exact ⟨w.service.logicalClock, rfl, fun hnone => absurd hsource (by rw [hnone]; nofun)⟩
      · rw [if_neg hsource]
        exact ⟨w.service.logicalClock + 1, rfl, fun hnone => (h.clock_advance t hnone).2⟩
  obtain ⟨logicalClock, hservice, hlogical⟩ := hclock
  unfold step
  dsimp only
  rw [hservice]
  refine ⟨h.nodup, h.length, hlogical, ?_, ?_, h.forced⟩
  · intro device hdevice
    obtain ⟨hstamp, hgranted⟩ := h.stamped device hdevice
    exact ⟨hstamp, Nat.le_trans hgranted hle⟩
  · intro device hdevice hlevel hopen
    exact h.levels device hdevice hlevel fun hlapsed => hopen (hlapsed.mono hle)

theorem Follows.clearAuthorization (h : w.Follows) (address : IndividualAddress) :
    (w.step (.clearAuthorization address)).Follows := by
  have hsub : ∀ device ∈ (w.service.clearAuthorization address).authorizedDevices,
      device ∈ w.service.authorizedDevices := fun device hdevice => List.mem_of_mem_eraseP hdevice
  have hsublist : (w.service.clearAuthorization address).addresses.Sublist w.service.addresses :=
    (List.eraseP_sublist).map _
  have hgone : ∀ device ∈ (w.service.clearAuthorization address).authorizedDevices,
      device.address ≠ address := fun device hdevice =>
    AuthorizationService.address_of_mem_eraseP h.nodup hdevice
  refine ⟨h.nodup.sublist hsublist, Nat.le_trans hsublist.length_le h.length, h.clock, ?_, ?_, ?_⟩
  · intro device hdevice
    exact h.stamped device (hsub device hdevice)
  · intro device hdevice hlevel hopen
    change Function.update w.inForce address none device.address = _
    rw [Function.update_of_ne (hgone device hdevice)]
    exact h.levels device (hsub device hdevice) hlevel hopen
  · intro other level since hin hlevel
    change Function.update w.inForce address none other = _ at hin
    by_cases hsame : other = address
    · rw [hsame, Function.update_self] at hin
      cases hin
    · rw [Function.update_of_ne hsame] at hin
      obtain ⟨⟨device, hdevice, hother, hgiven⟩, hsince⟩ := h.forced other level since hin hlevel
      refine ⟨⟨device, ?_, hother, hgiven⟩, hsince⟩
      apply (List.mem_eraseP_of_neg ?_).mpr hdevice
      simpa [hother] using hsame

theorem Follows.clearAllAuthorizations (h : w.Follows) :
    (w.step .clearAllAuthorizations).Follows := by
  refine ⟨List.nodup_nil, Nat.zero_le _, h.clock, ?_, ?_, nofun⟩
  · intro device hdevice
    cases hdevice
  · intro device hdevice
    cases hdevice

theorem Follows.denied (h : w.Follows) (htime : w.InTime t) {source : IndividualAddress}
    {key : List UInt8} {error : ErrorCode} (hdenied : w.service.granted source key = .error error)
    (hregular : w.Regular (.handleRequest source key t)) :
    (w.step (.handleRequest source key t)).Follows := by
  have hle : w.next ≤ w.advance t false := Nat.le_trans htime.next_le (htime.le_advance _)
  unfold Regular at hregular
  dsimp only at hregular
  rw [hdenied] at hregular
  simp only [Except.isOk, Except.toBool, Bool.false_eq_true, if_false] at hregular
  have hhandled : w.service.handleRequest source key (UInt32.ofNat t)
      = (w.service, .none, .error error) := by
    unfold AuthorizationService.handleRequest
    rw [hdenied]
  unfold step
  dsimp only
  rw [hhandled, hdenied]
  simp only [Except.isOk, Except.toBool, Bool.false_eq_true, if_false, and_not_self]
  refine ⟨h.nodup, h.length, fun hsource => (h.clock_advance t hsource).1, ?_, ?_, ?_⟩
  · intro device hdevice
    obtain ⟨hstamp, hgranted⟩ := h.stamped device hdevice
    exact ⟨hstamp, Nat.le_trans hgranted hle⟩
  · intro device hdevice hlevel hopen
    dsimp only at hopen hlevel ⊢
    -- The answer None is in force from now on, so no other level may be stored for the source.
    have hother : device.address ≠ source := by
      intro hsame
      rcases hregular device hdevice hsame with hnone | hlapsed
      · exact hlevel hnone
      · apply hopen
        rw [hsame]
        exact hlapsed.mono (htime.le_advance _)
    rw [if_neg hother]
    exact h.levels device hdevice hlevel fun hlapsed => hopen (hlapsed.mono hle)
  · intro address level since hin hlevel
    dsimp only at hin ⊢
    by_cases hsame : address = source
    · rw [if_pos hsame] at hin
      cases hin
      exact absurd rfl hlevel
    · rw [if_neg hsame] at hin
      exact h.forced address level since hin hlevel

theorem Follows.storeAuthorization_eq (h : w.Follows) (htime : w.InTime t)
    (source : IndividualAddress) (level : AuthorizationLevel) :
    ∃ logicalClock,
      w.service.storeAuthorization source level (UInt32.ofNat t) = { w.service with
        logicalClock
        authorizedDevices := AuthorizationService.storeDevice (w.live t)
          ⟨source, level, UInt32.ofNat t⟩ }
      ∧ (w.service.hasTimeSource = false → logicalClock + 1 = UInt32.ofNat (w.advance t true)) := by
  have hlive : w.service.authorizedDevices.filter
      (fun device => !w.service.isExpired device (UInt32.ofNat t)) = w.live t := by
    apply List.filter_congr
    intro device hdevice
    have hiff := h.isExpired_iff htime hdevice
    rw [Bool.eq_iff_iff]
    simp [← hiff]
  have hread := h.reading htime
  unfold AuthorizationService.storeAuthorization AuthorizationService.removeExpiredAuthorizations
  unfold AuthorizationService.currentTime at hread ⊢
  rw [← hlive]
  by_cases hsource : w.service.hasTimeSource = true
  · rw [if_pos hsource]
    exact ⟨w.service.logicalClock, rfl, fun hnone => absurd hsource (by rw [hnone]; nofun)⟩
  · rw [if_neg hsource] at hread ⊢
    dsimp only at hread ⊢
    rw [hread]
    exact ⟨UInt32.ofNat t, rfl, fun hnone => hread ▸ (h.clock_advance t hnone).2⟩

theorem Follows.nodup_live (h : w.Follows) (t : Nat) :
    ((w.live t).map AuthorizedDevice.address).Nodup
      ∧ ((w.live t).map AuthorizedDevice.address).length ≤ maxAuthorizedDevices := by
  rw [map_live]
  exact ⟨h.nodup.filter _, Nat.le_trans (List.length_filter_le _ _) h.length⟩

theorem mem_of_mem_live {device : AuthorizedDevice} (hdevice : device ∈ w.live t) :
    device ∈ w.service.authorizedDevices := (List.mem_filter.mp hdevice).1

/-- A request that is granted: its address is stored, and the others that are stored were before. -/
theorem Follows.granted (h : w.Follows) (htime : w.InTime t) {source : IndividualAddress}
    {key : List UInt8} {level : AuthorizationLevel}
    (hgranted : w.service.granted source key = .ok level) :
    (w.step (.handleRequest source key t)).Follows := by
  have hle : w.next ≤ w.advance t true := Nat.le_trans htime.next_le (htime.le_advance _)
  obtain ⟨hnodup, hlength⟩ := h.nodup_live t
  obtain ⟨logicalClock, hstore, hlogical⟩ := h.storeAuthorization_eq htime source level
  have hhandled : w.service.handleRequest source key (UInt32.ofNat t)
      = (w.service.storeAuthorization source level (UInt32.ofNat t), level, .ok ()) := by
    unfold AuthorizationService.handleRequest
    rw [hgranted]
  have hbounds := AuthorizationService.storeDevice_bounds ⟨source, level, UInt32.ofNat t⟩ hnodup
    hlength
  have hself := AuthorizationService.self_mem_storeDevice (w.live t) ⟨source, level, UInt32.ofNat t⟩
  have hmem : ∀ d ∈ AuthorizationService.storeDevice (w.live t) ⟨source, level, UInt32.ofNat t⟩,
      d = ⟨source, level, UInt32.ofNat t⟩ ∨ (d ∈ w.live t ∧ d.address ≠ source) :=
    fun d => AuthorizationService.mem_storeDevice ⟨source, level, UInt32.ofNat t⟩ hnodup
  unfold step
  dsimp only
  rw [hhandled, hgranted]
  simp only [Except.isOk, Except.toBool, if_true]
  rw [hstore]
  refine ⟨hbounds.1, hbounds.2, hlogical, ?_, ?_, ?_⟩
  · intro device hdevice
    dsimp only at hdevice ⊢
    rcases hmem device hdevice with rfl | ⟨hold, hother⟩
    · rw [Function.update_self]
      exact ⟨rfl, htime.le_advance _⟩
    · rw [Function.update_of_ne hother]
      obtain ⟨hstamp, hgranted⟩ := h.stamped device (mem_of_mem_live hold)
      exact ⟨hstamp, Nat.le_trans hgranted hle⟩
  · intro device hdevice hlevel hopen
    dsimp only at hdevice hopen ⊢
    have hstill := List.mem_map_of_mem (f := AuthorizedDevice.address) hdevice
    rcases hmem device hdevice with rfl | ⟨hold, hother⟩
    · rw [if_pos rfl, Function.update_self]
    · rw [Function.update_of_ne hother] at hopen ⊢
      rw [if_neg hother, if_neg fun hgone => hgone.2 hstill]
      exact h.levels device (mem_of_mem_live hold) hlevel fun hlapsed => hopen (hlapsed.mono hle)
  · intro address level' since hin hlevel
    dsimp only at hin ⊢
    by_cases hsame : address = source
    · rw [if_pos hsame] at hin
      cases hin
      rw [hsame, Function.update_self]
      exact ⟨⟨_, hself, rfl, rfl⟩, rfl⟩
    · rw [if_neg hsame] at hin
      rw [Function.update_of_ne hsame]
      split at hin
      · cases hin
      · -- It was stored before and still is, so by the same device.
        rename_i hkept
        obtain ⟨⟨device, hdevice, haddress, hgiven⟩, hsince⟩ := h.forced address level' since hin hlevel
        have hstored : address ∈ w.service.addresses := haddress ▸ List.mem_map_of_mem hdevice
        have hstill := not_not.mp fun hgone => hkept ⟨hstored, hgone⟩
        obtain ⟨other, hother, hagain⟩ := List.mem_map.mp hstill
        refine ⟨⟨other, hother, hagain, ?_⟩, hsince⟩
        rcases hmem other hother with rfl | ⟨hold, -⟩
        · exact absurd hagain.symm hsame
        · have hequal := List.inj_on_of_nodup_map h.nodup (mem_of_mem_live hold) hdevice
            (hagain.trans haddress.symm)
          rw [hequal]
          exact hgiven

theorem Follows.evictsOldest (h : w.Follows) (htime : w.InTime t) {source : IndividualAddress}
    {key : List UInt8} {level : AuthorizationLevel}
    (hgranted : w.service.granted source key = .ok level)
    (hregular : w.Regular (.handleRequest source key t)) :
    w.EvictsOldest source t (w.service.handleRequest source key (UInt32.ofNat t)).1 := by
  obtain ⟨logicalClock, hstore, -⟩ := h.storeAuthorization_eq htime source level
  obtain ⟨-, hlength⟩ := h.nodup_live t
  unfold Regular at hregular
  dsimp only at hregular
  rw [hgranted] at hregular
  simp only [Except.isOk, Except.toBool, if_true] at hregular
  unfold EvictsOldest AuthorizationService.handleRequest
  rw [hgranted]
  dsimp only
  rw [hstore, ← map_live]
  rw [← map_live] at hregular
  intro address hstored hgone
  obtain ⟨hnew, hfull, oldest, holdest, rfl, hleast⟩ :=
    AuthorizationService.evicted_storeDevice hstored hgone
  have hall : ((w.live t).map AuthorizedDevice.address).length = maxAuthorizedDevices := by
    rw [List.length_map] at hlength ⊢
    exact Nat.le_antisymm hlength hfull
  refine ⟨hnew, hall, ?_⟩
  intro other hother
  -- In one turn of the clock the timestamps are in the order of the times.
  have hepoch := hregular hnew hall _ hstored other hother
  obtain ⟨device, hdevice, rfl⟩ := List.mem_map.mp hother
  have hle := UInt32.le_iff_toNat_le.mp (hleast device hdevice)
  rw [(h.stamped oldest (mem_of_mem_live holdest)).1, (h.stamped device (mem_of_mem_live hdevice)).1,
    UInt32.toNat_ofNat', UInt32.toNat_ofNat'] at hle
  omega

theorem Follows.step (h : w.Follows) {call : AuthorizationCall} (hclocked : w.Clocked call)
    (hregular : w.Regular call) : (w.step call).Follows ∧ w.Exact call := by
  cases call with
  | handleRequest source key t =>
    cases hgranted : w.service.granted source key with
    | error error =>
      have hnext := h.denied hclocked hgranted hregular
      refine ⟨hnext, ⟨hnext.nodup, hnext.length⟩, ?_⟩
      intro address hstored hgone
      apply absurd (List.mem_filter.mp hstored).1
      unfold AuthorizationService.handleRequest at hgone
      rw [hgranted] at hgone
      exact hgone
    | ok level =>
      have hnext := h.granted hclocked hgranted
      exact ⟨hnext, ⟨hnext.nodup, hnext.length⟩, h.evictsOldest hclocked hgranted hregular⟩
  | getCurrentLevel address t =>
    have hnext := h.getCurrentLevel hclocked address
    exact ⟨hnext, ⟨hnext.nodup, hnext.length⟩, h.getCurrentLevel_eq hclocked address⟩
  | clearAuthorization address =>
    have hnext := h.clearAuthorization address
    exact ⟨hnext, ⟨hnext.nodup, hnext.length⟩, trivial⟩
  | clearAllAuthorizations =>
    have hnext := h.clearAllAuthorizations
    exact ⟨hnext, ⟨hnext.nodup, hnext.length⟩, trivial⟩

theorem follows_initial {service : AuthorizationService} (hempty : service.authorizedDevices = [])
    (hclock : service.logicalClock = 0) : (initial service).Follows := by
  have haddresses : service.addresses = [] := congrArg (List.map AuthorizedDevice.address) hempty
  refine ⟨?_, ?_, ?_, ?_, ?_, nofun⟩
  · change service.addresses.Nodup
    rw [haddresses]
    exact List.nodup_nil
  · change service.addresses.length ≤ _
    rw [haddresses]
    exact Nat.zero_le _
  · intro hsource
    change service.logicalClock + 1 = UInt32.ofNat (if service.hasTimeSource then 0 else 1)
    rw [hclock, show service.hasTimeSource = false from hsource]
    rfl
  · intro device hdevice
    rw [show (initial service).service.authorizedDevices = [] from hempty] at hdevice
    cases hdevice
  · intro device hdevice
    rw [show (initial service).service.authorizedDevices = [] from hempty] at hdevice
    cases hdevice

/-- The authorization state is exact in every run on a clock that does not go back, if no request is denied
to an address with a stored level and none evicts an address where the clock has wrapped between two
authorisations. -/
theorem authorization_exact {service : AuthorizationService}
    (hempty : service.authorizedDevices = []) (hclock : service.logicalClock = 0)
    (calls : List AuthorizationCall) (hclocked : Along step Clocked (initial service) calls)
    (hregular : Along step Regular (initial service) calls) :
    Along step Exact (initial service) calls := by
  refine along_of_along ?_ ?_ (follows_initial hempty hclock) (hclocked.and hregular)
  · intro w call h hcall
    exact (h.step hcall.1 hcall.2).1
  · intro w call h hcall
    exact (h.step hcall.1 hcall.2).2

/-- A service with a time source and keys. -/
def keyed : AuthorizationService :=
  { hasTimeSource := true
    keysConfigured := true
    maximumKey := [1, 2, 3, 4] }

/-- Seventeen addresses are authorised one after the other, and the first one is evicted for the last. -/
def authorizedInTurn : List AuthorizationCall :=
  (List.range 17).map (fun index =>
      AuthorizationCall.handleRequest ⟨0x1101 + UInt16.ofNat index⟩ [1, 2, 3, 4] (5 + index))
    ++ [.getCurrentLevel ⟨0x1101⟩ 30, .getCurrentLevel ⟨0x1111⟩ 31, .clearAuthorization ⟨0x1102⟩,
      .handleRequest ⟨0x1101⟩ [9, 9, 9, 9] 40]

theorem authorized_in_turn : Along step Exact (initial keyed) authorizedInTurn :=
  authorization_exact rfl rfl authorizedInTurn (by decide +kernel) (by decide +kernel)

/-- A request with a wrong key after one with the right one. -/
def deniedAgain : List AuthorizationCall :=
  [.handleRequest ⟨0x1101⟩ [1, 2, 3, 4] 5, .handleRequest ⟨0x1101⟩ [9, 9, 9, 9] 6,
    .getCurrentLevel ⟨0x1101⟩ 7]

/-- Fifteen addresses are authorised before the clock wraps, one after it, and then another one. -/
def authorizedAcrossWrap : List AuthorizationCall :=
  (List.range 15).map (fun index =>
      AuthorizationCall.handleRequest ⟨0x1101 + UInt16.ofNat index⟩ [] (2 ^ 32 - 20 + index))
    ++ [.handleRequest ⟨0x1201⟩ [] (2 ^ 32 + 1), .handleRequest ⟨0x1202⟩ [] (2 ^ 32 + 2)]

/-- The state is not exact after a denial of an address that is stored: the level of the earlier grant is
reported. And the newest address is evicted after the clock has wrapped. -/
theorem authorization_inexact :
    (Along step Clocked (initial keyed) deniedAgain
        ∧ ¬ Along step Exact (initial keyed) deniedAgain)
      ∧ Along step Clocked (initial { hasTimeSource := true }) authorizedAcrossWrap
        ∧ ¬ Along step Exact (initial { hasTimeSource := true }) authorizedAcrossWrap := by
  refine ⟨⟨by decide +kernel, ?_⟩, by decide +kernel, ?_⟩
  · rintro ⟨-, -, ⟨-, hlevel⟩, -⟩
    exact absurd hlevel (by decide +kernel)
  · intro h
    obtain ⟨⟨-, hevicts⟩, -⟩ := h.2.2.2.2.2.2.2.2.2.2.2.2.2.2.2.2
    obtain ⟨-, -, holdest⟩ := hevicts ⟨0x1201⟩ (by decide +kernel) (by decide +kernel)
    exact absurd (holdest ⟨0x1101⟩ (by decide +kernel)) (by decide +kernel)

end Observed

end KnxStack.Application
