import Mathlib.Data.Fintype.Sigma
import Mathlib.Data.Fintype.Sum
import Mathlib.Tactic.DeriveFintype
import KnxStack.Lib.EdgeTree
import KnxStack.Network.CouplerRouting

/-!
# Individually addressed frames in the standard topology

The standard topology has one backbone, a main line for each area and fifteen lines on each main
line. A backbone coupler `x.0.0` joins main line `x.0` to the backbone and a line coupler `x.y.0`
joins line `x.y` to main line `x.0`. Each is a `CouplerRoutingPolicy` that knows its own address and
nothing else.

`decide_eq` says what one such policy decides: a frame for the coupler itself stays there, any other
goes to the other port exactly if its destination lies there. `tree_routing` is what follows for the
whole topology.
-/

set_option autoImplicit false

namespace KnxStack.Network

open KnxStack.Lib KnxStack.Datalink

/-! ## The topology -/

/-- The lines of the standard topology. The number `n` of a `Fin 15` stands for the address part
`n + 1`. -/
inductive Line where
  | backbone
  | mainLine (area : Fin 15)
  | line (area number : Fin 15)
  deriving DecidableEq, Repr

/-- The couplers of the standard topology. -/
inductive Coupler where
  | backboneCoupler (area : Fin 15)
  | lineCoupler (area number : Fin 15)
  deriving DecidableEq, Repr, Fintype

/-- The individual address `area.line.device`. -/
def makeAddress (area line device : Nat) : IndividualAddress :=
  ⟨UInt16.ofNat (area * 4096 + line * 256 + device)⟩

namespace Coupler

/-- Backbone couplers are `x.0.0`, line couplers `x.y.0`. -/
def address : Coupler → IndividualAddress
  | .backboneCoupler x => makeAddress (x + 1) 0 0
  | .lineCoupler x y => makeAddress (x + 1) (y + 1) 0

/-- A policy in its default configuration that has been told its own address. -/
def policy (c : Coupler) : CouplerRoutingPolicy :=
  ({} : CouplerRoutingPolicy).setOwnAddress c.address

/-- The line on the primary (`false`) and on the secondary (`true`) side. -/
def ends : Coupler → Bool → Line
  | .backboneCoupler _, false => .backbone
  | .backboneCoupler x, true => .mainLine x
  | .lineCoupler x _, false => .mainLine x
  | .lineCoupler x y, true => .line x y

/-- The side of a coupler on which a line lies: below it, or not. -/
def side : Coupler → Line → Bool
  | .backboneCoupler _, .backbone => false
  | .backboneCoupler x, .mainLine x' => x = x'
  | .backboneCoupler x, .line x' _ => x = x'
  | .lineCoupler x y, .line x' y' => x = x' ∧ y = y'
  | .lineCoupler _ _, _ => false

end Coupler

/-- The port on a side. -/
def portOn : Bool → CouplerPort
  | false => .primary
  | true => .secondary

/-- The couplers on a line, with the side at which they are on it. -/
def Line.couplers : Line → List (Coupler × Bool)
  | .backbone => (List.finRange 15).map fun x => (.backboneCoupler x, false)
  | .mainLine x =>
      (.backboneCoupler x, true) :: (List.finRange 15).map fun y => (.lineCoupler x y, false)
  | .line x y => [(.lineCoupler x y, true)]

/-- The standard topology is a tree. -/
def topology : EdgeTree Line Coupler where
  ends := Coupler.ends
  side := Coupler.side
  attached := Line.couplers
  mem_attached n c p := by
    cases n <;> cases c <;> cases p <;> simp [Line.couplers, Coupler.ends, eq_comm]
  nodup_attached n := by
    cases n with
    | backbone =>
      show ((List.finRange 15).map fun x => (Coupler.backboneCoupler x, false)).Nodup
      refine (List.nodup_finRange 15).map ?_
      intro x x' h
      simpa using h
    | mainLine x =>
      refine List.nodup_cons.mpr ⟨by simp, (List.nodup_finRange 15).map ?_⟩
      intro y y' h
      simpa using h
    | line x y => exact List.nodup_singleton _
  side_ends c p := by cases c <;> cases p <;> simp [Coupler.side, Coupler.ends]
  side_ends_of_ne c c' p h := by
    cases c <;> cases c' <;> cases p <;> simp_all [Coupler.side, Coupler.ends]
  exists_toward s t h := by
    cases s with
    | backbone =>
      cases t with
      | backbone => exact absurd rfl h
      | mainLine x => exact ⟨.backboneCoupler x, false, rfl, by simp [Coupler.side]⟩
      | line x y => exact ⟨.backboneCoupler x, false, rfl, by simp [Coupler.side]⟩
    | mainLine x =>
      cases t with
      | backbone => exact ⟨.backboneCoupler x, true, rfl, by simp [Coupler.side]⟩
      | mainLine x' =>
        refine ⟨.backboneCoupler x, true, rfl, ?_⟩
        simpa [Coupler.side] using h
      | line x' y =>
        by_cases hx : x = x'
        · subst hx
          exact ⟨.lineCoupler x y, false, rfl, by simp [Coupler.side]⟩
        · exact ⟨.backboneCoupler x, true, rfl, by simpa [Coupler.side] using hx⟩
    | line x y =>
      refine ⟨.lineCoupler x y, true, rfl, ?_⟩
      cases t with
      | backbone => simp [Coupler.side]
      | mainLine x' => simp [Coupler.side]
      | line x' y' =>
        simp only [Coupler.side, ne_eq, decide_eq_true_eq]
        rintro ⟨rfl, rfl⟩
        exact h rfl
  toward_unique c p c' p' t h hside hside' := by
    cases c <;> cases p <;> cases c' <;> cases p' <;> cases t <;>
      simp_all [Coupler.side, Coupler.ends]

/-- The line of an individual address. Area 0 is the backbone. -/
def lineOf (address : IndividualAddress) : Line :=
  if address.area = 0 then .backbone
  else if address.line = 0 then .mainLine (Fin.ofNat 15 (address.area.toNat - 1))
  else .line (Fin.ofNat 15 (address.area.toNat - 1)) (Fin.ofNat 15 (address.line.toNat - 1))

/-! ## Parts of an address -/

theorem toNat_area (a : IndividualAddress) : a.area.toNat = a.raw.toNat / 4096 := by
  have hlt := a.raw.toNat_lt
  rw [IndividualAddress.area]
  simp [Nat.shiftRight_eq_div_pow, Nat.and_two_pow_sub_one_eq_mod _ 4]
  omega

theorem toNat_line (a : IndividualAddress) : a.line.toNat = a.raw.toNat / 256 % 16 := by
  rw [IndividualAddress.line]
  simp [Nat.shiftRight_eq_div_pow, Nat.and_two_pow_sub_one_eq_mod _ 4]

theorem toNat_device (a : IndividualAddress) : a.device.toNat = a.raw.toNat % 256 := by
  rw [IndividualAddress.device]
  simp [Nat.and_two_pow_sub_one_eq_mod _ 8]

theorem toNat_subnetworkOf (a : IndividualAddress) :
    (subnetworkOf a).toNat = a.raw.toNat / 256 := by
  have hlt := a.raw.toNat_lt
  rw [subnetworkOf]
  simp [Nat.shiftRight_eq_div_pow]
  omega

theorem toNat_lineAndDeviceOf (a : IndividualAddress) :
    (lineAndDeviceOf a).toNat = a.raw.toNat % 4096 := by
  rw [lineAndDeviceOf]
  simp [Nat.and_two_pow_sub_one_eq_mod _ 12]

/-- The address parts of a coupler, as one number. -/
def Coupler.number : Coupler → Nat
  | .backboneCoupler x => (x + 1) * 4096
  | .lineCoupler x y => (x + 1) * 4096 + (y + 1) * 256

theorem toNat_address (c : Coupler) : c.address.raw.toNat = c.number := by
  cases c with
  | backboneCoupler x =>
    have hx := x.isLt
    simp [Coupler.address, makeAddress, Coupler.number]
    omega
  | lineCoupler x y =>
    have hx := x.isLt
    have hy := y.isLt
    simp [Coupler.address, makeAddress, Coupler.number]
    omega

theorem isValid_address (c : Coupler) : c.address.isValid = true := by
  have hnat := toNat_address c
  have hne : c.address.raw.toNat ≠ 0 ∧ c.address.raw.toNat ≠ 65535 := by
    rw [hnat]
    cases c with
    | backboneCoupler x => simp only [Coupler.number]; omega
    | lineCoupler x y => simp only [Coupler.number]; omega
  rw [IndividualAddress.isValid, Bool.and_eq_true, bne_iff_ne, bne_iff_ne]
  refine ⟨?_, ?_⟩
  · intro h
    rw [h] at hne
    exact hne.1 rfl
  · intro h
    rw [h] at hne
    exact hne.2 rfl

theorem side_backboneCoupler (x : Fin 15) (a : IndividualAddress) :
    Coupler.side (.backboneCoupler x) (lineOf a) = true
      ↔ a.raw.toNat / 4096 = x + 1 := by
  have hlt := a.raw.toNat_lt
  have harea : a.area = 0 ↔ a.raw.toNat / 4096 = 0 := by
    rw [← UInt8.toNat_inj, toNat_area]
    rfl
  have hx : x = Fin.ofNat 15 (a.area.toNat - 1) ↔ (x : Nat) = a.raw.toNat / 4096 - 1 := by
    rw [Fin.ext_iff, Fin.val_ofNat, toNat_area, Nat.mod_eq_of_lt (by omega)]
  simp only [lineOf, harea]
  split
  · simp only [Coupler.side, Bool.false_eq_true, false_iff]
    omega
  · split
    · rw [Coupler.side, decide_eq_true_eq, hx]
      omega
    · rw [Coupler.side, decide_eq_true_eq, hx]
      omega

theorem side_lineCoupler (x y : Fin 15) (a : IndividualAddress) :
    Coupler.side (.lineCoupler x y) (lineOf a) = true
      ↔ a.raw.toNat / 256 = (x + 1) * 16 + (y + 1) := by
  have hlt := a.raw.toNat_lt
  have hy := y.isLt
  have harea : a.area = 0 ↔ a.raw.toNat / 4096 = 0 := by
    rw [← UInt8.toNat_inj, toNat_area]
    rfl
  have hline : a.line = 0 ↔ a.raw.toNat / 256 % 16 = 0 := by
    rw [← UInt8.toNat_inj, toNat_line]
    rfl
  have hx : x = Fin.ofNat 15 (a.area.toNat - 1) ↔ (x : Nat) = a.raw.toNat / 4096 - 1 := by
    rw [Fin.ext_iff, Fin.val_ofNat, toNat_area, Nat.mod_eq_of_lt (by omega)]
  have hy' : y = Fin.ofNat 15 (a.line.toNat - 1) ↔ (y : Nat) = a.raw.toNat / 256 % 16 - 1 := by
    rw [Fin.ext_iff, Fin.val_ofNat, toNat_line, Nat.mod_eq_of_lt (by omega)]
  simp only [lineOf, harea, hline]
  split
  · simp only [Coupler.side, Bool.false_eq_true, false_iff]
    omega
  · split
    · simp only [Coupler.side, Bool.false_eq_true, false_iff]
      omega
    · rw [Coupler.side, decide_eq_true_eq, hx, hy']
      omega

/-! ## What one coupler decides -/

theorem role_backboneCoupler (x : Fin 15) :
    (Coupler.backboneCoupler x).policy.role = .backboneCoupler := by
  decide +revert

theorem role_lineCoupler (x y : Fin 15) : (Coupler.lineCoupler x y).policy.role = .lineCoupler := by
  decide +revert

theorem routePointToPoint_lineCoupler (x y : Fin 15) (p : Bool) (destination : IndividualAddress)
    (hopCount : UInt8) (hother : destination.raw ≠ (Coupler.lineCoupler x y).address.raw) :
    (Coupler.lineCoupler x y).policy.routePointToPointAsLineCoupler (portOn p) destination hopCount
      = if (Coupler.lineCoupler x y).side (lineOf destination) = p then .ignoreTotally
        else hopAction hopCount := by
  have hown : (Coupler.lineCoupler x y).address.raw.toNat = (x + 1) * 4096 + (y + 1) * 256 :=
    toNat_address _
  have hsame : subnetworkOf destination = subnetworkOf (Coupler.lineCoupler x y).policy.ownAddress
      ↔ (Coupler.lineCoupler x y).side (lineOf destination) = true := by
    rw [side_lineCoupler, ← UInt8.toNat_inj, toNat_subnetworkOf, toNat_subnetworkOf]
    show _ = (Coupler.lineCoupler x y).address.raw.toNat / 256 ↔ _
    omega
  have hdevice : subnetworkOf destination
      = subnetworkOf (Coupler.lineCoupler x y).policy.ownAddress → destination.device ≠ 0 := by
    -- with device part zero the destination would be the coupler itself
    intro hsubnetwork hzero
    apply hother
    rw [hsame, side_lineCoupler] at hsubnetwork
    have hmod : destination.raw.toNat % 256 = 0 := by
      rw [← toNat_device, hzero]
      rfl
    rw [← UInt16.toNat_inj, hown]
    omega
  cases p with
  | false =>
    simp only [portOn, CouplerRoutingPolicy.routePointToPointAsLineCoupler]
    by_cases hbelow : (Coupler.lineCoupler x y).side (lineOf destination) = true
    · have hsubnetwork := hsame.mpr hbelow
      rw [if_neg (not_not.mpr hsubnetwork), if_neg (hdevice hsubnetwork), hbelow]
      rfl
    · rw [if_pos (mt hsame.mp hbelow), if_pos (Bool.eq_false_iff.mpr hbelow)]
  | true =>
    simp only [portOn, CouplerRoutingPolicy.routePointToPointAsLineCoupler]
    by_cases hbelow : (Coupler.lineCoupler x y).side (lineOf destination) = true
    · have hsubnetwork := hsame.mpr hbelow
      rw [if_neg (not_not.mpr hsubnetwork), if_neg (hdevice hsubnetwork), if_pos hbelow]
    · rw [if_pos (mt hsame.mp hbelow), if_neg hbelow]

theorem routePointToPoint_backboneCoupler (x : Fin 15) (p : Bool) (destination : IndividualAddress)
    (hopCount : UInt8) (hother : destination.raw ≠ (Coupler.backboneCoupler x).address.raw) :
    (Coupler.backboneCoupler x).policy.routePointToPointAsBackboneCoupler (portOn p) destination
        hopCount
      = if (Coupler.backboneCoupler x).side (lineOf destination) = p then .ignoreTotally
        else hopAction hopCount := by
  have hown : (Coupler.backboneCoupler x).address.raw.toNat = (x + 1) * 4096 := toNat_address _
  have hsame : destination.area = (Coupler.backboneCoupler x).policy.ownAddress.area
      ↔ (Coupler.backboneCoupler x).side (lineOf destination) = true := by
    rw [side_backboneCoupler, ← UInt8.toNat_inj, toNat_area, toNat_area]
    show _ = (Coupler.backboneCoupler x).address.raw.toNat / 4096 ↔ _
    omega
  have hrest : destination.area = (Coupler.backboneCoupler x).policy.ownAddress.area →
      lineAndDeviceOf destination ≠ 0 := by
    intro harea hzero
    apply hother
    rw [hsame, side_backboneCoupler] at harea
    have hmod : destination.raw.toNat % 4096 = 0 := by
      rw [← toNat_lineAndDeviceOf, hzero]
      rfl
    rw [← UInt16.toNat_inj, hown]
    omega
  cases p with
  | false =>
    simp only [portOn, CouplerRoutingPolicy.routePointToPointAsBackboneCoupler]
    by_cases hbelow : (Coupler.backboneCoupler x).side (lineOf destination) = true
    · have harea := hsame.mpr hbelow
      rw [if_neg (not_not.mpr harea), if_neg (hrest harea), hbelow]
      rfl
    · rw [if_pos (mt hsame.mp hbelow), if_pos (Bool.eq_false_iff.mpr hbelow)]
  | true =>
    simp only [portOn, CouplerRoutingPolicy.routePointToPointAsBackboneCoupler]
    by_cases hbelow : (Coupler.backboneCoupler x).side (lineOf destination) = true
    · have harea := hsame.mpr hbelow
      rw [if_neg (not_not.mpr harea), if_neg (hrest harea), if_pos hbelow]
    · rw [if_pos (mt hsame.mp hbelow), if_neg hbelow]

/-- What one coupler of the topology decides on an individually addressed frame: it keeps what is
for itself, ignores what is for the side it came from, and routes the rest while hops are left. -/
theorem decide_eq (c : Coupler) (p : Bool) (frame : LDataFrame)
    (hpoint : frame.destinationType.isGroupAddress = false) :
    c.policy.decide (portOn p) frame
      = if frame.destination.raw = c.address.raw then .forwardLocally
        else if c.side (lineOf ⟨frame.destination.raw⟩) = p then .ignoreTotally
        else hopAction frame.hopCount := by
  have hclass : classify frame = .pointToPoint := by
    rw [classify, hpoint]
    rfl
  have hphys : (c.policy.lineConfig.at (portOn p)).physFrame = .route := by
    cases p <;> rfl
  rw [CouplerRoutingPolicy.decide, hclass]
  show c.policy.decidePointToPoint (portOn p) frame = _
  rw [CouplerRoutingPolicy.decidePointToPoint, hphys]
  show (if (c.address.isValid && frame.destination.raw == c.address.raw) = true then _ else _) = _
  rw [isValid_address, Bool.true_and]
  by_cases hown : frame.destination.raw = c.address.raw
  · rw [if_pos (beq_iff_eq.mpr hown), if_pos hown]
  · rw [if_neg (mt beq_iff_eq.mp hown), if_neg hown]
    cases c with
    | backboneCoupler x =>
      rw [role_backboneCoupler]
      exact routePointToPoint_backboneCoupler x p _ _ hown
    | lineCoupler x y =>
      rw [role_lineCoupler]
      exact routePointToPoint_lineCoupler x y p _ _ hown

/-! ## A frame in the topology -/

/-- What a coupler puts on its other port when it receives a copy of a frame with the given hop
count: nothing, or a copy with the hop count that its decision leaves. -/
def forwardedHopCount (frame : LDataFrame) (c : Coupler) (p : Bool) (hopCount : UInt8) :
    Option UInt8 :=
  let action := c.policy.decide (portOn p) { frame with hopCount := hopCount }
  if action.isForwardingAction then some (applyHopCount action hopCount) else none

/-- The lines on which copies of a frame are put, each time one is, in `n` rounds of forwarding. -/
def linesVisited (frame : LDataFrame) (source : Line) (n : Nat) : List Line :=
  topology.visited (forwardedHopCount frame) n [⟨source, frame.hopCount, none⟩]

/-- The couplers that decide to keep a frame for themselves, each time one does, with the port and
the hop count. -/
def keptLocally (frame : LDataFrame) (source : Line) (n : Nat) : List (Coupler × Bool × UInt8) :=
  (topology.heard (forwardedHopCount frame) n [⟨source, frame.hopCount, none⟩]).filter
    fun d => d.1.policy.decide (portOn d.2.1) { frame with hopCount := d.2.2 } = .forwardLocally

/-- The hop count after one more coupler. -/
def passedHopCount (hopCount : UInt8) : Option UInt8 :=
  let action := hopAction hopCount
  if action.isForwardingAction then some (applyHopCount action hopCount) else none

theorem passedHopCount_of_pos {hopCount : UInt8} (hpos : 0 < hopCount.toNat) :
    ∃ next, passedHopCount hopCount = some next ∧ hopCount.toNat ≤ next.toNat + 1 := by
  by_cases hunlimited : hopCountUnlimited ≤ hopCount
  · refine ⟨hopCount, ?_, Nat.le_succ _⟩
    rw [passedHopCount, hopAction, if_pos hunlimited]
    rfl
  · have hpos' : 0 < hopCount := UInt8.lt_iff_toNat_lt.mpr hpos
    refine ⟨hopCount - 1, ?_, ?_⟩
    · rw [passedHopCount, hopAction, if_neg hunlimited, if_pos hpos']
      show some (if 0 < hopCount then hopCount - 1 else 0) = _
      rw [if_pos hpos']
    · have h1 : (1 : UInt8).toNat = 1 := rfl
      have hlt := hopCount.toNat_lt
      rw [UInt8.toNat_sub, h1]
      omega

theorem survives_passedHopCount (k : Nat) : ∀ hopCount : UInt8, k ≤ hopCount.toNat →
    EdgeTree.Survives passedHopCount k hopCount := by
  induction k with
  | zero =>
    intro hopCount _
    trivial
  | succ k ih =>
    intro hopCount hle
    obtain ⟨next, hnext, hless⟩ := passedHopCount_of_pos (Nat.lt_of_lt_of_le (Nat.succ_pos k) hle)
    exact ⟨next, hnext, ih next (by omega)⟩

section Frame

variable {frame : LDataFrame} (hpoint : frame.destinationType.isGroupAddress = false)

include hpoint

theorem decide_copy (c : Coupler) (p : Bool) (hopCount : UInt8) :
    c.policy.decide (portOn p) { frame with hopCount := hopCount }
      = if frame.destination.raw = c.address.raw then .forwardLocally
        else if c.side (lineOf ⟨frame.destination.raw⟩) = p then .ignoreTotally
        else hopAction hopCount :=
  decide_eq c p { frame with hopCount := hopCount } hpoint

theorem forwardedHopCount_own {c : Coupler} (hown : frame.destination.raw = c.address.raw) (p : Bool)
    (hopCount : UInt8) : forwardedHopCount frame c p hopCount = none := by
  rw [forwardedHopCount, decide_copy hpoint, if_pos hown]
  rfl

theorem forwardedHopCount_far {c : Coupler} (hother : frame.destination.raw ≠ c.address.raw) {p : Bool}
    (hfar : c.side (lineOf ⟨frame.destination.raw⟩) ≠ p) (hopCount : UInt8) :
    forwardedHopCount frame c p hopCount = passedHopCount hopCount := by
  rw [forwardedHopCount, decide_copy hpoint, if_neg hother, if_neg hfar]
  rfl

theorem forwardedHopCount_near {c : Coupler} {p : Bool}
    (hnear : c.side (lineOf ⟨frame.destination.raw⟩) = p) (hopCount : UInt8) :
    forwardedHopCount frame c p hopCount = none := by
  by_cases hown : frame.destination.raw = c.address.raw
  · exact forwardedHopCount_own hpoint hown p hopCount
  · rw [forwardedHopCount, decide_copy hpoint, if_neg hown, if_pos hnear]
    rfl

theorem routes_to_device (hdevice : ∀ c : Coupler, frame.destination.raw ≠ c.address.raw)
    (source : Line) :
    topology.Routes (forwardedHopCount frame) passedHopCount source
      (lineOf ⟨frame.destination.raw⟩) where
  pass c _ hopCount _ hfar := forwardedHopCount_far hpoint (hdevice c) hfar hopCount
  keep _ _ hopCount hnear := forwardedHopCount_near hpoint hnear hopCount

theorem decide_eq_forwardLocally_iff (c : Coupler) (p : Bool) (hopCount : UInt8) :
    c.policy.decide (portOn p) { frame with hopCount := hopCount } = .forwardLocally
      ↔ frame.destination.raw = c.address.raw := by
  rw [decide_copy hpoint]
  by_cases hown : frame.destination.raw = c.address.raw
  · exact iff_of_true (if_pos hown) hown
  · refine iff_of_false ?_ hown
    rw [if_neg hown]
    split
    · simp
    · rw [hopAction]
      repeat' split
      all_goals simp

end Frame

theorem number_injective {c c' : Coupler} (h : c.address.raw = c'.address.raw) : c = c' := by
  have hnumber : c.number = c'.number := by rw [← toNat_address, ← toNat_address, h]
  cases c with
  | backboneCoupler x =>
    cases c' with
    | backboneCoupler x' =>
      simp only [Coupler.number] at hnumber
      rw [Fin.ext (a := x) (b := x') (by omega)]
    | lineCoupler x' y' =>
      have hy' := y'.isLt
      simp only [Coupler.number] at hnumber
      omega
  | lineCoupler x y =>
    have hy := y.isLt
    cases c' with
    | backboneCoupler x' =>
      simp only [Coupler.number] at hnumber
      omega
    | lineCoupler x' y' =>
      have hy' := y'.isLt
      simp only [Coupler.number] at hnumber
      rw [Fin.ext (a := x) (b := x') (by omega), Fin.ext (a := y) (b := y') (by omega)]

theorem lineOf_address (c : Coupler) : lineOf c.address = c.ends true := by
  cases c <;> decide +revert

theorem routes_to_coupler {frame : LDataFrame}
    (hpoint : frame.destinationType.isGroupAddress = false) {c : Coupler}
    (hown : frame.destination.raw = c.address.raw) (source : Line) :
    topology.Routes (forwardedHopCount frame) passedHopCount source
      (c.ends (c.side source)) := by
  have hside : ∀ c', c' ≠ c →
      c'.side (lineOf ⟨frame.destination.raw⟩) = c'.side (c.ends (c.side source)) := by
    intro c' hne
    have hline : lineOf ⟨frame.destination.raw⟩ = c.ends true := by
      rw [hown]
      exact lineOf_address c
    rw [hline]
    cases c.side source with
    | true => rfl
    | false => exact topology.side_ends_of_ne c' c true hne
  refine ⟨?_, ?_⟩
  · intro c' p hopCount hdivides hfar
    have hne : c' ≠ c := by
      rintro rfl
      exact hdivides (topology.side_ends c' _).symm
    refine forwardedHopCount_far hpoint ?_ ?_ hopCount
    · intro hown'
      exact hne (number_injective (hown'.symm.trans hown))
    · rw [hside c' hne]
      exact hfar
  · intro c' p hopCount hnear
    by_cases hne : c' = c
    · subst hne
      exact forwardedHopCount_own hpoint hown p hopCount
    · refine forwardedHopCount_near hpoint ?_ hopCount
      rw [hside c' hne]
      exact hnear

/-- Tree routing. Between two lines there is one path. A frame for a device with a hop for each
coupler on the path is put on the lines of the path and on no others, each once; and a frame for a
coupler is put on the lines up to the coupler and is then kept by it, once, and by no other. -/
theorem tree_routing (frame : LDataFrame)
    (hpoint : frame.destinationType.isGroupAddress = false) (source : Line) :
    (∀ line, ∃! path, topology.IsPath source line path)
      ∧ ((∀ c : Coupler, frame.destination.raw ≠ c.address.raw) →
          ∀ path, topology.IsPath source (lineOf ⟨frame.destination.raw⟩) path →
            path.length - 1 ≤ frame.hopCount.toNat →
            ∀ n, path.length - 1 ≤ n → linesVisited frame source n = path)
      ∧ ∀ c : Coupler, frame.destination.raw = c.address.raw →
          ∀ path, topology.IsPath source (c.ends (c.side source)) path →
            path.length - 1 ≤ frame.hopCount.toNat →
            ∀ n, path.length - 1 ≤ n → linesVisited frame source n = path
              ∧ ∃ hopCount, keptLocally frame source n = [(c, c.side source, hopCount)] := by
  have hstart : ∀ line, ∀ c ∈ (none : Option Coupler),
      topology.side c source = topology.side c line := by
    intro line c hc
    cases hc
  refine ⟨fun line => EdgeTree.existsUnique_path source line, ?_, ?_⟩
  · intro hdevice path hpath hhops n hn
    exact EdgeTree.visited_eq_path (hpath.toward path) (routes_to_device hpoint hdevice source)
      (hstart _) (survives_passedHopCount _ _ hhops) hn
  · intro c hown path hpath hhops n hn
    have hroutes := routes_to_coupler hpoint hown source
    have hwalk := hpath.toward path
    have hsurvives := survives_passedHopCount _ _ hhops
    have hend : topology.side c (c.ends (c.side source)) = c.side source :=
      topology.side_ends c (c.side source)
    refine ⟨EdgeTree.visited_eq_path hwalk hroutes (hstart _) hsurvives hn, ?_⟩
    obtain ⟨hopCount, hheard⟩ := EdgeTree.heard_eq_singleton hwalk (c := c) (by rw [hend]; rfl)
      hroutes hend.symm (by simp) (hstart _) hsurvives hn
    refine ⟨hopCount, ?_⟩
    have hkept : ∀ d : Coupler × Bool × UInt8,
        decide (d.1.policy.decide (portOn d.2.1) { frame with hopCount := d.2.2 } = .forwardLocally)
          = decide (d.1 = c) := by
      rintro ⟨c', p, hopCount'⟩
      refine decide_eq_decide.mpr ?_
      rw [decide_eq_forwardLocally_iff hpoint c' p hopCount']
      constructor
      · intro hown'
        exact number_injective (hown'.symm.trans hown)
      · rintro rfl
        exact hown
    rw [keptLocally, List.filter_congr fun d _ => hkept d, hheard, hend]

/-- A frame with four hops. -/
def fourHopFrame (destination : IndividualAddress) : LDataFrame :=
  { source := makeAddress 1 1 7, destination := ⟨destination.raw⟩, destinationType := .individual,
    hopCount := 4, tpdu := ⟨[0x03, 0x00], by decide⟩ }

theorem tree_routing_across_areas :
    linesVisited (fourHopFrame (makeAddress 2 3 5)) (.line 0 0) 9
        = [.line 0 0, .mainLine 0, .backbone, .mainLine 1, .line 1 2]
      ∧ ∃ hopCount, keptLocally (fourHopFrame (makeAddress 2 3 0)) (.line 0 0) 9
          = [(.lineCoupler 1 2, false, hopCount)] := by
  have hadj : ∀ (c : Coupler) (p : Bool), topology.Adj (c.ends p) (c.ends (!p)) :=
    fun c p => ⟨c, p, rfl, rfl⟩
  have hup : topology.IsPath (.line 0 0) (.mainLine 1)
      [.line 0 0, .mainLine 0, .backbone, .mainLine 1] :=
    { head := rfl
      last := rfl
      chain := .cons_cons (hadj (.lineCoupler 0 0) true) (.cons_cons (hadj (.backboneCoupler 0) true)
        (.cons_cons (hadj (.backboneCoupler 1) false) (.singleton _)))
      nodup := by decide }
  have hdown : topology.IsPath (.line 0 0) (.line 1 2)
      [.line 0 0, .mainLine 0, .backbone, .mainLine 1, .line 1 2] :=
    { head := rfl
      last := rfl
      chain := .cons_cons (hadj (.lineCoupler 0 0) true) (.cons_cons (hadj (.backboneCoupler 0) true)
        (.cons_cons (hadj (.backboneCoupler 1) false)
          (.cons_cons (hadj (.lineCoupler 1 2) false) (.singleton _))))
      nodup := by decide }
  have hdevice : ∀ c : Coupler, (makeAddress 2 3 5).raw ≠ c.address.raw := by
    intro c h
    have hnumber : 8965 = c.number := (congrArg UInt16.toNat h).trans (toNat_address c)
    cases c <;> simp only [Coupler.number] at hnumber <;> omega
  refine ⟨?_, ?_⟩
  · exact (tree_routing (fourHopFrame (makeAddress 2 3 5)) rfl (.line 0 0)).2.1 hdevice _ hdown
      (by decide) 9 (by decide)
  · exact ((tree_routing (fourHopFrame (makeAddress 2 3 0)) rfl (.line 0 0)).2.2 (.lineCoupler 1 2)
      rfl _ hup (by decide) 9 (by decide)).2

end KnxStack.Network
