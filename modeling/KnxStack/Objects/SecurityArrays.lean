import KnxStack.Lib.Runs
import KnxStack.Objects.SecurityObject

/-!
# The tables of the Security Interface Object as arrays

Seven properties of the object are octet strings that are written and read as arrays of elements
(`readBlobProperty`, `writeBlobProperty`, `countBlobProperty`, `resizeBlobProperty`). `Contents` is an
array in its own terms, and `Download` runs the object beside what its arrays should hold.

`Holds` ties the two, and `arrays_kept` has it in every run in which no length is set that leaves an
element with a value: the octet string is filled anew then, also where it is kept.
-/

set_option autoImplicit false

namespace KnxStack.Objects

open KnxStack.Lib KnxStack.Lib.Octets KnxStack.Lib.Words

/-! ## Arrays -/

/-- An array that grows as it is written: its length, and every element, blank where there is none. -/
structure Contents where
  length : Nat
  element : Nat → List UInt8

namespace Contents

/-- The array of no elements, of the given size each. -/
def empty (size : Nat) : Contents := { length := 0, element := fun _ => List.replicate size 0 }

/-- Some elements are written, from a start on. -/
def write (c : Contents) (size start : Nat) (value : List UInt8) : Contents where
  length := max c.length (start + value.length / size)
  element := fun j =>
    if start ≤ j ∧ j < start + value.length / size then slice value ((j - start) * size) size
    else c.element j

/-- A length is set: what is left of the old elements stays, and the rest is zero. -/
def setLength (c : Contents) (size n : Nat) : Contents where
  length := n
  element := fun j => if j < min n c.length then c.element j else List.replicate size 0

end Contents

theorem element_end_le {j n : Nat} (size : Nat) (h : j < n) : j * size + size ≤ n * size := by
  rw [← Nat.succ_mul]
  exact Nat.mul_le_mul_right size h

/-! ## The properties -/

/-- The properties whose handlers are those of an octet string. -/
def SecurityProperty.isBlob : SecurityProperty → Bool
  | .p2pKeyTable => true
  | .groupKeyTable => true
  | .securityIndividualAddressTable => true
  | .securityReport => true
  | .securityReportControl => true
  | .zoneKeyTable => true
  | .goSecurityFlags => true
  | _ => false

/-- `BlobPropertyInfo`. -/
abbrev BlobProperty : Type := { p : SecurityProperty // p.isBlob = true }

namespace BlobProperty

theorem handler_isSome (p : BlobProperty) : p.1.handler.isSome = true := by
  obtain ⟨p, hp⟩ := p
  cases p <;> first | rfl | cases hp

/-- The handler. -/
def handler (p : BlobProperty) : PropertyHandler := p.1.handler.get p.handler_isSome

theorem handler_eq (p : BlobProperty) : p.1.handler = some p.handler :=
  (Option.some_get p.handler_isSome).symm

/-- `elementSize`. -/
def elementSize (p : BlobProperty) : Nat := p.handler.elementSize

theorem elementSize_pos (p : BlobProperty) : 0 < p.elementSize := by
  obtain ⟨p, hp⟩ := p
  cases p <;> cases hp <;> decide

theorem control_handler (p : BlobProperty) : p.handler.control = false := by
  obtain ⟨p, hp⟩ := p
  cases p <;> cases hp <;> decide

theorem maxElements_handler_le (p : BlobProperty) : p.handler.maxElements ≤ 0xFFFF := by
  obtain ⟨p, hp⟩ := p
  cases p <;> cases hp <;> decide

end BlobProperty

namespace SecurityInterfaceObject

variable {o o' : SecurityInterfaceObject} {p : BlobProperty}

/-- The octet string of a property, empty when there is none. -/
def blobOf (o : SecurityInterfaceObject) (p : BlobProperty) : List UInt8 :=
  (o.extraProperties p.1).getD []

theorem blobOf_setExtraProperty_self (blob : List UInt8) :
    (o.setExtraProperty p.1 blob).blobOf p = blob := by
  simp [blobOf, setExtraProperty]

theorem blobOf_setExtraProperty_of_ne {q : BlobProperty} (hq : q ≠ p) (blob : List UInt8) :
    (o.setExtraProperty p.1 blob).extraProperties q.1 = o.extraProperties q.1 := by
  have hne : q.1 ≠ p.1 := fun h => hq (Subtype.ext h)
  simp [setExtraProperty, hne]

theorem writeElements_blob (o : SecurityInterfaceObject) (p : BlobProperty) (start elementCount : Nat)
    (value : List UInt8) :
    o.writeElements p.1 p.handler start elementCount value
      = some (o.setExtraProperty p.1 (writeBlob (o.blobOf p) (start * p.elementSize)
          (value.take (elementCount * p.elementSize)))) := by
  obtain ⟨p, hp⟩ := p
  cases p <;> first | rfl | cases hp

theorem readElements_blob (o : SecurityInterfaceObject) (p : BlobProperty)
    (start elementCount : Nat) :
    o.readElements p.1 p.handler start elementCount
      = match o.extraProperties p.1 with
        | none => some (List.replicate (elementCount * p.elementSize) 0)
        | some blob =>
            if blob.length < start * p.elementSize + elementCount * p.elementSize then none
            else some (slice blob (start * p.elementSize) (elementCount * p.elementSize)) := by
  obtain ⟨p, hp⟩ := p
  cases p <;> first | rfl | cases hp

/-! ## Objects that hold an array -/

/-- The octet string of a property is the elements of an array, one after the other. -/
structure Holds (o : SecurityInterfaceObject) (p : BlobProperty) (c : Contents) : Prop where
  size : (o.blobOf p).length = c.length * p.elementSize
  element : ∀ j < c.length, slice (o.blobOf p) (j * p.elementSize) p.elementSize = c.element j
  blank : ∀ j, c.length ≤ j → c.element j = List.replicate p.elementSize 0
  bounded : c.length ≤ p.handler.maxElements

/-- A write of elements: the octet string takes the data as a whole, for a count that is not cut. -/
theorem writeProperty_elements {index : Nat} {value : List UInt8}
    (hcut : value.length / p.elementSize < 2 ^ 16 ∨ value.length % p.elementSize ≠ 0
      ∨ p.handler.maxElements < index + value.length / p.elementSize % 2 ^ 16)
    (h : o.writeProperty p.1 (index + 1) value = some o') :
    value.length % p.elementSize = 0 ∧ index + value.length / p.elementSize ≤ p.handler.maxElements
      ∧ o' = o.setExtraProperty p.1 (writeBlob (o.blobOf p) (index * p.elementSize) value) := by
  obtain ⟨handler, hhandler, ⟨hzero, -⟩ | ⟨-, hcontrol, -⟩ | ⟨-, -, hwhole, hlast, hwritten⟩⟩ :=
    writeProperty_cases h
  · exact absurd hzero (Nat.succ_ne_zero index)
  · obtain rfl := Option.some.inj (p.handler_eq.symm.trans hhandler)
    rw [p.control_handler] at hcontrol
    cases hcontrol
  · obtain rfl := Option.some.inj (p.handler_eq.symm.trans hhandler)
    rw [Nat.add_sub_cancel] at hlast hwritten
    change value.length % p.elementSize = 0 at hwhole
    change index + value.length / p.elementSize % 2 ^ 16 ≤ _ at hlast
    have hfew : value.length / p.elementSize < 2 ^ 16 := by
      rcases hcut with hfew | hpart | hlarge
      · exact hfew
      · exact absurd hwhole hpart
      · exact absurd hlast (Nat.not_le.mpr hlarge)
    have hall : value.length / p.elementSize * p.elementSize = value.length :=
      Nat.div_mul_cancel (Nat.dvd_of_mod_eq_zero hwhole)
    rw [writeElements_blob] at hwritten
    change some (o.setExtraProperty p.1 (writeBlob _ _
      (value.take (value.length / p.elementSize % 2 ^ 16 * p.elementSize)))) = _ at hwritten
    rw [Nat.mod_eq_of_lt hfew] at hlast hwritten
    rw [hall, List.take_length, Option.some.injEq] at hwritten
    exact ⟨hwhole, hlast, hwritten.symm⟩

theorem Holds.write {c : Contents} {index : Nat} {value : List UInt8} (hc : o.Holds p c)
    (hwhole : value.length % p.elementSize = 0)
    (hlast : index + value.length / p.elementSize ≤ p.handler.maxElements) :
    (o.setExtraProperty p.1 (writeBlob (o.blobOf p) (index * p.elementSize) value)).Holds p
      (c.write p.elementSize index value) := by
  have hall : value.length / p.elementSize * p.elementSize = value.length :=
    Nat.div_mul_cancel (Nat.dvd_of_mod_eq_zero hwhole)
  have hend : index * p.elementSize + value.length
      = (index + value.length / p.elementSize) * p.elementSize := by
    rw [Nat.add_mul, hall]
  have hsize := hc.size
  -- the string before the data is put into it
  have hpadded : index * p.elementSize + value.length ≤ (o.blobOf p ++
      List.replicate (index * p.elementSize + value.length - (o.blobOf p).length) 0).length := by
    rw [List.length_append, List.length_replicate]
    omega
  refine ⟨?_, ?_, ?_, ?_⟩
  · rw [blobOf_setExtraProperty_self, length_writeBlob, hsize, hend, Nat.mul_max_mul_right]
    rfl
  · intro j hj
    rw [blobOf_setExtraProperty_self, writeBlob]
    by_cases hinside : index ≤ j ∧ j < index + value.length / p.elementSize
    · have hoffset : j * p.elementSize
          = index * p.elementSize + (j - index) * p.elementSize := by
        rw [← Nat.add_mul, Nat.add_sub_cancel' hinside.1]
      have hpart := element_end_le p.elementSize (show j - index < value.length / p.elementSize by omega)
      rw [hall] at hpart
      rw [hoffset, slice_overwrite_inside hpadded hpart, Contents.write]
      exact (if_pos hinside).symm
    · have hdisjoint : j * p.elementSize + p.elementSize ≤ index * p.elementSize
          ∨ index * p.elementSize + value.length ≤ j * p.elementSize := by
        by_cases hbefore : j < index
        · exact .inl (element_end_le p.elementSize hbefore)
        · rw [hend]
          exact .inr (Nat.mul_le_mul_right _ (by omega))
      have helement : (c.write p.elementSize index value).element j = c.element j := if_neg hinside
      rw [slice_overwrite_of_disjoint hpadded hdisjoint, helement]
      by_cases hold : j < c.length
      · have hpart := element_end_le p.elementSize hold
        rw [slice_append_left (by omega), hc.element j hold]
      · -- an element that came into existence with the write
        have hinsideNew : j < index + value.length / p.elementSize := by
          rcases lt_max_iff.mp hj with hlt | hlt
          · exact absurd hlt hold
          · exact hlt
        have hnew := element_end_le p.elementSize hinsideNew
        have hstart := Nat.mul_le_mul_right p.elementSize (Nat.not_lt.mp hold)
        rw [← hend] at hnew
        rw [slice_append_right (by omega), slice_replicate 0 (by omega),
          hc.blank j (Nat.not_lt.mp hold)]
  · intro j hj
    have hout : ¬ (index ≤ j ∧ j < index + value.length / p.elementSize) := by
      have hle : index + value.length / p.elementSize ≤ j := Nat.le_trans (Nat.le_max_right _ _) hj
      omega
    have helement : (c.write p.elementSize index value).element j = c.element j := if_neg hout
    rw [helement]
    exact hc.blank j (Nat.le_trans (Nat.le_max_left _ _) hj)
  · exact Nat.max_le.mpr ⟨hc.bounded, hlast⟩

theorem writeProperty_length {value : List UInt8} (h : o.writeProperty p.1 0 value = some o') :
    p.handler.resizable = true ∧ ofOctets value ≤ p.handler.maxElements
      ∧ o' = o.setExtraProperty p.1 (List.replicate (ofOctets value * p.elementSize) 0) := by
  obtain ⟨handler, hhandler, ⟨-, hresized⟩ | ⟨hone, -⟩ | ⟨hpos, -⟩⟩ := writeProperty_cases h
  · obtain rfl := Option.some.inj (p.handler_eq.symm.trans hhandler)
    rw [resizeProperty] at hresized
    split at hresized
    · cases hresized
    · rename_i hallowed
      simp only [not_or, Nat.not_lt, Bool.not_eq_true, Bool.not_eq_false'] at hallowed
      exact ⟨hallowed.2.1, hallowed.2.2, (Option.some.inj hresized).symm⟩
  · cases hone
  · exact absurd hpos (Nat.lt_irrefl 0)

theorem Holds.setLength {c : Contents} {n : Nat} (hc : o.Holds p c)
    (hn : n ≤ p.handler.maxElements)
    (hzero : ∀ octet ∈ (o.blobOf p).take (n * p.elementSize), octet = 0) :
    (o.setExtraProperty p.1 (List.replicate (n * p.elementSize) 0)).Holds p
      (c.setLength p.elementSize n) := by
  -- The write replaces everything by zeros, so what is kept has to be zero already.
  have hkept : ∀ j, (c.setLength p.elementSize n).element j = List.replicate p.elementSize 0 := by
    intro j
    rw [Contents.setLength]
    dsimp only
    split
    · rename_i hj
      have hold := element_end_le p.elementSize (Nat.lt_of_lt_of_le hj (Nat.min_le_right _ _))
      have hnew := element_end_le p.elementSize (Nat.lt_of_lt_of_le hj (Nat.min_le_left _ _))
      rw [← hc.element j (Nat.lt_of_lt_of_le hj (Nat.min_le_right _ _))]
      exact slice_eq_zeros hzero hnew (by rw [hc.size]; exact hold)
    · rfl
  refine ⟨?_, ?_, fun j _ => hkept j, hn⟩
  · rw [blobOf_setExtraProperty_self, List.length_replicate]
    rfl
  · intro j hj
    have hend : j * p.elementSize + p.elementSize ≤ n * p.elementSize :=
      element_end_le p.elementSize hj
    rw [blobOf_setExtraProperty_self, slice_replicate 0 hend, hkept]

theorem Holds.of_eq {c : Contents} (hc : o.Holds p c)
    (h : o'.extraProperties p.1 = o.extraProperties p.1) : o'.Holds p c := by
  have hblob : o'.blobOf p = o.blobOf p := congrArg (Option.getD · []) h
  exact ⟨hblob ▸ hc.size, hblob ▸ hc.element, hc.blank, hc.bounded⟩

theorem Holds.read {c : Contents} {index elementCount : Nat} {octets : List UInt8}
    (hc : o.Holds p c) (h : o.readProperty p.1 (index + 1) elementCount = some octets) :
    octets.length = elementCount * p.elementSize
      ∧ ∀ i < elementCount, slice octets (i * p.elementSize) p.elementSize = c.element (index + i) := by
  rw [readProperty, p.handler_eq] at h
  dsimp only at h
  split at h
  · cases h
  split at h
  · omega
  split at h
  · cases h
  split at h
  · cases h
  rw [readElements_blob, Nat.add_sub_cancel] at h
  have hsize := hc.size
  have helement := hc.element
  rw [blobOf] at hsize helement
  -- A property that was never written answers with zeros of the length asked for.
  cases hblob : o.extraProperties p.1 with
  | none =>
    rw [hblob] at h hsize
    obtain rfl := Option.some.inj h
    have hnone : c.length = 0 := by
      rcases Nat.mul_eq_zero.mp hsize.symm with hzero | hzero
      · exact hzero
      · exact absurd hzero (Nat.ne_of_gt p.elementSize_pos)
    refine ⟨List.length_replicate, ?_⟩
    intro i hi
    rw [slice_replicate 0 (element_end_le p.elementSize hi), hc.blank _ (by omega)]
  | some blob =>
    rw [hblob] at h hsize helement
    dsimp only [Option.getD_some] at h hsize helement
    split at h
    · cases h
    · rename_i hinside
      obtain rfl := Option.some.inj h
      rw [← Nat.add_mul, hsize, Nat.not_lt] at hinside
      have hlast : index + elementCount ≤ c.length :=
        Nat.le_of_mul_le_mul_right hinside p.elementSize_pos
      constructor
      · rw [slice, List.length_take, List.length_drop, hsize]
        have hmul := Nat.mul_le_mul_right p.elementSize hlast
        rw [Nat.add_mul] at hmul
        omega
      · intro i hi
        rw [slice_slice (element_end_le p.elementSize hi), ← Nat.add_mul, helement _ (by omega)]

theorem Holds.answered {c : Contents} {index elementCount : Nat} (hc : o.Holds p c)
    (hsome : elementCount ≠ 0) (hinside : index + elementCount ≤ c.length)
    (hroom : elementCount * p.elementSize ≤ 254) :
    ∃ octets, o.readProperty p.1 (index + 1) elementCount = some octets := by
  have hsize := hc.size
  have hbounded := hc.bounded
  have hend := Nat.mul_le_mul_right p.elementSize hinside
  rw [Nat.add_mul, ← hsize, blobOf] at hend
  change elementCount * p.handler.elementSize ≤ 254 at hroom
  rw [readProperty, if_neg hsome, p.handler_eq]
  dsimp only
  rw [if_neg (Nat.succ_ne_zero index), if_neg (by omega), if_neg (Nat.not_lt.mpr hroom),
    readElements_blob, Nat.add_sub_cancel]
  cases hblob : o.extraProperties p.1 with
  | none => exact ⟨_, rfl⟩
  | some blob =>
    rw [hblob] at hend
    exact ⟨_, if_neg (Nat.not_lt.mpr hend)⟩

theorem Holds.count {c : Contents} (hc : o.Holds p c) (hresizable : p.handler.resizable = true)
    {elementCount : Nat} (hsome : elementCount ≠ 0) :
    o.readProperty p.1 0 elementCount = some (toOctets 2 c.length) := by
  have hsize := hc.size
  have hbounded := Nat.le_trans hc.bounded p.maxElements_handler_le
  rw [blobOf] at hsize
  rw [readProperty, if_neg hsome, p.handler_eq]
  dsimp only
  rw [if_pos rfl, propertyElementCount, if_pos hresizable, hsize]
  change some (toOctets 2 (c.length * p.elementSize / p.elementSize % 2 ^ 16)) = _
  rw [Nat.mul_div_cancel _ p.elementSize_pos, Nat.mod_eq_of_lt (by omega)]

/-! ## Runs -/

end SecurityInterfaceObject

/-- What a management client does to the arrays. Elements count from zero here. -/
inductive ArrayOp where
  | write (p : BlobProperty) (index : Nat) (value : List UInt8)
  | setLength (p : BlobProperty) (n : UInt16)
  | read (p : BlobProperty) (index elementCount : Nat)

/-- The object, and the arrays as the operations that it accepted should have left them. -/
structure Download where
  object : SecurityInterfaceObject := {}
  contents : BlobProperty → Contents := fun p => .empty p.elementSize

namespace Download

/-- One operation. -/
def step (d : Download) : ArrayOp → Download
  | .write p index value =>
      match d.object.writeProperty p.1 (index + 1) value with
      | none => d
      | some object =>
          { object := object
            contents := Function.update d.contents p
              ((d.contents p).write p.elementSize index value) }
  | .setLength p n =>
      match d.object.writeProperty p.1 0 (toOctets 2 n.toNat) with
      | none => d
      | some object =>
          { object := object
            contents := Function.update d.contents p
              ((d.contents p).setLength p.elementSize n.toNat) }
  | .read .. => d

/-- The client sees the arrays: a read inside one is answered, unless it does not fit the buffer, and
what is answered is its elements. -/
structure AsArrays (d : Download) : Prop where
  answered : ∀ (p : BlobProperty) (index elementCount : Nat), elementCount ≠ 0 →
    index + elementCount ≤ (d.contents p).length → elementCount * p.elementSize ≤ 254 →
      ∃ octets, d.object.readProperty p.1 (index + 1) elementCount = some octets
  elements : ∀ (p : BlobProperty) (index elementCount : Nat) (octets : List UInt8),
    d.object.readProperty p.1 (index + 1) elementCount = some octets →
      octets.length = elementCount * p.elementSize
        ∧ ∀ i < elementCount,
            slice octets (i * p.elementSize) p.elementSize = (d.contents p).element (index + i)
  count : ∀ (p : BlobProperty) (elementCount : Nat), p.handler.resizable = true →
    elementCount ≠ 0 →
      d.object.readProperty p.1 0 elementCount = some (toOctets 2 (d.contents p).length)

/-- A write is not cut to the remainder of its number of elements, and a length keeps zeros only. -/
def Sound (d : Download) : ArrayOp → Prop
  | .write p index value =>
      value.length / p.elementSize < 2 ^ 16 ∨ value.length % p.elementSize ≠ 0
        ∨ p.handler.maxElements < index + value.length / p.elementSize % 2 ^ 16
  | .setLength p n =>
      p.handler.resizable = true →
        ∀ octet ∈ (d.object.blobOf p).take (n.toNat * p.elementSize), octet = 0
  | .read .. => True

/-- The invariant of such runs. -/
def Consistent (d : Download) : Prop := ∀ p, d.object.Holds p (d.contents p)

theorem consistent_initial : ({} : Download).Consistent := by
  intro p
  refine ⟨(Nat.zero_mul _).symm, fun j hj => absurd hj (Nat.not_lt_zero j), fun _ _ => rfl, ?_⟩
  exact Nat.zero_le _

theorem Consistent.update {d : Download} (hd : d.Consistent) {p : BlobProperty} {blob : List UInt8}
    {c : Contents} (hp : (d.object.setExtraProperty p.1 blob).Holds p c) :
    ({ object := d.object.setExtraProperty p.1 blob,
       contents := Function.update d.contents p c } : Download).Consistent := by
  intro q
  by_cases hq : q = p
  · subst hq
    change (d.object.setExtraProperty q.1 blob).Holds q (Function.update d.contents q c q)
    rw [Function.update_self]
    exact hp
  · change (d.object.setExtraProperty p.1 blob).Holds q (Function.update d.contents p c q)
    rw [Function.update_of_ne hq]
    exact (hd q).of_eq (SecurityInterfaceObject.blobOf_setExtraProperty_of_ne hq blob)

theorem ofOctets_length (n : UInt16) : ofOctets (toOctets 2 n.toNat) = n.toNat := by
  rw [ofOctets_toOctets]
  exact Nat.mod_eq_of_lt n.toNat_lt

theorem Consistent.step {d : Download} (hd : d.Consistent) {op : ArrayOp} (h : d.Sound op) :
    (d.step op).Consistent := by
  cases op with
  | read p index elementCount => exact hd
  | write p index value =>
    rw [Download.step]
    cases hwrite : d.object.writeProperty p.1 (index + 1) value with
    | none => exact hd
    | some object =>
      obtain ⟨hwhole, hlast, rfl⟩ := SecurityInterfaceObject.writeProperty_elements h hwrite
      exact hd.update ((hd p).write hwhole hlast)
  | setLength p n =>
    rw [Download.step]
    cases hwrite : d.object.writeProperty p.1 0 (toOctets 2 n.toNat) with
    | none => exact hd
    | some object =>
      obtain ⟨hresizable, hmax, rfl⟩ := SecurityInterfaceObject.writeProperty_length hwrite
      rw [ofOctets_length] at hmax ⊢
      exact hd.update ((hd p).setLength hmax (h hresizable))

theorem Consistent.asArrays {d : Download} (hd : d.Consistent) : d.AsArrays where
  answered := fun p _ _ hsome hinside hroom => (hd p).answered hsome hinside hroom
  elements := fun p _ _ _ hread => (hd p).read hread
  count := fun p _ hresizable hsome => (hd p).count hresizable hsome

/-- Arrays kept. In a run whose lengths keep zeros only, and whose writes are of fewer than
`2 ^ 16` elements, every property reads as its array. -/
theorem arrays_kept {ops : List ArrayOp} (h : Along step Sound {} ops) :
    (run step {} ops).AsArrays :=
  (run_invariant_along (fun _ _ hd hop => hd.step hop) consistent_initial h).asArrays

/-- The group key table. -/
def groupKeyTable : BlobProperty := ⟨.groupKeyTable, rfl⟩

/-- A download that clears a table and writes two entries of it. -/
theorem arrays_kept_two_entries :
    (run step {} [.setLength groupKeyTable 0,
      .write groupKeyTable 0 (List.replicate 18 0x11 ++ List.replicate 18 0x22)]).AsArrays :=
  arrays_kept ⟨fun _ octet hmem => absurd hmem (by simp [SecurityInterfaceObject.blobOf]),
    .inl (by decide), trivial⟩

/-- The flags of the group objects. -/
def goSecurityFlags : BlobProperty := ⟨.goSecurityFlags, rfl⟩

/-- Two elements are written and the length is set to one: the element that should be kept reads as
zero. -/
theorem shortened_reads_zero : ¬ ∀ ops : List ArrayOp, (run step {} ops).AsArrays := by
  intro h
  have helements := (h [.write goSecurityFlags 0 [0x11, 0x22],
    .setLength goSecurityFlags 1]).elements goSecurityFlags 0 1 [0] (by decide +kernel)
  have hfirst := helements.2 0 (by decide)
  revert hfirst
  decide

end Download

end KnxStack.Objects
