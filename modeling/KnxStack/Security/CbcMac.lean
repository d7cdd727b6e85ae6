import KnxStack.Lib.Blocks
import KnxStack.Security.SecureApplicationLayer

/-!
# The streaming authentication code

`Aes128CbcMac::compute` (`security/aes128_cbc_mac.cpp`) takes its input octet by octet. One buffer of
sixteen octets collects them and also receives the exclusive or of a full block with the chain, so that
from the second block on it is filled over octets of the block before. `macOf` is the CBC-MAC of a whole
message, block by block from the zero block on.

- `xorChain_eq`: the exclusive or is the same whether the buffer is its own input or not.
- `Streamed.appendByte`, `Streamed.appendBytes`: what the chain and the buffer hold behind every octet.
- `compute_eq_macOf`: the code that comes out.
- `cbcMac_eq_macOf`: the block-wise form that the secure application layer is modelled with.
-/

set_option autoImplicit false

namespace KnxStack.Security.CbcMac

open KnxStack.Lib.Blocks KnxStack.Lib.Octets KnxStack.Objects

/-! ## The source -/

/-- `Block`. -/
abbrev Block : Type := Vector UInt8 16

/-- `Aes128BlockCipher`. -/
structure Aes128BlockCipher where
  setKey : Key → Result Unit
  encryptBlock : Key → Block → Result Block

/-- Where `processBlock` reads: another block, or the buffer that it writes. -/
inductive Input where
  | other (block : Block)
  | buffer

/-- The block that is read, while the buffer holds `block`. -/
def Input.read (input : Input) (block : Block) : Block :=
  match input with
  | .other source => source
  | .buffer => block

/-- The variables of `compute`. -/
structure MacState where
  chain : Block
  block : Block
  blockFill : Fin 16

/-- The loop of `processBlock`. -/
def xorChain (input : Input) (chain block : Block) : Block :=
  (List.finRange 16).foldl
    (fun block (i : Fin 16) => block.set i ((input.read block)[i] ^^^ chain[i])) block

/-- `processBlock`. -/
def processBlock (aes : Aes128BlockCipher) (key : Key) (s : MacState) (input : Input) :
    Result MacState := do
  let block := xorChain input s.chain s.block
  let chain ← aes.encryptBlock key block
  return { s with block := block, chain := chain }

/-- `appendByte`. -/
def appendByte (aes : Aes128BlockCipher) (key : Key) (s : MacState) (value : UInt8) :
    Result MacState :=
  let block := s.block.set s.blockFill value
  if h : s.blockFill.val + 1 < 16 then .ok { s with block := block, blockFill := ⟨_, h⟩ }
  else do
    let s ← processBlock aes key { s with block := block } .buffer
    return { s with blockFill := 0 }

/-- `appendBytes`. -/
def appendBytes (aes : Aes128BlockCipher) (key : Key) (s : MacState) :
    List UInt8 → Result MacState
  | [] => .ok s
  | byte :: bytes => do
      let s ← appendByte aes key s byte
      appendBytes aes key s bytes

/-- The buffer with zeros from `fill` on. -/
def fillZero (block : Block) (fill : Fin 16) : Block :=
  Vector.ofFn fun i => if i.val < fill.val then block[i] else 0

/-- `Aes128CbcMac::compute`. -/
def compute (aes : Aes128BlockCipher) (key : Key) (block0 : Block)
    (additionalData payload : List UInt8) : Result Block := do
  aes.setKey key
  let zero := Vector.replicate 16 0
  let s ← processBlock aes key { chain := zero, block := zero, blockFill := 0 } (.other block0)
  let s ← appendByte aes key s (UInt8.ofNat (additionalData.length / 256))
  let s ← appendByte aes key s (UInt8.ofNat additionalData.length)
  let s ← appendBytes aes key s additionalData
  let s ← appendBytes aes key s payload
  if s.blockFill ≠ 0 then
    let s ← processBlock aes key { s with block := fillZero s.block s.blockFill } .buffer
    return s.chain
  else return s.chain

/-! ## The code of a message -/

/-- A block from sixteen octets. -/
def toBlock (octets : List UInt8) : Block := Vector.ofFn fun i => octets.getD i 0

/-- Two blocks combined by exclusive or. -/
def xorBlock (a b : Block) : Block := Vector.zipWith (· ^^^ ·) a b

/-- A message with zeros up to a multiple of sixteen octets. -/
def zeroPadded (message : List UInt8) : List UInt8 :=
  message ++ List.replicate ((16 - message.length % 16) % 16) 0

/-- The chain behind some blocks. -/
def chainFrom (E : Block → Block) (chain : Block) (blocks : List (List UInt8)) : Block :=
  blocks.foldl (fun chain octets => E (xorBlock (toBlock octets) chain)) chain

/-- The CBC-MAC of a message of full blocks, from the zero block on. -/
def macOf (E : Block → Block) (message : List UInt8) : Block :=
  chainFrom E (Vector.replicate 16 0) (blocks 16 message)

/-- A cipher that computes a fixed function of the key and the block. -/
def fixedCipher (E : Key → Block → Block) : Aes128BlockCipher where
  setKey _ := .ok ()
  encryptBlock key block := .ok (E key block)

theorem chainFrom_append_singleton (E : Block → Block) (chain : Block) (l : List (List UInt8))
    (octets : List UInt8) :
    chainFrom E chain (l ++ [octets]) = E (xorBlock (toBlock octets) (chainFrom E chain l)) := by
  simp [chainFrom]

theorem toBlock_toList (block : Block) : toBlock block.toList = block := by
  apply Vector.ext
  intro i hi
  simp [toBlock]

/-! ## One block -/

/-- The loop of `processBlock` over distinct places: a place is read before it is written. -/
theorem getElem_foldl_xor (input : Input) (chain : Block) {places : List (Fin 16)}
    (hnodup : places.Nodup) (block : Block) (j : Fin 16) :
    (places.foldl (fun (block : Block) (i : Fin 16) => block.set i ((input.read block)[i] ^^^ chain[i])) block)[j]
      = if j ∈ places then (input.read block)[j] ^^^ chain[j] else block[j] := by
  induction places generalizing block with
  | nil => simp
  | cons i places ih =>
    obtain ⟨hi, hnodup⟩ := List.nodup_cons.mp hnodup
    rw [List.foldl_cons, ih hnodup]
    by_cases hj : j = i
    · -- The place itself is not visited again.
      subst hj
      simp [hi]
    · have hne : i.val ≠ j.val := fun h => hj (Fin.ext h.symm)
      have hread : (input.read (block.set i ((input.read block)[i] ^^^ chain[i])))[j]
          = (input.read block)[j] := by
        cases input with
        | other other => rfl
        | buffer => simp [Input.read, hne]
      rw [hread]
      simp [hj, hne]

theorem xorChain_eq (input : Input) (chain block : Block) :
    xorChain input chain block = xorBlock (input.read block) chain := by
  apply Vector.ext
  intro i hi
  have hplace := getElem_foldl_xor input chain (List.nodup_finRange 16) block ⟨i, hi⟩
  rw [if_pos (List.mem_finRange _)] at hplace
  simpa [xorChain, xorBlock] using hplace

theorem processBlock_fixed (E : Key → Block → Block) (key : Key) (s : MacState) (input : Input) :
    processBlock (fixedCipher E) key s input
      = .ok { s with
          block := xorBlock (input.read s.block) s.chain
          chain := E key (xorBlock (input.read s.block) s.chain) } := by
  rw [processBlock, xorChain_eq]
  rfl

/-! ## Octet by octet -/

/-- The state after the octets of a message: the chain has taken its full blocks, and the buffer begins
with what is left behind them. -/
structure Streamed (E : Block → Block) (s : MacState) (message : List UInt8) : Prop where
  chain : s.chain = macOf E message
  fill : s.blockFill.val = message.length % 16
  front : s.block.toList.take s.blockFill.val = rest 16 message

theorem Streamed.appendByte {E : Key → Block → Block} {key : Key} {s : MacState}
    {message : List UInt8} (h : Streamed (E key) s message) (value : UInt8) :
    ∃ s', CbcMac.appendByte (fixedCipher E) key s value = .ok s' ∧
      Streamed (E key) s' (message ++ [value]) := by
  have hset : (s.block.set s.blockFill value).toList.take (s.blockFill.val + 1)
      = rest 16 message ++ [value] := by
    rw [Vector.toList_set, take_set_succ (by simp), h.front]
  unfold CbcMac.appendByte
  by_cases hfull : s.blockFill.val + 1 < 16
  · obtain ⟨hblocks, hrest⟩ :=
      blocks_append_singleton_of_lt (l := message) value (by rw [← h.fill]; exact hfull)
    rw [dif_pos hfull]
    refine ⟨_, rfl, ?_, ?_, ?_⟩
    · rw [h.chain, macOf, macOf, hblocks]
    · have hfill := h.fill
      simp only [List.length_append, List.length_singleton]
      omega
    · rw [hrest]
      exact hset
  · have hlast : message.length % 16 + [value].length = 16 := by
      have hfill := h.fill
      rw [List.length_singleton]
      omega
    obtain ⟨hblocks, hrest⟩ := blocks_append_of_eq (by decide) hlast
    have hwhole : s.block.set s.blockFill value = toBlock (rest 16 message ++ [value]) := by
      rw [← hset, List.take_of_length_le (by simp; omega), toBlock_toList]
    rw [dif_neg hfull, processBlock_fixed]
    refine ⟨_, rfl, ?_, ?_, ?_⟩
    · simp only [Input.read, hwhole]
      rw [macOf, hblocks, chainFrom_append_singleton, h.chain, macOf]
    · rw [List.length_append]
      simp only [Fin.val_zero]
      omega
    · rw [hrest]
      rfl

theorem Streamed.appendBytes {E : Key → Block → Block} {key : Key} (bytes : List UInt8) :
    ∀ {s : MacState} {message : List UInt8}, Streamed (E key) s message →
      ∃ s', CbcMac.appendBytes (fixedCipher E) key s bytes = .ok s' ∧
        Streamed (E key) s' (message ++ bytes) := by
  induction bytes with
  | nil =>
    intro s message h
    exact ⟨s, rfl, by rw [List.append_nil]; exact h⟩
  | cons byte bytes ih =>
    intro s message h
    obtain ⟨s₁, hfirst, h₁⟩ := h.appendByte byte
    obtain ⟨s₂, hothers, h₂⟩ := ih h₁
    refine ⟨s₂, ?_, ?_⟩
    · rw [CbcMac.appendBytes, hfirst]
      exact hothers
    · rw [List.append_assoc] at h₂
      exact h₂

theorem streamed_block0 (E : Key → Block → Block) (key : Key) (block0 block : Block) :
    Streamed (E key)
      { chain := E key (xorBlock block0 (Vector.replicate 16 0)), block := block, blockFill := 0 }
      block0.toList := by
  have hlength : block0.toList.length = 16 := Vector.length_toList
  have hblock := blocks_append (by decide) hlength []
  rw [List.append_nil] at hblock
  refine ⟨?_, ?_, ?_⟩
  · rw [macOf, hblock.1, (blocks_of_length_lt (by simp)).1]
    simp [chainFrom, toBlock_toList]
  · simp
  · rw [hblock.2, (blocks_of_length_lt (by simp)).2]
    simp

/-- The buffer with zeros behind what was collected is the last block of the padded message. -/
theorem fillZero_eq (block : Block) (fill : Fin 16) :
    fillZero block fill = toBlock (block.toList.take fill.val ++ List.replicate (16 - fill.val) 0) := by
  apply Vector.ext
  intro i hi
  by_cases hbefore : i < fill.val
  · simp only [fillZero, toBlock, hbefore, Vector.getElem_ofFn, if_true]
    rw [List.getD_eq_getElem?_getD, List.getElem?_append_left (by simp; omega),
      List.getElem?_take_of_lt hbefore]
    simp [hi]
  · simp only [fillZero, toBlock, hbefore, Vector.getElem_ofFn, if_false]
    rw [List.getD_eq_getElem?_getD, List.getElem?_append_right (by simp; omega),
      List.getElem?_replicate]
    split <;> rfl

theorem blocks_zeroPadded (message : List UInt8) :
    blocks 16 (zeroPadded message) = if message.length % 16 = 0 then blocks 16 message
      else blocks 16 message
        ++ [rest 16 message ++ List.replicate (16 - message.length % 16) 0] := by
  by_cases hwhole : message.length % 16 = 0
  · rw [if_pos hwhole, zeroPadded, hwhole]
    simp
  · have hfill : (16 - message.length % 16) % 16 = 16 - message.length % 16 :=
      Nat.mod_eq_of_lt (by omega)
    rw [if_neg hwhole, zeroPadded, hfill]
    exact (blocks_append_of_eq (by decide) (by rw [List.length_replicate]; omega)).1

/-! ## The whole message -/

/-- `compute` with a block function that cannot fail, for every length field. -/
theorem compute_fixed (E : Key → Block → Block) (key : Key) (block0 : Block)
    (additionalData payload : List UInt8) :
    compute (fixedCipher E) key block0 additionalData payload
      = .ok (macOf (E key) (zeroPadded (block0.toList ++ toOctets 2 additionalData.length
          ++ additionalData ++ payload))) := by
  have hlength : toOctets 2 additionalData.length
      = [UInt8.ofNat (additionalData.length / 256)] ++ [UInt8.ofNat additionalData.length] := rfl
  have h₀ := streamed_block0 E key block0 (xorBlock block0 (Vector.replicate 16 0))
  obtain ⟨s₁, hhigh, h₁⟩ := h₀.appendByte (UInt8.ofNat (additionalData.length / 256))
  obtain ⟨s₂, hlow, h₂⟩ := h₁.appendByte (UInt8.ofNat additionalData.length)
  obtain ⟨s₃, hadditional, h₃⟩ := h₂.appendBytes additionalData
  obtain ⟨s₄, hpayload, h₄⟩ := h₃.appendBytes payload
  have hrun : compute (fixedCipher E) key block0 additionalData payload
      = if s₄.blockFill ≠ 0 then
          .ok (E key (xorBlock (fillZero s₄.block s₄.blockFill) s₄.chain))
        else .ok s₄.chain := by
    simp only [compute, processBlock_fixed, Input.read]
    simp only [fixedCipher] at hhigh hlow hadditional hpayload ⊢
    simp only [bind, Except.bind, hhigh, hlow, hadditional, hpayload]
    split <;> rfl
  rw [hrun, hlength, ← List.append_assoc, macOf, blocks_zeroPadded, ← h₄.fill]
  by_cases hempty : s₄.blockFill = 0
  · simp [hempty, h₄.chain, macOf]
  · have hfill : s₄.blockFill.val ≠ 0 := fun h => hempty (Fin.ext h)
    rw [if_pos hempty, if_neg hfill, chainFrom_append_singleton, fillZero_eq, h₄.front, h₄.chain,
      macOf]

/-- The streaming code is the CBC-MAC of the padded message. -/
theorem compute_eq_macOf (E : Key → Block → Block) (key : Key) (block0 : Block)
    (additionalData payload : List UInt8) (h : additionalData.length ≤ 65535) :
    ∃ lengthOctets : List UInt8,
      lengthOctets.length = 2 ∧ ofOctets lengthOctets = additionalData.length ∧
        compute (fixedCipher E) key block0 additionalData payload
          = .ok (macOf (E key)
              (zeroPadded (block0.toList ++ lengthOctets ++ additionalData ++ payload))) := by
  refine ⟨toOctets 2 additionalData.length, length_toOctets 2 _, ?_, ?_⟩
  · rw [ofOctets_toOctets]
    omega
  · exact compute_fixed E key block0 additionalData payload

/-- An exact multiple of sixteen octets, where no zeros are added, with the block itself as the code of
a block. -/
theorem compute_eq_macOf_full :
    ∃ lengthOctets : List UInt8,
      lengthOctets.length = 2 ∧ ofOctets lengthOctets = 14 ∧
        compute (fixedCipher fun _ block => block) [] (Vector.replicate 16 7) (List.replicate 14 1) []
          = .ok (macOf (fun block => block)
              (zeroPadded ((Vector.replicate 16 7).toList ++ lengthOctets ++ List.replicate 14 1
                ++ []))) :=
  compute_eq_macOf (fun _ block => block) [] (Vector.replicate 16 7) (List.replicate 14 1) []
    (by decide)

/-! ## Block by block -/

/-- The block function as the secure application layer takes it. -/
def blockCipherOf (E : Key → Block → Block) : BlockCipher where
  encryptBlock key octets := some (E key (toBlock octets)).toList

theorem toBlock_xorOctets (octets : List UInt8) (chain : Block) (h : octets.length = 16) :
    toBlock (xorOctets octets chain.toList) = xorBlock (toBlock octets) chain := by
  apply Vector.ext
  intro i hi
  simp [toBlock, xorOctets, xorBlock, h]

theorem zeroPadded_append {block : List UInt8} (h : block.length = 16) (message : List UInt8) :
    zeroPadded (block ++ message) = block ++ zeroPadded message := by
  rw [zeroPadded, zeroPadded, List.length_append, h, Nat.add_mod_left, List.append_assoc]

theorem macBlocks_eq (E : Key → Block → Block) (key : Key) (fuel : Nat) :
    ∀ (chain : Block) (input : List UInt8), input.length ≤ fuel →
      macBlocks (blockCipherOf E) key fuel chain.toList input
        = some (chainFrom (E key) chain (blocks 16 (zeroPadded input))).toList := by
  induction fuel with
  | zero =>
    intro chain input hlength
    rw [List.eq_nil_of_length_eq_zero (Nat.le_zero.mp hlength)]
    rfl
  | succ fuel ih =>
    intro chain input hlength
    by_cases hempty : input = []
    · rw [hempty]
      rfl
    · have hpositive := List.length_pos_iff.mpr hempty
      have hblock : (input.take 16 ++ List.replicate (16 - input.length) 0).length = 16 := by
        simp
        omega
      -- The first block of the padded input, and the padded input behind it.
      have hcut : blocks 16 (zeroPadded input)
          = (input.take 16 ++ List.replicate (16 - input.length) 0)
            :: blocks 16 (zeroPadded (input.drop 16)) := by
        by_cases hlong : 16 ≤ input.length
        · have htake : (input.take 16).length = 16 := by
            rw [List.length_take]
            omega
          have hparts := zeroPadded_append htake (input.drop 16)
          rw [List.take_append_drop] at hparts
          rw [hparts, (blocks_append (by decide) htake _).1, Nat.sub_eq_zero_of_le hlong,
            List.replicate_zero, List.append_nil]
        · have hshort : input.length < 16 := by omega
          have hcount : input.length % 16 = input.length := Nat.mod_eq_of_lt hshort
          rw [blocks_zeroPadded, if_neg (by omega), (blocks_of_length_lt hshort).1,
            (blocks_of_length_lt hshort).2, List.drop_of_length_le (by omega),
            List.take_of_length_le (by omega), hcount]
          rfl
      rw [macBlocks, if_neg hempty, hcut, chainFrom, List.foldl_cons, ← chainFrom,
        ← ih _ _ (by rw [List.length_drop]; omega), ← toBlock_xorOctets _ _ hblock]
      rfl

theorem cbcMac_eq_macOf (E : Key → Block → Block) (key : Key) (block0 : Block)
    (additionalData payload : List UInt8) :
    cbcMac (blockCipherOf E) key block0.toList additionalData payload
      = some (macOf (E key) (zeroPadded (block0.toList ++ toOctets 2 additionalData.length
          ++ additionalData ++ payload))).toList := by
  have hzero : List.replicate 16 (0 : UInt8) = (Vector.replicate 16 (0 : UInt8)).toList := rfl
  have hfirst : toBlock (xorOctets block0.toList (List.replicate 16 0))
      = xorBlock (toBlock block0.toList) (Vector.replicate 16 0) := by
    rw [hzero, toBlock_xorOctets _ _ (by simp)]
  rw [List.append_assoc, List.append_assoc, zeroPadded_append (by simp), macOf,
    (blocks_append (by decide) (by simp) _).1, chainFrom, List.foldl_cons, ← chainFrom,
    ← List.append_assoc, ← macBlocks_eq _ _ _ _ _ (Nat.le_refl _), ← hfirst]
  have hcipher (octets : List UInt8) :
      (blockCipherOf E).encryptBlock key octets = some (E key (toBlock octets)).toList := rfl
  rw [cbcMac, hcipher, Option.bind_eq_bind, Option.bind_some]

end KnxStack.Security.CbcMac
