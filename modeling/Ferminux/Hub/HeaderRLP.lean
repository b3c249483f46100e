import Ferminux.Hub.Types

/-!
# Hub.HeaderRLP

The check of header evidence (`HeaderRLP.sol`): the parent hash and the number of an
RLP-encoded header, and the comparison of two of them. **Strict**: the outer list must span the
whole input, and the items up to the number must be byte strings inside it.
-/

namespace Ferminux.Hub

open Lib Error

namespace HeaderRLP

/-- One byte; out of bounds the access panics. -/
def byteAt (rlp : Bytes) (i : Nat) : Except Error Nat :=
  match rlp[i]? with
  | some b => .ok b.toNat
  | none => .error .Panic

/-- Big-endian unsigned integer of `n` <= 32 bytes at `off`. -/
def be (b : Bytes) (off n : Nat) : Except Error Nat := do
  require (n ≤ 32) BadHeader
  (List.range n).foldlM (fun v i => do return v * 256 + (← byteAt b (off + i))) 0

/-- One byte string in an RLP list: where its data are, and where the next item is. -/
structure Item where
  dataOff : Nat
  dataLen : Nat
  next : Nat
  deriving Repr, DecidableEq

/-- One RLP byte string at `off`. Lists are rejected. -/
def item (rlp : Bytes) (off stop : Nat) : Except Error Item := do
  require (off < stop) BadHeader
  let b ← byteAt rlp off
  let (dataOff, dataLen) ←
    if b < 0x80 then pure (off, 1)
    else if b ≤ 0xb7 then pure (off + 1, b - 0x80)
    else if b ≤ 0xbf then do
      let ll := b - 0xb7
      require (off + 1 + ll ≤ stop) BadHeader
      let dataLen ← be rlp (off + 1) ll
      pure (off + 1 + ll, dataLen)
    else throw BadHeader
  let next := dataOff + dataLen
  require (next ≤ stop) BadHeader
  return { dataOff, dataLen, next }

/-- The payload of the outer list: its offset and its length. -/
def payloadOf (rlp : Bytes) : Except Error (Nat × Nat) := do
  let len := rlp.length
  require (len ≠ 0) BadHeader
  let b0 ← byteAt rlp 0
  require (0xc0 ≤ b0) BadHeader
  if b0 ≤ 0xf7 then return (1, b0 - 0xc0)
  else do
    let ll := b0 - 0xf7
    require (1 + ll ≤ len) BadHeader
    let payload ← be rlp 1 ll
    return (1 + ll, payload)

/-- What the loop over the items has read. -/
structure Scan where
  off : Nat
  parent : Bytes := []
  number : Nat := 0

def scanItem (rlp : Bytes) (s : Scan) (i : Nat) : Except Error Scan := do
  let it ← item rlp s.off rlp.length
  if i = 0 then do
    require (it.dataLen = 32) BadHeader
    return { s with off := it.next, parent := (rlp.drop it.dataOff).take 32 }
  else if i = 8 then do
    let number ← be rlp it.dataOff it.dataLen
    return { s with off := it.next, number }
  else return { s with off := it.next }

def parentAndNumber (rlp : Bytes) : Except Error (Bytes × Nat) := do
  let (off, payload) ← payloadOf rlp
  require (off + payload = rlp.length) BadHeader
  let s ← (List.range 9).foldlM (scanItem rlp) { off }
  return (s.parent, s.number)

/-- `SealEvidence.check`: the number of two different headers with one parent, and the digests
that their signatures cover. -/
def check {H : Type} [DecidableEq H] (K : Deployment H) (preimageA preimageB : Bytes) :
    Except Error (Nat × H × H) := do
  let (parentA, numberA) ← parentAndNumber preimageA
  let (parentB, numberB) ← parentAndNumber preimageB
  let sealA := K.keccak256 (.bytes preimageA)
  let sealB := K.keccak256 (.bytes preimageB)
  require (numberA = numberB ∧ parentA = parentB ∧ sealA ≠ sealB ∧ numberA < 2 ^ 64)
    NotADoubleSeal
  return (numberA, sealA, sealB)

end HeaderRLP

end Ferminux.Hub
