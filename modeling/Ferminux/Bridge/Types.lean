import Ferminux.Lib.Except
import Mathlib.Data.BitVec

/-!
# Bridge.Types

The data of `FerminuxBridge.sol`: the wire format of a transfer and its digests, the
signature check, the draining volume windows, the calls that can be queued behind the
timelock, and the events.

Machine integers are naturals; every operation the compiler checks goes through
`checkedAdd`, `checkedSub` or `checkedMul`, and every narrowing cast is an explicit `%`.
Digests (`bytes32`) are an abstract type `H` with a zero, and `keccak256` is a function on
what is encoded: `abi.encode` of static types is injective, so a preimage is represented
by the values it encodes.
-/

namespace Ferminux.Bridge

open Lib List

/-- A 20-byte account address; `0` is the native coin where a token is expected. -/
abbrev Address := BitVec 160

instance : LawfulBEq Address := inferInstance

/-! ### Checked arithmetic -/

/-- What Solidity 0.8 reverts with when an operation over- or underflows. -/
def arithmeticPanic : String := "Panic(0x11)"

def checkedAdd (bits a b : Nat) : Except String Nat :=
  if a + b < 2 ^ bits then .ok (a + b) else .error arithmeticPanic

def checkedSub (a b : Nat) : Except String Nat :=
  if b ≤ a then .ok (a - b) else .error arithmeticPanic

def checkedMul (bits a b : Nat) : Except String Nat :=
  if a * b < 2 ^ bits then .ok (a * b) else .error arithmeticPanic

@[simp] lemma checkedAdd_eq_ok {bits a b c : Nat} :
    checkedAdd bits a b = .ok c ↔ a + b < 2 ^ bits ∧ a + b = c := by
  by_cases h : a + b < 2 ^ bits <;> simp [checkedAdd, h]

@[simp] lemma checkedSub_eq_ok {a b c : Nat} : checkedSub a b = .ok c ↔ b ≤ a ∧ a - b = c := by
  by_cases h : b ≤ a <;> simp [checkedSub, h]

@[simp] lemma checkedMul_eq_ok {bits a b c : Nat} :
    checkedMul bits a b = .ok c ↔ a * b < 2 ^ bits ∧ a * b = c := by
  by_cases h : a * b < 2 ^ bits <;> simp [checkedMul, h]

/-! ### Constants -/

def BPS_DENOMINATOR : Nat := 10000
def MAX_FEE_BPS : Nat := 100
def WINDOW : Nat := 24 * 3600
def MAX_VALIDATORS : Nat := 32
def MIN_TIMELOCK_DELAY : Nat := 3600
def MAX_TIMELOCK_DELAY : Nat := 30 * 24 * 3600
def GRACE_PERIOD : Nat := 72 * 3600
def OWNERSHIP_ACCEPT_WINDOW : Nat := 14 * 24 * 3600
def HALF_CURVE_ORDER : Nat := 0x7FFFFFFFFFFFFFFFFFFFFFFFFFFFFFFF5D576E7357A4501DDFE92F46681B20A0

/-- Stands for the native coin as a *value* of the reverse index, where `0` means empty. -/
def NATIVE_ROUTE : Address := 1

/-! ### Tokens, windows, transfers -/

inductive TokenKind where
  | UNREGISTERED
  | CANONICAL
  | WRAPPED
  deriving Repr, DecidableEq

structure TokenConfig where
  kind : TokenKind := .UNREGISTERED
  paused : Bool := false
  remoteChainId : Nat := 0
  remoteToken : Address := 0
  maxPerTransfer : Nat := 0
  dailyCap : Nat := 0
  deriving Repr, DecidableEq

/-- A draining volume bucket: `used` decays linearly to zero over `WINDOW` seconds. -/
structure Window where
  used : Nat := 0
  updatedAt : Nat := 0
  deriving Repr, DecidableEq

/-- The wire format, identical on both chains; every field is signed. -/
structure BridgeTransfer where
  srcChainId : Nat
  dstChainId : Nat
  nonce : Nat
  srcToken : Address
  dstToken : Address
  sender : Address
  recipient : Address
  amount : Nat
  deriving Repr, DecidableEq

structure Signature where
  v : Nat
  r : Nat
  s : Nat
  deriving Repr, DecidableEq

/-! ### Digests -/

inductive Preimage (H : Type) where
  | text (s : String)
  /-- The fields of a transfer, as `transferIdOf` encodes them. -/
  | transfer (t : BridgeTransfer)
  | struct (typehash transferId : H) (t : BridgeTransfer)
  | domain (typehash name version : H) (chainId : Nat) (verifyingContract : Address)
  | permit (typehash : H) (owner spender : Address) (value nonce deadline : Nat)
  /-- `0x1901`, the domain separator and the struct hash. -/
  | typed (domainSeparator structHash : H)
  deriving Repr, DecidableEq

/-- One deployment of the contract: its address, its immutables, and the primitives of
the machine it runs on. -/
structure Deployment (H : Type) where
  this : Address
  cachedChainId : Nat
  keccak256 : Preimage H → H
  /-- The precompile; `0` when no key matches. -/
  ecrecover : H → Nat → Nat → Nat → Address

/-- What a call is made with: the sender, the value, and the block it is in. -/
structure Context where
  sender : Address
  value : Nat := 0
  timestamp : Nat
  chainid : Nat
  deriving Repr, DecidableEq

namespace Deployment

variable {H : Type} (D : Deployment H)

def TRANSFER_TYPEHASH : H :=
  D.keccak256 (.text ("BridgeTransfer(bytes32 transferId,uint64 srcChainId,uint64 dstChainId,"
    ++ "uint64 nonce,address srcToken,address dstToken,address sender,address recipient,"
    ++ "uint256 amount)"))

def BRIDGE_INTERFACE_ID : H := D.keccak256 (.text "FerminuxBridge.v1")

def buildDomainSeparator (chainid : Nat) : H :=
  D.keccak256 (.domain (D.keccak256 (.text
      "EIP712Domain(string name,string version,uint256 chainId,address verifyingContract)"))
    (D.keccak256 (.text "FerminuxBridge")) (D.keccak256 (.text "1")) chainid D.this)

def cachedDomainSeparator : H := D.buildDomainSeparator D.cachedChainId

def DOMAIN_SEPARATOR (chainid : Nat) : H :=
  if chainid = D.cachedChainId then D.cachedDomainSeparator else D.buildDomainSeparator chainid

def transferIdOf (t : BridgeTransfer) : H := D.keccak256 (.transfer t)

/-- The digest validators sign. -/
def hashTransfer (chainid : Nat) (t : BridgeTransfer) : H :=
  D.keccak256 (.typed (D.DOMAIN_SEPARATOR chainid)
    (D.keccak256 (.struct D.TRANSFER_TYPEHASH (D.transferIdOf t) t)))

lemma transferIdOf_injective (hinj : Function.Injective D.keccak256) :
    Function.Injective D.transferIdOf := by
  intro t t' h
  have := hinj h
  simpa using this

lemma hashTransfer_injective (hinj : Function.Injective D.keccak256) (chainid : Nat) :
    Function.Injective (D.hashTransfer chainid) := by
  intro t t' h
  have htyped := hinj h
  simp only [Preimage.typed.injEq, true_and] at htyped
  have hstruct := hinj htyped
  simp only [Preimage.struct.injEq] at hstruct
  exact hstruct.2.2

/-! ### Signatures -/

def recover (digest : H) (sig : Signature) : Except String Address := do
  require (sig.s ≤ HALF_CURVE_ORDER) "BRIDGE: malleable signature"
  require (sig.v = 27 ∨ sig.v = 28) "BRIDGE: bad v"
  let signer := D.ecrecover digest sig.v sig.r sig.s
  require (signer ≠ 0) "BRIDGE: invalid signature"
  return signer

/-- The body of the loop: `seen` are the current validators counted so far. -/
def countSigner (isValidator : Address → Bool) (digest : H) (seen : List Address)
    (sig : Signature) : Except String (List Address) := do
  let signer ← D.recover digest sig
  if isValidator signer then
    require (signer ∉ seen) "BRIDGE: duplicate signer"
    return seen ++ [signer]
  else
    return seen

def verifySignatures (isValidator : Address → Bool) (threshold : Nat) (digest : H)
    (sigs : List Signature) : Except String Unit := do
  require (threshold ≤ sigs.length) "BRIDGE: not enough signatures"
  require (sigs.length ≤ MAX_VALIDATORS) "BRIDGE: too many signatures"
  let seen ← sigs.foldlM (D.countSigner isValidator digest) []
  require (threshold ≤ seen.length) "BRIDGE: below threshold"

variable {D} {isValidator : Address → Bool}
  {digest : H} {seen seen' : List Address} {v : Address} {sigs : List Signature}

lemma mem_of_countSigner
    {sig : Signature} (h : D.countSigner isValidator digest seen sig = .ok seen')
    (hv : v ∈ seen') : v ∈ seen ∨ D.recover digest sig = .ok v ∧ isValidator v = true := by
  simp only [countSigner, bind_eq_ok] at h
  obtain ⟨signer, hsigner, h⟩ := h
  split at h
  · simp only [bind_eq_ok, pure_eq_ok] at h
    obtain ⟨-, -, rfl⟩ := h
    rw [mem_append, mem_singleton] at hv
    rcases hv with hv | rfl
    · exact .inl hv
    · exact .inr ⟨hsigner, ‹_›⟩
  · rw [pure_eq_ok] at h
    exact .inl (h ▸ hv)

lemma mem_of_countSigners (h : sigs.foldlM (D.countSigner isValidator digest) seen = .ok seen')
    (hv : v ∈ seen') :
    v ∈ seen ∨ ∃ sig ∈ sigs, D.recover digest sig = .ok v ∧ isValidator v = true := by
  induction sigs generalizing seen with
  | nil =>
    simp only [foldlM_nil, pure_eq_ok] at h
    exact .inl (h ▸ hv)
  | cons sig _ ih =>
    simp only [foldlM_cons, bind_eq_ok] at h
    obtain ⟨seen1, hsig, hrest⟩ := h
    rcases ih hrest with hv1 | ⟨sig', hmem, hsigned⟩
    · rcases mem_of_countSigner hsig hv1 with hseen | hsigned
      · exact .inl hseen
      · exact .inr ⟨sig, mem_cons_self, hsigned⟩
    · exact .inr ⟨sig', mem_cons_of_mem _ hmem, hsigned⟩

lemma exists_signer_of_verifySignatures {threshold : Nat} (hthreshold : 1 ≤ threshold)
    (h : D.verifySignatures isValidator threshold digest sigs = .ok ()) :
    ∃ sig ∈ sigs, ∃ v, D.recover digest sig = .ok v ∧ isValidator v = true := by
  simp only [verifySignatures, bind_eq_ok, require_eq_ok] at h
  obtain ⟨-, -, -, -, seen, hseen, hle⟩ := h
  obtain ⟨v, hv⟩ := exists_mem_of_length_pos (hthreshold.trans hle)
  rcases mem_of_countSigners hseen hv with hnil | ⟨sig, hmem, hsigned⟩
  · cases hnil
  · exact ⟨sig, hmem, v, hsigned⟩

end Deployment

/-! ### Symbolic digests -/

/-- Digests for which hashing is injective: a hash is the term that was hashed. -/
inductive Digest where
  | zero
  | text (s : String)
  | transfer (t : BridgeTransfer)
  | struct (typehash transferId : Digest) (t : BridgeTransfer)
  | domain (typehash name version : Digest) (chainId : Nat) (verifyingContract : Address)
  | permit (typehash : Digest) (owner spender : Address) (value nonce deadline : Nat)
  | typed (domainSeparator structHash : Digest)
  deriving Repr, DecidableEq

namespace Digest

instance : Zero Digest := ⟨zero⟩

def keccak256 : Preimage Digest → Digest
  | .text s => text s
  | .transfer t => transfer t
  | .struct typehash transferId t => struct typehash transferId t
  | .domain typehash name version chainId this => domain typehash name version chainId this
  | .permit typehash owner spender value nonce deadline =>
    permit typehash owner spender value nonce deadline
  | .typed domainSeparator structHash => typed domainSeparator structHash

lemma keccak256_injective : Function.Injective keccak256 := by
  intro p q h
  cases p <;> cases q <;> simp_all [keccak256]

end Digest

/-! ### Volume windows -/

def usage (now : Nat) (w : Window) : Except String Nat := do
  if w.updatedAt = 0 then
    return 0
  let elapsed ← checkedSub now w.updatedAt
  if WINDOW ≤ elapsed then
    return 0
  let drained ← checkedMul 256 w.used elapsed
  checkedSub w.used (drained / WINDOW)

def consume (now : Nat) (w : Window) (cap amount : Nat) : Except String Window := do
  let used ← checkedAdd 256 (← usage now w) amount
  require (used ≤ cap) "BRIDGE: over 24h cap"
  return { used := used % 2 ^ 128, updatedAt := now % 2 ^ 64 }

end Ferminux.Bridge
