import Ferminux.Consensus.Types
import Ferminux.Lib.Except

/-!
# Clique.BreakGlass

The **break-glass override**: a replacement signer list in a header's extra-data,
authenticated by multisig owners instead of by the current signers
(`consensus/clique/ferminux.go`).

Layout of the extra-data of a break-glass block:

* 32 bytes of vanity;
* `20*K` bytes, the override list;
* `65*M` bytes, the owner signatures;
* one byte `M` and the eight bytes `FMX-BGL2`;
* 65 bytes of seal.

A plain checkpoint payload is `20*K` bytes long, a break-glass payload never is a
multiple of 20, so the two are told apart by length and then by the magic.
-/

namespace Ferminux.Clique

open Lib List FixedBytes Nat

variable {K : Crypto} {signers : List Address} {sigs : List (List UInt8)}
  {vanity payload sealBytes : List UInt8}

/-- Extra-data prefix bytes reserved for the signer vanity. -/
def extraVanity : Nat := 32

/-- Extra-data suffix bytes reserved for the signer seal. -/
def extraSeal : Nat := signatureLength

abbrev addressLength : Nat := 20

/-- "FMX-BGL2". -/
def breakGlassMagic : List UInt8 := [70, 77, 88, 45, 66, 71, 76, 50]

/-- "FERMINUX-BREAK-GLASS-V2". -/
def breakGlassPrefix : List UInt8 :=
  [70, 69, 82, 77, 73, 78, 85, 88, 45, 66, 82, 69, 65, 75, 45, 71, 76, 65, 83, 83, 45, 86, 50]

def breakGlassMagicLen : Nat := 8
def breakGlassCountLen : Nat := 1
def breakGlassTrailerLen : Nat := breakGlassCountLen + breakGlassMagicLen
def breakGlassMinPayload : Nat := addressLength + breakGlassTrailerLen

lemma lengths : breakGlassMinPayload = 29 ∧ breakGlassTrailerLen = 9 ∧ breakGlassMagicLen = 8 ∧
    addressLength = 20 := ⟨rfl, rfl, rfl, rfl⟩

/-- Who may sign a signer-set override, and how many of them must. -/
structure BreakGlassConfig where
  chainID : Nat
  owners : List Address
  threshold : Int

def BreakGlassConfig.isOwner (bg : BreakGlassConfig) (addr : Address) : Bool :=
  bg.owners.contains addr

/-- An armed override waiting for its block slot. -/
structure BreakGlassOverride where
  number : Nat
  parentHash : Hash
  signers : List Address
  signatures : List (List UInt8)

/-! ### The payload -/

/-- The section between vanity and seal. -/
def payloadOf (extra : List UInt8) : List UInt8 :=
  (extra.drop extraVanity).take (extra.length - extraVanity - extraSeal)

/-- Whether the section between vanity and seal is a break-glass payload: not a
whole number of addresses and terminated by the magic trailer. -/
def isBreakGlassExtra (extra : List UInt8) : Bool :=
  if extra.length < extraVanity + extraSeal + breakGlassMinPayload then false
  else
    (payloadOf extra).length % addressLength != 0 && breakGlassMagic.isSuffixOf (payloadOf extra)

/-- Decode the section between vanity and seal: the signer list, the owner
signatures (none for a plain checkpoint), and whether it was an override. -/
def parseCheckpointExtra (extra : List UInt8) :
    Except Err (List Address × List (List UInt8) × Bool) :=
  if extra.length < extraVanity + extraSeal then .error .errMissingSignature
  else
    let payload := payloadOf extra
    if payload.length % addressLength = 0 then
      .ok (FixedBytes.split addressLength (payload.length / addressLength) payload, [], false)
    else if payload.length < breakGlassTrailerLen ||
        payload.drop (payload.length - breakGlassMagicLen) != breakGlassMagic then
      .error .errInvalidCheckpointSigners
    else
      let count := (payload.getD (payload.length - breakGlassTrailerLen) 0).toNat
      if count = 0 then .error .errBreakGlassMalformed
      else
        let sigBytes := count * signatureLength
        let signersBytes := payload.length - breakGlassTrailerLen - sigBytes
        if signersBytes < addressLength || signersBytes % addressLength != 0 then
          .error .errBreakGlassMalformed
        else
          .ok (FixedBytes.split addressLength (signersBytes / addressLength) payload,
            slices signatureLength count (payload.drop signersBytes), true)

/-- The bytes that go between vanity and seal. -/
def encodeBreakGlassPayload (signers : List Address) (signatures : List (List UInt8)) :
    List UInt8 :=
  FixedBytes.concat signers ++ signatures.flatten ++ [UInt8.ofNat signatures.length] ++
    breakGlassMagic

/-! ### The signed message -/

/-- `common.LeftPadBytes(v.Bytes(), 32)`: 32 bytes, or more for a larger number. -/
def leftPad32 (v : Nat) : List UInt8 := bigEndian (max 32 ((v.size + 7) / 8)) v

/-- The raw message owners sign (before the EIP-191 prefix). -/
def breakGlassMessage (chainID number : Nat) (parentHash : Hash) (signers : List Address) :
    List UInt8 :=
  breakGlassPrefix ++ leftPad32 chainID ++ bigEndian 8 number ++ parentHash.bytes ++
    FixedBytes.concat signers

/-- "\x19Ethereum Signed Message:\n". -/
def eip191Prefix : List UInt8 :=
  [25, 69, 116, 104, 101, 114, 101, 117, 109, 32, 83, 105, 103, 110, 101, 100, 32, 77, 101, 115,
    115, 97, 103, 101, 58, 10]

/-- `accounts.TextHash`, the personal_sign hash of a message. -/
def textHash (K : Crypto) (data : List UInt8) : Hash :=
  K.keccak256 (eip191Prefix ++ (Nat.toDigits 10 data.length).map (fun c => UInt8.ofNat c.toNat) ++
    data)

/-- What the owners sign: chain, height, parent and the new signers. -/
def breakGlassDigest (K : Crypto) (chainID number : Nat) (parentHash : Hash)
    (signers : List Address) : Hash :=
  textHash K (breakGlassMessage chainID number parentHash signers)

/-! ### Verification -/

/-- Bring a recovery id of 27 or 28 down to 0 or 1. -/
def normalizeSignature (sig : List UInt8) : List UInt8 :=
  if 27 ≤ sig.getD 64 0 then sig.set 64 (sig.getD 64 0 - 27) else sig

/-- The signature loop of `verifyBreakGlass`: `seen` are the owners so far. -/
def verifyOwners (K : Crypto) (bg : BreakGlassConfig) (digest : Hash) :
    List Address → List (List UInt8) → Except Err (List Address)
  | seen, [] => .ok seen
  | seen, sig :: rest =>
    if sig.length ≠ signatureLength then .error .errBreakGlassBadSignature
    else
      match K.ecrecover digest (normalizeSignature sig) with
      | none => .error .errBreakGlassBadSignature
      | some owner =>
        if !bg.isOwner owner then .error .errBreakGlassBadSignature
        else if owner ∈ seen then .error .errBreakGlassBadSignature
        else verifyOwners K bg digest (owner :: seen) rest

/-- Check an override list and its owner signatures for the block slot
`(number, parentHash)`. -/
def verifyBreakGlass (K : Crypto) (bg : Option BreakGlassConfig) (number : Nat) (parentHash : Hash)
    (signers : List Address) (signatures : List (List UInt8)) : Except Err Unit :=
  match bg with
  | none => .error .errBreakGlassDisabled
  | some bg =>
    if bg.owners.length = 0 || bg.threshold ≤ 0 then .error .errBreakGlassDisabled
    else if signers.length = 0 then .error .errBreakGlassSignerList
    else if signers.contains zeroAddress || !decide (signers.IsChain (· < ·)) then
      .error .errBreakGlassSignerList
    else if signatures.length = 0 || bg.owners.length < signatures.length then
      .error .errBreakGlassBadSignature
    else do
      let seen ← verifyOwners K bg (breakGlassDigest K bg.chainID number parentHash signers) []
        signatures
      if (seen.length : Int) < bg.threshold then .error .errBreakGlassThreshold else .ok ()

/-- The override list carried by `header` after verifying its owner signatures,
or `none` for a header without a break-glass payload. -/
def breakGlassOverrideOf (K : Crypto) (bg : Option BreakGlassConfig) (header : Header) :
    Except Err (Option (List Address)) :=
  if !isBreakGlassExtra header.extra then .ok none
  else do
    let (signers, sigs, _) ← parseCheckpointExtra header.extra
    verifyBreakGlass K bg header.number header.parentHash signers sigs
    .ok (some signers)

def containsAddress (list : List Address) (addr : Address) : Bool := list.contains addr

/-- The list in ascending order; empty lists, duplicates and the zero address are
refused. -/
def sortedUniqueSigners (signers : List Address) : Except Err (List Address) :=
  if signers.length = 0 then .error .errBreakGlassSignerList
  else
    let sorted := signers.insertionSort (· ≤ ·)
    if sorted.contains zeroAddress || !decide (sorted.IsChain (· ≠ ·)) then
      .error .errBreakGlassSignerList
    else .ok sorted

/-! ### The decoder undoes the encoder -/

lemma payloadOf_append (hv : vanity.length = extraVanity)
    (hs : sealBytes.length = extraSeal) : payloadOf (vanity ++ payload ++ sealBytes) = payload := by
  unfold payloadOf
  rw [append_assoc, drop_left' hv]
  apply take_left'
  simp only [length_append, hv, hs]
  omega

lemma length_encodeBreakGlassPayload (signers : List Address)
    (hsigs : ∀ sig ∈ sigs, sig.length = signatureLength) :
    (encodeBreakGlassPayload signers sigs).length =
      signers.length * addressLength + sigs.length * signatureLength + breakGlassTrailerLen := by
  simp only [encodeBreakGlassPayload, length_append, FixedBytes.length_concat,
    length_flatten_of_forall hsigs, breakGlassMagic, length_cons, length_nil, lengths]

/-- `65*M + 9` is 4, 9, 14 or 19 modulo 20, so the encoding is no checkpoint list. -/
lemma length_encodeBreakGlassPayload_mod (signers : List Address)
    (hsigs : ∀ sig ∈ sigs, sig.length = signatureLength) :
    (encodeBreakGlassPayload signers sigs).length % addressLength ≠ 0 := by
  rw [length_encodeBreakGlassPayload signers hsigs]
  simp only [lengths, signatureLength]
  omega

variable {vanity sealBytes : List UInt8} {bg : BreakGlassConfig}
  {extra sig : List UInt8} {digest : Hash} {seen ws : List Address}

section RoundTrip

variable (hv : vanity.length = extraVanity) (hs : sealBytes.length = extraSeal)
include hv hs

lemma isBreakGlassExtra_encode (hne : signers ≠ [])
    (hsigs : ∀ sig ∈ sigs, sig.length = signatureLength) :
    isBreakGlassExtra (vanity ++ encodeBreakGlassPayload signers sigs ++ sealBytes) = true := by
  have hlen := length_encodeBreakGlassPayload signers hsigs
  have hpos : 0 < signers.length := length_pos_iff.mpr hne
  unfold isBreakGlassExtra
  rw [payloadOf_append hv hs, if_neg]
  · simp only [Bool.and_eq_true, bne_iff_ne, ne_eq, isSuffixOf_iff_suffix]
    exact ⟨length_encodeBreakGlassPayload_mod signers hsigs, suffix_append _ _⟩
  · simp only [length_append, hv, hs, hlen, lengths]
    omega

/-- The decoder on a payload whose last signatures are as many as the count says. What stands in
front of them is taken for addresses. -/
lemma parseCheckpointExtra_append {front : List UInt8} {count : UInt8} {k : Nat}
    (hfront : front.length = k * addressLength) (hk : 0 < k)
    (hsigs : ∀ sig ∈ sigs, sig.length = signatureLength) (hcount : count.toNat = sigs.length) :
    let payload := front ++ sigs.flatten ++ [count] ++ breakGlassMagic
    parseCheckpointExtra (vanity ++ payload ++ sealBytes) =
      if sigs.length = 0 then .error .errBreakGlassMalformed
      else .ok (split addressLength k payload, sigs, true) := by
  intro payload
  have hflat := length_flatten_of_forall hsigs
  have hlen : payload.length = k * addressLength + sigs.length * signatureLength +
      breakGlassTrailerLen := by
    simp only [payload, length_append, hfront, hflat]
    rfl
  have hmagic : payload.drop (payload.length - breakGlassMagicLen) = breakGlassMagic := by
    refine drop_left' ?_
    simp only [payload, length_append]
    exact (Nat.add_sub_cancel ..).symm
  have hbyte : payload.getD (payload.length - breakGlassTrailerLen) 0 = count := by
    rw [hlen, Nat.add_sub_cancel, ← hfront, ← hflat, ← length_append]
    simp [payload, getD_eq_getElem?_getD]
  have hslices : slices signatureLength sigs.length (payload.drop (k * addressLength)) = sigs := by
    simp only [payload, append_assoc]
    rw [drop_left' hfront]
    exact slices_flatten hsigs _
  unfold parseCheckpointExtra
  dsimp only
  rw [payloadOf_append hv hs, hbyte, hcount, hmagic, hlen, Nat.add_sub_cancel, Nat.add_sub_cancel,
    hslices, Nat.mul_div_cancel _ (by decide), if_neg, if_neg, if_neg]
  · refine if_congr Iff.rfl rfl (if_neg ?_)
    simp only [addressLength, mul_mod_left, bne_self_eq_false, Bool.or_false, decide_eq_true_eq]
    omega
  · simp only [bne_self_eq_false, Bool.or_false, decide_eq_true_eq]
    omega
  · simp only [lengths, signatureLength]
    omega
  · simp only [length_append, hv, hs]
    omega

/-- The decoder on what the encoder wrote. The number of signatures is kept modulo 256;
the ones that do not count are taken for addresses (256 signatures are 832 addresses). -/
lemma parseCheckpointExtra_encode_mod (hne : signers ≠ [])
    (hsigs : ∀ sig ∈ sigs, sig.length = signatureLength) :
    parseCheckpointExtra (vanity ++ encodeBreakGlassPayload signers sigs ++ sealBytes) =
      if sigs.length % 256 = 0 then .error .errBreakGlassMalformed
      else .ok (FixedBytes.split addressLength (signers.length + 832 * (sigs.length / 256))
        (encodeBreakGlassPayload signers sigs), sigs.drop (256 * (sigs.length / 256)), true) := by
  have hpos : 0 < signers.length := length_pos_iff.mpr hne
  set n := 256 * (sigs.length / 256) with hn
  have hsplit : encodeBreakGlassPayload signers sigs = FixedBytes.concat signers ++
      (sigs.take n).flatten ++ (sigs.drop n).flatten ++ [UInt8.ofNat sigs.length] ++
        breakGlassMagic := by
    rw [append_assoc (FixedBytes.concat signers), ← flatten_append, take_append_drop]
    rfl
  have hdrop : (sigs.drop n).length = sigs.length % 256 := by
    rw [length_drop]
    omega
  rw [hsplit, ← hdrop]
  refine parseCheckpointExtra_append hv hs ?_ (by omega)
    (fun sig hsig => hsigs sig (mem_of_mem_drop hsig)) (hdrop ▸ UInt8.toNat_ofNat')
  rw [length_append, FixedBytes.length_concat,
    length_flatten_of_forall fun sig hsig => hsigs sig (mem_of_mem_take hsig), length_take]
  simp only [signatureLength, addressLength]
  omega
/-- **Round trip.** What the producer embeds is what the verifier reads, as long as
the number of signatures fits the one-byte count. -/
theorem parseCheckpointExtra_encode (hne : signers ≠ [])
    (hsigs : ∀ sig ∈ sigs, sig.length = signatureLength)
    (hpos : 0 < sigs.length) (hlt : sigs.length < 256) :
    parseCheckpointExtra (vanity ++ encodeBreakGlassPayload signers sigs ++ sealBytes) =
      .ok (signers, sigs, true) := by
  have hsplit : FixedBytes.split addressLength signers.length
      (encodeBreakGlassPayload signers sigs) = signers := by
    unfold encodeBreakGlassPayload
    rw [append_assoc, append_assoc]
    exact split_concat signers _
  rw [parseCheckpointExtra_encode_mod hv hs hne hsigs, if_neg (by omega),
    Nat.div_eq_of_lt hlt, Nat.mul_zero, Nat.add_zero, hsplit, drop_zero]

end RoundTrip

/-- The encoder undoes the decoder. -/
lemma payloadOf_eq_encode (h : parseCheckpointExtra extra = .ok (signers, sigs, true)) :
    isBreakGlassExtra extra = true ∧ payloadOf extra = encodeBreakGlassPayload signers sigs := by
  unfold parseCheckpointExtra at h
  dsimp only at h
  have hlen : (payloadOf extra).length = extra.length - extraVanity - extraSeal := by
    simp only [payloadOf, length_take, length_drop]
    omega
  generalize hpayload : payloadOf extra = payload at h hlen ⊢
  split at h
  · cases h
  split at h
  · cases h
  next hwhole =>
  split at h
  · cases h
  next htrailer =>
  split at h
  · cases h
  next hcount =>
  split at h
  · cases h
  next hsigners =>
  simp only [Bool.or_eq_true, decide_eq_true_eq, bne_iff_ne, not_or, not_not, Nat.not_lt]
    at htrailer hsigners
  simp only [Except.ok.injEq, Prod.mk.injEq, and_true] at h
  obtain ⟨rfl, rfl⟩ := h
  have hlast : payload.length - breakGlassTrailerLen < payload.length := by
    simp only [lengths] at htrailer ⊢
    omega
  have hcountByte : payload.getD (payload.length - breakGlassTrailerLen) 0 =
      payload[payload.length - breakGlassTrailerLen] := (getElem_eq_getD 0).symm
  rw [hcountByte] at hcount hsigners ⊢
  set count := payload[payload.length - breakGlassTrailerLen]
  set n := payload.length - breakGlassTrailerLen - count.toNat * signatureLength
  have hn : n + count.toNat * signatureLength = payload.length - breakGlassTrailerLen := by
    simp only [n, addressLength] at hsigners ⊢
    omega
  have htail : payload.drop (payload.length - breakGlassTrailerLen) = count :: breakGlassMagic := by
    rw [drop_eq_getElem_cons hlast, ← htrailer.2]
    congr 2
    simp only [lengths] at htrailer ⊢
    omega
  constructor
  · simp only [lengths] at htrailer hn
    unfold isBreakGlassExtra
    rw [hpayload, if_neg]
    · simp only [Bool.and_eq_true, bne_iff_ne, ne_eq, isSuffixOf_iff_suffix]
      exact ⟨hwhole, htrailer.2 ▸ drop_suffix _ _⟩
    · simp only [lengths] at hsigners ⊢
      omega
  · have hslices : (slices signatureLength count.toNat (payload.drop n)).length = count.toNat := by
      simp [slices]
    have hsplit : n / addressLength * addressLength = n :=
      Nat.div_mul_cancel (Nat.dvd_of_mod_eq_zero hsigners.2)
    have hle : n / addressLength * addressLength ≤ payload.length := by omega
    unfold encodeBreakGlassPayload
    rw [concat_split hle, flatten_slices, hsplit, ← take_add, hn, hslices,
      UInt8.ofNat_toNat, append_assoc, singleton_append, ← htail, take_append_drop]

/-- **The codec of an override.** -/
theorem breakGlass_codec :
    (∀ vanity sealBytes, vanity.length = extraVanity → sealBytes.length = extraSeal →
      ∀ (signers : List Address) sigs, signers ≠ [] → (∀ sig ∈ sigs, sig.length = signatureLength) →
        0 < sigs.length → sigs.length ≤ 255 →
          let extra := vanity ++ encodeBreakGlassPayload signers sigs ++ sealBytes
          isBreakGlassExtra extra = true ∧ parseCheckpointExtra extra = .ok (signers, sigs, true)) ∧
    (∀ extra signers sigs, parseCheckpointExtra extra = .ok (signers, sigs, true) →
      isBreakGlassExtra extra = true ∧ payloadOf extra = encodeBreakGlassPayload signers sigs) ∧
    ∀ extra, (payloadOf extra).length % addressLength = 0 → isBreakGlassExtra extra = false := by
  refine ⟨fun vanity sealBytes hv hs signers sigs hne hsigs hpos hle => ⟨?_, ?_⟩,
    fun extra signers sigs h => payloadOf_eq_encode h, fun extra h => ?_⟩
  · exact isBreakGlassExtra_encode hv hs hne hsigs
  · exact parseCheckpointExtra_encode hv hs hne hsigs hpos (lt_succ_of_le hle)
  · simp [isBreakGlassExtra, h]

/-! ### What an accepted override proves -/

/-- `sig` is a signature over `digest` that recovers to `owner`. -/
def SignedBy (K : Crypto) (digest : Hash) (sig : List UInt8) (owner : Address) : Prop :=
  sig.length = signatureLength ∧ K.ecrecover digest (normalizeSignature sig) = some owner

/-- The list may replace the signer set at `(number, parentHash)`: it is a proper
set, and at least `threshold` pairwise distinct owners signed exactly this chain
id, slot and list. -/
structure ApprovedOverride (K : Crypto) (bg : BreakGlassConfig) (number : Nat) (parentHash : Hash)
    (signers : List Address) (signatures : List (List UInt8)) : Prop where
  nonempty : signers ≠ []
  ascending : signers.Pairwise (· < ·)
  noZero : zeroAddress ∉ signers
  signed : ∃ owners : List Address, owners.Nodup ∧ (∀ o ∈ owners, o ∈ bg.owners) ∧
    bg.threshold ≤ owners.length ∧
    List.Forall₂ (SignedBy K (breakGlassDigest K bg.chainID number parentHash signers))
      signatures owners

lemma ApprovedOverride.signedBy {number : Nat} {parentHash : Hash} {signatures : List (List UInt8)}
    (h : ApprovedOverride K bg number parentHash signers signatures)
    (hsig : sig ∈ signatures) : ∃ owner ∈ bg.owners,
      SignedBy K (breakGlassDigest K bg.chainID number parentHash signers) sig owner := by
  obtain ⟨owners, -, howners, -, hsigned⟩ := h.signed
  clear h
  induction hsigned with
  | nil => cases hsig
  | @cons s owner _ _ hs _ ih =>
    rcases mem_cons.mp hsig with heq | htail
    · exact ⟨owner, howners owner (by simp), heq ▸ hs⟩
    · exact ih htail fun o ho => howners o (by simp [ho])

lemma verifyOwners_cons {rest : List (List UInt8)}
    (h : verifyOwners K bg digest seen (sig :: rest) = .ok ws) :
    ∃ owner, SignedBy K digest sig owner ∧ owner ∈ bg.owners ∧ owner ∉ seen ∧
      verifyOwners K bg digest (owner :: seen) rest = .ok ws := by
  unfold verifyOwners at h
  by_cases hlen : sig.length = signatureLength
  · rw [if_neg (not_not.mpr hlen)] at h
    cases hrec : K.ecrecover digest (normalizeSignature sig) with
    | none => rw [hrec] at h; cases h
    | some owner =>
      rw [hrec] at h
      dsimp only at h
      cases howner : bg.isOwner owner with
      | false => rw [howner] at h; cases h
      | true =>
        rw [howner] at h
        by_cases hseen : owner ∈ seen
        · simp [hseen] at h
        · refine ⟨owner, ⟨hlen, hrec⟩, ?_, hseen, by simpa [hseen] using h⟩
          simpa [BreakGlassConfig.isOwner] using howner
  · rw [if_pos hlen] at h
    cases h

lemma verifyOwners_ok (h : verifyOwners K bg digest seen sigs = .ok ws) (hnd : seen.Nodup) :
    ∃ new : List Address, ws = new.reverse ++ seen ∧ ws.Nodup ∧
      (∀ o ∈ new, o ∈ bg.owners) ∧ List.Forall₂ (SignedBy K digest) sigs new := by
  induction sigs generalizing seen with
  | nil =>
    unfold verifyOwners at h
    cases h
    exact ⟨[], rfl, hnd, by simp, List.Forall₂.nil⟩
  | cons _ _ ih =>
    obtain ⟨owner, hsig, hown, hseen, hrest⟩ := verifyOwners_cons h
    obtain ⟨new, rfl, hws, hmem, hall⟩ := ih hrest (nodup_cons.mpr ⟨hseen, hnd⟩)
    refine ⟨owner :: new, by simp, hws, ?_, List.Forall₂.cons hsig hall⟩
    intro o ho
    rcases mem_cons.mp ho with rfl | ho
    · exact hown
    · exact hmem o ho

variable {bg : Option BreakGlassConfig}

/-- **An accepted override is approved.** -/
theorem verifyBreakGlass_ok {number : Nat} {parentHash : Hash}
    (h : verifyBreakGlass K bg number parentHash signers sigs = .ok ()) :
    ∃ c, bg = some c ∧ 0 < sigs.length ∧ sigs.length ≤ c.owners.length ∧
      ApprovedOverride K c number parentHash signers sigs := by
  cases bg with
  | none => cases h
  | some c =>
    simp only [verifyBreakGlass] at h
    by_cases h1 : (c.owners.length = 0 || c.threshold ≤ 0) = true
    · rw [if_pos h1] at h; cases h
    rw [if_neg h1] at h
    by_cases h2 : signers.length = 0
    · rw [if_pos h2] at h; cases h
    rw [if_neg h2] at h
    by_cases h3 : (signers.contains zeroAddress || !decide (signers.IsChain (· < ·))) = true
    · rw [if_pos h3] at h; cases h
    rw [if_neg h3] at h
    by_cases h4 : (sigs.length = 0 || c.owners.length < sigs.length) = true
    · rw [if_pos h4] at h; cases h
    rw [if_neg h4, bind_eq_ok] at h
    obtain ⟨ws, hws, hth⟩ := h
    obtain ⟨new, hnew, hnd, hmem, hall⟩ := verifyOwners_ok hws nodup_nil
    simp only [Bool.or_eq_true, Bool.not_eq_true', decide_eq_false_iff_not, not_or,
      contains_iff_mem, not_not, decide_eq_true_eq, not_lt] at h3 h4
    have hlen : ws.length = new.length := by rw [hnew]; simp
    refine ⟨c, rfl, by omega, h4.2, ?_, h3.2.pairwise, h3.1, new, ?_, hmem, ?_, hall⟩
    · intro hnil
      exact h2 (by simp [hnil])
    · rw [hnew, append_nil] at hnd
      exact nodup_reverse.mp hnd
    · by_contra hlt
      rw [if_pos (by rw [hlen]; omega)] at hth
      cases hth

lemma parseCheckpointExtra_plain
    (h : parseCheckpointExtra extra = .ok (signers, sigs, false)) : sigs = [] := by
  unfold parseCheckpointExtra at h
  dsimp only at h
  split at h
  · cases h
  split at h
  · simp only [Except.ok.injEq, Prod.mk.injEq] at h
    exact h.2.1.symm
  split at h
  · cases h
  split at h
  · cases h
  split at h
  · cases h
  · simp at h

variable {header : Header}

lemma breakGlassOverrideOf_none (h : isBreakGlassExtra header.extra = false) :
    breakGlassOverrideOf K bg header = .ok none := by
  simp [breakGlassOverrideOf, h]

/-- A header that yields an override list carries it, with an approval for its own
slot. -/
lemma breakGlassOverrideOf_some (h : breakGlassOverrideOf K bg header = .ok (some signers)) :
    isBreakGlassExtra header.extra = true ∧
      ∃ c sigs, bg = some c ∧ parseCheckpointExtra header.extra = .ok (signers, sigs, true) ∧
        ApprovedOverride K c header.number header.parentHash signers sigs := by
  unfold breakGlassOverrideOf at h
  cases hbg : isBreakGlassExtra header.extra with
  | false => simp [hbg] at h
  | true =>
    simp only [hbg, Bool.not_true, Bool.false_eq_true, if_false, bind_eq_ok] at h
    obtain ⟨⟨l, sigs, b⟩, hparse, ⟨⟩, hver, hl⟩ := h
    obtain rfl : l = signers := by simpa using hl
    obtain ⟨c, rfl, hpos, -, happ⟩ := verifyBreakGlass_ok hver
    refine ⟨rfl, c, sigs, rfl, ?_, happ⟩
    -- a plain checkpoint list comes with no signatures, so the flag is set
    cases b with
    | true => exact hparse
    | false =>
      rw [parseCheckpointExtra_plain hparse] at hpos
      simp at hpos

/-- The override depends on the slot, and on the extra-data only through its length and
the section between vanity and seal. -/
lemma breakGlassOverrideOf_congr (K : Crypto) (bg : Option BreakGlassConfig)
    {header' : Header} (hnumber : header'.number = header.number)
    (hparent : header'.parentHash = header.parentHash)
    (hlen : header'.extra.length = header.extra.length)
    (hpayload : payloadOf header'.extra = payloadOf header.extra) :
    isBreakGlassExtra header'.extra = isBreakGlassExtra header.extra ∧
      breakGlassOverrideOf K bg header' = breakGlassOverrideOf K bg header := by
  have hextra : isBreakGlassExtra header'.extra = isBreakGlassExtra header.extra := by
    unfold isBreakGlassExtra
    rw [hlen, hpayload]
  have hparse : parseCheckpointExtra header'.extra = parseCheckpointExtra header.extra := by
    unfold parseCheckpointExtra
    rw [hlen, hpayload]
  refine ⟨hextra, ?_⟩
  unfold breakGlassOverrideOf
  rw [hextra, hparse, hnumber, hparent]

lemma plainExtra (hv : vanity.length = extraVanity)
    (hs : sealBytes.length = extraSeal) (hmod : payload.length % addressLength = 0) :
    isBreakGlassExtra (vanity ++ payload ++ sealBytes) = false ∧
      Returns (parseCheckpointExtra (vanity ++ payload ++ sealBytes)) := by
  constructor
  · unfold isBreakGlassExtra
    rw [payloadOf_append hv hs, hmod]
    simp
  · unfold parseCheckpointExtra
    dsimp only
    rw [payloadOf_append hv hs, if_neg (by simp only [length_append, hv, hs]; omega),
      if_pos hmod]
    exact returns_ok

/-- A header with a break-glass payload yields a list or an error, never
"no override". -/
lemma breakGlassOverrideOf_ne_none (h : isBreakGlassExtra header.extra = true) :
    breakGlassOverrideOf K bg header ≠ .ok none := by
  intro hnone
  simp only [breakGlassOverrideOf, h, Bool.not_true, Bool.false_eq_true, if_false, bind_eq_ok]
    at hnone
  obtain ⟨_, _, _, _, hl⟩ := hnone
  cases hl

end Ferminux.Clique
