import Ferminux.Clique.Recency
import Ferminux.Posa.Engine

/-!
# Posa.Producer

**The producer agrees with the verifier.** A header goes through `Prepare`,
`FinalizeAndAssemble` and `Seal` on the node that produces it, and through `verifyHeader`
and `Finalize` on every other. Difficulty, extra-data, vote fields and recency are
computed on one side and derived again on the other.

`Prepare` builds one of three kinds of header (`PreparedAs`): one that embeds the armed
override, a checkpoint with the signer list, or a plain one with a vote. What follows
only touches other fields, and the last 65 bytes of the extra-data. A header of any kind,
once sealed by a signer that `Seal` permits, passes the two halves of `verifyHeader`.
-/

namespace Ferminux.Posa

open Lib Clique List StoreM Engine

variable {c : Clique.Engine} {K : Crypto}

/-! ### Armed overrides -/

/-- The armed override, if there is one, verifies for its slot. -/
def Armed (K : Crypto) (c : Clique.Engine) : Prop :=
  ∀ pending, c.bgPending = some pending → verifyBreakGlass K c.breakGlass pending.number
    pending.parentHash pending.signers pending.signatures = .ok ()

/-- `ArmBreakGlass` arms only what verifies. -/
lemma armBreakGlass_armed {c' : Clique.Engine} {number : Nat} {parentHash : Hash}
    {signers : List Address} {signatures : List (List UInt8)}
    (h : armBreakGlass K c number parentHash signers signatures = .ok c') : Armed K c' := by
  unfold armBreakGlass at h
  cases hbg : c.breakGlass with
  | none => rw [hbg] at h; cases h
  | some =>
    rw [hbg] at h
    obtain ⟨-, -, h⟩ := bind_eq_ok.mp h
    obtain ⟨sorted, -, h⟩ := bind_eq_ok.mp h
    obtain ⟨⟨⟩, hverify, h⟩ := bind_eq_ok.mp h
    cases h
    intro pending hpending
    cases hpending
    exact hverify

lemma prepare_armed (h : Armed K c) (header : Header) :
    Armed K { c with bgPending := pendingAfter c header } := by
  intro pending hpending
  exact h pending (Option.filter_eq_some_iff.mp hpending).1

/-- An override with more signatures than the one-byte count holds is read back as
another list; no owner signed that one. -/
def Unforged (K : Crypto) (c : Clique.Engine) : Prop :=
  ∀ pending bg, c.bgPending = some pending → c.breakGlass = some bg →
    256 ≤ pending.signatures.length → ∀ sig ∈ pending.signatures, ∀ owner ∈ bg.owners, ∀ signers,
      SignedBy K (breakGlassDigest K bg.chainID pending.number pending.parentHash signers) sig owner →
      signers = pending.signers

/-- **The override is read back.** A header that carries the armed override, and from
which any override can be had, yields the armed list. -/
theorem override_eq_pending {pending : BreakGlassOverride}
    {header : Header} {vanity sealBytes : List UInt8} {override : List Address} (harmed : Armed K c)
    (hunforged : Unforged K c) (hpending : c.bgPending = some pending)
    (hnumber : pending.number = header.number) (hparent : pending.parentHash = header.parentHash)
    (hv : vanity.length = extraVanity) (hs : sealBytes.length = extraSeal) (hextra : header.extra =
      vanity ++ encodeBreakGlassPayload pending.signers pending.signatures ++ sealBytes)
    (h : breakGlassOverrideOf K c.breakGlass header = .ok (some override)) :
    override = pending.signers := by
  obtain ⟨bg, hbg, hpos, -, happroved⟩ := verifyBreakGlass_ok (harmed pending hpending)
  have hlen : ∀ sig ∈ pending.signatures, sig.length = signatureLength := by
    intro sig hsig
    obtain ⟨_, -, hsigned⟩ := happroved.signedBy hsig
    exact hsigned.1
  obtain ⟨-, bg', sigs, hbg', hparse, happroved'⟩ := breakGlassOverrideOf_some h
  rw [hextra] at hparse
  by_cases hfew : pending.signatures.length < 256
  · rw [parseCheckpointExtra_encode hv hs happroved.nonempty hlen hpos hfew] at hparse
    cases hparse
    rfl
  · -- the count wrapped around: any signature left over is one over the armed list
    obtain rfl : bg' = bg := Option.some.inj (hbg'.symm.trans hbg)
    rw [parseCheckpointExtra_encode_mod hv hs happroved.nonempty hlen] at hparse
    by_cases hzero : pending.signatures.length % 256 = 0
    · rw [if_pos hzero] at hparse; cases hparse
    rw [if_neg hzero] at hparse
    simp only [Except.ok.injEq, Prod.mk.injEq, and_true] at hparse
    obtain ⟨-, hsigs⟩ := hparse
    have hlast : 0 < sigs.length := by
      rw [← hsigs, length_drop]
      omega
    have hmem : sigs.get ⟨0, hlast⟩ ∈ sigs := get_mem _ _
    obtain ⟨owner, howner, hsigned⟩ := happroved'.signedBy hmem
    rw [← hnumber, ← hparent] at hsigned
    exact hunforged pending bg' hpending hbg (Nat.le_of_not_lt hfew) _
      (mem_of_mem_drop (by rw [hsigs]; exact hmem)) owner howner override hsigned

/-! ### The three kinds of header -/

/-- The header is one that `Prepare` builds on `S`, with `payload` between vanity and
seal. -/
inductive PreparedAs (c : Clique.Engine) (S : Snapshot) (header : Header) : List UInt8 → Prop
  /-- It embeds the armed override and casts no vote. -/
  | override (pending : BreakGlassOverride) (hpending : c.bgPending = some pending)
      (hnumber : pending.number = header.number) (hparent : pending.parentHash = header.parentHash)
      (hcoinbase : header.coinbase = zeroAddress) (hnonce : header.nonce = nonceDropVote)
      (hdiff : calcDifficultyAmong pending.signers header.number c.signer =
        .ok header.difficulty) :
      PreparedAs c S header (encodeBreakGlassPayload pending.signers pending.signatures)
  /-- It lists the signers and casts no vote. -/
  | checkpoint (hepoch : header.number % c.config.epoch = 0)
      (hcoinbase : header.coinbase = zeroAddress) (hnonce : header.nonce = nonceDropVote)
      (hdiff : calcDifficulty S c.signer = .ok header.difficulty) :
      PreparedAs c S header (FixedBytes.concat S.signersAscending)
  /-- It may cast a vote. -/
  | plain (hepoch : header.number % c.config.epoch ≠ 0)
      (hnonce : header.nonce = nonceAuthVote ∨ header.nonce = nonceDropVote)
      (hdiff : calcDifficulty S c.signer = .ok header.difficulty) : PreparedAs c S header []

lemma PreparedAs.congr {S : Snapshot} {header header' : Header}
    {payload : List UInt8} (h : PreparedAs c S header payload)
    (hnumber : header'.number = header.number) (hparent : header'.parentHash = header.parentHash)
    (hcoinbase : header'.coinbase = header.coinbase) (hnonce : header'.nonce = header.nonce)
    (hdiff : header'.difficulty = header.difficulty) : PreparedAs c S header' payload := by
  cases h with
  | override pending h1 h2 h3 h4 h5 h6 =>
    exact .override pending h1 (by rw [hnumber, h2]) (by rw [hparent, h3])
      (by rw [hcoinbase, h4]) (by rw [hnonce, h5]) (by rw [hnumber, hdiff, h6])
  | checkpoint h1 h2 h3 h4 =>
    exact .checkpoint (by rw [hnumber, h1]) (by rw [hcoinbase, h2]) (by rw [hnonce, h3])
      (by rw [hdiff, h4])
  | plain h1 h2 h3 =>
    exact .plain (by rw [hnumber]; exact h1) (by rw [hnonce]; exact h2) (by rw [hdiff, h3])

lemma length_vanityOf {extra : List UInt8} : (vanityOf extra).length = extraVanity := by
  rw [vanityOf, length_take_of_le]
  rw [length_append, length_replicate]
  omega

lemma chooseVote_nonce (c : Clique.Engine) (s : AuthState) (rand : Nat) :
    (chooseVote c s rand).2 = nonceAuthVote ∨ (chooseVote c s rand).2 = nonceDropVote := by
  unfold chooseVote
  dsimp only
  split
  · exact .inr rfl
  · split
    · exact .inl rfl
    · exact .inr rfl

/-- **What `Prepare` builds.** -/
theorem prepareWith_ok {S : Snapshot} {rand : Nat} {header prepared : Header}
    (h : prepareWith c S rand header = .ok prepared) : ∃ payload, PreparedAs c S prepared payload ∧
      prepared.extra = vanityOf header.extra ++ payload ++ replicate extraSeal 0 ∧
      prepared.mixDigest = zeroHash ∧ prepared.number = header.number ∧
      prepared.parentHash = header.parentHash := by
  obtain ⟨difficulty, hdiff, heq⟩ := bind_eq_ok.mp h
  cases heq
  refine ⟨preparedPayload c S.toAuthState header, ?_, rfl, rfl, rfl, rfl⟩
  cases hembed : embedded c header with
  | some pending =>
    have hvote : preparedVote c S.toAuthState rand header = (zeroAddress, FixedBytes.zero 8) := by
      rw [preparedVote, hembed, if_neg (by simp)]
    obtain ⟨hpending, hslot⟩ := Option.filter_eq_some_iff.mp hembed
    simp only [Bool.and_eq_true, beq_iff_eq] at hslot
    rw [preparedDifficulty, hembed] at hdiff
    rw [preparedPayload, hembed, hvote]
    exact .override pending hpending hslot.1 hslot.2 rfl rfl hdiff
  | none =>
    rw [preparedDifficulty, hembed] at hdiff
    rw [preparedPayload, hembed]
    by_cases hepoch : header.number % c.config.epoch = 0
    · have hvote : preparedVote c S.toAuthState rand header = (zeroAddress, FixedBytes.zero 8) := by
        rw [preparedVote, if_neg (by simp [hepoch])]
      simp only [hepoch, if_true, hvote]
      exact .checkpoint hepoch rfl rfl hdiff
    · have hvote : preparedVote c S.toAuthState rand header = chooseVote c S.toAuthState rand := by
        rw [preparedVote, if_pos ⟨hepoch, hembed⟩]
      simp only [hepoch, if_false, hvote]
      exact .plain hepoch (chooseVote_nonce c S.toAuthState rand) hdiff

/-! ### What the verifier makes of them -/

lemma guarded {bad : Bool} {e : Err} {α : Type} {f : Unit → Except Err α} {a : α}
    (hbad : bad = false) (h : f () = .ok a) : guardErr bad e >>= f = .ok a :=
  bind_eq_ok.mpr ⟨(), guardErr_eq_ok.mpr hbad, h⟩

variable {now : Nat}

lemma verifyStandalone_ok {chain : ChainHeaderReader} {header : Header} (htime : header.time ≤ now)
    (hnonce : header.nonce = nonceAuthVote ∨ header.nonce = nonceDropVote)
    (hlen : extraVanity + extraSeal ≤ header.extra.length)
    (hquiet : header.number % c.config.epoch = 0 ∨ isBreakGlassExtra header.extra = true →
      header.coinbase = zeroAddress ∧ header.nonce = nonceDropVote ∧
        Returns (parseCheckpointExtra header.extra))
    (hplain : header.number % c.config.epoch ≠ 0 → isBreakGlassExtra header.extra = false →
      header.extra.length = extraVanity + extraSeal)
    (hmix : header.mixDigest = zeroHash) (huncle : header.uncleHash = K.emptyUncleHash)
    (hdiff : header.difficulty = diffInTurn ∨ header.difficulty = diffNoTurn)
    (hgas : header.gasLimit ≤ maxGasLimit)
    (hfork : verifyForkHashes K chain.config header = .ok ()) :
    verifyStandalone K c chain now header = .ok () := by
  have hrest : (do
      guardErr (isBreakGlassExtra header.extra &&
        (header.coinbase != zeroAddress || header.nonce != nonceDropVote)) .errBreakGlassVote
      guardErr (header.mixDigest != zeroHash) .errInvalidMixDigest
      guardErr (header.uncleHash != K.emptyUncleHash) .errInvalidUncleHash
      guardErr (decide (0 < header.number) && header.difficulty != diffInTurn &&
        header.difficulty != diffNoTurn) .errInvalidDifficulty
      guardErr (maxGasLimit < header.gasLimit) .errGasLimitTooHigh
      verifyForkHashes K chain.config header) = .ok () := by
    refine guarded ?_ ?_
    · cases hbg : isBreakGlassExtra header.extra with
      | false => rfl
      | true =>
        obtain ⟨hcoinbase, hdrop, -⟩ := hquiet (.inr hbg)
        simp [hcoinbase, hdrop]
    refine guarded (by simp [hmix]) ?_
    refine guarded (by simp [huncle]) ?_
    refine guarded ?_ ?_
    · rcases hdiff with h | h <;> simp [h]
    exact guarded (by simpa using hgas) hfork
  unfold verifyStandalone
  dsimp only
  refine guarded (by simpa using htime) ?_
  refine guarded ?_ ?_
  · by_cases hepoch : header.number % c.config.epoch = 0
    · simp [(hquiet (.inl hepoch)).1]
    · simp [hepoch]
  refine guarded ?_ ?_
  · rcases hnonce with h | h <;> simp [h]
  refine guarded ?_ ?_
  · by_cases hepoch : header.number % c.config.epoch = 0
    · simp [(hquiet (.inl hepoch)).2.1]
    · simp [hepoch]
  refine guarded (decide_eq_false (by omega)) ?_
  refine guarded (decide_eq_false (by omega)) ?_
  by_cases hlist : header.number % c.config.epoch = 0 ∨ isBreakGlassExtra header.extra = true
  · obtain ⟨-, -, parsed, hparsed⟩ := hquiet hlist
    refine guarded ?_ ?_
    · rcases hlist with h | h <;> simp [h]
    rw [if_pos (by simpa using hlist)]
    exact bind_eq_ok.mpr ⟨parsed, hparsed, hrest⟩
  · obtain ⟨hepoch, hbg⟩ := not_or.mp hlist
    refine guarded ?_ ?_
    · rw [hplain hepoch (Bool.eq_false_of_not_eq_true hbg)]
      simp
    rw [if_neg (by simpa using hlist)]
    exact hrest

lemma turn_difficulty {inturn : Except Err Bool} {difficulty : Nat} (h : (do
      let turn ← inturn
      .ok (if turn then diffInTurn else diffNoTurn)) = Except.ok difficulty) :
    (difficulty = diffInTurn ∨ difficulty = diffNoTurn) ∧
      ∀ fakeDiff, verifyTurn fakeDiff inturn difficulty = .ok () := by
  obtain ⟨turn, hturn, heq⟩ := bind_eq_ok.mp h
  cases heq
  refine ⟨?_, ?_⟩
  · cases turn with
    | true => exact .inl rfl
    | false => exact .inr rfl
  · intro fakeDiff
    cases fakeDiff with
    | true => rfl
    | false => exact bind_eq_ok.mpr ⟨turn, hturn, guardErr_eq_ok.mpr (by simp)⟩

section Sealed

variable {K : Crypto} {c v : Clique.Engine} {chain : ChainHeaderReader} {S : Snapshot}
  {header : Header} {vanity payload sealBytes : List UInt8}

lemma PreparedAs.difficulty_cases (h : PreparedAs c S header payload) :
    header.difficulty = diffInTurn ∨ header.difficulty = diffNoTurn := by
  cases h with
  | override _ _ _ _ _ _ hdiff | checkpoint _ _ _ hdiff | plain _ _ hdiff =>
    exact (turn_difficulty hdiff).1

lemma PreparedAs.nonce_cases (h : PreparedAs c S header payload) :
    header.nonce = nonceAuthVote ∨ header.nonce = nonceDropVote := by
  cases h with
  | override _ _ _ _ _ hnonce | checkpoint _ _ hnonce => exact .inr hnonce
  | plain _ hnonce => exact hnonce

lemma Armed.isBreakGlassExtra (h : Armed K c) {pending : BreakGlassOverride}
    (hpending : c.bgPending = some pending) (hv : vanity.length = extraVanity)
    (hs : sealBytes.length = extraSeal) : isBreakGlassExtra (vanity ++
      encodeBreakGlassPayload pending.signers pending.signatures ++ sealBytes) = true := by
  obtain ⟨bg, -, -, -, happroved⟩ := verifyBreakGlass_ok (h pending hpending)
  refine isBreakGlassExtra_encode hv hs happroved.nonempty ?_
  intro sig hsig
  obtain ⟨_, -, hsigned⟩ := happroved.signedBy hsig
  exact hsigned.1

/-- A break-glass header that `Seal` permits yields an override with the local signer in
it. -/
lemma sealPermit_breakGlass (hbg : isBreakGlassExtra header.extra = true)
    (h : sealPermit K c S.toAuthState header = .ok ()) :
    ∃ override, breakGlassOverrideOf K c.breakGlass header = .ok (some override) ∧
      containsAddress override c.signer = true := by
  rw [sealPermit, if_pos hbg] at h
  obtain ⟨override, hoverride, hmem⟩ := bind_eq_ok.mp h
  cases override with
  | none => exact absurd hoverride (breakGlassOverrideOf_ne_none hbg)
  | some override => exact ⟨override, hoverride, by simpa using hmem⟩

/-- **A prepared header, sealed with a permit, passes the checks on the header alone.** -/
theorem verifyStandalone_of_prepared (hprep : PreparedAs c S header payload)
    (harmed : Armed K c) (hpermit : sealPermit K c S.toAuthState header = .ok ())
    (hconfig : v.config = c.config) (hv : vanity.length = extraVanity)
    (hs : sealBytes.length = extraSeal) (hextra : header.extra = vanity ++ payload ++ sealBytes)
    (htime : header.time ≤ now) (hmix : header.mixDigest = zeroHash)
    (huncle : header.uncleHash = K.emptyUncleHash) (hgas : header.gasLimit ≤ maxGasLimit)
    (hfork : verifyForkHashes K chain.config header = .ok ()) :
    verifyStandalone K v chain now header = .ok () := by
  have hlen : header.extra.length = extraVanity + payload.length + extraSeal := by
    rw [hextra, length_append, length_append, hv, hs]
  refine verifyStandalone_ok htime hprep.nonce_cases (by omega) ?_ ?_ hmix huncle
    hprep.difficulty_cases hgas hfork
  · intro hlist
    rw [hconfig] at hlist
    cases hprep with
    | override _ hpending _ _ hcoinbase hnonce =>
      have hbg := harmed.isBreakGlassExtra hpending hv hs
      rw [← hextra] at hbg
      obtain ⟨override, hoverride, -⟩ := sealPermit_breakGlass hbg hpermit
      obtain ⟨-, _, _, -, hparse, -⟩ := breakGlassOverrideOf_some hoverride
      exact ⟨hcoinbase, hnonce, _, hparse⟩
    | checkpoint _ hcoinbase hnonce =>
      refine ⟨hcoinbase, hnonce, ?_⟩
      rw [hextra]
      exact (plainExtra hv hs (by simp)).2
    | plain hepoch =>
      have hbg : isBreakGlassExtra (vanity ++ [] ++ sealBytes) = false := (plainExtra hv hs rfl).1
      rw [← hextra] at hbg
      rw [hbg] at hlist
      simp [hepoch] at hlist
  · intro hepoch hbg
    rw [hconfig] at hepoch
    cases hprep with
    | override _ hpending =>
      rw [hextra, harmed.isBreakGlassExtra hpending hv hs] at hbg
      cases hbg
    | checkpoint h => exact absurd h hepoch
    | plain => simpa using hlen

/-- The rule of `verifySeal` is at most as strict as the one of `Seal`. -/
lemma mustWait_of_recentlySigned {s : AuthState} {number : Nat} {signer : Address}
    (h : recentlySigned s number signer = true) : mustWait s number signer = true := by
  rw [recentlySigned, Map.anyEntry_iff] at h
  rw [mustWait, Map.anyEntry_iff]
  obtain ⟨seen, recent, hfound, hrecent⟩ := h
  refine ⟨seen, recent, hfound, ?_⟩
  simp only [Bool.and_eq_true, decide_eq_true_eq, Bool.or_eq_true] at hrecent ⊢
  refine ⟨hrecent.1, ?_⟩
  by_cases hlt : number < recencyLimit s.signers.card
  · exact .inl hlt
  · rw [subUint64_of_le (Nat.le_of_not_lt hlt)] at hrecent
    exact .inr hrecent.2

/-- `verifySeal` accepts what `Seal` permits, with the difficulty of the turn. -/
lemma verifySeal_of_permit (hpos : 0 < header.number) (hsigner : ecrecover K header = .ok c.signer)
    (hmember : c.signer ∈ S.signers) (hwait : mustWait S.toAuthState header.number c.signer = false)
    (hdiff : verifyTurn v.fakeDiff (S.inturn header.number c.signer) header.difficulty = .ok ()) :
    verifySeal K v S.toAuthState header = .ok () := by
  have hrecent : recentlySigned S.toAuthState header.number c.signer = false := by
    rw [← Bool.not_eq_true]
    intro h
    rw [mustWait_of_recentlySigned h] at hwait
    cases hwait
  refine guarded (by simp; omega) ?_
  refine bind_eq_ok.mpr ⟨c.signer, ?_, hdiff⟩
  refine bind_eq_ok.mpr ⟨c.signer, hsigner, ?_⟩
  refine guarded (by simpa using hmember) ?_
  exact guarded hrecent rfl

/-- **A prepared header, sealed with a permit, passes the checks against the snapshot.** -/
theorem verifyAgainst_of_prepared (hprep : PreparedAs c S header payload) (harmed : Armed K c)
    (hunforged : Unforged K c) (hpermit : sealPermit K c S.toAuthState header = .ok ())
    (hconfig : v.config = c.config) (hbreakGlass : v.breakGlass = c.breakGlass)
    (hnumber : S.number + 1 = header.number) (hsigner : ecrecover K header = .ok c.signer)
    (hv : vanity.length = extraVanity) (hs : sealBytes.length = extraSeal)
    (hextra : header.extra = vanity ++ payload ++ sealBytes) :
    verifyAgainst K v S.toAuthState header = .ok () := by
  -- without an override, only the signer list of a checkpoint is left to compare
  have hplain : isBreakGlassExtra header.extra = false →
      calcDifficulty S c.signer = .ok header.difficulty →
      (header.number % v.config.epoch = 0 → payload = FixedBytes.concat S.signersAscending) →
      verifyAgainst K v S.toAuthState header = .ok () := by
    intro hbg hdiff hlist
    rw [sealPermit, if_neg (by simp [hbg])] at hpermit
    obtain ⟨⟨⟩, hmember, hwait⟩ := bind_eq_ok.mp hpermit
    have hturn := (turn_difficulty hdiff).2 v.fakeDiff
    rw [hnumber] at hturn
    rw [verifyAgainst, if_neg (by simp [hbg])]
    refine guarded ?_ (verifySeal_of_permit (by omega) hsigner
      (by simpa using hmember) (by simpa using hwait) hturn)
    by_cases hepoch : header.number % v.config.epoch = 0
    · rw [hextra, payloadOf_append hv hs, hlist hepoch]
      simp
    · simp [hepoch]
  cases hprep with
  | override _ hpending hnum hparent _ _ hdiff =>
    have hbg := harmed.isBreakGlassExtra hpending hv hs
    rw [← hextra] at hbg
    obtain ⟨override, hoverride, hmem⟩ := sealPermit_breakGlass hbg hpermit
    obtain rfl := override_eq_pending harmed hunforged hpending hnum hparent hv hs hextra hoverride
    rw [verifyAgainst, if_pos hbg, hbreakGlass]
    refine bind_eq_ok.mpr ⟨_, hoverride, ?_⟩
    refine bind_eq_ok.mpr ⟨c.signer, ?_, (turn_difficulty hdiff).2 v.fakeDiff⟩
    refine bind_eq_ok.mpr ⟨c.signer, hsigner, ?_⟩
    exact guarded (by simpa using hmem) rfl
  | checkpoint _ _ _ hdiff =>
    refine hplain ?_ hdiff fun _ => rfl
    rw [hextra]
    exact (plainExtra hv hs (by simp)).1
  | plain hepoch _ hdiff =>
    refine hplain ?_ hdiff fun h => absurd h (by rw [hconfig]; exact hepoch)
    rw [hextra]
    exact (plainExtra hv hs rfl).1

/-- `verifyHeader` without explicit parents, taken apart. -/
lemma verifyHeader_ok {σ : Type} {D : SnapshotStore σ} {parent : Header} {st : σ}
    (hpos : 0 < header.number) (hstandalone : verifyStandalone K v chain now header = .ok ())
    (hparent : chain.getHeader header.parentHash (header.number - 1) = some parent)
    (hverify : verifyParent K v chain parent header = .ok ())
    (hsnap : (snapshot K D v chain (header.number - 1) header.parentHash [] st).1 = .ok S)
    (hagainst : verifyAgainst K v S.toAuthState header = .ok ()) :
    (verifyHeader K D v chain now header [] st).1 = .ok () := by
  unfold Clique.verifyHeader verifyCascadingFields parentOf
  refine bind_eq_ok.mpr ⟨(), by rw [liftM_apply, hstandalone], ?_⟩
  rw [liftM_apply, if_neg (by omega)]
  simp only [getLast?_nil, hparent]
  refine bind_eq_ok.mpr ⟨(), by rw [liftM_apply, hverify], ?_⟩
  refine bind_eq_ok.mpr ⟨S, hsnap, ?_⟩
  rw [liftM_apply, hagainst]

end Sealed

/-! ### Sealing -/

/-- What the wallet returns for a message is a signature of `signer` over its hash. -/
def Signs (K : Crypto) (signFn : List UInt8 → Except Err (List UInt8)) (signer : Address) : Prop :=
  ∀ msg sig, signFn msg = .ok sig →
    sig.length = signatureLength ∧ K.ecrecover (K.keccak256 msg) sig = some signer

variable {signFn : List UInt8 → Except Err (List UInt8)}

section Signature

variable {K : Crypto} {header : Header} {front blank sig : List UInt8}

lemma withSignature_eq (hextra : header.extra = front ++ blank) (hblank : blank.length = extraSeal)
    (hsig : sig.length = extraSeal) :
    withSignature header sig = { header with extra := front ++ sig } := by
  have hlen : header.extra.length = front.length + extraSeal := by
    rw [hextra, length_append, hblank]
  have hstart : header.extra.length - extraSeal = front.length := by omega
  have htake : sig.take (header.extra.length - front.length) = sig := by
    rw [take_of_length_le]
    omega
  unfold withSignature
  simp only [hstart, htake]
  rw [drop_of_length_le (by omega), append_nil, hextra, take_left]

lemma cliqueRLP_eq (hextra : header.extra = front ++ blank) (hblank : blank.length = extraSeal) :
    cliqueRLP K header = K.rlpHeader { header with extra := front } := by
  unfold cliqueRLP
  rw [hextra, length_append, hblank, Nat.add_sub_cancel, take_left]

/-- The signer of a sealed header is recovered: the seal is not part of what is signed. -/
theorem ecrecover_withSignature {signer : Address}
    (hsigns : Signs K signFn signer) (hextra : header.extra = front ++ blank)
    (hblank : blank.length = extraSeal) (h : signFn (cliqueRLP K header) = .ok sig) :
    ecrecover K (withSignature header sig) = .ok signer := by
  obtain ⟨hlen, hrecover⟩ := hsigns _ _ h
  have hrlp : cliqueRLP K { header with extra := front ++ sig } = cliqueRLP K header := by
    rw [cliqueRLP_eq hextra hblank]
    exact cliqueRLP_eq rfl hlen
  rw [withSignature_eq hextra hblank hlen]
  unfold ecrecover sealHash
  rw [hrlp, if_neg (by simp [hlen, extraSeal])]
  simp [hlen, extraSeal, hrecover]

lemma ecrecover_blank (hblank : ∀ digest, K.ecrecover digest (replicate extraSeal 0) = none)
    (hextra : header.extra = front ++ replicate extraSeal 0) :
    ecrecover K header = .error .errEcrecover := by
  have hdrop : header.extra.drop (header.extra.length - extraSeal) = replicate extraSeal 0 := by
    rw [hextra, length_append, length_replicate, Nat.add_sub_cancel, drop_left]
  unfold ecrecover
  rw [hdrop, hblank, if_neg (by simp [hextra])]

end Signature

/-! ### The three steps of the producer -/

section Steps

variable {σ τ : Type} {K : Crypto} {D : SnapshotStore σ} {A : Engine.StateOps τ} {p : Engine}
  {chain : ChainHeaderReader} {S : Snapshot} {header : Header}
  {rand : Nat} {st : σ} {parent : Header}

/-- A header of a block that `FinalizeAndAssemble` assembled and nobody sealed yet. -/
structure Unsealed (K : Crypto) (c : Clique.Engine) (S : Snapshot) (parent header : Header)
    (vanity payload : List UInt8) : Prop where
  kind : PreparedAs c S header payload
  length_vanity : vanity.length = extraVanity
  extra : header.extra = vanity ++ payload ++ List.replicate extraSeal 0
  mixDigest : header.mixDigest = zeroHash
  uncleHash : header.uncleHash = K.emptyUncleHash
  time : parent.time + c.config.period ≤ header.time

lemma prepare_ok {prepared : Header} (hposa : p.isPosaHeader header = true)
    (hsnap : (snapshot K D p.poa chain (header.number - 1) header.parentHash [] st).1 = .ok S)
    (hparent : chain.getHeader header.parentHash (header.number - 1) = some parent)
    (h : (p.prepare K D chain now rand header st).1 = .ok (prepared, c)) :
    c = { p.poa with bgPending := pendingAfter p.poa header } ∧
      prepared.number = header.number ∧ prepared.parentHash = header.parentHash ∧
      ∃ payload, Unsealed K p.poa S parent { prepared with uncleHash := K.emptyUncleHash }
        (vanityOf header.extra) payload := by
  rw [Engine.prepare, if_pos hposa] at h
  obtain ⟨S', hsnap', h⟩ := bind_eq_ok.mp h
  obtain rfl : S = S' := Except.ok.inj (hsnap.symm.trans hsnap')
  obtain ⟨fields, hfields, h⟩ := bind_eq_ok.mp h
  rw [hparent] at h
  cases h
  obtain ⟨payload, hkind, hextra, hmix, hnumber, hpar⟩ := prepareWith_ok hfields
  exact ⟨rfl, hnumber, hpar, payload, hkind.congr rfl rfl rfl rfl rfl, length_vanityOf, hextra,
    hmix, rfl, le_max_left _ _⟩

lemma finalizeAndAssemble_ok {assembled : Header} {state state' : τ} {body : Engine.Body}
    (hposa : p.isPosaHeader header = true) (hblank : ecrecover K header = .error .errEcrecover)
    (h : p.finalizeAndAssemble K A chain header state body = .ok (assembled, state')) :
    assembled = newBlock K (p.payReward K A chain header state p.signer).1 body ∧
      state' = (p.payReward K A chain header state p.signer).2 := by
  rw [finalizeAndAssemble, if_neg (by simp [hposa]), hblank] at h
  dsimp only at h
  split at h
  · cases h
  · cases h
    exact ⟨rfl, rfl⟩

lemma sealBlock_ok {nowNs txs deliverAt : Nat} {sealedHeader : Header}
    (hsnap : (snapshot K D c chain (header.number - 1) header.parentHash [] st).1 = .ok S)
    (h : (sealBlock K D c chain signFn nowNs rand txs header st).1 = .ok (sealedHeader, deliverAt)) :
    sealPermit K c S.toAuthState header = .ok () ∧ header.time * second ≤ deliverAt ∧
      ∃ sig, signFn (cliqueRLP K header) = .ok sig ∧ sealedHeader = withSignature header sig := by
  obtain ⟨⟨⟩, -, h⟩ := bind_eq_ok.mp h
  obtain ⟨⟨⟩, -, h⟩ := bind_eq_ok.mp h
  obtain ⟨S', hsnap', h⟩ := bind_eq_ok.mp h
  obtain rfl : S = S' := Except.ok.inj (hsnap.symm.trans hsnap')
  obtain ⟨⟨⟩, hpermit, h⟩ := bind_eq_ok.mp h
  obtain ⟨sig, hsig, h⟩ := bind_eq_ok.mp h
  cases h
  refine ⟨hpermit, ?_, sig, hsig, rfl⟩
  unfold deliveryTime
  dsimp only
  omega

lemma sealPermit_congr {s : AuthState} {header' : Header}
    (hnumber : header'.number = header.number) (hparent : header'.parentHash = header.parentHash)
    (hlen : header'.extra.length = header.extra.length)
    (hpayload : payloadOf header'.extra = payloadOf header.extra) :
    sealPermit K c s header' = sealPermit K c s header := by
  obtain ⟨hbg, hoverride⟩ := breakGlassOverrideOf_congr K c.breakGlass hnumber hparent hlen hpayload
  unfold sealPermit
  rw [hbg, hoverride, hnumber]

/-- An unsealed header, once the local signer has sealed it with a permit, is accepted by
every engine of the same network. -/
lemma Unsealed.sealed_verifies {v : Clique.Engine}
    {vanity payload sig : List UInt8} (h : Unsealed K c S parent header vanity payload)
    (hsigns : Signs K signFn c.signer) (hsig : signFn (cliqueRLP K header) = .ok sig)
    (harmed : Armed K c) (hunforged : Unforged K c)
    (hpermit : sealPermit K c S.toAuthState header = .ok ())
    (hparent : chain.getHeader header.parentHash (header.number - 1) = some parent)
    (hparentNumber : parent.number = header.number - 1)
    (hparentHash : K.headerHash parent = header.parentHash) (hnumber : S.number + 1 = header.number)
    (hgas : verifyGasFields chain.config parent (withSignature header sig) = .ok ())
    (hmax : header.gasLimit ≤ maxGasLimit)
    (hfork : verifyForkHashes K chain.config (withSignature header sig) = .ok ())
    (hconfig : v.config = c.config) (hbreakGlass : v.breakGlass = c.breakGlass)
    (htime : header.time ≤ now)
    (hsnap : (snapshot K D v chain (header.number - 1) header.parentHash [] st).1 = .ok S) :
    (verifyHeader K D v chain now (withSignature header sig) [] st).1 = .ok () := by
  obtain ⟨hlen, -⟩ := hsigns _ _ hsig
  have hsigner := ecrecover_withSignature hsigns h.extra length_replicate hsig
  rw [withSignature_eq h.extra length_replicate hlen] at hsigner hgas hfork ⊢
  have hkind : PreparedAs c S { header with extra := vanity ++ payload ++ sig } payload :=
    h.kind.congr rfl rfl rfl rfl rfl
  have hpermit' :
      sealPermit K c S.toAuthState { header with extra := vanity ++ payload ++ sig } = .ok () := by
    rw [← hpermit]
    refine sealPermit_congr rfl rfl ?_ ?_
    · simp [h.extra, hlen, extraSeal]
    · rw [h.extra, payloadOf_append h.length_vanity hlen,
        payloadOf_append h.length_vanity length_replicate]
  refine verifyHeader_ok (by show 0 < header.number; omega) ?_ hparent ?_ hsnap ?_
  · exact verifyStandalone_of_prepared hkind harmed hpermit' hconfig h.length_vanity hlen rfl htime
      h.mixDigest h.uncleHash hmax hfork
  · refine guarded ?_ ?_
    · simp [hparentNumber, hparentHash]
    refine guarded ?_ hgas
    have := h.time
    rw [hconfig]
    exact decide_eq_false (by show ¬ header.time < _; omega)
  · exact verifyAgainst_of_prepared hkind harmed hunforged hpermit' hconfig hbreakGlass hnumber
      hsigner h.length_vanity hlen rfl

end Steps

/-- **The producer agrees with the verifier.** `Prepare` built a header for an authority
block on the snapshot `S` of its parent, the worker filled in the gas fields,
`FinalizeAndAssemble` assembled the block and `Seal` signed it. Then any engine of the
same network accepts the sealed header from the moment it is handed over, and `Finalize`
leaves the state, and the root, that `FinalizeAndAssemble` left. -/
theorem sealed_header_verifies {σ τ : Type} {K : Crypto} {D : SnapshotStore σ}
    {A : Engine.StateOps τ} {p : Engine} {chain : ChainHeaderReader} {S : Snapshot}
    {header parent prepared filled assembled sealedHeader : Header} {c : Clique.Engine}
    {signFn : List UInt8 → Except Err (List UInt8)} {body : Engine.Body} {baseFee : Option Nat}
    {now rand gasLimit gasUsed nowNs wiggle txs deliverAt : Nat} {state state' : τ} {st₁ st₂ : σ}
    -- the cryptography, and what is armed
    (hsigns : Signs K signFn p.signer)
    (hblank : ∀ digest, K.ecrecover digest (List.replicate extraSeal 0) = none)
    (harmed : Armed K p.poa) (hunforged : Unforged K p.poa)
    -- the parent and the snapshot there
    (hparent : chain.getHeader header.parentHash (header.number - 1) = some parent)
    (hparentNumber : parent.number = header.number - 1)
    (hparentHash : K.headerHash parent = header.parentHash)
    (hnumber : S.number + 1 = header.number)
    (hsnap₁ : (snapshot K D p.poa chain (header.number - 1) header.parentHash [] st₁).1 = .ok S)
    (hsnap₂ : (snapshot K D c chain (header.number - 1) header.parentHash [] st₂).1 = .ok S)
    -- the three steps
    (hposa : p.isPosaHeader header = true)
    (hprepare : (p.prepare K D chain now rand header st₁).1 = .ok (prepared, c))
    (hfilled : filled =
      { prepared with gasLimit := gasLimit, gasUsed := gasUsed, baseFee := baseFee })
    (hassemble : p.finalizeAndAssemble K A chain filled state body = .ok (assembled, state'))
    (hseal : (sealBlock K D c chain signFn nowNs wiggle txs assembled st₂).1 =
      .ok (sealedHeader, deliverAt))
    -- gas and fee fields are valid, and no hash is pinned at this height
    (hgas : verifyGasFields chain.config parent sealedHeader = .ok ())
    (hmax : gasLimit ≤ maxGasLimit)
    (hpin : chain.config.eip150Block = some header.number → chain.config.eip150Hash = zeroHash) :
    (∀ (v : Clique.Engine) (clock : Nat) (st₃ : σ), v.config = p.poa.config →
      v.breakGlass = p.poa.breakGlass → deliverAt ≤ clock →
      (snapshot K D v chain (header.number - 1) header.parentHash [] st₃).1 = .ok S →
      (Clique.verifyHeader K D v chain (clock / second) sealedHeader [] st₃).1 = .ok ()) ∧
    (p.finalizeBlock K A chain sealedHeader state).2 = state' ∧
    state' = (p.credits header.number p.signer).foldl
      (fun state credit => A.addBalance state credit.1 credit.2) state ∧
    (p.finalizeBlock K A chain sealedHeader state).1.root = sealedHeader.root := by
  obtain ⟨rfl, hnum, hpar, payload, hprepared⟩ := prepare_ok hposa hsnap₁ hparent hprepare
  have hnumber' : filled.number = header.number := by rw [hfilled]; exact hnum
  have hposa' : p.isPosaHeader filled = true := by
    rw [isPosaHeader, hnumber']
    exact hposa
  have hextra : filled.extra = vanityOf header.extra ++ payload ++ replicate extraSeal 0 := by
    rw [hfilled]
    exact hprepared.extra
  obtain ⟨hassembled, rfl⟩ :=
    finalizeAndAssemble_ok hposa' (ecrecover_blank hblank hextra) hassemble
  have hunsealed : Unsealed K p.poa S parent assembled (vanityOf header.extra) payload := by
    rw [hassembled, hfilled]
    exact ⟨hprepared.kind.congr rfl rfl rfl rfl rfl, hprepared.length_vanity, hprepared.extra,
      hprepared.mixDigest, rfl, hprepared.time⟩
  have hnum' : assembled.number = header.number := by rw [hassembled]; exact hnumber'
  have hpar' : assembled.parentHash = header.parentHash := by
    rw [hassembled, ← hpar, hfilled]
    rfl
  rw [← hnum', ← hpar'] at hsnap₂ hparent
  obtain ⟨hpermit, hdeliver, sig, hsig, rfl⟩ := sealBlock_ok hsnap₂ hseal
  rw [← p.signer_eq] at hsigns
  refine ⟨?_, ?_⟩
  · intro v clock st₃ hconfig hbreakGlass hclock hsnap3
    rw [← hnum', ← hpar'] at hsnap3
    have hfork : verifyForkHashes K chain.config (withSignature assembled sig) = .ok () := by
      refine guardErr_eq_ok.mpr ?_
      show (chain.config.eip150Block == some assembled.number && _ && _) = false
      rw [hnum']
      by_cases hheight : chain.config.eip150Block = some header.number
      · simp [hpin hheight]
      · simp [hheight]
    refine hunsealed.sealed_verifies hsigns hsig harmed hunforged hpermit hparent
      (by rw [hnum']; exact hparentNumber) (by rw [hpar']; exact hparentHash)
      (by rw [hnum']; exact hnumber) hgas ?_ hfork hconfig hbreakGlass ?_ hsnap3
    · rw [hassembled, hfilled]
      exact hmax
    · rw [Nat.le_div_iff_mul_le (by decide)]
      exact hdeliver.trans hclock
  · have hsigner := ecrecover_withSignature hsigns hunsealed.extra length_replicate hsig
    have hsealedNumber : (withSignature assembled sig).number = filled.number := by
      rw [hassembled]
      rfl
    have hfinal : p.finalizeBlock K A chain (withSignature assembled sig) state =
        p.payReward K A chain (withSignature assembled sig) state p.poa.signer := by
      rw [finalizeBlock, isPosaHeader, hsealedNumber,
        show p.isPosa filled.number = true from hposa', hsigner]
      rfl
    rw [hfinal, p.signer_eq]
    refine ⟨?_, ?_, ?_⟩
    · rw [payReward, hsealedNumber]
      rfl
    · rw [payReward, hnumber']
    · rw [payReward, sealState, hsealedNumber]
      show _ = assembled.root
      rw [hassembled]
      rfl

/-- A fork at block 1. -/
def soleProducer : Engine := sampleEngine zeroHash 0

/-- A state that lists what was credited, under one root. -/
def creditLog : Engine.StateOps (List (Address × Nat)) where
  addBalance state addr amount := state ++ [(addr, amount)]
  intermediateRoot _ _ := zeroHash
  powFinalize header state := (header, state)
  powFinalizeAndAssemble header state := .ok (header, state)

/-- What a worker starts from for block 1 of `genesisChain`. -/
def freshHeader : Header :=
  { sampleHeader 1 0 zeroAddress nonceDropVote [] zeroAddress with
    parentHash := Crypto.transparent.headerHash
      (sampleHeader 0 0 zeroAddress nonceDropVote [] zeroAddress)
    extra := [] }

lemma snapshot_genesis {hash : Hash} :
    snapshot Crypto.transparent noStore soleEngine genesisChain 0 hash [] () =
      (.ok (newSnapshot sampleConfig none 0 hash [addressOf 1]), ()) := by
  unfold snapshot findSnapshot
  rfl

/-- Block 1 as it is prepared, with a blank seal, and as it is sealed. -/
def soleHeader (sealBytes : List UInt8) : Header :=
  { freshHeader with
    difficulty := diffInTurn
    extra := List.replicate extraVanity 0 ++ sealBytes }

/-- The first authority block of a sole signer: four seconds after the genesis block, with
its reward of 1.5 FMX split three ways. -/
theorem sealed_header_verifies_sole :
    (Clique.verifyHeader Crypto.transparent noStore soleEngine genesisChain 4
      (soleHeader (transparentSignature (addressOf 1))) [] ()).1 = .ok () ∧
    (soleProducer.finalizeBlock Crypto.transparent creditLog genesisChain
      (soleHeader (transparentSignature (addressOf 1))) []).2 =
        [(addressOf 1, 600000000000000000), (addressOf 7, 750000000000000000),
          (addressOf 8, 150000000000000000)] := by
  have hsnap : (snapshot Crypto.transparent noStore soleEngine genesisChain (freshHeader.number - 1)
      freshHeader.parentHash [] ()).1 =
        .ok (newSnapshot sampleConfig none 0 freshHeader.parentHash [addressOf 1]) :=
    congrArg Prod.fst snapshot_genesis
  have hsigns : Signs Crypto.transparent (fun _ => .ok (transparentSignature (addressOf 1)))
      soleProducer.signer := by
    intro msg sig hsig
    cases hsig
    exact ⟨by decide, rfl⟩
  have hprepare : (soleProducer.prepare Crypto.transparent noStore genesisChain 4 0 freshHeader
      ()).1 = .ok (soleHeader (replicate extraSeal 0), soleEngine) :=
    bind_eq_ok.mpr ⟨_, hsnap, rfl⟩
  have hfilled : soleHeader (replicate extraSeal 0) = { soleHeader (replicate extraSeal 0) with
        gasLimit := 30000000, gasUsed := 15000000, baseFee := some 1000000000 } := rfl
  have hassemble : soleProducer.finalizeAndAssemble Crypto.transparent creditLog genesisChain
      (soleHeader (replicate extraSeal 0)) [] ⟨0, zeroHash, zeroHash, none⟩ =
        .ok (soleHeader (replicate extraSeal 0),
          [(addressOf 1, 600000000000000000), (addressOf 7, 750000000000000000),
            (addressOf 8, 150000000000000000)]) := by
    decide +kernel
  have hseal : (sealBlock Crypto.transparent noStore soleEngine genesisChain
      (fun _ => .ok (transparentSignature (addressOf 1))) 0 0 0
      (soleHeader (replicate extraSeal 0)) ()).1 =
        .ok (soleHeader (transparentSignature (addressOf 1)), 4 * second) := by
    refine bind_eq_ok.mpr ⟨(), rfl, ?_⟩
    refine bind_eq_ok.mpr ⟨(), rfl, ?_⟩
    exact bind_eq_ok.mpr ⟨_, hsnap, by decide +kernel⟩
  obtain ⟨hverify, hstate, -⟩ := sealed_header_verifies hsigns (fun _ => rfl)
    (fun pending hpending => by cases hpending) (fun pending bg hpending => by cases hpending)
    rfl rfl rfl rfl hsnap hsnap rfl hprepare hfilled hassemble hseal (by decide +kernel) (by decide)
    (fun _ => rfl)
  exact ⟨hverify soleEngine (4 * second) () rfl rfl le_rfl hsnap, hstate⟩

end Ferminux.Posa
