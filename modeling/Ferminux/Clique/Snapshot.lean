import Ferminux.Clique.BreakGlass
import Ferminux.Lib.Map

/-!
# Clique.Snapshot

The **authorization snapshot** of the proof-of-authority engine: the signer set,
the recent signers, the outstanding votes and their tally, and how a run of
headers moves it (`consensus/clique/snapshot.go`).

The loop body of `Snapshot.apply` is cut into named stages, in the order of the
source:

1. `resetVotes` on an epoch block;
2. `applyBreakGlass` on a header with a verified override;
3. `expireRecent`, then the seal is checked (`authorizeSigner`) and recorded;
4. `discardVote`, `castVote`, and `settleVote` when the tally passes.

`applyHeader_ok_iff` inverts the loop body once, so that the invariants of a run
are read off the stages and never off the whole body.
-/

namespace Ferminux.Clique

open Lib List

/-- `params.CliqueConfig`. `clique.New` replaces a zero epoch by the default, so an
engine never divides by zero on it. -/
structure CliqueConfig where
  period : Nat
  epoch : Nat
  epoch_pos : 0 < epoch

/-- A single vote of an authorized signer to modify the list of authorizations. -/
structure Vote where
  signer : Address
  block : Nat
  address : Address
  authorize : Bool
  deriving DecidableEq

/-- The score of the votes on one account. -/
structure Tally where
  authorize : Bool
  votes : Nat
  deriving DecidableEq

/-- The fields of a snapshot that the loop of `Snapshot.apply` changes. -/
structure AuthState where
  signers : Finset Address
  recents : Map Nat Address
  votes : List Vote
  tally : Map Address Tally

/-- The state of the authorization voting at a given point in time. -/
structure Snapshot extends AuthState where
  config : CliqueConfig
  breakGlass : Option BreakGlassConfig
  number : Nat
  hash : Hash

/-- "0xffffffffffffffff". -/
def nonceAuthVote : BlockNonce := ⟨List.replicate 8 255, length_replicate⟩

/-- "0x0000000000000000". -/
def nonceDropVote : BlockNonce := ⟨List.replicate 8 0, length_replicate⟩

/-- The bytes a sealer signs: the header without the seal at the end of its
extra-data. -/
def cliqueRLP (K : Crypto) (header : Header) : List UInt8 :=
  K.rlpHeader { header with extra := header.extra.take (header.extra.length - extraSeal) }

/-- What a signer signs: the header without its seal. -/
def sealHash (K : Crypto) (header : Header) : Hash := K.keccak256 (cliqueRLP K header)

/-- The signer, recovered from the last 65 bytes of the extra data. -/
def ecrecover (K : Crypto) (header : Header) : Except Err Address :=
  if header.extra.length < extraSeal then .error .errMissingSignature
  else
    match K.ecrecover (sealHash K header) (header.extra.drop (header.extra.length - extraSeal)) with
    | none => .error .errEcrecover
    | some signer => .ok signer

/-- Whether `signer` is the in-turn sealer of block `number` for the ascending list
`signers`. The remainder is taken modulo the length of the list. -/
def inturnAmong (signers : List Address) (number : Nat) (signer : Address) : Except Err Bool :=
  if signers.length = 0 then .error .divideByZero
  else .ok (number % signers.length == signers.idxOf signer)

/-- The direction a header's nonce votes in. -/
def voteOf (nonce : BlockNonce) : Except Err Bool :=
  if nonce = nonceAuthVote then .ok true
  else if nonce = nonceDropVote then .ok false
  else .error .errInvalidVote

/-- The number of blocks inside which a signer of a set of `n` may seal once. -/
def recencyLimit (n : Nat) : Nat := n / 2 + 1

/-- A new snapshot with the given signers and no recent signers. -/
def newSnapshot (config : CliqueConfig) (breakGlass : Option BreakGlassConfig) (number : Nat)
    (hash : Hash) (signers : List Address) : Snapshot where
  config := config
  breakGlass := breakGlass
  number := number
  hash := hash
  signers := signers.toFinset
  recents := ∅
  votes := []
  tally := ∅

namespace AuthState

variable (s : AuthState)

/-- Whether it makes sense to cast the vote in the given state. -/
def validVote (address : Address) (authorize : Bool) : Bool :=
  let signer := decide (address ∈ s.signers)
  (signer && !authorize) || (!signer && authorize)

/-- Adds a vote to the tally, if it would change anything. -/
def cast (address : Address) (authorize : Bool) : Bool × AuthState :=
  if !s.validVote address authorize then (false, s)
  else
    match s.tally.lookup address with
    | some old =>
      (true, { s with tally := s.tally.insert address { old with votes := old.votes + 1 } })
    | none => (true, { s with tally := s.tally.insert address ⟨authorize, 1⟩ })

/-- Takes a vote out of the tally. -/
def uncast (address : Address) (authorize : Bool) : Bool × AuthState :=
  match s.tally.lookup address with
  | none => (false, s)
  | some tally =>
    if tally.authorize ≠ authorize then (false, s)
    else if 1 < tally.votes then
      (true, { s with tally := s.tally.insert address { tally with votes := tally.votes - 1 } })
    else (true, { s with tally := s.tally.erase address })

def resetVotes : AuthState := { s with votes := [], tally := ∅ }

/-- Replace the authority set with an already verified override list at block
`number`, reset the votes, and prune the recently-signed window to the new size. -/
def applyBreakGlass (signers : List Address) (number : Nat) : AuthState :=
  { s with
    signers := signers.toFinset
    votes := []
    tally := ∅
    recents := Map.prune
      (fun seen => !decide (seen + recencyLimit signers.toFinset.card ≤ number)) s.recents }

/-- Delete the oldest signer from the recent list to allow it signing again. -/
def expireRecent (number : Nat) : AuthState :=
  if recencyLimit s.signers.card ≤ number then
    { s with recents := s.recents.erase (number - recencyLimit s.signers.card) }
  else s

/-- The checks on the recovered signer: authorized, and (without an override) not
among the recent signers left. -/
def authorizeSigner (override : Option (List Address)) (signer : Address) :
    Except Err Unit :=
  if signer ∉ s.signers then .error .errUnauthorizedSigner
  else if override = none ∧ Map.anyEntry (fun _ recent => recent == signer) s.recents then
    .error .errRecentlySigned
  else .ok ()

def recordSigner (number : Nat) (signer : Address) : AuthState :=
  { s with recents := s.recents.insert number signer }

/-- Discard the previous vote of the signer on the account, if there is one: uncast
it from the tally and remove it from the chronological list. -/
def discardVote (signer address : Address) : AuthState :=
  match s.votes.find? (fun vote => vote.signer = signer ∧ vote.address = address) with
  | none => s
  | some vote =>
    { (s.uncast vote.address vote.authorize).2 with
      votes := s.votes.eraseP (fun vote => vote.signer = signer ∧ vote.address = address) }

/-- A vote of a header: the tally, and the list it can be taken out by. -/
def castVote (signer : Address) (number : Nat) (address : Address)
    (authorize : Bool) : AuthState :=
  if (s.cast address authorize).1 then
    { (s.cast address authorize).2 with votes := s.votes ++ [⟨signer, number, address, authorize⟩] }
  else (s.cast address authorize).2

/-- A signer that is dropped takes its votes along. -/
def discardVotesBy (signer : Address) : AuthState :=
  { s.votes.foldl
      (fun s vote => if vote.signer = signer then (s.uncast vote.address vote.authorize).2 else s)
      s with
    votes := s.votes.filter (fun vote => vote.signer ≠ signer) }

/-- A vote that has passed is closed. -/
def discardVotesOn (address : Address) : AuthState :=
  { s with
    votes := s.votes.filter (fun vote => vote.address ≠ address)
    tally := s.tally.erase address }

/-- If the vote on `address` passed, update the list of signers. -/
def settleVote (address : Address) (number : Nat) : AuthState :=
  match s.tally.lookup address with
  | none => s
  | some tally =>
    if s.signers.card / 2 < tally.votes then
      if tally.authorize then
        { s with signers := insert address s.signers }.discardVotesOn address
      else
        -- the signer list shrank: delete any leftover recent caches
        (({ s with signers := s.signers.erase address }.expireRecent number).discardVotesBy
          address).discardVotesOn address
    else s

/-- Stages 1 to 3 up to the seal check: what the header finds in force. -/
def enter (config : CliqueConfig) (s : AuthState) (number : Nat) (override : Option (List Address)) : AuthState :=
  let s₁ := if number % config.epoch = 0 then s.resetVotes else s
  let s₂ :=
    match override with
    | none => s₁
    | some signers => s₁.applyBreakGlass signers number
  s₂.expireRecent number

/-- The last stage: the signer is recorded and the header's vote is counted. -/
def count (number : Nat) (signer coinbase : Address) (authorize : Bool) : AuthState :=
  (((s.recordSigner number signer).discardVote signer coinbase).castVote signer number coinbase
    authorize).settleVote coinbase number

/-- One turn of the loop of `Snapshot.apply`. -/
def applyHeader (K : Crypto) (config : CliqueConfig) (breakGlass : Option BreakGlassConfig)
    (s : AuthState) (header : Header) : Except Err AuthState := do
  let override ← breakGlassOverrideOf K breakGlass header
  let snap := enter config s header.number override
  let signer ← ecrecover K header
  snap.authorizeSigner override signer
  let authorize ← voteOf header.nonce
  .ok (snap.count header.number signer header.coinbase authorize)

/-- `Snapshot.signers`: the list of authorized signers in ascending order. -/
def signersAscending : List Address := ascending s.signers

/-- Whether a signer at a given block height is in-turn. -/
def inturn (number : Nat) (signer : Address) : Except Err Bool :=
  inturnAmong s.signersAscending number signer

end AuthState

/-- A new snapshot obtained by applying the given headers to the original one. -/
def Snapshot.apply (K : Crypto) (s : Snapshot) (headers : List Header) : Except Err Snapshot :=
  match headers with
  | [] => .ok s
  | first :: rest =>
    if ¬ (first :: rest).IsChain (fun a b => b.number = a.number + 1) then
      .error .errInvalidVotingChain
    else if first.number ≠ s.number + 1 then .error .errInvalidVotingChain
    else do
      let state ← (first :: rest).foldlM (AuthState.applyHeader K s.config s.breakGlass)
        s.toAuthState
      .ok { s with
        toAuthState := state
        number := s.number + (first :: rest).length
        hash := K.headerHash ((first :: rest).getLast (cons_ne_nil _ _)) }

/-! ### The bootstrap snapshot -/

/-- The seed of the authority set at a fixed block instead of genesis. It is only
ever built by `SetBootstrap`, so it is a proper set of signers. -/
structure Bootstrap where
  anchor : Nat
  signers : List Address
  nonempty : signers ≠ []
  strictAscending : signers.Pairwise (· < ·)
  noZero : zeroAddress ∉ signers

/-- `SetBootstrap`: duplicates are dropped and the list is sorted; an empty list and
the zero address are refused. -/
def setBootstrap (anchor : Nat) (signers : List Address) : Except Err Bootstrap :=
  if hne : signers.length = 0 then .error .errBootstrapEmpty
  else if hzero : zeroAddress ∈ signers then .error .errBootstrapZeroSigner
  else .ok {
    anchor := anchor
    signers := ascending signers.toFinset
    nonempty := fun h => hne (by simpa [h] using (length_ascending signers.toFinset).symm)
    strictAscending := pairwise_ascending
    noZero := by rwa [mem_ascending, mem_toFinset] }

/-- The snapshot a bootstrapped engine starts from. -/
def Bootstrap.snapshot (b : Bootstrap) (config : CliqueConfig)
    (breakGlass : Option BreakGlassConfig) (hash : Hash) : Snapshot :=
  newSnapshot config breakGlass b.anchor hash b.signers

/-- The snapshots an engine can come to from a bootstrap snapshot by `apply`. -/
inductive Reachable (K : Crypto) (config : CliqueConfig) (breakGlass : Option BreakGlassConfig) :
    Snapshot → Prop
  | bootstrap (b : Bootstrap) (hash : Hash) :
      Reachable K config breakGlass (b.snapshot config breakGlass hash)
  | apply {s s' : Snapshot} {headers : List Header} (hs : Reachable K config breakGlass s)
      (happly : s.apply K headers = .ok s') : Reachable K config breakGlass s'

/-! ### What each stage leaves alone

`cast` and `uncast` move the tally only, `discardVote` and `castVote` the votes and
the tally; the signers change in `applyBreakGlass` and `settleVote` and nowhere else. -/

namespace AuthState

variable (s : AuthState) (signer : Address) (number : Nat) (address : Address) (authorize : Bool)

lemma cast_eq :
    (s.cast address authorize).2 = { s with tally := (s.cast address authorize).2.tally } := by
  unfold cast
  split
  · rfl
  · split <;> rfl

lemma uncast_eq :
    (s.uncast address authorize).2 = { s with tally := (s.uncast address authorize).2.tally } := by
  unfold uncast
  split
  · rfl
  · split
    · rfl
    · split <;> rfl

lemma discardVote_eq : s.discardVote signer address = { s with
      votes := (s.discardVote signer address).votes
      tally := (s.discardVote signer address).tally } := by
  unfold discardVote
  split
  · rfl
  · rw [uncast_eq]

lemma castVote_eq : s.castVote signer number address authorize = { s with
      votes := (s.castVote signer number address authorize).votes
      tally := (s.castVote signer number address authorize).tally } := by
  unfold castVote
  split <;> rw [cast_eq]

lemma discardVotesBy_eq : s.discardVotesBy signer = { s with
      votes := (s.discardVotesBy signer).votes
      tally := (s.discardVotesBy signer).tally } := by
  -- the loop over the votes only uncasts
  have hloop : ∀ (votes : List Vote) (t : AuthState), votes.foldl (fun s vote =>
        if vote.signer = signer then (s.uncast vote.address vote.authorize).2 else s) t =
      { t with tally := (votes.foldl (fun s vote =>
        if vote.signer = signer then (s.uncast vote.address vote.authorize).2 else s) t).tally } := by
    intro votes
    induction votes with
    | nil => intro t; rfl
    | cons _ _ ih =>
      intro t
      rw [foldl_cons]
      split
      · rw [ih, uncast_eq]
      · exact ih t
  unfold discardVotesBy
  rw [hloop]

@[simp] lemma discardVote_signers :
    (s.discardVote signer address).signers = s.signers := by rw [discardVote_eq]

@[simp] lemma discardVote_recents :
    (s.discardVote signer address).recents = s.recents := by rw [discardVote_eq]

@[simp] lemma castVote_signers :
    (s.castVote signer number address authorize).signers = s.signers := by rw [castVote_eq]

@[simp] lemma castVote_recents :
    (s.castVote signer number address authorize).recents = s.recents := by rw [castVote_eq]

@[simp] lemma discardVotesBy_signers :
    (s.discardVotesBy signer).signers = s.signers := by rw [discardVotesBy_eq]

@[simp] lemma discardVotesBy_recents :
    (s.discardVotesBy signer).recents = s.recents := by rw [discardVotesBy_eq]

@[simp] lemma expireRecent_signers : (s.expireRecent number).signers = s.signers := by
  unfold expireRecent
  split <;> rfl

@[simp] lemma expireRecent_votes : (s.expireRecent number).votes = s.votes := by
  unfold expireRecent
  split <;> rfl

@[simp] lemma expireRecent_tally : (s.expireRecent number).tally = s.tally := by
  unfold expireRecent
  split <;> rfl

/-- The signer set a header is checked against: the override list if it carries one. -/
def inForce (s : AuthState) (override : Option (List Address)) : Finset Address :=
  match override with
  | none => s.signers
  | some signers => signers.toFinset

@[simp] lemma enter_signers (config : CliqueConfig) (s : AuthState) (number : Nat)
    (override : Option (List Address)) :
    (enter config s number override).signers = s.inForce override := by
  cases override with
  | none =>
    simp only [enter, expireRecent_signers, inForce]
    split <;> rfl
  | some => simp [enter, expireRecent_signers, inForce, applyBreakGlass]

/-- The three outcomes of `settleVote`: the vote has not passed, `address` is let in,
or `address` is removed. -/
lemma settleVote_cases (number : Nat) : (s.settleVote address number = s ∧
      ∀ t, s.tally.lookup address = some t → t.votes ≤ s.signers.card / 2) ∨
    (∃ t, s.tally.lookup address = some t ∧ s.signers.card / 2 < t.votes ∧ t.authorize = true ∧
      s.settleVote address number =
        { s with signers := insert address s.signers }.discardVotesOn address) ∨
    (∃ t, s.tally.lookup address = some t ∧ s.signers.card / 2 < t.votes ∧ t.authorize = false ∧
      s.settleVote address number =
        (({ s with signers := s.signers.erase address }.expireRecent number).discardVotesBy
          address).discardVotesOn address) := by
  unfold settleVote
  cases ht : s.tally.lookup address with
  | none => exact .inl ⟨rfl, by simp⟩
  | some t =>
    by_cases hpass : s.signers.card / 2 < t.votes
    · cases hauth : t.authorize with
      | true => exact .inr (.inl ⟨t, rfl, hpass, hauth, by simp [hpass, hauth]⟩)
      | false => exact .inr (.inr ⟨t, rfl, hpass, hauth, by simp [hpass, hauth]⟩)
    · refine .inl ⟨by simp [hpass], ?_⟩
      rintro t' ⟨⟩
      exact Nat.not_lt.mp hpass

lemma inturn_returns {s : AuthState} (h : s.signers.Nonempty) (number : Nat)
    (signer : Address) : Returns (s.inturn number signer) := by
  have hlen : ¬ (ascending s.signers).length = 0 := by
    rw [length_ascending]
    exact h.card_ne_zero
  rw [inturn, inturnAmong, signersAscending, if_neg hlen]
  exact returns_ok

/-! ### Inverting the loop body -/

lemma authorizeSigner_ok_iff {s : AuthState} {override : Option (List Address)}
    {signer : Address} : s.authorizeSigner override signer = .ok () ↔
      signer ∈ s.signers ∧ (override = none → ∀ k, s.recents.lookup k ≠ some signer) := by
  have hscan : Map.anyEntry (fun _ recent => recent == signer) s.recents = true ↔
      ∃ k, s.recents.lookup k = some signer := by
    rw [Map.anyEntry_iff]
    simp
  unfold authorizeSigner
  by_cases hmem : signer ∈ s.signers
  · by_cases hrec : override = none ∧ ∃ k, s.recents.lookup k = some signer
    · rw [if_neg (not_not.mpr hmem), if_pos (by rwa [hscan])]
      obtain ⟨hnone, k, hk⟩ := hrec
      simp only [reduceCtorEq, false_iff, not_and]
      exact fun _ hall => hall hnone k hk
    · rw [if_neg (not_not.mpr hmem), if_neg (by rwa [hscan])]
      simp only [true_iff]
      exact ⟨hmem, fun hnone k hk => hrec ⟨hnone, k, hk⟩⟩
  · rw [if_pos hmem]
    simp [hmem]

/-- **The loop body, inverted.** A header is applied exactly if its override (if it
carries one) verifies, its seal recovers to a permitted signer, and its nonce is a
vote. -/
theorem applyHeader_ok_iff {K : Crypto} {config : CliqueConfig}
    {breakGlass : Option BreakGlassConfig} {s s' : AuthState} {header : Header} :
    applyHeader K config breakGlass s header = .ok s' ↔ ∃ override signer authorize,
        breakGlassOverrideOf K breakGlass header = .ok override ∧ ecrecover K header = .ok signer ∧
        signer ∈ s.inForce override ∧
        (override = none →
          ∀ k, (enter config s header.number override).recents.lookup k ≠ some signer) ∧
        voteOf header.nonce = .ok authorize ∧
        s' = (enter config s header.number override).count header.number signer header.coinbase
          authorize := by
  unfold applyHeader
  simp only [bind_eq_ok]
  constructor
  · rintro ⟨override, hover, signer, hsigner, ⟨⟩, hauth, authorize, hvote, heq⟩
    obtain ⟨hmem, hrec⟩ := authorizeSigner_ok_iff.mp hauth
    rw [enter_signers] at hmem
    exact ⟨override, signer, authorize, hover, hsigner, hmem, hrec, hvote, by simpa using heq.symm⟩
  · rintro ⟨override, signer, authorize, hover, hsigner, hmem, hrec, hvote, rfl⟩
    refine ⟨override, hover, signer, hsigner, (), ?_, authorize, hvote, rfl⟩
    exact authorizeSigner_ok_iff.mpr ⟨by rwa [enter_signers], hrec⟩

end AuthState

lemma voteOf_ok_iff {nonce : BlockNonce} {authorize : Bool} :
    voteOf nonce = .ok authorize ↔ nonce = if authorize then nonceAuthVote else nonceDropVote := by
  have hne : nonceDropVote ≠ nonceAuthVote := by decide
  unfold voteOf
  by_cases hauth : nonce = nonceAuthVote
  · cases authorize <;> simp [hauth, hne.symm]
  · by_cases hdrop : nonce = nonceDropVote
    · cases authorize <;> simp [hdrop, hne]
    · cases authorize <;> simp [hauth, hdrop]

/-! ### Headers to evaluate on -/

/-- A period of 4 seconds and the default epoch. -/
def sampleConfig : CliqueConfig := ⟨4, 30000, by decide⟩

/-- A bootstrap at block 0 with the signer `1` alone. -/
def soleBootstrap : Bootstrap := ⟨0, [addressOf 1], by decide, by simp, by decide⟩

/-- A header with the given payload, sealed by `sealer` in the sense of
`Crypto.transparent`. -/
def sampleHeader (number difficulty : Nat) (coinbase : Address) (nonce : BlockNonce)
    (payload : List UInt8) (sealer : Address) : Header where
  parentHash := zeroHash
  uncleHash := Crypto.transparent.emptyUncleHash
  coinbase := coinbase
  root := zeroHash
  txHash := zeroHash
  receiptHash := zeroHash
  bloom := FixedBytes.zero 256
  difficulty := difficulty
  number := number
  gasLimit := 30000000
  gasUsed := 15000000
  time := 4 * number
  extra := List.replicate extraVanity 0 ++ payload ++ transparentSignature sealer
  mixDigest := zeroHash
  nonce := nonce
  baseFee := some 1000000000

end Ferminux.Clique
