import Ferminux.Relayer.Validator

/-!
# Relayer.Attest

Does a validator sign only **real transfers**? Endpoints may be faulty for a time, at every
moment fewer than `minAgreeingEndpoints` of a chain (`Attests.fault`), and a faulty one
answers anything. What the others report is noted, and so are the rows as they were anchored
when they became confirmed, the rows that were marked orphaned or executed, and the signatures
that were stored.

A row is discovered on one endpoint, confirmed by a count over all of them and signed later.
It fails in two ways. A watcher records logs that name *another* chain as their source, so
an endpoint of one chain can move the anchor of a row of another one while its log is being
read again. And a count of endpoints means nothing if other endpoints are faulty at every
question of the count. In the runs without these (`Sourced`) the signatures are sound.

A watcher relies on the others for leaving the `seen` rows of its chain alone, and the
validator on the watchers for leaving all rows alone that are not `seen` (`Keeps`).
-/

namespace Ferminux.Relayer

open Lib

/-- What is assumed of the libraries: a checksummed address is in checksummed form, and ids
of different transfers differ, whatever the case of their digits. -/
structure Ethers.Sane (E : Ethers) : Prop where
  idempotent : ∀ {a b}, E.getAddress a = .ok b → E.getAddress b = .ok b
  injective : ∀ {t t' : BridgeTransfer},
    (E.keccak256 (.transfer t)).toLower = (E.keccak256 (.transfer t')).toLower → t = t'

lemma Ethers.Sane.checksummed {E : Ethers} (hE : E.Sane) {t x : BridgeTransfer}
    (h : E.checksummed t = .ok x) : E.checksummed x = .ok x := by
  obtain ⟨srcToken, dstToken, sender, recipient, hsrc, hdst, hsender, hrecipient, rfl⟩ :=
    Ethers.checksummed_eq_ok.mp h
  exact Ethers.checksummed_eq_ok.mpr ⟨srcToken, dstToken, sender, recipient, hE.idempotent hsrc,
    hE.idempotent hdst, hE.idempotent hsender, hE.idempotent hrecipient, rfl⟩

namespace Node

/-! ### What is noted -/

/-- A log that an endpoint reported while it was not faulty. -/
structure Report where
  chainId : Nat
  endpoint : Nat
  log : Log
  deriving DecidableEq

/-- A signature that was stored. -/
structure Sealed where
  /-- The row the validator considered. -/
  row : StoredTransfer
  sig : StoredSignature
  /-- The row had been marked orphaned or executed before. -/
  late : Bool
  deriving DecidableEq

/-- What happened around the store: which endpoints lied, and what was reported. -/
structure Attests where
  faulty : Nat → List Nat := fun _ => []
  /-- The endpoints of a chain that answered a log read while they were faulty. -/
  liars : Nat → List Nat := fun _ => []
  reports : List Report := []
  /-- The rows as they were when they became confirmed. -/
  confirmed : List StoredTransfer := []
  /-- The transfers that were marked orphaned or executed. -/
  ended : List String := []
  seals : List Sealed := []

/-- Other endpoints of a chain become faulty. -/
structure Fault where
  chainId : Nat
  faulty : List Nat

variable (N : NodeConfig) (w : World Attests)

def fewerThanAgree (chainId : Nat) (endpoints : List Nat) : Bool :=
  (N.chains chainId).all fun chain => decide (endpoints.length < chain.minAgreeingEndpoints)

/-- The faulty endpoints of a chain change; there are never enough to agree. -/
def Attests.fault (x : Attests) (d : Fault) : Option Attests :=
  if fewerThanAgree N d.chainId d.faulty then
    some { x with faulty := Function.update x.faulty d.chainId d.faulty }
  else none

def Attests.withLiar (x : Attests) (chainId endpoint : Nat) : List Nat :=
  if endpoint ∈ x.liars chainId then x.liars chainId else endpoint :: x.liars chainId

/-- Logs of an honest endpoint are reports. -/
def Attests.reported (x : Attests) (chainId endpoint : Nat) (logs : List Log) : Attests :=
  if endpoint ∈ x.faulty chainId then
    { x with liars := Function.update x.liars chainId (x.withLiar chainId endpoint) }
  else { x with reports := x.reports ++ logs.map fun log => { chainId, endpoint, log } }

/-- What an answered effect adds. -/
def Attests.observe (x : Attests) (store : Store) (_now : Nat) :
    (e : Effect) → Except String (Answer e) → Attests
  | .getLogs chainId endpoint _ _, .ok logs => x.reported chainId endpoint logs
  | .confirm _ t, .ok _ =>
    { x with confirmed := x.confirmed ++ (store.getTransfer t.transferId).toList }
  | .write (.setTransferStatus transferId .orphaned _), .ok _ =>
    { x with ended := transferId :: x.ended }
  | .write (.markExecuted transferId _), .ok _ => { x with ended := transferId :: x.ended }
  | .putOwnSignature t sig, .ok _ =>
    { x with seals := { row := t, sig, late := decide (t.transferId ∈ x.ended) } :: x.seals }
  | _, _ => x

/-- The surroundings of a validator whose endpoints may be faulty. -/
def attests : Outside Attests Fault where
  observe := Attests.observe
  move := Attests.fault N

/-- An endpoint that is not faulty reports logs of the range it was asked for. -/
def reporting (e : Effect) (o : Choice Fault) : Bool :=
  match o with
  | .answer _ reply =>
    match e with
    | .getLogs chainId endpoint fromBlock toBlock =>
      decide (endpoint ∈ w.ext.faulty chainId) ||
        (reply (.getLogs chainId endpoint fromBlock toBlock)).toOption.all fun logs =>
          logs.all fun log =>
            decide (fromBlock ≤ log.blockNumber) && decide (log.blockNumber ≤ toBlock)
    | _ => true
  | _ => true

/-- Fewer than `minAgreeingEndpoints` endpoints of a chain ever answer a log read while they
are faulty, and a watcher records transfers from its own chain. -/
def sourced (e : Effect) : Bool :=
  match e with
  | .getLogs chainId endpoint _ _ =>
    !decide (endpoint ∈ w.ext.faulty chainId) ||
      fewerThanAgree N chainId (w.ext.withLiar chainId endpoint)
  | .record chainId t => decide (t.transfer.srcChainId = chainId)
  | _ => true

def Reporting (e : Effect) (o : Choice Fault) : Prop := reporting w e o = true

instance (w : World Attests) (e : Effect) (o : Choice Fault) : Decidable (Reporting w e o) :=
  inferInstanceAs (Decidable (_ = _))

def Sourced (e : Effect) (o : Choice Fault) : Prop :=
  Reporting w e o ∧ sourced N w e = true

instance (w : World Attests) (e : Effect) (o : Choice Fault) : Decidable (Sourced N w e o) :=
  inferInstanceAs (Decidable (_ ∧ _))

/-- A new store of either backend, and few faulty endpoints. -/
def FreshAttests : Prop :=
  (w.store = .sqlite {} ∨ w.store = .journal {}) ∧ (∃ faulty, w.ext = { faulty }) ∧
    ∀ chainId, fewerThanAgree N chainId (w.ext.faulty chainId) = true

/-! ### The invariant -/

/-- The report is about the transfer of the row, in the block the row is anchored to. -/
structure Report.Shows (E : Ethers) (p : Report) (r : StoredTransfer) : Prop where
  chain : p.chainId = r.transfer.srcChainId
  fields : E.checksummed p.log.payload = .ok r.transfer
  block : p.log.blockNumber = r.srcBlockNumber
  hash : p.log.blockHash.toLower = r.srcBlockHash.toLower

/-- Some endpoint that was not faulty reported the transfer where the row is anchored. -/
def Attests.Backs (E : Ethers) (x : Attests) (r : StoredTransfer) : Prop :=
  ∃ p ∈ x.reports, p.Shows E r

/-- The transfer became confirmed with this content. -/
def Attests.Confirmed (x : Attests) (transferId : String) (t : BridgeTransfer) : Prop :=
  ∃ k ∈ x.confirmed, k.transferId = transferId ∧ k.transfer = t

/-- A row is what honest endpoints reported. -/
structure RowOk (E : Ethers) (x : Attests) (transferId : String) (r : StoredTransfer) : Prop where
  key : r.transferId = transferId
  form : E.checksummed r.transfer = .ok r.transfer
  hash : E.keccak256 (.transfer r.transfer) = r.transferId
  backed : r.status ≠ .seen → r.status ≠ .orphaned →
    x.Backs E r ∧ x.Confirmed r.transferId r.transfer

/-- The signature is this validator's, over the digest of a transfer that was confirmed. -/
structure Sealed.Sound (V : ValidatorConfig) (x : Attests) (s : Sealed) : Prop where
  key : s.sig.transferId = s.row.transferId
  signer : s.sig.signer = V.address
  recovers : ∃ dst digest, V.node.chains s.row.transfer.dstChainId = some dst ∧
    V.node.host.ethers.digestFor s.row.transfer dst.bridgeAddress = .ok digest ∧
      V.recoverSigner digest s.sig.signature = .ok V.address
  confirmed : x.Confirmed s.row.transferId s.row.transfer
  timely : s.late = false

/-- The row can not be signed any more. -/
def Ended (r : StoredTransfer) : Prop := r.status = .orphaned ∨ r.status = .executed

/-- What holds at all times. -/
structure AttestInv (V : ValidatorConfig) (st : Store) (x : Attests) : Prop where
  rows : ∀ {transferId r}, st.getTransfer transferId = some r →
    RowOk V.node.host.ethers x transferId r
  confirmed : ∀ k ∈ x.confirmed, x.Backs V.node.host.ethers k
  ended : ∀ transferId ∈ x.ended, ∃ r, st.getTransfer transferId = some r ∧ Ended r
  liars : ∀ {chainId chain}, V.node.chains chainId = some chain → (x.liars chainId).Nodup ∧
    (x.liars chainId = [] ∨ (x.liars chainId).length < chain.minAgreeingEndpoints)
  seals : ∀ s ∈ x.seals, s.Sound V x

/-- What is noted stays. -/
structure Grows (x x' : Attests) : Prop where
  reports : ∀ p ∈ x.reports, p ∈ x'.reports
  confirmed : ∀ k ∈ x.confirmed, k ∈ x'.confirmed
  liars : ∀ chainId, ∀ i ∈ x.liars chainId, i ∈ x'.liars chainId

/-- The rows with a property stay. -/
structure Keeps (p : StoredTransfer → Prop) (w w' : World Attests) : Prop where
  rows : ∀ {transferId r}, w.store.getTransfer transferId = some r → p r →
    w'.store.getTransfer transferId = some r
  grows : Grows w.ext w'.ext

/-- The rows that a watcher may still change. -/
def SeenOf (chainId : Nat) (r : StoredTransfer) : Prop :=
  r.status = .seen ∧ r.transfer.srcChainId = chainId

/-- What each task relies on. -/
def attestDiscipline (V : ValidatorConfig) :
    Runtime.Discipline Thread Effect (World Attests) (Choice Fault) where
  ok := Sourced V.node
  Inv w := AttestInv V w.store w.ext
  rely
    | .role => Keeps fun r => r.status ≠ .seen
    | .watcher chainId => Keeps (SeenOf chainId)
  guar
    | .role => Keeps fun r => r.status = .seen
    | .watcher own => Keeps fun r => ¬ SeenOf own r

/-! ### Growth -/

variable {N} {V : ValidatorConfig} {x x' x'' : Attests} {st st' : Store} {w w' w'' : World Attests}
  {transferId : String} {E : Ethers} {r : StoredTransfer} {p : StoredTransfer → Prop}

lemma Grows.refl (x : Attests) : Grows x x := ⟨fun _ h => h, fun _ h => h, fun _ _ h => h⟩

lemma Grows.trans (h : Grows x x') (h' : Grows x' x'') : Grows x x'' :=
  ⟨fun p hp => h'.reports p (h.reports p hp), fun k hk => h'.confirmed k (h.confirmed k hk),
    fun chainId i hi => h'.liars chainId i (h.liars chainId i hi)⟩

lemma Attests.Backs.grows (hr : x.Backs E r) (h : Grows x x') : x'.Backs E r := by
  obtain ⟨p, hp, hshows⟩ := hr
  exact ⟨p, h.reports p hp, hshows⟩

lemma Attests.Confirmed.grows {t : BridgeTransfer}
    (ht : x.Confirmed transferId t) (h : Grows x x') : x'.Confirmed transferId t := by
  obtain ⟨k, hk, heq⟩ := ht
  exact ⟨k, h.confirmed k hk, heq⟩

lemma RowOk.grows (hr : RowOk E x transferId r) (h : Grows x x') : RowOk E x' transferId r := by
  refine ⟨hr.key, hr.form, hr.hash, fun hseen horphaned => ?_⟩
  obtain ⟨hbacks, hconfirmed⟩ := hr.backed hseen horphaned
  exact ⟨hbacks.grows h, hconfirmed.grows h⟩

lemma Sealed.Sound.grows {s : Sealed} (hs : s.Sound V x) (h : Grows x x') : s.Sound V x' :=
  ⟨hs.key, hs.signer, hs.recovers, hs.confirmed.grows h, hs.timely⟩

lemma Keeps.refl (p : StoredTransfer → Prop) (w : World Attests) : Keeps p w w :=
  ⟨fun h _ => h, Grows.refl w.ext⟩

lemma Keeps.trans (h : Keeps p w w') (h' : Keeps p w' w'') : Keeps p w w'' :=
  ⟨fun hr hp => h'.rows (h.rows hr hp) hp, h.grows.trans h'.grows⟩

lemma Keeps.mono {q : StoredTransfer → Prop} (h : Keeps p w w') (hq : ∀ r, q r → p r) :
    Keeps q w w' :=
  ⟨fun hr hqr => h.rows hr (hq _ hqr), h.grows⟩

/-! ### Changes of the store and of what is noted -/

lemma Attests.observe_error (store : Store) (now : Nat) {e : Effect} {reason : String} :
    x.observe store now e (.error reason) = x := by
  unfold Attests.observe
  split <;> first | rfl | contradiction

lemma AttestInv.grow (h : AttestInv V st x) (hgrows : Grows x x')
    (hconfirmed : ∀ k ∈ x'.confirmed, k ∈ x.confirmed ∨ x'.Backs V.node.host.ethers k)
    (hended : ∀ id ∈ x'.ended, id ∈ x.ended ∨ ∃ r, st.getTransfer id = some r ∧ Ended r)
    (hliars : ∀ {chainId chain}, V.node.chains chainId = some chain → (x'.liars chainId).Nodup ∧
        (x'.liars chainId = [] ∨ (x'.liars chainId).length < chain.minAgreeingEndpoints))
    (hseals : ∀ s ∈ x'.seals, s ∈ x.seals ∨ s.Sound V x') : AttestInv V st x' where
  rows hr := (h.rows hr).grows hgrows
  confirmed k hk := (hconfirmed k hk).elim (fun hold => (h.confirmed k hold).grows hgrows) id
  ended id hid := (hended id hid).elim (h.ended id) fun hrow => hrow
  liars := hliars
  seals s hs := (hseals s hs).elim (fun hold => (h.seals s hold).grows hgrows) id

lemma AttestInv.update (h : AttestInv V st x) {r' : StoredTransfer}
    (hst : ∀ id, st'.getTransfer id = if id = transferId then some r' else st.getTransfer id)
    (hlive : ∀ r, st.getTransfer transferId = some r → ¬ Ended r)
    (hok : RowOk V.node.host.ethers x transferId r') : AttestInv V st' x := by
  refine ⟨fun {id r} hr => ?_, h.confirmed, fun id hid => ?_, h.liars, h.seals⟩
  · rw [hst] at hr
    split at hr
    · next heq =>
      cases hr
      rw [heq]
      exact hok
    · exact h.rows hr
  · obtain ⟨r, hr, hended⟩ := h.ended id hid
    have hne : id ≠ transferId := by
      rintro rfl
      exact hlive r hr hended
    rw [hst, if_neg hne]
    exact ⟨r, hr, hended⟩

lemma AttestInv.same (h : AttestInv V st x) (hst : ∀ id, st'.getTransfer id = st.getTransfer id) :
    AttestInv V st' x := by
  refine ⟨fun {id r} hr => ?_, h.confirmed, fun id hid => ?_, h.liars, h.seals⟩
  · rw [hst] at hr
    exact h.rows hr
  · rw [hst]
    exact h.ended id hid

lemma AttestInv.keyed (h : AttestInv V st x) : st.transfers.Keyed StoredTransfer.transferId :=
  fun _ _ hr => (h.rows hr).key

end Node

end Ferminux.Relayer
