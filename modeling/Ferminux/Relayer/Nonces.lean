import Ferminux.Relayer.Submitter

/-!
# Relayer.Nonces

The **account nonces** of the submitter: can two attempts for one transfer both be mined,
and can two transfers end up at one nonce?

The submitter runs against its store, either backend, and a chain that mines the
transactions of its account one nonce after the other, while the watchers write transfers
and crashes hit anywhere. `World.attempts` and `World.signed` remember what was put on disk
and what was signed.

An attempt whose nonce is not spent yet is kept track of by the **row of its transfer**, as
long as the row says `pending` and holds that nonce. The program gives this up in four
places: when a simulation fails for a transfer with an attempt in the mempool; when a poll
finds the receipt of an old attempt while a newer one is unmined; when sqlite keeps the
nonce of the row that is there; and when it abandons a transfer. The guarantees hold in the
runs that avoid these (`Careful`).
-/

namespace Ferminux.Relayer

open Lib List Lib.Task Lib.Runtime Store

variable {chainId : Nat} {tx : RawTransaction}

namespace Submitter

variable {sub : StoredSubmission} {existing : Option StoredSubmission} {transferId : String}
  {x : SubmissionAttempt} {t : StoredTransfer} {m : Mutation} {now : Nat}

/-! ### The world -/

/-- A signature: what the account had spent on the chain then, and the attempts that had
been put on disk before. -/
structure Signed where
  tx : RawTransaction
  spent : Nat
  earlier : List RawTransaction
  deriving Repr, DecidableEq

/-- The store, and the relayer's account on the chains. -/
structure World where
  store : Store
  /-- The number of nonces of the account that are spent on a chain. -/
  accountNonce : Nat → Nat
  mined : List RawTransaction := []
  /-- Every attempt that was ever put on disk. -/
  attempts : List RawTransaction := []
  signed : List Signed := []
  /-- A pending count that a node answered was behind the chain. -/
  lagged : Bool := false

/-- No other transaction can be mined at its nonce. -/
def World.Spent (w : World) (tx : RawTransaction) : Prop := tx.nonce < w.accountNonce tx.chainId

instance (w : World) (tx : RawTransaction) : Decidable (w.Spent tx) :=
  inferInstanceAs (Decidable (_ < _))

/-- The transaction can still be mined, or no node ever lagged behind the chain. -/
def World.Open (w : World) (tx : RawTransaction) : Prop := ¬ w.Spent tx ∨ w.lagged = false

/-- Every attempt for the transfer has its nonce consumed. -/
def World.Settled (w : World) (transferId : String) : Prop :=
  ∀ tx ∈ w.attempts, tx.transferId = transferId → w.Spent tx

instance (w : World) (transferId : String) : Decidable (w.Settled transferId) :=
  inferInstanceAs (Decidable (∀ tx ∈ w.attempts, _))

/-- What the surroundings decide. -/
inductive Choice where
  /-- The clock, and the answer to the effect unless the store gives it. -/
  | answer (now : Nat) (reply : (e : Effect) → Except String (Answer e))
  | mine (tx : RawTransaction)
  /-- The account is used for something else. -/
  | spend (chainId : Nat)
  | watch (now : Nat) (m : Mutation)

/-- The attempts that a write puts on disk. -/
def attemptsOf : Mutation → List RawTransaction
  | .putSubmission sub => sub.attempts.map (·.raw)
  | _ => []

variable (S : Setup)

/-- A write, after which the attempts in it are on disk. -/
def World.write (w : World) (now : Nat) (m : Mutation) : Except String Unit × World :=
  match w.store.mutate S.host now m with
  | .error reason => (.error reason, w)
  | .ok store => (.ok (), { w with store, attempts := w.attempts ++ attemptsOf m })

/-- A signature, with what was known at that time. -/
def World.sign (w : World) (tx : RawTransaction) : World :=
  { w with
    signed := w.signed ++ [{ tx, spent := w.accountNonce tx.chainId, earlier := w.attempts }] }

/-- A count behind the consumed nonces was answered. -/
def World.counted (w : World) (chainId count : Nat) : World :=
  { w with lagged := w.lagged || decide (count < w.accountNonce chainId) }

/-- An effect, when the outside answers `reply`. A read or a write of the store, and a
signature, may throw. -/
def World.perform (w : World) (now : Nat) :
    (e : Effect) → Except String (Answer e) → Except String (Answer e) × World
  | .now, _ => (.ok now, w)
  | .getTransfer transferId, .ok _ => (.ok (w.store.getTransfer transferId), w)
  | .listTransfers filter, .ok _ => (.ok (w.store.listTransfers S.host filter), w)
  | .getSignatures transferId, .ok _ => (.ok (w.store.getSignatures S.host transferId), w)
  | .getSubmission transferId, .ok _ => (.ok (w.store.getSubmission transferId), w)
  | .listSubmissions status, .ok _ => (.ok (w.store.listSubmissions S.host status), w)
  | .transactionCount chainId, .ok count => (.ok count, w.counted chainId count)
  | .signTransaction tx, .ok _ => (.ok (), w.sign tx)
  | .write m, .ok _ => w.write S now m
  | _, reply => (reply, w)

/-- What a watcher writes: the id of a transfer determines its destination. -/
def watches : Mutation → Bool
  | .setCursor _ _ => true
  | .putTransfer t => decide (t.transfer.dstChainId = S.dstOf t.transferId)
  | .setTransferStatus _ _ _ => true
  | _ => false

def World.advanceNonce (w : World) (chainId : Nat) : World :=
  { w with accountNonce := Function.update w.accountNonce chainId (w.accountNonce chainId + 1) }

/-- The chains and the watchers go on. -/
def drift (w : World) : Choice → Option World
  | .answer _ _ => none
  | .mine tx =>
    if tx ∈ w.attempts ∧ tx.nonce = w.accountNonce tx.chainId then
      some { w.advanceNonce tx.chainId with mined := w.mined ++ [tx] }
    else none
  | .spend chainId => some (w.advanceNonce chainId)
  | .watch now m =>
    if watches S m then
      match w.store.mutate S.host now m with
      | .error _ => none
      | .ok store => some { w with store }
    else none

/-- The submitter in its world. A crash leaves what is on disk, and nothing there is lost. -/
def runtime : Runtime Unit Job Answer World Choice where
  act w e o :=
    match o with
    | .answer now reply => some (w.perform S now e (reply e))
    | _ => none
  awaits := Effect.awaits
  drift := drift S
  reboot w := w
  task _ := task S

/-- The submitter on a store that may lose writes. -/
def restarting : Runtime Unit Job Answer (World × Option Store) (Choice × Option Store) :=
  (runtime S).lossy fun w store => { w with store }

/-- Every write that was acknowledged is there after a restart. -/
abbrev Durable (lost : Option Store) : Prop := lost = none

/-- A new store of either backend, and any use of the account before. -/
def Fresh (w : World) : Prop :=
  (w.store = .sqlite {} ∨ w.store = .journal {}) ∧ w.mined = [] ∧ w.attempts = [] ∧ w.signed = []

/-! ### The condition -/

/-- The row the store would hold keeps the nonce of the record that is written: sqlite does
not take it over. -/
def World.keepsNonce (w : World) (sub : StoredSubmission) : Bool :=
  match w.store with
  | .sqlite _ => (w.store.getSubmission sub.transferId).all (·.accountNonce == sub.accountNonce)
  | .journal _ => true

/-- A simulation fails for a transfer, and a receipt is found for one of its attempts, only
when the nonces of all its attempts are consumed; and the nonce of a row in sqlite never has
to change. With `strict`, a transfer is also abandoned only then. -/
def careful (strict : Bool) (w : World) (e : Effect) (o : Choice) : Bool :=
  match o with
  | .answer _ reply =>
    match e with
    | .staticCall chainId transferId signers =>
      (reply (.staticCall chainId transferId signers)).toOption.isSome ||
        decide (w.Settled transferId)
    | .receipt chainId txHash =>
      (reply (.receipt chainId txHash)).toOption.join.isNone ||
        decide (∀ tx ∈ w.attempts, S.hashOf tx = txHash → w.Settled tx.transferId)
    | .write (.putSubmission sub) =>
      w.keepsNonce sub &&
        (!strict || decide (sub.status ≠ .abandoned) || decide (w.Settled sub.transferId))
    | _ => true
  | _ => true

def Careful (strict : Bool) (w : World) (e : Effect) (o : Choice) : Prop :=
  careful S strict w e o = true

instance (strict : Bool) (w : World) (e : Effect) (o : Choice) :
    Decidable (Careful S strict w e o) := inferInstanceAs (Decidable (_ = _))

/-! ### The invariant -/

/-- An attempt belongs to a transfer. -/
structure AttemptOf (id : String) (x : SubmissionAttempt) : Prop where
  transferId : x.raw.transferId = id
  chainId : x.raw.chainId = S.dstOf id
  txHash : x.txHash = S.hashOf x.raw

/-- A row belongs to its transfer. -/
structure RowOf (sub : StoredSubmission) : Prop where
  dstChainId : sub.dstChainId = S.dstOf sub.transferId
  attempts : ∀ x ∈ sub.attempts, AttemptOf S sub.transferId x
  /-- A row that is polled holds the nonce of one of its attempts. -/
  pending : sub.status = .pending → ∃ x ∈ sub.attempts, sub.accountNonce = x.raw.nonce

/-- A row that no fresh nonce is allocated for: it is polled, or was given up. -/
def Alive (strict : Bool) (sub : StoredSubmission) : Prop :=
  sub.status = .pending ∨ (strict = false ∧ sub.status = .abandoned ∧
      ∀ dst, S.chains sub.dstChainId = some dst → dst.gas.maxAttempts ≤ sub.attempts.length)

/-- **What the rows know about the attempts.** -/
structure Book (strict : Bool) (w : World) : Prop where
  row : ∀ {transferId sub}, w.store.getSubmission transferId = some sub →
    sub.transferId = transferId ∧ RowOf S sub
  /-- Every attempt stays in the row of its transfer, and a row has no others. -/
  mem_attempts : ∀ {tx}, tx ∈ w.attempts ↔
    ∃ sub, w.store.getSubmission tx.transferId = some sub ∧ tx ∈ sub.attempts.map (·.raw)
  /-- The row of an attempt whose nonce is not spent holds that nonce. -/
  live : ∀ {tx sub}, tx ∈ w.attempts → ¬ w.Spent tx →
    w.store.getSubmission tx.transferId = some sub →
      sub.accountNonce = tx.nonce ∧ Alive S strict sub
  /-- Different transfers are at different nonces. -/
  exclusive : strict = true → ∀ {a b}, a ∈ w.attempts → b ∈ w.attempts → a.chainId = b.chainId →
    a.nonce = b.nonce → w.Open a → a.transferId = b.transferId

/-- A signature at another nonce than an earlier attempt for the same transfer comes after
that nonce was consumed. -/
def Signed.Exclusive (s : Signed) : Prop :=
  ∀ tx ∈ s.earlier, tx.transferId = s.tx.transferId → tx.nonce ≠ s.tx.nonce →
    tx.chainId = s.tx.chainId ∧ tx.nonce < s.spent

instance (s : Signed) : Decidable s.Exclusive := inferInstanceAs (Decidable (∀ tx ∈ s.earlier, _))

/-- What holds at all times. -/
structure Inv (strict : Bool) (w : World) : Prop where
  book : Book S strict w
  transfers : ∀ {transferId t}, w.store.getTransfer transferId = some t →
    t.transferId = transferId ∧ t.transfer.dstChainId = S.dstOf transferId
  signed : ∀ s ∈ w.signed, s.Exclusive
  mined_spent : ∀ tx ∈ w.mined, w.Spent tx
  mined_once : w.mined.Pairwise fun a b => a.chainId = b.chainId → a.nonce ≠ b.nonce

/-- What the submitter relies on: nobody else writes its rows, and nonces stay spent. -/
structure Quiet (w w' : World) : Prop where
  submissions : w'.store.submissions = w.store.submissions
  attempts : w'.attempts = w.attempts
  accountNonce : ∀ chainId, w.accountNonce chainId ≤ w'.accountNonce chainId
  lagged : w.lagged = true → w'.lagged = true

def discipline (strict : Bool) : Discipline Unit Effect World Choice where
  ok := Careful S strict
  Inv := Inv S strict
  rely _ := Quiet
  guar _ _ _ := True

variable {S} {strict : Bool} {w w' w'' : World}
  {st st' : Store} {e : Effect} {o : Choice} {a b : RawTransaction} {nonce : Nat} {gas : GasConfig}

lemma Quiet.refl (w : World) : Quiet w w := ⟨rfl, rfl, fun _ => Nat.le_refl _, id⟩

lemma Quiet.trans (h : Quiet w w') (h' : Quiet w' w'') : Quiet w w'' :=
  ⟨h'.submissions.trans h.submissions, h'.attempts.trans h.attempts,
    fun c => (h.accountNonce c).trans (h'.accountNonce c), h'.lagged ∘ h.lagged⟩

lemma relies : Relies (discipline S strict) := ⟨fun _ => Quiet.refl, fun h h' => h.trans h'⟩

lemma Quiet.getSubmission (h : Quiet w w') (transferId : String) :
    w'.store.getSubmission transferId = w.store.getSubmission transferId := by
  rw [Store.getSubmission, h.submissions, Store.getSubmission]

lemma Quiet.spent (h : Quiet w w') (hspent : w.Spent tx) : w'.Spent tx :=
  Nat.lt_of_lt_of_le hspent (h.accountNonce tx.chainId)

lemma Quiet.open_of_open (h : Quiet w w') (hopen : w'.Open tx) : w.Open tx := by
  refine hopen.imp (fun hnot hspent => hnot (h.spent hspent)) fun hlagged => ?_
  exact Bool.eq_false_iff.mpr fun htrue => by simp [h.lagged htrue] at hlagged

lemma Book.quiet (hw : Book S strict w) (h : Quiet w w') : Book S strict w' where
  row := by
    intro transferId sub hsub
    rw [h.getSubmission] at hsub
    exact hw.row hsub
  mem_attempts := by
    intro tx
    rw [h.attempts, h.getSubmission]
    exact hw.mem_attempts
  live := by
    intro tx sub htx hspent hsub
    rw [h.attempts] at htx
    rw [h.getSubmission] at hsub
    exact hw.live htx (fun hw => hspent (h.spent hw)) hsub
  exclusive := by
    intro hstrict a b ha hb hchain hnonce hopen
    rw [h.attempts] at ha hb
    exact hw.exclusive hstrict ha hb hchain hnonce (h.open_of_open hopen)

/-! ### Quiet effects and drift -/

/-- The effects that neither sign nor write a submission. -/
def quiet : Effect → Prop
  | .signTransaction _ => False
  | .write (.putSubmission _) => False
  | .write (.putTransfer _) => False
  | _ => True

/-- The transfers that a mutation other than `putTransfer` leaves are those that were there,
with another status. -/
lemma getTransfer_mutate (hm : ∀ t, m ≠ .putTransfer t)
    (h : st.mutate S.host now m = .ok st') (ht : st'.getTransfer transferId = some t) :
    ∃ old, st.getTransfer transferId = some old ∧ t.transferId = old.transferId ∧
      t.transfer = old.transfer := by
  have hmodify : ∀ (id : String) (f : StoredTransfer → StoredTransfer),
      (∀ old, (f old).transferId = old.transferId ∧ (f old).transfer = old.transfer) →
      (st.transfers.modify id f).get transferId = some t →
      ∃ old, st.getTransfer transferId = some old ∧ t.transferId = old.transferId ∧
        t.transfer = old.transfer := by
    intro id f hf hget
    rw [Table.get_modify] at hget
    split at hget
    · next heq =>
      obtain ⟨old, hold, rfl⟩ := Option.map_eq_some_iff.mp hget
      exact ⟨old, heq ▸ hold, hf old⟩
    · exact ⟨t, hget, rfl, rfl⟩
  have htable := transfers_mutate hm h
  rw [getTransfer, htable] at ht
  cases m with
  | putTransfer t => exact absurd rfl (hm t)
  | setTransferStatus id status reason =>
    exact hmodify id (·.withStatus status reason now) (fun _ => ⟨rfl, rfl⟩) ht
  | markExecuted id txHash => exact hmodify id (·.asExecuted txHash now) (fun _ => ⟨rfl, rfl⟩) ht
  | _ => exact ⟨t, ht, rfl, rfl⟩

lemma Inv.mutate (hw : Inv S strict w) (htransfer : ∀ t, m ≠ .putTransfer t)
    (hsubmission : ∀ sub, m ≠ .putSubmission sub) (h : w.store.mutate S.host now m = .ok st) :
    Inv S strict { w with store := st } ∧ Quiet w { w with store := st } := by
  have hquiet : Quiet w { w with store := st } :=
    ⟨submissions_mutate hsubmission h, rfl, fun _ => Nat.le_refl _, id⟩
  refine ⟨⟨hw.book.quiet hquiet, ?_, hw.signed, hw.mined_spent, hw.mined_once⟩, hquiet⟩
  intro transferId t ht
  obtain ⟨old, hold, hid, hfields⟩ := getTransfer_mutate htransfer h ht
  rw [hid, hfields]
  exact hw.transfers hold

lemma Inv.write (hw : Inv S strict w)
    (htransfer : ∀ t, m ≠ .putTransfer t) (hsubmission : ∀ sub, m ≠ .putSubmission sub) :
    Inv S strict (w.write S now m).2 ∧ Quiet w (w.write S now m).2 := by
  unfold World.write
  split
  · exact ⟨hw, Quiet.refl w⟩
  · next st hst =>
    have hnone : attemptsOf m = [] := by
      cases m with
      | putSubmission sub => exact absurd rfl (hsubmission sub)
      | _ => rfl
    rw [hnone, append_nil]
    exact hw.mutate htransfer hsubmission hst

lemma Inv.counted (hw : Inv S strict w) (chainId count : Nat) :
    Inv S strict (w.counted chainId count) ∧ Quiet w (w.counted chainId count) := by
  have hquiet : Quiet w (w.counted chainId count) :=
    ⟨rfl, rfl, fun _ => Nat.le_refl _, fun h => by simp [World.counted, h]⟩
  exact ⟨⟨hw.book.quiet hquiet, hw.transfers, hw.signed, hw.mined_spent, hw.mined_once⟩, hquiet⟩

lemma Inv.perform (hw : Inv S strict w) (now : Nat) (he : quiet e)
    (reply : Except String (Answer e)) :
    Inv S strict (w.perform S now e reply).2 ∧ Quiet w (w.perform S now e reply).2 := by
  cases e with
  | signTransaction => exact he.elim
  | write =>
    cases reply with
    | error => exact ⟨hw, Quiet.refl w⟩
    | ok => exact hw.write (fun t hm => by subst hm; exact he) fun sub hm => by subst hm; exact he
  | transactionCount chainId =>
    cases reply with
    | error => exact ⟨hw, Quiet.refl w⟩
    | ok count => exact hw.counted chainId count
  | _ => cases reply <;> exact ⟨hw, Quiet.refl w⟩

lemma act_eq {r : Except String (Answer e)} (h : (runtime S).act w e o = some (r, w')) :
    ∃ now reply, o = .answer now reply ∧ w.perform S now e (reply e) = (r, w') := by
  cases o with
  | answer now reply => exact ⟨now, reply, rfl, Option.some.inj h⟩
  | _ => cases h

lemma safe_quiet {α : Type} {t : Prog α} (ht : t.Uses quiet) (hw : Inv S strict w) :
    (runtime S).Safe (discipline S strict) () t (fun _ w' => Quiet w w' ∧ Inv S strict w') w := by
  refine Safe.of_uses relies ?_ ht hw
  intro e w o r w' he hw hok hact
  obtain ⟨now, reply, rfl, hperform⟩ := act_eq hact
  have hstep := hw.perform now he (reply e)
  rw [hperform] at hstep
  exact ⟨hstep.1, trivial, hstep.2⟩

lemma mergeTransfer_of_row
    (hrow : ∀ {transferId old}, st.getTransfer transferId = some old →
      old.transferId = transferId ∧ old.transfer.dstChainId = S.dstOf transferId)
    {x : BridgeTransfer} (hx : x.dstChainId = S.dstOf t.transferId) :
    (st.mergeTransfer { t with transfer := x } (st.transfers.get t.transferId)).transferId =
        t.transferId ∧ (st.mergeTransfer { t with transfer := x }
        (st.transfers.get t.transferId)).transfer.dstChainId = S.dstOf t.transferId := by
  cases st with
  | journal => exact ⟨rfl, hx⟩
  | sqlite s =>
    cases hold : (sqlite s).transfers.get t.transferId with
    | none => exact ⟨rfl, hx⟩
    | some =>
      obtain ⟨hid, hdst⟩ := hrow hold
      exact ⟨hid, hdst⟩

lemma advanceNonce_quiet (w : World) (chainId : Nat) : Quiet w (w.advanceNonce chainId) := by
  refine ⟨rfl, rfl, fun c => ?_, id⟩
  by_cases hc : c = chainId
  · subst hc
    simp [World.advanceNonce]
  · simp [World.advanceNonce, Function.update_of_ne hc]

lemma Inv.advanceNonce (hw : Inv S strict w) (chainId : Nat) :
    Inv S strict (w.advanceNonce chainId) :=
  ⟨hw.book.quiet (advanceNonce_quiet w chainId), hw.transfers, hw.signed,
    fun tx htx => (advanceNonce_quiet w chainId).spent (hw.mined_spent tx htx), hw.mined_once⟩

lemma Inv.mine (hw : Inv S strict w) (hnonce : tx.nonce = w.accountNonce tx.chainId) :
    Inv S strict { w.advanceNonce tx.chainId with mined := w.mined ++ [tx] } := by
  have h := hw.advanceNonce tx.chainId
  refine ⟨⟨h.book.row, h.book.mem_attempts, h.book.live, h.book.exclusive⟩, h.transfers,
    h.signed, ?_, ?_⟩
  · intro a ha
    rcases mem_append.mp ha with ha | ha
    · exact h.mined_spent a ha
    · rw [mem_singleton] at ha
      subst ha
      simp [World.Spent, World.advanceNonce, hnonce]
  · refine pairwise_append.mpr ⟨hw.mined_once, pairwise_singleton _ _, ?_⟩
    intro a ha b hb hchain heq
    rw [mem_singleton] at hb
    subst hb
    have hspent := hw.mined_spent a ha
    unfold World.Spent at hspent
    rw [hchain] at hspent
    omega

lemma Inv.watch (hw : Inv S strict w)
    (hm : watches S m = true) (h : w.store.mutate S.host now m = .ok st) :
    Inv S strict { w with store := st } ∧ Quiet w { w with store := st } := by
  cases m with
  | putTransfer t =>
    have hquiet : Quiet w { w with store := st } :=
      ⟨submissions_mutate (by simp) h, rfl, fun _ => Nat.le_refl _, id⟩
    refine ⟨⟨hw.book.quiet hquiet, ?_, hw.signed, hw.mined_spent, hw.mined_once⟩, hquiet⟩
    intro transferId t' ht'
    obtain ⟨x, hx, htable⟩ := transfers_putTransfer h
    have hdst : x.dstChainId = S.dstOf t.transferId := by
      have hsame : x.dstChainId = t.transfer.dstChainId := by
        rcases hx with rfl | hx
        · rfl
        · obtain ⟨_, _, _, _, -, -, -, -, rfl⟩ := Ethers.checksummed_eq_ok.mp hx
          rfl
      rw [hsame]
      simpa [watches] using hm
    rw [getTransfer, htable, Table.get_upsert] at ht'
    split at ht'
    · next heq =>
      cases ht'
      subst heq
      exact mergeTransfer_of_row hw.transfers hdst
    · exact hw.transfers ht'
  | setCursor | setTransferStatus => exact hw.mutate (by simp) (by simp) h
  | _ => cases hm

lemma drift_inv (hw : Inv S strict w) (h : drift S w o = some w') :
    Inv S strict w' ∧ Quiet w w' := by
  cases o with
  | answer => cases h
  | mine tx =>
    simp only [drift] at h
    split at h
    · next hmine =>
      cases h
      refine ⟨hw.mine hmine.2, ?_⟩
      have hquiet := advanceNonce_quiet w tx.chainId
      exact ⟨hquiet.submissions, hquiet.attempts, hquiet.accountNonce, hquiet.lagged⟩
    · cases h
  | spend chainId =>
    cases h
    exact ⟨hw.advanceNonce chainId, advanceNonce_quiet w chainId⟩
  | watch now m =>
    simp only [drift] at h
    split at h
    · next hm =>
      split at h
      · cases h
      · next st hst =>
        cases h
        exact hw.watch hm hst
    · cases h

/-! ### Quiet parts of the program -/

lemma uses_acceptPayloads (t : StoredTransfer) (dst : DstChain) (payloads : List Payload)
    (known : List String) : (acceptPayloads S t dst payloads known).Uses quiet := by
  induction payloads generalizing known with
  | nil => trivial
  | cons _ _ ih =>
    refine Uses.bind ?_ ih
    unfold acceptPayload
    refine .ite trivial ?_
    split
    · trivial
    · refine .ite trivial ?_
      refine .bind (.one trivial) fun createdAt => ?_
      exact .bind (.attempt (.one trivial)) fun _ => trivial

lemma uses_collectSignatures (t : StoredTransfer) (dst : DstChain) :
    (collectSignatures S t dst).Uses quiet := by
  refine .bind (.ite (.one trivial) trivial) fun fromPeers => ?_
  refine .bind (.ite (.one trivial) trivial) fun fromDir => ?_
  refine .ite trivial ?_
  exact .bind (.one trivial) fun stored => uses_acceptPayloads t dst _ _

lemma uses_usableSignatures (chainId : Nat) (t : StoredTransfer) :
    (usableSignatures S chainId t).Uses quiet := by
  refine .bind (.one trivial) fun set => ?_
  refine .bind uses_lift fun validators => ?_
  exact .bind (.one trivial) fun stored => trivial

lemma uses_refresh {dst : DstChain} {transfer : StoredTransfer}
    {stale : List String} {current : Usable} :
    (refresh S chainId dst transfer stale current).Uses quiet :=
  .ite (.bind (uses_collectSignatures transfer dst) fun _ => uses_usableSignatures chainId transfer)
    trivial

lemma uses_readFees {attempt : Nat} : (readFees chainId gas attempt).Uses quiet := by
  refine .bind (.one trivial) fun baseFee => ?_
  exact .bind (.attempt (.one trivial)) fun suggested => trivial

lemma uses_readGasLimit
    {signers : List String} : (readGasLimit chainId gas transferId signers).Uses quiet :=
  .bind (.attempt (.one trivial)) fun _ => trivial

lemma uses_held : (held S chainId).Uses quiet :=
  .ite (.bind (.attempt (.one trivial)) fun _ => trivial) trivial

/-! ### Writing a row -/

lemma getSubmission_putSubmission (h : st.mutate S.host now (.putSubmission sub) = .ok st')
    (hkeep : ∀ old, st.getSubmission sub.transferId = some old →
      old.transferId = sub.transferId ∧ old.dstChainId = sub.dstChainId ∧
        old.createdAt = sub.createdAt) (hnonce : ∀ s, st = .sqlite s →
      ∀ old, st.getSubmission sub.transferId = some old → old.accountNonce = sub.accountNonce)
    (transferId : String) : st'.getSubmission transferId =
      if transferId = sub.transferId then some sub else st.getSubmission transferId := by
  have hmerge : st.mergeSubmission sub (st.submissions.get sub.transferId) = sub := by
    cases st with
    | journal => rfl
    | sqlite s =>
      cases hold : (sqlite s).submissions.get sub.transferId with
      | none => rfl
      | some old =>
        obtain ⟨hid, hdst, hcreated⟩ := hkeep old hold
        have haccount := hnonce s rfl old hold
        obtain ⟨⟩ := old
        simp_all [mergeSubmission, Sqlite.mergeSubmission]
  rw [getSubmission, submissions_putSubmission h, Table.get_upsert, hmerge]
  rfl

/-- A row can be written: it has the attempts of the row that is there, those that are not
spent are at its nonce, and no other transfer has an attempt at a nonce of it. -/
structure Writable (S : Setup) (strict : Bool) (w : World) (sub : StoredSubmission) : Prop where
  row : RowOf S sub
  keeps : ∀ old, w.store.getSubmission sub.transferId = some old →
    old.createdAt = sub.createdAt ∧ old.attempts ⊆ sub.attempts
  live : ∀ x ∈ sub.attempts, ¬ w.Spent x.raw → sub.accountNonce = x.raw.nonce ∧ Alive S strict sub
  exclusive : strict = true → ∀ x ∈ sub.attempts, ∀ b ∈ w.attempts, x.raw.chainId = b.chainId →
    x.raw.nonce = b.nonce → w.Open b → b.transferId = sub.transferId

lemma spent_congr (hchain : a.chainId = b.chainId)
    (hnonce : a.nonce = b.nonce) : w.Spent a ↔ w.Spent b := by
  rw [World.Spent, World.Spent, hchain, hnonce]

lemma open_congr (hchain : a.chainId = b.chainId)
    (hnonce : a.nonce = b.nonce) : w.Open a ↔ w.Open b := by
  rw [World.Open, World.Open, spent_congr hchain hnonce]

lemma Book.put (hw : Book S strict w) (hsub : Writable S strict w sub)
    (hget : ∀ transferId, w'.store.getSubmission transferId =
      if transferId = sub.transferId then some sub else w.store.getSubmission transferId)
    (hattempts : w'.attempts = w.attempts ++ sub.attempts.map (·.raw))
    (hnonce : w'.accountNonce = w.accountNonce) (hlagged : w'.lagged = w.lagged) :
    Book S strict w' := by
  have hspent : ∀ tx, w'.Spent tx ↔ w.Spent tx := by
    intro tx
    rw [World.Spent, hnonce, World.Spent]
  -- an attempt for the transfer that was on disk is one of the row that is written
  have hmine : ∀ {tx}, tx ∈ w'.attempts → tx.transferId = sub.transferId →
      ∃ x ∈ sub.attempts, x.raw = tx := by
    intro tx htx hid
    rw [hattempts] at htx
    rcases mem_append.mp htx with htx | htx
    · obtain ⟨old, hold, hmem⟩ := hw.mem_attempts.mp htx
      obtain ⟨x, hx, rfl⟩ := mem_map.mp hmem
      rw [hid] at hold
      exact ⟨x, (hsub.keeps old hold).2 hx, rfl⟩
    · exact mem_map.mp htx
  -- one for another transfer was there before
  have hother : ∀ {tx}, tx ∈ w'.attempts → tx.transferId ≠ sub.transferId → tx ∈ w.attempts := by
    intro tx htx hid
    rw [hattempts] at htx
    rcases mem_append.mp htx with htx | htx
    · exact htx
    · obtain ⟨x, hx, rfl⟩ := mem_map.mp htx
      exact absurd (hsub.row.attempts x hx).transferId hid
  refine ⟨?_, ?_, ?_, ?_⟩
  · intro transferId row hrow
    rw [hget] at hrow
    split at hrow
    · next heq =>
      cases hrow
      exact ⟨heq.symm, hsub.row⟩
    · exact hw.row hrow
  · intro tx
    rw [hget]
    by_cases hid : tx.transferId = sub.transferId
    · rw [if_pos hid]
      constructor
      · intro htx
        obtain ⟨x, hx, rfl⟩ := hmine htx hid
        exact ⟨sub, rfl, mem_map_of_mem hx⟩
      · rintro ⟨_, ⟨⟩, hmem⟩
        rw [hattempts]
        exact mem_append_right _ hmem
    · rw [if_neg hid]
      constructor
      · intro htx
        exact hw.mem_attempts.mp (hother htx hid)
      · intro hrow
        rw [hattempts]
        exact mem_append_left _ (hw.mem_attempts.mpr hrow)
  · intro tx row htx hnot hrow
    rw [hspent] at hnot
    rw [hget] at hrow
    split at hrow
    · next hid =>
      cases hrow
      obtain ⟨x, hx, rfl⟩ := hmine htx hid
      exact hsub.live x hx hnot
    · next hid => exact hw.live (hother htx hid) hnot hrow
  · intro hstrict a b ha hb hchain heq hopen
    rw [World.Open, hspent, hlagged] at hopen
    have hopen' : w.Open b := (open_congr hchain heq).mp hopen
    by_cases hida : a.transferId = sub.transferId
    · by_cases hidb : b.transferId = sub.transferId
      · rw [hida, hidb]
      · obtain ⟨x, hx, rfl⟩ := hmine ha hida
        rw [hida, hsub.exclusive hstrict x hx b (hother hb hidb) hchain heq hopen']
    · by_cases hidb : b.transferId = sub.transferId
      · obtain ⟨x, hx, rfl⟩ := hmine hb hidb
        rw [hidb, hsub.exclusive hstrict x hx a (hother ha hida) hchain.symm heq.symm hopen]
      · exact hw.exclusive hstrict (hother ha hida) (hother hb hidb) hchain heq hopen

/-- The rows of all other transfers are as they were. -/
def Since (transferId : String) (w w' : World) : Prop :=
  ∀ id, id ≠ transferId → w'.store.getSubmission id = w.store.getSubmission id

lemma Quiet.since (h : Quiet w w') (transferId : String) : Since transferId w w' :=
  fun id _ => h.getSubmission id

lemma Since.trans (h : Since transferId w w')
    (h' : Since transferId w' w'') : Since transferId w w'' :=
  fun id hid => (h' id hid).trans (h id hid)

/-- **Writing a row.** Giving a transfer up is allowed only as far as the condition says. -/
theorem safe_put (hw : Inv S strict w)
    (hsub : (strict = true → sub.status = .abandoned → w.Settled sub.transferId) →
      Writable S strict w sub) :
    (runtime S).Safe (discipline S strict) () (write (.putSubmission sub))
      (fun r w' => Inv S strict w' ∧ Since sub.transferId w w' ∧
        (r = .ok () → w'.store.getSubmission sub.transferId = some sub)) w := by
  refine safe_call.mpr ?_
  intro w1 hw1 o r w' hok hact
  obtain rfl : w1 = w := hw1
  obtain ⟨now, reply, rfl, hperform⟩ := act_eq hact
  have hunchanged : ∀ {r'}, (r', w1) = (r, w') → r' ≠ .ok () → Inv S strict w' ∧ True ∧
      Inv S strict w' ∧ Since sub.transferId w1 w' ∧
        (r = .ok () → w'.store.getSubmission sub.transferId = some sub) := by
    rintro r' heq hne
    cases heq
    exact ⟨hw, trivial, hw, fun _ _ => rfl, fun h => absurd h hne⟩
  cases hreply : reply (.write (.putSubmission sub)) with
  | error =>
    rw [hreply] at hperform
    exact hunchanged hperform (by simp)
  | ok u =>
    rw [hreply] at hperform
    simp only [World.perform, World.write] at hperform
    split at hperform
    · next reason _ => exact hunchanged hperform (by simp)
    · next st hst =>
      cases hperform
      obtain ⟨hkeepsNonce, hgive⟩ :
          w1.keepsNonce sub = true ∧ (strict = true → sub.status = .abandoned →
            w1.Settled sub.transferId) := by
        have hcareful : careful S strict w1 (.write (.putSubmission sub)) (.answer now reply) =
          true := hok
        simp only [careful, Bool.and_eq_true, Bool.or_eq_true, Bool.not_eq_true',
          decide_eq_true_eq] at hcareful
        refine ⟨hcareful.1, fun hstrict habandoned => ?_⟩
        rcases hcareful.2 with (hstrict' | hstatus) | hsettled
        · rw [hstrict] at hstrict'
          cases hstrict'
        · exact absurd habandoned hstatus
        · exact hsettled
      have hwritable := hsub hgive
      have hget := getSubmission_putSubmission hst (fun old hold => ⟨(hw.book.row hold).1, by
          rw [(hw.book.row hold).2.dstChainId, (hw.book.row hold).1, hwritable.row.dstChainId],
          (hwritable.keeps old hold).1⟩)
        (fun s hs old hold => by
          simp only [World.keepsNonce, hs] at hkeepsNonce
          rw [hs] at hold
          simpa [hold] using hkeepsNonce)
      have hinv : Inv S strict
          { w1 with store := st, attempts := w1.attempts ++ attemptsOf (.putSubmission sub) } := by
        refine ⟨hw.book.put hwritable hget rfl rfl rfl, ?_, hw.signed, hw.mined_spent, hw.mined_once⟩
        intro transferId t ht
        obtain ⟨old, hold, hid, hfields⟩ := getTransfer_mutate (by simp) hst ht
        rw [hid, hfields]
        exact hw.transfers hold
      refine ⟨hinv, trivial, hinv, fun id hid => ?_, fun _ => ?_⟩
      · exact (hget id).trans (if_neg hid)
      · exact (hget sub.transferId).trans (if_pos rfl)

/-! ### The rows the program writes -/

section Row

variable {row : StoredSubmission} (hw : Book S strict w)
  (hrow : w.store.getSubmission row.transferId = some row)

include hw hrow

lemma Book.attemptOf (hx : x ∈ row.attempts) : AttemptOf S row.transferId x :=
  (hw.row hrow).2.attempts x hx

lemma Book.mem_of_row (hx : x ∈ row.attempts) : x.raw ∈ w.attempts := by
  refine hw.mem_attempts.mpr ⟨row, ?_, mem_map_of_mem hx⟩
  rw [(hw.attemptOf hrow hx).transferId]
  exact hrow

lemma Book.live_of_row (hx : x ∈ row.attempts) (hnot : ¬ w.Spent x.raw) :
    row.accountNonce = x.raw.nonce ∧ Alive S strict row := by
  refine hw.live (hw.mem_of_row hrow hx) hnot ?_
  rw [(hw.attemptOf hrow hx).transferId]
  exact hrow

lemma Book.exclusive_of_row (hstrict : strict = true) (hx : x ∈ row.attempts) (hb : b ∈ w.attempts)
    (hchain : x.raw.chainId = b.chainId) (hnonce : x.raw.nonce = b.nonce) (hopen : w.Open b) :
    b.transferId = row.transferId := by
  rw [← (hw.attemptOf hrow hx).transferId]
  exact (hw.exclusive hstrict (hw.mem_of_row hrow hx) hb hchain hnonce
    ((open_congr hchain hnonce).mpr hopen)).symm

lemma Book.spent_of_settled (hsettled : w.Settled row.transferId)
    (hx : x ∈ row.attempts) : w.Spent x.raw :=
  hsettled x.raw (hw.mem_of_row hrow hx) (hw.attemptOf hrow hx).transferId

/-- The record says of its transfer what the row says, but for the status and what the
nonces do not depend on. -/
structure Rewrites (row sub : StoredSubmission) : Prop where
  transferId : sub.transferId = row.transferId
  dstChainId : sub.dstChainId = row.dstChainId
  accountNonce : sub.accountNonce = row.accountNonce
  attempts : sub.attempts = row.attempts
  createdAt : row.createdAt = sub.createdAt

omit hw hrow in
lemma Rewrites.rowOf (h : Rewrites row sub) (hrowOf : RowOf S row)
    (hpending : sub.status = .pending → row.status = .pending) : RowOf S sub where
  dstChainId := by rw [h.dstChainId, h.transferId, hrowOf.dstChainId]
  attempts := by
    rw [h.attempts, h.transferId]
    exact hrowOf.attempts
  pending := by
    rw [h.attempts, h.accountNonce]
    exact fun hstatus => hrowOf.pending (hpending hstatus)

lemma Writable.rewrite (h : Rewrites row sub)
    (hpending : sub.status = .pending → row.status = .pending)
    (halive : Alive S strict row → w.Settled row.transferId ∨ Alive S strict sub) :
    Writable S strict w sub where
  row := h.rowOf (hw.row hrow).2 hpending
  keeps := by
    intro old hold
    rw [h.transferId, hrow] at hold
    cases hold
    exact ⟨h.createdAt, h.attempts ▸ List.Subset.refl _⟩
  live := by
    intro x hx hnot
    rw [h.attempts] at hx
    obtain ⟨hnonce, hrowAlive⟩ := hw.live_of_row hrow hx hnot
    rcases halive hrowAlive with hsettled | hsub
    · exact absurd (hw.spent_of_settled hrow hsettled hx) hnot
    · exact ⟨h.accountNonce.trans hnonce, hsub⟩
  exclusive := by
    intro hstrict x hx b hb hchain hnonce hopen
    rw [h.attempts] at hx
    rw [h.transferId]
    exact hw.exclusive_of_row hrow hstrict hx hb hchain hnonce hopen

end Row

/-- The row of a transfer, as the caller knows it. -/
def Knows (w : World) (transferId : String) (existing : Option StoredSubmission) : Prop :=
  w.store.getSubmission transferId = existing

lemma writable_failedRow (hw : Book S strict w) (hchain : chainId = S.dstOf t.transferId)
    (hknows : Knows w t.transferId existing) (hsettled : w.Settled t.transferId) (reason : String)
    (now : Nat) : Writable S strict w (failedRow t chainId existing reason now) := by
  cases existing with
  | none =>
    refine ⟨⟨hchain, nofun, nofun⟩, fun old hold => ?_, nofun, fun _ _ hx => nomatch hx⟩
    cases hknows.symm.trans hold
  | some row =>
    obtain ⟨hid, hrowOf⟩ := hw.row hknows
    have hrow : w.store.getSubmission row.transferId = some row := hid.symm ▸ hknows
    refine .rewrite hw hrow ⟨hid.symm, ?_, rfl, rfl, rfl⟩ nofun fun _ => .inl (hid ▸ hsettled)
    rw [hrowOf.dstChainId, hid]
    exact hchain

/-- A nonce for the transfer: its attempts that are not spent are at that nonce, and no
attempt for another transfer is. -/
structure NonceFor (S : Setup) (strict : Bool) (w : World) (transferId : String) (nonce : Nat) :
    Prop where
  same : ∀ tx ∈ w.attempts, tx.transferId = transferId → ¬ w.Spent tx → tx.nonce = nonce
  other : strict = true → ∀ tx ∈ w.attempts, tx.chainId = S.dstOf transferId → tx.nonce = nonce →
    w.Open tx → tx.transferId = transferId

lemma NonceFor.quiet (h : NonceFor S strict w transferId nonce) (hq : Quiet w w') :
    NonceFor S strict w' transferId nonce := by
  constructor
  · intro tx htx hid hnot
    rw [hq.attempts] at htx
    exact h.same tx htx hid fun hspent => hnot (hq.spent hspent)
  · intro hstrict tx htx hchain hnonce hopen
    rw [hq.attempts] at htx
    exact h.other hstrict tx htx hchain hnonce (hq.open_of_open hopen)

lemma Knows.quiet
    (h : Knows w transferId existing) (hq : Quiet w w') : Knows w' transferId existing :=
  (hq.getSubmission transferId).trans h

lemma writable_attemptRow (hw : Book S strict w) (hchain : chainId = S.dstOf t.transferId)
    (hknows : Knows w t.transferId existing) {attempt : SubmissionAttempt}
    (hattempt : AttemptOf S t.transferId attempt) (hraw : attempt.raw.nonce = nonce)
    (hnonce : NonceFor S strict w t.transferId nonce) (now : Nat) :
    Writable S strict w (attemptRow t chainId existing nonce attempt now) := by
  subst hraw
  have hmem : ∀ {x}, x ∈ (attemptRow t chainId existing attempt.raw.nonce attempt now).attempts →
      x = attempt ∨ ∃ row, existing = some row ∧ w.store.getSubmission row.transferId = some row ∧
        row.transferId = t.transferId ∧ x ∈ row.attempts := by
    intro x hx
    rcases mem_append.mp hx with hx | hx
    · cases existing with
      | none => cases hx
      | some row =>
        have hid := (hw.row hknows).1
        exact .inr ⟨row, rfl, hid.symm ▸ hknows, hid, hx⟩
    · exact .inl (mem_singleton.mp hx)
  refine ⟨⟨hchain, ?_, fun _ => ⟨attempt, by simp [attemptRow], rfl⟩⟩, ?_, ?_, ?_⟩
  · intro x hx
    rcases hmem hx with rfl | ⟨row, -, hrow, hid, hx⟩
    · exact hattempt
    · have hx' := hw.attemptOf hrow hx
      rw [hid] at hx'
      exact hx'
  · intro old hold
    cases hknows.symm.trans hold
    exact ⟨rfl, fun x hx => mem_append_left _ hx⟩
  · intro x hx hnot
    refine ⟨?_, .inl rfl⟩
    rcases hmem hx with rfl | ⟨row, -, hrow, hid, hx⟩
    · rfl
    · have hx' := (hw.attemptOf hrow hx).transferId.trans hid
      exact congrArg Nat.cast (hnonce.same x.raw (hw.mem_of_row hrow hx) hx' hnot).symm
  · intro hstrict x hx b hb hchain' hnonce' hopen
    rcases hmem hx with rfl | ⟨row, -, hrow, hid, hx⟩
    · exact hnonce.other hstrict b hb (hchain'.symm.trans hattempt.chainId) hnonce'.symm hopen
    · exact (hw.exclusive_of_row hrow hstrict hx hb hchain' hnonce' hopen).trans hid

/-! ### The nonces the program chooses -/

/-- The next attempt for a transfer is at the nonce of those that are not spent. -/
def Ready (w : World) (transferId : String) (existing : Option StoredSubmission) : Prop :=
  ∀ tx ∈ w.attempts, tx.transferId = transferId → ¬ w.Spent tx →
    reusedNonce existing = some tx.nonce

lemma Ready.quiet
    (h : Ready w transferId existing) (hq : Quiet w w') : Ready w' transferId existing := by
  intro tx htx hid hnot
  rw [hq.attempts] at htx
  exact h tx htx hid fun hspent => hnot (hq.spent hspent)

lemma nonceFor_reused (hw : Book S strict w) (hknows : Knows w transferId existing)
    (hready : Ready w transferId existing) (hnonce : reusedNonce existing = some nonce) :
    NonceFor S strict w transferId nonce := by
  constructor
  · intro tx htx hid hnot
    exact Option.some.inj ((hready tx htx hid hnot).symm.trans hnonce)
  · intro hstrict tx htx hchain heq hopen
    cases existing with
    | none => cases hnonce
    | some row =>
      simp only [reusedNonce] at hnonce
      split at hnonce
      · next hpending =>
        cases hnonce
        obtain ⟨rfl, hrowOf⟩ := hw.row hknows
        obtain ⟨x, hx, hxnonce⟩ := hrowOf.pending hpending.1
        refine hw.exclusive_of_row hknows hstrict hx htx ?_ ?_ hopen
        · rw [(hrowOf.attempts x hx).chainId, hchain]
        · omega
      · cases hnonce

lemma le_raiseMax {localMax : Int} {s : StoredSubmission} :
    localMax ≤ raiseMax chainId localMax s ∧
      (s.dstChainId = chainId → s.accountNonce ≤ raiseMax chainId localMax s) := by
  unfold raiseMax
  split
  · next h => exact ⟨Int.le_of_lt h.2, fun _ => Int.le_refl _⟩
  · next h => exact ⟨Int.le_refl _, fun hchain => Int.not_lt.mp fun hlt => h ⟨hchain, hlt⟩⟩

/-- `localMax` is at least the nonce of every pending row of the chain. -/
lemma le_localMax (hchain : sub.dstChainId = chainId)
    {pending : List StoredSubmission} (hsub : sub ∈ pending) (start : Int) :
    sub.accountNonce ≤ pending.foldl (raiseMax chainId) start := by
  have hmono : ∀ (rest : List StoredSubmission) (start : Int),
      start ≤ rest.foldl (raiseMax chainId) start := by
    intro rest
    induction rest with
    | nil => exact fun start => Int.le_refl start
    | cons _ _ ih => exact fun start => le_raiseMax.1.trans (ih _)
  induction pending generalizing start with
  | nil => cases hsub
  | cons _ rest ih =>
    rcases mem_cons.mp hsub with rfl | hsub
    · exact (le_raiseMax.2 hchain).trans (hmono rest _)
    · exact ih hsub _

end Submitter

end Ferminux.Relayer
