import Ferminux.Gateway.X402Batch

/-!
# Gateway.X402Truth

Do the rows of the vouchers tell the truth? A voucher that was given up should not be sent any more,
and once everything has been applied a row should say `settled` exactly if the vault has debited the
payer for it.

A flush works on rows it has read, and writes to them whatever they have become. While it runs,
nothing happens to the vouchers it holds: before they are sent nobody knows of them (`Clean`), and
afterwards only its own transaction can settle them (`Sent`). This needs that no voucher is given up
during a flush, that nothing in the queue is still on its way to the vault or settled there when the
queue is read, and that the logs of a batch are not applied before its send returns (`Timely`).
-/

namespace Ferminux.Gateway.X402

open Lib List World

/-! ### The condition -/

def Timely (w : World) (e : Effect) (_ : Choice) : Prop :=
  match e with
  | .voidQueued _ _ => w.flushing = none
  | .queuedRows _ => ∀ row ∈ w.vouchers.rows, row.2.status = .queued →
      w.resolved row.1 = false ∧ w.carried row.1 = false
  | .sent hash => ∀ l ∈ w.logs.take w.indexed, l.1 ≠ hash
  | _ => True

instance (w : World) (e : Effect) (o : Choice) : Decidable (Timely w e o) :=
  match e with
  | .voidQueued _ _ => inferInstanceAs (Decidable (w.flushing = none))
  | .queuedRows _ => inferInstanceAs (Decidable (∀ row ∈ w.vouchers.rows, row.2.status = .queued →
      w.resolved row.1 = false ∧ w.carried row.1 = false))
  | .sent hash => inferInstanceAs (Decidable (∀ l ∈ w.logs.take w.indexed, l.1 ≠ hash))
  | .now | .authenticate _ _ | .lock _ _ | .unlock _ | .getVoucher _ | .balance _ | .arrive _
  | .pendingSum _ | .unlockAt _ | .insert _ _ | .beginFlush _ | .endFlush | .staleHashes _
  | .getTransactionReceipt _ | .submittedRows _ | .update _ _ | .expire _
  | .estimateGas _ | .blockGasLimit | .send _ _ | .wait _ | .applyLog =>
    inferInstanceAs (Decidable True)

variable {row : VoucherRow}

namespace Truth

/-! ### The invariant -/

def Carries (w : World) (hash : Nat) (k : Key) : Prop :=
  ∃ tx, w.txs[hash]? = some tx ∧ k ∈ tx.vouchers.map Prod.fst

/-- The indexer has not applied a settlement of the voucher. -/
def Unapplied (w : World) (k : Key) : Prop := ∀ hash, (hash, .settled k) ∉ w.logs.take w.indexed

def GivenUp (w : World) (k : Key) : Prop := k ∈ w.givenUp.map Prod.fst

/-- What the table may say about a voucher. -/
structure RowTrue (w : World) (k : Key) (row : VoucherRow) : Prop where
  submitted : row.status = .submitted → ∀ hash, row.txHash = some hash → Carries w hash k
  settled : row.status = .settled → k ∈ w.vault.used
  applied : ¬ Unapplied w k → row.status = .settled
  givenUp : GivenUp w k → row.status = .voided ∨ row.status = .settled ∨ row.status = .skipped

/-- What holds of the vault and its transactions. -/
structure Chain (w : World) : Prop where
  /-- The vault looks at a voucher once. -/
  nodup : (w.logs.map fun l => l.2.key).Nodup
  used : ∀ {k}, k ∈ w.vault.used ↔ ∃ hash, (hash, .settled k) ∈ w.logs
  indexed : w.indexed ≤ w.logs.length
  mem_rows : ∀ l ∈ w.logs, (w.vouchers.get l.2.key).isSome
  receipt : ∀ {hash log}, (hash, log) ∈ w.logs ↔ ∃ rc, w.receipt hash = some rc ∧ log ∈ rc.logs
  reverted : ∀ {hash rc}, w.receipt hash = some rc → rc.status = false → rc.logs = []
  complete : ∀ {hash rc k}, w.receipt hash = some rc → rc.status = true → Carries w hash k →
    ∃ log ∈ rc.logs, log.key = k
  nodup_waiting : ∀ {hash tx}, w.waiting hash = some tx → (tx.vouchers.map Prod.fst).Nodup
  waiting : ∀ {hash tx}, w.waiting hash = some tx → ∀ v ∈ tx.vouchers,
    w.resolved v.1 = false ∧ (w.vouchers.get v.1).isSome
  apart : ∀ {i j tx tx'}, i ≠ j → w.waiting i = some tx → w.waiting j = some tx' →
    ∀ v ∈ tx.vouchers, ∀ v' ∈ tx'.vouchers, v.1 ≠ v'.1
  /-- A voucher that is given up is in no transaction that is sent afterwards. -/
  givenUp : ∀ {k n}, (k, n) ∈ w.givenUp → (w.vouchers.get k).isSome ∧ n ≤ w.txs.length ∧
    ∀ hash, n ≤ hash → ¬ Carries w hash k

structure Inv (w : World) : Prop where
  chain : Chain w
  row : ∀ {k row}, w.vouchers.get k = some row → RowTrue w k row

/-- A queued voucher that nobody has sent. -/
structure Clean (w : World) (k : Key) : Prop where
  unresolved : w.resolved k = false
  uncarried : w.carried k = false
  mem : (w.vouchers.get k).isSome
  kept : ¬ GivenUp w k

/-- A voucher that only one transaction can settle. -/
structure Sent (w : World) (hash : Nat) (k : Key) : Prop where
  carries : Carries w hash k
  only : ∀ l ∈ w.logs, l.2.key = k → l.1 = hash
  alone : ∀ {i tx}, i ≠ hash → w.waiting i = some tx → ∀ v ∈ tx.vouchers, v.1 ≠ k
  kept : ¬ GivenUp w k

/-- What a flush relies on. -/
structure Stays (w w' : World) : Prop where
  flushing : w'.flushing = w.flushing
  clean : ∀ k, Clean w k → Clean w' k
  sent : ∀ hash k, Sent w hash k → Sent w' hash k

def discipline : Runtime.Discipline Nat Effect World Choice where
  ok := Timely
  Inv := Inv
  rely i w w' := w.flushing = some i → Stays w w'
  guar i w w' := ∀ j, j ≠ i → w.flushing = some j → Stays w w'

variable {w w' w'' : World} {k : Key} {hash : Nat} {tx : Batch} {f : Key → VoucherRow → VoucherRow}

lemma Stays.refl (w : World) : Stays w w := ⟨rfl, fun _ h => h, fun _ _ h => h⟩

lemma Stays.trans (h : Stays w w') (h' : Stays w' w'') : Stays w w'' :=
  ⟨h'.flushing.trans h.flushing, fun k hk => h'.clean k (h.clean k hk),
    fun hash k hk => h'.sent hash k (h.sent hash k hk)⟩

lemma relies : Runtime.Relies discipline where
  refl _ w _ := Stays.refl w
  trans h h' hi := (h hi).trans (h' ((h hi).flushing.trans hi))

/-! ### Changing rows -/

/-- The chain, the indexer and what was given up are as they were. -/
structure SameChain (w w' : World) : Prop where
  vault : w'.vault = w.vault
  logs : w'.logs = w.logs
  txs : w'.txs = w.txs
  indexed : w'.indexed = w.indexed
  givenUp : w'.givenUp = w.givenUp
  rows : ∀ k, (w.vouchers.get k).isSome → (w'.vouchers.get k).isSome

lemma SameChain.refl (w : World) : SameChain w w := ⟨rfl, rfl, rfl, rfl, rfl, fun _ h => h⟩

section

variable (h : SameChain w w')
include h

lemma SameChain.trans (h' : SameChain w' w'') : SameChain w w'' :=
  ⟨h'.vault.trans h.vault, h'.logs.trans h.logs, h'.txs.trans h.txs, h'.indexed.trans h.indexed,
    h'.givenUp.trans h.givenUp, fun k hk => h'.rows k (h.rows k hk)⟩

lemma SameChain.carries : Carries w' hash k ↔ Carries w hash k := by
  rw [Carries, h.txs, Carries]

lemma SameChain.unapplied : Unapplied w' k ↔ Unapplied w k := by
  rw [Unapplied, h.logs, h.indexed, Unapplied]

lemma SameChain.given : GivenUp w' k ↔ GivenUp w k := by
  rw [GivenUp, h.givenUp, GivenUp]

lemma SameChain.resolved (k : Key) : w'.resolved k = w.resolved k := by
  rw [World.resolved, h.logs, World.resolved]

lemma SameChain.carried (k : Key) : w'.carried k = w.carried k := by
  rw [World.carried, h.txs, World.carried]

lemma SameChain.waiting (i : Nat) : w'.waiting i = w.waiting i := by
  rw [World.waiting, h.txs, World.waiting]

lemma SameChain.receipt (i : Nat) : w'.receipt i = w.receipt i := by
  rw [World.receipt, h.txs, World.receipt]

lemma SameChain.clean (hk : Clean w k) : Clean w' k :=
  ⟨(h.resolved k).trans hk.unresolved, (h.carried k).trans hk.uncarried, h.rows k hk.mem,
    fun hg => hk.kept (h.given.mp hg)⟩

lemma SameChain.sent (hk : Sent w hash k) : Sent w' hash k where
  carries := h.carries.mpr hk.carries
  only := by
    rw [h.logs]
    exact hk.only
  alone hne hi := hk.alone hne ((h.waiting _).symm.trans hi)
  kept hg := hk.kept (h.given.mp hg)

lemma SameChain.stays (hflushing : w'.flushing = w.flushing) : Stays w w' :=
  ⟨hflushing, fun _ hk => h.clean hk, fun _ _ hk => h.sent hk⟩

end

lemma Chain.same (hw : Chain w) (h : SameChain w w') : Chain w' where
  nodup := by
    rw [h.logs]
    exact hw.nodup
  used := by
    rw [h.vault, h.logs]
    exact hw.used
  indexed := by
    rw [h.indexed, h.logs]
    exact hw.indexed
  mem_rows := by
    rw [h.logs]
    exact fun l hl => h.rows _ (hw.mem_rows l hl)
  receipt := by
    intro hash log
    rw [h.logs, h.receipt]
    exact hw.receipt
  reverted hrc := hw.reverted ((h.receipt _).symm.trans hrc)
  complete hrc hstatus hk := hw.complete ((h.receipt _).symm.trans hrc) hstatus (h.carries.mp hk)
  nodup_waiting hi := hw.nodup_waiting ((h.waiting _).symm.trans hi)
  waiting hi v hv := by
    have hold := hw.waiting ((h.waiting _).symm.trans hi) v hv
    exact ⟨(h.resolved _).trans hold.1, h.rows _ hold.2⟩
  apart hij hi hj := hw.apart hij ((h.waiting _).symm.trans hi) ((h.waiting _).symm.trans hj)
  givenUp hg := by
    rw [h.givenUp] at hg
    obtain ⟨hmem, hle, hnot⟩ := hw.givenUp hg
    refine ⟨h.rows _ hmem, ?_, fun hash hn hc => hnot hash hn (h.carries.mp hc)⟩
    rw [h.txs]
    exact hle

lemma RowTrue.same (hr : RowTrue w k row) (h : SameChain w w') : RowTrue w' k row where
  submitted hs hash hh := h.carries.mpr (hr.submitted hs hash hh)
  settled hs := by
    rw [h.vault]
    exact hr.settled hs
  applied hn := hr.applied fun hu => hn (h.unapplied.mpr hu)
  givenUp hg := hr.givenUp (h.given.mp hg)

lemma Inv.mapRows (hw : Inv w) (hsame : SameChain w w') (hrows : w'.vouchers = w.vouchers.mapRows f)
    (hf : ∀ {k row}, w.vouchers.get k = some row → RowTrue w k (f k row)) : Inv w' := by
  refine ⟨hw.chain.same hsame, fun {k row} hrow => ?_⟩
  rw [hrows, Table.get_mapRows] at hrow
  obtain ⟨old, hold, rfl⟩ := Option.map_eq_some_iff.mp hrow
  exact (hf hold).same hsame

lemma sameChain_mapRows : SameChain w (w.mapRows f) := by
  refine ⟨rfl, rfl, rfl, rfl, rfl, fun k hk => ?_⟩
  simpa only [mapRows, Table.get_mapRows, Option.isSome_map] using hk

lemma sameChain_update (key : Key) (f : VoucherRow → VoucherRow) :
    SameChain w (w.update key f) := sameChain_mapRows

lemma Inv.update (hw : Inv w) {key : Key} {f : VoucherRow → VoucherRow}
    (hf : ∀ {row}, w.vouchers.get key = some row → RowTrue w key (f row)) :
    Inv (w.update key f) := by
  have hrows : (w.update key f).vouchers =
      w.vouchers.mapRows fun k r => if k = key then f r else r := rfl
  refine hw.mapRows (sameChain_update key f) hrows fun {k row} hrow => ?_
  split
  · next heq =>
    subst heq
    exact hf hrow
  · exact hw.row hrow

/-- A row that says nothing about a transaction, for a voucher that nothing was applied for. -/
lemma RowTrue.plain (hplain : row.status = .queued ∨ row.status = .failed)
    (hun : Unapplied w k) (hkept : ¬ GivenUp w k) : RowTrue w k row := by
  refine ⟨fun hs => ?_, fun hs => ?_, fun hn => absurd hun hn, fun hg => absurd hg hkept⟩
  · rcases hplain with h | h <;> rw [h] at hs <;> cases hs
  · rcases hplain with h | h <;> rw [h] at hs <;> cases hs

lemma unapplied_of_unresolved (h : w.resolved k = false) : Unapplied w k := by
  intro hash hmem
  have hall := any_eq_false.mp h _ (mem_of_mem_take hmem)
  simp [Log.key] at hall

/-- A row that does not say `settled` has had no settlement applied. -/
lemma Inv.unapplied (hw : Inv w) (hrow : w.vouchers.get k = some row)
    (hne : row.status ≠ .settled) : Unapplied w k :=
  Classical.byContradiction fun hn => hne ((hw.row hrow).applied hn)

lemma Inv.kept (hw : Inv w) (hrow : w.vouchers.get k = some row)
    (hs : row.status = .queued ∨ row.status = .submitted) : ¬ GivenUp w k := by
  intro hg
  rcases (hw.row hrow).givenUp hg with h | h | h <;> rcases hs with hs | hs <;>
    · rw [hs] at h
      cases h

/-! ### Receipts -/

lemma Chain.log_unique (hw : Chain w) {l l' : Nat × Log} (hl : l ∈ w.logs) (hl' : l' ∈ w.logs)
    (hkey : l.2.key = l'.2.key) : l = l' :=
  inj_on_of_nodup_map hw.nodup hl hl' hkey

lemma skippedReason_eq (logs : List Log) : skippedReason logs k = logs.reverse.findSome? fun
      | .skipped k' reason => if k' = k then some reason else none
      | .settled _ => none := by
  induction logs using reverseRecOn with
  | nil => rfl
  | append_singleton _ log ih =>
    unfold skippedReason at ih ⊢
    rw [foldl_append, reverse_append]
    cases log with
    | settled => exact ih
    | skipped k' =>
      by_cases heq : k' = k
      · simp [heq]
      · simpa [heq] using ih

lemma skippedReason_eq_none {logs : List Log} (h : skippedReason logs k = none) (reason : String) :
    .skipped k reason ∉ logs := by
  intro hmem
  rw [skippedReason_eq, findSome?_eq_none_iff] at h
  simpa using h _ (mem_reverse.mpr hmem)

lemma mem_of_skippedReason {logs : List Log} {reason : String}
    (h : skippedReason logs k = some reason) : .skipped k reason ∈ logs := by
  rw [skippedReason_eq] at h
  obtain ⟨log, hmem, hlog⟩ := exists_of_findSome?_eq_some h
  cases log with
  | settled => cases hlog
  | skipped k' reason' =>
    dsimp only at hlog
    split at hlog
    · next heq =>
      cases hlog
      subst heq
      exact mem_reverse.mp hmem
    · cases hlog

/-- What `finalize` needs to know about a row of a batch. -/
structure Final (w : World) (hash : Nat) (rc : Receipt) (k : Key) : Prop where
  receipt : w.receipt hash = some rc
  carries : Carries w hash k
  reverted : rc.status = false → Unapplied w k
  kept : ¬ GivenUp w k

lemma Final.same {rc : Receipt} (hk : Final w hash rc k) (h : SameChain w w') :
    Final w' hash rc k :=
  ⟨(h.receipt hash).trans hk.receipt, h.carries.mpr hk.carries,
    fun hs => h.unapplied.mpr (hk.reverted hs), fun hg => hk.kept (h.given.mp hg)⟩

/-- **What a receipt says about a voucher is true.** -/
theorem Inv.finalized (hw : Inv w) {rc : Receipt} {r : Key × VoucherRow} (h : Final w hash rc r.1)
    (n t : Nat) (row : VoucherRow) : RowTrue w r.1 (finalized n hash rc t r row) := by
  unfold X402.finalized
  split_ifs with hstatus hmany hcap
  · exact .plain (.inl rfl) (h.reverted hstatus) h.kept
  · exact .plain (.inr rfl) (h.reverted hstatus) h.kept
  · exact .plain (.inl rfl) (h.reverted hstatus) h.kept
  · -- the one log about the voucher is in this receipt
    obtain ⟨log, hlog, hkey⟩ :=
      hw.chain.complete h.receipt (Bool.eq_true_of_not_eq_false hstatus) h.carries
    have hmem : (hash, log) ∈ w.logs := hw.chain.receipt.mpr ⟨rc, h.receipt, hlog⟩
    split
    · next reason hreason =>
      have hskipped : (hash, .skipped r.1 reason) ∈ w.logs :=
        hw.chain.receipt.mpr ⟨rc, h.receipt, mem_of_skippedReason hreason⟩
      refine ⟨nofun, nofun, fun hn => ?_, fun hg => absurd hg h.kept⟩
      refine absurd (fun hash' hs => ?_) hn
      cases hw.chain.log_unique (mem_of_mem_take hs) hskipped rfl
    · next hnone =>
      refine ⟨nofun, fun _ => ?_, fun _ => rfl, fun hg => absurd hg h.kept⟩
      cases log with
      | settled k' =>
        obtain rfl : k' = r.1 := hkey
        exact hw.chain.used.mpr ⟨hash, hmem⟩
      | skipped k' reason =>
        obtain rfl : k' = r.1 := hkey
        exact absurd hlog (skippedReason_eq_none hnone reason)

/-! ### Transactions are included -/

lemma lookup_of_waiting (h : w.waiting hash = some tx) :
    w.txs[hash]? = some { vouchers := tx.vouchers, fate := .waiting } := by
  unfold waiting at h
  split at h
  · next vouchers hi =>
    cases h
    exact hi
  · cases h

lemma receipt_of_waiting (h : w.waiting hash = some tx) : w.receipt hash = none := by
  simp [receipt, lookup_of_waiting h]

lemma carried_eq_false : w.carried k = false ↔
    ∀ i tx, w.waiting i = some tx → ∀ v ∈ tx.vouchers, v.1 ≠ k := by
  constructor
  · intro h i tx hi v hv heq
    have hcarried := carried_of_waiting hi hv
    rw [heq, h] at hcarried
    cases hcarried
  · intro h
    refine Bool.eq_false_iff.mpr fun hcarried => ?_
    obtain ⟨⟨vouchers, fate⟩, htx, hany⟩ := any_eq_true.mp hcarried
    obtain ⟨i, hi⟩ := mem_iff_getElem?.mp htx
    cases fate with
    | waiting =>
      obtain ⟨v, hv, heq⟩ := any_eq_true.mp hany
      exact h i { vouchers } (by simp [waiting, hi]) v hv (of_decide_eq_true heq)
    | mined | dropped => cases hany

lemma carries_setFate {fate : Fate} (htx : w.waiting hash = some tx) {i : Nat} :
    Carries (w.setFate hash tx fate) i k ↔ Carries w i k := by
  obtain ⟨hlt, heq⟩ := List.getElem?_eq_some_iff.mp (lookup_of_waiting htx)
  simp only [Carries, setFate, List.getElem?_set]
  by_cases hi : hash = i
  · subst hi
    simp [hlt, heq]
  · simp [hi]

def receiptOf : Fate → Option Receipt
  | .mined receipt => some receipt
  | _ => none

lemma receipt_setFate {fate : Fate} (htx : w.waiting hash = some tx) (i : Nat) :
    (w.setFate hash tx fate).receipt i = if i = hash then receiptOf fate else w.receipt i := by
  have hlt : hash < w.txs.length := (List.getElem?_eq_some_iff.mp (lookup_of_waiting htx)).1
  simp only [receipt, setFate, getElem?_set]
  by_cases hi : hash = i
  · subst hi
    cases fate <;> simp [hlt, receiptOf]
  · simp [hi, Ne.symm hi]

/-- A transaction gets its fate, and the vault writes the logs for it. -/
def fated (w : World) (hash : Nat) (tx : Batch) (fate : Fate) (vault : Vault) (logs : List Log) :
    World :=
  { w.setFate hash tx fate with vault, logs := w.logs ++ logs.map fun log => (hash, log) }

/-- The logs are what the receipt says, and about the vouchers of the transaction. -/
structure Fated (w : World) (tx : Batch) (fate : Fate) (vault : Vault) (logs : List Log) : Prop where
  decided : fate ≠ .waiting
  receipt : ∀ {rc}, receiptOf fate = some rc → rc.logs = logs ∧ (rc.status = false → logs = []) ∧
    (rc.status = true → logs.map Log.key = tx.vouchers.map Prod.fst)
  none : receiptOf fate = none → logs = []
  sublist : (logs.map Log.key).Sublist (tx.vouchers.map Prod.fst)
  used : ∀ {k}, k ∈ vault.used ↔ k ∈ w.vault.used ∨ .settled k ∈ logs

section Fated

variable {tx : Batch} {fate : Fate} {vault : Vault} {logs : List Log}

lemma Fated.key_mem (h : Fated w tx fate vault logs) {log : Log} (hlog : log ∈ logs) :
    ∃ v ∈ tx.vouchers, v.1 = log.key :=
  mem_map.mp (h.sublist.subset (mem_map_of_mem hlog))

lemma waiting_fated (h : Fated w tx fate vault logs) {i : Nat} {tx' : Batch}
    (hi : (fated w hash tx fate vault logs).waiting i = some tx') :
    i ≠ hash ∧ w.waiting i = some tx' := by
  have heq : (fated w hash tx fate vault logs).waiting i = if i = hash then none else w.waiting i :=
    waiting_setFate h.decided i
  rw [heq] at hi
  split at hi
  · cases hi
  · next hne => exact ⟨hne, hi⟩

lemma mem_logs_fated {l : Nat × Log} : l ∈ (fated w hash tx fate vault logs).logs ↔
    l ∈ w.logs ∨ l.1 = hash ∧ l.2 ∈ logs := by
  obtain ⟨i, log⟩ := l
  simp only [fated, mem_append, mem_map, Prod.mk.injEq]
  constructor
  · rintro (h | ⟨log', hlog', rfl, rfl⟩)
    · exact .inl h
    · exact .inr ⟨rfl, hlog'⟩
  · rintro (h | ⟨rfl, hlog⟩)
    · exact .inl h
    · exact .inr ⟨log, hlog, rfl, rfl⟩

lemma resolved_eq_false : w.resolved k = false ↔ ∀ l ∈ w.logs, l.2.key ≠ k := by
  simp [resolved]

lemma resolved_fated (h : Fated w tx fate vault logs) (hk : w.resolved k = false)
    (hne : ∀ v ∈ tx.vouchers, v.1 ≠ k) : (fated w hash tx fate vault logs).resolved k = false := by
  refine resolved_eq_false.mpr fun l hl => ?_
  rcases mem_logs_fated.mp hl with hold | ⟨-, hnew⟩
  · exact resolved_eq_false.mp hk l hold
  · obtain ⟨v, hv, heq⟩ := h.key_mem hnew
    exact heq ▸ hne v hv

lemma unapplied_fated (hw : Inv w) :
    Unapplied (fated w hash tx fate vault logs) k ↔ Unapplied w k := by
  simp only [Unapplied, fated]
  rw [show ({ w.setFate hash tx fate with vault, logs := w.logs ++ logs.map fun log => (hash, log) } :
    World).indexed = w.indexed from rfl, take_append_of_le_length hw.chain.indexed]

lemma Chain.fated (hw : Inv w) (htx : w.waiting hash = some tx)
    (h : Fated w tx fate vault logs) : Chain (fated w hash tx fate vault logs) := by
  have hreceipt (i : Nat) : (Truth.fated w hash tx fate vault logs).receipt i =
      if i = hash then receiptOf fate else w.receipt i := receipt_setFate htx i
  have hcarries {i : Nat} {k : Key} :
      Carries (Truth.fated w hash tx fate vault logs) i k ↔ Carries w i k := carries_setFate htx
  have hopen {v : Key × VoucherRow} (hv : v ∈ tx.vouchers) := hw.chain.waiting htx v hv
  refine ⟨?_, fun {k} => ?_, ?_, fun l hl => ?_, fun {i log} => ?_, fun {i rc} hrc hs => ?_,
    fun {i rc k} hrc hs hc => ?_, fun hi => hw.chain.nodup_waiting (waiting_fated h hi).2,
    fun {i tx'} hi v hv => ?_, fun hij hi hj => hw.chain.apart hij (waiting_fated h hi).2
      (waiting_fated h hj).2, fun {k n} hg => ?_⟩
  · -- the new logs are about vouchers that had none
    simp only [Truth.fated, map_append, map_map, Function.comp_def]
    refine List.Nodup.append hw.chain.nodup
      ((hw.chain.nodup_waiting htx).sublist h.sublist) fun k hk hk' => ?_
    obtain ⟨l, hl, rfl⟩ := mem_map.mp hk
    obtain ⟨log, hlog, heq⟩ := mem_map.mp hk'
    obtain ⟨v, hv, hkey⟩ := h.key_mem hlog
    exact resolved_eq_false.mp (hopen hv).1 l hl (heq.symm.trans hkey.symm)
  · refine h.used.trans ?_
    rw [hw.chain.used]
    simp only [mem_logs_fated]
    constructor
    · rintro (⟨i, hi⟩ | hnew)
      · exact ⟨i, .inl hi⟩
      · exact ⟨hash, .inr ⟨rfl, hnew⟩⟩
    · rintro ⟨i, hi | ⟨-, hnew⟩⟩
      · exact .inl ⟨i, hi⟩
      · exact .inr hnew
  · refine Nat.le_trans hw.chain.indexed ?_
    simp [Truth.fated]
  · rcases mem_logs_fated.mp hl with hold | ⟨-, hnew⟩
    · exact hw.chain.mem_rows l hold
    · obtain ⟨v, hv, hkey⟩ := h.key_mem hnew
      rw [← hkey]
      exact (hopen hv).2
  · rw [mem_logs_fated, hreceipt]
    by_cases hi : i = hash
    · subst hi
      have hno : (i, log) ∉ w.logs := fun hmem => by
        obtain ⟨rc, hrc, -⟩ := hw.chain.receipt.mp hmem
        rw [receipt_of_waiting htx] at hrc
        cases hrc
      simp only [hno, false_or, true_and, if_true]
      constructor
      · intro hlog
        cases hrc : receiptOf fate with
        | none =>
          rw [h.none hrc] at hlog
          cases hlog
        | some rc => exact ⟨rc, rfl, (h.receipt hrc).1 ▸ hlog⟩
      · rintro ⟨rc, hrc, hlog⟩
        exact (h.receipt hrc).1 ▸ hlog
    · simp only [hi, if_false, false_and, or_false]
      exact hw.chain.receipt
  · rw [hreceipt] at hrc
    split at hrc
    · rw [(h.receipt hrc).1]
      exact (h.receipt hrc).2.1 hs
    · exact hw.chain.reverted hrc hs
  · rw [hcarries] at hc
    rw [hreceipt] at hrc
    split at hrc
    · next heq =>
      subst heq
      obtain ⟨tx', hlookup, hk⟩ := hc
      rw [lookup_of_waiting htx] at hlookup
      cases hlookup
      rw [(h.receipt hrc).1]
      rw [← (h.receipt hrc).2.2 hs] at hk
      exact mem_map.mp hk
    · exact hw.chain.complete hrc hs hc
  · obtain ⟨hne, hold⟩ := waiting_fated h hi
    obtain ⟨hres, hmem⟩ := hw.chain.waiting hold v hv
    exact ⟨resolved_fated h hres fun v' hv' => hw.chain.apart hne.symm htx hold v' hv' v hv, hmem⟩
  · obtain ⟨hmem, hle, hnot⟩ := hw.chain.givenUp hg
    refine ⟨hmem, ?_, fun i hn hc => hnot i hn (hcarries.mp hc)⟩
    simpa [Truth.fated, setFate] using hle

lemma Inv.fated (hw : Inv w) (htx : w.waiting hash = some tx) (h : Fated w tx fate vault logs) :
    Inv (fated w hash tx fate vault logs) ∧ Stays w (fated w hash tx fate vault logs) := by
  have hcarries {i : Nat} {k : Key} :
      Carries (Truth.fated w hash tx fate vault logs) i k ↔ Carries w i k := carries_setFate htx
  refine ⟨⟨Chain.fated hw htx h, fun {k row} hrow => ?_⟩, rfl, fun k hk => ?_, fun i k hk => ?_⟩
  · have hold := hw.row hrow
    exact ⟨fun hs i hi => hcarries.mpr (hold.submitted hs i hi),
      fun hs => h.used.mpr (.inl (hold.settled hs)),
      fun hn => hold.applied fun hu => hn ((unapplied_fated hw).mpr hu), hold.givenUp⟩
  · have huncarried := carried_eq_false.mp hk.uncarried
    refine ⟨resolved_fated h hk.unresolved (huncarried hash tx htx), ?_, hk.mem, hk.kept⟩
    exact carried_eq_false.mpr fun i tx' hi => huncarried i tx' (waiting_fated h hi).2
  · refine ⟨hcarries.mpr hk.carries, fun l hl hkey => ?_,
      fun hne hi => hk.alone hne (waiting_fated h hi).2, hk.kept⟩
    rcases mem_logs_fated.mp hl with hold | ⟨heq, hnew⟩
    · exact hk.only l hold hkey
    · -- the voucher is in the transaction, which no other one shares it with
      obtain ⟨v, hv, hvkey⟩ := h.key_mem hnew
      rw [heq]
      exact Classical.byContradiction fun hne => hk.alone hne htx v hv (hvkey.trans hkey)

end Fated

lemma keys_settleBatch (time : Nat) (valid : Key → Bool) (vault : Vault)
    (vs : List (Key × VoucherRow)) :
    (vault.settleBatch time valid vs).2.map Log.key = vs.map Prod.fst := by
  induction vs generalizing vault with
  | nil => rfl
  | cons _ _ ih =>
    simp only [Vault.settleBatch]
    split <;> simp [ih, Log.key]

lemma used_settleBatch (time : Nat) (valid : Key → Bool) (vault : Vault)
    (vs : List (Key × VoucherRow)) (k : Key) : k ∈ (vault.settleBatch time valid vs).1.used ↔
      k ∈ vault.used ∨ .settled k ∈ (vault.settleBatch time valid vs).2 := by
  induction vs generalizing vault with
  | nil => simp [Vault.settleBatch]
  | cons _ _ ih =>
    simp only [Vault.settleBatch]
    split
    · simp [ih]
    · simp only [ih, Vault.settle, mem_cons, Log.settled.injEq]
      tauto

lemma Inv.drift (hw : Inv w) {o : Choice} (h : w.drift o = some w') : Inv w' ∧ Stays w w' := by
  cases o with
  | settle _ time valid =>
    obtain ⟨tx, htx, rfl⟩ := Option.map_eq_some_iff.mp h
    have hkeys := keys_settleBatch time valid w.vault tx.vouchers
    refine hw.fated htx ⟨by simp, fun hrc => ?_, fun h => (by cases h), ?_,
      used_settleBatch time valid _ _ _⟩
    · cases hrc
      exact ⟨rfl, by simp, fun _ => hkeys⟩
    · rw [hkeys]
  | revert hash =>
    obtain ⟨tx, htx, rfl⟩ := Option.map_eq_some_iff.mp h
    have heq : w.setFate hash tx (.mined { status := false, logs := [] }) =
        Truth.fated w hash tx (.mined { status := false, logs := [] }) w.vault [] := by
      simp [Truth.fated, setFate]
    rw [heq]
    refine hw.fated htx ⟨by simp, fun hrc => ?_, fun h => (by cases h), nil_sublist _, by simp⟩
    cases hrc
    exact ⟨rfl, fun _ => rfl, by simp⟩
  | drop hash =>
    obtain ⟨tx, htx, rfl⟩ := Option.map_eq_some_iff.mp h
    have heq : w.setFate hash tx .dropped =
        Truth.fated w hash tx .dropped w.vault [] := by
      simp [Truth.fated, setFate]
    rw [heq]
    exact hw.fated htx ⟨by simp, fun h => (by cases h), fun _ => rfl, nil_sublist _, by simp⟩
  | deposit =>
    cases h
    refine ⟨⟨?_, fun {k row} hrow => ?_⟩, rfl, fun k hk => ⟨hk.unresolved, hk.uncarried, hk.mem, hk.kept⟩,
      fun i k hk => ⟨hk.carries, hk.only, hk.alone, hk.kept⟩⟩
    · obtain ⟨h1, h2, h3, h4, h5, h6, h7, h8, h9, h10, h11⟩ := hw.chain
      exact ⟨h1, h2, h3, h4, h5, h6, h7, h8, h9, h10, h11⟩
    · obtain ⟨h1, h2, h3, h4⟩ := hw.row hrow
      exact ⟨h1, h2, h3, h4⟩
  | _ => cases h

end Truth

end Ferminux.Gateway.X402
