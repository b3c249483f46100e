import Ferminux.Gateway.X402Batch

/-!
# Gateway.X402Funds

Does the facilitator accept more from a payer than the payer has deposited? The vouchers that were
accepted and that the vault has neither settled nor refused are **outstanding**; their total should
never exceed the balance of their payer.

The holder of the lock of a payer relies on two things. The **slack**, the balance without what is
outstanding, does not shrink. And while an answer about the balance is on its way, the balance
together with the vouchers that are **covered** (settled or refused, but still pending in the table)
does not shrink: an answer that is out of date is made up for by what the table still counts. This
fails if a voucher is marked before the answer arrives.
-/

namespace Ferminux.Gateway.X402

open Lib Function List Lib.Table World Nat

/-! ### What is outstanding -/

namespace World

def outstanding (w : World) (payer : Nat) : Nat :=
  w.vouchers.sum fun k r => if k.1 = payer ∧ w.resolved k = false then r.amount else 0

/-- The total of the vouchers that still count as pending although they are resolved. -/
def covered (w : World) (payer : Nat) : Nat :=
  w.vouchers.sum fun k r => if k.1 = payer ∧ r.pending = true ∧ w.resolved k = true then r.amount else 0

end World

/-- A voucher stays pending until it is resolved, and as long as an answer about the balance of its
payer is on its way. -/
def Steady (w : World) (e : Effect) (o : Choice) : Prop :=
  ∀ row ∈ w.vouchers.rows, row.2.pending = true →
    (∀ res ∈ w.act e o, (res.2.vouchers.get row.1).any (·.pending) = true) ∨
      w.resolved row.1 = true ∧ w.reading row.1.1 = false

/-- A batch carries only vouchers that are not resolved and that no other waiting transaction
carries. -/
def Single (w : World) : Effect → Prop
  | .send rows _ => ∀ r ∈ rows, w.resolved r.1 = false ∧ w.carried r.1 = false
  | _ => True

def Orderly (w : World) (e : Effect) (o : Choice) : Prop := Steady w e o ∧ Single w e

instance (w : World) (e : Effect) (o : Choice) : Decidable (Steady w e o) :=
  inferInstanceAs (Decidable (∀ row ∈ w.vouchers.rows, _ → _ ∨ _))

instance (w : World) (e : Effect) : Decidable (Single w e) :=
  match e with
  | .send rows _ =>
    inferInstanceAs (Decidable (∀ r ∈ rows, w.resolved r.1 = false ∧ w.carried r.1 = false))
  | .now | .authenticate _ _ | .lock _ _ | .unlock _ | .getVoucher _ | .balance _ | .arrive _
  | .pendingSum _ | .unlockAt _ | .insert _ _ | .beginFlush _ | .endFlush | .staleHashes _
  | .getTransactionReceipt _ | .submittedRows _ | .update _ _ | .expire _ | .queuedRows _
  | .estimateGas _ | .blockGasLimit | .sent _ | .wait _ | .voidQueued _ _ | .applyLog =>
    inferInstanceAs (Decidable True)

instance (w : World) (e : Effect) (o : Choice) : Decidable (Orderly w e o) :=
  inferInstanceAs (Decidable (_ ∧ _))

variable {w w' w'' : World} {p : Nat} {valid : Key → Bool} {hash time : Nat} {k : Key} {tx : Batch}

/-! ### The invariant -/

structure Funded (w : World) : Prop where
  le : ∀ p, w.outstanding p ≤ w.vault.balance p
  pending : ∀ {k r}, w.vouchers.get k = some r → w.resolved k = false → r.pending = true

def Known (w : World) (v : Key × VoucherRow) : Prop :=
  (w.vouchers.get v.1).map (·.amount) = some v.2.amount

structure Sane (w : World) (tx : Batch) : Prop where
  nodup : (tx.vouchers.map Prod.fst).Nodup
  known : ∀ v ∈ tx.vouchers, Known w v
  open_ : ∀ v ∈ tx.vouchers, w.resolved v.1 = false

structure Inv (w : World) : Prop where
  funded : Funded w
  sane : ∀ {i tx}, w.waiting i = some tx → Sane w tx
  apart : ∀ {i j tx tx'}, i ≠ j → w.waiting i = some tx → w.waiting j = some tx' →
    ∀ v ∈ tx.vouchers, ∀ v' ∈ tx'.vouchers, v.1 ≠ v'.1

/-- What the holder of the lock of a payer relies on. -/
structure Keep (p : Nat) (w w' : World) : Prop where
  lock : w'.locks p = w.locks p
  slack : w.vault.balance p + w'.outstanding p ≤ w'.vault.balance p + w.outstanding p
  reading : w.reading p = true → w'.reading p = true
  answer : w.reading p = true → w.vault.balance p + w.covered p ≤ w'.vault.balance p + w'.covered p

def Amounts (w w' : World) : Prop := ∀ v, Known w v → Known w' v

def discipline : Runtime.Discipline Nat Effect World Choice where
  ok := Orderly
  Inv := Inv
  rely i w w' := Amounts w w' ∧ ∀ p, w.locks p = some i → Keep p w w'
  guar i w w' := Amounts w w' ∧ ∀ p j, j ≠ i → w.locks p = some j → Keep p w w'

lemma Keep.refl (p : Nat) (w : World) : Keep p w w :=
  ⟨rfl, le_refl _, fun h => h, fun _ => le_refl _⟩

lemma Keep.trans (h : Keep p w w') (h' : Keep p w' w'') : Keep p w w'' where
  lock := h'.lock.trans h.lock
  slack := by
    have h1 := h.slack
    have h2 := h'.slack
    omega
  reading hr := h'.reading (h.reading hr)
  answer hr := le_trans (h.answer hr) (h'.answer (h.reading hr))

lemma relies : Runtime.Relies discipline where
  refl _ w := ⟨fun _ hv => hv, fun p _ => Keep.refl p w⟩
  trans h h' := ⟨fun v hv => h'.1 v (h.1 v hv), fun p hp =>
    (h.2 p hp).trans (h'.2 p ((h.2 p hp).lock.trans hp))⟩

lemma pendingSum_eq (h : Funded w) (p : Nat) : w.pendingSum p = w.outstanding p + w.covered p := by
  have hsplit : w.pendingSum p = w.vouchers.sum fun k r =>
      (if k.1 = p ∧ w.resolved k = false then r.amount else 0) +
        if k.1 = p ∧ r.pending = true ∧ w.resolved k = true then r.amount else 0 := by
    refine le_antisymm (sum_le_sum fun k r hr => ?_) (sum_le_sum fun k r hr => ?_)
    all_goals
      cases hk : w.resolved k with
      | true => simp
      | false => simp [h.pending hr hk]
  rw [hsplit, sum_add]
  rfl

/-! ### Changing rows -/

structure SameElse (w w' : World) : Prop where
  vault : w'.vault = w.vault
  logs : w'.logs = w.logs
  txs : w'.txs = w.txs
  locks : w'.locks = w.locks
  reading : w'.reading = w.reading

lemma SameElse.resolved (h : SameElse w w') (k : Key) : w'.resolved k = w.resolved k := by
  rw [World.resolved, h.logs, World.resolved]

lemma SameElse.waiting (h : SameElse w w') (i : Nat) : w'.waiting i = w.waiting i := by
  rw [World.waiting, h.txs, World.waiting]

/-- A change of rows that keeps their amounts, under which vouchers stay pending until they are
resolved. -/
lemma Inv.mapRows (hw : Inv w) {f : Key → VoucherRow → VoucherRow}
    (hf : ∀ k r, (f k r).amount = r.amount) (hsame : SameElse w w')
    (hrows : w'.vouchers = w.vouchers.mapRows f)
    (hsteady : ∀ {k r}, w.vouchers.get k = some r → r.pending = true →
      (f k r).pending = true ∨ w.resolved k = true ∧ w.reading k.1 = false) :
    Inv w' ∧ Amounts w w' ∧ ∀ p, Keep p w w' := by
  have houtstanding (p : Nat) : w'.outstanding p = w.outstanding p := by
    simp [outstanding, hrows, sum_mapRows, hf, hsame.resolved]
  have hknown : Amounts w w' := by
    intro v hv
    rw [Known] at hv ⊢
    simpa only [hrows, get_mapRows, Option.map_map, comp_def, hf] using hv
  refine ⟨⟨⟨fun p => ?_, fun {k r} hk hres => ?_⟩, fun {i tx} htx => ?_, fun {i j tx tx'} hij hi hj => ?_⟩,
    hknown, fun p => ⟨by rw [hsame.locks], ?_, ?_, fun hreading => ?_⟩⟩
  · rw [houtstanding, hsame.vault]
    exact hw.funded.le p
  · rw [hrows, get_mapRows] at hk
    obtain ⟨old, hold, rfl⟩ := Option.map_eq_some_iff.mp hk
    rw [hsame.resolved] at hres
    rcases hsteady hold (hw.funded.pending hold hres) with hpending | ⟨hresolved, -⟩
    · exact hpending
    · rw [hres] at hresolved
      cases hresolved
  · rw [hsame.waiting] at htx
    have hsane := hw.sane htx
    refine ⟨hsane.nodup, fun v hv => hknown v (hsane.known v hv), fun v hv => ?_⟩
    rw [hsame.resolved]
    exact hsane.open_ v hv
  · rw [hsame.waiting] at hi hj
    exact hw.apart hij hi hj
  · rw [houtstanding, hsame.vault]
  · rw [hsame.reading]
    exact fun h => h
  · rw [hsame.vault]
    refine Nat.add_le_add_left ?_ _
    simp only [covered, hrows, sum_mapRows, hf, hsame.resolved]
    refine sum_le_sum fun k r hr => ?_
    by_cases hk : k.1 = p ∧ r.pending = true ∧ w.resolved k = true
    · rcases hsteady hr hk.2.1 with hpending | ⟨-, hnot⟩
      · simp [hk, hpending]
      · rw [hk.1, hreading] at hnot
        cases hnot
    · simp [hk]

/-! ### The vault runs a batch -/

def World.logged (w : World) (vault : Vault) (hash : Nat) (log : Log) : World :=
  { w with vault, logs := w.logs ++ [(hash, log)] }

lemma resolved_logged (vault : Vault) (hash : Nat) (log : Log) (k : Key) :
    (w.logged vault hash log).resolved k = (w.resolved k || decide (log.key = k)) := by
  simp [resolved, logged]

/-- The payers keep their slack, and what an answer stands for. -/
structure Grows (w w' : World) : Prop where
  slack : ∀ p, w.vault.balance p + w'.outstanding p ≤ w'.vault.balance p + w.outstanding p
  answer : ∀ p, w.vault.balance p + w.covered p ≤ w'.vault.balance p + w'.covered p

lemma Grows.trans (h : Grows w w') (h' : Grows w' w'') : Grows w w'' where
  slack p := by
    have h1 := h.slack p
    have h2 := h'.slack p
    omega
  answer p := le_trans (h.answer p) (h'.answer p)

/-- **One voucher**, which is outstanding: it is settled or refused, and covered from then on. -/
theorem Funded.logged (hw : Funded w) {v : Key × VoucherRow} (hknown : Known w v)
    (hopen : w.resolved v.1 = false) {vault : Vault} {hash : Nat} {log : Log} (hlog : log.key = v.1)
    (hbalance : vault.balance = w.vault.balance ∨
      v.2.amount ≤ w.vault.balance v.1.1 ∧ vault.balance =
        update w.vault.balance v.1.1 (w.vault.balance v.1.1 - v.2.amount)) :
    Funded (w.logged vault hash log) ∧ Grows w (w.logged vault hash log) := by
  obtain ⟨row, hrow, hamount⟩ := Option.map_eq_some_iff.mp hknown
  have hpending := hw.pending hrow hopen
  have hres (k : Key) (hk : k ≠ v.1) : (w.logged vault hash log).resolved k = w.resolved k := by
    rw [resolved_logged, hlog, decide_eq_false (Ne.symm hk), Bool.or_false]
  have hself : (w.logged vault hash log).resolved v.1 = true := by
    rw [resolved_logged, hlog, decide_eq_true rfl, Bool.or_true]
  have hout (p : Nat) : (w.logged vault hash log).outstanding p +
      (if v.1.1 = p then row.amount else 0) = w.outstanding p := by
    have hexchange : (w.logged vault hash log).outstanding p +
        (if v.1.1 = p ∧ w.resolved v.1 = false then row.amount else 0) = w.outstanding p +
          if v.1.1 = p ∧ (w.logged vault hash log).resolved v.1 = false then row.amount else 0 :=
      @sum_exchange _ _ v.1 row w.vouchers _ hrow
        (fun k r => if k.1 = p ∧ w.resolved k = false then r.amount else 0)
        (fun k r => if k.1 = p ∧ (w.logged vault hash log).resolved k = false then r.amount else 0)
        fun k r hk => by simp [hres k hk]
    simpa only [hopen, hself, and_true, and_false, if_false, reduceCtorEq, add_zero] using hexchange
  have hcov (p : Nat) : (w.logged vault hash log).covered p =
      w.covered p + (if v.1.1 = p then row.amount else 0) := by
    have hexchange : (w.logged vault hash log).covered p +
        (if v.1.1 = p ∧ row.pending = true ∧ w.resolved v.1 = true then row.amount else 0) =
          w.covered p + if v.1.1 = p ∧ row.pending = true ∧
            (w.logged vault hash log).resolved v.1 = true then row.amount else 0 :=
      @sum_exchange _ _ v.1 row w.vouchers _ hrow
        (fun k r => if k.1 = p ∧ r.pending = true ∧ w.resolved k = true then r.amount else 0)
        (fun k r => if k.1 = p ∧ r.pending = true ∧
          (w.logged vault hash log).resolved k = true then r.amount else 0)
        fun k r hk => by simp [hres k hk]
    simpa only [hopen, hself, hpending, and_true, and_false, if_false, reduceCtorEq, add_zero]
      using hexchange
  -- the balance falls by the amount, or not at all
  have hfall (p : Nat) : w.vault.balance p ≤ vault.balance p + (if v.1.1 = p then row.amount else 0) ∧
      w.outstanding p ≤ w.vault.balance p := by
    refine ⟨?_, hw.le p⟩
    rcases hbalance with heq | ⟨hle, heq⟩
    · rw [heq]
      exact le_add_right _ _
    · rw [heq]
      by_cases hp : v.1.1 = p
      · subst hp
        rw [update_self, if_pos rfl, hamount]
        omega
      · rw [update_of_ne (Ne.symm hp)]
        exact le_add_right _ _
  have hvault : (w.logged vault hash log).vault = vault := rfl
  refine ⟨⟨fun p => ?_, fun {k r} hk hnot => ?_⟩, fun p => ?_, fun p => ?_⟩
  · have := hout p
    have := hfall p
    rw [hvault]
    omega
  · refine hw.pending hk ?_
    rw [resolved_logged, Bool.or_eq_false_iff] at hnot
    exact hnot.1
  · have := hout p
    have := hfall p
    rw [hvault]
    omega
  · have := hcov p
    have := hfall p
    rw [hvault]
    omega

def World.ran (w : World) (hash : Nat) (run : Vault × List Log) : World :=
  { w with vault := run.1, logs := w.logs ++ run.2.map fun log => (hash, log) }

lemma resolved_ran {run : Vault × List Log} (h : ∀ log ∈ run.2, log.key ≠ k) :
    (w.ran hash run).resolved k = w.resolved k := by
  simp only [resolved, ran, any_append, any_map, Bool.or_eq_left_iff_imp,
    any_eq_true, comp_def, decide_eq_true_eq]
  rintro ⟨log, hlog, heq⟩
  exact absurd heq (h log hlog)

lemma le_of_verify {vault : Vault} {r : VoucherRow}
    (h : vault.verify time valid k r = none) : r.amount ≤ vault.balance k.1 := by
  by_contra hlt
  unfold Vault.verify at h
  split_ifs at h
  omega

/-- **A batch** of different vouchers that are all outstanding. -/
theorem Funded.ran {time hash : Nat} {vs : List (Key × VoucherRow)}
    (hw : Funded w) (hnodup : (vs.map Prod.fst).Nodup) (hknown : ∀ v ∈ vs, Known w v)
    (hopen : ∀ v ∈ vs, w.resolved v.1 = false) :
    Funded (w.ran hash (w.vault.settleBatch time valid vs)) ∧
      Grows w (w.ran hash (w.vault.settleBatch time valid vs)) := by
  induction vs generalizing w with
  | nil =>
    have hsame : w.ran hash (w.vault.settleBatch time valid []) = w := by
      simp [World.ran, Vault.settleBatch]
    rw [hsame]
    exact ⟨hw, fun p => le_refl _, fun p => le_refl _⟩
  | cons v rest ih =>
    rw [map_cons, nodup_cons] at hnodup
    -- the world after the first voucher, from which the rest of the batch goes on
    have hstep {vault : Vault} {log : Log} (hlog : log.key = v.1)
        (hfirst : Funded (w.logged vault hash log) ∧ Grows w (w.logged vault hash log))
        (hrun : w.vault.settleBatch time valid (v :: rest) =
          ((vault.settleBatch time valid rest).1, log :: (vault.settleBatch time valid rest).2)) :
        Funded (w.ran hash (w.vault.settleBatch time valid (v :: rest))) ∧
          Grows w (w.ran hash (w.vault.settleBatch time valid (v :: rest))) := by
      have hrest := ih (w := w.logged vault hash log) hfirst.1 hnodup.2
        (fun v' hv' => hknown v' (.tail _ hv')) fun v' hv' => by
          rw [resolved_logged, hopen v' (.tail _ hv'), hlog, Bool.false_or, decide_eq_false_iff_not]
          exact fun heq => hnodup.1 (heq ▸ mem_map_of_mem hv')
      have hran : w.ran hash (w.vault.settleBatch time valid (v :: rest)) =
          (w.logged vault hash log).ran hash (vault.settleBatch time valid rest) := by
        rw [hrun]
        simp [World.ran, World.logged]
      rw [hran]
      exact ⟨hrest.1, hfirst.2.trans hrest.2⟩
    have hv := hknown v mem_cons_self
    have hvopen := hopen v mem_cons_self
    cases hverify : w.vault.verify time valid v.1 v.2 with
    | some reason =>
      have hfirst : Funded (w.logged w.vault hash (.skipped v.1 reason)) ∧ _ :=
        hw.logged hv hvopen rfl (.inl rfl)
      refine hstep rfl hfirst ?_
      simp [Vault.settleBatch, hverify]
    | none =>
      have hfirst : Funded (w.logged (w.vault.settle v.1 v.2) hash (.settled v.1)) ∧ _ :=
        hw.logged hv hvopen rfl (.inr ⟨le_of_verify hverify, rfl⟩)
      refine hstep rfl hfirst ?_
      simp [Vault.settleBatch, hverify]

/-! ### Transactions -/

lemma Inv.settled (hw : Inv w) (htx : w.waiting hash = some tx) :
    Inv (w.mine hash time valid tx) ∧ Amounts w (w.mine hash time valid tx) ∧
      ∀ p, Keep p w (w.mine hash time valid tx) := by
  have hsane := hw.sane htx
  obtain ⟨hfunded, hgrows⟩ : Funded (w.ran hash (w.vault.settleBatch time valid tx.vouchers)) ∧ _ :=
    hw.funded.ran hsane.nodup hsane.known hsane.open_
  have hwaiting {i : Nat} {tx' : Batch} (hi : (w.mine hash time valid tx).waiting i = some tx') :
      i ≠ hash ∧ w.waiting i = some tx' := by
    have heq : (w.mine hash time valid tx).waiting i = if i = hash then none else w.waiting i :=
      @waiting_setFate w tx hash
        (.mined ⟨true, (w.vault.settleBatch time valid tx.vouchers).2⟩) nofun i
    rw [heq] at hi
    split at hi
    · cases hi
    · next hne => exact ⟨hne, hi⟩
  refine ⟨⟨⟨hfunded.le, hfunded.pending⟩, fun {i tx'} hi => ?_, fun {i j tx1 tx2} hij hi hj => ?_⟩,
    fun v hv => hv, fun p => ⟨rfl, hgrows.slack p, fun h => h, fun _ => hgrows.answer p⟩⟩
  · obtain ⟨hne, hold⟩ := hwaiting hi
    have hsane' := hw.sane hold
    refine ⟨hsane'.nodup, hsane'.known, fun v hv => ?_⟩
    have hran : (w.mine hash time valid tx).resolved v.1 =
        (w.ran hash (w.vault.settleBatch time valid tx.vouchers)).resolved v.1 := rfl
    rw [hran, resolved_ran fun log hlog heq => ?_]
    · exact hsane'.open_ v hv
    obtain ⟨v', hv', hkey⟩ := mem_map.mp (key_mem_of_log hlog)
    exact hw.apart hne hold htx v hv v' hv' (heq.symm.trans hkey.symm)
  · exact hw.apart hij (hwaiting hi).2 (hwaiting hj).2

lemma Inv.setFate (hw : Inv w) {fate : Fate} (hfate : fate ≠ .waiting) :
    Inv (w.setFate hash tx fate) ∧ Amounts w (w.setFate hash tx fate) ∧
      ∀ p, Keep p w (w.setFate hash tx fate) := by
  have hwaiting {i : Nat} {tx' : Batch} (hi : (w.setFate hash tx fate).waiting i = some tx') :
      w.waiting i = some tx' := by
    rw [waiting_setFate hfate] at hi
    split at hi
    · cases hi
    · exact hi
  refine ⟨⟨⟨hw.funded.le, hw.funded.pending⟩, fun hi => ?_, fun hij hi hj => ?_⟩, fun v hv => hv,
    fun p => ⟨rfl, le_refl _, fun h => h, fun _ => le_refl _⟩⟩
  · have hsane := hw.sane (hwaiting hi)
    exact ⟨hsane.nodup, hsane.known, hsane.open_⟩
  · exact hw.apart hij (hwaiting hi) (hwaiting hj)

lemma Inv.deposit (hw : Inv w) (payer amount : Nat)
    (h : w.drift (.deposit payer amount) = some w') : Inv w' ∧ Amounts w w' ∧ ∀ p, Keep p w w' := by
  cases h
  have hle (p : Nat) : w.vault.balance p ≤
      update w.vault.balance payer (w.vault.balance payer + amount) p := by
    by_cases hp : p = payer
    · subst hp
      rw [update_self]
      exact le_add_right _ _
    · rw [update_of_ne hp]
  refine ⟨⟨⟨fun p => le_trans (hw.funded.le p) (hle p), hw.funded.pending⟩, fun hi => ?_,
    hw.apart⟩, fun v hv => hv, fun p => ⟨rfl, Nat.add_le_add_right (hle p) _, fun h => h,
      fun _ => Nat.add_le_add_right (hle p) _⟩⟩
  have hsane := hw.sane hi
  exact ⟨hsane.nodup, hsane.known, hsane.open_⟩

lemma Inv.drift (hw : Inv w) {o : Choice} (h : w.drift o = some w') :
    Inv w' ∧ Amounts w w' ∧ ∀ p, Keep p w w' := by
  cases o with
  | settle =>
    obtain ⟨tx, htx, rfl⟩ := Option.map_eq_some_iff.mp h
    exact hw.settled htx
  | revert | drop =>
    obtain ⟨tx, htx, rfl⟩ := Option.map_eq_some_iff.mp h
    exact hw.setFate nofun
  | deposit payer amount => exact hw.deposit payer amount h
  | _ => cases h

lemma Inv.accept (hw : Inv w) {rows : List (Key × VoucherRow)} (hnodup : (rows.map Prod.fst).Nodup)
    (hknown : ∀ v ∈ rows, Known w v)
    (hsingle : ∀ r ∈ rows, w.resolved r.1 = false ∧ w.carried r.1 = false) : Inv (w.accept rows) := by
  have hfree {i : Nat} {tx : Batch} (hi : w.waiting i = some tx) :
      ∀ v ∈ tx.vouchers, ∀ v' ∈ rows, v.1 ≠ v'.1 := by
    intro v hv v' hv' heq
    have hcarried := carried_of_waiting hi hv
    rw [heq, (hsingle v' hv').2] at hcarried
    cases hcarried
  refine ⟨⟨hw.funded.le, hw.funded.pending⟩, fun {i tx} hi => ?_, fun {i j tx tx'} hij hi hj => ?_⟩
  · rw [waiting_accept] at hi
    split at hi
    · cases hi
      exact ⟨hnodup, hknown, fun v hv => (hsingle v hv).1⟩
    · have hsane := hw.sane hi
      exact ⟨hsane.nodup, hsane.known, hsane.open_⟩
  · rw [waiting_accept] at hi hj
    split at hi <;> split at hj
    · next hi' hj' => exact absurd (hi'.trans hj'.symm) hij
    · cases hi
      exact fun v hv v' hv' heq => hfree hj v' hv' v hv heq.symm
    · cases hj
      exact hfree hi
    · exact hw.apart hij hi hj

end Ferminux.Gateway.X402
