import Ferminux.Gateway.X402Funds

/-!
# Gateway.X402FundsSafety

The programs of the facilitator against the invariant of `Gateway.X402Funds`: **no payer is
accepted for more than the vault holds**, in every run that meets the condition, and the run in which
it fails.

Most of a flush only changes rows, which keeps everything a holder of a lock relies on
(`act_quiet`); that a batch consists of different rows of the table is read off what its parts
return. `settle` keeps the lock of its payer (`Holds`) and, once the balance was found sufficient,
room for its voucher (`Room`).
-/

namespace Ferminux.Gateway.X402

open Lib Lib.Runtime Function Option Lib.Task Lib.Table Uses

variable {w w' : World} {signedByPayer : Key × VoucherRow → Bool} {i : Nat}
  {key : Key} {v : VoucherRow}
 {e : Effect} {o : Choice} {res : Except String (Answer e)}

/-! ### Quiet effects -/

/-- The effects that leave locks, transactions and amounts. -/
def quiet : Effect → Prop
  | .update _ f => ∀ r, (f r).amount = r.amount
  | .lock _ _ | .unlock _ | .balance _ | .arrive _ | .insert _ _ | .send _ _ => False
  | _ => True

lemma mapRows_self {t : Table Key VoucherRow} : (t.mapRows fun _ r => r) = t := by
  cases t
  simp [mapRows]

lemma Inv.same (hw : Inv w) (hsame : SameElse w w') (hrows : w'.vouchers = w.vouchers) :
    Inv w' ∧ Amounts w w' ∧ ∀ p, Keep p w w' :=
  hw.mapRows (fun _ _ => rfl) hsame (hrows.trans mapRows_self.symm) fun _ h => .inl h

lemma SameElse.refl (w : World) : SameElse w w := ⟨rfl, rfl, rfl, rfl, rfl⟩

lemma Steady.pending
    (h : Steady w e o) (hact : w.act e o = some (res, w')) {f : Key → VoucherRow → VoucherRow}
    (hrows : w'.vouchers = w.vouchers.mapRows f) {k : Key} {r : VoucherRow}
    (hr : w.vouchers.get k = some r) (hpending : r.pending = true) :
    (f k r).pending = true ∨ w.resolved k = true ∧ w.reading k.1 = false := by
  refine (h (k, r) (get_eq_some.mp hr) hpending).imp_left fun hall => ?_
  have hstays := hall (res, w') hact
  rw [hrows, get_mapRows, hr] at hstays
  exact hstays

lemma vouchers_update (key : Key) (f : VoucherRow → VoucherRow) :
    (w.update key f).vouchers = w.vouchers.mapRows fun k r => if k = key then f r else r := rfl

lemma amount_update {f : VoucherRow → VoucherRow} (hf : ∀ r, (f r).amount = r.amount)
    (k : Key) (r : VoucherRow) : (if k = key then f r else r).amount = r.amount := by
  split
  · exact hf r
  · rfl

lemma amount_applyLog (log : Log) (now hash : Nat) : ∃ f : Key → VoucherRow → VoucherRow,
    (∀ k r, (f k r).amount = r.amount) ∧ (w.applyLog now hash log).vouchers = w.vouchers.mapRows f ∧
      SameElse w (w.applyLog now hash log) := by
  cases log with
  | settled =>
    refine ⟨_, amount_update fun r => ?_, vouchers_update .., rfl, rfl, rfl, rfl, rfl⟩
    rfl
  | skipped =>
    refine ⟨_, amount_update fun r => ?_, vouchers_update .., rfl, rfl, rfl, rfl, rfl⟩
    split <;> rfl

lemma act_quiet (he : quiet e)
    (hw : Inv w) (hok : Orderly w e o) (hact : w.act e o = some (res, w')) :
    Inv w' ∧ Amounts w w' ∧ ∀ p, Keep p w w' := by
  have hself : Inv w ∧ Amounts w w ∧ ∀ p, Keep p w w := hw.same (SameElse.refl w) rfl
  have hrows {f : Key → VoucherRow → VoucherRow} (hf : ∀ k r, (f k r).amount = r.amount)
      (hsame : SameElse w w') (heq : w'.vouchers = w.vouchers.mapRows f) :
      Inv w' ∧ Amounts w w' ∧ ∀ p, Keep p w w' :=
    hw.mapRows hf hsame heq fun hr hpending => hok.1.pending hact heq hr hpending
  cases e with
  | update key f =>
    cases o <;> cases id hact
    exact hrows (amount_update he) ⟨rfl, rfl, rfl, rfl, rfl⟩ (vouchers_update key f)
  | expire now =>
    have hexpire : (w.expire now).vouchers = w.vouchers.mapRows fun _ => expiredAt now := rfl
    cases o <;> cases id hact
    refine hrows (fun k r => ?_) ⟨rfl, rfl, rfl, rfl, rfl⟩ hexpire
    unfold expiredAt
    split <;> rfl
  | voidQueued key reason =>
    cases o with
    | statement now =>
      have hact' := hact
      simp only [World.act] at hact'
      split at hact'
      · cases hact'
        have hvoid : (w.voidQueued now key reason).vouchers =
            w.vouchers.mapRows fun k r => if k = key then voidedAt now reason r else r := rfl
        refine hrows ?_ ⟨rfl, rfl, rfl, rfl, rfl⟩ hvoid
        exact amount_update fun _ => rfl
      · cases hact'
        exact hself
    | _ => cases hact
  | applyLog =>
    cases o with
    | statement now =>
      have hact' := hact
      simp only [World.act] at hact'
      split at hact'
      · next hash log hlog =>
        obtain ⟨f, hf, heq, hsame⟩ := amount_applyLog (w := w) log now hash
        cases hact'
        exact hrows hf ⟨hsame.vault, hsame.logs, hsame.txs, hsame.locks, hsame.reading⟩ heq
      · cases hact'
        exact hself
    | _ => cases hact
  | beginFlush =>
    cases o with
    | statement =>
      simp only [World.act] at hact
      split at hact <;> cases hact
      · exact hself
      · exact hw.same ⟨rfl, rfl, rfl, rfl, rfl⟩ rfl
    | _ => cases hact
  | endFlush =>
    cases o <;> cases hact
    exact hw.same ⟨rfl, rfl, rfl, rfl, rfl⟩ rfl
  | wait =>
    cases o with
    | answer =>
      obtain ⟨receipt, -, heq⟩ := map_eq_some_iff.mp hact
      cases heq
      exact hself
    | fails =>
      cases hact
      exact hself
    | _ => cases hact
  | lock | unlock | balance | arrive | insert | send => exact he.elim
  | _ =>
    cases o <;> cases hact
    all_goals exact hself

/-- What a thread that leaves all locks and amounts guarantees, and could rely on itself. -/
lemma safe_quiet {α : Type} {t : Prog α} (ht : t.Uses quiet) (hw : Inv w) :
    (runtime signedByPayer).Safe discipline i t (fun _ w' => discipline.rely i w w' ∧ Inv w') w := by
  refine Safe.of_uses relies ?_ ht hw
  intro e w o r w' he hw hok hact
  obtain ⟨hinv, hamounts, hkeep⟩ := act_quiet he hw hok hact
  exact ⟨hinv, ⟨hamounts, fun p _ _ _ => hkeep p⟩, hamounts, fun p _ => hkeep p⟩

/-! ### The parts of a flush -/

lemma amount_finalized (n hash : Nat) (receipt : Receipt) (t : Nat) (r : Key × VoucherRow)
    (row : VoucherRow) : (finalized n hash receipt t r row).amount = row.amount := by
  unfold finalized
  split_ifs
  · rfl
  · rfl
  · rfl
  · split <;> rfl

lemma uses_finalize (rows : List (Key × VoucherRow)) (hash : Nat) (receipt : Receipt) :
    (finalize rows hash receipt).Uses quiet :=
  next trivial fun t => each fun r _ =>
    .one (amount_finalized rows.length hash receipt t r)

lemma uses_reconcileSubmitted : reconcileSubmitted.Uses quiet := by
  refine next trivial fun t => next trivial fun stale => each fun hash _ => ?_
  refine next trivial fun receipt => next trivial fun rows => ?_
  cases receipt with
  | some receipt => exact uses_finalize rows hash receipt
  | none => exact each fun r _ => .one fun _ => rfl

lemma quiet_chooseBatch {queued : List (Key × VoucherRow)} :
    (chooseBatch signedByPayer queued).Uses quiet := by
  refine uses_chooseBatch trivial (fun _ => trivial) queued (fun r _ why t row => ?_)
    fun r _ message row => ?_
  · unfold failedAlone
    split <;> rfl
  · unfold noted
    split <;> rfl

/-- Different vouchers of the table. -/
def Rows (w : World) (rows : List (Key × VoucherRow)) : Prop :=
  (rows.map Prod.fst).Nodup ∧ ∀ v ∈ rows, Known w v

lemma Rows.of_subperm {queued rows : List (Key × VoucherRow)} (h : Rows w queued)
    (hrows : rows.Subperm queued) : Rows w rows := by
  obtain ⟨l, hperm, hsub⟩ := hrows
  refine ⟨(hperm.map Prod.fst).nodup_iff.mp (h.1.sublist (hsub.map Prod.fst)), fun v hv => ?_⟩
  exact h.2 v (hsub.subset (hperm.symm.subset hv))

lemma rows_queuedRows (limit : Nat) : Rows w (w.queuedRows limit) :=
  ⟨nodup_queuedRows limit, fun v hv => by simp [Known, (mem_queuedRows hv).1]⟩

/-! ### A flush -/

variable {rows : List (Key × VoucherRow)}

lemma Rows.rely (h : Rows w rows) (hrely : discipline.rely i w w') : Rows w' rows :=
  ⟨h.1, fun v hv => hrely.1 v (h.2 v hv)⟩

lemma safe_submit (hw : Inv w) (hrows : Rows w rows) :
    (runtime signedByPayer).Safe discipline i (submit rows) (fun _ => Inv) w := by
  refine (safe_quiet (.one (by trivial)) hw).bind ?_
  rintro (message | estimate) w1 ⟨hrely1, hw1⟩
  · exact hw1
  cases estimate with
  | batchFailed | unreachable => exact hw1
  | gas estimate =>
    refine (safe_quiet (.one (by trivial)) hw1).bind ?_
    rintro (message | block) w2 ⟨hrely2, hw2⟩
    · exact hw2
    have hrows2 := (hrows.rely hrely1).rely hrely2
    refine safe_bind.mpr (safe_call_from relies hw2 fun w3 o r w' hrely3 _ hw3 hok hact => ?_)
    have hrows3 := hrows2.rely hrely3
    have haccept := hw3.accept hrows3.1 hrows3.2 hok.2
    have hguar : discipline.guar i w3 (w3.accept rows) :=
      ⟨fun _ hv => hv, fun p _ _ _ => ⟨rfl, Nat.le_refl _, fun h => h, fun _ => Nat.le_refl _⟩⟩
    cases o with
    | answer =>
      cases hact
      have hsent : (ask (.sent w3.txs.length) >>= fun _ => pure w3.txs.length : Prog Nat).Uses
          quiet := next trivial fun _ => trivial
      exact ⟨haccept, hguar, (safe_quiet hsent haccept).mono fun _ _ h => h.2⟩
    | fails =>
      cases hact
      exact ⟨hw3, ⟨fun _ hv => hv, fun p _ _ _ => Keep.refl p _⟩, hw3⟩
    | _ => cases hact

lemma uses_awaitBatch (rows : List (Key × VoucherRow)) (hash : Nat) :
    (awaitBatch rows hash).Uses quiet := by
  refine bind (each fun r _ => ?_) fun _ =>
    next trivial fun receipt => ?_
  · exact next trivial fun t => .one fun _ => rfl
  · cases receipt with
    | some receipt => exact uses_finalize rows hash receipt
    | none => trivial

lemma safe_sendBatch (hw : Inv w) (hrows : Rows w rows) :
    (runtime signedByPayer).Safe discipline i (sendBatch rows) (fun _ => Inv) w := by
  refine safe_bind.mpr (safe_tryCatch.mpr ((safe_submit hw hrows).bind fun res w1 hw1 => ?_))
  cases res with
  | ok hash => exact (safe_quiet (uses_awaitBatch rows hash) hw1).mono fun _ _ h => h.2
  | error message =>
    have hagain : (Task.each rows fun r => ask (.update r.1 (queuedAgain (slice message 200)))).Uses
        quiet := each fun r _ => .one fun _ => rfl
    refine (safe_quiet hagain hw1).bind fun res w2 h => ?_
    cases res <;> exact h.2

lemma safe_flushQueue (hw : Inv w) :
    (runtime signedByPayer).Safe discipline i (flushQueue signedByPayer) (fun _ => Inv) w := by
  refine (safe_quiet uses_reconcileSubmitted hw).bind ?_
  rintro (message | _) w1 ⟨-, hw1⟩
  · exact hw1
  refine (safe_quiet (.one (by trivial)) hw1).bind ?_
  rintro (message | t0) w2 ⟨-, hw2⟩
  · exact hw2
  refine (safe_quiet (.one (by trivial)) hw2).bind ?_
  rintro (message | _) w3 ⟨-, hw3⟩
  · exact hw3
  refine safe_bind.mpr (safe_call_from relies hw3 fun w4 o res w' _ _ hw4 _ hact => ?_)
  cases o <;> cases hact
  refine ⟨hw4, ⟨fun _ hv => hv, fun p _ _ _ => Keep.refl p _⟩, ?_⟩
  refine safe_guard hw4 fun _ => ?_
  -- the batch is chosen from the rows that were read, which stay in the table
  have hqueued : Rows w4 (capped X402_BATCH_SIZE [] (w4.queuedRows X402_BATCH_SIZE)) := by
    obtain ⟨more, hmore, heq⟩ := capped_eq X402_BATCH_SIZE [] (w4.queuedRows X402_BATCH_SIZE)
    rw [heq, List.nil_append]
    exact (rows_queuedRows X402_BATCH_SIZE).of_subperm hmore.subperm
  refine ((safe_quiet quiet_chooseBatch hw4).yields (yields_chooseBatch _)).bind ?_
  rintro (message | rows) w5 ⟨⟨hrely, hw5⟩, hrows⟩
  · exact hw5
  exact safe_ite.mpr ⟨fun _ => hw5,
    fun _ => safe_sendBatch hw5 ((hqueued.of_subperm (hrows rows rfl)).rely hrely)⟩

lemma safe_flush (hw : Inv w) :
    (runtime signedByPayer).Safe discipline i (flush signedByPayer i) (fun _ _ => True) w := by
  refine (safe_quiet (.one (by trivial)) hw).bind ?_
  rintro (message | began) w1 ⟨-, hw1⟩
  · trivial
  refine safe_ite.mpr ⟨fun _ => ?_, fun _ => trivial⟩
  refine safe_bind.mpr (safe_tryCatch.mpr ((safe_flushQueue hw1).mono fun res w2 hw2 => ?_))
  cases res with
  | ok => exact (safe_quiet (.one (by trivial)) hw2).mono fun _ _ _ => trivial
  | error message =>
    refine (safe_quiet (.one (by trivial)) hw2).bind ?_
    rintro (message | _) w3 -
    · trivial
    · trivial

/-! ### Accepting a voucher -/

def Holds (i p : Nat) (w : World) : Prop := Inv w ∧ w.locks p = some i

/-- Moreover the balance suffices for another voucher. -/
def Room (i p amount : Nat) (w : World) : Prop :=
  Holds i p w ∧ w.outstanding p + amount ≤ w.vault.balance p

variable {p amount : Nat}

lemma Holds.rely (h : Holds i p w) (hw' : Inv w') (hrely : discipline.rely i w w') :
    Holds i p w' :=
  ⟨hw', (hrely.2 p h.2).lock.trans h.2⟩

lemma Room.rely (h : Room i p amount w) (hw' : Inv w') (hrely : discipline.rely i w w') :
    Room i p amount w' := by
  refine ⟨h.1.rely hw' hrely, ?_⟩
  have hslack := (hrely.2 p h.1.2).slack
  have hroom := h.2
  omega

lemma guar_of_lock (hother : ∀ j, w.locks p = some j → j = i)
    (hrows : w'.vouchers = w.vouchers) (hvault : w'.vault = w.vault) (hlogs : w'.logs = w.logs)
    (hlocks : ∀ q, q ≠ p → w'.locks q = w.locks q)
    (hreading : ∀ q, q ≠ p → w'.reading q = w.reading q) : discipline.guar i w w' := by
  have hresolved (k : Key) : w'.resolved k = w.resolved k := by
    rw [World.resolved, hlogs, World.resolved]
  refine ⟨fun v hv => ?_, fun q j hj hq => ?_⟩
  · rw [Known, hrows]
    exact hv
  · have hne : q ≠ p := by
      rintro rfl
      exact hj (hother j hq)
    refine ⟨hlocks q hne, ?_, fun h => (hreading q hne).trans h, fun _ => ?_⟩
    · simp [World.outstanding, hrows, hvault, hresolved]
    · simp [World.covered, hrows, hvault, hresolved]

lemma Inv.locks (hw : Inv w) (locks : Nat → Option Nat) (reading : Nat → Bool) :
    Inv { w with locks, reading } := by
  refine ⟨⟨hw.funded.le, hw.funded.pending⟩, fun hi => ?_, hw.apart⟩
  have hsane := hw.sane hi
  exact ⟨hsane.nodup, hsane.known, hsane.open_⟩

lemma safe_unlock (h : Holds i p w) :
    (runtime signedByPayer).Safe discipline i (ask (.unlock p)) (fun _ => Inv) w := by
  refine safe_call_from relies h.1 fun w1 o res w' _ hsync _ _ hact => ?_
  obtain rfl := hsync rfl
  cases o <;> cases hact
  have hinv := h.1.locks (update w1.locks p none) (update w1.reading p false)
  refine ⟨hinv, ?_, hinv⟩
  refine guar_of_lock (fun j hj => ?_) rfl rfl rfl (fun q hq => update_of_ne hq ..)
    fun q hq => update_of_ne hq ..
  exact some.inj (hj.symm.trans h.2)

lemma safe_lock (hw : Inv w) : (runtime signedByPayer).Safe discipline i (ask (.lock p i))
      (fun res w' => Holds i p w' ∧ res = .ok ()) w := by
  refine safe_call_from relies hw fun w1 o res w' _ _ hw1 _ hact => ?_
  cases o with
  | answer =>
    simp only [runtime, World.act] at hact
    split at hact
    · next hfree =>
      cases hact
      have hinv := hw1.locks (update w1.locks p (some i)) w1.reading
      refine ⟨hinv, ?_, ⟨hinv, update_self ..⟩, rfl⟩
      refine guar_of_lock (fun j hj => ?_) rfl rfl rfl (fun q hq => update_of_ne hq ..)
        fun _ _ => rfl
      rw [hfree] at hj
      cases hj
    · cases hact
  | _ => cases hact

lemma safe_held (h : Holds i p w) (he : quiet e) :
    (runtime signedByPayer).Safe discipline i (ask e) (fun _ => Holds i p) w :=
  (safe_quiet (.one he) h.1).mono fun _ _ hq => h.rely hq.2 hq.1

/-- **The check of the funds**: behind it, if the voucher is not refused, there is room for it. -/
theorem safe_checkFunds (h : Holds i key.1 w) :
    (runtime signedByPayer).Safe discipline i (checkFunds key v)
      (fun res w' => Holds i key.1 w' ∧ (res = .ok none → Room i key.1 v.amount w')) w := by
  refine (safe_held h (by trivial)).bind ?_
  rintro (message | nowS) w1 h1
  · exact ⟨h1, nofun⟩
  have hfailed {w' : World} {message : String} (h' : Holds i key.1 w') :
      Holds i key.1 w' ∧ ((.ok (some (vaultFailure message)) : Except String (Option String)) =
        .ok none → Room i key.1 v.amount w') := ⟨h', nofun⟩
  refine safe_tryCatch.mpr (safe_bind.mpr (safe_call_from relies h1.1
    fun w2 o res w' hrely2 _ hw2 _ hact => ?_))
  have h2 := h1.rely hw2 hrely2
  have hown {w : World} (h : Holds i key.1 w) (j : Nat) (hj : w.locks key.1 = some j) : j = i :=
    some.inj (hj.symm.trans h.2)
  cases o with
  | fails =>
    cases hact
    exact ⟨hw2, ⟨fun _ hv => hv, fun p _ _ _ => Keep.refl p _⟩, hfailed h2⟩
  | answer =>
    cases hact
    have hinv3 := hw2.locks w2.locks (update w2.reading key.1 true)
    refine ⟨hinv3, guar_of_lock (hown h2) rfl rfl rfl (fun _ _ => rfl)
      (fun q hq => update_of_ne hq ..), ?_⟩
    -- the answer is on its way
    have h3 : Holds i key.1 { w2 with reading := update w2.reading key.1 true } := ⟨hinv3, h2.2⟩
    refine safe_bind.mpr (safe_call_from relies hinv3 fun w4 o res w' hrely4 _ hw4 _ hact => ?_)
    have h4 := h3.rely hw4 hrely4
    have hanswer : w2.vault.balance key.1 ≤ w4.vault.balance key.1 + w4.covered key.1 :=
      Nat.le_trans (Nat.le_add_right _ _) ((hrely4.2 key.1 h3.2).answer (update_self ..))
    have hinv5 := hw4.locks w4.locks (update w4.reading key.1 false)
    have hguar5 : discipline.guar i w4
        { w4 with reading := update w4.reading key.1 false } :=
      guar_of_lock (hown h4) rfl rfl rfl (fun _ _ => rfl) (fun q hq => update_of_ne hq ..)
    have h5 : Holds i key.1 { w4 with reading := update w4.reading key.1 false } := ⟨hinv5, h4.2⟩
    cases o with
    | fails =>
      cases hact
      exact ⟨hinv5, hguar5, hfailed h5⟩
    | answer =>
      cases hact
      refine ⟨hinv5, hguar5, safe_bind.mpr (safe_call_from relies hinv5
        fun w6 o res w' _ hsync _ _ hact => ?_)⟩
      obtain rfl := hsync rfl
      cases o <;> cases hact
      refine ⟨hinv5, ⟨fun _ hv => hv, fun p _ _ _ => Keep.refl p _⟩, ?_⟩
      refine safe_guard ⟨h5, nofun⟩ fun hsuffices => ?_
      have hroom : Room i key.1 v.amount
          { w4 with reading := update w4.reading key.1 false } := by
        refine ⟨h5, ?_⟩
        have hle : w4.pendingSum key.1 + v.amount ≤ w2.vault.balance key.1 :=
          Nat.le_of_not_lt hsuffices
        rw [pendingSum_eq hw4.funded] at hle
        have hboth := Nat.le_trans hle hanswer
        have hout : w4.outstanding key.1 + v.amount ≤ w4.vault.balance key.1 := by omega
        exact hout
      refine (safe_quiet (.one (by trivial)) hinv5).bind ?_
      rintro (message | unlockAt) w7 ⟨hrely7, hw7⟩
      · exact hfailed (h5.rely hw7 hrely7)
      · exact safe_ite.mpr ⟨fun _ => ⟨h5.rely hw7 hrely7, nofun⟩,
          fun _ => ⟨h5.rely hw7 hrely7, fun _ => hroom.rely hw7 hrely7⟩⟩
    | _ => cases hact
  | _ => cases hact

/-- **A voucher is accepted** where there is room for it. -/
theorem Room.insert {row : VoucherRow} (h : Room i key.1 row.amount w)
    (hpending : row.pending = true) (hnew : w.vouchers.get key = none) :
    Inv { w with vouchers := w.vouchers.set key row } ∧
      discipline.guar i w { w with vouchers := w.vouchers.set key row } := by
  obtain ⟨⟨hw, hlock⟩, hroom⟩ := h
  set w' : World := { w with vouchers := w.vouchers.set key row } with hw'
  have hout (q : Nat) : w'.outstanding q = w.outstanding q +
      if key.1 = q ∧ w.resolved key = false then row.amount else 0 :=
    sum_set_of_new hnew _
  have hknown : Amounts w w' := by
    intro v hv
    simp only [Known, hw', get_set] at hv ⊢
    split
    · next heq =>
      rw [heq, hnew] at hv
      cases hv
    · exact hv
  refine ⟨⟨⟨fun q => ?_, fun {k r} hk hres => ?_⟩, fun hi => ?_, hw.apart⟩, hknown,
    fun q j hj hq => ?_⟩
  · rw [hout q]
    have hle := hw.funded.le q
    by_cases hq : key.1 = q
    · subst hq
      split <;> simp only [hw'] <;> omega
    · simpa [hq] using hle
  · simp only [hw', get_set] at hk
    split at hk
    · cases hk
      exact hpending
    · exact hw.funded.pending hk hres
  · have hsane := hw.sane hi
    exact ⟨hsane.nodup, fun v hv => hknown v (hsane.known v hv), hsane.open_⟩
  · have hne : key.1 ≠ q := by
      rintro rfl
      exact hj (some.inj (hq.symm.trans hlock))
    refine ⟨rfl, ?_, fun h => h, fun _ => ?_⟩
    · rw [hout q]
      simp [hne, hw']
    · have hcov : w'.covered q = w.covered q +
          if key.1 = q ∧ row.pending = true ∧ w.resolved key = true then row.amount else 0 :=
        sum_set_of_new hnew _
      rw [hcov]
      simp [hne, hw']

lemma safe_insertQueued (h : Room i key.1 v.amount w) :
    (runtime signedByPayer).Safe discipline i (insertQueued key v)
      (fun _ => Holds i key.1) w := by
  refine (safe_quiet (.one (by trivial)) h.1.1).bind ?_
  rintro (message | nowS) w1 ⟨hrely1, hw1⟩
  · exact h.1.rely hw1 hrely1
  have h1 := h.rely hw1 hrely1
  refine safe_bind.mpr (safe_call_from relies hw1 fun w2 o res w' _ hsync _ _ hact => ?_)
  obtain rfl := hsync rfl
  cases o with
  | statement now =>
    simp only [runtime, World.act] at hact
    split at hact
    · cases hact
      exact ⟨hw1, ⟨fun _ hv => hv, fun p _ _ _ => Keep.refl p _⟩, h1.1⟩
    · next hnew =>
      cases hact
      have hroom : Room i key.1 (queuedRow v nowS).amount w2 := h1
      obtain ⟨hinv, hguar⟩ := hroom.insert rfl (not_isSome_iff_eq_none.mp hnew)
      exact ⟨hinv, hguar, hinv, h1.1.2⟩
  | _ => cases hact

lemma safe_settleLocked (h : Holds i key.1 w) :
    (runtime signedByPayer).Safe discipline i (settleLocked key v)
      (fun _ => Holds i key.1) w := by
  refine (safe_held h (by trivial)).bind ?_
  rintro (message | used) w1 h1
  · exact h1
  refine safe_guard h1 fun _ => ?_
  refine (safe_checkFunds h1).bind ?_
  rintro (message | _ | reason) w2 ⟨h2, hroom⟩
  · exact h2
  · exact safe_insertQueued (hroom rfl)
  · exact h2

lemma safe_settle (hw : Inv w) :
    (runtime signedByPayer).Safe discipline i (settle key v i) (fun _ _ => True) w := by
  refine (safe_quiet (.one (by trivial)) hw).bind ?_
  rintro (message | _ | reason) w1 ⟨-, hw1⟩
  · trivial
  · refine (safe_lock hw1).bind ?_
    rintro _ w2 ⟨h2, rfl⟩
    refine safe_bind.mpr (safe_tryCatch.mpr ((safe_settleLocked h2).mono fun res w3 h3 => ?_))
    cases res with
    | ok res | error =>
      refine (safe_unlock h3).bind fun res _ _ => ?_
      cases res <;> trivial
  · trivial

/-! ### Runs -/

lemma sound : Sound (runtime signedByPayer) discipline where
  toRelies := relies
  guar hne h := ⟨h.1, fun p hp => h.2 p _ (Ne.symm hne) hp⟩
  drift hw h := by
    obtain ⟨hinv, hamounts, hkeep⟩ := hw.drift h
    exact ⟨hinv, fun i => ⟨hamounts, fun p _ => hkeep p⟩⟩
  reboot hw := by
    refine ⟨⟨hw.funded.le, hw.funded.pending⟩, fun hi => ?_, hw.apart⟩
    have hsane := hw.sane hi
    exact ⟨hsane.nodup, hsane.known, hsane.open_⟩
  task i j w hw := by
    cases j with
    | settle => exact (safe_settle hw).bind fun res _ _ => by cases res <;> trivial
    | flush => exact safe_flush hw
    | voidQueued key reason =>
      exact (safe_quiet (next (by trivial) fun _ => uses_pure) hw).mono
        fun _ _ _ => trivial
    | index => exact (safe_quiet (.one (by trivial)) hw).mono fun _ _ _ => trivial

lemma Inv.fresh (h : w.Fresh) : Inv w := by
  have hwaiting (i : Nat) : w.waiting i = none := by simp [World.waiting, h.txs]
  refine ⟨⟨fun p => ?_, fun {k r} hk => ?_⟩, fun {i tx} hi => ?_, fun {i j tx tx'} _ hi => ?_⟩
  · simp [World.outstanding, h.vouchers, sum, empty]
  · rw [h.vouchers] at hk
    cases hk
  · rw [hwaiting] at hi
    cases hi
  · rw [hwaiting] at hi
    cases hi

/-- **No payer is accepted for more than the vault holds**, in the runs in which a voucher stays
pending until it is resolved and while an answer about the balance is on its way, and in which no
voucher is sent a second time. -/
theorem outstanding_le_balance {start : World} (hstart : start.Fresh)
    {c : Config Nat Answer World} (hc : (runtime signedByPayer).Reach Orderly start c)
    (p : Nat) : c.world.outstanding p ≤ c.world.vault.balance p :=
  (sound.inv (Inv.fresh hstart) hc).funded.le p

/-! ### Two vouchers for one deposit -/

/-- A voucher is accepted and on its way. -/
theorem outstanding_le_balance_accepted : ∃ c : Config Nat Answer World,
    c.world.outstanding 1 = 100 ∧ c.world.outstanding 1 ≤ c.world.vault.balance 1 := by
  let c := ((runtime fun _ => true).run Orderly sampleStart
    (askBalance 1 1 ++ acceptVoucher 1 ++ sendOne)).get (by decide +kernel)
  have hc : (runtime fun _ => true).Reach Orderly sampleStart c := reach_of_run _ (some_get _).symm
  exact ⟨c, by decide +kernel, outstanding_le_balance fresh_sampleStart hc 1⟩

/-- The vault answers the second call before the first voucher is settled, and the answer arrives
after it was marked: both vouchers are accepted for one deposit. -/
theorem accepted_beyond_balance : ∃ c, sampleStart.Fresh ∧
    (runtime fun _ => true).Reach Free sampleStart c ∧
      c.world.vault.balance 1 < c.world.outstanding 1 := by
  let c := ((runtime fun _ => true).run Free sampleStart
    (askBalance 1 1 ++ acceptVoucher 1 ++ sendOne ++ askBalance 2 2 ++
      [.drift (.settle 0 25 fun _ => true)] ++ applyReceipt ++ acceptVoucher 2)).get (by decide +kernel)
  exact ⟨c, fresh_sampleStart, reach_of_run _ (some_get _).symm, by decide +kernel⟩

end Ferminux.Gateway.X402
