import Ferminux.Gateway.X402

/-!
# Gateway.X402Batch

What is common to the arguments about the facilitator: **which effects the parts of a flush have**
(`uses_chooseBatch`), **what a batch consists of** (some of the rows that were read, each once), the
transactions that wait, and the logs the vault writes for a batch.
-/

namespace Ferminux.Gateway.X402

open Lib List Lib.Task Lib.Runtime World Uses Yields

namespace World

/-- The vault has settled or refused the voucher. -/
def resolved (w : World) (key : Key) : Bool := w.logs.any (·.2.key = key)

/-- Some transaction that waits in the mempool carries the voucher. -/
def carried (w : World) (key : Key) : Bool :=
  w.txs.any fun tx => match tx.fate with
    | .waiting => tx.vouchers.any (·.1 = key)
    | _ => false

end World

variable {w : World} {signedByPayer : Key × VoucherRow → Bool} (rows : List (Key × VoucherRow))
  {tx : Batch} {v : Key × VoucherRow}

/-! ### Transactions that wait -/

lemma waiting_setFate {hash : Nat} {fate : Fate} (hfate : fate ≠ .waiting) (i : Nat) :
    (w.setFate hash tx fate).waiting i = if i = hash then none else w.waiting i := by
  simp only [waiting, setFate, getElem?_set]
  by_cases hi : hash = i
  · subst hi
    by_cases hlt : hash < w.txs.length
    · cases fate <;> simp_all
    · simp [hlt]
  · simp [hi, Ne.symm hi]

lemma lookup_accept (i : Nat) : (w.accept rows).txs[i]? =
      if i = w.txs.length then some { vouchers := rows } else w.txs[i]? := by
  simp only [accept]
  rcases Nat.lt_trichotomy i w.txs.length with hlt | rfl | hgt
  · rw [getElem?_append_left hlt, if_neg (Nat.ne_of_lt hlt)]
  · simp
  · rw [getElem?_eq_none (by simpa [Nat.succ_le_iff] using hgt), if_neg (Nat.ne_of_gt hgt),
      getElem?_eq_none (Nat.le_of_lt hgt)]

lemma waiting_accept (i : Nat) : (w.accept rows).waiting i =
      if i = w.txs.length then some { vouchers := rows } else w.waiting i := by
  simp only [waiting, lookup_accept]
  by_cases hi : i = w.txs.length <;> simp [hi]

lemma carried_of_waiting {i : Nat} (h : w.waiting i = some tx)
    (hv : v ∈ tx.vouchers) : w.carried v.1 = true := by
  unfold waiting at h
  split at h
  · next vouchers hi =>
    cases h
    refine any_eq_true.mpr ⟨_, mem_of_getElem? hi, ?_⟩
    exact any_eq_true.mpr ⟨v, hv, decide_eq_true rfl⟩
  · cases h

lemma key_mem_of_log {time : Nat} {valid : Key → Bool} {vault : Vault}
    {vs : List (Key × VoucherRow)} {log : Log} (h : log ∈ (vault.settleBatch time valid vs).2) :
    log.key ∈ vs.map Prod.fst := by
  induction vs generalizing vault with
  | nil => cases h
  | cons _ _ ih =>
    simp only [Vault.settleBatch] at h
    split at h <;> rcases mem_cons.mp h with rfl | h
    · exact mem_cons_self
    · exact mem_cons_of_mem _ (ih h)
    · exact mem_cons_self
    · exact mem_cons_of_mem _ (ih h)

/-! ### The effects of a flush -/

section Uses

variable {q : Effect → Prop}

lemma uses_fails (hestimate : ∀ rows, q (.estimateGas rows)) (rows : List (Key × VoucherRow)) :
    (fails rows).Uses q := by
  refine bind (uses_call.mpr (hestimate rows)) fun estimate => ?_
  cases estimate <;> trivial

lemma uses_failAlone (hnow : q .now) {r : Key × VoucherRow}
    (halone : ∀ why t, q (.update r.1 (failedAlone why t r))) (message : String) :
    (failAlone r message).Uses q :=
  bind (uses_call.mpr hnow) fun t => .one (halone _ t)

lemma uses_isolate (hnow : q .now) (hestimate : ∀ rows, q (.estimateGas rows)) (fuel : Nat)
    (ok part : List (Key × VoucherRow))
    (halone : ∀ r ∈ part, ∀ why t, q (.update r.1 (failedAlone why t r))) :
    (isolate fuel ok part).Uses q := by
  induction fuel generalizing ok part with
  | zero => trivial
  | succ _ ih =>
    unfold isolate
    refine ite trivial ((uses_fails hestimate part).bind fun failure => ?_)
    cases failure with
    | none => trivial
    | some message =>
      dsimp only
      split
      · exact (uses_failAlone hnow (halone _ mem_cons_self) message).bind fun _ => trivial
      · exact (ih ok _ fun r hr => halone r (mem_of_mem_take hr)).bind fun ok' =>
          ih ok' _ fun r hr => halone r (mem_of_mem_drop hr)

lemma uses_addUnsigned (hnow : q .now) (hestimate : ∀ rows, q (.estimateGas rows))
    (plain ok rest : List (Key × VoucherRow))
    (halone : ∀ r ∈ rest, ∀ why t, q (.update r.1 (failedAlone why t r))) :
    (addUnsigned plain ok rest).Uses q := by
  induction rest generalizing ok with
  | nil => trivial
  | cons r _ ih =>
    refine (uses_fails hestimate _).bind fun failure => ?_
    cases failure with
    | none => exact ih _ fun r' hr' => halone r' (.tail _ hr')
    | some message =>
      refine bind ?_ fun alone => ?_
      · exact ite trivial (uses_fails hestimate _)
      cases alone with
      | none => trivial
      | some message =>
        exact (uses_failAlone hnow (halone r mem_cons_self) message).bind fun _ =>
          ih ok fun r' hr' => halone r' (.tail _ hr')

lemma uses_chooseBatch (hnow : q .now) (hestimate : ∀ rows, q (.estimateGas rows))
    (queued : List (Key × VoucherRow))
    (halone : ∀ r ∈ queued, ∀ why t, q (.update r.1 (failedAlone why t r)))
    (hnoted : ∀ r ∈ queued, ∀ message, q (.update r.1 (noted message))) :
    (chooseBatch signedByPayer queued).Uses q := by
  refine catching ((uses_fails hestimate queued).bind fun failure => ?_) fun message =>
    bind (each fun r hr => .one (hnoted r hr _)) fun _ => trivial
  cases failure with
  | none => trivial
  | some =>
    refine (uses_isolate hnow hestimate _ _ _ fun r hr => ?_).bind fun plain =>
      uses_addUnsigned hnow hestimate plain plain _ fun r hr => ?_
    · exact halone r (mem_of_mem_filter hr)
    · exact halone r (mem_of_mem_filter hr)

end Uses

/-! ### What a batch consists of -/

/-- A list goes on with some of the elements of another one. -/
def Extends (ok rest rows : List (Key × VoucherRow)) : Prop :=
  ∃ more, more.Sublist rest ∧ rows = ok ++ more

lemma yields_isolate (fuel : Nat) (ok part : List (Key × VoucherRow)) :
    (isolate fuel ok part).Yields (Extends ok part) := by
  have hnone : Extends ok part ok := ⟨[], nil_sublist _, (append_nil ok).symm⟩
  induction fuel generalizing ok part with
  | zero => exact hnone
  | succ _ ih =>
    unfold isolate
    split
    · exact hnone
    · refine yields_true.bind fun failure _ => ?_
      cases failure with
      | none => exact ⟨part, List.Sublist.refl part, rfl⟩
      | some =>
        dsimp only
        split
        · exact yields_true.bind fun _ _ => hnone
        · refine (ih ok _ ⟨[], nil_sublist _, (append_nil ok).symm⟩).bind ?_
          rintro _ ⟨first, hfirst, rfl⟩
          refine mono (ih _ _ ⟨[], nil_sublist _, (append_nil _).symm⟩) ?_
          rintro _ ⟨second, hsecond, rfl⟩
          refine ⟨first ++ second, ?_, append_assoc _ _ _⟩
          have hparts := hfirst.append hsecond
          rwa [take_append_drop] at hparts

lemma yields_addUnsigned (plain ok rest : List (Key × VoucherRow)) :
    (addUnsigned plain ok rest).Yields (Extends ok rest) := by
  induction rest generalizing ok with
  | nil => exact ⟨[], nil_sublist _, (append_nil ok).symm⟩
  | cons r rest ih =>
    have hnone : Extends ok (r :: rest) ok := ⟨[], nil_sublist _, (append_nil ok).symm⟩
    refine yields_true.bind fun failure _ => ?_
    cases failure with
    | none =>
      refine mono (ih _) ?_
      rintro _ ⟨more, hmore, rfl⟩
      exact ⟨r :: more, hmore.cons_cons r, append_assoc ok [r] more⟩
    | some message =>
      refine yields_true.bind fun alone _ => ?_
      cases alone with
      | none => exact hnone
      | some =>
        refine yields_true.bind fun _ _ => mono (ih ok) ?_
        rintro _ ⟨more, hmore, rfl⟩
        exact ⟨more, hmore.cons r, rfl⟩

lemma yields_chooseBatch (queued : List (Key × VoucherRow)) :
    (chooseBatch signedByPayer queued).Yields (List.Subperm · queued) := by
  refine catching (yields_true.bind fun failure _ => ?_) fun message =>
    yields_true.bind fun _ _ => nil_subperm
  cases failure with
  | none => exact List.Subperm.refl queued
  | some =>
    refine (yields_isolate _ _ _).bind ?_
    rintro _ ⟨signed, hsigned, rfl⟩
    refine mono (yields_addUnsigned _ _ _) ?_
    rintro _ ⟨unsigned, hunsigned, rfl⟩
    have happend := (hsigned.append hunsigned).subperm
    exact happend.trans (filter_append_perm signedByPayer queued).subperm

lemma capped_eq (cap : Nat) (queued rest : List (Key × VoucherRow)) :
    ∃ more, more.Sublist rest ∧ capped cap queued rest = queued ++ more := by
  induction rest generalizing cap queued with
  | nil => exact ⟨[], List.Sublist.refl [], (append_nil queued).symm⟩
  | cons r _ ih =>
    simp only [capped]
    split
    · exact ⟨[], nil_sublist _, (append_nil queued).symm⟩
    · obtain ⟨more, hmore, heq⟩ := ih (min cap (r.2.batchCap.getD X402_BATCH_SIZE)) (queued ++ [r])
      exact ⟨r :: more, hmore.cons_cons r, by rw [heq, append_assoc]; rfl⟩

lemma nodup_queuedRows (limit : Nat) : ((w.queuedRows limit).map Prod.fst).Nodup :=
  w.vouchers.nodup_take_sorted ..

lemma mem_queuedRows {limit : Nat} (h : v ∈ w.queuedRows limit) :
    w.vouchers.get v.1 = some v.2 ∧ v.2.status = .queued := by
  have hrows := mem_of_mem_take h
  rw [mem_insertionSort] at hrows
  obtain ⟨hmem, hstatus⟩ := mem_filter.mp hrows
  exact ⟨Table.get_eq_some.mpr hmem, of_decide_eq_true hstatus⟩

/-! ### Moves of sample runs -/

def sampleStart : World where
  vault := { balance := fun payer => if payer = 1 then 100 else 0 }

lemma fresh_sampleStart : sampleStart.Fresh := ⟨rfl, rfl, rfl, rfl, rfl, ⟨rfl, rfl, rfl⟩, rfl⟩

def sampleVoucher : VoucherRow := { payee := 7, amount := 100, expiry := 1000 }

def goes (i : Nat) (answers : List Choice) : List (Move Nat Job Choice) := answers.map (.go i)

/-- A call of `settle` up to the answer of the vault about the balance. -/
def askBalance (i nonce : Nat) : List (Move Nat Job Choice) :=
  .start i (.settle (1, nonce) sampleVoucher) ::
    goes i [.verdict none, .answer, .statement 10, .statement 10, .answer]

/-- The rest of the call, in which the voucher is accepted. -/
def acceptVoucher (i : Nat) : List (Move Nat Job Choice) :=
  goes i [.answer, .statement 10, .number 0, .statement 10, .statement 10, .statement 10]

def sendOne : List (Move Nat Job Choice) :=
  .start 0 .flush :: goes 0 [.statement 20, .statement 20, .statement 20, .statement 20, .statement 20,
    .statement 20, .estimate (.gas 100_000), .estimate (.gas 100_000), .limit none, .answer,
    .answer, .statement 20, .statement 20]

def applyReceipt : List (Move Nat Job Choice) :=
  goes 0 [.answer, .statement 30, .statement 30, .statement 30]

end Ferminux.Gateway.X402
