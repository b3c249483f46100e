import Ferminux.Relayer.Journal
import Ferminux.Relayer.Sqlite

/-!
# Relayer.Interchange

Are the two backends **interchangeable**? Both are run on one sequence of mutations, at
the same clock values, and compared read by read (`Agree`).

They are not in general. On a row that exists, sqlite takes over only the columns its
`ON CONFLICT` clause names, while the journal replaces the whole record; what is lost
includes the account nonce of a submission. They do agree on every run in which a repeated
write keeps those columns (`Keeps`), up to the order `localeCompare` and sqlite put signers
in and the unit in which the two measure a prefix.
-/

namespace Ferminux.Relayer

open Lib List Journal Table

/-- The mutations of a run, each with the time at which it was called. -/
abbrev Calls := List (Nat × Mutation)

def sqliteRun (calls : Calls) : Sqlite := calls.foldl (fun s call => s.mutate call.1 call.2) {}

variable (E : Ethers)

/-- One call on the journal. A call that throws leaves the maps as they were. -/
def journalCall (j : Journal) (call : Nat × Mutation) : Journal :=
  match j.mutate E call.1 call.2 with
  | .ok j' => j'
  | .error _ => j

def journalRun (calls : Calls) : Journal := calls.foldl (journalCall E) {}

/-- Two answers of `listTransfers` that agree up to the order of rows first seen at the
same time: both are cut off behind row `n` from orderings of the same rows by that time. -/
def SameUpToTies (n : Nat) (a b : List StoredTransfer) : Prop :=
  ∃ p q : List StoredTransfer, p.Perm q ∧ p.Pairwise (fun x y => x.firstSeenAt ≤ y.firstSeenAt) ∧
    q.Pairwise (fun x y => x.firstSeenAt ≤ y.firstSeenAt) ∧ a = p.take n ∧ b = q.take n

/-- The signers of a transfer are in the same order for `localeCompare` and for sqlite. -/
def Collation.AgreesOn (C : Collation) (signers : List String) : Prop :=
  ∀ a ∈ signers, ∀ b ∈ signers, C.le a b = decide (a ≤ b)

/-- The prefix has as many UTF-16 code units as characters. -/
def TransferFilter.Plain (filter : TransferFilter) : Prop :=
  ∀ text, filter.reasonPrefix = some text → Sqlite.utf16Length text = text.toList.length

inductive Read where
  | getCursor (chainId : Nat)
  | getTransfer (transferId : String)
  | listTransfers (filter : TransferFilter)
  | getSignatures (transferId : String)
  | getSubmission (transferId : String)
  | listSubmissions (status : SubmissionStatus)
  | getWindow (key : String)
  | counts

def Agree (C : Collation) (S : Scans) (s : Sqlite) (j : Journal) : Read → Prop
  | .getCursor chainId => s.getCursor chainId = j.getCursor chainId
  | .getTransfer transferId => s.getTransfer transferId = j.getTransfer transferId
  | .listTransfers filter =>
    SameUpToTies filter.rowLimit (s.listTransfers S.transfers filter) (j.listTransfers filter)
  | .getSignatures transferId =>
    s.getSignatures S.signatures transferId = j.getSignatures C transferId
  | .getSubmission transferId => s.getSubmission transferId = j.getSubmission transferId
  | .listSubmissions status =>
    ∀ sub, sub ∈ s.listSubmissions S.submissions status ↔ sub ∈ j.listSubmissions status
  | .getWindow key => s.getWindow key = j.getWindow key
  | .counts => ∀ key, s.counts key = j.counts key

/-! ### Runs on which they agree -/

/-- A call that writes over a row keeps the columns sqlite does not take over, and a
transfer that is written is one that `parseTransfer` returns as it is. -/
def Keeps (s : Sqlite) : Mutation → Prop
  | .putTransfer t =>
    E.parseTransfer t.transfer = .ok t.transfer ∧
      ∀ old, s.getTransfer t.transferId = some old →
        old.transfer = t.transfer ∧ old.fee = t.fee ∧ old.firstSeenAt = t.firstSeenAt
  | .putSubmission sub =>
    ∀ old, s.getSubmission sub.transferId = some old →
      old.dstChainId = sub.dstChainId ∧ old.accountNonce = sub.accountNonce ∧
        old.createdAt = sub.createdAt
  | _ => True

def Steady (calls : Calls) : Prop :=
  ∀ before now m, before ++ [(now, m)] <+: calls → Keeps E (sqliteRun before) m

lemma steady_nil : Steady E [] := by
  intro before now m h
  simp at h

variable {E} {s : Sqlite}

lemma Steady.snoc {calls : Calls} (h : Steady E calls) {now : Nat} {m : Mutation}
    (hm : Keeps E (sqliteRun calls) m) : Steady E (calls ++ [(now, m)]) := by
  intro before now' m' hbefore
  rcases prefix_concat_iff.mp hbefore with heq | hprefix
  · obtain ⟨rfl, hcall⟩ := append_inj' heq rfl
    cases hcall
    exact hm
  · exact h before now' m' hprefix

/-- A read on which the hosts cannot differ: the signers of a transfer are in the same
order for both collations, and the prefix is measured alike. -/
def Read.Clear (C : Collation) (s : Sqlite) : Read → Prop
  | .listTransfers filter => filter.Plain
  | .getSignatures transferId =>
    C.AgreesOn ((s.signatures.values.filter (·.transferId == transferId)).map (·.signer))
  | _ => True

/-! ### The simulation -/

/-- Every row stands under the key its columns give. -/
structure Sqlite.Keyed (s : Sqlite) : Prop where
  transfers : s.transfers.Keyed StoredTransfer.transferId
  signatures : s.signatures.Keyed fun sig => (sig.transferId, sig.signer)
  submissions : s.submissions.Keyed StoredSubmission.transferId

lemma Sqlite.Keyed.mutate (h : s.Keyed) (now : Nat) (m : Mutation) : (s.mutate now m).Keyed := by
  cases m with
  | setCursor | putWindow => exact ⟨h.transfers, h.signatures, h.submissions⟩
  | putTransfer => exact ⟨h.transfers.upsert rfl fun _ hold => hold, h.signatures, h.submissions⟩
  | setTransferStatus =>
    exact ⟨h.transfers.modify fun _ => rfl, h.signatures, h.submissions⟩
  | markExecuted => exact ⟨h.transfers.modify fun _ => rfl, h.signatures, h.submissions⟩
  | putSignature =>
    exact ⟨h.transfers, h.signatures.upsert rfl fun _ hold => hold, h.submissions⟩
  | putSubmission =>
    exact ⟨h.transfers, h.signatures, h.submissions.upsert rfl fun _ hold => hold⟩

lemma keyed_sqliteRun (calls : Calls) : (sqliteRun calls).Keyed := by
  induction calls using reverseRecOn with
  | nil => exact ⟨nofun, nofun, nofun⟩
  | append_singleton _ call ih =>
    rw [sqliteRun, foldl_append]
    exact ih.mutate call.1 call.2

/-- The two stores hold the same rows. Only the signatures are kept in another shape, as
one map for each transfer. -/
structure Same (s : Sqlite) (j : Journal) : Prop where
  cursors : s.cursors = j.cursors
  transfers : s.transfers = j.transfers
  submissions : s.submissions = j.submissions
  windows : s.windows = j.windows
  signatures : ∀ transferId signer,
    s.signatures.get (transferId, signer) = (j.signatures.get transferId).bind (·.get signer)
  size : s.signatures.size = (j.signatures.values.map Table.size).sum

/-- Under `Keeps`, the conflict clause of sqlite writes the record the journal writes. -/
lemma mergeTransfer_of_keeps (hkeyed : s.Keyed) {t : StoredTransfer}
    (h : Keeps E s (.putTransfer t)) :
    Sqlite.mergeTransfer t (s.transfers.get t.transferId) = t := by
  cases hold : s.transfers.get t.transferId with
  | none => rfl
  | some old =>
    obtain ⟨htransfer, hfee, hfirst⟩ := h.2 old hold
    have hid := hkeyed.transfers _ old hold
    simp [Sqlite.mergeTransfer, htransfer, hfee, hfirst, hid]

lemma mergeSubmission_of_keeps (hkeyed : s.Keyed)
    {sub : StoredSubmission} (h : Keeps E s (.putSubmission sub)) :
    Sqlite.mergeSubmission sub (s.submissions.get sub.transferId) = sub := by
  cases hold : s.submissions.get sub.transferId with
  | none => rfl
  | some old =>
    obtain ⟨hchain, hnonce, hcreated⟩ := h old hold
    have hid := hkeyed.submissions _ old hold
    simp [Sqlite.mergeSubmission, hchain, hnonce, hcreated, hid]

lemma Same.putSignature {j : Journal} (h : Same s j) (E : Ethers)
    (sig : StoredSignature) (now : Nat) :
    ∃ j', j.mutate E now (.putSignature sig) = .ok j' ∧ Same (s.putSignature sig) j' := by
  have hget := h.signatures sig.transferId sig.signer
  rw [mutate, isStored, hasSignature, ← hget]
  cases hs : s.signatures.get (sig.transferId, sig.signer) with
  | some =>
    refine ⟨j, rfl, ?_⟩
    have hsame : s.putSignature sig = s := by
      unfold Sqlite.putSignature
      rw [upsert_eq_self hs rfl]
    rw [hsame]
    exact h
  | none =>
    rw [hs] at hget
    refine ⟨_, rfl, h.cursors, h.transfers, h.submissions, h.windows, ?_, ?_⟩
    · intro transferId signer
      simp only [Sqlite.putSignature, get_upsert, Prod.mk.injEq]
      by_cases hid : transferId = sig.transferId
      · subst hid
        simp only [true_and, if_true, Option.bind_some, get_addSignature, ← hget, hs]
        split
        · rfl
        · exact h.signatures _ signer
      · simp only [hid, false_and, if_false]
        exact h.signatures transferId signer
    · have hsum := Table.sum_upsert Table.size j.signatures sig.transferId
        (addSignature sig)
      rw [size_addSignature hget.symm] at hsum
      simp only [Sqlite.putSignature, size_upsert_of_new hs, h.size]
      omega

/-- **The step lemma.** A call that keeps the columns goes through in the journal, and the
stores stay the same. -/
theorem Same.mutate {j : Journal} (h : Same s j) (hkeyed : s.Keyed)
    {m : Mutation} (hm : Keeps E s m) (now : Nat) :
    ∃ j', j.mutate E now m = .ok j' ∧ Same (s.mutate now m) j' := by
  obtain ⟨hcursors, htransfers, hsubmissions, hwindows, hsignatures, hsize⟩ := id h
  cases m with
  | setCursor =>
    refine ⟨_, rfl, ?_, htransfers, hsubmissions, hwindows, hsignatures, hsize⟩
    simp [Sqlite.mutate, Sqlite.setCursor, hcursors]
  | putTransfer t =>
    have happly : j.mutate E now (.putTransfer t) =
        .ok { j with transfers := j.transfers.set t.transferId t } := by
      simp [Journal.mutate, Journal.isStored, Journal.recordOf, Journal.apply,
        deserializeTransfer, hm.1, bind, Except.bind, pure, Except.pure]
    refine ⟨_, happly, hcursors, ?_, hsubmissions, hwindows, hsignatures, hsize⟩
    have hmerge := mergeTransfer_of_keeps hkeyed hm
    simp only [Sqlite.mutate, Sqlite.putTransfer, ← htransfers]
    exact upsert_congr hmerge
  | setTransferStatus =>
    refine ⟨_, rfl, hcursors, ?_, hsubmissions, hwindows, hsignatures, hsize⟩
    simp [Sqlite.mutate, Sqlite.setTransferStatus, htransfers]
  | markExecuted =>
    refine ⟨_, rfl, hcursors, ?_, hsubmissions, hwindows, hsignatures, hsize⟩
    simp [Sqlite.mutate, Sqlite.markExecuted, htransfers]
  | putSignature sig => exact h.putSignature E sig now
  | putSubmission =>
    refine ⟨_, rfl, hcursors, htransfers, ?_, hwindows, hsignatures, hsize⟩
    have hmerge := mergeSubmission_of_keeps hkeyed hm
    simp only [Sqlite.mutate, Sqlite.putSubmission, ← hsubmissions]
    exact upsert_congr hmerge
  | putWindow =>
    refine ⟨_, rfl, hcursors, htransfers, hsubmissions, ?_, hsignatures, hsize⟩
    simp [Sqlite.mutate, Sqlite.putWindow, hwindows]

/-- Steady calls leave the same rows in both backends. -/
theorem same_of_steady {calls : Calls} (h : Steady E calls) :
    Same (sqliteRun calls) (journalRun E calls) := by
  induction calls using reverseRecOn with
  | nil => exact ⟨rfl, rfl, rfl, rfl, fun _ _ => rfl, rfl⟩
  | append_singleton calls call ih =>
    have hsame := ih fun before now m hbefore =>
      h before now m (hbefore.trans (prefix_append calls [call]))
    obtain ⟨j', hj', hsame'⟩ :=
      hsame.mutate (keyed_sqliteRun calls) (h calls call.1 call.2 prefix_rfl) call.1
    have hrun : journalRun E (calls ++ [call]) = j' := by
      rw [journalRun, foldl_append]
      simp only [foldl_cons, foldl_nil, journalCall]
      rw [journalRun] at hj'
      rw [hj']
    rw [hrun, sqliteRun, foldl_append]
    exact hsame'

/-! ### The reads -/

section Reads

variable {j : Journal} {α : Type} {filter : TransferFilter}

lemma Journal.narrow_eq_filter (asked : Option α) {p q : α → StoredTransfer → Bool}
    (h : ∀ a, asked = some a → ∀ t, p a t = q a t) (out : List StoredTransfer) :
    narrow asked p out = out.filter (Sqlite.condition asked q) := by
  cases asked with
  | none => exact (filter_eq_self.mpr fun _ _ => rfl).symm
  | some a => exact filter_congr fun t _ => h a rfl t

lemma startsWith_eq_hasPrefix {text : String}
    (h : Sqlite.utf16Length text = text.toList.length) (reason : Option String) :
    startsWith text reason = Sqlite.hasPrefix text reason := by
  cases reason with
  | none => rfl
  | some =>
    unfold startsWith Sqlite.hasPrefix
    rw [h, Bool.eq_iff_iff, isPrefixOf_iff_prefix, prefix_iff_eq_take, beq_iff_eq, eq_comm]

/-- The filters of the journal, one after the other, are the `WHERE` clause. -/
lemma Journal.listTransfers_eq (hplain : filter.Plain) :
    j.listTransfers filter = ((j.transfers.values.filter (Sqlite.selects filter)).mergeSort
        fun a b => decide (a.firstSeenAt ≤ b.firstSeenAt)).take filter.rowLimit := by
  have hprefix : ∀ text, filter.reasonPrefix = some text → ∀ t : StoredTransfer,
      startsWith text t.reason = Sqlite.hasPrefix text t.reason :=
    fun text htext t => startsWith_eq_hasPrefix (hplain text htext) t.reason
  simp only [listTransfers]
  rw [narrow_eq_filter filter.reasonPrefix hprefix,
    narrow_eq_filter filter.dstChainId fun _ _ _ => rfl,
    narrow_eq_filter filter.srcChainId fun _ _ _ => rfl,
    narrow_eq_filter filter.statuses fun _ _ _ => rfl, filter_filter,
    filter_filter, filter_filter]
  congr 2
  refine filter_congr fun t _ => ?_
  unfold Sqlite.selects
  ac_rfl

lemma pairwise_sortBy {β : Type} [LE β] [DecidableLE β]
    (htrans : ∀ a b c : β, a ≤ b → b ≤ c → a ≤ c) (htotal : ∀ a b : β, a ≤ b ∨ b ≤ a)
    (key : α → β) (rows : List α) :
    (rows.mergeSort fun a b => decide (key a ≤ key b)).Pairwise fun a b => key a ≤ key b := by
  have hsorted : (rows.mergeSort fun a b => decide (key a ≤ key b)).Pairwise
      fun a b => decide (key a ≤ key b) = true := by
    refine pairwise_mergeSort ?_ ?_ rows
    · intro a b c hab hbc
      exact decide_eq_true (htrans _ _ _ (of_decide_eq_true hab) (of_decide_eq_true hbc))
    · intro a b
      simpa using htotal (key a) (key b)
  exact hsorted.imp fun h => of_decide_eq_true h

lemma pairwise_firstSeen {rows : List StoredTransfer} :
    (rows.mergeSort fun a b => decide (a.firstSeenAt ≤ b.firstSeenAt)).Pairwise
      fun a b => a.firstSeenAt ≤ b.firstSeenAt :=
  pairwise_sortBy (fun _ _ _ => Nat.le_trans) Nat.le_total StoredTransfer.firstSeenAt rows

lemma pairwise_signer {rows : List StoredSignature} :
    (rows.mergeSort fun a b => decide (a.signer ≤ b.signer)).Pairwise
      fun a b => a.signer ≤ b.signer :=
  pairwise_sortBy (fun _ _ _ => le_trans) le_total StoredSignature.signer rows

lemma Same.listTransfers (h : Same s j) (scan : Scan StoredTransfer) (hplain : filter.Plain) :
    SameUpToTies filter.rowLimit (s.listTransfers scan filter) (j.listTransfers filter) := by
  refine ⟨_, _, ?_, pairwise_firstSeen, pairwise_firstSeen, rfl,
    listTransfers_eq hplain⟩
  -- both sort the same rows, which the engine may read in another order
  have hrows := (scan.perm s.transfers.values).filter (Sqlite.selects filter)
  rw [h.transfers] at hrows
  rw [h.transfers]
  exact (mergeSort_perm _ _).trans (hrows.trans (mergeSort_perm _ _).symm)

lemma Same.bucket (h : Same s j) (hkeyed : s.Keyed) (transferId : String) :
    (s.signatures.values.filter (·.transferId == transferId)).Perm
      ((j.signatures.get transferId).getD .empty).values := by
  have hget : ∀ signer, ((j.signatures.get transferId).getD .empty).get signer =
      s.signatures.get (transferId, signer) := by
    intro signer
    rw [h.signatures]
    cases j.signatures.get transferId <;> rfl
  have hbucket : ((j.signatures.get transferId).getD .empty).Keyed StoredSignature.signer := by
    intro signer sig hsig
    rw [hget] at hsig
    exact congrArg Prod.snd (hkeyed.signatures _ sig hsig)
  refine (perm_ext_iff_of_nodup (hkeyed.signatures.nodup_values.filter _)
    hbucket.nodup_values).mpr fun sig => ?_
  rw [mem_filter, hkeyed.signatures.mem_values, hbucket.mem_values, hget, beq_iff_eq]
  constructor
  · rintro ⟨hsig, rfl⟩
    exact hsig
  · intro hsig
    have hid : sig.transferId = transferId := congrArg Prod.fst (hkeyed.signatures _ sig hsig)
    exact ⟨hid ▸ hsig, hid⟩

lemma Same.getSignatures (h : Same s j) (hkeyed : s.Keyed) {C : Collation}
    (scan : Scan StoredSignature) {transferId : String}
    (hC : (Read.getSignatures transferId).Clear C s) :
    s.getSignatures scan transferId = j.getSignatures C transferId := by
  set rows := s.signatures.values.filter (·.transferId == transferId) with hrows
  have hbucket : rows.Perm ((j.signatures.get transferId).getD .empty).values :=
    h.bucket hkeyed transferId
  have hscan : ((scan.order s.signatures.values).filter (·.transferId == transferId)).Perm rows :=
    (scan.perm s.signatures.values).filter _
  -- on the signers of this transfer the host sorts as sqlite does
  have hsort : j.getSignatures C transferId =
      ((j.signatures.get transferId).getD .empty).values.mergeSort
        fun a b => decide (a.signer ≤ b.signer) := by
    have hle : ∀ a ∈ ((j.signatures.get transferId).getD .empty).values,
        ∀ b ∈ ((j.signatures.get transferId).getD .empty).values,
        C.le a.signer b.signer = decide (a.signer ≤ b.signer) := fun a ha b hb =>
      hC _ (mem_map_of_mem (hbucket.mem_iff.mpr ha)) _ (mem_map_of_mem (hbucket.mem_iff.mpr hb))
    unfold Journal.getSignatures
    simpa using map_mergeSort (f := id) hle
  -- a signer occurs once, so there is one way to sort the rows
  have hanti : ∀ a b, a ∈ rows → b ∈ rows → a.signer ≤ b.signer → b.signer ≤ a.signer → a = b := by
    intro a b ha hb hab hba
    rw [hrows, mem_filter, hkeyed.signatures.mem_values, beq_iff_eq] at ha hb
    have hkey : (a.transferId, a.signer) = (b.transferId, b.signer) := by
      rw [ha.2, hb.2, le_antisymm hab hba]
    have := ha.1.symm.trans (hkey ▸ hb.1)
    exact Option.some.inj this
  rw [hsort]
  refine List.Perm.eq_of_pairwise ?_ pairwise_signer pairwise_signer
    ((mergeSort_perm _ _).trans ((hscan.trans hbucket).trans (mergeSort_perm _ _).symm))
  intro a b ha hb hab hba
  refine hanti a b (hscan.mem_iff.mp (mem_mergeSort.mp ha)) ?_ hab hba
  exact hbucket.mem_iff.mpr (mem_mergeSort.mp hb)

lemma Same.listSubmissions (h : Same s j) (scan : Scan StoredSubmission)
    (status : SubmissionStatus) (sub : StoredSubmission) :
    sub ∈ s.listSubmissions scan status ↔ sub ∈ j.listSubmissions status := by
  unfold Sqlite.listSubmissions Journal.listSubmissions
  rw [mem_filter, mem_filter, (scan.perm _).mem_iff, h.submissions]

lemma Journal.foldl_tally (f : α → CountKey) (rows : List α)
    (out : CountKey → Option Nat) (k : CountKey) :
    rows.foldl (fun out row => tally out (f row)) out k =
      if (rows.filter fun row => decide (f row = k)).length = 0 then out k
      else some ((out k).getD 0 + (rows.filter fun row => decide (f row = k)).length) := by
  induction rows generalizing out with
  | nil => rfl
  | cons row rest ih =>
    rw [foldl_cons, ih]
    by_cases hk : f row = k
    · subst hk
      simp only [filter_cons, decide_true, if_true, length_cons, tally,
        Nat.add_one_ne_zero, if_false, Option.getD_some]
      split
      · next hzero => rw [hzero]
      · rw [Nat.add_right_comm, Nat.add_assoc]
    · have hk' : k ≠ f row := fun h => hk h.symm
      simp [hk, tally, hk']

lemma Same.counts (h : Same s j) (key : CountKey) : s.counts key = j.counts key := by
  unfold Sqlite.counts Journal.counts
  cases key with
  | transfers =>
    simp [foldl_tally, Sqlite.group, h.transfers]
  | submissions =>
    simp [foldl_tally, Sqlite.group, h.submissions]
  | signatures =>
    have hsum : ∀ (buckets : List (Table String StoredSignature)) (n : Nat),
        buckets.foldl (fun n bucket => n + bucket.size) n = n + (buckets.map Table.size).sum := by
      intro buckets
      induction buckets with
      | nil => intro n; rfl
      | cons _ _ ih =>
        intro n
        rw [foldl_cons, ih, map_cons, sum_cons, Nat.add_assoc]
    simp [hsum, h.size]

end Reads

/-- **Where the two stores are interchangeable.** If no call changes a column that sqlite
does not take over, every read is answered alike, whatever order sqlite reads its rows in. -/
theorem agree_of_steady {E : Ethers} {C : Collation} {S : Scans} {calls : Calls} {read : Read}
    (hcalls : Steady E calls) (hread : read.Clear C (sqliteRun calls)) :
    Agree C S (sqliteRun calls) (journalRun E calls) read := by
  have hsame := same_of_steady hcalls
  have hkeyed := keyed_sqliteRun calls
  cases read with
  | getCursor chainId => exact congrArg (·.get chainId) hsame.cursors
  | getTransfer transferId => exact congrArg (·.get transferId) hsame.transfers
  | listTransfers => exact hsame.listTransfers S.transfers hread
  | getSignatures => exact hsame.getSignatures hkeyed S.signatures hread
  | getSubmission transferId => exact congrArg (·.get transferId) hsame.submissions
  | listSubmissions status => exact hsame.listSubmissions S.submissions status
  | getWindow key => exact congrArg (·.get key) hsame.windows
  | counts => exact hsame.counts

/-! ### A run on which they agree, and one on which they do not -/

/-- A transfer as the watcher stores it when it sees the log, and as it stores it when a
reorganisation has moved the log to another block. -/
def seenTransfer : StoredTransfer where
  transferId := "0x01"
  transfer := ⟨3961, 56, 0, "0xT", "0xW", "0xA", "0xB", 5⟩
  fee := 1
  srcBlockNumber := 10
  srcBlockHash := "0xaa"
  srcTxHash := "0xt1"
  srcLogIndex := 0
  status := .seen
  reason := none
  firstSeenAt := 1000
  confirmedAt := none
  executedAt := none
  executedTxHash := none
  updatedAt := 1000

def movedTransfer : StoredTransfer :=
  { seenTransfer with srcBlockNumber := 11, srcBlockHash := "0xbb", updatedAt := 2000 }

def reanchored : Calls := [(1000, .putTransfer seenTransfer), (2000, .putTransfer movedTransfer)]

lemma steady_reanchored : Steady plainEthers reanchored := by
  have hseen : Keeps plainEthers (sqliteRun []) (.putTransfer seenTransfer) := by
    refine ⟨by decide, fun old hold => ?_⟩
    cases hold
  have hmoved : Keeps plainEthers (sqliteRun [(1000, .putTransfer seenTransfer)])
      (.putTransfer movedTransfer) := by
    refine ⟨by decide, fun old hold => ?_⟩
    cases hold
    exact ⟨rfl, rfl, rfl⟩
  exact ((steady_nil plainEthers).snoc hseen).snoc hmoved

/-- A transfer that is seen again in another block. -/
theorem agree_reanchored :
    Agree plainCollation plainScans (sqliteRun reanchored) (journalRun plainEthers reanchored)
      (.listTransfers { status := some [.seen] }) :=
  agree_of_steady steady_reanchored nofun

/-- What the submitter writes for a transfer whose first simulation fails and that it
submits a minute later: first a row without a nonce, then one with the nonce it signed. -/
def failedSimulation : StoredSubmission where
  transferId := "0x01"
  dstChainId := 56
  accountNonce := -1
  attempts := []
  status := .failed
  minedTxHash := none
  lastError := some "simulation: execution reverted"
  createdAt := 3000
  updatedAt := 3000

def resubmission : StoredSubmission :=
  { failedSimulation with
    accountNonce := 7
    attempts := [⟨"0xh1", ⟨56, 7, "0x01", 200000, 3, 1, []⟩, 3, 1, 200000, 63000, some []⟩]
    status := .pending
    lastError := none
    updatedAt := 63000 }

def resubmitted : Calls := [(3000, .putSubmission failedSimulation), (63000, .putSubmission resubmission)]

/-- **The two stores are not interchangeable**: sqlite still answers the nonce of the first
row, the journal that of the second. -/
theorem stores_disagree_on_nonce :
    ((sqliteRun resubmitted).getSubmission "0x01").map (·.accountNonce) = some (-1) ∧
      ((journalRun plainEthers resubmitted).getSubmission "0x01").map (·.accountNonce) = some 7 ∧
      ¬ Agree plainCollation plainScans (sqliteRun resubmitted) (journalRun plainEthers resubmitted)
        (.getSubmission "0x01") := by
  have hsqlite : ((sqliteRun resubmitted).getSubmission "0x01").map (·.accountNonce) = some (-1) := by
    decide
  have hjournal : ((journalRun plainEthers resubmitted).getSubmission "0x01").map (·.accountNonce) =
      some 7 := by
    decide
  refine ⟨hsqlite, hjournal, fun hagree => ?_⟩
  have hnonce := congrArg (Option.map StoredSubmission.accountNonce) hagree
  rw [hsqlite, hjournal] at hnonce
  cases hnonce

end Ferminux.Relayer
