import Ferminux.Relayer.Journal
import Ferminux.Relayer.Sqlite

/-!
# Relayer.Backend

**Either backend** behind the interface the roles of the relayer use. A role sees the four
tables both backends have alike, so what a mutation does to a table is said here once
(`submissions_mutate`, `transfers_mutate`, …), and the proofs about the roles never look at
the backend again. The one difference that they see is which columns of a row a repeated
`putTransfer` or `putSubmission` takes over (`mergeTransfer`, `mergeSubmission`).

A mutation of the store may throw. For the journal that includes a transfer that
`parseTransfer` refuses.
-/

namespace Ferminux.Relayer

open Lib List Lib.Table Journal Sqlite

structure Host where
  ethers : Ethers
  collation : Collation
  scans : Scans

/-- A host that reads the tables in the order they are stored in. -/
def plainHost (ethers : Ethers) : Host :=
  { ethers, collation := plainCollation, scans := plainScans }

/-- The store a role was started with. -/
inductive Store where
  | sqlite (s : Sqlite)
  | journal (j : Journal)
  deriving DecidableEq

variable {m : Mutation} {t : StoredTransfer}

namespace Store

/-! ### The tables -/

def cursors : Store → Table Nat Nat
  | .sqlite s => s.cursors
  | .journal j => j.cursors

def transfers : Store → Table String StoredTransfer
  | .sqlite s => s.transfers
  | .journal j => j.transfers

def submissions : Store → Table String StoredSubmission
  | .sqlite s => s.submissions
  | .journal j => j.submissions

def windows : Store → Table String StoredWindow
  | .sqlite s => s.windows
  | .journal j => j.windows

variable (st : Store)

def signature (transferId signer : String) : Option StoredSignature :=
  match st with
  | .sqlite s => s.signatures.get (transferId, signer)
  | .journal j => (j.signatures.get transferId).bind (·.get signer)

/-- What `putTransfer` leaves of the row that is there. -/
def mergeTransfer (t : StoredTransfer) : Option StoredTransfer → StoredTransfer :=
  match st with
  | .sqlite _ => Sqlite.mergeTransfer t
  | .journal _ => fun _ => t

/-- What `putSubmission` leaves of the row that is there. -/
def mergeSubmission (sub : StoredSubmission) :
    Option StoredSubmission → StoredSubmission :=
  match st with
  | .sqlite _ => Sqlite.mergeSubmission sub
  | .journal _ => fun _ => sub

/-! ### The interface -/

def mutate (H : Host) (st : Store) (now : Nat) (m : Mutation) : Except String Store :=
  match st with
  | .sqlite s => .ok (.sqlite (s.mutate now m))
  | .journal j => (j.mutate H.ethers now m).map .journal

def getCursor (chainId : Nat) : Option Nat := st.cursors.get chainId

def getTransfer (transferId : String) : Option StoredTransfer :=
  st.transfers.get transferId

def listTransfers (H : Host) (st : Store) (filter : TransferFilter) : List StoredTransfer :=
  match st with
  | .sqlite s => s.listTransfers H.scans.transfers filter
  | .journal j => j.listTransfers filter

def getSignatures (H : Host) (st : Store) (transferId : String) : List StoredSignature :=
  match st with
  | .sqlite s => s.getSignatures H.scans.signatures transferId
  | .journal j => j.getSignatures H.collation transferId

def getSubmission (transferId : String) : Option StoredSubmission :=
  st.submissions.get transferId

def listSubmissions (H : Host) (st : Store) (status : SubmissionStatus) :
    List StoredSubmission :=
  match st with
  | .sqlite s => s.listSubmissions H.scans.submissions status
  | .journal j => j.listSubmissions status

def getWindow (key : String) : Option StoredWindow := st.windows.get key

/-! ### Reads -/

variable {st} {sub : StoredSubmission}

lemma mem_listSubmissions {H : Host} {status : SubmissionStatus} :
    sub ∈ st.listSubmissions H status ↔
      (∃ transferId, st.getSubmission transferId = some sub) ∧ sub.status = status := by
  cases st with
  | sqlite =>
    simp only [listSubmissions, Sqlite.listSubmissions, mem_filter,
      (H.scans.submissions.perm _).mem_iff, mem_values, beq_iff_eq]
    rfl
  | journal =>
    simp only [listSubmissions, Journal.listSubmissions, mem_filter, mem_values, beq_iff_eq]
    rfl

lemma pairwise_listSubmissions {H : Host}
    (hkeyed : st.submissions.Keyed StoredSubmission.transferId) (status : SubmissionStatus) :
    (st.listSubmissions H status).Pairwise fun a b => a.transferId ≠ b.transferId := by
  have hkeys : st.submissions.values.Pairwise fun a b => a.transferId ≠ b.transferId :=
    pairwise_map.mp hkeyed.nodup_keys
  cases st with
  | sqlite =>
    exact ((H.scans.submissions.perm _).pairwise_iff (fun h => h.symm)).mpr hkeys |>.filter _
  | journal => exact hkeys.filter _

structure Listed (st : Store) (filter : TransferFilter) (t : StoredTransfer) : Prop where
  row : ∃ transferId, st.getTransfer transferId = some t
  status : ∀ statuses, filter.statuses = some statuses → t.status ∈ statuses
  source : ∀ chainId, filter.srcChainId = some chainId → t.transfer.srcChainId = chainId

lemma listed_of_mem {H : Host} {filter : TransferFilter}
    (h : t ∈ st.listTransfers H filter) : Listed st filter t := by
  cases st with
  | sqlite =>
    have hmem := (mergeSort_perm _ _).mem_iff.mp (mem_of_mem_take h)
    obtain ⟨hrow, hselects⟩ := mem_filter.mp hmem
    refine ⟨mem_values.mp ((H.scans.transfers.perm _).mem_iff.mp hrow), ?_, ?_⟩
    · intro statuses hstatuses
      simp only [selects, Bool.and_eq_true, hstatuses, condition] at hselects
      exact contains_iff_mem.mp hselects.1.1.1
    · intro chainId hchain
      simp only [selects, Bool.and_eq_true, hchain, condition] at hselects
      exact beq_iff_eq.mp hselects.1.1.2
  | journal =>
    have hnarrow : ∀ {α : Type} (asked : Option α) (p : α → StoredTransfer → Bool)
        (out : List StoredTransfer), t ∈ narrow asked p out →
          t ∈ out ∧ ∀ a, asked = some a → p a t = true := by
      intro α asked p out ht
      cases asked with
      | none => exact ⟨ht, nofun⟩
      | some =>
        obtain ⟨hout, hp⟩ := mem_filter.mp ht
        refine ⟨hout, fun a' ha' => ?_⟩
        cases ha'
        exact hp
    have hmem := (mergeSort_perm _ _).mem_iff.mp (mem_of_mem_take h)
    obtain ⟨hsource, hstatus⟩ := hnarrow _ _ _ (hnarrow _ _ _ (hnarrow _ _ _ hmem).1).1
    obtain ⟨hvalues, hstatuses⟩ := hnarrow _ _ _ hsource
    refine ⟨mem_values.mp hvalues, fun statuses hsome => ?_, fun chainId hsome => ?_⟩
    · exact contains_iff_mem.mp (hstatuses statuses hsome)
    · exact beq_iff_eq.mp (hstatus chainId hsome)

lemma pairwise_listTransfers {H : Host}
    (hkeyed : st.transfers.Keyed StoredTransfer.transferId) (filter : TransferFilter) :
    (st.listTransfers H filter).Pairwise fun a b => a.transferId ≠ b.transferId := by
  have hkeys : st.transfers.values.Pairwise fun a b => a.transferId ≠ b.transferId :=
    pairwise_map.mp hkeyed.nodup_keys
  have hsort : ∀ (l : List StoredTransfer) (le : StoredTransfer → StoredTransfer → Bool),
      l.Pairwise (fun a b => a.transferId ≠ b.transferId) →
        ((l.mergeSort le).take filter.rowLimit).Pairwise fun a b => a.transferId ≠ b.transferId := by
    intro l le hl
    refine List.Pairwise.sublist (take_sublist _ _) ?_
    exact ((mergeSort_perm l le).pairwise_iff fun h => h.symm).mpr hl
  cases st with
  | sqlite =>
    refine hsort _ _ (List.Pairwise.filter _ ?_)
    exact ((H.scans.transfers.perm _).pairwise_iff fun h => h.symm).mpr hkeys
  | journal =>
    have hnarrow : ∀ {α : Type} (asked : Option α) (p : α → StoredTransfer → Bool)
        (out : List StoredTransfer), out.Pairwise (fun a b => a.transferId ≠ b.transferId) →
          (narrow asked p out).Pairwise fun a b => a.transferId ≠ b.transferId := by
      intro α asked p out hout
      cases asked with
      | none => exact hout
      | some => exact hout.filter _
    exact hsort _ _ (hnarrow _ _ _ (hnarrow _ _ _ (hnarrow _ _ _ (hnarrow _ _ _ hkeys))))

/-! ### What a mutation does to the tables -/

variable {H : Host} {st' : Store} {now : Nat} {j j' : Journal}

lemma mutate_cases (h : st.mutate H now m = .ok st') :
    (∃ s, st = .sqlite s ∧ st' = .sqlite (s.mutate now m)) ∨
      ∃ j j', st = .journal j ∧ st' = .journal j' ∧ j.mutate H.ethers now m = .ok j' := by
  cases st with
  | sqlite s =>
    cases h
    exact .inl ⟨s, rfl, rfl⟩
  | journal j =>
    cases hj : j.mutate H.ethers now m with
    | error => simp [mutate, hj, Except.map] at h
    | ok j' =>
      simp only [mutate, hj, Except.map, Except.ok.injEq] at h
      exact .inr ⟨j, j', rfl, h.symm, hj⟩

lemma journal_mutate (h : j.mutate H.ethers now m = .ok j') :
    j.apply H.ethers (recordOf now m) = .ok j' := by
  unfold Journal.mutate at h
  split at h
  · next hstored =>
    cases h
    exact apply_of_isStored H.ethers hstored now
  · exact h

lemma journal_putTransfer (h : j.mutate H.ethers now (.putTransfer t) = .ok j') :
    ∃ x, H.ethers.checksummed t.transfer = .ok x ∧
      j' = { j with transfers := j.transfers.set t.transferId { t with transfer := x } } := by
  have happly := journal_mutate h
  simp only [recordOf, apply, deserializeTransfer, bind_eq_ok, pure_eq_ok] at happly
  obtain ⟨_, ⟨x, hx, rfl⟩, rfl⟩ := happly
  exact ⟨x, Ethers.checksummed_of_parseTransfer hx, rfl⟩

lemma submissions_putSubmission (h : st.mutate H now (.putSubmission sub) = .ok st') :
    st'.submissions = st.submissions.upsert sub.transferId (st.mergeSubmission sub) := by
  rcases mutate_cases h with ⟨s, rfl, rfl⟩ | ⟨j, j', rfl, rfl, hj⟩
  · rfl
  · cases journal_mutate hj
    rfl

/-- Submissions, cursors and windows have one mutation each that writes them. -/
lemma mutate_frame (h : st.mutate H now m = .ok st') :
    ((∃ sub, m = .putSubmission sub) ∨ st'.submissions = st.submissions) ∧
      ((∃ chainId block, m = .setCursor chainId block) ∨ st'.cursors = st.cursors) ∧
        ((∃ window, m = .putWindow window) ∨ st'.windows = st.windows) := by
  rcases mutate_cases h with ⟨s, rfl, rfl⟩ | ⟨j, j', rfl, rfl, hj⟩
  · cases m with
    | putSubmission sub => exact ⟨.inl ⟨sub, rfl⟩, .inr rfl, .inr rfl⟩
    | setCursor chainId block => exact ⟨.inr rfl, .inl ⟨chainId, block, rfl⟩, .inr rfl⟩
    | putWindow window => exact ⟨.inr rfl, .inr rfl, .inl ⟨window, rfl⟩⟩
    | _ => exact ⟨.inr rfl, .inr rfl, .inr rfl⟩
  · cases m with
    | putTransfer =>
      obtain ⟨x, -, rfl⟩ := journal_putTransfer hj
      exact ⟨.inr rfl, .inr rfl, .inr rfl⟩
    | _ =>
      cases journal_mutate hj
      simp [submissions, cursors, windows]

lemma submissions_mutate (hm : ∀ sub, m ≠ .putSubmission sub)
    (h : st.mutate H now m = .ok st') : st'.submissions = st.submissions :=
  (mutate_frame h).1.resolve_left fun ⟨sub, heq⟩ => hm sub heq

lemma transfers_putTransfer (h : st.mutate H now (.putTransfer t) = .ok st') :
    ∃ x, (x = t.transfer ∨ H.ethers.checksummed t.transfer = .ok x) ∧ st'.transfers =
        st.transfers.upsert t.transferId (st.mergeTransfer { t with transfer := x }) := by
  rcases mutate_cases h with ⟨s, rfl, rfl⟩ | ⟨j, j', rfl, rfl, hj⟩
  · exact ⟨t.transfer, .inl rfl, rfl⟩
  · obtain ⟨x, hx, rfl⟩ := journal_putTransfer hj
    exact ⟨x, .inr hx, rfl⟩

/-- What the mutations other than `putTransfer` make of the transfers. -/
def restamp (now : Nat) : Mutation → Table String StoredTransfer
  | .setTransferStatus transferId status reason =>
    st.transfers.modify transferId (·.withStatus status reason now)
  | .markExecuted transferId txHash => st.transfers.modify transferId (·.asExecuted txHash now)
  | _ => st.transfers

lemma transfers_mutate (hm : ∀ t, m ≠ .putTransfer t)
    (h : st.mutate H now m = .ok st') : st'.transfers = st.restamp now m := by
  rcases mutate_cases h with ⟨s, rfl, rfl⟩ | ⟨j, j', rfl, rfl, hj⟩
  · cases m with
    | putTransfer t => exact absurd rfl (hm t)
    | _ => rfl
  · cases m with
    | putTransfer t => exact absurd rfl (hm t)
    | _ =>
      cases journal_mutate hj
      rfl

lemma cursors_setCursor {chainId block : Nat}
    (h : st.mutate H now (.setCursor chainId block) = .ok st') :
    st'.cursors = st.cursors.set chainId block := by
  rcases mutate_cases h with ⟨s, rfl, rfl⟩ | ⟨j, j', rfl, rfl, hj⟩
  · rfl
  · cases journal_mutate hj
    rfl

lemma cursors_mutate (hm : ∀ chainId block, m ≠ .setCursor chainId block)
    (h : st.mutate H now m = .ok st') : st'.cursors = st.cursors :=
  (mutate_frame h).2.1.resolve_left fun ⟨chainId, block, heq⟩ => hm chainId block heq

lemma isSome_getTransfer_mutate (h : st.mutate H now m = .ok st')
    {transferId : String} (hrow : (st.getTransfer transferId).isSome) :
    (st'.getTransfer transferId).isSome := by
  have hmodify : ∀ (id : String) (f : StoredTransfer → StoredTransfer),
      ((st.transfers.modify id f).get transferId).isSome := by
    intro id f
    rw [get_modify]
    split
    · next heq =>
      subst heq
      rw [Option.isSome_map]
      exact hrow
    · exact hrow
  cases m with
  | putTransfer =>
    obtain ⟨x, -, htable⟩ := transfers_putTransfer h
    rw [getTransfer, htable, get_upsert]
    split
    · rfl
    · exact hrow
  | _ =>
    rw [getTransfer, transfers_mutate (by simp) h]
    first
      | exact hmodify _ _
      | exact hrow

lemma isSome_getTransfer_putTransfer
    (h : st.mutate H now (.putTransfer t) = .ok st') : (st'.getTransfer t.transferId).isSome := by
  obtain ⟨x, -, htable⟩ := transfers_putTransfer h
  rw [getTransfer, htable, get_upsert, if_pos rfl]
  rfl

end Store

end Ferminux.Relayer
