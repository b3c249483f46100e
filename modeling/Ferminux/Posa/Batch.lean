import Ferminux.Posa.Engine

/-!
# Posa.Batch

**Batch verification is one-by-one verification.** A batch of linked headers is
verified before any of it is stored: a header finds its ancestors in the slice of
headers before it. Verified alone, it finds them in the database.

The heart is a lockstep argument on the backward walk of `snapshot`
(`findSnapshot_stored`): as long as explicit parents are left, the last of them *is* the
header that a database holding them would return for this hash and number; once they
are used up, the walk is below all of them and both readers agree. What the caches
answer is the same on both sides because the walk asks them the same questions.

Around it, the four paths of `VerifyHeaders` all deliver the results of the two inner
engines, each overridden by the checkpoint verdict (`verifyHeaders_eq`).
-/

namespace Ferminux.Posa

open Lib Clique List Engine Nat

variable {header : Header} {headers : List Header}

/-- An ascending contiguous batch: each header builds on the one before it. -/
def Linked (K : Crypto) (headers : List Header) : Prop :=
  headers.IsChain fun a b => b.number = a.number + 1 ∧ b.parentHash = K.headerHash a

/-- The reader of a chain in whose database `stored` has been written as well. -/
def withStored (K : Crypto) (chain : ChainHeaderReader) (stored : List Header) :
    ChainHeaderReader :=
  { chain with
    getHeader := fun hash number =>
      (stored.find? fun h => K.headerHash h == hash && h.number == number).or
        (chain.getHeader hash number) }

/-! ### Stored headers are found -/

section Stored

variable {K : Crypto} {chain : ChainHeaderReader} {headers : List Header} {c : Clique.Engine}
  {number : Nat} {stored parents : List Header} {hash : Hash}

lemma Linked.pairwise (h : Linked K headers) : headers.Pairwise fun a b => a.number < b.number := by
  have hchain : headers.IsChain fun a b => a.number < b.number := by
    refine List.IsChain.imp ?_ h
    intro a b hab
    omega
  have : IsTrans Header fun a b => a.number < b.number := ⟨fun _ _ _ => lt_trans⟩
  exact hchain.pairwise

lemma getHeader_withStored_of_mem (h : headers.Pairwise fun a b => a.number < b.number)
    (hmem : header ∈ headers) :
    (withStored K chain headers).getHeader (K.headerHash header) header.number = some header := by
  obtain ⟨before, after, rfl⟩ := append_of_mem hmem
  have hfind : (before ++ header :: after).find? (fun x =>
      K.headerHash x == K.headerHash header && x.number == header.number) = some header := by
    rw [find?_eq_some_iff_append]
    refine ⟨by simp, before, after, rfl, ?_⟩
    intro x hx
    have hlt := (pairwise_append.mp h).2.2 x hx header mem_cons_self
    have hne : x.number ≠ header.number := by omega
    simp [hne]
  simp only [withStored, hfind, Option.some_or]

lemma getHeader_withStored_below (h : ∀ x ∈ headers, number < x.number) (hash : Hash) :
    (withStored K chain headers).getHeader hash number = chain.getHeader hash number := by
  have hfind : headers.find? (fun x => K.headerHash x == hash && x.number == number) = none := by
    rw [find?_eq_none]
    intro x hx
    have hne : x.number ≠ number := by
      have := h x hx
      omega
    simp [hne]
  simp only [withStored, hfind, Option.none_or]

/-! ### The backward walk in lockstep -/

/-- The walk stands at block `number` with hash `hash`, and `parents` are the stored
headers up to there; without parents it is below everything stored. -/
def Aligned (K : Crypto) (stored parents : List Header) (number : Nat) (hash : Hash) : Prop :=
  parents <+: stored ∧
    match parents.getLast? with
    | some last => last.number = number ∧ K.headerHash last = hash
    | none => ∀ x ∈ stored, number < x.number

lemma Aligned.step {last : Header} {n : Nat}
    (hlink : Linked K stored) (h : Aligned K stored parents (n + 1) hash)
    (hlast : parents.getLast? = some last) :
    Aligned K stored parents.dropLast n last.parentHash := by
  obtain ⟨hpre, hat⟩ := h
  rw [hlast] at hat
  refine ⟨( dropLast_prefix parents).trans hpre, ?_⟩
  have hparents : parents = parents.dropLast ++ [last] := by
    rw [dropLast_append_getLast? last hlast]
  cases hprev : parents.dropLast.getLast? with
  | none =>
    -- `last` is the first stored header
    rw [getLast?_eq_none_iff] at hprev
    rw [hprev, nil_append] at hparents
    rw [hparents] at hpre
    obtain ⟨rest, hrest⟩ := hpre
    intro x hx
    have hpair := hlink.pairwise
    rw [← hrest, singleton_append] at hpair hx
    rcases mem_cons.mp hx with rfl | hx
    · omega
    · have := (pairwise_cons.mp hpair).1 x hx
      omega
  | some prev =>
    have hdrop : parents.dropLast = parents.dropLast.dropLast ++ [prev] := by
      rw [dropLast_append_getLast? prev hprev]
    obtain ⟨rest, hrest⟩ := hpre
    rw [Linked, ← hrest, hparents, hdrop, append_assoc, append_assoc] at hlink
    have htail := (isChain_append.mp hlink).2.1
    rw [singleton_append, singleton_append, isChain_cons_cons] at htail
    exact ⟨by omega, htail.1.2.symm⟩

lemma gatherHeader_stored (chain : ChainHeaderReader) (hlink : Linked K stored)
    (h : Aligned K stored parents number hash) :
    gatherHeader K chain number hash parents =
        gatherHeader K (withStored K chain stored) number hash [] ∧
      ∀ n header, number = n + 1 → gatherHeader K chain number hash parents = .ok header →
        Aligned K stored parents.dropLast n header.parentHash := by
  have hat := h.2
  cases hlast : parents.getLast? with
  | some last =>
    rw [hlast] at hat
    obtain ⟨rfl, rfl⟩ := hat
    have hmem : last ∈ stored := h.1.subset (mem_of_getLast? hlast)
    have hgather : gatherHeader K chain last.number (K.headerHash last) parents = .ok last := by
      simp [gatherHeader, hlast]
    refine ⟨?_, ?_⟩
    · rw [hgather, gatherHeader, getLast?_nil]
      simp only [getHeader_withStored_of_mem hlink.pairwise hmem]
    · intro n header hn hok
      rw [hgather] at hok
      cases hok
      rw [hn] at h
      exact h.step hlink hlast
  | none =>
    rw [hlast] at hat
    refine ⟨?_, ?_⟩
    · simp only [gatherHeader, hlast, getLast?_nil, getHeader_withStored_below hat]
    · intro n header hn _
      rw [getLast?_eq_none_iff] at hlast
      rw [hlast]
      refine ⟨ nil_prefix, ?_⟩
      intro x hx
      have := hat x hx
      omega

/-- **Lockstep.** The walk over explicit parents is the walk over a database that holds
them. -/
theorem findSnapshot_stored {σ : Type} {D : SnapshotStore σ}
    {stored : List Header} (hlink : Linked K stored) (number : Nat) (hash : Hash)
    (parents gathered : List Header) (h : Aligned K stored parents number hash) :
    findSnapshot K D c chain number hash parents gathered =
      findSnapshot K D c (withStored K chain stored) number hash [] gathered := by
  induction number generalizing hash parents gathered with
  | zero =>
    unfold findSnapshot
    apply bind_congr
    intro found
    cases found with
    | some => rfl
    | none => rw [(gatherHeader_stored chain hlink h).1]
  | succ n ih =>
    unfold findSnapshot
    apply bind_congr
    intro found
    cases found with
    | some => rfl
    | none =>
      obtain ⟨hgather, hstep⟩ := gatherHeader_stored chain hlink h
      dsimp only
      cases hok : gatherHeader K chain (n + 1) hash parents with
      | error =>
        rw [← hgather, hok]
        rfl
      | ok header =>
        rw [← hgather, hok]
        exact ih header.parentHash parents.dropLast (header :: gathered) (hstep n header rfl hok)

lemma snapshot_stored {σ : Type} {D : SnapshotStore σ} (hlink : Linked K stored)
    (h : Aligned K stored stored number hash) : snapshot K D c chain number hash stored =
      snapshot K D c (withStored K chain stored) number hash [] := by
  unfold snapshot
  rw [findSnapshot_stored hlink number hash stored [] h]

/-- A header verified with the batch before it as parents is verified as if that batch
were stored. -/
lemma verifyHeader_stored {σ : Type} {D : SnapshotStore σ} {now : Nat}
    (hlink : Linked K (parents ++ [header])) :
    verifyHeader K D c chain now header parents =
      verifyHeader K D c (withStored K chain parents) now header [] := by
  cases hlast : parents.getLast? with
  | none =>
    rw [getLast?_eq_none_iff] at hlast
    rw [hlast]
    rfl
  | some last =>
    have hsplit : parents = parents.dropLast ++ [last] := by
      rw [dropLast_append_getLast? last hlast]
    have hlinks : header.number = last.number + 1 ∧ header.parentHash = K.headerHash last := by
      rw [Linked, hsplit, append_assoc] at hlink
      have htail := (isChain_append.mp hlink).2.1
      rw [singleton_append, isChain_cons_cons] at htail
      exact htail.1
    have hparents : Linked K parents := (isChain_append.mp hlink).1
    have hmem : last ∈ parents := mem_of_getLast? hlast
    have hparent : parentOf chain header parents =
        parentOf (withStored K chain parents) header [] := by
      rw [parentOf, hlast, parentOf, getLast?_nil, hlinks.1, hlinks.2, Nat.add_sub_cancel]
      exact (getHeader_withStored_of_mem hparents.pairwise hmem).symm
    have hsnap : snapshot K D c chain (header.number - 1) header.parentHash parents =
        snapshot K D c (withStored K chain parents) (header.number - 1) header.parentHash [] := by
      refine snapshot_stored hparents ⟨prefix_rfl, ?_⟩
      rw [hlast, hlinks.1, hlinks.2]
      exact ⟨rfl, rfl⟩
    unfold Clique.verifyHeader verifyCascadingFields
    rw [hparent, hsnap]
    rfl

end Stored

/-! ### The checkpoint verdict -/

section Checkpoint

variable {K : Crypto} {p : Engine}

lemma relayOne_returns_iff {result : Except Err Unit} : Returns (p.relayOne K header result) ↔
      Returns result ∧ Returns (p.verifyCheckpoint K header) := by
  unfold relayOne
  rw [returns_bind]
  constructor
  · intro h
    obtain ⟨u, hu, hcheck⟩ := h
    exact ⟨⟨u, hu⟩, hcheck⟩
  · intro h
    obtain ⟨⟨u, hu⟩, hcheck⟩ := h
    exact ⟨u, hu, hcheck⟩

lemma verifyCheckpoint_mismatch {fork : Nat} (hfork : p.forkBlock = some fork)
    (hpin : p.config.checkpointHash ≠ zeroHash)
    (h : (header.number + 1 = fork ∧ K.headerHash header ≠ p.config.checkpointHash) ∨
      (header.number = fork ∧ header.parentHash ≠ p.config.checkpointHash)) :
    ¬ Returns (p.verifyCheckpoint K header) := by
  have herr : p.verifyCheckpoint K header = .error .errCheckpointMismatch := by
    simp only [verifyCheckpoint, hfork, if_neg hpin]
    rcases h with ⟨hnum, hne⟩ | ⟨hnum, hne⟩
    · simp [hnum, hne, guardErr]
    · rw [if_neg (by omega), if_pos hnum]
      simp [hne, guardErr]
  rw [herr]
  exact not_returns_error

lemma verifyCheckpoint_of_no_filter (hlink : Linked K headers)
    (hfilter : p.needsCheckpointFilter headers = false)
    (hmem : header ∈ headers) : p.verifyCheckpoint K header = .ok () := by
  cases hfork : p.forkBlock with
  | none => simp only [verifyCheckpoint, hfork]
  | some fork =>
    simp only [verifyCheckpoint, hfork]
    by_cases hpin : p.config.checkpointHash = zeroHash
    · rw [if_pos hpin]
    · rw [if_neg hpin]
      have hpos := p.forkBlock_pos fork hfork
      have hpair := hlink.pairwise
      -- the first and the last number bound every number of the batch
      have hbounds : ∃ first last, headers.head? = some first ∧ headers.getLast? = some last ∧
          first.number ≤ header.number ∧ header.number ≤ last.number := by
        obtain ⟨before, after, rfl⟩ := append_of_mem hmem
        have happ := pairwise_append.mp hpair
        have hcons := pairwise_cons.mp happ.2.1
        refine ⟨before.head?.getD header, (header :: after).getLast (cons_ne_nil _ _), ?_, ?_,
          ?_, ?_⟩
        · cases before <;> rfl
        · rw [getLast?_append, getLast?_eq_some_getLast (cons_ne_nil header after)]
          rfl
        · cases before with
          | nil => exact le_rfl
          | cons first => exact le_of_lt (happ.2.2 first mem_cons_self header mem_cons_self)
        · rcases mem_cons.mp (getLast_mem (cons_ne_nil header after)) with heq | hin
          · rw [heq]
          · exact le_of_lt (hcons.1 _ hin)
      obtain ⟨first, last, hfirst, hlast, hle, hge⟩ := hbounds
      simp only [needsCheckpointFilter, hfork, hfirst, hlast, Bool.and_eq_false_iff,
        bne_eq_false_iff_eq, decide_eq_false_iff_not, hpin, false_or] at hfilter
      rw [if_neg (by omega), if_neg (by omega)]

end Checkpoint

/-! ### Batches -/

variable {σ : Type} {K : Crypto} {D : SnapshotStore σ} {p : Engine} {chain : ChainHeaderReader}
  {i : Nat}

/-- The assumption on the inner engine: it delivers one result per header, and the
`i`-th is nil exactly when the header is valid with the ones before it stored. -/
structure PowEngine.BatchAgrees (K : Crypto) (pow : PowEngine) : Prop where
  length : ∀ chain headers seals, (pow.verifyHeaders chain headers seals).length = headers.length
  single : ∀ (chain : ChainHeaderReader) (headers : List Header) (seals : List Bool) (i : Nat)
    (header : Header) (sealFlag : Bool), headers[i]? = some header → seals[i]? = some sealFlag →
      ∃ result, (pow.verifyHeaders chain headers seals)[i]? = some result ∧ (Returns result ↔
          Returns (pow.verifyHeader (withStored K chain (headers.take i)) header sealFlag))

/-- The results of the two inner engines, in order. -/
def innerResults (K : Crypto) (D : SnapshotStore σ) (p : Engine) (chain : ChainHeaderReader)
    (now : Nat → Nat) (headers : List Header) (seals : List Bool) (st : σ) :
    List (Except Err Unit) :=
  p.pow.verifyHeaders chain (headers.take (p.split headers)) (seals.take (p.split headers)) ++
    (Engine.verifyHeadersWithAncestors K D p.poa chain now (headers.take (p.split headers))
      (headers.drop (p.split headers)) st).1

/-- The caches of the authority engine when the `i`-th header of a batch has its turn. -/
def cachesBefore (K : Crypto) (D : SnapshotStore σ) (p : Engine) (chain : ChainHeaderReader)
    (now : Nat → Nat) (headers : List Header) (st : σ) (i : Nat) : σ :=
  (Engine.verifyHeadersWithAncestors K D p.poa chain now (headers.take (p.split headers))
    ((headers.drop (p.split headers)).take (i - p.split headers)) st).2

lemma verifyHeadersWithAncestors_cons (c : Clique.Engine) (now : Nat → Nat)
    (ancestors rest : List Header) (header : Header) (st : σ) :
    verifyHeadersWithAncestors K D c chain now ancestors (header :: rest) st =
      ((verifyHeader K D c chain (now ancestors.length) header ancestors st).1 ::
          (verifyHeadersWithAncestors K D c chain now (ancestors ++ [header]) rest
            (verifyHeader K D c chain (now ancestors.length) header ancestors st).2).1,
        (verifyHeadersWithAncestors K D c chain now (ancestors ++ [header]) rest
          (verifyHeader K D c chain (now ancestors.length) header ancestors st).2).2) := rfl

/-- The authority loop: every header is verified with all before it as parents, in the
caches that the ones before it left. -/
lemma verifyHeadersWithAncestors_getElem? (D : SnapshotStore σ) (c : Clique.Engine)
    (chain : ChainHeaderReader) (now : Nat → Nat) (headers ancestors : List Header) (st : σ) (i : Nat)
    (header : Header) (hi : headers[i]? = some header) :
    (verifyHeadersWithAncestors K D c chain now ancestors headers st).1[i]? =
      some (verifyHeader K D c chain (now (ancestors.length + i)) header
        (ancestors ++ headers.take i)
        (verifyHeadersWithAncestors K D c chain now ancestors (headers.take i) st).2).1 := by
  induction headers generalizing ancestors st i with
  | nil => cases hi
  | cons first _ ih =>
    cases i with
    | zero =>
      cases hi
      rw [verifyHeadersWithAncestors_cons, take_zero, append_nil]
      rfl
    | succ i =>
      have hrest := ih (ancestors ++ [first])
        (verifyHeader K D c chain (now ancestors.length) first ancestors st).2 i
        (by simpa using hi)
      rw [length_append, length_singleton, append_assoc, singleton_append,
        add_assoc, add_comm 1 i] at hrest
      rw [verifyHeadersWithAncestors_cons, take_succ_cons, verifyHeadersWithAncestors_cons,
        getElem?_cons_succ]
      exact hrest

/-- The four paths of `VerifyHeaders` are one: the inner results, each overridden by the
checkpoint verdict if the batch is filtered. A mixed batch always is. -/
lemma verifyHeaders_eq (D : SnapshotStore σ) (chain : ChainHeaderReader)
    (hpow : p.pow.BatchAgrees K) (now : Nat → Nat) (headers : List Header) (seals : List Bool)
    (hseals : seals.length = headers.length) (st : σ) :
    (p.verifyHeaders K D chain now headers seals st).1 = innerResults K D p chain now headers seals
        st ∧ p.needsCheckpointFilter headers = false ∨
      (p.verifyHeaders K D chain now headers seals st).1 =
        p.relay K headers (innerResults K D p chain now headers seals st) := by
  have hnone : ∀ chain seals, p.pow.verifyHeaders chain [] seals = [] := by
    intro chain seals
    exact eq_nil_of_length_eq_zero (hpow.length chain [] seals)
  unfold verifyHeaders innerResults
  by_cases hempty : headers.length = 0
  · rw [if_pos hempty]
    have hnil := eq_nil_of_length_eq_zero hempty
    subst hnil
    refine .inr ?_
    rw [hnone]
    rfl
  rw [if_neg hempty]
  by_cases hall : p.split headers = headers.length
  · -- proof of work only
    have hpoa : (verifyHeadersWithAncestors K D p.poa chain now
        (headers.take (p.split headers)) (headers.drop (p.split headers)) st).1 = [] := by
      rw [hall, drop_length]
      rfl
    rw [hpoa, append_nil, hall, take_length, ← hseals, take_length]
    dsimp only
    rw [if_pos rfl]
    cases hfilter : p.needsCheckpointFilter headers with
    | true => exact .inr rfl
    | false => exact .inl ⟨rfl, rfl⟩
  · dsimp only
    rw [if_neg hall]
    by_cases hzero : p.split headers = 0
    · -- proof of authority only
      rw [if_pos hzero, hzero, take_zero, take_zero, drop_zero, hnone, nil_append]
      cases hfilter : p.needsCheckpointFilter headers with
      | true => exact .inr rfl
      | false => exact .inl ⟨rfl, rfl⟩
    · rw [if_neg hzero]
      exact .inr rfl

/-- What `VerifyHeader` does after the checkpoint: ask the engine of the header's era. -/
def innerVerify (K : Crypto) (D : SnapshotStore σ) (p : Engine) (chain : ChainHeaderReader)
    (now : Nat) (header : Header) (sealFlag : Bool) : StoreM σ Unit :=
  if p.isPosaHeader header then Clique.verifyHeader K D p.poa chain now header []
  else p.pow.verifyHeader chain header sealFlag

lemma verifyHeader_returns_iff (now : Nat) (header : Header) (sealFlag : Bool) (st : σ) :
    Returns (p.verifyHeader K D chain now header sealFlag st).1 ↔
      Returns (innerVerify K D p chain now header sealFlag st).1 ∧
        Returns (p.verifyCheckpoint K header) := by
  have hbind : p.verifyHeader K D chain now header sealFlag st =
      match p.verifyCheckpoint K header with
      | .ok _ => innerVerify K D p chain now header sealFlag st
      | .error e => (.error e, st) := by
    unfold Engine.verifyHeader innerVerify
    cases p.verifyCheckpoint K header <;> rfl
  rw [hbind]
  cases p.verifyCheckpoint K header with
  | ok => simp
  | error => simp

lemma isPosaHeader_iff_split_le (hlink : Linked K headers)
    (hi : headers[i]? = some header) : p.isPosaHeader header = true ↔ p.split headers ≤ i := by
  obtain ⟨hlt, hget⟩ := List.getElem?_eq_some_iff.mp hi
  constructor
  · intro hposa
    by_contra hcon
    have := not_of_lt_findIdx (not_le.mp hcon)
    rw [hget, hposa] at this
    cases this
  · intro hle
    have hsplit : p.split headers < headers.length := lt_of_le_of_lt hle hlt
    have hfirst : p.isPosaHeader (headers.get ⟨p.split headers, hsplit⟩) = true := findIdx_getElem
    have hmono : (headers.get ⟨p.split headers, hsplit⟩).number ≤ header.number := by
      rcases eq_or_lt_of_le hle with heq | hlt'
      · rw [← hget]
        simp [heq]
      · rw [← hget]
        exact le_of_lt (pairwise_iff_getElem.mp hlink.pairwise _ _ hsplit hlt hlt')
    unfold isPosaHeader isPosa isForked at hfirst ⊢
    cases hfork : p.forkBlock with
    | none => rw [hfork] at hfirst; cases hfirst
    | some =>
      rw [hfork] at hfirst
      simp only [decide_eq_true_eq] at hfirst ⊢
      omega

/-- The `i`-th inner result is the inner verdict on the `i`-th header with the ones before
it stored. -/
lemma innerResults_getElem? (hpow : p.pow.BatchAgrees K) (now : Nat → Nat)
    (hlink : Linked K headers) {seals : List Bool} (st : σ) {sealFlag : Bool}
    (hi : headers[i]? = some header) (hs : seals[i]? = some sealFlag) :
    ∃ result, (innerResults K D p chain now headers seals st)[i]? = some result ∧
      (Returns result ↔ Returns (innerVerify K D p (withStored K chain (headers.take i)) (now i)
        header sealFlag (cachesBefore K D p chain now headers st i)).1) := by
  have hside := isPosaHeader_iff_split_le (p := p) hlink hi
  have hlen : (headers.take (p.split headers)).length = p.split headers :=
    length_take_of_le findIdx_le_length
  unfold innerResults
  by_cases hle : p.split headers ≤ i
  · have hposa := hside.mpr hle
    have hsum : p.split headers + (i - p.split headers) = i := by omega
    have htake : headers.take (p.split headers) ++
        (headers.drop (p.split headers)).take (i - p.split headers) = headers.take i := by
      rw [← take_add, hsum]
    have hlink' : Linked K (headers.take i ++ [header]) := by
      have hsucc : headers.take i ++ [header] = headers.take (i + 1) := by
        rw [take_add_one, hi]
        rfl
      rw [Linked, ← take_append_drop (i + 1) headers] at hlink
      rw [hsucc]
      exact (isChain_append.mp hlink).1
    have hget := verifyHeadersWithAncestors_getElem? (K := K) D p.poa chain now
      (headers.drop (p.split headers)) (headers.take (p.split headers)) st (i - p.split headers)
      header (by rw [getElem?_drop, hsum]; exact hi)
    rw [hlen, hsum, htake, verifyHeader_stored hlink'] at hget
    refine ⟨_, Eq.trans ?_ hget, ?_⟩
    · rw [getElem?_append_right (by rw [hpow.length, hlen]; exact hle), hpow.length, hlen]
    · rw [innerVerify, if_pos hposa, cachesBefore]
  · have hpow' : ¬ p.isPosaHeader header = true := by
      rw [hside]
      exact hle
    have hlt := not_le.mp hle
    obtain ⟨result, hres, hiff⟩ := hpow.single chain (headers.take (p.split headers))
      (seals.take (p.split headers)) i header sealFlag
      (by rw [getElem?_take_of_lt hlt]; exact hi)
      (by rw [getElem?_take_of_lt hlt]; exact hs)
    refine ⟨result, ?_, ?_⟩
    · rw [getElem?_append_left (by rw [hpow.length, hlen]; exact hlt)]
      exact hres
    · rw [take_take, min_eq_left (le_of_lt hlt)] at hiff
      rw [hiff, innerVerify, if_neg hpow']
      rfl

/-- **Batch verification equals one-by-one verification.** In every linked batch, wherever
it lies relative to the fork, the `i`-th result is nil exactly when `VerifyHeader` accepts
the `i`-th header with the ones before it stored (at the same clock and from the same
caches). In particular no header that contradicts the pinned checkpoint gets a nil
result. -/
theorem batch_agrees_with_single (hpow : p.pow.BatchAgrees K) (now : Nat → Nat)
    {headers : List Header} (hlink : Linked K headers) {seals : List Bool}
    (hseals : seals.length = headers.length) (st : σ) {i : Nat} {header : Header}
    {sealFlag : Bool} (hi : headers[i]? = some header) (hs : seals[i]? = some sealFlag) :
    ∃ result, (p.verifyHeaders K D chain now headers seals st).1[i]? = some result ∧
      (Returns result ↔ Returns (p.verifyHeader K D (withStored K chain (headers.take i)) (now i)
        header sealFlag (cachesBefore K D p chain now headers st i)).1) ∧
      ∀ fork, p.forkBlock = some fork → p.config.checkpointHash ≠ zeroHash →
        (header.number + 1 = fork ∧ K.headerHash header ≠ p.config.checkpointHash) ∨
          (header.number = fork ∧ header.parentHash ≠ p.config.checkpointHash) →
        ¬ Returns result := by
  obtain ⟨inner, hinner, hiff⟩ := innerResults_getElem? hpow now hlink st hi hs
  have hmain : ∃ result, (p.verifyHeaders K D chain now headers seals st).1[i]? = some result ∧
      (Returns result ↔ Returns inner ∧ Returns (p.verifyCheckpoint K header)) := by
    rcases verifyHeaders_eq D chain hpow now headers seals hseals st with
      ⟨heq, hfilter⟩ | heq
    · refine ⟨inner, by rw [heq]; exact hinner, ?_⟩
      rw [verifyCheckpoint_of_no_filter hlink hfilter (mem_of_getElem? hi)]
      simp
    · refine ⟨p.relayOne K header inner, ?_, relayOne_returns_iff⟩
      rw [heq, relay, getElem?_zipWith, hi, hinner]
  obtain ⟨result, hres, hres_iff⟩ := hmain
  refine ⟨result, hres, ?_, ?_⟩
  · rw [hres_iff, verifyHeader_returns_iff, hiff]
  · intro fork hfork hpin hbad hret
    exact verifyCheckpoint_mismatch hfork hpin hbad (hres_iff.mp hret).2

/-- Some of the rules of proof of work. A batch is verified with the headers before each one
stored. -/
def powRules (K : Crypto) : PowEngine :=
  let verifyHeader := fun (chain : ChainHeaderReader) (header : Header) =>
    match chain.getHeader header.parentHash (header.number - 1) with
    | none => .error .errUnknownAncestor
    | some parent => do
      guardErr (decide (32 < header.extra.length)) .errExtraSigners
      guardErr (decide (header.time ≤ parent.time)) .errInvalidTimestamp
      guardErr (decide (header.difficulty < 131072)) .errInvalidDifficulty
  { verifyHeader := fun chain header _ => verifyHeader chain header
    verifyHeaders := fun chain headers _ =>
      headers.mapIdx fun i header => verifyHeader (withStored K chain (headers.take i)) header
    prepare := fun _ header => .ok header }

lemma powRules_batchAgrees (K : Crypto) : (powRules K).BatchAgrees K where
  length _ _ _ := length_mapIdx
  single := by
    intro chain headers seals i header sealFlag hi _
    refine ⟨_, ?_, Iff.rfl⟩
    simp only [powRules, getElem?_mapIdx, hi, Option.map_some]

/-- A fork at block 2, with the signer `1` from there on. -/
def forkedEngine (checkpointHash : Hash) : Engine :=
  { sampleEngine checkpointHash 1 with
    pow := powRules Crypto.transparent
    poa := { soleEngine with bootstrap := some { soleBootstrap with anchor := 1 } } }

/-- Block 1 is proof of work, the blocks 2 and 3 are sealed by the signer `1`. -/
def straddling : List Header :=
  let child := fun (parent header : Header) =>
    { header with parentHash := Crypto.transparent.headerHash parent }
  let pow := child (sampleHeader 0 0 zeroAddress nonceDropVote [] zeroAddress)
    { sampleHeader 1 131072 zeroAddress nonceDropVote [] zeroAddress with extra := [] }
  let fork := child pow (sampleHeader 2 2 zeroAddress nonceDropVote [] (addressOf 1))
  [pow, fork, child fork (sampleHeader 3 2 zeroAddress nonceDropVote [] (addressOf 1))]

/-- In a batch across the fork the third header passes, as it does alone; and with another pinned
hash the first one is refused, though it passes the rules of proof of work. -/
theorem batch_agrees_with_single_straddling :
    let verify := fun checkpointHash => ((forkedEngine checkpointHash).verifyHeaders
      Crypto.transparent noStore genesisChain (fun _ => 12) straddling [true, true, true] ()).1
    let pinned := (straddling.head?.map Crypto.transparent.headerHash).getD zeroHash
    (∃ result, (verify pinned)[2]? = some result ∧ Returns result) ∧
      ∃ result, (verify ⟨List.replicate 32 1, by decide⟩)[0]? = some result ∧
        ¬ Returns result := by
  intro verify pinned
  have hlink : Linked Crypto.transparent straddling := by
    unfold Linked
    decide +kernel
  constructor
  · obtain ⟨result, hres, hiff, -⟩ := batch_agrees_with_single (p := forkedEngine pinned)
      (D := noStore) (i := 2) (powRules_batchAgrees Crypto.transparent) (fun _ => 12) hlink
      (show [true, true, true].length = 3 from rfl) () rfl rfl
    refine ⟨result, hres, hiff.mpr ⟨(), ?_⟩⟩
    decide +kernel
  · obtain ⟨result, hres, -, hbad⟩ := batch_agrees_with_single
      (p := forkedEngine ⟨List.replicate 32 1, by decide⟩) (D := noStore) (i := 0)
      (powRules_batchAgrees Crypto.transparent) (fun _ => 12) hlink
      (show [true, true, true].length = 3 from rfl) () rfl rfl
    exact ⟨result, hres, hbad 2 rfl (by decide) (.inl ⟨rfl, by decide +kernel⟩)⟩

end Ferminux.Posa
