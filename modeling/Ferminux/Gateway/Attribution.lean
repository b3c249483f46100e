import Mathlib.Data.List.Sort
import Mathlib.Data.List.TakeWhile

/-!
# Gateway.Attribution

Quotes and deposits of the pay-in (`v3/payin.ts`): **whom a deposit is credited to**. The requests
that the route refuses change nothing and are left out. Anybody may request a quote in anybody's
name. The newer quote supersedes the older one and may get its exact amount, but a superseded quote
still takes deposits, oldest first. Times are in seconds; in which order the database yields the
quotes of one second is a parameter (`Scan`).
-/

namespace Ferminux.Gateway.Attribution

inductive Status where
  | quoted | superseded | seen | expired
  deriving DecidableEq

-- an address is its checksummed form, so the comparison in lower case is equality
variable {Chain Asset Addr Tx : Type} [DecidableEq Chain] [DecidableEq Asset] [DecidableEq Addr]

/-- A row of `payins`, as far as the attribution reads it. -/
structure Quote (Chain Asset Addr : Type) where
  quoteId : Nat
  chain : Chain
  asset : Asset
  amountUnits : Nat
  target : Addr
  payer : Option Addr
  status : Status
  createdAt : Nat
  expiresAt : Nat
  deriving DecidableEq

/-- An order in which the database yields rows. -/
structure Scan (α : Type) where
  rows : List α → List α
  perm : ∀ l, (rows l).Perm l

/-- The order in which the rows were inserted. -/
def insertionOrder {α : Type} : Scan α := ⟨id, fun _ => .refl _⟩

/-- The tables: `payins` and, of `payin_transfers`, the key and the quote. -/
structure Payins (Chain Asset Addr Tx : Type) where
  quotes : List (Quote Chain Asset Addr) := []
  transfers : List (Chain × Tx × Option Nat) := []

def PAYIN_QUOTE_TTL_S : Nat := 900

/-- Ten minutes after its end a quote still counts. -/
def Quote.unexpired (q : Quote Chain Asset Addr) (t : Nat) : Prop := t ≤ q.expiresAt + 600
  deriving Decidable

/-! ### Quotes -/

/-- The greatest amount from `n` down that is not taken, or 0. -/
def stepDown (taken : List Nat) : Nat → Nat
  | 0 => 0
  | n + 1 => if n + 1 ∈ taken then stepDown taken n else n + 1

/-- From `up` on; one of `taken.length + 1` amounts is free. -/
def stepUp (taken : List Nat) : Nat → Nat → Nat
  | 0, up => up
  | fuel + 1, up => if up ∈ taken then stepUp taken fuel (up + 1) else up

def pickUniqueUnits (wanted : Nat) (taken : List Nat) : Nat :=
  if wanted ∉ taken then wanted
  else
    let down := stepDown taken (wanted - 1)
    if 0 < down then down else stepUp taken (taken.length + 1) (wanted + 1)

variable (s : Payins Chain Asset Addr Tx) (t : Nat) (scan : Scan (Quote Chain Asset Addr))

/-- Units an open quote already claims. -/
def openUnits (chain : Chain) (asset : Asset) : List Nat :=
  (s.quotes.filter fun q =>
    q.chain = chain ∧ q.asset = asset ∧ q.status = .quoted ∧ q.unexpired t).map (·.amountUnits)

/-- The older open quotes of the same payer are superseded. -/
def supersede (chain : Chain) (asset : Asset) (payer : Option Addr) : Payins Chain Asset Addr Tx :=
  { s with quotes := s.quotes.map fun q =>
      if payer.isSome ∧ q.chain = chain ∧ q.asset = asset ∧ q.status = .quoted ∧ q.unexpired t ∧
        q.payer = payer then { q with status := .superseded } else q }

/-- `POST /api/payin/quote`, once the request has passed its checks. -/
def quote (chain : Chain) (asset : Asset) (wanted : Nat) (target : Addr) (payer : Option Addr) :
    Payins Chain Asset Addr Tx :=
  let s := supersede s t chain asset payer
  let amountUnits := pickUniqueUnits wanted (openUnits s t chain asset)
  { s with quotes := s.quotes ++ [{ quoteId := s.quotes.length, chain, asset, amountUnits, target
                                    payer, status := .quoted, createdAt := t
                                    expiresAt := t + PAYIN_QUOTE_TTL_S }] }

/-- What a tick of the watcher does to stale quotes. -/
def expire : Payins Chain Asset Addr Tx :=
  { s with quotes := s.quotes.map fun q =>
      if q.status = .quoted ∧ ¬ q.unexpired t then { q with status := .expired } else q }

/-! ### Deposits -/

/-- The quotes of exactly that amount that still take a deposit, oldest first. -/
def candidates (chain : Chain) (asset : Asset) (units : Nat) : List (Quote Chain Asset Addr) :=
  (scan.rows (s.quotes.filter fun q => q.chain = chain ∧ q.asset = asset ∧
    (q.status = .quoted ∨ q.status = .superseded) ∧ q.amountUnits = units ∧
      q.unexpired t)).insertionSort fun q q' => q.createdAt ≤ q'.createdAt

/-- A quote that declares a payer takes only the payer's deposits. -/
def matching (chain : Chain) (asset : Asset) (units : Nat) (fromAddr : Addr) :
    Option (Quote Chain Asset Addr) :=
  let qs := candidates s t scan chain asset units
  (qs.find? fun q => q.payer = some fromAddr) <|> qs.find? fun q => q.payer.isNone

/-- `attribute`: a deposit is recorded once, under the quote it matches. -/
def attributeDeposit [DecidableEq Tx] (chain : Chain) (asset : Asset) (units : Nat)
    (fromAddr : Addr) (tx : Tx) : Payins Chain Asset Addr Tx :=
  if ∃ r ∈ s.transfers, r.1 = chain ∧ r.2.1 = tx then s
  else
    let found := (matching s t scan chain asset units fromAddr).map (·.quoteId)
    { quotes := s.quotes.map fun q =>
        if found = some q.quoteId then
          { q with status := .seen, payer := q.payer <|> some fromAddr }
        else q
      transfers := s.transfers ++ [(chain, tx, found)] }

/-- The states that requests, deposits and ticks lead to. -/
inductive Reached [DecidableEq Tx] : Payins Chain Asset Addr Tx → Prop
  | start : Reached {}
  | quote {s : Payins Chain Asset Addr Tx} (hs : Reached s) (t : Nat) (chain : Chain)
      (asset : Asset) (wanted : Nat) (target : Addr) (payer : Option Addr) :
      Reached (quote s t chain asset wanted target payer)
  | attributeDeposit {s : Payins Chain Asset Addr Tx} (hs : Reached s) (t : Nat)
      (scan : Scan (Quote Chain Asset Addr)) (chain : Chain) (asset : Asset) (units : Nat)
      (fromAddr : Addr) (tx : Tx) :
      Reached (attributeDeposit s t scan chain asset units fromAddr tx)
  | expire {s : Payins Chain Asset Addr Tx} (hs : Reached s) (t : Nat) : Reached (expire s t)

variable {s t scan} {payer : Addr} {Q : Quote Chain Asset Addr} {tx : Tx}

/-- The quote still takes a deposit. -/
def Quote.Takes (q : Quote Chain Asset Addr) (t : Nat) : Prop :=
  (q.status = .quoted ∨ q.status = .superseded) ∧ q.unexpired t
  deriving Decidable

/-- The quotes declare one payer and ask for one amount of one asset. -/
def Quote.Alike (q Q : Quote Chain Asset Addr) : Prop :=
  q.payer = Q.payer ∧ q.chain = Q.chain ∧ q.asset = Q.asset ∧ q.amountUnits = Q.amountUnits

instance (q Q : Quote Chain Asset Addr) : Decidable (q.Alike Q) :=
  inferInstanceAs (Decidable (_ ∧ _))

/-- The deposit is recorded under the quote, which has been seen. -/
def Payins.Credited (s : Payins Chain Asset Addr Tx) (Q : Quote Chain Asset Addr) (tx : Tx) :
    Prop :=
  (Q.chain, tx, some Q.quoteId) ∈ s.transfers ∧
    ∀ q ∈ s.quotes, q.quoteId = Q.quoteId → q.status = .seen

omit [DecidableEq Chain] [DecidableEq Asset] [DecidableEq Addr] in
/-- An update of some of the rows keeps the ids. -/
lemma quoteIds_update {p : Quote Chain Asset Addr → Prop} [DecidablePred p]
    {f : Quote Chain Asset Addr → Quote Chain Asset Addr} (hf : ∀ q, (f q).quoteId = q.quoteId)
    (l : List (Quote Chain Asset Addr)) :
    (l.map fun q => if p q then f q else q).map (·.quoteId) = l.map (·.quoteId) := by
  rw [List.map_map]
  refine List.map_congr_left fun q _ => ?_
  dsimp only [Function.comp]
  split
  · exact hf q
  · rfl

/-- Quotes are numbered as they are made. -/
lemma Reached.quoteIds [DecidableEq Tx] (hs : Reached s) :
    s.quotes.map (·.quoteId) = List.range s.quotes.length := by
  induction hs with
  | start => rfl
  | @quote s _ t chain asset wanted target payer ih =>
    have hold : (supersede s t chain asset payer).quotes.map (·.quoteId) =
        s.quotes.map (·.quoteId) := by
      refine quoteIds_update ?_ _
      exact fun _ => rfl
    have hlength : (supersede s t chain asset payer).quotes.length = s.quotes.length :=
      List.length_map _
    simp [Attribution.quote, hold, hlength, ih, List.range_succ]
  | attributeDeposit hs t scan chain asset units fromAddr tx ih =>
    unfold Attribution.attributeDeposit
    split
    · exact ih
    · rw [List.length_map, ← ih]
      refine quoteIds_update ?_ _
      exact fun _ => rfl
  | expire hs t ih =>
    rw [Attribution.expire, List.length_map, ← ih]
    refine quoteIds_update ?_ _
    exact fun _ => rfl

lemma Reached.eq_of_quoteId [DecidableEq Tx] (hs : Reached s) {q q' : Quote Chain Asset Addr}
    (hq : q ∈ s.quotes) (hq' : q' ∈ s.quotes) (h : q.quoteId = q'.quoteId) : q = q' :=
  List.inj_on_of_nodup_map (hs.quoteIds ▸ List.nodup_range) hq hq' h

omit [DecidableEq Addr] in
lemma mem_candidates {chain : Chain} {asset : Asset} {units : Nat} {q : Quote Chain Asset Addr} :
    q ∈ candidates s t scan chain asset units ↔
      q ∈ s.quotes ∧ q.chain = chain ∧ q.asset = asset ∧ q.amountUnits = units ∧ q.Takes t := by
  simp only [candidates, List.mem_insertionSort, (scan.perm _).mem_iff, List.mem_filter,
    decide_eq_true_eq, Quote.Takes]
  tauto

/-- A deposit of the payer goes to the first candidate that declares the payer. -/
lemma exists_matching (scan : Scan (Quote Chain Asset Addr)) (hmem : Q ∈ s.quotes)
    (hpayer : Q.payer = some payer) (htakes : Q.Takes t) :
    ∃ q, (candidates s t scan Q.chain Q.asset Q.amountUnits).find? (·.payer = some payer) = some q ∧
      matching s t scan Q.chain Q.asset Q.amountUnits payer = some q ∧
      q ∈ s.quotes ∧ q.Alike Q ∧ q.Takes t := by
  obtain ⟨q, hq⟩ : ∃ q, (candidates s t scan Q.chain Q.asset Q.amountUnits).find?
      (·.payer = some payer) = some q := by
    rw [← Option.isSome_iff_exists, List.find?_isSome]
    exact ⟨Q, mem_candidates.mpr ⟨hmem, rfl, rfl, rfl, htakes⟩, by simpa using hpayer⟩
  obtain ⟨hqs, hchain, hasset, hunits, hqtakes⟩ := mem_candidates.mp (List.mem_of_find?_eq_some hq)
  have hqpayer : q.payer = some payer := by simpa using List.find?_some hq
  refine ⟨q, hq, ?_, hqs, ⟨hqpayer.trans hpayer.symm, hchain, hasset, hunits⟩, hqtakes⟩
  rw [matching, hq]
  rfl

lemma credited_of_matching [DecidableEq Tx] {q : Quote Chain Asset Addr}
    (hnew : ∀ r ∈ s.transfers, ¬ (r.1 = Q.chain ∧ r.2.1 = tx)) (hchain : q.chain = Q.chain)
    (h : matching s t scan Q.chain Q.asset Q.amountUnits payer = some q) :
    (attributeDeposit s t scan Q.chain Q.asset Q.amountUnits payer tx).Credited q tx ∧
      ∀ id, (Q.chain, tx, some id) ∈
        (attributeDeposit s t scan Q.chain Q.asset Q.amountUnits payer tx).transfers →
          id = q.quoteId := by
  have hnone : ¬ ∃ r ∈ s.transfers, r.1 = Q.chain ∧ r.2.1 = tx := fun ⟨r, hr, h⟩ => hnew r hr h
  simp only [Payins.Credited, attributeDeposit, if_neg hnone, h, Option.map_some]
  refine ⟨⟨by simp [hchain], fun q' hq' hid => ?_⟩, fun id hid => ?_⟩
  · obtain ⟨q₀, _, rfl⟩ := List.mem_map.mp hq'
    by_cases hfirst : some q.quoteId = some q₀.quoteId
    · rw [if_pos hfirst]
    · rw [if_neg hfirst] at hid
      exact absurd (congrArg some hid.symm) hfirst
  · rcases List.mem_append.mp hid with hold | hlast
    · exact absurd ⟨rfl, rfl⟩ (hnew _ hold)
    · simpa using hlast

/-- The order that yields one of the rows first. -/
def Scan.first {α : Type} [DecidableEq α] (a : α) : Scan α where
  rows l := if a ∈ l then a :: l.erase a else l
  perm l := by
    split
    · next h => exact (List.perm_cons_erase h).symm
    · exact .refl _

/-- A quote that is not newer, yielded first, is not found after the other one. -/
lemma find?_candidates_first {q : Quote Chain Asset Addr} (hmem : q ∈ s.quotes)
    (hpayer : q.payer = some payer) (hchain : q.chain = Q.chain) (hasset : q.asset = Q.asset)
    (hunits : q.amountUnits = Q.amountUnits) (htakes : q.Takes t) (hne : q ≠ Q)
    (holder : q.createdAt ≤ Q.createdAt) :
    (candidates s t (.first q) Q.chain Q.asset Q.amountUnits).find? (·.payer = some payer) ≠
      some Q := by
  intro hfind
  have hrow : q ∈ s.quotes.filter fun q => q.chain = Q.chain ∧ q.asset = Q.asset ∧
      (q.status = .quoted ∨ q.status = .superseded) ∧ q.amountUnits = Q.amountUnits ∧
        q.unexpired t := by
    simp [hmem, hchain, hasset, hunits, htakes.1, htakes.2]
  rw [candidates, show (Scan.first q).rows _ = _ from if_pos hrow,
    List.insertionSort_cons_eq_take_drop, List.find?_append] at hfind
  rcases Option.or_eq_some_iff.mp hfind with hbefore | ⟨-, hafter⟩
  · have hlt : Q.createdAt < q.createdAt := by
      simpa using List.mem_takeWhile_imp (List.mem_of_find?_eq_some hbefore)
    omega
  · rw [List.find?_cons_of_pos (by simpa using hpayer)] at hafter
    exact hne (Option.some.inj hafter)

/-- **Whose deposit it is.** In whatever state requests, deposits and ticks have led to: a payer's
deposit of the exact amount of a quote that declares the payer goes to a quote of that payer and
amount; and to the newest of them, in whichever order the database yields rows, exactly if no
other one still takes deposits. -/
theorem attributed_to_payer [DecidableEq Tx] (hs : Reached s) (hmem : Q ∈ s.quotes)
    (hpayer : Q.payer = some payer) (htakes : Q.Takes t)
    (hnewest : ∀ q ∈ s.quotes, q.Alike Q → q.createdAt ≤ Q.createdAt)
    (hnew : ∀ r ∈ s.transfers, ¬ (r.1 = Q.chain ∧ r.2.1 = tx)) :
    let after scan := attributeDeposit s t scan Q.chain Q.asset Q.amountUnits payer tx
    (∀ scan, ∃ q ∈ s.quotes, q.Alike Q ∧ q.Takes t ∧ (after scan).Credited q tx) ∧
      ((∀ scan, (after scan).Credited Q tx) ↔
        ∀ q ∈ s.quotes, q.Alike Q → q.Takes t → q = Q) := by
  intro after
  refine ⟨fun scan => ?_, fun hcredited q hq halike hqtakes => ?_, fun hunique scan => ?_⟩
  · obtain ⟨q, -, hmatching, hq, halike, hqtakes⟩ := exists_matching scan hmem hpayer htakes
    exact ⟨q, hq, halike, hqtakes, (credited_of_matching hnew halike.2.1 hmatching).1⟩
  · -- the database may yield the other quote first
    by_contra hne
    obtain ⟨q', hfind, hmatching, hq', halike', -⟩ :=
      exists_matching (.first q) hmem hpayer htakes
    have hid := (credited_of_matching hnew halike'.2.1 hmatching).2 _ (hcredited (.first q)).1
    obtain rfl := hs.eq_of_quoteId hmem hq' hid
    exact find?_candidates_first hq (halike.1.trans hpayer) halike.2.1 halike.2.2.1 halike.2.2.2
      hqtakes hne (hnewest q hq halike) hfind
  · obtain ⟨q, -, hmatching, hq, halike, hqtakes⟩ := exists_matching scan hmem hpayer htakes
    obtain rfl := hunique q hq halike hqtakes
    exact (credited_of_matching hnew rfl hmatching).1

/-- The payer's first quote is for the same amount and has run out. -/
theorem attributed_to_payer_second :
    let s : Payins Unit Unit Nat Nat :=
      quote (quote {} 0 () () 5 66 (some 1)) 1600 () () 5 7 (some 1)
    s.quotes.map (fun q => (q.payer, q.amountUnits)) = [(some 1, 5), (some 1, 5)] ∧
      ∀ scan, ((), 0, some 1) ∈ (attributeDeposit s 1601 scan () () 5 1 0).transfers := by
  let Q : Quote Unit Unit Nat := ⟨1, (), (), 5, 7, some 1, .quoted, 1600, 2500⟩
  have hs : Reached (quote (quote {} 0 () () 5 66 (some 1)) 1600 () () 5 7 (some 1) :
      Payins Unit Unit Nat Nat) := .quote (.quote .start ..) ..
  have hmem : Q ∈ (quote (quote {} 0 () () 5 66 (some 1)) 1600 () () 5 7 (some 1) :
      Payins Unit Unit Nat Nat).quotes := by decide
  refine ⟨by decide, fun scan => ?_⟩
  exact ((attributed_to_payer hs hmem rfl (by decide) (by decide) (by decide)).2.mpr
    (by decide) scan).1

/-- Somebody requests a quote in the payer's name, with a target of their own, before the payer
does. The payer's quote is for the same amount, and the payer's deposit goes to the other one. -/
theorem deposit_redirected :
    let s : Payins Unit Unit Nat Nat := quote (quote {} 0 () () 5 66 (some 1)) 1 () () 5 7 (some 1)
    (∃ Q ∈ s.quotes, Q.quoteId = 1 ∧ Q.payer = some 1 ∧ Q.target = 7 ∧ Q.amountUnits = 5 ∧
      Q.status = .quoted ∧ 2 ≤ Q.expiresAt ∧ ∀ q ∈ s.quotes, q.createdAt ≤ Q.createdAt) ∧
    let s' := attributeDeposit s 2 insertionOrder () () 5 1 0
    s'.transfers = [((), 0, some 0)] ∧
      s'.quotes.map (fun q => (q.status, q.target)) = [(.seen, 66), (.quoted, 7)] := by
  decide

end Ferminux.Gateway.Attribution
