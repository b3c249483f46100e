import Ferminux.Gateway.Referrals
import Ferminux.Lib.Reservation

/-!
# Gateway.ReferralSafety

Is every leg of a referral paid at most once, and has a leg whose transaction is recorded been paid?
The legs are **reservations of nonces** (`Lib.Reservation`), and both hold in the runs that
never reserve one nonce for two legs. Then no leg finds its nonce taken, so none is given up.

Without this, a send that fails leaves its nonce to another leg. A crash between the transfer of that
leg and its record makes both go wrong: the first leg takes the transaction as its own, and the
second one finds its nonce taken and is paid again.
-/

namespace Ferminux.Gateway.Referral

open Lib Lib.Runtime List World Table Nat
open Payin (BlockTag)

/-! ### The legs as reservations -/

namespace World

/-- The columns of a leg, and whom it pays. -/
def slot (w : World) (k : Nat × Leg) : Option (LegColumns × Nat) :=
  (w.referrals.get k.1).map (·.slot k.2)

/-- A leg holds its nonce, and is settled when its transaction is recorded. -/
def reservation (w : World) : Reservation (Nat × Leg) where
  nonce k := (w.slot k).bind (·.1.nonce)
  settled k := (w.slot k).any (·.1.tx.isSome)
  accepted := w.accepted.map fun tx => (tx.newAgentId, tx.leg)
  mined := w.mined

/-- What each leg of a referral is paid. -/
def reward (w : World) (o : Options) (id : Nat) : Option Nat :=
  (w.referrals.get id).map (·.rewardWei.getD o.rewardWei)

end World

/-- The rewards of the referrals stay. -/
def Kept (o : Options) (w w' : World) : Prop :=
  ∀ id v, w.reward o id = some v → w'.reward o id = some v

/-- What holds at all times. -/
structure Inv (o : Options) (w : World) : Prop where
  honest : w.reservation.Honest
  exclusive : w.reservation.Exclusive
  /-- A transaction pays the owner of its leg. -/
  pays : ∀ tx ∈ w.accepted, ∃ c, w.slot (tx.newAgentId, tx.leg) = some c ∧ tx.target = c.2
  /-- A transaction pays the reward of its referral. -/
  worth : ∀ tx ∈ w.accepted, w.reward o tx.newAgentId = some tx.value

/-- What a tick relies on. -/
structure Quiet (o : Options) (w w' : World) : Prop where
  slots : ∀ {k c}, w.slot k = some c → w'.slot k = some c
  accepted : w'.accepted = w.accepted
  mined : w.mined ≤ w'.mined
  rewards : Kept o w w'

def discipline (o : Options) : Discipline Unit Effect World Choice where
  ok := Unshared
  Inv := Inv o
  rely _ := Quiet o
  guar _ _ _ := True

variable {o : Options} {w w' w'' : World} {id : Nat} {r : ReferralRow} {leg : Leg} {k : Nat × Leg}
  {c : LegColumns × Nat} {f : ReferralRow → ReferralRow}

lemma Kept.trans (h : Kept o w w') (h' : Kept o w' w'') : Kept o w w'' :=
  fun id v hv => h' id v (h id v hv)

lemma Quiet.refl (w : World) : Quiet o w w :=
  ⟨fun hk => hk, rfl, le_refl _, fun _ _ hv => hv⟩

lemma Quiet.trans (h : Quiet o w w') (h' : Quiet o w' w'') : Quiet o w w'' :=
  ⟨fun hk => h'.slots (h.slots hk), h'.accepted.trans h.accepted, le_trans h.mined h'.mined,
    h.rewards.trans h'.rewards⟩

lemma relies : Relies (discipline o) := ⟨fun _ => Quiet.refl, fun h h' => h.trans h'⟩

lemma Inv.mined_le (hw : Inv o w) : w.mined ≤ w.accepted.length := by
  simpa [reservation] using hw.honest.mined

lemma nonce_eq (hk : w.slot k = some c) : w.reservation.nonce k = c.1.nonce := by
  simp [reservation, hk]

lemma Inv.quiet (hw : Inv o w) (h : Quiet o w w') (hmined : w'.mined ≤ w'.accepted.length)
    (hnew : ∀ {k c}, w.slot k = none → w'.slot k = some c → c.1 = {}) : Inv o w' := by
  have hsame : w'.reservation = w.reservation.mine w'.mined := by
    simp only [reservation, Reservation.mine, Reservation.mk.injEq, h.accepted, and_true]
    constructor <;> funext k
    all_goals
      cases hk : w.slot k with
      | some => rw [h.slots hk]
      | none =>
        cases hk' : w'.slot k with
        | none => rfl
        | some => simp [hnew hk hk']
  rw [h.accepted] at hmined
  refine ⟨?_, ?_, fun tx htx => ?_, fun tx htx => h.rewards _ _ (hw.worth tx (h.accepted ▸ htx))⟩
  · rw [hsame]
    exact hw.honest.mine (by simpa [reservation] using hmined)
  · rw [hsame]
    exact ⟨hw.exclusive.inj, hw.exclusive.paid⟩
  · rw [h.accepted] at htx
    obtain ⟨c, hc, htarget⟩ := hw.pays tx htx
    exact ⟨c, h.slots hc, htarget⟩

/-! ### Statements and transactions -/

/-- All other legs are as they were. -/
structure Beside (o : Options) (k : Nat × Leg) (w w' : World) : Prop where
  legs : ∀ k' c, k' ≠ k → w.slot k' = some c → w'.slot k' = some c
  rewards : Kept o w w'

lemma Beside.trans (h : Beside o k w w') (h' : Beside o k w' w'') : Beside o k w w'' :=
  ⟨fun k' c hne hc => h'.legs k' c hne (h.legs k' c hne hc), h.rewards.trans h'.rewards⟩

lemma Quiet.beside (h : Quiet o w w') : Beside o k w w' :=
  ⟨fun _ _ _ hk => h.slots hk, h.rewards⟩

lemma slots_eq {r r' : ReferralRow} (h : r.slots = r'.slots) :
    r.slot = r'.slot ∧ r.rewardWei = r'.rewardWei := by
  obtain ⟨hnew, href, hreward⟩ : _ ∧ _ ∧ _ := by simpa [ReferralRow.slots] using h
  refine ⟨funext fun leg => ?_, hreward⟩
  cases leg <;> assumption

lemma reward_modify (f : ReferralRow → ReferralRow) (id' : Nat) :
    (w.modify id f).reward o id' = if id' = id then
        (w.referrals.get id).map fun r => (f r).rewardWei.getD o.rewardWei
      else w.reward o id' := by
  simp only [World.reward, World.modify, get_modify]
  split
  · rw [Option.map_map]
    rfl
  · rfl

lemma kept_modify (hf : ∀ r, (f r).rewardWei = r.rewardWei) : Kept o w (w.modify id f) := by
  intro id' v hv
  rw [reward_modify]
  split
  · next hid =>
    subst hid
    simpa only [hf, World.reward] using hv
  · exact hv

lemma slot_modify (f : ReferralRow → ReferralRow) (k : Nat × Leg) : (w.modify id f).slot k =
      if k.1 = id then (w.referrals.get id).map fun r => (f r).slot k.2 else w.slot k := by
  simp only [World.slot, World.modify, get_modify]
  split
  · rw [Option.map_map]
    rfl
  · rfl

lemma slot_modify_same (hf : ∀ r, (f r).slot = r.slot)
    (k : Nat × Leg) : (w.modify id f).slot k = w.slot k := by
  rw [slot_modify]
  split
  · next hid => simp only [hf, slot, hid]
  · rfl

lemma Inv.modify (hw : Inv o w) (hf : ∀ r, (f r).slot = r.slot)
    (hkept : Kept o w (w.modify id f)) : Inv o (w.modify id f) ∧ Quiet o w (w.modify id f) := by
  have hquiet : Quiet o w (w.modify id f) :=
    ⟨fun hk => (slot_modify_same hf _).trans hk, rfl, le_refl _, hkept⟩
  refine ⟨hw.quiet hquiet hw.mined_le fun hk hk' => ?_, hquiet⟩
  rw [slot_modify_same hf, hk] at hk'
  cases hk'

@[simp] lemma slot_modifyLeg (r : ReferralRow) (leg leg' : Leg) (f : LegColumns → LegColumns) :
    (r.modifyLeg leg f).slot leg' =
      if leg' = leg then (f (r.leg leg), r.owner leg) else r.slot leg' := by
  cases leg <;> cases leg' <;> rfl

variable {g : ReferralRow → ReferralRow} {f : LegColumns → LegColumns}

lemma slot_modify_leg (hg : ∀ r, (g r).slots = (r.modifyLeg leg f).slots)
    (hk : w.slot (id, leg) = some c) (k : Nat × Leg) :
    (w.modify id g).slot k = if k = (id, leg) then some (f c.1, c.2) else w.slot k := by
  obtain ⟨row, hrow, hc⟩ := Option.map_eq_some_iff.mp hk
  obtain ⟨id', leg'⟩ := k
  rw [slot_modify]
  simp only [hrow, Option.map_some, (slots_eq (hg _)).1, slot_modifyLeg, Prod.mk.injEq, slot]
  subst hc
  by_cases hid : id' = id
  · by_cases hleg : leg' = leg <;> simp [hid, hleg, hrow, ReferralRow.slot]
  · simp [hid]

lemma kept_modify_leg (hg : ∀ r, (g r).slots = (r.modifyLeg leg f).slots) :
    Kept o w (w.modify id g) :=
  kept_modify fun r => (slots_eq (hg r)).2.trans (by cases leg <;> rfl)

lemma beside_modify_leg
    (hg : ∀ r, (g r).slots = (r.modifyLeg leg f).slots) (hk : w.slot (id, leg) = some c) :
    Beside o (id, leg) w (w.modify id g) := by
  refine ⟨fun k' c' hne hc' => ?_, kept_modify_leg hg⟩
  rw [slot_modify_leg hg hk, if_neg hne]
  exact hc'

/-- What changes only the columns of one leg keeps the invariant if it keeps the reservations. -/
lemma Inv.modify_leg (hw : Inv o w)
    (hg : ∀ r, (g r).slots = (r.modifyLeg leg f).slots) (hk : w.slot (id, leg) = some c)
    (honest : (w.modify id g).reservation.Honest)
    (exclusive : (w.modify id g).reservation.Exclusive) : Inv o (w.modify id g) := by
  refine ⟨honest, exclusive, fun tx htx => ?_,
    fun tx htx => kept_modify_leg hg _ _ (hw.worth tx htx)⟩
  obtain ⟨c', hc', htarget⟩ := hw.pays tx htx
  rw [slot_modify_leg hg hk]
  split
  · next heq =>
    rw [heq, hk] at hc'
    cases hc'
    exact ⟨_, rfl, htarget⟩
  · exact ⟨c', hc', htarget⟩

lemma slot_reserve (hk : w.slot (id, leg) = some c) (nonce wallet : Nat) (k : Nat × Leg) :
    (w.reserve id leg nonce wallet).slot k =
      if k = (id, leg) then some ({ c.1 with nonce := some nonce, sender := some wallet }, c.2)
      else w.slot k :=
  slot_modify_leg (fun _ => rfl) hk k

lemma Inv.reserve (hw : Inv o w) (hk : w.slot (id, leg) = some c) (hnone : c.1.nonce = none)
    {nonce wallet : Nat} (hle : nonce ≤ w.accepted.length) {ch : Choice}
    (hfree : Unshared w (.reserve id leg nonce wallet) ch) :
    Inv o (w.reserve id leg nonce wallet) := by
  have hreserve : (w.reserve id leg nonce wallet).reservation =
      w.reservation.reserve (id, leg) nonce := by
    simp only [reservation, Reservation.reserve, Reservation.mk.injEq, slot_reserve hk]
    refine ⟨funext fun k => ?_, funext fun k => ?_, rfl, rfl⟩ <;> by_cases hkey : k = (id, leg)
    all_goals simp [hkey, hk]
  refine hw.modify_leg (fun _ => rfl) hk ?_ ?_ <;> rw [← World.reserve, hreserve]
  · exact hw.honest.reserve ((nonce_eq hk).trans hnone) (by simpa [reservation] using hle)
  · refine hw.exclusive.reserve fun k' hk' => ?_
    obtain ⟨c', hc', hnonce⟩ := Option.bind_eq_some_iff.mp hk'
    obtain ⟨row, hrow, rfl⟩ := Option.map_eq_some_iff.mp hc'
    have hheld := hfree (k'.1, row) (get_eq_some.mp hrow) k'.2
      (by cases k'.2 <;> decide) hnonce
    exact Prod.ext hheld.1 hheld.2

lemma Inv.setTx (hw : Inv o w) (hk : w.slot (id, leg) = some c)
    (hpaid : (id, leg) ∈ w.reservation.accepted) (hash : TxHash) : Inv o (w.setTx id leg hash) := by
  have hslot := slot_modify_leg (w := w) (f := fun c => { c with tx := some hash })
    (g := fun r => { r.modifyLeg leg fun c => { c with tx := some hash } with error := none })
    (fun r => by cases leg <;> rfl) hk
  have hsettle : (w.setTx id leg hash).reservation = w.reservation.settle (id, leg) := by
    simp only [World.reservation, Reservation.settle, Reservation.mk.injEq, World.setTx, hslot]
    refine ⟨funext fun k => ?_, funext fun k => ?_, rfl, rfl⟩ <;> by_cases hkey : k = (id, leg)
    all_goals simp [hkey, hk]
  refine hw.modify_leg (f := fun c => { c with tx := some hash })
    (fun r => by cases leg <;> rfl) hk ?_ ?_ <;> rw [← World.setTx, hsettle]
  · exact hw.honest.settle
  · exact hw.exclusive.settle hpaid

lemma Inv.recordSender (hw : Inv o w) (hk : w.slot (id, leg) = some c) (wallet : Nat) :
    Inv o (w.recordSender id leg wallet) ∧ Beside o (id, leg) w (w.recordSender id leg wallet) ∧
      ∃ c', (w.recordSender id leg wallet).slot (id, leg) = some c' ∧ c'.1.nonce = c.1.nonce ∧
        c'.2 = c.2 := by
  have hslot (k : Nat × Leg) : (w.recordSender id leg wallet).slot k = _ :=
    slot_modify_leg (fun _ => rfl) hk k
  have hsame : (w.recordSender id leg wallet).reservation = w.reservation := by
    simp only [reservation, Reservation.mk.injEq, hslot]
    refine ⟨funext fun k => ?_, funext fun k => ?_, rfl, rfl⟩ <;> by_cases hkey : k = (id, leg)
    all_goals simp [hkey, hk]
  refine ⟨hw.modify_leg (fun _ => rfl) hk (hsame ▸ hw.honest) (hsame ▸ hw.exclusive),
    beside_modify_leg (fun _ => rfl) hk, _, (hslot _).trans (if_pos rfl), rfl, rfl⟩

lemma Inv.accept (hw : Inv o w) (hk : w.slot (id, leg) = some c) {nonce value : Nat}
    (hnonce : c.1.nonce = some nonce) (hvalue : w.reward o id = some value)
    (h : w.accept { newAgentId := id, leg, target := c.2, value, nonce } = some w') :
    Inv o w' ∧ (id, leg) ∈ w'.reservation.accepted ∧ Beside o (id, leg) w w' ∧
      w'.slot (id, leg) = some c := by
  unfold World.accept at h
  split at h
  · next hnext =>
    cases h
    dsimp only at hnext
    set tx : Transfer := { newAgentId := id, leg, target := c.2, value, nonce } with htx
    have haccept : { w with accepted := w.accepted ++ [tx] : World }.reservation =
        w.reservation.accept (id, leg) := by
      simp only [reservation, Reservation.accept, map_append, htx]
      rfl
    refine ⟨⟨?_, ?_, fun tx' htx' => ?_, fun tx' htx' => ?_⟩, ?_,
      ⟨fun _ _ _ hk' => hk', fun _ _ hv => hv⟩, hk⟩
    · rw [haccept]
      refine hw.honest.accept ?_
      rw [nonce_eq hk, hnonce, hnext]
      simp [reservation]
    · rw [haccept]
      exact hw.exclusive.accept
    · rcases mem_append.mp htx' with hold | hnew
      · exact hw.pays tx' hold
      · obtain rfl := mem_singleton.mp hnew
        exact ⟨c, hk, rfl⟩
    · rcases mem_append.mp htx' with hold | hnew
      · exact hw.worth tx' hold
      · obtain rfl := mem_singleton.mp hnew
        exact hvalue
    · rw [haccept]
      exact mem_append_right _ (mem_singleton_self _)
  · cases h

/-- **No leg finds its nonce taken.** -/
theorem Inv.taken_eq_false (hw : Inv o w) (hk : w.slot k = some c) {nonce : Nat}
    (hnonce : c.1.nonce = some nonce) (htx : c.1.tx = none) (sender : Option Nat) (wallet : Nat) :
    w.taken nonce sender wallet = false := by
  refine Bool.eq_false_iff.mpr fun htaken => ?_
  simp only [taken, any_eq_true, Bool.and_eq_true, decide_eq_true_eq] at htaken
  obtain ⟨row, hrow, leg', -, ⟨hnonce', -⟩, hsome⟩ := htaken
  obtain ⟨id', hget⟩ := mem_values.mp hrow
  have hk' : w.slot (id', leg') = some (row.slot leg') := by simp [slot, hget]
  have heq := hw.exclusive.inj ((nonce_eq hk).trans hnonce) ((nonce_eq hk').trans hnonce')
  rw [heq, hk'] at hk
  cases hk
  simp [ReferralRow.slot] at htx
  simp [htx] at hsome

/-! ### One effect -/

variable {e : Effect} {Q : Except String (Answer e) → World → Prop}

abbrev PaySafe {α : Type} (o : Options) (t : Prog α) (Q : Except String α → World → Prop)
    (w : World) : Prop :=
  (runtime o).Safe (discipline o) () t Q w

lemma safe_ask (hw : Inv o w)
    (h : ∀ w1 ch r w', Quiet o w w1 → (e.awaits = false → w1 = w) → Inv o w1 → Unshared w1 e ch →
      w1.act e ch = some (r, w') → Inv o w' ∧ Q r w') : PaySafe o (ask e) Q w :=
  safe_call_from relies hw fun w1 ch r w' hrely hsync hinv hok hact =>
    have hstep := h w1 ch r w' hrely hsync hinv hok hact
    ⟨hstep.1, trivial, hstep.2⟩

lemma safe_query (he : e.awaits = false) (hw : Inv o w)
    (h : ∀ now head block r w', (∀ ch, Unshared w e ch) → w.query now head block e = some (r, w') →
      Inv o w' ∧ Q (.ok r) w') : PaySafe o (ask e) Q w := by
  refine safe_ask hw fun w1 ch res w' _ hsync _ hok hact => ?_
  obtain rfl := hsync he
  -- only a statement answers an effect that does not wait
  have hquery : ∃ now head block r, w1.query now head block e = some (r, w') ∧ res = .ok r := by
    cases ch with
    | statement now head block =>
      cases e <;> first | (cases he; done) | (cases hact; exact ⟨now, head, block, _, rfl, rfl⟩)
    | _ => cases e <;> first | (cases he; done) | cases hact
  obtain ⟨now, head, block, r, hr, rfl⟩ := hquery
  refine h now head block r w' (fun ch' => ?_) hr
  cases e <;> exact hok

/-- The statements that change no leg and no reward. -/
def plain : Effect → Prop
  | .getBalance | .getTransactionCount _ | .send _ | .reserve _ _ _ _ | .recordSender _ _ _
  | .setTx _ _ _ | .markPaid _ _ _ => False
  | _ => True

lemma query_plain (he : plain e) (hw : Inv o w) {now head : Nat} {block : Option Nat}
    {a : Answer e} (h : w.query now head block e = some (a, w')) : Inv o w' ∧ Quiet o w w' := by
  cases e with
  | setEligibleBlock | setError =>
    cases h
    exact hw.modify (fun _ => rfl) (kept_modify fun _ => rfl)
  | getBalance | getTransactionCount | send | reserve | recordSender | setTx | markPaid =>
    exact he.elim
  | _ =>
    cases h
    exact ⟨hw, Quiet.refl w⟩

lemma safe_plain (hw : Inv o w) (he : plain e) :
    PaySafe o (ask e) (fun r w' => (∃ a, r = .ok a) ∧ Inv o w' ∧ Quiet o w w') w := by
  have hsync : e.awaits = false := by cases e <;> first | rfl | exact he.elim
  refine safe_query hsync hw fun now head block r w' _ h => ?_
  have hstep := query_plain he hw h
  exact ⟨hstep.1, ⟨r, rfl⟩, hstep⟩

lemma safe_markPaid {t reward : Nat} (hw : Inv o w) (hreward : w.reward o id = some reward) :
    PaySafe o (ask (.markPaid id t reward)) (fun _ w' => Inv o w' ∧ Quiet o w w') w := by
  refine safe_query rfl hw fun now head block r w' _ h => ?_
  cases h
  -- the reward that is recorded is the one the row had
  have hkept : Kept o w (w.modify id fun r =>
      { r with paid := true, paidAt := some t, rewardWei := some reward, error := none }) := by
    intro id' v hv
    rw [reward_modify]
    split
    · next hid =>
      obtain rfl : reward = v := Option.some.inj (hreward.symm.trans (hid ▸ hv))
      obtain ⟨row, hrow, -⟩ := Option.map_eq_some_iff.mp hreward
      simp [hrow]
    · exact hv
  have hmodify := hw.modify (by exact fun _ => rfl) hkept
  exact ⟨hmodify.1, hmodify⟩

variable {Q : Except String Nat → World → Prop}

lemma safe_getBalance (hw : Inv o w) (h : ∀ w1 r, Quiet o w w1 → Inv o w1 → Q r w1) :
    PaySafe o (ask .getBalance) Q w := by
  refine safe_ask hw fun w1 ch r w' hquiet _ hw1 _ hact => ?_
  cases ch with
  | answer | fails =>
    cases hact
    exact ⟨hw1, h w1 _ hquiet hw1⟩
  | _ => cases hact

lemma safe_getTransactionCount {tag : BlockTag} (hw : Inv o w) (h : ∀ w1, Quiet o w w1 → Inv o w1 →
      Q (.ok (w1.transactionCount tag)) w1 ∧ ∀ message, Q (.error message) w1) :
    PaySafe o (ask (.getTransactionCount tag)) Q w := by
  refine safe_ask hw fun w1 ch r w' hquiet _ hw1 _ hact => ?_
  cases ch with
  | answer =>
    cases hact
    exact ⟨hw1, (h w1 hquiet hw1).1⟩
  | fails message =>
    cases hact
    exact ⟨hw1, (h w1 hquiet hw1).2 message⟩
  | _ => cases hact

lemma safe_txCounts (hw : Inv o w) : PaySafe o txCounts (fun r w' => Inv o w' ∧ Quiet o w w' ∧
        ∀ counts, r = .ok counts → counts.1 ≤ w'.accepted.length ∧ counts.2 ≤ w'.mined) w := by
  refine safe_bind.mpr (safe_getTransactionCount hw fun w1 hquiet hw1 => ?_)
  refine ⟨?_, fun message => ⟨hw1, hquiet, nofun⟩⟩
  refine safe_bind.mpr (safe_getTransactionCount hw1 fun w2 hquiet' hw2 => ?_)
  refine ⟨⟨hw2, hquiet.trans hquiet', fun counts h => ?_⟩,
    fun message => ⟨hw2, hquiet.trans hquiet', nofun⟩⟩
  cases h
  refine ⟨?_, le_refl _⟩
  simp [transactionCount, hquiet'.accepted]

/-! ### One transfer -/

/-- After one transfer. -/
def Left (o : Options) (k : Nat × Leg) (w w' : World) : Prop :=
  Inv o w' ∧ Beside o k w w'

variable {target value nonce : Nat}

lemma safe_setTx (hw : Inv o w) (hk : w.slot (id, leg) = some c)
    (hpaid : (id, leg) ∈ w.reservation.accepted) {hash : TxHash} :
    PaySafe o (ask (.setTx id leg hash)) (fun _ => Left o (id, leg) w) w := by
  refine safe_query rfl hw fun now head block r w' _ h => ?_
  cases h
  have hset := hw.setTx hk hpaid hash
  exact ⟨hset, hset, beside_modify_leg (f := fun c => { c with tx := some hash })
    (fun r => by cases leg <;> rfl) hk⟩

lemma safe_sendAt (hw : Inv o w) (hk : w.slot (id, leg) = some c) (hnonce : c.1.nonce = some nonce)
    (htarget : c.2 = target) (hvalue : w.reward o id = some value) :
    PaySafe o (sendAt id leg target value nonce) (fun _ => Left o (id, leg) w) w := by
  subst htarget
  refine safe_bind.mpr (safe_ask hw fun w1 ch res w' hquiet _ hw1 _ hact => ?_)
  have hk1 := hquiet.slots hk
  have hvalue1 := hquiet.rewards _ _ hvalue
  cases ch with
  | answer =>
    obtain ⟨w2, haccept, heq⟩ := Option.map_eq_some_iff.mp hact
    cases heq
    obtain ⟨hw2, hpaid, hbeside, hk2⟩ := hw1.accept hk1 hnonce hvalue1 haccept
    refine ⟨hw2, (safe_setTx hw2 hk2 hpaid).bind fun res w' h => ?_⟩
    have hleft : Left o (id, leg) w w' := ⟨h.1, (hquiet.beside.trans hbeside).trans h.2⟩
    cases res <;> exact hleft
  | lost =>
    obtain ⟨w2, haccept, heq⟩ := Option.map_eq_some_iff.mp hact
    cases heq
    obtain ⟨hw2, -, hbeside, -⟩ := hw1.accept hk1 hnonce hvalue1 haccept
    exact ⟨hw2, hw2, hquiet.beside.trans hbeside⟩
  | fails =>
    cases hact
    exact ⟨hw1, hw1, hquiet.beside⟩
  | _ => cases hact

lemma Left.of_quiet (h : Quiet o w w') (hl : Left o k w' w'') : Left o k w w'' :=
  ⟨hl.1, h.beside.trans hl.2⟩

lemma safe_sendFresh (hw : Inv o w) (hk : w.slot (id, leg) = some c) (hnone : c.1.nonce = none)
    (htarget : c.2 = target) (hvalue : w.reward o id = some value) :
    PaySafe o (sendFresh o id leg target value) (fun _ => Left o (id, leg) w) w := by
  refine (safe_txCounts hw).bind ?_
  rintro (message | counts) w1 ⟨hw1, hquiet, hcounts⟩
  · exact ⟨hw1, hquiet.beside⟩
  have hk1 := hquiet.slots hk
  refine safe_bind.mpr (safe_query rfl hw1 fun now head block res w' hfree h => ?_)
  cases h
  by_cases hpayable : w1.payable id = true
  · simp only [hpayable, if_true]
    have hreserved := hw1.reserve hk1 hnone (hcounts counts rfl).1 (hfree (.answer 0))
    have hbeside : Beside o (id, leg) w (w1.reserve id leg counts.1 o.wallet) :=
      hquiet.beside.trans (beside_modify_leg (fun _ => rfl) hk1)
    refine ⟨hreserved, (safe_sendAt hreserved ((slot_reserve hk1 _ _ _).trans (if_pos rfl)) rfl
      htarget (hbeside.rewards _ _ hvalue)).mono fun _ w' h => ⟨h.1, hbeside.trans h.2⟩⟩
  · simp only [hpayable]
    exact ⟨hw1, hw1, hquiet.beside⟩

lemma safe_resume (hw : Inv o w) (hk : w.slot (id, leg) = some c) (hnonce : c.1.nonce = some nonce)
    (htx : c.1.tx = none) (htarget : c.2 = target) (hvalue : w.reward o id = some value) :
    PaySafe o (resume o id r leg target value nonce) (fun _ => Left o (id, leg) w) w := by
  refine (safe_txCounts hw).bind ?_
  rintro (message | counts) w1 ⟨hw1, hquiet, hcounts⟩
  · exact ⟨hw1, hquiet.beside⟩
  have hk1 := hquiet.slots hk
  refine safe_bind.mpr (safe_query rfl hw1 fun now head block res w' _ h => ?_)
  cases h
  refine ⟨hw1, ?_⟩
  simp only [next_ok, hw1.taken_eq_false hk1 hnonce htx]
  refine safe_ite.mpr ⟨fun h => (by cases h), fun _ => safe_ite.mpr ⟨fun hlatest => ?_, fun _ => ?_⟩⟩
  · -- a nonce that no other leg holds and that is spent was spent for this one
    have hpaid := hw1.exclusive.mem_of_lt hw1.honest ((nonce_eq hk1).trans hnonce)
      (lt_of_lt_of_le hlatest (hcounts counts rfl).2)
    refine (safe_setTx hw1 hk1 hpaid).bind fun res w' h => ?_
    have hleft := h.of_quiet hquiet
    cases res <;> exact hleft
  · refine safe_bind.mpr (safe_query rfl hw1 fun now head block res w' _ h => ?_)
    cases h
    by_cases hpayable : w1.payable id = true
    · simp only [hpayable, if_true]
      obtain ⟨hw2, hbeside, c', hk2, hnonce2, htarget2⟩ := hw1.recordSender hk1 o.wallet
      have hvalue2 := (hquiet.beside.trans hbeside).rewards _ _ hvalue
      refine ⟨hw2, (safe_sendAt hw2 hk2 (hnonce2.trans hnonce) (htarget2.trans htarget)
        hvalue2).mono fun _ w' h => ⟨h.1, (hquiet.beside.trans hbeside).trans h.2⟩⟩
    · simp only [hpayable]
      exact ⟨hw1, hw1, hquiet.beside⟩

lemma safe_transferIfMissing (hw : Inv o w) (hk : w.slot (id, leg) = some (r.slot leg))
    (htarget : r.owner leg = target) (hvalue : w.reward o id = some value) :
    PaySafe o (transferIfMissing o id r leg target value) (fun _ => Left o (id, leg) w) w := by
  unfold transferIfMissing
  split
  · exact ⟨hw, (Quiet.refl w).beside⟩
  · next htx =>
    unfold transfer
    split
    · next hnone => exact safe_sendFresh hw hk hnone htarget hvalue
    · next nonce hnonce =>
      split
      · refine safe_ite.mpr ⟨fun _ => ?_, fun _ => ?_⟩
        · exact ⟨hw, (Quiet.refl w).beside⟩
        · exact safe_resume hw hk hnonce htx htarget hvalue
      · exact safe_resume hw hk hnonce htx htarget hvalue

/-! ### A tick -/

/-- The legs of all other rows are as they were. -/
def LeftRow (o : Options) (id : Nat) (w w' : World) : Prop :=
  Inv o w' ∧ Kept o w w' ∧ ∀ k c, k.1 ≠ id → w.slot k = some c → w'.slot k = some c

lemma LeftRow.of_quiet (hw : Inv o w') (h : Quiet o w w') : LeftRow o id w w' :=
  ⟨hw, h.rewards, fun _ _ _ hk => h.slots hk⟩

lemma LeftRow.trans (h : LeftRow o id w w') (h' : LeftRow o id w' w'') : LeftRow o id w w'' :=
  ⟨h'.1, h.2.1.trans h'.2.1, fun k c hne hk => h'.2.2 k c hne (h.2.2 k c hne hk)⟩

lemma Left.row (h : Left o (id, leg) w w') : LeftRow o id w w' :=
  ⟨h.1, h.2.rewards,
    fun k c hne hk => h.2.legs k c (fun heq => hne (congrArg Prod.fst heq)) hk⟩

lemma safe_plain_then {α : Type} {f : Answer e → α} (hw : Inv o w) (he : plain e) :
    PaySafe o (ask e >>= fun a => pure (f a))
      (fun r w' => (∃ a, r = .ok a) ∧ Inv o w' ∧ Quiet o w w') w := by
  refine (safe_plain hw he).bind ?_
  rintro res w' ⟨⟨a, rfl⟩, h⟩
  exact ⟨⟨_, rfl⟩, h⟩

variable {k : Counters} {reward day : Nat} {deep : Int}

lemma safe_payBoth {byOwner : Nat} (hw : Inv o w) (hk : ∀ leg, w.slot (id, leg) = some (r.slot leg))
    (hreward : w.reward o id = some reward) :
    PaySafe o (payBoth o id r k reward byOwner) (fun _ => LeftRow o id w) w := by
  refine safe_bind.mpr (safe_getBalance hw fun w1 bal hquiet hw1 => ?_)
  cases bal with
  | error => exact .of_quiet hw1 hquiet
  | ok =>
    refine safe_ite.mpr ⟨fun _ => ?_, fun _ => ?_⟩
    · exact (safe_plain_then hw1 (by trivial)).mono fun _ w' h =>
        .of_quiet h.2.1 (hquiet.trans h.2.2)
    have hleft1 : LeftRow o id w w1 := .of_quiet hw1 hquiet
    refine (safe_transferIfMissing hw1 (hquiet.slots (hk .new)) rfl
      (hleft1.2.1 _ _ hreward)).bind fun res w2 h2 => ?_
    have hleft2 := hleft1.trans h2.row
    cases res with
    | error => exact hleft2
    | ok =>
      have hk2 := h2.2.legs (id, .ref) _ (by simp) (hquiet.slots (hk .ref))
      refine (safe_transferIfMissing h2.1 hk2 rfl
        (hleft2.2.1 _ _ hreward)).bind fun res w3 h3 => ?_
      have hleft3 := hleft2.trans h3.row
      cases res with
      | error => exact hleft3
      | ok =>
        refine (safe_plain h3.1 (by trivial)).bind ?_
        rintro _ w4 ⟨⟨t, rfl⟩, hw4, hquiet4⟩
        have hleft4 := hleft3.trans (.of_quiet hw4 hquiet4)
        refine (safe_markPaid hw4 (hleft4.2.1 _ _ hreward)).bind fun res w' h => ?_
        have hleft5 := hleft4.trans (.of_quiet h.1 h.2)
        cases res <;> exact hleft5

lemma safe_completionOf {jobId : Option Nat} (hw : Inv o w) :
    PaySafe o (completionOf jobId) (fun r w' => (∃ a, r = .ok a) ∧ Inv o w' ∧ Quiet o w w') w := by
  cases jobId with
  | none => exact ⟨⟨_, rfl⟩, hw, Quiet.refl w⟩
  | some => exact safe_plain hw trivial

lemma safe_countOf {owner : Nat} (hw : Inv o w) :
    PaySafe o (countOf day k owner) (fun r w' => (∃ a, r = .ok a) ∧ Inv o w' ∧ Quiet o w w') w := by
  unfold countOf
  split
  · exact ⟨⟨_, rfl⟩, hw, Quiet.refl w⟩
  · exact safe_plain hw trivial

lemma safe_payCapped (hw : Inv o w) (hk : ∀ leg, w.slot (id, leg) = some (r.slot leg))
    (hreward : w.reward o id = some reward) : PaySafe o (payCapped o day id r k reward)
      (fun res w' => (∃ turn, res = .ok turn) ∧ LeftRow o id w w') w := by
  refine (safe_countOf hw).bind ?_
  rintro _ w1 ⟨⟨byOwner, rfl⟩, hw1, hquiet⟩
  have hdeferred (message : String) : PaySafe o
      (ask (.setError id message) >>= fun _ => pure (.next k))
      (fun res w' => (∃ turn : Turn, res = .ok turn) ∧ LeftRow o id w w') w1 :=
    (safe_plain_then hw1 (by trivial)).mono fun _ w' h => ⟨h.1, .of_quiet h.2.1 (hquiet.trans h.2.2)⟩
  refine safe_guard (hdeferred _) fun _ => ?_
  refine safe_guard (hdeferred _) fun _ => ?_
  refine safe_tryCatch.mpr
    ((safe_payBoth hw1 (fun leg => hquiet.slots (hk leg)) (hquiet.rewards _ _ hreward)).mono
      fun res w2 h2 => ?_)
  have hleft : LeftRow o id w w2 := (LeftRow.of_quiet hw1 hquiet).trans h2
  cases res with
  | ok turn => exact ⟨⟨turn, rfl⟩, hleft⟩
  | error =>
    exact (safe_plain_then h2.1 (by trivial)).mono fun _ w' h =>
      ⟨h.1, hleft.trans (.of_quiet h.2.1 h.2.2)⟩

lemma safe_payRow (hw : Inv o w) (hk : ∀ leg, w.slot (id, leg) = some (r.slot leg))
    (hreward : w.reward o id = some (r.rewardWei.getD o.rewardWei)) :
    PaySafe o (payRow o deep day id r k)
      (fun res w' => (∃ turn, res = .ok turn) ∧ LeftRow o id w w') w := by
  refine (safe_completionOf hw).bind ?_
  rintro _ w1 ⟨⟨completed, rfl⟩, hw1, hquiet⟩
  have hleft : LeftRow o id w w1 := .of_quiet hw1 hquiet
  refine safe_ite.mpr ⟨fun _ => ?_, fun _ => ?_⟩
  · exact (safe_plain_then hw1 (by trivial)).mono fun _ w' h =>
      ⟨h.1, hleft.trans (.of_quiet h.2.1 h.2.2)⟩
  · exact (safe_payCapped hw1 (fun leg => hquiet.slots (hk leg))
      (hquiet.rewards _ _ hreward)).mono fun _ w' h => ⟨h.1, hleft.trans h.2⟩

/-- The rows that are still to be paid are as the tick has read them. -/
def Rest (o : Options) (rows : List (Nat × ReferralRow)) (w : World) : Prop :=
  Inv o w ∧ (rows.map Prod.fst).Nodup ∧
    ∀ row ∈ rows, (∀ leg, w.slot (row.1, leg) = some (row.2.slot leg)) ∧
      w.reward o row.1 = some (row.2.rewardWei.getD o.rewardWei)

lemma safe_payRows {rows : List (Nat × ReferralRow)} (h : Rest o rows w) :
    PaySafe o (payRows o deep day rows k) (fun _ _ => True) w := by
  induction rows generalizing w k with
  | nil => trivial
  | cons row rest ih =>
    obtain ⟨hw, hnodup, hrest⟩ := h
    rw [map_cons, nodup_cons] at hnodup
    obtain ⟨hk, hreward⟩ := hrest row mem_cons_self
    refine (safe_payRow hw hk hreward).bind ?_
    rintro _ w' ⟨⟨turn, rfl⟩, hw', hkept, hleft⟩
    cases turn with
    | stop => trivial
    | next =>
      refine ih ⟨hw', hnodup.2, fun row' hrow' => ?_⟩
      obtain ⟨hk', hreward'⟩ := hrest row' (.tail _ hrow')
      refine ⟨fun leg => hleft _ _ (fun heq => ?_) (hk' leg), hkept _ _ hreward'⟩
      exact hnodup.1 (heq ▸ mem_map_of_mem hrow')

lemma rest_dueRows (hw : Inv o w) (deep : Int) : Rest o (w.dueRows deep) w := by
  refine ⟨hw, ?_, fun row hrow => ?_⟩
  · exact w.referrals.nodup_take_sorted ..
  · have hrows := mem_of_mem_take hrow
    rw [mem_insertionSort] at hrows
    simp [slot, World.reward, get_eq_some.mpr (mem_of_mem_filter hrows)]

lemma safe_place {row : Nat × ReferralRow} (hw : Inv o w) :
    PaySafe o (place row) (fun r w' => (∃ a, r = .ok a) ∧ Inv o w' ∧ Quiet o w w') w := by
  refine (safe_completionOf hw).bind ?_
  rintro _ w1 ⟨⟨completed, rfl⟩, hw1, hquiet⟩
  cases completed with
  | none => exact ⟨⟨_, rfl⟩, hw1, hquiet⟩
  | some =>
    exact (safe_plain hw1 (by trivial)).mono fun _ w' h => ⟨h.1, h.2.1, hquiet.trans h.2.2⟩

lemma safe_tick (hw : Inv o w) : PaySafe o (tick o) (fun _ _ => True) w := by
  refine (safe_plain hw (by trivial)).bind ?_
  rintro _ w1 ⟨⟨unplaced, rfl⟩, hw1, -⟩
  have hplaced : PaySafe o (Task.each unplaced place)
      (fun r w' => (∃ a, r = .ok a) ∧ Inv o w') w1 := by
    refine safe_each (P := fun _ => Inv o) hw1 (fun row rest w hw => ?_) fun w hw => ⟨⟨_, rfl⟩, hw⟩
    refine (safe_place hw).mono ?_
    rintro _ w' ⟨⟨a, rfl⟩, hw', -⟩
    exact hw'
  refine hplaced.bind ?_
  rintro _ w2 ⟨⟨_, rfl⟩, hw2⟩
  refine (safe_plain hw2 (by trivial)).bind ?_
  rintro _ w3 ⟨⟨head, rfl⟩, hw3, -⟩
  refine safe_bind.mpr (safe_query rfl hw3 fun now head' block rows w4 _ h => ?_)
  cases h
  refine ⟨hw3, (safe_plain hw3 (by trivial)).bind ?_⟩
  rintro _ w5 ⟨⟨now, rfl⟩, hw5, hquiet5⟩
  refine (safe_plain hw5 (by trivial)).bind ?_
  rintro _ w6 ⟨⟨paidAll, rfl⟩, hw6, hquiet6⟩
  have hrest := rest_dueRows hw3 (head - REORG_DEPTH)
  have hquiet := hquiet5.trans hquiet6
  exact safe_payRows ⟨hw6, hrest.2.1, fun row hrow =>
    ⟨fun leg => hquiet.slots ((hrest.2.2 row hrow).1 leg),
      hquiet.rewards _ _ (hrest.2.2 row hrow).2⟩⟩

/-! ### Runs -/

lemma slots_revertJob (r : ReferralRow) (jobId blockNumber : Nat) :
    (r.revertJob jobId blockNumber).slots = r.slots := by
  unfold ReferralRow.revertJob
  split
  · split <;> rfl
  · rfl

lemma Inv.drift (hw : Inv o w) {ch : Choice} (h : w.drift ch = some w') :
    Inv o w' ∧ Quiet o w w' := by
  cases ch with
  | mine =>
    simp only [World.drift] at h
    split at h
    · next hlt =>
      cases h
      have hquiet : Quiet o w { w with mined := w.mined + 1 } := 
        ⟨fun hk => hk, rfl, le_succ _, fun _ _ hv => hv⟩
      refine ⟨hw.quiet hquiet hlt fun hk hk' => ?_, hquiet⟩
      cases hk.symm.trans hk'
    · cases h
  | revertJob jobId blockNumber =>
    cases h
    set w' : World := { w with referrals := w.referrals.mapRows fun _ => (·.revertJob jobId blockNumber) }
      with hw'
    have hslot (k : Nat × Leg) : w'.slot k = w.slot k := by
      simp [slot, hw', get_mapRows, Function.comp_def, (slots_eq (slots_revertJob ..)).1]
    have hreward : w'.reward o = w.reward o := by
      funext id
      simp [World.reward, hw', get_mapRows, Function.comp_def, (slots_eq (slots_revertJob ..)).2]
    have hquiet : Quiet o w w' :=
      ⟨fun hk => (hslot _).trans hk, rfl, le_refl _, fun _ _ hv => hreward ▸ hv⟩
    refine ⟨hw.quiet hquiet hw.mined_le fun hk hk' => ?_, hquiet⟩
    rw [hslot, hk] at hk'
    cases hk'
  | insert id row =>
    simp only [World.drift] at h
    split at h
    · next hnew =>
      cases h
      set w' : World := { w with referrals := w.referrals.set id row } with hw'
      have hslot (k : Nat × Leg) :
          w'.slot k = if k.1 = id then some (row.slot k.2) else w.slot k := by
        simp only [slot, hw', get_set]
        split <;> rfl
      have hquiet : Quiet o w w' := by
        refine ⟨fun {k c} hk => ?_, rfl, le_refl _, fun id' v hv => ?_⟩
        · rw [hslot, if_neg]
          · exact hk
          · rintro rfl
            simp [slot, hnew.1] at hk
        · simp only [World.reward, hw', get_set]
          rw [if_neg]
          · exact hv
          · rintro rfl
            simp [World.reward, hnew.1] at hv
      refine ⟨hw.quiet hquiet hw.mined_le fun {k c} hk hk' => ?_, hquiet⟩
      rw [hslot] at hk'
      split at hk'
      · cases hk'
        cases hleg : k.2 <;> simp [ReferralRow.slot, ReferralRow.leg, hnew]
      · cases hk.symm.trans hk'
    · cases h
  | update id row =>
    simp only [World.drift] at h
    split at h
    · next hsame =>
      cases h
      obtain ⟨old, hold, heq⟩ := Option.map_eq_some_iff.mp hsame
      obtain ⟨hsame', hreward'⟩ := slots_eq heq
      set w' : World := { w with referrals := w.referrals.set id row } with hw'
      have hslot (k : Nat × Leg) : w'.slot k = w.slot k := by
        simp only [slot, hw', get_set]
        split
        · next hid =>
          rw [hid, hold]
          simp [hsame']
        · rfl
      have hreward : w'.reward o = w.reward o := by
        funext id'
        simp only [World.reward, hw', get_set]
        split
        · next hid =>
          rw [hid, hold]
          simp [hreward']
        · rfl
      have hquiet : Quiet o w w' :=
        ⟨fun hk => (hslot _).trans hk, rfl, le_refl _, fun _ _ hv => hreward ▸ hv⟩
      refine ⟨hw.quiet hquiet hw.mined_le fun hk hk' => ?_, hquiet⟩
      rw [hslot, hk] at hk'
      cases hk'
    · cases h
  | _ => cases h

lemma sound : Sound (runtime o) (discipline o) where
  toRelies := relies
  guar hne := absurd (Subsingleton.elim _ _) hne
  drift hw h := ⟨(hw.drift h).1, fun _ => (hw.drift h).2⟩
  reboot := id
  task _ _ _ hw := (safe_tick hw).bind fun res _ _ => by cases res <;> trivial

lemma Inv.fresh (h : w.Fresh) : Inv o w := by
  have hempty {k : Nat × Leg} {c : LegColumns × Nat} (hk : w.slot k = some c) : c.1 = {} := by
    obtain ⟨row, hrow, rfl⟩ := Option.map_eq_some_iff.mp hk
    cases hleg : k.2 <;> simp [ReferralRow.slot, ReferralRow.leg, h.rows hrow]
  have hnone (k : Nat × Leg) : w.reservation.nonce k = none := by
    rw [reservation, Option.bind_eq_none_iff]
    intro c hc
    rw [hempty hc]
  have hunpaid (k : Nat × Leg) : w.reservation.settled k = false := by
    rw [reservation, Option.any_eq_false]
    intro c hc
    simp [hempty hc]
  refine ⟨⟨fun {n k} hk => ?_, fun {n k} hk => ?_, ?_⟩, ⟨fun {n k k'} hk _ => ?_,
    fun {k} hk => ?_⟩, ?_, ?_⟩
  · simp [reservation, h.accepted] at hk
  · rw [hnone] at hk
    cases hk
  · simp [reservation, h.mined]
  · rw [hnone] at hk
    cases hk
  · rw [hunpaid] at hk
    cases hk
  · simp [h.accepted]
  · simp [h.accepted]

/-- **Every leg is paid at most once, and a leg whose transaction is recorded has been paid**: its
owner, and the reward of the referral. This holds in the runs that never reserve one nonce for two
legs. -/
theorem referral_paid_at_most_once {start : World} (hstart : start.Fresh)
    {c : Config Unit Answer World} (hc : (runtime o).Reach Unshared start c) :
    (c.world.accepted.map fun tx => (tx.newAgentId, tx.leg)).Nodup ∧
      ∀ id row leg, c.world.referrals.get id = some row → (row.leg leg).tx.isSome →
        ∃ tx ∈ c.world.accepted, tx.newAgentId = id ∧ tx.leg = leg ∧ tx.target = row.owner leg ∧
          tx.value = row.rewardWei.getD o.rewardWei := by
  have hinv : Inv o c.world := sound.inv (Inv.fresh hstart) hc
  refine ⟨hinv.honest.nodup, fun id row leg hrow hrecorded => ?_⟩
  have hslot : c.world.slot (id, leg) = some (row.slot leg) := by simp [slot, hrow]
  have hsettled : c.world.reservation.settled (id, leg) = true := by
    simp only [reservation, hslot, Option.any_some]
    exact hrecorded
  obtain ⟨tx, htx, hkey⟩ := mem_map.mp (hinv.exclusive.paid hsettled)
  cases hkey
  obtain ⟨c', hc', htarget⟩ := hinv.pays tx htx
  rw [hslot] at hc'
  cases hc'
  have hvalue := hinv.worth tx htx
  simp only [World.reward, hrow, Option.map_some, Option.some.injEq] at hvalue
  exact ⟨tx, htx, rfl, rfl, htarget, hvalue.symm⟩

/-! ### Two referrals -/

def sampleOptions : Options := { wallet := 9, rewardWei := 10 }

def sampleStart : World where
  referrals := (Table.empty.set 1 { newOwner := 11, refOwner := 12, eligibleAt := some 1
                                    jobId := some 1, eligibleBlock := some 10 }).set 2
    { newOwner := 21, refOwner := 22, eligibleAt := some 2, jobId := some 2
      eligibleBlock := some 10 }

lemma fresh_sampleStart : sampleStart.Fresh := by
  refine ⟨fun {id row} hrow => ?_, rfl, rfl⟩
  have hall : ∀ r ∈ sampleStart.referrals.rows, r.2.new = {} ∧ r.2.ref = {} := by decide +kernel
  exact hall (id, row) (get_eq_some.mp hrow)

def stmt : Choice := .statement 1000 100 (some 10)

def rpc : Choice := .answer (10 ^ 20)

/-- The moves of a tick: what it reads first, and then how it is answered. -/
def tickMoves (answers : List Choice) : List (Move Unit Unit Choice) :=
  .start () () :: (List.replicate 5 stmt ++ answers).map (.go ())

def rowStart : List Choice := [stmt, stmt, rpc]

def freshSend : List Choice := [rpc, rpc, stmt]

def paidReferral : List (Move Unit Unit Choice) :=
  tickMoves (rowStart ++ freshSend ++ [rpc, stmt] ++ freshSend ++ [rpc, stmt] ++ [stmt, stmt])

/-- Both legs of a referral are paid in one tick. -/
theorem referral_paid_at_most_once_paid : ∃ c : Config Unit Answer World,
    ∃ row, c.world.referrals.get 1 = some row ∧ row.paid = true ∧
      ∃ tx ∈ c.world.accepted, tx.newAgentId = 1 ∧ tx.leg = .ref ∧ tx.target = row.owner .ref ∧
        tx.value = row.rewardWei.getD sampleOptions.rewardWei := by
  let c := ((runtime sampleOptions).run Unshared sampleStart paidReferral).get (by decide +kernel)
  have hpaid : (c.world.referrals.get 1).map (fun row => (row.paid, row.ref.tx.isSome)) =
      some (true, true) := by decide +kernel
  obtain ⟨row, hrow, hcolumns⟩ := Option.map_eq_some_iff.mp hpaid
  have hc : (runtime sampleOptions).Reach Unshared sampleStart c :=
    reach_of_run _ (Option.some_get _).symm
  obtain ⟨hdone, hrecorded⟩ := Prod.mk.inj hcolumns
  exact ⟨c, row, hrow, hdone,
    (referral_paid_at_most_once fresh_sampleStart hc).2 1 row .ref hrow hrecorded⟩

/-- The first send of the first referral fails without being broadcast, and the second referral
reserves the same nonce. The process crashes between its transfer and the record of it. -/
def crashedTick : List (Move Unit Unit Choice) :=
  tickMoves (rowStart ++ freshSend ++ [.fails "timeout", stmt] ++ rowStart ++ freshSend ++ [rpc]) ++
    [.crash, .drift .mine]

/-- The first referral takes over the transfer of the second, which is then paid again. -/
def resumedTick : List (Move Unit Unit Choice) :=
  tickMoves (rowStart ++ [rpc, rpc, stmt, stmt] ++ freshSend ++ [rpc, stmt] ++ [stmt, stmt] ++
    rowStart ++ [rpc, rpc, stmt] ++ freshSend ++ [rpc])

/-- One leg is recorded and never paid, another one is paid twice. -/
theorem leg_paid_twice : ∃ c, sampleStart.Fresh ∧
    (runtime sampleOptions).Reach Free sampleStart c ∧
      ((c.world.referrals.get 1).any (·.new.tx.isSome) = true ∧
        ∀ tx ∈ c.world.accepted, (tx.newAgentId, tx.leg) ≠ (1, .new)) ∧
      (c.world.accepted.map fun tx => (tx.newAgentId, tx.leg)).count (2, .new) = 2 := by
  let c := ((runtime sampleOptions).run Free sampleStart (crashedTick ++ resumedTick)).get
    (by decide +kernel)
  exact ⟨c, fresh_sampleStart, reach_of_run _ (Option.some_get _).symm, by decide +kernel,
    by decide +kernel⟩

end Ferminux.Gateway.Referral
