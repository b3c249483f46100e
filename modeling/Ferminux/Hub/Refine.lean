import Ferminux.Hub.Change

/-!
# Hub.Refine

**Every function of the contract is a sequence of changes of the books.** A function that pays
nobody makes `Changes`; one that pays makes a `Payout`, hands control to the receiver, and reports
behind it. So whenever somebody else has control, the books have come there by steps from those of
a new hub, and the balance is what the hub owes together with the FMX that was forced on it.
-/

open Function (update_idem update_self)

namespace Ferminux.Hub

open Lib Relation Books ReflTransGen

variable {H : Type}

/-! ### Rules for the storage -/

variable {seatId : Nat}

section Rules

variable {α : Type} {R : Unit → Store H → Prop} {s : Store H} {p : Prop}

@[simp] lemma post_book {f : Books H → Books H} :
    Post (book f) R s ↔ R () { s with toBooks := f s.toBooks } := post_modify

@[simp] lemma post_modifySeat {f : Seat → Seat} :
    Post (modifySeat seatId f) R s ↔ R () { s with seats := s.withSeat seatId f } :=
  post_book

@[simp] lemma post_modifyKey {key : Address} {f : KeyInfo → KeyInfo} : Post (modifyKey key f) R s ↔
      R () { s with keys := Function.update s.keys key (f (s.keys key)) } :=
  post_book

@[simp] lemma post_emit {m : Context} {e : Event H} :
    Post (emit m e) R s ↔ R () { s with log := (m.number, e) :: s.log } := post_book

@[simp] lemma post_doIf [Decidable p] {body : HubM H Unit} :
    Post (doIf p body) R s ↔ (p → Post body R s) ∧ (¬ p → R () s) := by
  by_cases h : p <;> simp [doIf, h]

@[simp] lemma post_checkedSub {a b : Nat} {Q : Nat → Store H → Prop} :
    Post (liftM (checkedSub a b) : HubM H Nat) Q s ↔ (b ≤ a → Q (a - b) s) := by
  simp

@[simp] lemma post_onlyOwner {m : Context} :
    Post (onlyOwner m) R s ↔ (m.sender = s.owner → R () s) := by
  simp [onlyOwner]

@[simp] lemma post_ownedSeat {m : Context} {Q : Seat → Store H → Prop} :
    Post (ownedSeat m seatId) Q s ↔ ((s.seats seatId).owner = m.sender → Q (s.seats seatId) s) := by
  simp [ownedSeat]

@[simp] lemma post_discard {x : HubM H α} :
    Post (discard x) R s ↔ Post x (fun _ s' => R () s') s := post_map

end Rules

/-- The books have gone through changes only. -/
def Advances (K : Deployment H) (m : Context) (s s' : Store H) : Prop :=
  Changes K m.number s.toBooks s'.toBooks

/-- Any number of changes and receipts in one block. -/
abbrev Gains (K : Deployment H) (number : Nat) : Books H → Books H → Prop :=
  ReflTransGen fun b b' => Change K number b b' ∨ ∃ amount, Receipt number amount b b'

/-- The value of the call has been booked. -/
def Receives (K : Deployment H) (m : Context) (s s' : Store H) : Prop :=
  Gains K m.number s.toBooks s'.toBooks ∧ s'.toBooks.owed = s.toBooks.owed + m.value

variable {K : Deployment H} {m : Context} {s s' : Store H} {number : Nat} {b b' : Books H}
  {t : Store H} {paused : Bool} {param : Param} {value : Nat} {key : Address}

lemma Changes.owed (h : Changes K number b b') : b'.owed = b.owed := by
  induction h with
  | refl => rfl
  | tail _ hc ih => exact hc.owed.trans ih

lemma Changes.gains (h : Changes K number b b') : Gains K number b b' := h.lift id fun _ _ => .inl

lemma Gains.steps (h : Gains K number b b') : Steps K ⟨b, number⟩ ⟨b', number⟩ := by
  induction h with
  | refl => exact .refl
  | tail _ hstep ih =>
    rcases hstep with hc | ⟨amount, hr⟩
    · exact ih.tail (.change hc)
    · exact ih.tail (.receipt hr)

lemma Advances.receives (h : Advances K m s s') (hvalue : m.value = 0) : Receives K m s s' := by
  refine ⟨h.gains, ?_⟩
  rw [hvalue, h.owed, Nat.add_zero]

abbrev ByChanges {α : Type} (K : Deployment H) (m : Context) (x : HubM H α) (s : Store H) : Prop :=
  Post x (fun _ s' => Advances K m s s') s

/-! ### Money in -/

lemma post_fund : Post (fund m) (fun _ => Receives K m s) s := by
  simp only [fund, post_doIf, post_bind, post_book, post_emit]
  constructor
  · intro _
    have hr : Receipt m.number m.value s.toBooks (s.toBooks.funded m.number m.sender m.value) :=
      .fund m.sender m.value
    exact ⟨.single (.inr ⟨_, hr⟩), hr.owed⟩
  · intro hvalue
    have hadv : Advances K m s s := refl
    exact hadv.receives (not_not.mp hvalue)

/-! ### The owner -/

lemma post_setSeatsPaused : ByChanges K m (setSeatsPaused m paused) s := by
  simp only [setSeatsPaused, post_steps, post_onlyOwner, post_emit]
  exact fun _ => .single (.rest _ rfl)

lemma post_setAttestationsPaused : ByChanges K m (setAttestationsPaused m paused) s := by
  simp only [setAttestationsPaused, post_steps, post_onlyOwner, post_book, post_emit]
  exact fun _ => .single (.pause paused)

lemma post_closeCommunitySeats : ByChanges K m (closeCommunitySeats m) s := by
  simp only [closeCommunitySeats, post_steps, post_onlyOwner, post_emit]
  exact fun _ => .single (.rest _ rfl)

lemma post_setAllowed (allowed : Bool) (account : Address) :
    ByChanges K m (setAllowed m allowed account) s := by
  simp only [setAllowed, post_steps, post_doIf, post_emit]
  exact fun _ => ⟨fun _ => .single (.rest _ rfl), fun _ => .refl⟩

lemma post_allowAll (accounts : List Address) (allowed : Bool) :
    ByChanges K m (accounts.forM (setAllowed m allowed)) s := by
  induction accounts generalizing s with
  | nil => exact post_pure.mpr .refl
  | cons account _ ih =>
    have hfirst := post_setAllowed (K := K) (m := m) (s := s) allowed account
    refine post_bind.mpr (hfirst.mono fun _ s1 h1 => ?_)
    exact ih.mono fun _ s2 h2 => h1.trans h2

lemma post_setAllowlist {accounts : List Address} {allowed : Bool} :
    ByChanges K m (setAllowlist m accounts allowed) s := by
  simp only [setAllowlist, post_steps, post_onlyOwner]
  exact fun _ _ => post_allowAll accounts allowed

lemma post_transferOwnership (newOwner : Address) :
    ByChanges K m (transferOwnership m newOwner) s := by
  simp only [transferOwnership, post_steps, post_onlyOwner, post_emit]
  exact fun _ _ => .single (.rest _ rfl)

lemma post_acceptOwnership : ByChanges K m (acceptOwnership m) s := by
  simp only [acceptOwnership, post_steps, post_emit]
  exact fun _ => .single (.rest _ rfl)

lemma post_queueParam [DecidableEq H] : ByChanges K m (queueParam K m param value) s := by
  simp only [queueParam, post_steps, post_onlyOwner, post_emit]
  exact fun _ _ _ => .single (.rest _ rfl)

lemma post_cancelParam [DecidableEq H] : ByChanges K m (cancelParam K m param value) s := by
  simp only [cancelParam, post_steps, post_onlyOwner, post_emit]
  exact fun _ _ => .single (.rest _ rfl)

lemma post_writeParam (hvalid : validParam K s m.number param value) :
    ByChanges K m (writeParam m value param >>= fun _ => emit m (.ParamApplied param value)) s := by
  cases param with
  | P_MAX_SEATS =>
    simp only [writeParam, post_bind, post_book, post_emit]
    exact .single (.setMaxSeats (fun h => hvalid.1 (.inl h))
      (not_lt.mp fun h => hvalid.1 (.inr (.inr h))))
  | P_REWARD_PER_ATTEST =>
    simp only [writeParam, post_bind, post_book, post_emit]
    exact .single (.setReward value)
  | P_ACTIVATIONS_PER_DAY =>
    simp only [writeParam, post_bind, post_book, post_emit]
    exact .single (.setActivations value)
  | P_OPEN_SEATS_BLOCK =>
    simp only [writeParam, post_bind, post_book, post_emit]
    exact .single (.setOpenSeats hvalid.1 hvalid.2.2.2)
  | P_OPEN_COMMUNITY_SEATS | P_OPEN_TO_ALL =>
    simp only [writeParam, post_steps, post_emit]
    exact .tail (.single (.rest _ rfl)) (.rest _ rfl)
  | P_DENY | P_ALLOW | unknown code =>
    simp only [writeParam, writeParam.deny, post_steps, post_emit]
    exact .tail (.single (.rest _ rfl)) (.rest _ rfl)

lemma post_applyParam [DecidableEq H] : ByChanges K m (applyParam K m param value) s := by
  simp only [applyParam, post_steps, post_onlyOwner]
  intro _ _ _ hvalid
  exact post_bind.mp (post_writeParam hvalid)

/-! ### Opening a seat, and its keys -/

lemma post_storeEnode (seatId : Nat) (seatOwner attester : Address) (pubkey sig : Bytes) :
    ByChanges K m (storeEnode K m seatId seatOwner attester pubkey sig) s := by
  simp only [storeEnode, post_steps, post_emit]
  exact fun _ _ => .single (.rest _ rfl)

lemma post_storeEnode_opened (hm : m.sender ≠ 0) {attester : Address} (hattester : attester ≠ 0)
    (hunused : (s.keys attester).seatId = 0) (hroom : s.occupiedSeats < s.maxSeats)
    (hvalue : m.value = SEAT_DEPOSIT)
    (ht : t.toBooks = s.toBooks.opened m.number m.sender attester) (seatId : Nat)
    (pubkey sig : Bytes) :
    Post (storeEnode K m seatId m.sender attester pubkey sig) (fun _ => Receives K m s) t := by
  have hr : Receipt m.number SEAT_DEPOSIT s.toBooks t.toBooks := by
    rw [ht]
    exact .openSeat hm hattester hunused hroom
  refine (post_storeEnode (K := K) _ _ _ _ _).mono fun _ s' hadv => ?_
  refine ⟨(single (.inr ⟨_, hr⟩)).trans hadv.gains, ?_⟩
  rw [hadv.owed, hvalue, hr.owed]

lemma post_openSeat (hm : m.sender ≠ 0) (attester : Address)
    (attesterSig enodePubkey enodeSig : Bytes) :
    Post (openSeat K m attester attesterSig enodePubkey enodeSig)
      (fun _ => Receives K m s) s := by
  simp only [openSeat, checkAttester, post_steps, post_book, post_emit]
  intro _ hvalue _ _ hroom hkey hunused _
  exact post_storeEnode_opened hm hkey.1 hunused hroom hvalue rfl _ _ _

lemma post_setEnode {enodePubkey enodeSig : Bytes} :
    ByChanges K m (setEnode K m seatId enodePubkey enodeSig) s := by
  simp only [setEnode, post_steps, post_ownedSeat]
  exact fun _ _ => post_storeEnode _ _ _ _ _

lemma post_rotateAttester {newAttester : Address} {attesterSig : Bytes} :
    ByChanges K m (rotateAttester K m seatId newAttester attesterSig) s := by
  simp only [rotateAttester, checkAttester, retire, post_steps, post_ownedSeat, post_modifyKey,
    post_doIf, post_modifySeat, post_emit]
  intro _ hbonded hkey hunused _
  exact ⟨fun _ => .single (.rotate hbonded hkey.1 hunused),
    fun _ => .single (.rotate hbonded hkey.1 hunused)⟩

lemma post_applyAttesterRotation : ByChanges K m (applyAttesterRotation m seatId) s := by
  simp only [applyAttesterRotation, retire, post_steps, post_modifyKey, post_modifySeat, post_emit]
  exact fun hnext _ => .single (.applyRotation hnext.2 hnext.1)

lemma post_setRewardTo (hm : m.sender ≠ 0) (seatId : Nat) (payee : Address) :
    ByChanges K m (setRewardTo m seatId payee) s := by
  simp only [setRewardTo, post_steps, post_ownedSeat, post_modifySeat, post_doIf, post_emit]
  intro howner
  exact ⟨fun _ => .single (.setPayee payee (howner.trans_ne hm)),
    fun _ => .single (.setPayee payee (howner.trans_ne hm))⟩

lemma post_setSigningKey {pop : Bytes} : ByChanges K m (setSigningKey K m seatId key pop) s := by
  simp only [setSigningKey, retire, post_steps, post_ownedSeat, post_doIf, post_modifyKey,
    post_modifySeat, post_emit]
  intro _ hseat hkey hunused _
  have hc : Change K m.number s.toBooks (s.toBooks.signingKeySet m.number seatId key) :=
    .setSigningKey hseat.1 hseat.2 hkey.1 hunused
  constructor
  · intro hold
    simp only [signingKeySet, withoutSigning, if_neg hold] at hc
    exact .single hc
  · intro hold
    simp only [signingKeySet, withoutSigning, if_pos (not_not.mp hold)] at hc
    exact .single hc

/-! ### The eligible count and the candidate list -/

/-- The books with a seat out of the eligible count. -/
def Books.uncounted (b : Books H) (seatId : Nat) : Books H :=
  { b with
    seats := b.withSeat seatId fun x => { x with countedSince := 0 }
    eligibleCount := b.eligibleCount - b.weight seatId }

variable {b : Books H} {R : Unit → Store H → Prop} {steps : Nat}
  {kind : Kind} {height : Nat} {sigA sigB : Bytes}

lemma Books.uncounted_of_eq (h : (b.seats seatId).countedSince = 0) : b.uncounted seatId = b := by
  have hseats : b.withSeat seatId (fun x => { x with countedSince := 0 }) = b.seats := by
    rw [withSeat, ← h, Function.update_eq_self]
  rw [uncounted, hseats, weight, if_pos h]
  rfl

lemma post_uncountSeat (h : R () { s with toBooks := s.toBooks.uncounted seatId }) :
    Post (uncountSeat seatId) R s := by
  simp only [uncountSeat, post_steps, post_doIf, post_modifySeat, post_checkedSub, post_book]
  constructor
  · intro hcounted _
    simpa only [uncounted, weight, if_neg hcounted] using h
  · intro hcounted
    rwa [uncounted_of_eq (not_not.mp hcounted)] at h

lemma post_disqualifySeat (hlisted : (s.seats seatId).qualified = true → ∀ t : Settings H,
      R () ⟨s.toBooks.delisted m.number seatId, t⟩)
    (hfree : (s.seats seatId).qualified = false → R () s) : Post (disqualifySeat m seatId) R s := by
  simp only [disqualifySeat, post_steps, post_doIf, post_checkedSub, post_book, post_modifySeat,
    post_emit]
  constructor
  · exact fun hqualified _ _ _ => hlisted hqualified _
  · exact fun hqualified => hfree (Bool.eq_false_of_not_eq_true hqualified)

lemma Books.jailed_delisted (b : Books H) (number seatId hits : Nat) :
    (b.delisted number seatId).jailed number seatId hits =
      let b' := ({ b with
        seats := b.withSeat seatId fun x =>
          { x with jailed := true, unjailBlock := number + UNJAIL_DELAY } }.uncounted
            seatId).delisted number seatId
      { b' with log := (number, .Jailed seatId hits JAIL_WINDOW (number + UNJAIL_DELAY)) :: b'.log } := by
  simp only [jailed, delisted, uncounted, withSeat, weight, update_self,
    update_idem]
  rfl

lemma active_of_covered {window : Nat} (h : (participationCheck b number seatId window).1 = true) :
    (b.seats seatId).activationBlock ≤ number := by
  by_contra hlt
  rw [participationCheck, if_pos (not_le.mp hlt)] at h
  cases h

lemma post_jail : ByChanges K m (jail m seatId) s := by
  simp only [jail, post_steps, post_modifySeat]
  intro _ hseat hbelow
  have hactive := active_of_covered hbelow.1
  refine post_uncountSeat (post_disqualifySeat (fun hq t => ?_) (fun hq => ?_))
  · rw [post_emit]
    have hq' : (s.seats seatId).qualified = true := by
      simpa only [uncounted, withSeat_self] using hq
    refine (single (.delist hq')).tail ?_
    rw [← jailed_delisted]
    refine .jail _ ?_ ?_ ?_ ?_ <;> simp only [delisted, withSeat_self]
    exacts [hseat.1, hseat.2, hactive]
  · rw [post_emit]
    have hq' : (s.seats seatId).qualified = false := by
      simpa only [uncounted, withSeat_self] using hq
    have hc : Change K m.number s.toBooks (s.toBooks.jailed m.number seatId
        (participationCheck s.toBooks m.number seatId JAIL_WINDOW).2) :=
      .jail _ hseat.1 hseat.2 hq' hactive
    refine .single ?_
    simpa only [jailed, uncounted, withSeat, weight, update_self, update_idem] using hc

lemma post_unjail : ByChanges K m (unjail m seatId) s := by
  simp only [unjail, post_steps, post_ownedSeat, post_modifySeat, post_doIf, post_book, post_emit]
  rintro _ ⟨hjailed, hbonded⟩ _
  refine ⟨fun heligible => ?_, fun hearly => ?_⟩
  · by_cases hcount : (s.seats seatId).countedSince = 0
    · have hc : Change K m.number s.toBooks (s.toBooks.unjailedCounted m.number seatId) :=
        .unjailCount hbonded hjailed heligible hcount
      refine .single ?_
      simpa only [Books.unjailedCounted, Books.countSeat, Books.setSeat, Books.emit, Books.withSeat,
        update_self, update_idem, hcount, ne_eq, not_true_eq_false,
        if_false] using hc
    · have hc : Change K m.number s.toBooks (s.toBooks.unjailed m.number seatId) :=
        .unjail hbonded hjailed fun _ => hcount
      refine .single ?_
      simpa only [unjailed, countSeat, withSeat, update_self, hcount,
        ne_eq, not_false_eq_true, if_true] using hc
  · exact .single (.unjail hbonded hjailed fun heligible => absurd heligible hearly)

lemma post_qualify : ByChanges K m (qualify m seatId) s := by
  simp only [qualify, post_steps, post_book, post_modifySeat, post_emit]
  rintro ⟨hbonded, hjailed, hqualified, hslash, hkey, _, hroom⟩ _
  exact .single (.list hbonded hjailed hqualified hslash hkey hroom)

lemma post_disqualify : ByChanges K m (disqualify m seatId) s := by
  have hlast : ByChanges K m (disqualifySeat m seatId) s :=
    post_disqualifySeat (fun hq _ => .single (.delist hq)) fun _ => .refl
  simp only [disqualify, post_steps, post_doIf]
  exact fun _ => ⟨fun _ _ _ => hlast, fun _ => hlast⟩

/-! ### The cursor -/

lemma Books.passSeat_change (hcursor : b.eligCursor ≤ b.seatCount)
    (heligible : (b.seats b.eligCursor).activationBlock + ELIGIBILITY_DELAY ≤ number) :
    Change K number b (b.passSeat number) := by
  by_cases hlive : (b.seats b.eligCursor).status = .BONDED ∧ (b.seats b.eligCursor).jailed = false
  · by_cases hcount : (b.seats b.eligCursor).countedSince = 0
    · have hc : Change K number b (b.counted number) :=
        .count hcursor heligible hlive.1 hlive.2 hcount
      simpa only [counted, passSeat, if_pos hlive, countSeat, hcount, ne_eq,
        not_true_eq_false, if_false, setSeat, emit, withSeat] using hc
    · have hc : Change K number b b.passed := .pass hcursor heligible fun _ _ => hcount
      simpa only [passed, passSeat, if_pos hlive, countSeat, hcount, ne_eq,
        not_false_eq_true, if_true] using hc
  · have hc : Change K number b b.passed :=
      .pass hcursor heligible fun hb hj => absurd ⟨hb, hj⟩ hlive
    simpa only [passed, passSeat, if_neg hlive] using hc

lemma Books.passSeat_seatCount (b : Books H) (number : Nat) :
    (b.passSeat number).seatCount = b.seatCount ∧
      (b.passSeat number).eligCursor = b.eligCursor + 1 := by
  refine ⟨?_, rfl⟩
  simp only [passSeat, countSeat]
  split
  · split <;> rfl
  · rfl

lemma Books.walk_changes
    (h : b.eligCursor + steps ≤ b.seatCount + 1) : Changes K number b (b.walk number steps) := by
  induction steps generalizing b with
  | zero => exact .refl
  | succ steps ih =>
    rw [walk]
    split
    · exact .refl
    · rename_i heligible
      obtain ⟨hcount, hcursor⟩ := b.passSeat_seatCount number
      refine .head (passSeat_change (by omega) (not_lt.mp heligible)) (ih ?_)
      omega

lemma Books.walk_synced
    (h : b.seatCount + 1 ≤ b.eligCursor + steps) : (b.walk number steps).Synced number := by
  induction steps generalizing b with
  | zero => exact .inl h
  | succ steps ih =>
    rw [walk]
    split
    · rename_i hearly
      exact .inr hearly
    · obtain ⟨hcount, hcursor⟩ := b.passSeat_seatCount number
      exact ih (by omega)

lemma post_syncAll :
    Post (syncAll m) (fun _ s' => Advances K m s s' ∧ s'.toBooks.Synced m.number) s := by
  rw [syncAll, post_book]
  refine ⟨?_, walk_synced (by omega)⟩
  by_cases h : s.eligCursor ≤ s.seatCount + 1
  · exact walk_changes (by omega)
  · have h0 : s.seatCount + 1 - s.eligCursor = 0 := by omega
    rw [h0]
    exact .refl

lemma post_syncSeats (maxSteps : Nat) : ByChanges K m (syncSeats m maxSteps) s := by
  rw [syncSeats, ByChanges, post_book]
  by_cases h : s.eligCursor ≤ s.seatCount + 1
  · exact walk_changes (by omega)
  · have h0 : min maxSteps (s.seatCount + 1 - s.eligCursor) = 0 := by omega
    rw [h0]
    exact .refl

/-! ### Exit and slash -/

/-- The books with a seat off the candidate list and in its unbond. -/
def Books.ejected (b : Books H) (number seatId : Nat) : Books H :=
  if (b.seats seatId).qualified = true then (b.delisted number seatId).exited number seatId
  else b.exited number seatId

lemma Books.ejected_changes (hbonded : (b.seats seatId).status = .BONDED) :
    Changes K number b (b.ejected number seatId) := by
  by_cases hq : (b.seats seatId).qualified = true
  · rw [ejected, if_pos hq]
    refine (single (.delist hq)).tail (.exit ?_ ?_) <;>
      simp [delisted, withSeat_self]
    exact hbonded
  · rw [ejected, if_neg hq]
    exact .single (.exit hbonded (Bool.eq_false_of_not_eq_true hq))

lemma post_eject (h : ∀ t : Settings H, R () ⟨s.toBooks.ejected m.number seatId, t⟩) :
    Post (eject m seatId) R s := by
  simp only [eject, post_steps, post_modifySeat, post_checkedSub, post_book, post_modifyKey]
  intro _
  refine post_uncountSeat (post_disqualifySeat (fun hq t => ?_) fun hq => ?_)
  · rw [post_emit]
    have hq' : (s.seats seatId).qualified = true := by
      simpa only [uncounted, withSeat_self] using hq
    have ht := h t
    rw [ejected, if_pos hq'] at ht
    simpa only [exited, delisted, removeKey, uncounted, withSeat,
      without, weight, update_self, update_idem] using ht
  · rw [post_emit]
    have hq' : ¬ (s.seats seatId).qualified = true := by
      simpa only [uncounted, withSeat_self, Bool.not_eq_true] using hq
    have ht := h s.toSettings
    rw [ejected, if_neg hq'] at ht
    simpa only [exited, uncounted, withSeat, without, weight, update_self, update_idem] using ht

lemma post_requestExit : ByChanges K m (requestExit m seatId) s := by
  simp only [requestExit, post_steps, post_ownedSeat]
  exact fun _ hbonded => post_eject fun _ => ejected_changes hbonded

lemma Books.without_apply (b : Books H) (banned key : Address) :
    b.without banned key = if key = banned then { b.keys key with active := false } else b.keys key := by
  by_cases h : key = banned
  · rw [without, if_pos h, h, update_self]
  · rw [without, if_neg h, Function.update_of_ne h]

lemma Books.without_banned (b : Books H) (attester signing : Address) :
    { b with keys := { b with keys := b.without attester }.withoutSigning signing }.without attester =
      { b with keys := { b with keys := b.without attester }.without attester }.withoutSigning
        signing := by
  funext key
  by_cases hs : signing = 0
  · simp only [withoutSigning, if_pos hs]
  · simp only [withoutSigning, if_neg hs, without_apply]
    split_ifs <;> rfl

/-- The books with a slash of the seat on record and its keys banned. -/
def Books.recorded (b : Books H) (number seatId : Nat) (kind : Kind) (height sunset : Nat)
    (reporter : Address) : Books H :=
  { b.proposed number seatId kind height sunset reporter with log := b.log }

lemma Books.proposed_ejected (b : Books H) (number seatId : Nat) (kind : Kind)
    (height sunset : Nat) (reporter : Address) :
    (b.ejected number seatId).proposed number seatId kind height sunset reporter =
      let b' := (b.recorded number seatId kind height sunset reporter).ejected number seatId
      { b' with log := (number, .SlashProposed (b.slashCount + 1) seatId kind height reporter
          (b.slashAmount seatId) (number + SLASH_WINDOW)) :: b'.log } := by
  have hkeys := b.without_banned (b.seats seatId).attester (b.seats seatId).signingKey
  by_cases hq : (b.seats seatId).qualified = true
  · simp only [ejected, recorded, proposed, delisted, exited, removeKey, withSeat, slashAmount,
      weight, update_self, update_idem, if_pos hq]
    simp only [without, withoutSigning] at hkeys ⊢
    rw [hkeys]
  · simp only [ejected, recorded, proposed, exited, withSeat, slashAmount, weight,
      update_self, update_idem, if_neg hq]
    simp only [without, withoutSigning] at hkeys ⊢
    rw [hkeys]

lemma post_eject_recorded (sunset : Nat)
    (hstatus : (s.seats seatId).status = .BONDED ∨ (s.seats seatId).status = .EXITING)
    (hslash : (s.seats seatId).slashState = .SLASH_NONE)
    (ht : t.toBooks = s.toBooks.recorded m.number seatId kind height sunset m.sender) :
    Post (doIf ((s.seats seatId).status = .BONDED) (eject m seatId)) (fun _ u =>
      Changes K m.number s.toBooks { u.toBooks with
        log := (m.number, .SlashProposed (s.slashCount + 1) seatId kind height m.sender
          (s.toBooks.slashAmount seatId) (m.number + SLASH_WINDOW)) :: u.log }) t := by
  refine post_doIf.mpr ⟨fun hbonded => post_eject fun u => ?_, fun hbonded => ?_⟩
  · refine (ejected_changes hbonded).tail ?_
    have heq := s.toBooks.proposed_ejected m.number seatId kind height sunset m.sender
    simp only [ht]
    rw [← heq]
    refine .propose kind height sunset m.sender ?_ ?_ <;> unfold ejected <;> split <;>
      simp [exited, delisted, withSeat_self]
    exacts [hslash, hslash]
  · rw [ht]
    exact .single (.propose kind height sunset m.sender (hstatus.resolve_left hbonded) hslash)

lemma post_proposeSlash [DecidableEq H]
    {sunset : Nat} : ByChanges K m (proposeSlash K m key seatId kind height sunset) s := by
  simp only [proposeSlash, post_steps, post_book, post_modifySeat, post_modifyKey, post_emit]
  rintro _ _ ⟨hstatus, hslash⟩
  refine post_doIf.mpr ⟨fun hkey => ?_, fun hkey => ?_⟩
  · rw [post_modifyKey]
    refine post_eject_recorded sunset hstatus hslash ?_
    simp only [recorded, proposed, withoutSigning, if_neg hkey]
    rfl
  · refine post_eject_recorded sunset hstatus hslash ?_
    simp only [recorded, proposed, withoutSigning, if_pos (not_not.mp hkey)]
    rfl

lemma post_proveDoubleAttestation [DecidableEq H] {hashA : H} {hashB : H} :
    ByChanges K m (proveDoubleAttestation K m height hashA sigA hashB sigB) s := by
  simp only [proveDoubleAttestation, post_steps]
  exact fun _ _ _ => post_proposeSlash

lemma post_proveDoubleSeal [DecidableEq H] {preimageA preimageB : Bytes} :
    ByChanges K m (proveDoubleSeal K m preimageA sigA preimageB sigB) s := by
  simp only [proveDoubleSeal, post_steps]
  intro _
  refine post_lift.mpr fun _ _ => ?_
  exact fun _ _ _ => post_proposeSlash

lemma post_veto {slashId : Nat} : ByChanges K m (veto m slashId) s := by
  simp only [veto, post_steps, post_onlyOwner, post_book, post_emit, setSeat]
  exact fun _ hpending _ => .single (.veto hpending)

end Ferminux.Hub
