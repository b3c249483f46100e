import Ferminux.Hub.Solvency

/-!
# Hub.Custody

**Who can take what.** Deposits, claimable rewards and credits go down only in the functions that
pay them out, and each of those takes one seat's or one account's: a withdrawal or a claim what is
its caller's own, and an execution the amount of a slash that is due. Everything that pays holds
the lock, so nothing else goes down while the receiver's code runs (`host_keeps`).
-/

namespace Ferminux.Hub

open Lib Relation Lib.Prog Books Nat

variable {H : Type} {K : Deployment H} {b b₁ b' : Books H} {number amount : Nat} (seatId : Nat)
  {f : Function H} {E : Error → Prop}

/-- What `executeSlash` checks, and what it writes before the burn. -/
lemma post_bookSlash_slashed {m : Context} {s : Store H} (slashId : Nat) :
    Post (bookSlash m slashId) (fun _ s' => (s.slashes slashId).status = .SLASH_PENDING ∧
        (s.slashes slashId).executableBlock ≤ m.number ∧
        s'.toBooks = s.toBooks.slashed slashId ∧ s'.lock = s.lock) s := by
  simp only [bookSlash, post_steps, post_checkedSub, post_book, setSeat]
  exact fun hpending hdue _ _ => ⟨hpending, hdue, rfl, trivial⟩

attribute [local irreducible] withSeat

/-! ### What goes down -/

/-- Nothing goes down but the deposits of the seats in `D`, what the seats in `C` can claim and the
credits of the accounts in `R`. -/
structure Lowers (D C : Nat → Prop) (R : Address → Prop) (b b' : Books H) : Prop where
  count : b.seatCount ≤ b'.seatCount
  deposit : ∀ seatId, b.IsSeat seatId → ¬ D seatId →
    (b.seats seatId).deposit ≤ (b'.seats seatId).deposit
  claimable : ∀ seatId, b.IsSeat seatId → ¬ C seatId →
    (b.seats seatId).claimable ≤ (b'.seats seatId).claimable
  credit : ∀ account, ¬ R account → b.credits account ≤ b'.credits account

/-- Nothing goes down. -/
abbrev Kept : Books H → Books H → Prop := Lowers (fun _ => False) (fun _ => False) fun _ => False

namespace Lowers

variable {D C : Nat → Prop} {R : Address → Prop}

lemma kept (h : Lowers D C R b b₁) (h' : Kept b₁ b') : Lowers D C R b b' where
  count := h.count.trans h'.count
  deposit i hi hD := (h.deposit i hi hD).trans (h'.deposit i ⟨hi.1, hi.2.trans h.count⟩ id)
  claimable i hi hC := (h.claimable i hi hC).trans (h'.claimable i ⟨hi.1, hi.2.trans h.count⟩ id)
  credit a hR := (h.credit a hR).trans (h'.credit a id)

lemma refl (b : Books H) : Lowers D C R b b :=
  ⟨le_rfl, fun _ _ _ => le_rfl, fun _ _ _ => le_rfl, fun _ _ => le_rfl⟩

lemma frame (hseats : ∀ i, (b'.seats i).holdings = (b.seats i).holdings)
    (hcount : b'.seatCount = b.seatCount) (hcredits : b'.credits = b.credits) :
    Lowers D C R b b' := by
  simp only [Seat.holdings, Prod.mk.injEq] at hseats
  exact ⟨hcount.ge, fun i _ _ => (hseats i).1.ge, fun i _ _ => (hseats i).2.ge,
    fun a _ => by rw [hcredits]⟩

lemma reseat {seatId : Nat} {f : Seat → Seat} (hseats : b'.seats = b.withSeat seatId f)
    (hcount : b.seatCount ≤ b'.seatCount) (hdeposit : b.IsSeat seatId → ¬ D seatId →
      (b.seats seatId).deposit ≤ (f (b.seats seatId)).deposit)
    (hclaimable : b.IsSeat seatId → ¬ C seatId →
      (b.seats seatId).claimable ≤ (f (b.seats seatId)).claimable)
    (hcredit : ∀ account, ¬ R account → b.credits account ≤ b'.credits account) :
    Lowers D C R b b' where
  count := hcount
  deposit i hi hD := by
    rw [hseats]
    by_cases heq : i = seatId
    · subst heq
      rw [b.withSeat_self]
      exact hdeposit hi hD
    · rw [b.withSeat_of_ne heq]
  claimable i hi hC := by
    rw [hseats]
    by_cases heq : i = seatId
    · subst heq
      rw [b.withSeat_self]
      exact hclaimable hi hC
    · rw [b.withSeat_of_ne heq]
  credit := hcredit

end Lowers

lemma Change.kept (h : Change K number b b') : Kept b b' := by
  cases h with
  | attest =>
    exact .reseat rfl le_rfl (fun _ _ => le_rfl) (fun _ _ => le_add_right _ _) fun _ _ => le_rfl
  | _ => exact .frame (by intro; first | rfl | exact b.withSeat_same _ rfl _) rfl rfl

lemma Receipt.kept (h : Receipt number amount b b') : Kept b b' := by
  cases h with
  | openSeat =>
    -- a seat that was there keeps its number
    have hnew : ¬ b.IsSeat (b.seatCount + 1) := fun hin => not_succ_le_self _ hin.2
    exact .reseat rfl (le_succ _) (fun hin => absurd hin hnew) (fun hin => absurd hin hnew)
      fun _ _ => le_rfl
  | _ => exact .frame (fun _ => rfl) rfl rfl

lemma Gains.kept (h : Gains K number b b') : Kept b b' := by
  induction h with
  | refl => exact .refl _
  | tail _ hstep ih =>
    rcases hstep with hc | ⟨amount, hr⟩
    · exact ih.kept hc.kept
    · exact ih.kept hr.kept

/-! ### The lock -/

/-- The functions that hold the lock. -/
def Function.guarded : Function H → Bool
  | .returnExcess | .withdraw _ _ | .claim _ _ | .claimToAttester _ _ | .executeSlash _
  | .withdrawCredit _ | .flushBurn => true
  | _ => false

/-- The computation leaves the lock alone. -/
def LeavesLock {α : Type} (x : HubM H α) : Prop := ∀ s, Post x (fun _ s' => s'.lock = s.lock) s

/-- The computation takes nothing, and leaves the lock alone. -/
def Harmless (x : HubM H Unit) : Prop :=
  ∀ s, Post x (fun _ s' => Kept s.toBooks s'.toBooks ∧ s'.lock = s.lock) s

section Harmless

variable {m : Context} {α β : Type} (height : Nat) {x : HubM H α} {sigA sigB : Bytes}

lemma LeavesLock.bind {f : α → HubM H β} (hx : LeavesLock x)
    (hf : ∀ a, LeavesLock (f a)) : LeavesLock (x >>= f) := by
  intro s
  refine post_bind.mpr ((hx s).mono fun a s1 h1 => (hf a s1).mono fun _ s2 h2 => ?_)
  exact h2.trans h1

lemma LeavesLock.discard (hx : LeavesLock x) :
    LeavesLock (Functor.discard x : HubM H Unit) := fun s => post_discard.mpr (hx s)

lemma leavesLock_setAllowlist {accounts : List Address} {allowed : Bool} :
    LeavesLock (setAllowlist m accounts allowed : HubM H Unit) := by
  have hall : LeavesLock (accounts.forM (setAllowed m allowed) : HubM H Unit) := by
    induction accounts with
    | nil => exact fun s => post_pure.mpr rfl
    | cons _ _ ih =>
      refine .bind (fun s => ?_) fun _ => ih
      simp [setAllowed]
  intro s
  simp only [setAllowlist, post_steps, post_onlyOwner]
  exact fun _ _ => hall s

lemma leavesLock_applyParam [DecidableEq H] {param : Param} {value : Nat} :
    LeavesLock (applyParam K m param value) := by
  intro s
  simp only [applyParam, post_steps, post_onlyOwner]
  intro _ _ _ _
  cases param <;> simp [writeParam, writeParam.deny]

lemma leavesLock_uncountSeat : LeavesLock (uncountSeat seatId : HubM H Unit) := by
  intro s
  simp [uncountSeat]

lemma leavesLock_disqualifySeat : LeavesLock (disqualifySeat m seatId : HubM H Unit) := by
  intro s
  simp only [disqualifySeat, post_steps, post_doIf, post_checkedSub, post_book, post_modifySeat,
    post_emit]
  exact ⟨fun _ _ _ _ => trivial, fun _ => trivial⟩

lemma leavesLock_eject : LeavesLock (eject m seatId : HubM H Unit) := by
  refine .bind (fun s => post_modifySeat.mpr rfl) fun _ => ?_
  refine .bind (fun s => post_get.mpr rfl) fun s => ?_
  refine .bind (fun s => post_checkedSub.mpr fun _ => rfl) fun _ => ?_
  refine .bind (fun s => post_book.mpr rfl) fun _ => ?_
  refine .bind (fun s => post_modifyKey.mpr rfl) fun _ => ?_
  refine (leavesLock_uncountSeat seatId).bind fun _ => ?_
  refine (leavesLock_disqualifySeat seatId).bind fun _ => ?_
  exact fun s => post_emit.mpr rfl

lemma leavesLock_jail : LeavesLock (jail m seatId : HubM H Unit) := by
  refine .bind (fun s => post_get.mpr rfl) fun s => ?_
  refine .bind (fun s => post_require.mpr fun _ => rfl) fun _ => ?_
  refine .bind (fun s => post_require.mpr fun _ => rfl) fun _ => ?_
  refine .bind (fun s => post_require.mpr fun _ => rfl) fun _ => ?_
  refine .bind (fun s => post_modifySeat.mpr rfl) fun _ => ?_
  refine (leavesLock_uncountSeat seatId).bind fun _ => ?_
  refine (leavesLock_disqualifySeat seatId).bind fun _ => ?_
  exact fun s => post_emit.mpr rfl

lemma leavesLock_proposeSlash [DecidableEq H] {key : Address} {seatId : Nat} {kind : Kind}
    {height sunset : Nat} : LeavesLock (proposeSlash K m key seatId kind height sunset) := by
  intro s
  simp only [proposeSlash, post_steps, post_book, post_modifySeat, post_modifyKey, post_doIf,
    post_emit]
  intro _ _ _
  refine ⟨fun _ => ⟨fun _ => ?_, fun _ => trivial⟩, fun _ => ⟨fun _ => ?_, fun _ => trivial⟩⟩ <;>
    exact (leavesLock_eject seatId _).mono fun _ _ h => h

lemma leavesLock_proveDoubleAttestation [DecidableEq H] {hashA : H} {hashB : H} :
    LeavesLock (proveDoubleAttestation K m height hashA sigA hashB sigB) := by
  intro s
  simp only [proveDoubleAttestation, post_steps]
  exact fun _ _ _ => leavesLock_proposeSlash s

lemma leavesLock_proveDoubleSeal [DecidableEq H] {preimageA preimageB : Bytes} :
    LeavesLock (proveDoubleSeal K m preimageA sigA preimageB sigB) := by
  intro s
  simp only [proveDoubleSeal, post_steps]
  intro _
  refine post_lift.mpr ?_
  intro r _ _ _ _
  exact leavesLock_proposeSlash s

section Batches

variable {blockHash : H}

lemma leavesLock_attestOne (batch : Batch H) (sig : Bytes) :
    LeavesLock (attestOne K m batch blockHash sig) := by
  intro s
  simp only [attestOne, post_steps]
  split <;> simp

lemma leavesLock_attestAll [DecidableEq H] [Zero H] {sigs : List Bytes} (accepted : Nat)
    (batch : Batch H) : LeavesLock (attestAll K m blockHash sigs accepted batch) := by
  induction sigs generalizing accepted batch with
  | nil => exact fun s => post_pure.mpr rfl
  | cons sig _ ih =>
    refine (leavesLock_attestOne batch sig).bind fun r => ?_
    obtain ⟨code | seatId, batch'⟩ := r
    · exact ih accepted batch'
    · exact ih (accepted + 1) batch'

lemma leavesLock_closeBatch (batch : Batch H) :
    LeavesLock (closeBatch m batch blockHash : HubM H Unit) := by
  intro s
  simp [closeBatch, certify]

variable [DecidableEq H] [Zero H]

lemma leavesLock_openBatch : LeavesLock (openBatch K m height blockHash) := by
  intro s
  simp [openBatch, syncAll]

lemma leavesLock_attest {sig : Bytes} : LeavesLock (attest K m height blockHash sig) := by
  refine (leavesLock_openBatch height).bind fun batch => ?_
  refine (leavesLock_attestOne batch sig).bind fun r => ?_
  obtain ⟨code | seatId, batch'⟩ := r
  · exact fun s => post_throw.mpr trivial
  · exact (leavesLock_closeBatch batch').bind fun _ s => post_pure.mpr rfl

lemma leavesLock_attestBatch {sigs : Bytes} :
    LeavesLock (attestBatch K m height blockHash sigs) := by
  refine .bind (fun s => post_require.mpr fun _ => rfl) fun _ => ?_
  refine (leavesLock_openBatch height).bind fun batch => ?_
  refine (leavesLock_attestAll 0 batch).bind fun r => ?_
  exact (leavesLock_closeBatch r.2).bind fun _ s => post_pure.mpr rfl

end Batches

lemma LeavesLock.receives {x : HubM H Unit} (hlock : LeavesLock x)
    (hx : ∀ s, Post x (fun _ => Receives K m s) s) : Harmless x :=
  fun s u s' h => ⟨(hx s u s' h).1.kept, hlock s u s' h⟩

lemma LeavesLock.advances {x : HubM H Unit} (hlock : LeavesLock x)
    (hx : ∀ s, Post x (fun _ => Advances K m s) s) : Harmless x :=
  fun s u s' h => ⟨(Changes.gains (hx s u s' h)).kept, hlock s u s' h⟩

variable [DecidableEq H] [Zero H]

lemma harmless_body (hsender : m.sender ≠ 0) (hf : f.guarded = false) :
    ∃ x, K.body m f = segment x ∧ Harmless x := by
  have hadvances {x : HubM H Unit} (hlock : LeavesLock x)
      (hx : ∀ s, Post x (fun _ => Advances K m s) s) :
      ∃ y, segment x = segment y ∧ Harmless y :=
    ⟨x, rfl, hlock.advances hx⟩
  cases f with
  | fund => exact ⟨_, rfl, LeavesLock.receives (K := K) (fun s => by simp [fund]) fun _ => post_fund⟩
  | receive =>
    exact ⟨_, rfl, LeavesLock.receives (K := K) (fun s => by simp [fund]) fun _ => post_fund⟩
  | openSeat =>
    refine ⟨_, rfl, LeavesLock.receives (K := K) (LeavesLock.discard fun s => ?_) fun _ =>
      post_discard.mpr (post_openSeat hsender _ _ _ _)⟩
    simp [openSeat, checkAttester, storeEnode]
  | setEnode =>
    refine hadvances (fun s => ?_) fun _ => post_setEnode
    simp [setEnode, storeEnode]
  | rotateAttester =>
    refine hadvances (fun s => ?_) fun _ => post_rotateAttester
    simp [rotateAttester, checkAttester, retire]
  | applyAttesterRotation =>
    refine hadvances (fun s => ?_) fun _ => post_applyAttesterRotation
    simp [applyAttesterRotation, retire]
  | setRewardTo =>
    refine hadvances (fun s => ?_) fun _ => post_setRewardTo hsender _ _
    simp [setRewardTo]
  | requestExit =>
    refine hadvances (fun s => ?_) fun _ => post_requestExit
    simp only [requestExit, post_steps, post_ownedSeat]
    exact fun _ _ => leavesLock_eject _ s
  | attest =>
    exact hadvances (leavesLock_attest _).discard fun _ => post_discard.mpr post_attest
  | attestBatch =>
    exact hadvances (leavesLock_attestBatch _).discard fun _ =>
      post_discard.mpr post_attestBatch
  | jail => exact hadvances (leavesLock_jail _) fun _ => post_jail
  | unjail =>
    refine hadvances (fun s => ?_) fun _ => post_unjail
    simp [unjail]
  | setSigningKey =>
    refine hadvances (fun s => ?_) fun _ => post_setSigningKey
    simp [setSigningKey, retire]
  | qualify =>
    refine hadvances (fun s => ?_) fun _ => post_qualify
    simp [qualify]
  | disqualify =>
    refine hadvances (fun s => ?_) fun _ => post_disqualify
    simp only [disqualify, post_steps, post_doIf]
    exact fun _ => ⟨fun _ _ _ => leavesLock_disqualifySeat _ s,
      fun _ => leavesLock_disqualifySeat _ s⟩
  | proveDoubleAttestation =>
    exact hadvances (leavesLock_proveDoubleAttestation _).discard fun _ =>
        post_discard.mpr post_proveDoubleAttestation
  | proveDoubleSeal =>
    exact hadvances leavesLock_proveDoubleSeal.discard
      fun _ => post_discard.mpr post_proveDoubleSeal
  | veto =>
    refine hadvances (fun s => ?_) fun _ => post_veto
    simp [veto]
  | sync =>
    refine hadvances (fun s => ?_) fun _ => post_syncSeats _
    simp [syncSeats]
  | setSeatsPaused =>
    refine hadvances (fun s => ?_) fun _ => post_setSeatsPaused
    simp [setSeatsPaused]
  | setAttestationsPaused =>
    refine hadvances (fun s => ?_) fun _ => post_setAttestationsPaused
    simp [setAttestationsPaused]
  | closeCommunitySeats =>
    refine hadvances (fun s => ?_) fun _ => post_closeCommunitySeats
    simp [closeCommunitySeats]
  | setAllowlist => exact hadvances leavesLock_setAllowlist fun _ => post_setAllowlist
  | queueParam =>
    refine hadvances (fun s => ?_) fun _ => post_queueParam
    simp [queueParam]
  | cancelParam =>
    refine hadvances (fun s => ?_) fun _ => post_cancelParam
    simp [cancelParam]
  | applyParam => exact hadvances leavesLock_applyParam fun _ => post_applyParam
  | transferOwnership =>
    refine hadvances (fun s => ?_) fun _ => post_transferOwnership _
    simp [transferOwnership]
  | acceptOwnership =>
    refine hadvances (fun s => ?_) fun _ => post_acceptOwnership
    simp [acceptOwnership]
  | returnExcess | withdraw | claim | claimToAttester | executeSlash | withdrawCredit | flushBurn =>
    cases hf

lemma guarded_body (m : Context) (hf : f.guarded = true) : ∃ p, K.body m f = nonReentrant p := by
  cases f with
  | returnExcess | withdraw | claim | claimToAttester | executeSlash | withdrawCredit | flushBurn =>
    exact ⟨_, rfl⟩
  | _ => cases hf

end Harmless

/-! ### Payments -/

/-- While the lock is held, it stays held and nothing is taken. -/
def Guarded (w w' : State H) : Prop :=
  w.store.lock ≠ 1 → w'.store.lock ≠ 1 ∧ Kept w.store.toBooks w'.store.toBooks

/-- The receivers of payments, when outsiders keep to the lock. -/
abbrev keepers (K : Deployment H) : Callee (Store H) Env Answer :=
  K.callee (Host.Keeps (fun _ => True) Guarded)

section Payments

variable {w : State H} {m : Context} {J : State H → Prop} {X : Callee (Store H) Env Answer}
  {Q : Unit → State H → Prop} {P : Books H → Prop}

lemma wp_nonReentrant_locked (h : w.store.lock ≠ 1) (body : Contract H Unit) :
    (nonReentrant body).Wp X J Q w := by
  rw [nonReentrant, wp_bind, wp_segment]
  simp only [enter, post_steps]
  exact fun hlock => absurd hlock h

lemma wp_pay_guarded (h : w.store.lock ≠ 1) (dest : Address) :
    (Prog.call (.call dest amount) : Contract H Bool).Wp (keepers K) (fun _ => True)
      (fun _ w' => Kept w.store.toBooks w'.store.toBooks) w := by
  refine wp_call.mpr ⟨fun _ _ => trivial, ?_⟩
  rintro ok w' (⟨-, -, ⟨-, hact⟩ | ⟨-, s, hfund, rfl⟩⟩ | ⟨-, rfl⟩)
  · exact ((hact trivial).2 h).2
  · exact (post_fund (K := K) () s hfund).1.kept
  · exact .refl _

lemma wp_send_guarded (h : w.store.lock ≠ 1) (dest : Address) :
    (send dest amount).Wp (keepers K) (fun _ => True)
      (fun _ w' => Kept w.store.toBooks w'.store.toBooks) w := by
  rw [send, wp_bind]
  refine (wp_pay_guarded h dest).mono fun ok w' hw' => ?_
  rw [wp_ite]
  refine ⟨fun _ => hw', fun _ => ?_⟩
  exact wp_segment.mpr (post_throw.mpr trivial)

lemma wp_payment_guarded {α : Type} {take : HubM H α}
    {amount : α → Nat} {dest : α → Address} {e : α → Event H}
    (htake : Post take (fun _ s' => P s'.toBooks ∧ s'.lock ≠ 1) w.store) : (do
      let r ← segment take
      send (dest r) (amount r)
      segment (emit m (e r))).Wp (keepers K) (fun _ => True)
        (fun _ w' => ∃ b, P b ∧ Kept b w'.store.toBooks) w := by
  rw [wp_bind, wp_segment]
  refine htake.mono fun r s1 h1 => ?_
  rw [wp_bind]
  refine (wp_send_guarded h1.2 _).mono fun _ w2 h2 => ?_
  refine wp_segment.mpr (post_emit.mpr ⟨s1.toBooks, h1.1, ?_⟩)
  exact h2.kept (.frame (fun _ => rfl) rfl rfl)

lemma wp_nonReentrant_takes {body : Contract H Unit}
    (hbody : body.Wp X J (fun _ w' => ∃ b, P b ∧ Kept b w'.store.toBooks)
      ⟨{ w.store with lock := 2 }, w.env⟩) :
    (nonReentrant body).Wp X J (fun _ w' => ∃ b, P b ∧ Kept b w'.store.toBooks) w := by
  rw [nonReentrant, wp_bind, wp_segment]
  simp only [enter, post_steps, wp_bind]
  refine fun _ => hbody.mono fun _ w' hw' => ?_
  exact wp_segment.mpr (post_modify.mpr hw')

end Payments

/-! ### Calls -/

/-- The call pays out the seat's deposit to its owner, or executes a slash of the seat that is
due. -/
def TakesDeposit (b : Books H) (m : Context) (f : Function H) (seatId : Nat) : Prop :=
  (∃ payee, f = .withdraw seatId payee ∧ (b.seats seatId).owner = m.sender) ∨
    ∃ slashId, f = .executeSlash slashId ∧ (b.slashes slashId).seatId = seatId ∧
      (b.slashes slashId).status = .SLASH_PENDING ∧ (b.slashes slashId).executableBlock ≤ m.number

/-- The call pays out rewards of a seat of the sender. -/
def TakesClaim (b : Books H) (m : Context) (f : Function H) (seatId : Nat) : Prop :=
  ((∃ payee, f = .claim seatId payee) ∨ ∃ amount, f = .claimToAttester seatId amount) ∧
    (b.seats seatId).owner = m.sender

/-- The call pays out the credits of the sender. -/
def TakesCredit (m : Context) (f : Function H) (account : Address) : Prop :=
  (∃ payee, f = .withdrawCredit payee) ∧ account = m.sender

/-- The call takes no more than it may. -/
abbrev Takes (m : Context) (f : Function H) (b b' : Books H) : Prop :=
  Lowers (TakesDeposit b m f) (TakesClaim b m f) (TakesCredit m f) b b'

section Calls

variable {w w' : State H} {m : Context} {s : Store H}

lemma takes_takeExcess :
    Post (takeExcess m) (fun _ s' => Takes m .returnExcess s.toBooks s'.toBooks ∧
      s'.lock = s.lock) s := by
  simp only [takeExcess, post_steps, post_book]
  exact fun _ => ⟨.frame (fun _ => rfl) rfl rfl, trivial⟩

lemma takes_takeDeposit (payee : Address) : Post (takeDeposit m seatId payee)
      (fun _ s' => Takes m (.withdraw seatId payee) s.toBooks s'.toBooks ∧ s'.lock = s.lock) s := by
  simp only [takeDeposit, post_steps, post_ownedSeat, post_modifySeat, post_checkedSub, post_book]
  intro howner _ _ _ _
  refine ⟨.reseat rfl le_rfl (fun _ hD => ?_) (fun _ _ => le_rfl) fun _ _ => le_rfl, trivial⟩
  exact absurd (.inl ⟨payee, rfl, howner⟩) hD

lemma takes_takeClaim {seatId : Nat} (hf : TakesClaim s.toBooks m f seatId) :
    Post (takeClaim seatId amount)
      (fun _ s' => Takes m f s.toBooks s'.toBooks ∧ s'.lock = s.lock) s := by
  simp only [takeClaim, post_steps, post_checkedSub, post_modifySeat, post_book]
  intro _ _ _
  refine ⟨.reseat rfl le_rfl (fun _ _ => le_rfl) (fun _ hC => absurd hf hC) fun _ _ => le_rfl, trivial⟩

lemma takes_takeCredit (payee : Address) : Post (takeCredit m payee)
      (fun _ s' => Takes m (.withdrawCredit payee) s.toBooks s'.toBooks ∧ s'.lock = s.lock) s := by
  simp only [takeCredit, post_steps, post_book, post_checkedSub]
  intro _ _ _
  refine ⟨⟨le_rfl, fun _ _ _ => le_rfl, fun _ _ _ => le_rfl, fun account hR => ?_⟩, trivial⟩
  have hne : account ≠ m.sender := fun heq => hR ⟨⟨payee, rfl⟩, heq⟩
  exact (Function.update_of_ne hne 0 s.credits).ge

lemma takes_takePendingBurn :
    Post takePendingBurn (fun _ s' => Takes m .flushBurn s.toBooks s'.toBooks ∧
      s'.lock = s.lock) s := by
  simp only [takePendingBurn, post_steps, post_book]
  exact fun _ => ⟨.frame (fun _ => rfl) rfl rfl, trivial⟩

lemma takes_bookSlash (slashId : Nat) : Post (bookSlash m slashId)
      (fun _ s' => Takes m (.executeSlash slashId) s.toBooks s'.toBooks ∧ s'.lock = s.lock) s := by
  refine (post_bookSlash_slashed slashId).mono ?_
  rintro x s' ⟨hpending, hdue, hbooks, hlock⟩
  refine ⟨?_, hlock⟩
  rw [hbooks]
  refine .reseat rfl le_rfl (fun _ hD => ?_) (fun _ _ => le_rfl) fun account _ => ?_
  · exact absurd (.inr ⟨slashId, rfl, rfl, hpending, hdue⟩) hD
  · -- the reporter gains
    simp only [slashed]
    by_cases heq : account = (s.slashes slashId).reporter
    · rw [heq, Function.update_self]
      exact le_add_right _ _
    · rw [Function.update_of_ne heq]

/-- **What a function that pays can take.** -/
theorem wp_takes (w : State H) [DecidableEq H] [Zero H] (hf : f.guarded = true) :
    (K.body m f).Wp (keepers K) (fun _ => True)
      (fun _ w' => ∃ b, Takes m f w.store.toBooks b ∧ Kept b w'.store.toBooks) w := by
  have hheld {α : Type} {x : HubM H α} (s : Store H) {P : Books H → Prop}
      (hx : Post x (fun _ s' => P s'.toBooks ∧ s'.lock = s.lock) s) (hlock : s.lock = 2) :
      Post x (fun _ s' => P s'.toBooks ∧ s'.lock ≠ 1) s :=
    hx.mono fun _ s' h => ⟨h.1, by rw [h.2, hlock]; decide⟩
  cases f with
  | returnExcess => exact wp_nonReentrant_takes (wp_payment_guarded (hheld _ takes_takeExcess rfl))
  | withdraw seatId payee =>
    exact wp_nonReentrant_takes (wp_payment_guarded (hheld _ (takes_takeDeposit seatId payee) rfl))
  | claim _ payee =>
    refine wp_nonReentrant_takes ?_
    simp only [wp_bind, wp_segment, post_steps, post_ownedSeat]
    intro howner _
    exact wp_payment_guarded (hheld _ (takes_takeClaim ⟨.inl ⟨payee, rfl⟩, howner⟩) rfl)
  | claimToAttester _ amount =>
    refine wp_nonReentrant_takes ?_
    simp only [wp_bind, wp_segment, post_steps, post_ownedSeat]
    intro howner _
    exact wp_payment_guarded (hheld _ (takes_takeClaim ⟨.inr ⟨amount, rfl⟩, howner⟩) rfl)
  | executeSlash slashId =>
    refine wp_nonReentrant_takes ?_
    rw [wp_bind, wp_segment]
    refine (hheld _ (takes_bookSlash slashId) rfl).mono fun x s1 h1 => ?_
    rw [wp_bind]
    refine (wp_pay_guarded h1.2 BURN_ADDRESS).mono fun ok w2 h2 => ?_
    rw [wp_segment]
    simp only [bookBurn, post_bind, post_book, post_emit]
    exact ⟨s1.toBooks, h1.1, h2.kept (.frame (fun _ => rfl) rfl rfl)⟩
  | withdrawCredit payee =>
    exact wp_nonReentrant_takes (wp_payment_guarded (hheld _ (takes_takeCredit payee) rfl))
  | flushBurn =>
    exact wp_nonReentrant_takes (wp_payment_guarded (hheld _ takes_takePendingBurn rfl))
  | _ => cases hf

end Calls

/-! ### Slashes that are executed -/

lemma fails_require {p : Prop} [Decidable p] {e : Error} {s : Store H} :
    Fails (liftM (require p e) : HubM H Unit) E s ↔ (¬ p → E e) := by
  by_cases h : p <;> simp [require, h]

lemma fails_checkedSub {x y : Nat} {s : Store H} :
    Fails (liftM (checkedSub x y) : HubM H Nat) E s ↔ (¬ y ≤ x → E .Panic) := by
  by_cases h : y ≤ x <;> simp [checkedSub, h]

lemma bookSlash_ne_panic {live : Nat → Option Nat} (hs : Slashing b live) (hb : Blank b)
    (hc : Conserved b) (m : Context) (slashId : Nat) (t : Settings H) :
    bookSlash m slashId ⟨b, t⟩ ≠ .error .Panic := by
  have hfails : Fails (bookSlash m slashId) (· ≠ .Panic) ⟨b, t⟩ := by
    simp only [bookSlash, fails_bind, fails_get, post_steps, fails_require, fails_checkedSub,
      post_checkedSub, book, fails_modify, fails_pure, true_and, and_true, ne_eq, reduceCtorEq,
      not_false_eq_true, implies_true]
    intro hpending _
    obtain ⟨-, hexiting, -, hwhole⟩ := hs.pending hpending
    have hamount : (b.slashes slashId).amount ≤ (b.seats (b.slashes slashId).seatId).deposit := by
      rw [hwhole]
      exact (hs.amount slashId).trans (by decide)
    have hbonded := b.le_sum (hb.isSeat_of_status hexiting (by decide)) Seat.deposit
    rw [← hc.bonded] at hbonded
    exact ⟨fun hlt => absurd hamount hlt, fun _ hlt => absurd (hamount.trans hbonded) hlt⟩
  exact fun herror => hfails _ herror rfl

namespace Deployment

variable [DecidableEq H] [Zero H] {w w' : State H} {m : Context} {f : Function H}

/-- **While the lock is held, nothing is taken**, whatever outsiders do. -/
theorem host_keeps (K : Deployment H) : K.host.Sound (fun _ => True) Guarded where
  refl w h := ⟨h, .refl _⟩
  trans h h' hlock := ⟨(h' (h hlock).1).1, (h hlock).2.kept (h' (h hlock).1).2⟩
  foreign := by
    rintro w w' ⟨s, e, n⟩ -
    exact ⟨trivial, fun h => ⟨h, .refl _⟩⟩
  entry := by
    rintro w p w0 - ⟨m, f, hadm, rfl, rfl⟩
    by_cases hlock : w.store.lock = 1
    · exact (wp_true _).mono fun _ w' _ => ⟨trivial, fun h => absurd hlock h⟩
    rw [run, wp_bind, wp_segment, post_require]
    intro _
    cases hf : f.guarded with
    | true =>
      obtain ⟨p, hp⟩ := guarded_body (K := K) m hf
      rw [hp]
      exact wp_nonReentrant_locked (w := arrive w m) hlock p
    | false =>
      obtain ⟨x, hx, hharmless⟩ := harmless_body (K := K) hadm.sender_ne_zero hf
      rw [hx, wp_segment]
      refine (hharmless _).mono fun _ s' h => ⟨trivial, fun _ => ⟨?_, h.1⟩⟩
      rw [h.2]
      exact hlock

/-- **A call takes no more than it may**, whatever runs in the middle of it. -/
theorem Calls.takes (h : K.Calls w m f w') : Takes m f w.store.toBooks w'.store.toBooks := by
  obtain ⟨hadm, hexec⟩ := h
  have hwp : (K.run m f).Wp (keepers K) (fun _ => True)
      (fun _ w' => Takes m f w.store.toBooks w'.store.toBooks) (arrive w m) := by
    rw [run, wp_bind, wp_segment, post_require]
    intro _
    cases hf : f.guarded with
    | true =>
      refine (wp_takes (arrive w m) hf).mono ?_
      rintro _ w' ⟨b, htakes, hkept⟩
      exact htakes.kept hkept
    | false =>
      obtain ⟨x, hx, hharmless⟩ := harmless_body (K := K) hadm.sender_ne_zero hf
      rw [hx, wp_segment]
      refine (hharmless _).mono fun _ s' h => ?_
      exact (Lowers.refl _).kept h.1
  exact hwp.exec (hexec.mono K.host_keeps.reentrant_le)

lemma not_calls_withdraw {seatId : Nat} {payee : Address}
    (h : (w.store.seats seatId).slashState = .SLASH_PENDING) :
    ¬ K.Calls w m (.withdraw seatId payee) w' := by
  intro hcalls
  refine hcalls.of_body ?_
  rw [body, Hub.withdraw, nonReentrant, wp_bind, wp_segment]
  simp only [enter, post_steps, wp_bind, wp_segment, takeDeposit, post_ownedSeat]
  exact fun _ _ _ _ hready => absurd h hready.2

/-- A deposit goes down only when its owner withdraws it or a slash that is due is executed, what a
seat can claim only when its owner claims it, and a credit only when its account withdraws it. -/
lemma Calls.lowers (h : K.Calls w m f w') (hb : Blank w.store.toBooks) :
    (∀ seatId, (w'.store.seats seatId).deposit < (w.store.seats seatId).deposit →
      TakesDeposit w.store.toBooks m f seatId) ∧
    (∀ seatId, (w'.store.seats seatId).claimable < (w.store.seats seatId).claimable →
      TakesClaim w.store.toBooks m f seatId) ∧
    ∀ account, w'.store.credits account < w.store.credits account → TakesCredit m f account := by
  have htakes := h.takes
  refine ⟨fun seatId hlt => ?_, fun seatId hlt => ?_, fun account hlt => ?_⟩ <;> by_contra hnot
  · have hin : w.store.toBooks.IsSeat seatId := hb.isSeat fun hblank => by simp [hblank] at hlt
    exact absurd (htakes.deposit seatId hin hnot) (not_le.mpr hlt)
  · have hin : w.store.toBooks.IsSeat seatId := hb.isSeat fun hblank => by simp [hblank] at hlt
    exact absurd (htakes.claimable seatId hin hnot) (not_le.mpr hlt)
  · exact absurd (htakes.credit account hnot) (not_le.mpr hlt)

/-- **The life of a slash.** A seat's slash is pending exactly when one pending record names it; the
seat is then in its unbond, and its deposit covers the amount, so that executing the slash does not
underflow, and the deposit cannot be withdrawn before. A seat has at most one executed slash, for
ever, of at most 200 FMX. What a call lowers is the caller's own, but for a slash that is due: no
power of the hub's owner takes a deposit, a reward or a credit. -/
theorem slash_life_cycle (K : Deployment H) (h : K.Moment w) :
    let b := w.store.toBooks
    (∀ seatId, (b.seats seatId).slashState = .SLASH_PENDING ↔
      ∃! slashId, (b.slashes slashId).status = .SLASH_PENDING ∧
        (b.slashes slashId).seatId = seatId) ∧
    (∀ slashId, (b.slashes slashId).status = .SLASH_PENDING →
      (b.seats (b.slashes slashId).seatId).status = .EXITING ∧
        (b.slashes slashId).amount ≤ (b.seats (b.slashes slashId).seatId).deposit) ∧
    (∀ m slashId t, bookSlash m slashId ⟨b, t⟩ ≠ .error .Panic) ∧
    (∀ seatId, (b.seats seatId).slashState = .SLASH_PENDING →
      ∀ m payee w', ¬ K.Calls w m (.withdraw seatId payee) w') ∧
    (∀ j k, (b.slashes j).status = .SLASH_EXECUTED → (b.slashes k).status = .SLASH_EXECUTED →
      (b.slashes j).seatId = (b.slashes k).seatId → j = k) ∧
    (∀ slashId, (b.slashes slashId).status = .SLASH_EXECUTED →
      (b.slashes slashId).amount ≤ 200 * 10 ^ 18 ∧
        ∀ w', K.Later w w' → w'.store.slashes slashId = b.slashes slashId) ∧
    (∀ seatId, (b.seats seatId).status = .BONDED ∨ (b.seats seatId).status = .EXITING →
      SEAT_DEPOSIT ≤ (b.seats seatId).deposit + 200 * 10 ^ 18) ∧
    ∀ m f w', K.Calls w m f w' →
      (∀ seatId, (w'.store.seats seatId).deposit < (b.seats seatId).deposit →
        TakesDeposit b m f seatId) ∧
      (∀ seatId, (w'.store.seats seatId).claimable < (b.seats seatId).claimable →
        TakesClaim b m f seatId) ∧
      ∀ account, w'.store.credits account < b.credits account → TakesCredit m f account := by
  obtain ⟨live, hs⟩ := h.reachable.slashing
  have hb := h.reachable.blank
  have hmax : MAX_SLASH = 200 * 10 ^ 18 := by decide
  refine ⟨hs.pending_iff, fun slashId hpending => ?_,
    bookSlash_ne_panic hs hb h.reachable.conserved, fun seatId hpending m payee w' =>
    not_calls_withdraw hpending, fun j k => hs.executed_unique, fun slashId hexecuted => ?_,
    fun seatId hstatus => hmax ▸ hs.deposit_ge hstatus, fun m f w' hc => hc.lowers hb⟩
  · obtain ⟨-, hexiting, -, hwhole⟩ := hs.pending hpending
    have hcovered : MAX_SLASH ≤ SEAT_DEPOSIT := by decide
    exact ⟨hexiting, ((hs.amount slashId).trans hcovered).trans hwhole.ge⟩
  · exact ⟨hmax ▸ hs.amount slashId, fun w' hlater =>
      h.reachable.executed (hlater.steps h) hexecuted⟩

/-- Key `51` of seat `1` has signed two hashes for height `200`. -/
def sampleProposed : State Digest :=
  ([sampleSeat 41 51, .call 61 0 (.proveDoubleAttestation 200 (.block 1) (sampleSignature 51)
    (.block 2) (sampleSignature 51))].foldlM sampleHub.perform sampleNew).get (by decide +kernel)

lemma sampleProposed_moment : sampleHub.Moment sampleProposed :=
  moment_of_perform sampleNew_deployed (Option.some_get _).symm

/-- The slash of seat `1` is pending, and its owner cannot withdraw. -/
theorem slash_life_cycle_proposed :
    (sampleProposed.store.slashes 1).status = .SLASH_PENDING ∧
    (sampleProposed.store.seats 1).status = .EXITING ∧
    (sampleProposed.store.slashes 1).amount ≤ (sampleProposed.store.seats 1).deposit ∧
    ∀ m payee w', ¬ sampleHub.Calls sampleProposed m (.withdraw 1 payee) w' := by
  obtain ⟨-, hpending, -, hwithdraw, -⟩ := slash_life_cycle sampleHub sampleProposed_moment
  have hslash : (sampleProposed.store.slashes 1).status = .SLASH_PENDING := by decide +kernel
  have hseat : (sampleProposed.store.slashes 1).seatId = 1 := by decide +kernel
  obtain ⟨hexiting, hamount⟩ := hpending 1 hslash
  rw [hseat] at hexiting hamount
  exact ⟨hslash, hexiting, hamount, hwithdraw 1 (by decide +kernel)⟩

end Deployment

end Ferminux.Hub
