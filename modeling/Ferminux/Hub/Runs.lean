import Ferminux.Hub.Batch

/-!
# Hub.Runs

From calls to runs. A function that pays writes its books first, and holds the amount until it is
paid (`Booked`); the receiver's code may do anything in between. The rely-guarantee rule then gives
what everything else is read off from: `Moment.reachable` and `Moment.balance`.
-/

namespace Ferminux.Hub

open Lib Relation Lib.Prog

variable {H : Type}

/-! ### Amounts on their way -/

/-- The books go by steps from `s` to `s'`, where `a` of the balance is not in the books before,
and `a'` is not after. -/
def Moves (K : Deployment H) (number a a' : Nat) (s s' : Store H) : Prop :=
  Steps K ⟨s.toBooks, number⟩ ⟨s'.toBooks, number⟩ ∧ s'.toBooks.owed + a' = s.toBooks.owed + a

/-- The books have come by steps from those of a stage of the same block, and `a` of the balance is
on its way. -/
structure Booked (K : Deployment H) (σ : Stage H) (a : Nat) (w : State H) : Prop where
  steps : Steps K σ (stage w)
  number : w.env.number = σ.number
  balance : w.env.balance = w.store.toBooks.owed + w.env.forced + a

variable {K : Deployment H} {m : Context} {s s' : Store H} {a a' : Nat}
  {b : Books H} {t : Settings H}

lemma Advances.moves (h : Advances K m s s') : Moves K m.number a a s s' :=
  ⟨h.steps, by rw [h.owed]⟩

lemma Receives.moves (h : Receives K m s s') : Moves K m.number m.value 0 s s' := ⟨h.1.steps, h.2⟩

lemma Moves.payout (h : Payout a s.toBooks b) : Moves K m.number 0 a s ⟨b, t⟩ :=
  ⟨.single (.payout h), h.owed⟩

lemma Moves.receipt (h : Receipt m.number a s.toBooks b) : Moves K m.number a 0 s ⟨b, t⟩ :=
  ⟨.single (.receipt h), h.owed⟩

lemma Booked.moves {σ : Stage H} {e : Env} (h : Booked K σ a ⟨s, e⟩)
    (hmoves : Moves K e.number a a' s s') : Booked K σ a' ⟨s', e⟩ where
  steps := h.steps.trans hmoves.1
  number := h.number
  balance := by
    have hbalance := h.balance
    have howed := hmoves.2
    simp only at hbalance ⊢
    omega

/-! ### What is written before and behind a payment -/

lemma post_takeExcess :
    Post (takeExcess m) (fun amount s' => Moves K m.number 0 amount s s') s := by
  simp only [takeExcess, post_steps, post_book]
  exact fun h => .payout (.giveBack (Nat.le_of_lt h))

lemma post_takeDeposit (seatId : Nat) (payee : Address) :
    Post (takeDeposit m seatId payee) (fun amount s' => Moves K m.number 0 amount s s') s := by
  simp only [takeDeposit, post_steps, post_ownedSeat, post_modifySeat, post_checkedSub, post_book]
  exact fun _ _ hexiting hready htotal => .payout (.withdraw hexiting hready.2 htotal)

lemma post_takeClaim (seatId amount : Nat) :
    Post (takeClaim seatId amount) (fun _ => Moves K m.number 0 amount s) s := by
  simp only [takeClaim, post_steps, post_checkedSub, post_modifySeat, post_book]
  exact fun hpos hamount htotal => .payout (.claim hpos hamount htotal)

lemma post_takeCredit (payee : Address) :
    Post (takeCredit m payee) (fun amount s' => Moves K m.number 0 amount s s') s := by
  simp only [takeCredit, post_steps, post_book, post_checkedSub]
  exact fun _ _ htotal => .payout (.credit htotal)

lemma post_takePendingBurn :
    Post takePendingBurn (fun amount s' => Moves K m.number 0 amount s s') s := by
  simp only [takePendingBurn, post_steps, post_book]
  exact fun _ => .payout .flush

lemma post_bookSlash (slashId : Nat) :
    Post (bookSlash m slashId) (fun x s' => Moves K m.number 0 x.burned s s') s := by
  simp only [bookSlash, post_steps, post_checkedSub, post_book, Books.setSeat]
  exact fun hpending _ hamount htotal => .payout (.slash hpending hamount htotal)

lemma post_bookBurn (slashId : Nat) (x : Executed) (ok : Bool) : Post (bookBurn m slashId x ok)
      (fun _ s' => Moves K m.number (if ok then 0 else x.burned) 0 s s') s := by
  simp only [bookBurn, post_bind, post_book, post_emit]
  cases ok with
  | true => exact Advances.moves (ReflTransGen.single (.bookBurn slashId x))
  | false => exact .receipt (.unburnt slashId x)

lemma post_emit_inert {e : Event H} (he : e.inert = true) :
    Post (emit m e) (fun _ => Moves K m.number 0 0 s) s :=
  post_emit.mpr (Advances.moves (ReflTransGen.single (.rest e he)))

/-! ### Programs -/

section Programs

variable {X : Callee (Store H) Env Answer} {J : State H → Prop} {w w₁ : State H}
  {α : Type} {x : HubM H α}

@[simp] lemma wp_segment {Q : α → State H → Prop} :
    (segment x).Wp X J Q w ↔ Post x (fun r s' => Q r ⟨s', w.env⟩) w.store := by
  unfold Prog.Wp segment Post
  cases hx : x w.store with
  | error => simp [Script.Wp]
  | ok r =>
    obtain ⟨a, s'⟩ := r
    simp [Script.Wp]

lemma wp_segment_moves {σ : Stage H} (amount : α → Nat)
    (h : Booked K σ a w₁) (hm : m.number = σ.number)
    (hx : Post x (fun r s' => Moves K m.number a (amount r) w₁.store s') w₁.store) :
    (segment x).Wp X J (fun r w' => Booked K σ (amount r) w') w₁ := by
  refine wp_segment.mpr (hx.mono fun r s' hmoves => ?_)
  rw [hm, ← h.number] at hmoves
  exact h.moves hmoves

/-- What outsiders keep: the books go on by steps, within the block. -/
def Goes (K : Deployment H) (w w' : State H) : Prop :=
  Steps K (stage w) (stage w') ∧ w'.env.number = w.env.number

variable {σ : Stage H}

lemma Booked.goes (h : Booked K σ a w) {w' : State H} (hgoes : Goes K w w')
    (hbalance : w'.env.balance = w'.store.toBooks.owed + w'.env.forced + a') : Booked K σ a' w' :=
  ⟨h.steps.trans hgoes.1, hgoes.2.trans h.number, hbalance⟩

/-- A call of the hub that starts behind a stage of the same block. -/
abbrev callees (K : Deployment H) (σ : Stage H) : Callee (Store H) Env Answer :=
  K.callee (Host.Keeps (Booked K σ 0) (Goes K))

/-- **A payment.** The amount on its way is paid, or still there. -/
theorem wp_pay (hσ : Booked K σ 0 w) (h : Booked K (stage w) a w₁) (dest : Address) :
    (Prog.call (.call dest a) : Contract H Bool).Wp (callees K σ) (Booked K σ 0)
      (fun ok w' => Booked K (stage w) (if ok then 0 else a) w') w₁ := by
  have hpaid : w₁.env.balance - a = w₁.store.toBooks.owed + w₁.env.forced + 0 := by
    have := h.balance
    omega
  have hspent : Booked K σ 0 ⟨w₁.store, w₁.env.spend a⟩ :=
    ⟨hσ.steps.trans h.steps, h.number.trans hσ.number, hpaid⟩
  refine wp_call.mpr ⟨?_, ?_⟩
  · rintro w' ⟨-, -, rfl⟩
    exact hspent
  · rintro ok w' (⟨rfl, hle, ⟨hdest, hact⟩ | ⟨hdest, t, hfund, rfl⟩⟩ | ⟨rfl, rfl⟩)
    · obtain ⟨hbooked, hgoes⟩ := hact hspent
      have hnow : Booked K (stage w) 0 ⟨w₁.store, w₁.env.spend a⟩ := ⟨h.steps, h.number, hpaid⟩
      exact hnow.goes hgoes hbooked.balance
    · -- the hub pays itself, and the pool grows
      have hreceives := post_fund (K := K) () t hfund
      exact h.moves hreceives.moves
    · exact h

lemma wp_send (hσ : Booked K σ 0 w) (h : Booked K (stage w) a w₁) (dest : Address) :
    (send dest a).Wp (callees K σ) (Booked K σ 0) (fun _ w' => Booked K (stage w) 0 w') w₁ := by
  rw [send, wp_bind]
  refine (wp_pay hσ h dest).mono fun ok w' hw' => ?_
  rw [wp_ite]
  refine ⟨fun hok => ?_, fun _ => ?_⟩
  · rw [if_pos hok] at hw'
    exact hw'
  · exact wp_segment.mpr (post_throw.mpr trivial)

lemma Booked.lock {e : Env} (h : Booked K σ a ⟨s, e⟩) (n : Nat) :
    Booked K σ a ⟨{ s with lock := n }, e⟩ := ⟨h.steps, h.number, h.balance⟩

lemma wp_nonReentrant {body : Contract H Unit} (h : Booked K (stage w) 0 w₁)
    (hbody : ∀ w2, Booked K (stage w) 0 w2 → body.Wp X J (fun _ w' => Booked K (stage w) 0 w') w2) :
    (nonReentrant body).Wp X J (fun _ w' => Booked K (stage w) 0 w') w₁ := by
  rw [nonReentrant, wp_bind, wp_segment]
  simp only [enter, post_steps, wp_bind]
  refine fun _ => (hbody _ (h.lock 2)).mono fun _ w' hw' => ?_
  exact wp_segment.mpr (post_modify.mpr (hw'.lock 1))

lemma wp_receives {x : HubM H Unit} (hm : m.number = w.env.number)
    (h : Booked K (stage w) m.value w₁)
    (hx : Post x (fun _ => Receives K m w₁.store) w₁.store) :
    (segment x).Wp X J (fun _ w' => Booked K (stage w) 0 w') w₁ :=
  wp_segment_moves (fun _ => 0) h hm (hx.mono fun _ _ hr => hr.moves)

lemma wp_advances {x : HubM H Unit} (hm : m.number = w.env.number) (h : Booked K (stage w) 0 w₁)
    (hx : Post x (fun _ => Advances K m w₁.store) w₁.store) :
    (segment x).Wp X J (fun _ w' => Booked K (stage w) 0 w') w₁ :=
  wp_segment_moves (fun _ => 0) h hm (hx.mono fun _ _ hr => hr.moves)

/-- The program leaves books that have gone on since `w`, and hands control out behind `σ` only. -/
abbrev KeepsBooks (K : Deployment H) (σ : Stage H) (w w₁ : State H) (p : Contract H Unit) : Prop :=
  p.Wp (callees K σ) (Booked K σ 0) (fun _ w' => Booked K (stage w) 0 w') w₁

variable (hσ : Booked K σ 0 w) (hm : m.number = w.env.number)
include hσ hm

lemma wp_payment {take : HubM H α} (amount : α → Nat) {dest : α → Address}
    {e : α → Event H} (he : ∀ r, (e r).inert = true)
    (htake : ∀ s, Post take (fun r s' => Moves K m.number 0 (amount r) s s') s)
    (h : Booked K (stage w) 0 w₁) : KeepsBooks K σ w w₁ (do
      let r ← segment take
      send (dest r) (amount r)
      segment (emit m (e r))) := by
  rw [KeepsBooks, wp_bind]
  refine (wp_segment_moves amount h hm (htake _)).mono fun r w2 h2 => ?_
  rw [wp_bind]
  refine (wp_send hσ h2 _).mono fun _ w3 h3 => ?_
  exact wp_segment_moves (fun _ => 0) h3 hm (post_emit_inert (he r))

section

variable (h : Booked K (stage w) 0 w₁)
include h

lemma wp_returnExcess : KeepsBooks K σ w w₁ (returnExcess K m) :=
  wp_nonReentrant h fun _ h2 => wp_payment hσ hm id (fun _ => rfl) (fun _ => post_takeExcess) h2

lemma wp_withdraw (seatId : Nat) (payee : Address) :
    KeepsBooks K σ w w₁ (withdraw m seatId payee) :=
  wp_nonReentrant h fun _ h2 =>
    wp_payment hσ hm id (fun _ => rfl) (fun _ => post_takeDeposit seatId payee) h2

lemma wp_payClaim (seatId : Nat) (payee : Address) (amount : Nat) :
    KeepsBooks K σ w w₁ (payClaim m seatId payee amount) :=
  wp_payment hσ hm (fun _ => amount) (fun _ => rfl) (fun _ => post_takeClaim seatId amount) h

lemma wp_claim (seatId : Nat) (payee : Address) : KeepsBooks K σ w w₁ (claim m seatId payee) := by
  refine wp_nonReentrant h fun w2 h2 => ?_
  simp only [wp_bind, wp_segment, post_steps, post_ownedSeat]
  exact fun _ _ => wp_payClaim hσ hm h2 _ _ _

lemma wp_claimToAttester (seatId amount : Nat) :
    KeepsBooks K σ w w₁ (claimToAttester m seatId amount) := by
  refine wp_nonReentrant h fun w2 h2 => ?_
  simp only [wp_bind, wp_segment, post_steps, post_ownedSeat]
  exact fun _ _ => wp_payClaim hσ hm h2 _ _ _

lemma wp_executeSlash (slashId : Nat) : KeepsBooks K σ w w₁ (executeSlash m slashId) := by
  refine wp_nonReentrant h fun w2 h2 => ?_
  rw [wp_bind]
  refine (wp_segment_moves Executed.burned h2 hm (post_bookSlash slashId)).mono fun x w3 h3 => ?_
  rw [wp_bind]
  refine (wp_pay hσ h3 BURN_ADDRESS).mono fun ok w4 h4 => ?_
  exact wp_segment_moves (fun _ => 0) h4 hm (post_bookBurn slashId x ok)

lemma wp_withdrawCredit (payee : Address) : KeepsBooks K σ w w₁ (withdrawCredit m payee) :=
  wp_nonReentrant h fun _ h2 =>
    wp_payment hσ hm id (fun _ => rfl) (fun _ => post_takeCredit payee) h2

lemma wp_flushBurn : KeepsBooks K σ w w₁ (flushBurn m) :=
  wp_nonReentrant h fun _ h2 =>
    wp_payment hσ hm id (fun _ => rfl) (fun _ => post_takePendingBurn) h2

/-! ### Calls -/

end

variable [DecidableEq H] [Zero H]

/-- **One call**: the value that has arrived is booked, and everything else keeps the books. -/
theorem wp_body (hsender : m.sender ≠ 0) {f : Function H}
    (hvalue : m.value = 0 ∨ f.payable = true) (h : Booked K (stage w) m.value w₁) :
    KeepsBooks K σ w w₁ (K.body m f) := by
  have h0 : f.payable = false → Booked K (stage w) 0 w₁ := by
    intro hf
    rwa [hvalue.resolve_right (by simp [hf])] at h
  have hadv {x : HubM H Unit} (hf : f.payable = false)
      (hx : Post x (fun _ => Advances K m w₁.store) w₁.store) : KeepsBooks K σ w w₁ (segment x) :=
    wp_advances hm (h0 hf) hx
  cases f with
  | fund | receive => exact wp_receives hm h post_fund
  | openSeat =>
    exact wp_receives hm h (post_discard.mpr (post_openSeat hsender _ _ _ _))
  | returnExcess => exact wp_returnExcess hσ hm (h0 rfl)
  | setEnode => exact hadv rfl post_setEnode
  | rotateAttester => exact hadv rfl post_rotateAttester
  | applyAttesterRotation => exact hadv rfl post_applyAttesterRotation
  | setRewardTo => exact hadv rfl (post_setRewardTo hsender _ _)
  | requestExit => exact hadv rfl post_requestExit
  | withdraw => exact wp_withdraw hσ hm (h0 rfl) _ _
  | claim => exact wp_claim hσ hm (h0 rfl) _ _
  | claimToAttester => exact wp_claimToAttester hσ hm (h0 rfl) _ _
  | attest => exact hadv rfl (post_discard.mpr post_attest)
  | attestBatch => exact hadv rfl (post_discard.mpr post_attestBatch)
  | jail => exact hadv rfl post_jail
  | unjail => exact hadv rfl post_unjail
  | setSigningKey => exact hadv rfl post_setSigningKey
  | qualify => exact hadv rfl post_qualify
  | disqualify => exact hadv rfl post_disqualify
  | proveDoubleAttestation =>
    exact hadv rfl (post_discard.mpr post_proveDoubleAttestation)
  | proveDoubleSeal =>
    exact hadv rfl (post_discard.mpr post_proveDoubleSeal)
  | executeSlash => exact wp_executeSlash hσ hm (h0 rfl) _
  | veto => exact hadv rfl post_veto
  | withdrawCredit => exact wp_withdrawCredit hσ hm (h0 rfl) _
  | flushBurn => exact wp_flushBurn hσ hm (h0 rfl)
  | sync => exact hadv rfl (post_syncSeats _)
  | setSeatsPaused => exact hadv rfl post_setSeatsPaused
  | setAttestationsPaused => exact hadv rfl post_setAttestationsPaused
  | closeCommunitySeats => exact hadv rfl post_closeCommunitySeats
  | setAllowlist => exact hadv rfl post_setAllowlist
  | queueParam => exact hadv rfl post_queueParam
  | cancelParam => exact hadv rfl post_cancelParam
  | applyParam => exact hadv rfl post_applyParam
  | transferOwnership => exact hadv rfl (post_transferOwnership _)
  | acceptOwnership => exact hadv rfl post_acceptOwnership

end Programs

/-! ### Runs -/

namespace Deployment

variable {w w' : State H}

/-- The balance is what the hub owes and what was forced on it. -/
def Settled (w : State H) : Prop := w.env.balance = w.store.toBooks.owed + w.env.forced

lemma Settled.booked (h : Settled w) : Booked K (stage w) 0 w := ⟨.refl, rfl, h⟩

lemma construct_new [Zero H] {args : Arguments} (h : K.construct args = .ok s) :
    New K s.toBooks ∧ s.toBooks.owed = 0 := by
  simp only [construct, bind_eq_ok, require_eq_ok, pure_eq_ok] at h
  obtain ⟨-, -, -, hmax, rfl⟩ := h
  refine ⟨⟨hmax.1, ?_, rfl⟩, rfl⟩
  intro e he
  rcases List.mem_cons.mp he with rfl | he
  · exact ⟨rfl, rfl⟩
  · obtain ⟨account, -, rfl⟩ := List.mem_map.mp he
    exact ⟨rfl, rfl⟩

lemma Deployed.settled [Zero H] (h : K.Deployed w) : Settled w := by
  obtain ⟨⟨args, hargs⟩, -, hbalance⟩ := h
  rw [Settled, hbalance, (construct_new hargs).2, Nat.zero_add]

variable [DecidableEq H] [Zero H]

/-- What the body of a function makes sure of, whatever it returns, holds of each call of it. -/
lemma Calls.of_body {f : Function H} {Q : Prop} (h : K.Calls w m f w')
    (hbody : (K.body m f).Wp K.host.reentrant (fun _ => True) (fun _ _ => Q) (arrive w m)) : Q := by
  have hwp : (K.run m f).Wp K.host.reentrant (fun _ => True) (fun _ _ => Q) (arrive w m) := by
    rw [run, Prog.wp_bind, wp_segment, post_require]
    exact fun _ => hbody
  exact hwp.exec h.2

/-- **Whatever outsiders do, the books go on by steps, and the balance covers them.** -/
theorem host_sound (K : Deployment H) (σ : Stage H) : K.host.Sound (Booked K σ 0) (Goes K) where
  refl w := ⟨.refl, rfl⟩
  trans h h' := ⟨h.1.trans h'.1, h'.2.trans h.2⟩
  foreign := by
    rintro w w' ⟨s, e, n⟩ hw
    have hbalance := hw.balance
    simp only at hbalance
    refine ⟨⟨hw.steps, hw.number, ?_⟩, .refl, rfl⟩
    simp only [Env.force]
    omega
  entry := by
    rintro w p w0 hw ⟨m, f, hadm, rfl, rfl⟩
    have harrived : Booked K (stage w) m.value (arrive w m) := by
      refine ⟨.refl, rfl, ?_⟩
      have hbalance := hw.balance
      simp only [arrive, Env.receive]
      omega
    rw [run, wp_bind, wp_segment, post_require]
    intro hvalue
    refine (wp_body hw hadm.number hadm.sender_ne_zero hvalue harrived).mono fun _ w' hw' => ?_
    exact ⟨⟨hw.steps.trans hw'.steps, hw'.number.trans hw.number, hw'.balance⟩, hw'.steps, hw'.number⟩

variable {w₁ : State H}

lemma between_booked (h : ReflTransGen K.Between w w₁) (hw : Settled w) :
    Steps K (stage w) (stage w₁) ∧ Settled w₁ := by
  induction h with
  | refl => exact ⟨.refl, hw⟩
  | tail _ hstep ih =>
    obtain rfl | hout := hstep
    · exact ⟨ih.1.tail (.tick _ _), ih.2⟩
    · obtain ⟨hbooked, hgoes⟩ := (K.host_sound _).outside hout ih.2.booked
      exact ⟨ih.1.trans hgoes.1, hbooked.balance⟩

lemma Later.booked (h : K.Later w w') (hw : Settled w) :
    Steps K (stage w) (stage w') ∧ Settled w' := by
  obtain ⟨w₁, hrun, hmoment⟩ := h
  obtain ⟨hsteps, hsettled⟩ := between_booked hrun hw
  have hstart : ∀ w2, w2 = w₁ → Booked K (stage w₁) 0 w2 := by
    rintro _ rfl
    exact hsettled.booked
  have hbooked := (K.host_sound (stage w₁)).moment hstart hmoment
  exact ⟨hsteps.trans hbooked.steps, hbooked.balance⟩

lemma Deployed.steps (h : K.Deployed w) (hlater : K.Later w w') :
    New K w.store.toBooks ∧ Steps K ⟨w.store.toBooks, K.deployBlock⟩ (stage w') := by
  obtain ⟨hsteps, -⟩ := hlater.booked h.settled
  obtain ⟨⟨args, hargs⟩, hnumber, -⟩ := h
  rw [stage, hnumber] at hsteps
  exact ⟨(construct_new hargs).1, hsteps⟩

/-- **The books have come by steps from those of a new hub.** -/
theorem Moment.reachable (h : K.Moment w) : Reachable K (stage w) := by
  obtain ⟨w0, hdeployed, hlater⟩ := h
  exact ⟨_, hdeployed.steps hlater⟩

/-- **The balance is what the hub owes and what was forced on it.** -/
theorem Moment.balance (h : K.Moment w) : Settled w := by
  obtain ⟨w0, hdeployed, hlater⟩ := h
  exact (hlater.booked hdeployed.settled).2

lemma Later.steps (h : K.Later w w') (hw : K.Moment w) : Steps K (stage w) (stage w') :=
  (h.booked hw.balance).1

end Deployment

end Ferminux.Hub
