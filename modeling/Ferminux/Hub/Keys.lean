import Ferminux.Hub.Custody

/-!
# Hub.Keys

**The key registry.** A key is bound to one seat and one role, for ever. It is active when it is
the attester or the signing key of a seat that is bonded; but a seat that leaves by `requestExit`
keeps its signing key active, as `_eject` puts out the attester alone.
-/

open Function (update_of_ne update_self)

namespace Ferminux.Hub

open Lib Relation Books KeyInfo

attribute [local irreducible] Books.withSeat

variable {H : Type} {K : Deployment H} {b b' : Books H} {number amount : Nat}
  {seatId : Nat} {key : Address}

/-! ### Keys and the seats that use them -/

/-- What the registry reads of a seat. -/
def Seat.ring (x : Seat) : Address × Address × Address × Bool :=
  (x.attester, x.pendingAttester, x.signingKey, decide (x.status = .BONDED))

/-- The keys of a seat are bound to it, in their roles; while the seat is bonded its attester and
its signing key are active, and no other key of the seat is. -/
structure Seat.Keyed (x : Seat) (seatId : Nat) (keys : Address → KeyInfo) : Prop where
  attester_bound : x.attester ≠ 0 →
    (keys x.attester).seatId = seatId ∧ (keys x.attester).role = .ROLE_ATTESTER
  pending_bound : x.pendingAttester ≠ 0 →
    (keys x.pendingAttester).seatId = seatId ∧ (keys x.pendingAttester).role = .ROLE_ATTESTER
  signing_bound : x.signingKey ≠ 0 →
    (keys x.signingKey).seatId = seatId ∧ (keys x.signingKey).role = .ROLE_SIGNING
  attester : (keys x.attester).active = true ↔ x.status = .BONDED
  pending : (keys x.pendingAttester).active = false
  signing : x.status = .BONDED → x.signingKey ≠ 0 → (keys x.signingKey).active = true
  active : ∀ key, (keys key).seatId = seatId → (keys key).active = true →
    x.attester = key ∨ x.signingKey = key

/-- The registry and the seats agree. -/
structure Registered (b : Books H) : Prop where
  unbound : ∀ key, (b.keys key).seatId = 0 → b.keys key = {}
  zero : (b.keys 0).seatId = 0
  seat : ∀ seatId, (b.seats seatId).Keyed seatId b.keys

namespace Seat.Keyed

variable {x y : Seat} {seatId : Nat} {keys keys' : Address → KeyInfo}

lemma congr (h : x.Keyed seatId keys) (hring : y.ring = x.ring) : y.Keyed seatId keys := by
  simp only [ring, Prod.mk.injEq, decide_eq_decide] at hring
  obtain ⟨ha, hp, hs, hbonded⟩ := hring
  exact
    { attester_bound := by simpa only [ha] using h.attester_bound
      pending_bound := by simpa only [hp] using h.pending_bound
      signing_bound := by simpa only [hs] using h.signing_bound
      attester := by simpa only [ha, hbonded] using h.attester
      pending := by simpa only [hp] using h.pending
      signing := by simpa only [hs, hbonded] using h.signing
      active := by simpa only [ha, hs] using h.active }

lemma other (h : x.Keyed seatId keys) (hzero : keys' 0 = keys 0)
    (hold : ∀ key, (keys key).seatId = seatId → (keys key).role ≠ .NONE → keys' key = keys key)
    (hnew : ∀ key, (keys' key).seatId = seatId → keys' key = keys key) : x.Keyed seatId keys' := by
  have hkeep {key : Address} {role : Role}
      (hbound : key ≠ 0 → (keys key).seatId = seatId ∧ (keys key).role = role)
      (hrole : role ≠ .NONE) : keys' key = keys key := by
    by_cases h0 : key = 0
    · rw [h0, hzero]
    · obtain ⟨hid, rfl⟩ := hbound h0
      exact hold key hid hrole
  have hattester := hkeep h.attester_bound (by decide)
  have hpending := hkeep h.pending_bound (by decide)
  have hsigning := hkeep h.signing_bound (by decide)
  exact
    { attester_bound := by simpa only [hattester] using h.attester_bound
      pending_bound := by simpa only [hpending] using h.pending_bound
      signing_bound := by simpa only [hsigning] using h.signing_bound
      attester := by simpa only [hattester] using h.attester
      pending := by simpa only [hpending] using h.pending
      signing := by simpa only [hsigning] using h.signing
      active := fun key hkey hactive => by
        have heq := hnew key hkey
        exact h.active key (heq ▸ hkey) (heq ▸ hactive) }

end Seat.Keyed

namespace Books

variable (b : Books H) (banned key : Address)

@[simp] lemma without_seatId : (b.without banned key).seatId = (b.keys key).seatId := by
  rw [without_apply]
  split <;> rfl

@[simp] lemma without_role : (b.without banned key).role = (b.keys key).role := by
  rw [without_apply]
  split <;> rfl

@[simp] lemma without_self_active (banned : Address) :
    (b.without banned banned).active = false := by
  rw [without_apply, if_pos rfl]

lemma without_of_ne {banned key : Address} (h : key ≠ banned) :
    b.without banned key = b.keys key := by
  rw [without_apply, if_neg h]

lemma without_of_inactive {banned : Address} (h : (b.keys banned).active = false) :
    b.without banned = b.keys := by
  funext key
  by_cases hkey : key = banned
  · subst hkey
    rw [without_apply, if_pos rfl, ← h]
  · exact b.without_of_ne hkey

lemma withoutSigning_apply : b.withoutSigning banned key =
      if key = banned ∧ key ≠ 0 then { b.keys key with active := false } else b.keys key := by
  by_cases h0 : banned = 0
  · rw [withoutSigning, if_pos h0, if_neg fun h => h.2 (h.1.trans h0)]
  · rw [withoutSigning, if_neg h0, without_apply]
    by_cases hkey : key = banned
    · rw [if_pos hkey, if_pos ⟨hkey, hkey ▸ h0⟩]
    · rw [if_neg hkey, if_neg fun h => hkey h.1]

@[simp] lemma withoutSigning_seatId :
    (b.withoutSigning banned key).seatId = (b.keys key).seatId := by
  rw [withoutSigning_apply]
  split <;> rfl

@[simp] lemma withoutSigning_role : (b.withoutSigning banned key).role = (b.keys key).role := by
  rw [withoutSigning_apply]
  split <;> rfl

lemma withoutSigning_of_ne {banned key : Address} (h : key ≠ banned) :
    b.withoutSigning banned key = b.keys key := by
  rw [withoutSigning_apply, if_neg fun hkey => h hkey.1]

variable {b banned key}

lemma active_of_withoutSigning (h : (b.withoutSigning banned key).active = true) :
    (key ≠ banned ∨ key = 0) ∧ (b.keys key).active = true := by
  rw [withoutSigning_apply] at h
  split at h
  · cases h
  · rename_i hkey
    refine ⟨?_, h⟩
    by_contra hcon
    push Not at hcon
    exact hkey hcon

lemma active_of_without (h : (b.without banned key).active = true) :
    key ≠ banned ∧ (b.keys key).active = true := by
  by_cases hkey : key = banned
  · rw [hkey, without_self_active] at h
    cases h
  · exact ⟨hkey, by rwa [without_of_ne b hkey] at h⟩

/-- Only keys of the seat have changed, or unused ones that are its now. -/
def Rekeys (b : Books H) (seatId : Nat) (keys : Address → KeyInfo) : Prop :=
  ∀ key, keys key = b.keys key ∨ (keys key).seatId = seatId ∧ key ≠ 0 ∧
    ((b.keys key).seatId = seatId ∨ (b.keys key).seatId = 0)

lemma Rekeys.refl : b.Rekeys seatId b.keys := fun _ => .inl rfl

lemma Rekeys.update {keys : Address → KeyInfo} {info : KeyInfo} (h : b.Rekeys seatId keys)
    (hkey : key ≠ 0) (hfree : (b.keys key).seatId = seatId ∨ (b.keys key).seatId = 0)
    (hinfo : info.seatId = seatId) : b.Rekeys seatId (Function.update keys key info) := by
  intro k
  by_cases hk : k = key
  · subst hk
    rw [update_self]
    exact .inr ⟨hinfo, hkey, hfree⟩
  · rw [update_of_ne hk]
    exact h k

lemma rekeys_without (hkey : key ≠ 0) (hid : (b.keys key).seatId = seatId) :
    b.Rekeys seatId (b.without key) := Rekeys.refl.update hkey (.inl hid) hid

lemma rekeys_withoutSigning (hid : key ≠ 0 → (b.keys key).seatId = seatId) :
    b.Rekeys seatId (b.withoutSigning key) := by
  unfold withoutSigning
  split
  · exact .refl
  · rename_i h0
    exact rekeys_without h0 (hid h0)

end Books

namespace Registered

section

variable (h : Registered b)
include h

lemma frame (hseats : ∀ i, (b'.seats i).ring = (b.seats i).ring)
    (hkeys : b'.keys = b.keys) : Registered b' where
  unbound := hkeys ▸ h.unbound
  zero := hkeys ▸ h.zero
  seat i := hkeys ▸ (h.seat i).congr (hseats i)

lemma rekey {f : Seat → Seat} (hne : seatId ≠ 0) (hseats : b'.seats = b.withSeat seatId f)
    (hkeys : b.Rekeys seatId b'.keys)
    (hself : (f (b.seats seatId)).Keyed seatId b'.keys) : Registered b' where
  unbound key hkey := by
    rcases hkeys key with heq | ⟨hid, -⟩
    · rw [heq] at hkey ⊢
      exact h.unbound key hkey
    · exact absurd (hid.symm.trans hkey) hne
  zero := by
    rcases hkeys 0 with heq | ⟨-, h0, -⟩
    · rw [heq]
      exact h.zero
    · exact absurd rfl h0
  seat i := by
    rw [hseats]
    by_cases hi : i = seatId
    · rw [hi, b.withSeat_self]
      exact hself
    rw [b.withSeat_of_ne hi]
    refine (h.seat i).other ?_ ?_ ?_
    · exact (hkeys 0).resolve_right fun h0 => h0.2.1 rfl
    · intro key hkey hrole
      refine (hkeys key).resolve_right fun hchanged => ?_
      rcases hchanged.2.2 with hid | h0
      · exact hi (hkey.symm.trans hid)
      · exact hrole (by rw [h.unbound key h0])
    · intro key hkey
      exact (hkeys key).resolve_right fun hchanged => hi (hkey.symm.trans hchanged.1)

lemma ne_zero_of_active (hactive : (b.keys key).active = true) : key ≠ 0 := by
  rintro rfl
  rw [h.unbound 0 h.zero] at hactive
  cases hactive

lemma inactive_of_unbound (hkey : (b.keys key).seatId = 0) : (b.keys key).active = false := by
  rw [h.unbound key hkey]

lemma attester_ne_zero
    (hbonded : (b.seats seatId).status = .BONDED) : (b.seats seatId).attester ≠ 0 :=
  h.ne_zero_of_active ((h.seat seatId).attester.mpr hbonded)

lemma attester_ne_signing (hbonded : (b.seats seatId).status = .BONDED) :
    (b.seats seatId).attester ≠ (b.seats seatId).signingKey := by
  intro heq
  have hattester := ((h.seat seatId).attester_bound (h.attester_ne_zero hbonded)).2
  have hsigning := ((h.seat seatId).signing_bound (heq ▸ h.attester_ne_zero hbonded)).2
  rw [heq, hsigning] at hattester
  cases hattester

/-! ### Steps -/

lemma exited (hne : seatId ≠ 0)
    (hbonded : (b.seats seatId).status = .BONDED) : Registered (b.exited number seatId) := by
  have hseat := h.seat seatId
  have hzero := h.attester_ne_zero hbonded
  refine h.rekey hne rfl (rekeys_without hzero (hseat.attester_bound hzero).1) ?_
  exact
    { attester_bound := fun h0 => by simpa [Books.exited] using hseat.attester_bound h0
      pending_bound := fun h0 => by simpa [Books.exited] using hseat.pending_bound h0
      signing_bound := fun h0 => by simpa [Books.exited] using hseat.signing_bound h0
      attester := by simp [Books.exited]
      pending := by
        have := hseat.pending
        simp only [Books.exited, Books.without_apply]
        split <;> simp_all
      signing := by simp
      active := fun key hid hactive => by
        simp only [Books.exited, Books.without_seatId] at hid
        exact hseat.active key hid (active_of_without hactive).2 }

lemma proposed (hne : seatId ≠ 0) (kind : Kind)
    (height sunset : Nat) (reporter : Address) (hexiting : (b.seats seatId).status = .EXITING) :
    Registered (b.proposed number seatId kind height sunset reporter) := by
  have hseat := h.seat seatId
  have hattester : (b.keys (b.seats seatId).attester).active = false := by
    have hiff := hseat.attester
    rw [hexiting] at hiff
    simpa using hiff
  -- the attester has gone out with the seat's exit
  have hkeys : (b.proposed number seatId kind height sunset reporter).keys =
      b.withoutSigning (b.seats seatId).signingKey := by
    simp [Books.proposed, b.without_of_inactive hattester]
  refine h.rekey hne rfl ?_ ?_
  · rw [hkeys]
    exact rekeys_withoutSigning fun h0 => (hseat.signing_bound h0).1
  · rw [hkeys]
    have hdown {key : Address} (hoff : (b.keys key).active = false) :
        (b.withoutSigning (b.seats seatId).signingKey key).active = false := by
      rw [withoutSigning_apply]
      split
      · rfl
      · exact hoff
    exact
      { attester_bound := fun h0 => by simpa using hseat.attester_bound h0
        pending_bound := fun h0 => by simpa using hseat.pending_bound h0
        signing_bound := fun h0 => by simpa using hseat.signing_bound h0
        attester := by simp [hdown hattester, hexiting]
        pending := hdown hseat.pending
        signing := by simp [hexiting]
        active := fun key hid hactive => by
          rw [b.withoutSigning_seatId] at hid
          exact hseat.active key hid (active_of_withoutSigning hactive).2 }

end

lemma ne_of_unused (hne : seatId ≠ 0) (hkey : key ≠ 0) (hunused : (b.keys key).seatId = 0)
    {k : Address} (hbound : k ≠ 0 → (b.keys k).seatId = seatId) : k ≠ key := by
  rintro rfl
  exact hne ((hbound hkey).symm.trans hunused)

variable (h : Registered b)
include h

lemma rotated (hne : seatId ≠ 0) (hkey : key ≠ 0)
    (hunused : (b.keys key).seatId = 0) : Registered (b.rotated number seatId key) := by
  have hseat := h.seat seatId
  have hattester := ne_of_unused hne hkey hunused fun h0 => (hseat.attester_bound h0).1
  have hsigning := ne_of_unused hne hkey hunused fun h0 => (hseat.signing_bound h0).1
  refine h.rekey hne rfl (Books.Rekeys.refl.update hkey (.inr hunused) rfl) ?_
  simp only [Books.rotated]
  exact
    { attester_bound := fun h0 => by
        simpa only [update_of_ne hattester] using hseat.attester_bound h0
      pending_bound := fun _ => by simp
      signing_bound := fun h0 => by
        simpa only [update_of_ne hsigning] using hseat.signing_bound h0
      attester := by simpa only [update_of_ne hattester] using hseat.attester
      pending := by simp
      signing := fun hb h0 => by
        simpa only [update_of_ne hsigning] using hseat.signing hb h0
      active := fun k hid hactive => by
        by_cases hk : k = key
        · simp [hk] at hactive
        · rw [update_of_ne hk] at hid hactive
          exact hseat.active k hid hactive }

lemma rotationApplied (hne : seatId ≠ 0)
    (hbonded : (b.seats seatId).status = .BONDED) (hnext : (b.seats seatId).pendingAttester ≠ 0) :
    Registered (b.rotationApplied number seatId) := by
  have hseat := h.seat seatId
  have hzero := h.attester_ne_zero hbonded
  have hnext_bound := hseat.pending_bound hnext
  have hnext_signing : (b.seats seatId).signingKey ≠ (b.seats seatId).pendingAttester := by
    intro heq
    have hrole := (hseat.signing_bound (heq ▸ hnext)).2
    rw [heq, hnext_bound.2] at hrole
    cases hrole
  have hsigning := (h.attester_ne_signing hbonded).symm
  have hold := rekeys_without hzero (hseat.attester_bound hzero).1
  refine h.rekey hne rfl (hold.update hnext (.inl hnext_bound.1) (by simpa using hnext_bound.1)) ?_
  simp only [Books.rotationApplied]
  exact
    { attester_bound := fun _ => by simpa using hnext_bound
      pending_bound := fun h0 => absurd rfl h0
      signing_bound := fun h0 => by
        simpa [update_of_ne hnext_signing] using hseat.signing_bound h0
      attester := by simp [hbonded]
      pending := by
        rw [update_of_ne hnext.symm, b.without_of_ne hzero.symm]
        exact h.inactive_of_unbound h.zero
      signing := fun hb h0 => by
        rw [update_of_ne hnext_signing, b.without_of_ne hsigning]
        exact hseat.signing hb h0
      active := fun key hid hactive => by
        by_cases hkey : key = (b.seats seatId).pendingAttester
        · exact .inl hkey.symm
        · rw [update_of_ne hkey] at hid hactive
          obtain ⟨hold, hactive⟩ := active_of_without hactive
          rw [b.without_seatId] at hid
          exact .inr ((hseat.active key hid hactive).resolve_left fun heq => hold heq.symm) }

lemma signingKeySet (hne : seatId ≠ 0)
    (hbonded : (b.seats seatId).status = .BONDED) (hkey : key ≠ 0)
    (hunused : (b.keys key).seatId = 0) : Registered (b.signingKeySet number seatId key) := by
  have hseat := h.seat seatId
  have hattester := ne_of_unused hne hkey hunused fun h0 => (hseat.attester_bound h0).1
  have hpending := ne_of_unused hne hkey hunused fun h0 => (hseat.pending_bound h0).1
  have hne_signing := h.attester_ne_signing hbonded
  have hold := rekeys_withoutSigning fun h0 => (hseat.signing_bound h0).1
  refine h.rekey hne rfl (hold.update hkey (.inr hunused) rfl) ?_
  simp only [Books.signingKeySet]
  exact
    { attester_bound := fun h0 => by
        simpa [update_of_ne hattester] using hseat.attester_bound h0
      pending_bound := fun h0 => by
        simpa [update_of_ne hpending] using hseat.pending_bound h0
      signing_bound := fun _ => by simp
      attester := by
        rw [update_of_ne hattester, b.withoutSigning_of_ne hne_signing]
        exact hseat.attester
      pending := by
        rw [update_of_ne hpending, withoutSigning_apply]
        split
        · rfl
        · exact hseat.pending
      signing := by simp
      active := fun k hid hactive => by
        by_cases hk : k = key
        · exact .inr hk.symm
        · rw [update_of_ne hk] at hid hactive
          obtain ⟨hs, hactive⟩ := active_of_withoutSigning hactive
          have hs := hs.resolve_right (h.ne_zero_of_active hactive)
          rw [b.withoutSigning_seatId] at hid
          exact .inl ((hseat.active k hid hactive).resolve_right fun heq => hs heq.symm) }

lemma opened (hb : Blank b) (sender : Address) {attester : Address}
    (hattester : attester ≠ 0) (hunused : (b.keys attester).seatId = 0) :
    Registered (b.opened number sender attester) := by
  have hnew : b.seats (b.seatCount + 1) = {} := hb _ fun hin => Nat.not_succ_le_self _ hin.2
  have hseat := h.seat (b.seatCount + 1)
  have hzero : (0 : Address) ≠ attester := hattester.symm
  refine h.rekey (Nat.succ_ne_zero _) rfl
    (Books.Rekeys.refl.update hattester (.inr hunused) rfl) ?_
  simp only [Books.opened, hnew] at hseat ⊢
  exact
    { attester_bound := fun _ => by simp
      pending_bound := fun h0 => absurd rfl h0
      signing_bound := fun h0 => absurd rfl h0
      attester := by simp
      pending := by
        rw [update_of_ne hzero]
        exact h.inactive_of_unbound h.zero
      signing := fun _ h0 => absurd rfl h0
      active := fun key hid hactive => by
        by_cases hkey : key = attester
        · exact .inl hkey.symm
        · rw [update_of_ne hkey] at hid hactive
          have hkeys := hseat.active key hid hactive
          exact absurd (hkeys.elim Eq.symm Eq.symm) (h.ne_zero_of_active hactive) }

lemma change (hb : Blank b) (hc : Change K number b b') : Registered b' := by
  have hne {seatId : Nat} {status : Status} (hs : (b.seats seatId).status = status)
      (hstatus : status ≠ .NONE) : seatId ≠ 0 :=
    Nat.one_le_iff_ne_zero.mp (hb.isSeat_of_status hs hstatus).1
  cases hc with
  | rotate hbonded hkey hunused => exact h.rotated (hne hbonded (by decide)) hkey hunused
  | applyRotation hbonded hnext => exact h.rotationApplied (hne hbonded (by decide)) hbonded hnext
  | setSigningKey hbonded _ hkey hunused =>
    exact h.signingKeySet (hne hbonded (by decide)) hbonded hkey hunused
  | exit hbonded => exact h.exited (hne hbonded (by decide)) hbonded
  | propose kind height sunset reporter hexiting =>
    exact h.proposed (hne hexiting (by decide)) kind height sunset reporter hexiting
  | _ => exact h.frame (by intro; first | rfl | exact b.withSeat_same _ rfl _) rfl

lemma receipt (hb : Blank b) (hr : Receipt number amount b b') : Registered b' := by
  cases hr with
  | openSeat _ hattester hunused => exact h.opened hb _ hattester hunused
  | _ => exact h.frame (fun _ => rfl) rfl

lemma payout (hp : Payout amount b b') : Registered b' := by
  cases hp with
  | withdraw hexiting =>
    refine h.frame (b.withSeat_same Seat.ring ?_) rfl
    simp [Seat.ring, hexiting]
  | _ => exact h.frame (by intro; first | rfl | exact b.withSeat_same _ rfl _) rfl

end Registered

lemma Reachable.registered [Zero H] {s : Stage H} (h : Reachable K s) : Registered s.books := by
  refine h.invariant ?change ?receipt ?payout ?new
  case new =>
    intro b hb
    rw [hb.rest]
    refine ⟨fun _ _ => rfl, rfl, fun seatId => ?_⟩
    constructor <;> simp
  case change => exact fun hrun hb hc => hb.change hrun.blank hc
  case receipt => exact fun hrun hb hr => hb.receipt hrun.blank hr
  case payout => exact fun _ hb hp => hb.payout hp

/-! ### Keys are bound for ever -/

def KeyInfo.binding (k : KeyInfo) : Nat × Role := (k.seatId, k.role)

lemma Step.binding {n n' : Nat} (h : Step K ⟨b, n⟩ ⟨b', n'⟩)
    (hkey : (b.keys key).seatId ≠ 0) : (b'.keys key).binding = (b.keys key).binding := by
  have hold {k : Address} (hunused : (b.keys k).seatId = 0) : key ≠ k := by
    rintro rfl
    exact hkey hunused
  cases h with
  | change hc =>
    cases hc with
    | rotate _ _ hunused => simp [rotated, update_of_ne (hold hunused)]
    | setSigningKey _ _ _ hunused =>
      simp [signingKeySet, update_of_ne (hold hunused), binding,
        withoutSigning_seatId, withoutSigning_role]
    | @applyRotation seatId =>
      simp only [rotationApplied, binding]
      by_cases heq : key = (b.seats seatId).pendingAttester
      · rw [heq, update_self]
        simp
      · simp [update_of_ne heq]
    | exit => simp [exited, binding]
    | propose => simp [proposed, binding]
    | _ => rfl
  | receipt hr =>
    cases hr with
    | openSeat _ _ hunused => simp [opened, update_of_ne (hold hunused)]
    | _ => rfl
  | payout hp => cases hp <;> rfl
  | tick => rfl

lemma Steps.binding {σ σ' : Stage H} (h : Steps K σ σ') (hkey : (σ.books.keys key).seatId ≠ 0) :
    (σ'.books.keys key).binding = (σ.books.keys key).binding := by
  induction h with
  | refl => rfl
  | tail _ hstep ih =>
    have hid : _ = (σ.books.keys key).seatId := congrArg Prod.fst ih
    exact (hstep.binding (hid.trans_ne hkey)).trans ih

/-! ### The registry -/

/-- The key is the attester or the signing key of the seat now. -/
def Seat.Current (x : Seat) (key : Address) : Prop :=
  key ≠ 0 ∧ (x.attester = key ∨ x.signingKey = key)

namespace Registered

lemma seatId_of_current (h : Registered b)
    (hkey : (b.seats seatId).Current key) : (b.keys key).seatId = seatId := by
  obtain ⟨h0, rfl | rfl⟩ := hkey
  · exact ((h.seat seatId).attester_bound h0).1
  · exact ((h.seat seatId).signing_bound h0).1

lemma active_of_current (h : Registered b)
    (hbonded : (b.seats seatId).status = .BONDED) (hkey : (b.seats seatId).Current key) :
    (b.keys key).active = true := by
  obtain ⟨h0, rfl | rfl⟩ := hkey
  · exact (h.seat seatId).attester.mpr hbonded
  · exact (h.seat seatId).signing hbonded h0

/-- An active key is one of a bonded seat, unless it is the signing key of a seat that is not. -/
lemma current_of_active (h : Registered b)
    (hsigning : key ≠ 0 → ∀ seatId, (b.seats seatId).signingKey = key →
      (b.seats seatId).status = .BONDED) (hactive : (b.keys key).active = true) :
    ∃ seatId, (b.seats seatId).status = .BONDED ∧ (b.seats seatId).Current key := by
  have h0 := h.ne_zero_of_active hactive
  have hkey := (h.seat _).active key rfl hactive
  refine ⟨(b.keys key).seatId, ?_, h0, hkey⟩
  rcases hkey with heq | heq
  · exact (h.seat _).attester.mp (heq.symm ▸ hactive)
  · exact hsigning h0 _ heq

end Registered

namespace Deployment

variable [DecidableEq H] [Zero H] {w : State H}

/-- **The key registry.** A key that has been registered keeps its seat and its role for ever, the
keys of a seat are bound to that seat, and so to no other, and a key is active exactly when it is
the attester or the signing key of a bonded seat, but for the signing keys of seats that are not
bonded any more. -/
theorem key_registry (K : Deployment H) (h : K.Moment w) :
    let b := w.store.toBooks
    (∀ key, (b.keys key).seatId ≠ 0 → ∀ w', K.Later w w' →
      (w'.store.keys key).seatId = (b.keys key).seatId ∧
        (w'.store.keys key).role = (b.keys key).role) ∧
    (∀ seatId key, key ≠ 0 → ((b.seats seatId).attester = key ∨
      (b.seats seatId).pendingAttester = key ∨ (b.seats seatId).signingKey = key) →
      (b.keys key).seatId = seatId) ∧
    ∀ key, (key ≠ 0 → ∀ seatId, (b.seats seatId).signingKey = key →
        (b.seats seatId).status = .BONDED) →
      ((b.keys key).active = true ↔
        ∃ seatId, (b.seats seatId).status = .BONDED ∧ (b.seats seatId).Current key) := by
  have hreg := h.reachable.registered
  refine ⟨fun key hkey w' hlater => ?_, fun seatId key h0 huses => ?_, fun key hsigning => ?_⟩
  · have hbinding := (hlater.steps h).binding hkey
    exact ⟨congrArg Prod.fst hbinding, congrArg Prod.snd hbinding⟩
  · rcases huses with rfl | rfl | rfl
    · exact ((hreg.seat seatId).attester_bound h0).1
    · exact ((hreg.seat seatId).pending_bound h0).1
    · exact ((hreg.seat seatId).signing_bound h0).1
  · refine ⟨hreg.current_of_active hsigning, ?_⟩
    rintro ⟨seatId, hbonded, hkey⟩
    exact hreg.active_of_current hbonded hkey

def sampleSigned : State Digest :=
  ([sampleSeat 41 51, .call 41 0 (.setSigningKey 1 71 (sampleSignature 71))].foldlM
    sampleHub.perform sampleNew).get (by decide +kernel)

lemma sampleSigned_moment : sampleHub.Moment sampleSigned :=
  moment_of_perform sampleNew_deployed (Option.some_get _).symm

/-- The attester of seat `1` is active, and bound to it. -/
theorem key_registry_signed :
    (sampleSigned.store.keys 51).seatId = 1 ∧
    ((sampleSigned.store.keys 51).active = true ↔
      ∃ seatId, (sampleSigned.store.seats seatId).status = .BONDED ∧
        (sampleSigned.store.seats seatId).Current 51) := by
  obtain ⟨-, hbound, hactive⟩ := key_registry sampleHub sampleSigned_moment
  have hseat : (sampleSigned.store.keys 51).seatId = 1 := by decide +kernel
  refine ⟨hseat, hactive 51 fun h0 seatId hkey => ?_⟩
  have hid := hbound seatId 51 h0 (.inr (.inr hkey))
  rw [hseat] at hid
  subst hid
  decide +kernel

def sampleExited : State Digest :=
  ([sampleSeat 41 51, .call 41 0 (.setSigningKey 1 71 (sampleSignature 71)),
    .call 41 0 (.requestExit 1)].foldlM sampleHub.perform sampleNew).get (by decide +kernel)

/-- **The signing key outlives its seat**: after `requestExit` it is still active, though no bonded
seat has it. -/
theorem signing_key_active_after_exit :
    sampleHub.Moment sampleExited ∧ (sampleExited.store.keys 71).active = true ∧
      ¬ ∃ seatId, (sampleExited.store.seats seatId).status = .BONDED ∧
        (sampleExited.store.seats seatId).Current 71 := by
  have hmoment : sampleHub.Moment sampleExited :=
    moment_of_perform sampleNew_deployed (Option.some_get _).symm
  refine ⟨hmoment, by decide +kernel, ?_⟩
  rintro ⟨seatId, hbonded, hkey⟩
  have hid : (sampleExited.store.keys 71).seatId = seatId :=
    hmoment.reachable.registered.seatId_of_current hkey
  have hseat : (sampleExited.store.keys 71).seatId = 1 := by decide +kernel
  rw [← hid, hseat] at hbonded
  revert hbonded
  decide +kernel

end Deployment

end Ferminux.Hub
