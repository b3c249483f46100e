import Ferminux.Agents.X402Vault
import Ferminux.Lib.Sums
import Mathlib.Data.FinEnum

/-!
# Agents.X402VaultSafety

**The vault covers its deposits and credits, debits a voucher once, and holds the unlock delay.** The
log says who was debited for what: a deposit is what was deposited less what was withdrawn and
settled. Only the payer's own calls touch the time of the unlock (`Step`).
-/

namespace Ferminux.Agents.X402Vault

open Lib Function List Finset

variable {recover : Voucher → Text → Address} {m : Call} {calls : List (Call × Method)}
  {s s' s'' : Vault} {v : Voucher} {call : Call × Method}

def deposited (p : Address) : Event → Nat
  | .Deposited payer amount => if payer = p then amount else 0
  | _ => 0

def withdrawn (p : Address) : Event → Nat
  | .Withdrawn dest amount => if dest = p then amount else 0
  | _ => 0

def charged (p : Address) : Event → Nat
  | .Settled v _ => if v.payer = p then v.amount else 0
  | _ => 0

def total (f : Event → Nat) (log : List Event) : Nat := (log.map f).sum

@[simp] lemma total_cons (f : Event → Nat) (e : Event) (log : List Event) :
    total f (e :: log) = f e + total f log := by
  simp [total]

def Event.voucher? : Event → Option Voucher
  | .Settled v _ => some v
  | _ => none

def Vault.settled (s : Vault) : List Voucher := s.log.filterMap Event.voucher?

def Method.vouchers : Method → List (Voucher × Text)
  | .settle v sig => [(v, sig)]
  | .settleBatch vs sigs => vs.zip sigs
  | _ => []

/-- One of the calls carries the voucher, in time and with the payer's signature. -/
def Authorised (recover : Voucher → Text → Address) (calls : List (Call × Method))
    (v : Voucher) : Prop :=
  ∃ call ∈ calls, ∃ sig, (v, sig) ∈ call.2.vouchers ∧ call.1.timestamp ≤ v.expiry ∧
    Signed recover call.1 v sig

/-- The call is one of the calls, whatever happens when it pays. -/
def Among (calls : List (Call × Method)) (call : Call × Method) : Prop :=
  ∃ back, ({ call.1 with back }, call.2) ∈ calls

/-- What holds at all times. -/
structure Sound (recover : Voucher → Text → Address) (calls : List (Call × Method))
    (s : Vault) : Prop where
  fee : s.feeBps ≤ BPS
  solvent : ∑ a, s.balance a + ∑ a, s.credits a ≤ s.held
  ledger : ∀ p, s.balance p + total (withdrawn p) s.log + total (charged p) s.log =
    total (deposited p) s.log
  once : (s.settled.map fun v => (v.payer, v.nonce)).Nodup
  used : ∀ v ∈ s.settled, s.used v.payer v.nonce = true
  signed : ∀ v ∈ s.settled, Authorised recover calls v

/-- What a call does to the locks: only a payer whose unlock is due withdraws. -/
structure Step (m : Call) (s s' : Vault) : Prop where
  lock : ∀ p, s'.unlockAt p = s.unlockAt p ∨ s'.unlockAt p = 0 ∨
    s'.unlockAt p = m.timestamp + UNLOCK_DELAY
  withdrawals : ∀ p, total (withdrawn p) s'.log = total (withdrawn p) s.log ∨
    s.unlockAt p ≠ 0 ∧ s.unlockAt p ≤ m.timestamp

/-- The locks and the withdrawals are left. -/
structure Quiet (s s' : Vault) : Prop where
  lock : s'.unlockAt = s.unlockAt
  withdrawals : ∀ p, total (withdrawn p) s'.log = total (withdrawn p) s.log

lemma Quiet.refl (s : Vault) : Quiet s s := ⟨rfl, fun _ => rfl⟩

lemma Quiet.trans (h : Quiet s s') (h' : Quiet s' s'') : Quiet s s'' :=
  ⟨h'.lock.trans h.lock, fun p => (h'.withdrawals p).trans (h.withdrawals p)⟩

lemma Quiet.step (h : Quiet s s') : Step m s s' :=
  ⟨fun p => .inl (congrFun h.lock p), fun p => .inl (h.withdrawals p)⟩

variable (h : Sound recover calls s)

include h in
/-- An event that moves only `x`'s deposit keeps the ledger. -/
lemma Sound.ledger_update {x : Address} {n : Nat} {e : Event}
    (hx : n + withdrawn x e + charged x e = s.balance x + deposited x e)
    (hother : ∀ p ≠ x, withdrawn p e = 0 ∧ charged p e = 0 ∧ deposited p e = 0) (p : Address) :
    update s.balance x n p + total (withdrawn p) (e :: s.log) + total (charged p) (e :: s.log) =
      total (deposited p) (e :: s.log) := by
  have := h.ledger p
  simp only [total_cons]
  by_cases hp : p = x
  · subst hp
    rw [update_self]
    omega
  · obtain ⟨hw, hc, hd⟩ := hother p hp
    rw [update_of_ne hp]
    omega

include h in
lemma Sound.locks (unlockAt : Address → Nat) : Sound recover calls { s with unlockAt } :=
  ⟨h.1, h.2, h.3, h.4, h.5, h.6⟩

lemma lock_update (x : Address) {n : Nat} (hn : n = 0 ∨ n = m.timestamp + UNLOCK_DELAY)
    (p : Address) : update s.unlockAt x n p = s.unlockAt p ∨ update s.unlockAt x n p = 0 ∨
        update s.unlockAt x n p = m.timestamp + UNLOCK_DELAY := by
  by_cases hp : p = x
  · rw [hp, update_self]
    exact .inr hn
  · exact .inl (update_of_ne hp ..)

include h in
lemma post_deposit (payer : Address) :
    Post (deposit m payer) (fun _ s' => Sound recover calls s' ∧ Step m s s') s := by
  simp only [deposit, relock, post_steps, post_ite]
  intro _
  have hsum := sum_update s.balance payer (s.balance payer + m.value)
  have hsolvent := h.solvent
  have hsound : Sound recover calls { s with
      balance := update s.balance payer (s.balance payer + m.value)
      held := s.held + m.value
      log := .Deposited payer m.value :: s.log } :=
    ⟨h.fee, by dsimp only; omega, h.ledger_update (by simp [withdrawn, charged, deposited])
      fun p hp => by simp [withdrawn, charged, deposited, hp.symm], h.once, h.used, h.signed⟩
  have hquiet (p : Address) : total (withdrawn p) (.Deposited payer m.value :: s.log) =
      total (withdrawn p) s.log := by simp [withdrawn]
  exact ⟨fun _ => ⟨hsound.locks _, lock_update payer (.inl rfl), fun p => .inl (hquiet p)⟩,
    fun _ => ⟨hsound, fun _ => .inl rfl, fun p => .inl (hquiet p)⟩⟩

/-- The call itself does what `Q` says, and behind it stand the calls of a receiver. -/
def Then (m : Call) (Q : Vault → Prop) (s' : Vault) : Prop :=
  ∃ s₁, Q s₁ ∧ (s' = s₁ ∨ s' = { m.back s₁ with lock := false })

include h in
lemma post_withdraw (amount : Nat) : Post (withdraw m amount)
    (fun _ s' => Then m (fun s₁ => Sound recover calls s₁ ∧ Step m s s₁) s') s := by
  simp only [withdraw, nonReentrant, pay, post_steps]
  intro _ hlocked hdue _ hle hpaid
  have hsum := sum_update s.balance m.sender (s.balance m.sender - amount)
  have hsolvent := h.solvent
  refine ⟨_, ?_, .inr rfl⟩
  refine ⟨⟨h.fee, by dsimp only; omega, h.ledger_update
      (by simp only [withdrawn, charged, deposited, if_true]; omega)
      fun p hp => by simp [withdrawn, charged, deposited, hp.symm], h.once, h.used, h.signed⟩,
    lock_update m.sender (.inl rfl), fun p => ?_⟩
  by_cases hp : p = m.sender
  · exact .inr (hp ▸ ⟨hlocked, hdue⟩)
  · exact .inl (by simp [withdrawn, Ne.symm hp])

include h in
lemma post_withdrawCredits : Post (withdrawCredits m)
    (fun _ s' => Then m (fun s₁ => Sound recover calls s₁ ∧ Step m s s₁) s') s := by
  simp only [withdrawCredits, nonReentrant, pay, post_steps]
  intro _ _ hpaid
  have hsum := sum_update s.credits m.sender 0
  have hsolvent := h.solvent
  refine ⟨_, ?_, .inr rfl⟩
  exact ⟨⟨h.fee, by dsimp only; omega, h.ledger, h.once, h.used, h.signed⟩, (Quiet.refl s).step.1,
    (Quiet.refl s).step.2⟩

lemma post_verify (sig : Text) (batch : Bool) :
    Post (verify recover m v sig batch) (fun r s' => s' = s ∧ (r = none →
      m.timestamp ≤ v.expiry ∧ s.used v.payer v.nonce = false ∧ v.amount ≤ s.balance v.payer ∧
        Signed recover m v sig)) s := by
  simp only [verify, post_steps, post_ite]
  grind

include h in
lemma post_settleVoucher (hunused : s.used v.payer v.nonce = false)
    (hle : v.amount ≤ s.balance v.payer) (hauth : Authorised recover calls v) :
    Post (settleVoucher v) (fun _ s' => Sound recover calls s' ∧ Quiet s s') s := by
  simp only [settleVoucher, credit, post_steps, post_ite]
  generalize hfee : v.amount * s.feeBps / BPS = fee
  have hcut : fee ≤ v.amount := by
    rw [← hfee]
    exact Nat.div_le_of_le_mul (Nat.mul_comm BPS _ ▸ Nat.mul_le_mul_left _ h.fee)
  have hbalance := sum_update s.balance v.payer (s.balance v.payer - v.amount)
  have hpayee := sum_update s.credits v.payee (s.credits v.payee + (v.amount - fee))
  have hsolvent := h.solvent
  -- whatever the credits are, the deposit goes down by the amount, under a nonce that was not used
  have hsound {credits : Address → Nat} (hcredits : ∑ a, credits a ≤ ∑ a, s.credits a + v.amount) :
      Sound recover calls { s with
        used := update s.used v.payer (update (s.used v.payer) v.nonce true)
        balance := update s.balance v.payer (s.balance v.payer - v.amount)
        log := .Settled v fee :: s.log
        credits } := by
    have hold {u : Voucher} (hu : u ∈ s.settled) : (u.payer, u.nonce) ≠ (v.payer, v.nonce) := by
      intro heq
      have := h.used u hu
      rw [(Prod.mk.inj heq).1, (Prod.mk.inj heq).2, hunused] at this
      cases this
    refine ⟨h.fee, by dsimp only; omega, h.ledger_update
      (by simp only [withdrawn, charged, deposited, if_true]; omega)
      fun p hp => by simp [withdrawn, charged, deposited, hp.symm], ?_, fun u hu => ?_, fun u hu => ?_⟩
    · refine nodup_cons.mpr ⟨fun hmem => ?_, h.once⟩
      obtain ⟨u, hu, heq⟩ := mem_map.mp hmem
      exact hold hu heq
    · rcases mem_cons.mp hu with rfl | hu
      · simp
      · by_cases hpayer : u.payer = v.payer
        · have hnonce : u.nonce ≠ v.nonce := fun hn => hold hu (by rw [hpayer, hn])
          simp only [hpayer, update_self, update_of_ne hnonce]
          exact hpayer ▸ h.used u hu
        · simp only [update_of_ne hpayer]
          exact h.used u hu
    · rcases mem_cons.mp hu with rfl | hu
      · exact hauth
      · exact h.signed u hu
  have hquiet (p : Address) : total (withdrawn p) (.Settled v fee :: s.log) =
      total (withdrawn p) s.log := by simp [withdrawn]
  refine ⟨fun _ => ?_, fun hzero => ⟨hsound (by omega), rfl, hquiet⟩⟩
  have hfees := sum_update (update s.credits v.payee (s.credits v.payee + (v.amount - fee)))
    s.feeRecipient (update s.credits v.payee (s.credits v.payee + (v.amount - fee)) s.feeRecipient + fee)
  exact ⟨hsound (by omega), rfl, hquiet⟩

include h in
/-- A voucher of one of the calls is settled, or nothing is. -/
lemma post_settleOr (hcall : Among calls call)
    {entry : Voucher × Text} (hentry : entry ∈ call.2.vouchers) {invalid : String → VaultM Unit}
    (hinvalid : ∀ reason, Post (invalid reason) (fun _ s' => s' = s) s) (batch : Bool) :
    Post (settleOr recover call.1 batch invalid entry)
      (fun _ s' => Sound recover calls s' ∧ Quiet s s') s := by
  rw [settleOr, post_bind]
  refine (post_verify entry.2 batch).mono fun r s₁ hr => ?_
  obtain ⟨rfl, hvalid⟩ := hr
  cases r with
  | some reason =>
    refine (hinvalid reason).mono fun _ s2 heq => ?_
    rw [heq]
    exact ⟨h, Quiet.refl s₁⟩
  | none =>
    obtain ⟨hexpiry, hunused, hle, hsigned⟩ := hvalid rfl
    obtain ⟨back, hcall⟩ := hcall
    exact post_settleVoucher h hunused hle ⟨_, hcall, entry.2, hentry, hexpiry, hsigned⟩

lemma post_settleAll (hcall : Among calls call)
    {entries : List (Voucher × Text)} (hentries : ∀ entry ∈ entries, entry ∈ call.2.vouchers)
    (h : Sound recover calls s) :
    Post (entries.forM (settleOr recover call.1 true fun _ => pure ()))
      (fun _ s' => Sound recover calls s' ∧ Quiet s s') s := by
  induction entries generalizing s with
  | nil => exact post_pure.mpr ⟨h, Quiet.refl s⟩
  | cons entry _ ih =>
    rw [forM_eq_forM, forM_cons, post_bind]
    refine (post_settleOr h hcall (hentries entry mem_cons_self)
      (fun _ => post_pure.mpr rfl) true).mono fun _ s₁ h1 => ?_
    refine (ih (fun e he => hentries e (mem_cons_of_mem _ he)) h1.1).mono fun _ _ h2 => ?_
    exact ⟨h2.1, h1.2.trans h2.2⟩

include h in
/-- **One call** keeps the books, and withdraws only what is unlocked. -/
theorem post_perform (hcall : Among calls call) : Post (perform recover call)
      (fun _ s' => Then call.1 (fun s₁ => Sound recover calls s₁ ∧ Step call.1 s s₁) s') s := by
  obtain ⟨m, f⟩ := call
  have hquiet := (Quiet.refl s).step (m := m)
  have hown {x : VaultM Unit} (hx : Post x (fun _ s' => Sound recover calls s' ∧ Step m s s') s) :
      Post x (fun _ s' => Then m (fun s₁ => Sound recover calls s₁ ∧ Step m s s₁) s') s :=
    hx.mono fun _ s' h' => ⟨s', h', .inl rfl⟩
  cases f with
  | deposit => exact hown (post_deposit h m.sender)
  | depositFor payer =>
    simp only [perform, depositFor, post_bind, post_lift, require_eq_ok, forall_unit]
    exact fun _ => hown (post_deposit h payer)
  | requestUnlock =>
    exact hown (post_modify.mpr ⟨h.locks _, lock_update m.sender (.inr rfl), hquiet.2⟩)
  | relock => exact hown (post_modify.mpr ⟨h.locks _, lock_update m.sender (.inl rfl), hquiet.2⟩)
  | withdraw amount => exact post_withdraw h amount
  | withdrawCredits => exact post_withdrawCredits h
  | settle =>
    exact hown ((post_settleOr h hcall mem_cons_self (fun _ => post_throw.mpr trivial) false).mono
      fun _ _ h' => ⟨h'.1, h'.2.step⟩)
  | settleBatch =>
    simp only [perform, settleBatch, post_bind, post_lift, require_eq_ok, forall_unit]
    exact fun _ => hown ((post_settleAll hcall (fun _ he => he) h).mono
      fun _ _ h' => ⟨h'.1, h'.2.step⟩)
  | setFee =>
    refine hown ?_
    simp only [perform, setFee, onlyGovernance, post_steps]
    exact fun _ hmax => ⟨⟨hmax.trans (by decide), h.2, h.3, h.4, h.5, h.6⟩, hquiet.1, hquiet.2⟩
  | setFeeRecipient =>
    refine hown ?_
    simp only [perform, setFeeRecipient, onlyGovernance, post_steps]
    exact fun _ _ => ⟨⟨h.1, h.2, h.3, h.4, h.5, h.6⟩, hquiet.1, hquiet.2⟩
  | setGovernance =>
    refine hown ?_
    simp only [perform, setGovernance, onlyGovernance, post_steps]
    exact fun _ _ => ⟨⟨h.1, h.2, h.3, h.4, h.5, h.6⟩, hquiet.1, hquiet.2⟩
  | arrive =>
    exact hown (post_modify.mpr ⟨⟨h.1, h.2.trans (Nat.le_add_right ..), h.3, h.4, h.5, h.6⟩,
      hquiet.1, hquiet.2⟩)

/-- **The run rule**: what every call keeps itself, a run with the calls in the middle keeps. -/
theorem Run.rel {I : Vault → Prop} {R : Vault → Vault → Prop} (hrefl : ∀ s, R s s)
    (htrans : ∀ {s₁ s2 s3}, R s₁ s2 → R s2 s3 → R s₁ s3)
    (hlock : ∀ s lock, I s → I { s with lock } ∧ R s { s with lock })
    (hstep : ∀ call, Among calls call → ∀ s, I s →
      Post (perform recover call) (fun _ s' => Then call.1 (fun s₁ => I s₁ ∧ R s s₁) s') s)
    (hrun : Run recover calls s s') (hs : I s) : I s' ∧ R s s' := by
  induction hrun with
  | nil => exact ⟨hs, hrefl _⟩
  | @cons call inner rest s s' _ _ ihback ihrest =>
    have hcall : I (attempt (perform recover call) s) ∧ R s (attempt (perform recover call) s) := by
      refine attempt_of_post (Q := fun s' => I s' ∧ R s s') ⟨hs, hrefl s⟩
        ((hstep call ⟨_, mem_cons_self⟩ s hs).mono fun _ s2 ⟨s₁, hs1, heq⟩ => ?_)
      rcases heq with rfl | rfl
      · exact hs1
      · have hback := ihback s₁ (fun c ⟨back, hc⟩ =>
          hstep c ⟨back, mem_cons_of_mem _ (mem_append_left _ hc)⟩) hs1.1
        have hfree := hlock _ false hback.1
        exact ⟨hfree.1, htrans (htrans hs1.2 hback.2) hfree.2⟩
    have hrest := ihrest (fun c ⟨back, hc⟩ =>
      hstep c ⟨back, mem_cons_of_mem _ (mem_append_right _ hc)⟩) hcall.1
    exact ⟨hrest.1, htrans hcall.2 hrest.2⟩

/-- The same at every moment: what is handed over has been kept, too. -/
theorem Moment.rel {I : Vault → Prop} {R : Vault → Vault → Prop} (hrefl : ∀ s, R s s)
    (htrans : ∀ {s₁ s2 s3}, R s₁ s2 → R s2 s3 → R s₁ s3)
    (hlock : ∀ s lock, I s → I { s with lock } ∧ R s { s with lock })
    (hstep : ∀ call, Among calls call → ∀ s, I s →
      Post (perform recover call) (fun _ s' => Then call.1 (fun s₁ => I s₁ ∧ R s s₁) s') s)
    (hmoment : Moment recover calls s s') (hs : I s) : I s' ∧ R s s' := by
  induction hmoment with
  | behind hrun => exact hrun.rel hrefl htrans hlock hstep hs
  | @during before inner call s s₁ s₂ s' hbefore hpays _ ih =>
    have h1 := hbefore.rel hrefl htrans hlock
      (fun c ⟨back, hc⟩ => hstep c ⟨back, mem_append_left _ hc⟩) hs
    -- a receiver that does nothing shows what it was handed
    obtain ⟨s3, h3, heq⟩ := hstep ({ call.1 with back := id }, call.2)
      ⟨call.1.back, mem_append_right _ mem_cons_self⟩ s₁ h1.1 _ _ (hpays id)
    have h2 : I s₂ ∧ R s₁ s₂ := by
      have hs2 : s₂ = { s3 with lock := s₂.lock } := by
        rcases heq with rfl | heq
        · rfl
        · cases s₂
          cases s3
          cases heq
          rfl
      have h := hlock s3 s₂.lock h3.1
      rw [← hs2] at h
      exact ⟨h.1, htrans h3.2 h.2⟩
    have h' := ih (fun c ⟨back, hc⟩ =>
      hstep c ⟨back, mem_append_right _ (mem_cons_of_mem _ hc)⟩) h2.1
    exact ⟨h'.1, htrans h1.2 (htrans h2.2 h'.2)⟩

/-- **The vault is safe.** Whatever is called in whatever order, at every moment, and while somebody
who is paid is calling: the vault holds the deposits and the credits; a deposit is what was
deposited less what was withdrawn and settled; every settled voucher was signed by its payer and in
time, and no two have payer and nonce in common; and whoever has requested no unlock withdraws
nothing in the next hour. -/
theorem vault_safe {governance feeRecipient : Address} {before rest : List (Call × Method)}
    (hbefore : Moment recover before { governance, feeRecipient } s)
    (hrest : Moment recover rest s s') :
    ∑ a, s'.balance a + ∑ a, s'.credits a ≤ s'.held ∧
    (∀ p, s'.balance p + total (withdrawn p) s'.log + total (charged p) s'.log =
      total (deposited p) s'.log) ∧
    (s'.settled.map fun v => (v.payer, v.nonce)).Nodup ∧
    (∀ v ∈ s'.settled, Authorised recover (before ++ rest) v) ∧
    ∀ t p, s.unlockAt p = 0 →
      (∀ call ∈ rest, t ≤ call.1.timestamp ∧ call.1.timestamp < t + 3600) →
        total (withdrawn p) s'.log = total (withdrawn p) s.log := by
  have hstart : Sound recover (before ++ rest) { governance, feeRecipient } :=
    ⟨Nat.le_of_ble_eq_true rfl, by simp, fun _ => rfl, nodup_nil, by simp [Vault.settled],
      by simp [Vault.settled]⟩
  have hkept {calls : List (Call × Method)} {s s' : Vault} (hrun : Moment recover calls s s')
      (hsub : ∀ call ∈ calls, call ∈ before ++ rest) (hs : Sound recover (before ++ rest) s) :
      Sound recover (before ++ rest) s' :=
    (hrun.rel (R := fun _ _ => True) (fun _ => trivial) (fun _ _ => trivial)
      (fun _ _ h => ⟨⟨h.1, h.2, h.3, h.4, h.5, h.6⟩, trivial⟩)
      (fun call ⟨back, hcall⟩ s hs => (post_perform hs ⟨back, hsub _ hcall⟩).mono
        fun _ _ ⟨s₁, h1, heq⟩ => ⟨s₁, ⟨h1.1, trivial⟩, heq⟩) hs).1
  have hmem {call : Call × Method} (hcall : call ∈ rest) := mem_append_right before hcall
  have hs := hkept hbefore (fun _ hcall => mem_append_left rest hcall) hstart
  have hs' := hkept hrest (fun _ => hmem) hs
  refine ⟨hs'.solvent, hs'.ledger, hs'.once, hs'.signed, fun t p hlocked htimes => ?_⟩
  -- the unlock is not requested, or was requested in that hour
  refine (hrest.rel (I := fun s => Sound recover (before ++ rest) s ∧
      (s.unlockAt p = 0 ∨ t + 3600 ≤ s.unlockAt p))
    (R := fun s s' => total (withdrawn p) s'.log = total (withdrawn p) s.log)
    (fun _ => rfl) (fun h h' => h'.trans h)
    (fun _ _ h => ⟨⟨⟨h.1.1, h.1.2, h.1.3, h.1.4, h.1.5, h.1.6⟩, h.2⟩, rfl⟩) ?_
    ⟨hs, .inl hlocked⟩).2
  rintro call ⟨back, hcall⟩ s₁ hs1
  obtain ⟨hfrom, hto⟩ := htimes _ hcall
  refine (post_perform hs1.1 ⟨back, hmem hcall⟩).mono fun _ s3 ⟨s2, h2, heq⟩ =>
    ⟨s2, ⟨⟨h2.1, ?_⟩, ?_⟩, heq⟩
  · rcases h2.2.lock p with heq | heq | heq <;> rw [heq]
    · exact hs1.2
    · exact .inl rfl
    · exact .inr (Nat.add_le_add_right hfrom _)
  · refine (h2.2.withdrawals p).resolve_right fun ⟨hne, hdue⟩ => ?_
    have := hs1.2.resolve_left hne
    dsimp only at hto
    omega

/-- Everybody signs for `1`, who owes `2` fifty. -/
def sampleVoucher : Voucher := ⟨1, 2, 50, 7, 10, 0⟩

/-- `1` deposits a hundred, and the voucher is settled. -/
def samplePaid : List (Call × Method) :=
  [({ sender := 1, value := 100, timestamp := 0 }, .deposit),
    ({ sender := 2, value := 0, timestamp := 5 }, .settle sampleVoucher [])]

def sampleOwing : Vault :=
  samplePaid.foldl (fun s call => attempt (perform (fun _ _ => 1) call) s)
    { governance := 3, feeRecipient := 4 }

/-- `1` requests the unlock and withdraws too early. `2` withdraws the credits and, while it is
paid, deposits five for `1`. -/
def sampleWithdrawal : List (Call × Method) :=
  [({ sender := 1, value := 0, timestamp := 6 }, .requestUnlock),
    ({ sender := 1, value := 0, timestamp := 7 }, .withdraw 5),
    ({ sender := 2, value := 0, timestamp := 7 }, .withdrawCredits),
    ({ sender := 2, value := 5, timestamp := 7 }, .depositFor 1)]

/-- What `2` is handed. -/
def sampleHanded : Vault :=
  { sampleOwing with
    unlockAt := update sampleOwing.unlockAt 1 3606
    credits := update sampleOwing.credits 2 0, lock := true, held := 50 }

/-- In the middle of the payment the voucher has been debited once, and the books are covered. -/
theorem vault_safe_paying : ∃ s' : Vault, s'.lock = true ∧ s'.balance 1 = 55 ∧
    s'.unlockAt 1 = 3606 ∧ s'.settled = [sampleVoucher] ∧
    Authorised (fun _ _ => 1) (samplePaid ++ sampleWithdrawal) sampleVoucher ∧
    ∑ a, s'.balance a + ∑ a, s'.credits a ≤ s'.held ∧
    total (withdrawn 1) s'.log = total (withdrawn 1) sampleOwing.log := by
  have hpaid : Run (fun _ _ => 1) samplePaid { governance := 3, feeRecipient := 4 } sampleOwing :=
    @Run.cons _ _ [] _ _ _ (fun _ => .nil) (@Run.cons _ _ [] [] _ _ (fun _ => .nil) .nil)
  have hpaying : Moment (fun _ _ => 1) sampleWithdrawal sampleOwing _ :=
    @Moment.during _ (sampleWithdrawal.take 2) _ _ _ _ sampleHanded _
      (@Run.cons _ _ [] _ _ _ (fun _ => .nil) (@Run.cons _ _ [] [] _ _ (fun _ => .nil) .nil))
      (fun _ => rfl)
      (.behind (@Run.cons _ _ [] [] _ _ (fun _ => .nil) .nil))
  obtain ⟨hsolvent, -, -, hsigned, hlocked⟩ := vault_safe (.behind hpaid) hpaying
  refine ⟨_, rfl, rfl, rfl, rfl, hsigned _ (by exact List.mem_singleton.mpr rfl), hsolvent, ?_⟩
  exact hlocked 5 1 rfl (by decide)

end Ferminux.Agents.X402Vault
