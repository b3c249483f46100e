import Ferminux.Hub.Eligibility

/-!
# Hub.Participation

**What the hub knows about a seat's participation is what happened.** The ring of a seat holds
exactly the checkpoints the hub has accepted from it, so that the participation views count
accepted attestations; and a seat is jailed only over checkpoints it was on duty for, from the
first block of their inclusion windows to the last.
-/

namespace Ferminux.Hub

open Lib Relation List Nat Books

attribute [local irreducible] Books.withSeat

variable {H : Type} {K : Deployment H} {b b' : Books H} {number amount : Nat}

/-! ### The ring is exact -/

def Event.accepts (seatId : Nat) : Event H → Option Nat
  | .Attested id height _ => if id = seatId then some (height / CHECKPOINT_INTERVAL) else none
  | _ => none

/-- The checkpoints that have been accepted from a seat, newest first. -/
def acceptedCheckpoints (log : Log H) (seatId : Nat) : List Nat :=
  log.filterMap fun e => e.2.accepts seatId

lemma Event.accepts_of_inert {e : Event H} (he : e.inert = true) (seatId : Nat) :
    e.accepts seatId = none := by
  cases e with
  | Attested => cases he
  | _ => rfl

/-- The rings hold what has been accepted, which is older than the next checkpoint to close. -/
structure Recorded (b : Books H) (number : Nat) : Prop where
  exact : ∀ i, Exact (b.bits i) (b.seats i).lastAttestedCp (· ∈ acceptedCheckpoints b.log i)
  nodup : ∀ i, (acceptedCheckpoints b.log i).Nodup
  recent : ∀ i, (b.seats i).lastAttestedCp ≤ lastClosedCheckpoint number + 1

lemma lastClosedCheckpoint_mono {n n' : Nat} (h : n ≤ n') :
    lastClosedCheckpoint n ≤ lastClosedCheckpoint n' := by
  unfold lastClosedCheckpoint INCLUSION_END CHECKPOINT_INTERVAL
  split <;> split <;> omega

lemma Window.recent {height : Nat} (h : Window number height) :
    height / CHECKPOINT_INTERVAL ≤ lastClosedCheckpoint number + 1 := by
  have hstart := h.start
  unfold INCLUSION_DELAY at hstart
  unfold lastClosedCheckpoint INCLUSION_END CHECKPOINT_INTERVAL
  split <;> omega

namespace Recorded

variable (h : Recorded b number)
include h

lemma frame (hseats : ∀ i, (b'.seats i).lastAttestedCp = (b.seats i).lastAttestedCp)
    (hbits : b'.bits = b.bits)
    (hlog : ∀ i, acceptedCheckpoints b'.log i = acceptedCheckpoints b.log i) :
    Recorded b' number := by
  constructor <;> simp only [hseats, hbits, hlog]
  · exact h.exact
  · exact h.nodup
  · exact h.recent

lemma attested {seatId height : Nat} (hwindow : Window number height)
    (hnew : (b.seats seatId).lastAttestedCp < height / CHECKPOINT_INTERVAL) :
    Recorded (b.attestedBy number seatId height) number := by
  have hself : acceptedCheckpoints (b.attestedBy number seatId height).log seatId =
      height / CHECKPOINT_INTERVAL :: acceptedCheckpoints b.log seatId := by
    simp [attestedBy, acceptedCheckpoints, Event.accepts]
  have hother {i : Nat} (hi : i ≠ seatId) :
      acceptedCheckpoints (b.attestedBy number seatId height).log i =
        acceptedCheckpoints b.log i := by
    simp [attestedBy, acceptedCheckpoints, Event.accepts, hi.symm]
  constructor
  · intro i
    by_cases hi : i = seatId
    · subst hi
      rw [hself]
      simp only [mem_cons, attestedBy, Function.update_self, b.withSeat_self]
      exact (h.exact i).mark hnew
    · rw [hother hi]
      simp only [attestedBy, Function.update_of_ne hi, b.withSeat_of_ne hi]
      exact h.exact i
  · intro i
    by_cases hi : i = seatId
    · subst hi
      rw [hself, nodup_cons]
      exact ⟨fun hmem => not_le.mpr hnew ((h.exact i).le _ hmem).2, h.nodup i⟩
    · rw [hother hi]
      exact h.nodup i
  · intro i
    by_cases hi : i = seatId
    · subst hi
      simpa [attestedBy] using hwindow.recent
    · simp only [attestedBy, b.withSeat_of_ne hi]
      exact h.recent i

lemma change (hc : Change K number b b') : Recorded b' number := by
  cases hc with
  | rest e he =>
    refine h.frame (fun _ => rfl) rfl fun i => ?_
    rw [Books.emit, acceptedCheckpoints, filterMap_cons, e.accepts_of_inert he]
    rfl
  | attest hwindow _ _ _ _ hnew => exact h.attested hwindow hnew
  | _ => exact h.frame (by intro; first | rfl | exact b.withSeat_same _ rfl _) rfl fun _ => rfl

lemma receipt (hr : Receipt number amount b b') : Recorded b' number := by
  cases hr with
  | _ => exact h.frame (by intro; first | rfl | exact b.withSeat_same _ rfl _) rfl fun _ => rfl

lemma payout (hp : Payout amount b b') : Recorded b' number := by
  cases hp with
  | _ => exact h.frame (by intro; first | rfl | exact b.withSeat_same _ rfl _) rfl fun _ => rfl

/-- **What the ring counts in a range of checkpoints**, when the range is not older than the ring. -/
theorem countBits_eq (seatId : Nat) {start stop : Nat} (hle : start ≤ stop)
    (hstop : stop ≤ lastClosedCheckpoint number)
    (hstart : lastClosedCheckpoint number + 1 < start + RING) :
    countBits (b.bits seatId) (b.seats seatId).lastAttestedCp start stop =
      (acceptedCheckpoints b.log seatId).countP fun c => start ≤ c ∧ c ≤ stop := by
  have hrecent := h.recent seatId
  rw [(h.exact seatId).countBits_eq hle (by omega) (by omega), countP_eq_length_filter,
    ← toFinset_card_of_nodup ((h.nodup seatId).filter _)]
  congr 1
  ext c
  simp [and_comm]

end Recorded

lemma Reachable.recorded [Zero H] {s : Stage H} (h : Reachable K s) :
    Recorded s.books s.number := by
  refine h.induction ?change ?receipt ?payout ?tick ?new
  case new =>
    intro b hb
    have hnone (i : Nat) : acceptedCheckpoints b.log i = [] := by
      refine filterMap_eq_nil_iff.mpr fun e he => ?_
      exact e.2.accepts_of_inert (hb.log e he).2 i
    rw [hb.rest]
    constructor <;> simp only [hnone, not_mem_nil]
    · exact fun _ => exact_new
    · exact fun _ => nodup_nil
    · exact fun _ => zero_le _
  case change => exact fun _ hb hc => hb.change hc
  case receipt => exact fun _ hb hr => hb.receipt hr
  case payout => exact fun _ hb hp => hb.payout hp
  case tick =>
    intro b number _ hb
    exact ⟨hb.exact, hb.nodup, fun i =>
      (hb.recent i).trans (succ_le_succ (lastClosedCheckpoint_mono (le_succ _)))⟩

namespace Deployment

variable [DecidableEq H] [Zero H] {w : State H}

/-- **The participation ring is exact.** At every moment the participation of a seat over the last
`n` closed checkpoints, for any `n` the view takes, is the number of attestations the hub has
accepted from it for them, and whether it attested one of the 512 checkpoints up to its last is
whether the hub accepted it. -/
theorem participation_exact (K : Deployment H) (h : K.Moment w) (seatId : Nat) :
    let b := w.store.toBooks
    let closed := lastClosedCheckpoint w.env.number
    (∀ n, 1 ≤ n → n ≤ 511 → participation b w.env.number seatId n =
      .ok ((acceptedCheckpoints b.log seatId).countP fun c => closed < c + n ∧ c ≤ closed)) ∧
    ∀ c, c ≤ (b.seats seatId).lastAttestedCp → (b.seats seatId).lastAttestedCp < c + 512 →
      (attested b seatId (200 * c) = true ↔ c ∈ acceptedCheckpoints b.log seatId) := by
  have hrec : Recorded w.store.toBooks w.env.number := h.reachable.recorded
  have hexact := hrec.exact seatId
  refine ⟨fun n hpos hle => ?_, fun c hc hring => ?_⟩
  · simp only [participation, MAX_PARTICIPATION_WINDOW]
    rw [if_neg (by omega)]
    generalize hclosed : lastClosedCheckpoint w.env.number = closed
    split
    · rename_i hnone
      -- no checkpoint has closed, and none is accepted below the first
      refine congrArg Except.ok (countP_eq_zero.mpr fun c hc => ?_).symm
      have := (hexact.le c hc).1
      simp
      omega
    · refine congrArg Except.ok ?_
      have hring : closed + 1 < (if n ≤ closed then closed - n + 1 else 1) + RING := by
        unfold RING
        split <;> omega
      rw [hrec.countBits_eq seatId (by split <;> omega) hclosed.ge (hclosed ▸ hring)]
      refine countP_congr fun c hc => ?_
      have := (hexact.le c hc).1
      simp only [decide_eq_true_eq]
      split <;> omega
  · have hbit := hexact.bit c hc hring
    have hheight : 200 * c / CHECKPOINT_INTERVAL = c := Nat.mul_div_cancel_left c (by decide)
    have hmultiple : 200 * c % CHECKPOINT_INTERVAL = 0 := Nat.mul_mod_right _ _
    simp only [attested, hmultiple, hheight, ne_eq, not_true_eq_false, if_false]
    by_cases hzero : c = 0
    · -- checkpoint `0` is never accepted
      rw [if_pos (.inl hzero)]
      refine iff_of_false Bool.false_ne_true fun hmem => ?_
      exact absurd (hexact.le c hmem).1 (by omega)
    · rw [if_neg (by unfold RING; omega)]
      exact hbit

def sampleAttest (c : Nat) : Move Digest :=
  .call 21 0 (.attest (200 * c) (.block (200 * c)) (sampleSignature 41))

/-- The checkpoints 100, 200 and 700 are attested, and the ring of 512 has come round to the place
of the first one. -/
def sampleWrapped : State Digest :=
  ([sampleSeat 21 41, .wait 20099, sampleAttest 100, .wait 20000, sampleAttest 200, .wait 100000,
    sampleAttest 700, .wait 200].foldlM sampleHub.perform sampleNew).get (by decide +kernel)

/-- Checkpoints 100, 200 and 700 are attested: the ring has wrapped around, and the first is
forgotten. -/
theorem participation_exact_wrapped :
    (sampleWrapped.store.seats 1).lastAttestedCp = 700 ∧
    participation sampleWrapped.store.toBooks sampleWrapped.env.number 1 511 = .ok 2 ∧
      attested sampleWrapped.store.toBooks 1 (200 * 200) = true ∧
        attested sampleWrapped.store.toBooks 1 (200 * 189) = false := by
  have hlast : (sampleWrapped.store.seats 1).lastAttestedCp = 700 := by decide +kernel
  have haccepted : acceptedCheckpoints sampleWrapped.store.log 1 = [700, 200, 100] := by
    decide +kernel
  have hmoment : sampleHub.Moment sampleWrapped :=
    moment_of_perform sampleNew_deployed (Option.some_get _).symm
  obtain ⟨hcount, hbit⟩ := participation_exact sampleHub hmoment 1
  simp only [hlast, haccepted] at hcount hbit
  refine ⟨hlast, ?_, (hbit 200 (by decide) (by decide)).mpr (by decide), ?_⟩
  · rw [hcount 511 (by decide) (by decide)]
    decide +kernel
  · exact Bool.eq_false_iff.mpr (mt (hbit 189 (by decide) (by decide)).mp (by decide))

end Deployment

/-! ### Duty -/

/-- The seat was not on duty in block `n`, as far as it can tell. -/
def Seat.Off (x : Seat) (n : Nat) : Prop :=
  x.status ≠ .BONDED ∨ x.jailed = true ∨ n < x.activationBlock ∨
    n < CHECKPOINT_INTERVAL * x.dutyStartCp

/-- The seat was not on duty in block `n`: the books keep that for ever. -/
def Books.Off (b : Books H) (seatId n : Nat) : Prop :=
  (b.seats seatId).Off n ∨ b.attestationsPaused = true ∨
    n < CHECKPOINT_INTERVAL * b.globalDutyStartCp

/-- What duty reads of a seat. -/
def Seat.duty (x : Seat) : Status × Bool × Nat × Nat :=
  (x.status, x.jailed, x.activationBlock, x.dutyStartCp)

lemma lt_next_checkpoint {n : Nat} (h : n ≤ number) :
    n < CHECKPOINT_INTERVAL * (number / CHECKPOINT_INTERVAL + 1) := by
  unfold CHECKPOINT_INTERVAL
  omega

namespace Books.Off

variable {seatId n : Nat}

section

variable (h : b.Off seatId n)
include h

lemma frame (hseats : ∀ i, (b'.seats i).duty = (b.seats i).duty)
    (hpaused : b'.attestationsPaused = b.attestationsPaused)
    (hglobal : b'.globalDutyStartCp = b.globalDutyStartCp) : b'.Off seatId n := by
  have hseat := hseats seatId
  simp only [Seat.duty, Prod.mk.injEq] at hseat
  obtain ⟨hstatus, hjailed, hactive, hduty⟩ := hseat
  rwa [Books.Off, Seat.Off, hstatus, hjailed, hactive, hduty, hpaused, hglobal]

lemma reseat {i : Nat} {f : Seat → Seat}
    (hseats : b'.seats = b.withSeat i f) (hnew : (f (b.seats i)).Off n)
    (hpaused : b'.attestationsPaused = b.attestationsPaused)
    (hglobal : b'.globalDutyStartCp = b.globalDutyStartCp) : b'.Off seatId n := by
  rw [Books.Off, hpaused, hglobal, hseats]
  by_cases hi : seatId = i
  · rw [hi, b.withSeat_self]
    exact .inl hnew
  · rw [b.withSeat_of_ne hi]
    exact h

lemma change (hn : n ≤ number) (hc : Change K number b b') : b'.Off seatId n := by
  cases hc with
  | exit => exact h.reseat rfl (.inl (by simp)) rfl rfl
  | jail => exact h.reseat rfl (.inr (.inl rfl)) rfl rfl
  | unjail | unjailCount => exact h.reseat rfl (.inr (.inr (.inr (lt_next_checkpoint hn)))) rfl rfl
  | pause paused =>
    cases paused with
    | true => exact .inr (.inl rfl)
    | false => exact .inr (.inr (lt_next_checkpoint hn))
  | _ => exact h.frame (by intro; first | rfl | exact b.withSeat_same _ rfl _) rfl rfl

lemma receipt (hn : n ≤ number) (hr : Receipt number amount b b') : b'.Off seatId n := by
  cases hr with
  | openSeat =>
    -- a seat that is opened is not active for a day
    refine h.reseat rfl (.inr (.inr (.inl ?_))) rfl rfl
    have hearliest := schedule_earliest number b.queueDay b.queueCount b.activationsPerDay
    unfold ACTIVATION_DELAY at hearliest
    exact lt_of_lt_of_le (by omega) hearliest
  | _ => exact h.frame (fun _ => rfl) rfl rfl

lemma payout (hp : Payout amount b b') : b'.Off seatId n := by
  cases hp with
  | withdraw => exact h.reseat rfl (.inl (by simp)) rfl rfl
  | _ => exact h.frame (by intro; first | rfl | exact b.withSeat_same _ rfl _) rfl rfl

end

/-- **Whoever was off duty in a block is so for ever after.** -/
theorem steps {s s' : Stage H} (hrun : Steps K s s') (h : s.books.Off seatId n)
    (hn : n ≤ s.number) : s'.books.Off seatId n ∧ n ≤ s'.number := by
  induction hrun with
  | refl => exact ⟨h, hn⟩
  | tail _ hstep ih =>
    obtain ⟨hoff, hle⟩ := ih
    cases hstep with
    | change hc => exact ⟨hoff.change hle hc, hle⟩
    | receipt hr => exact ⟨hoff.receipt hle hr, hle⟩
    | payout hp => exact ⟨hoff.payout hp, hle⟩
    | tick => exact ⟨hoff, le_succ_of_le hle⟩

end Books.Off

/-- The duty of a seat starts after its activation, and only an active seat is jailed. -/
structure Seat.Timed (x : Seat) (number : Nat) : Prop where
  duty : x.status ≠ .NONE → x.activationBlock < CHECKPOINT_INTERVAL * x.dutyStartCp
  active : x.jailed = true → x.activationBlock ≤ number

def Timed (b : Books H) (number : Nat) : Prop := ∀ i, (b.seats i).Timed number

namespace Timed

variable (h : Timed b number)
include h

lemma frame (hseats : ∀ i, (b'.seats i).duty = (b.seats i).duty) : Timed b' number := by
  intro i
  have hseat := hseats i
  simp only [Seat.duty, Prod.mk.injEq] at hseat
  obtain ⟨hstatus, hjailed, hactive, hduty⟩ := hseat
  obtain ⟨h1, h2⟩ := h i
  constructor
  · rwa [hstatus, hactive, hduty]
  · rwa [hjailed, hactive]

lemma reseat {i : Nat} {f : Seat → Seat}
    (hseats : b'.seats = b.withSeat i f) (hnew : (f (b.seats i)).Timed number) :
    Timed b' number := by
  intro j
  rw [hseats]
  by_cases hj : j = i
  · rw [hj, b.withSeat_self]
    exact hnew
  · rw [b.withSeat_of_ne hj]
    exact h j

lemma change (hc : Change K number b b') : Timed b' number := by
  cases hc with
  | @exit seatId hbonded =>
    have hduty := (h seatId).duty (by simp [hbonded])
    exact h.reseat rfl ⟨fun _ => hduty, (h seatId).active⟩
  | @jail seatId _ hbonded _ _ hactive =>
    have hduty := (h seatId).duty (by simp [hbonded])
    exact h.reseat rfl ⟨fun _ => hduty, fun _ => hactive⟩
  | @unjail seatId _ hjailed | @unjailCount seatId _ hjailed =>
    have hduty := lt_next_checkpoint ((h seatId).active hjailed)
    exact h.reseat rfl ⟨fun _ => hduty, by simp⟩
  | _ => exact h.frame (by intro; first | rfl | exact b.withSeat_same _ rfl _)

lemma receipt (hb : Blank b) (hr : Receipt number amount b b') : Timed b' number := by
  cases hr with
  | openSeat =>
    have hnew : b.seats (b.seatCount + 1) = {} := hb _ fun hin => not_succ_le_self _ hin.2
    refine h.reseat rfl ⟨fun _ => lt_next_checkpoint le_rfl, ?_⟩
    simp [hnew]
  | _ => exact h.frame fun _ => rfl

lemma payout (hp : Payout amount b b') : Timed b' number := by
  cases hp with
  | @withdraw _ seatId hexiting =>
    have hduty := (h seatId).duty (by simp [hexiting])
    exact h.reseat rfl ⟨fun _ => hduty, (h seatId).active⟩
  | _ => exact h.frame (by intro; first | rfl | exact b.withSeat_same _ rfl _)

end Timed

lemma Reachable.timed [Zero H] {s : Stage H} (h : Reachable K s) : Timed s.books s.number := by
  refine h.induction ?change ?receipt ?payout ?tick ?new
  case new =>
    intro b hb
    rw [hb.rest]
    exact fun _ => ⟨fun hne => absurd rfl hne, by simp⟩
  case change => exact fun _ hb hc => hb.change hc
  case receipt => exact fun hrun hb hr => hb.receipt hrun.blank hr
  case payout => exact fun _ hb hp => hb.payout hp
  case tick =>
    intro b number _ hb
    exact fun i => ⟨(hb i).duty, fun hj => le_succ_of_le ((hb i).active hj)⟩

/-! ### Jailing -/

/-- The seat has been on duty for the last 124 closed checkpoints: at every stage the run has come
through in the inclusion window of one of them it was bonded, active and not jailed, and
attestations were not paused. -/
def OnDuty (K : Deployment H) (s : Stage H) (seatId : Nat) : Prop :=
  let closed := lastClosedCheckpoint s.number
  124 ≤ closed ∧ ∀ c, closed < c + 124 → c ≤ closed → ∀ s₁, Steps K s₁ s →
    200 * c + 64 ≤ s₁.number → s₁.number ≤ 200 * c + 250 →
      (s₁.books.seats seatId).status = .BONDED ∧
        (s₁.books.seats seatId).activationBlock ≤ s₁.number ∧
        (s₁.books.seats seatId).jailed = false ∧ s₁.books.attestationsPaused = false

lemma participationCheck_covered {seatId window : Nat}
    (h : (participationCheck b number seatId window).1 = true) :
    window ≤ lastClosedCheckpoint number ∧
    (b.seats seatId).dutyStartCp ≤ lastClosedCheckpoint number - window + 1 ∧
    b.globalDutyStartCp ≤ lastClosedCheckpoint number - window + 1 ∧
    (participationCheck b number seatId window).2 =
      countBits (b.bits seatId) (b.seats seatId).lastAttestedCp
        (lastClosedCheckpoint number - window + 1) (lastClosedCheckpoint number) := by
  unfold participationCheck at h ⊢
  by_cases hactive : number < (b.seats seatId).activationBlock
  · simp [hactive] at h
  by_cases hlast : lastClosedCheckpoint number < window
  · simp [hactive, hlast] at h
  simp only [hactive, hlast, if_false] at h ⊢
  generalize hduty : (if (b.seats seatId).dutyStartCp < b.globalDutyStartCp then
    b.globalDutyStartCp else (b.seats seatId).dutyStartCp) = duty at h ⊢
  by_cases hstart : lastClosedCheckpoint number - window + 1 < duty
  · simp [hstart] at h
  · rw [if_neg hstart]
    refine ⟨Nat.le_of_not_lt hlast, ?_, ?_, rfl⟩ <;> split at hduty <;> omega

/-- **What the check of the participation says**, for a seat that is bonded and not jailed while
attestations are not paused. -/
theorem onDuty_of_belowHalf (htimed : Timed b number) (hrec : Recorded b number) {seatId : Nat}
    (hbonded : (b.seats seatId).status = .BONDED) (hjailed : (b.seats seatId).jailed = false)
    (hpaused : b.attestationsPaused = false) (h : belowHalf b number seatId) :
    OnDuty K ⟨b, number⟩ seatId ∧ ((acceptedCheckpoints b.log seatId).countP fun c =>
      lastClosedCheckpoint number < c + 124 ∧ c ≤ lastClosedCheckpoint number) < 62 := by
  obtain ⟨hclosed, hduty, hglobal, hcount⟩ := participationCheck_covered h.1
  have hhits := h.2
  rw [hcount] at hhits
  unfold JAIL_WINDOW at hclosed hduty hglobal hhits
  refine ⟨⟨hclosed, fun c hfirst hlast s₁ hrun hopen _ => ?_⟩, ?_⟩
  · -- a seat off duty in the window would still be so
    have hoff : ¬ s₁.books.Off seatId s₁.number := by
      intro hoff
      have hstart := (htimed seatId).duty (by simp [hbonded])
      obtain ⟨(hstatus | hj | hact | hseat) | hp | hg, -⟩ := Books.Off.steps hrun hoff le_rfl
      · exact hstatus hbonded
      · exact Bool.false_ne_true (hjailed.symm.trans hj)
      all_goals
        unfold CHECKPOINT_INTERVAL at *
        dsimp only at hfirst hlast
      · dsimp only at hact
        omega
      · dsimp only at hseat
        omega
      · exact Bool.false_ne_true (hpaused.symm.trans hp)
      · dsimp only at hg
        omega
    simp only [Books.Off, Seat.Off, not_or, not_not, Bool.not_eq_true, not_lt] at hoff
    exact ⟨hoff.1.1, hoff.1.2.2.1, hoff.1.2.1, hoff.2.1⟩
  · rw [hrec.countBits_eq seatId (by omega) le_rfl (by unfold RING; omega)] at hhits
    unfold BPS JAIL_BPS at hhits
    have heq : ((acceptedCheckpoints b.log seatId).countP fun c =>
        lastClosedCheckpoint number < c + 124 ∧ c ≤ lastClosedCheckpoint number) =
        (acceptedCheckpoints b.log seatId).countP fun c =>
          lastClosedCheckpoint number - 124 + 1 ≤ c ∧ c ≤ lastClosedCheckpoint number := by
      refine countP_congr fun c _ => ?_
      simp only [decide_eq_true_eq]
      omega
    omega

namespace Deployment

variable [DecidableEq H] [Zero H] {w w' : State H} {m : Context}

lemma Calls.jail {seatId : Nat} (h : K.Calls w m (.jail seatId) w') :
    w.store.attestationsPaused = false ∧ (w.store.seats seatId).status = .BONDED ∧
      (w.store.seats seatId).jailed = false ∧ belowHalf w.store.toBooks w.env.number seatId := by
  rw [← h.1.number]
  refine h.of_body ?_
  rw [body, wp_segment, Hub.jail, post_bind, post_get, post_bind, post_require]
  intro hpaused
  rw [post_bind, post_require]
  rintro ⟨hbonded, hjailed⟩
  rw [post_bind, post_require]
  intro hbelow
  exact fun _ _ _ => ⟨hpaused, hbonded, hjailed, hbelow⟩

lemma Calls.disqualify {seatId : Nat} (h : K.Calls w m (.disqualify seatId) w')
    (hstranger : m.sender ≠ (w.store.seats seatId).owner) :
    w.store.attestationsPaused = false ∧ (w.store.seats seatId).qualified = true ∧
      belowHalf w.store.toBooks w.env.number seatId := by
  rw [← h.1.number]
  refine h.of_body ?_
  rw [body, wp_segment, Hub.disqualify, post_bind, post_get, post_bind, post_require]
  intro hqualified
  rw [post_bind, post_doIf]
  refine ⟨fun _ => ?_, fun hown => absurd hstranger hown⟩
  rw [post_bind, post_require]
  intro hpaused
  rw [post_require]
  intro hbelow
  exact fun _ _ _ => ⟨hpaused, hqualified, hbelow⟩

/-- **Jailing is fair.** Whoever jails a seat, or disqualifies one that is not theirs, does so when
the seat has been on duty for the last 124 closed checkpoints, throughout the inclusion window of
each, and the hub has accepted fewer than 62 attestations of it for them. -/
theorem jailing_fair (K : Deployment H) (h : K.Moment w) {seatId : Nat}
    (hc : K.Calls w m (.jail seatId) w' ∨
      K.Calls w m (.disqualify seatId) w' ∧ m.sender ≠ (w.store.seats seatId).owner) :
    OnDuty K (stage w) seatId ∧
    ((acceptedCheckpoints w.store.log seatId).countP fun c =>
      lastClosedCheckpoint w.env.number < c + 124 ∧ c ≤ lastClosedCheckpoint w.env.number) < 62 := by
  obtain hc | ⟨hc, hstranger⟩ := hc
  · obtain ⟨hpaused, hbonded, hjailed, hbelow⟩ := hc.jail
    exact onDuty_of_belowHalf h.reachable.timed h.reachable.recorded hbonded hjailed hpaused hbelow
  · obtain ⟨hpaused, hqualified, hbelow⟩ := hc.disqualify hstranger
    have hfit := h.reachable.listed.seat seatId hqualified
    exact onDuty_of_belowHalf h.reachable.timed h.reachable.recorded hfit.bonded hfit.jailed
      hpaused hbelow

/-- A seat has been opened, and has attested nothing for 199 checkpoints. -/
def sampleIdle : State Digest :=
  ([sampleSeat 21 41, .wait 40000].foldlM sampleHub.perform sampleNew).get (by decide +kernel)

lemma sampleIdle_moment : sampleHub.Moment sampleIdle :=
  moment_of_perform sampleNew_deployed (Option.some_get _).symm

/-- A seat that never attested is jailed. -/
theorem jailing_fair_idle : OnDuty sampleHub (stage sampleIdle) 1 := by
  have hcall : ∃ w', sampleHub.perform sampleIdle (.call 99 0 (.jail 1)) = some w' :=
    Option.isSome_iff_exists.mp (by decide +kernel)
  obtain ⟨w', hw'⟩ := hcall
  exact (jailing_fair sampleHub sampleIdle_moment (.inl (calls_of_perform hw'))).1

end Deployment

end Ferminux.Hub
