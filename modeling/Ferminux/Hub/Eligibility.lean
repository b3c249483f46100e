import Ferminux.Hub.Candidates

/-!
# Hub.Eligibility

**The activation queue and the eligibility cursor.** Seats activate in the order in which they were
opened, in day buckets that take a limited number of them; seven days after its activation a seat
counts, if it is bonded and not jailed. A cursor walks over the seats once and stops at the first
that is not eligible yet. Behind a walk that is complete, the seats that count are exactly the
eligible ones.
-/

namespace Ferminux.Hub

open Lib Relation Finset Books Nat Seat

attribute [local irreducible] Books.withSeat

variable {H : Type} {K : Deployment H} {b b' : Books H} {number amount : Nat} {s : Stage H}

/-! ### The activation queue -/

def Event.applied (param : Param) : Event H → Option Nat
  | .ParamApplied p value => if p = param then some value else none
  | _ => none

lemma Event.applied_of_inert {e : Event H} (he : e.inert = true) {param : Param}
    (hparam : param.inert = false) : e.applied param = none := by
  cases e with
  | ParamApplied p value =>
    refine if_neg fun heq => ?_
    rw [Event.inert, heq, hparam] at he
    cases he
  | _ => rfl

def largestActivations (log : Log H) : Nat :=
  log.foldr (fun e n => max ((e.2.applied .P_ACTIVATIONS_PER_DAY).getD 0) n)
    DEFAULT_ACTIVATIONS_PER_DAY

lemma largestActivations_cons (n : Nat) (e : Event H) (log : Log H) :
    largestActivations ((n, e) :: log) =
      max ((e.applied .P_ACTIVATIONS_PER_DAY).getD 0) (largestActivations log) := rfl

lemma default_le_largestActivations (log : Log H) :
    DEFAULT_ACTIVATIONS_PER_DAY ≤ largestActivations log := by
  induction log with
  | nil => exact le_rfl
  | cons _ _ ih => exact ih.trans (le_max_right _ _)

/-- The seats that activate on a day. -/
def Books.bucket (b : Books H) (day : Nat) : Finset Nat :=
  (Finset.Icc 1 b.seatCount).filter fun i => (b.seats i).activationBlock / BLOCKS_PER_DAY = day

/-- The queue is in order, and no bucket overflows. -/
structure Queued (b : Books H) (number : Nat) : Prop where
  mono : ∀ i j, 1 ≤ i → i ≤ j → j ≤ b.seatCount →
    (b.seats i).activationBlock ≤ (b.seats j).activationBlock
  last : ∀ i, b.IsSeat i → (b.seats i).activationBlock ≤
    max (b.queueDay * BLOCKS_PER_DAY) (number + ACTIVATION_DELAY)
  day : ∀ i, b.IsSeat i → (b.seats i).activationBlock / BLOCKS_PER_DAY ≤ b.queueDay
  current : (b.bucket b.queueDay).card ≤ b.queueCount
  bucket : ∀ day, (b.bucket day).card ≤ largestActivations b.log
  limit : b.activationsPerDay ≤ largestActivations b.log

/-- **What the queue gives a seat**: a block that is at least a day off and not before the last
bucket, in a bucket that has room. -/
theorem schedule_spec {number queueDay queueCount limit act day count : Nat}
    (h : schedule number queueDay queueCount limit = (act, day, count)) :
    number + ACTIVATION_DELAY ≤ act ∧ queueDay * BLOCKS_PER_DAY ≤ act ∧
    act ≤ max (day * BLOCKS_PER_DAY) (number + ACTIVATION_DELAY) ∧ act / BLOCKS_PER_DAY = day ∧
    (day = queueDay ∧ count = queueCount + 1 ∧ queueCount < limit ∨ queueDay < day ∧ count = 1) := by
  simp only [schedule, ACTIVATION_DELAY, BLOCKS_PER_DAY, Prod.mk.injEq] at h ⊢
  obtain ⟨hact, hday, hcount⟩ := h
  simp only [hday] at hact
  have hact' : act = max (day * 12343) (number + 12343) := by
    rw [← hact]
    split <;> omega
  clear hact
  by_cases htoday : (number + 12343) / 12343 ≤ queueDay
  · by_cases hfull : limit ≤ queueCount
    · simp only [htoday, hfull, if_true] at hday hcount
      omega
    · simp only [htoday, hfull, if_true, if_false] at hday hcount
      omega
  · simp only [htoday, if_false] at hday hcount
    omega

lemma schedule_earliest (number queueDay queueCount limit : Nat) :
    number + ACTIVATION_DELAY ≤ (schedule number queueDay queueCount limit).1 :=
  (schedule_spec (Eq.refl (schedule number queueDay queueCount limit))).1

namespace Queued

variable (h : Queued b number)
include h

lemma frame (hseats : ∀ i, (b'.seats i).activationBlock = (b.seats i).activationBlock)
    (hcount : b'.seatCount = b.seatCount) (hday : b'.queueDay = b.queueDay)
    (hqueue : b'.queueCount = b.queueCount)
    (hlog : largestActivations b.log ≤ largestActivations b'.log)
    (hlimit : b'.activationsPerDay ≤ largestActivations b'.log) : Queued b' number := by
  have hbucket (day : Nat) : b'.bucket day = b.bucket day := by
    simp [Books.bucket, hcount, hseats]
  constructor
  · simpa only [hseats, hcount] using h.mono
  · simpa only [Books.IsSeat, hseats, hcount, hday] using h.last
  · simpa only [Books.IsSeat, hseats, hcount, hday] using h.day
  · simpa only [hbucket, hday, hqueue] using h.current
  · intro day
    rw [hbucket]
    exact (h.bucket day).trans hlog
  · exact hlimit

lemma same (hseats : ∀ i, (b'.seats i).activationBlock = (b.seats i).activationBlock)
    (hcount : b'.seatCount = b.seatCount) (hday : b'.queueDay = b.queueDay)
    (hqueue : b'.queueCount = b.queueCount) (hlimit : b'.activationsPerDay = b.activationsPerDay)
    (hlog : largestActivations b'.log = largestActivations b.log) : Queued b' number :=
  h.frame hseats hcount hday hqueue hlog.ge (by rw [hlimit, hlog]; exact h.limit)

lemma opened (sender attester : Address) : Queued (b.opened number sender attester) number := by
  obtain ⟨act, day, count, hschedule⟩ : ∃ act day count,
      schedule number b.queueDay b.queueCount b.activationsPerDay = (act, day, count) :=
    ⟨_, _, _, rfl⟩
  obtain ⟨hearliest, hnow, hlast, hact, hroom⟩ := schedule_spec hschedule
  have hself : ((b.opened number sender attester).seats (b.seatCount + 1)).activationBlock = act := by
    simp [Books.opened, hschedule]
  have hother {i : Nat} (hi : i ≤ b.seatCount) :
      ((b.opened number sender attester).seats i).activationBlock = (b.seats i).activationBlock := by
    simp [Books.opened, b.withSeat_of_ne (show i ≠ b.seatCount + 1 by omega)]
  have hday' : (b.opened number sender attester).queueDay = day := by simp [Books.opened, hschedule]
  have hcount' : (b.opened number sender attester).queueCount = count := by
    simp [Books.opened, hschedule]
  have hlog : largestActivations (b.opened number sender attester).log =
      largestActivations b.log := zero_max _
  have hsize : (b.opened number sender attester).seatCount = b.seatCount + 1 := rfl
  have hle : b.queueDay ≤ day := by omega
  have hdefault : 1 ≤ largestActivations b.log :=
    (by decide : 1 ≤ DEFAULT_ACTIVATIONS_PER_DAY).trans (default_le_largestActivations _)
  -- the buckets are what they were, and the new seat is in its own
  have hbucket (d : Nat) : (b.opened number sender attester).bucket d =
      if day = d then insert (b.seatCount + 1) (b.bucket d) else b.bucket d := by
    ext i
    simp only [Books.bucket, hsize, mem_filter, mem_Icc]
    split <;> simp only [mem_insert, mem_filter, mem_Icc]
    all_goals
      by_cases hi : i = b.seatCount + 1
      · subst hi
        rw [hself, hact]
        omega
      · by_cases hle : i ≤ b.seatCount
        · rw [hother hle]
          omega
        · omega
  have hempty (hlt : b.queueDay < day) : b.bucket day = ∅ := by
    refine filter_eq_empty_iff.mpr fun i hi heq => ?_
    have := h.day i (mem_Icc.mp hi)
    omega
  constructor
  · intro i j hi hij hj
    rw [hsize] at hj
    by_cases hnew : j = b.seatCount + 1
    · rw [hnew, hself]
      by_cases hinew : i = b.seatCount + 1
      · rw [hinew, hself]
      · rw [hother (by omega)]
        have := h.last i ⟨hi, by omega⟩
        omega
    · rw [hother (by omega), hother (by omega)]
      exact h.mono i j hi hij (by omega)
  · rintro i ⟨hi, hj⟩
    rw [hsize] at hj
    rw [hday']
    by_cases hnew : i = b.seatCount + 1
    · rw [hnew, hself]
      exact hlast
    · rw [hother (by omega)]
      have hbound := h.last i ⟨hi, by omega⟩
      have hmul := mul_le_mul_right BLOCKS_PER_DAY hle
      omega
  · rintro i ⟨hi, hj⟩
    rw [hsize] at hj
    rw [hday']
    by_cases hnew : i = b.seatCount + 1
    · rw [hnew, hself, hact]
    · rw [hother (by omega)]
      exact (h.day i ⟨hi, by omega⟩).trans hle
  · rw [hday', hcount', hbucket, if_pos rfl]
    refine (card_insert_le _ _).trans ?_
    obtain ⟨rfl, rfl, -⟩ | ⟨hlt, rfl⟩ := hroom
    · exact succ_le_succ h.current
    · rw [hempty hlt, card_empty]
  · intro d
    rw [hlog, hbucket]
    split
    · rename_i heq
      subst heq
      refine (card_insert_le _ _).trans ?_
      obtain ⟨rfl, -, hfree⟩ | ⟨hlt, -⟩ := hroom
      · exact (succ_le_succ h.current).trans (hfree.trans_le h.limit)
      · rw [hempty hlt, card_empty]
        exact hdefault
    · exact h.bucket d
  · rw [hlog]
    exact h.limit

lemma change (hc : Change K number b b') : Queued b' number := by
  cases hc with
  | rest e he =>
    refine h.same (fun _ => rfl) rfl rfl rfl rfl ?_
    rw [Books.emit, largestActivations_cons, e.applied_of_inert he rfl]
    exact zero_max _
  | setActivations value =>
    refine h.frame (fun _ => rfl) rfl rfl rfl (le_max_right _ _) ?_
    exact le_max_left value _
  | unjailCount =>
    exact h.same (b.withSeat_same activationBlock rfl) rfl rfl rfl rfl
      ((zero_max _).trans (zero_max _))
  | pass => exact h.same (fun _ => rfl) rfl rfl rfl rfl rfl
  | _ =>
    exact h.same (by intro; first | rfl | exact b.withSeat_same _ rfl _)
      rfl rfl rfl rfl (zero_max _)

lemma receipt (hr : Receipt number amount b b') : Queued b' number := by
  cases hr with
  | openSeat => exact h.opened _ _
  | _ => exact h.same (fun _ => rfl) rfl rfl rfl rfl (zero_max _)

lemma payout (hp : Payout amount b b') : Queued b' number := by
  cases hp with
  | _ => exact h.same (by intro; first | rfl | exact b.withSeat_same _ rfl _) rfl rfl rfl rfl rfl

lemma tick : Queued b (number + 1) := by
  refine ⟨h.mono, fun i hi => ?_, h.day, h.current, h.bucket, h.limit⟩
  have := h.last i hi
  omega

end Queued

lemma Reachable.queued [Zero H] (h : Reachable K s) : Queued s.books s.number := by
  refine h.induction ?change ?receipt ?payout ?tick ?new
  case new =>
    intro b hb
    rw [hb.rest]
    constructor <;> simp [Books.IsSeat, bucket, default_le_largestActivations]
  case change => exact fun _ hb hc => hb.change hc
  case receipt => exact fun _ hb hr => hb.receipt hr
  case payout => exact fun _ hb hp => hb.payout hp
  case tick => exact fun _ hb => hb.tick
/-! ### The eligible count -/

/-- What the eligible count reads of a seat. -/
def Seat.standing (x : Seat) : Status × Bool × Nat × Nat :=
  (x.status, x.jailed, x.countedSince, x.activationBlock)

/-- The seat counts for certification in this block. -/
def Seat.Eligible (x : Seat) (number : Nat) : Prop :=
  x.status = .BONDED ∧ x.jailed = false ∧ x.activationBlock + ELIGIBILITY_DELAY ≤ number

instance (x : Seat) (number : Nat) : Decidable (x.Eligible number) :=
  inferInstanceAs (Decidable (_ ∧ _ ∧ _))

def Seat.weight (x : Seat) : Nat := if x.countedSince = 0 then 0 else 1

/-- Counted seats are eligible, and behind the cursor the eligible seats are counted. -/
structure Counted (b : Books H) (number : Nat) : Prop where
  pos : 1 ≤ b.eligCursor
  stop : b.eligCursor ≤ b.seatCount + 1
  sound : ∀ i, (b.seats i).countedSince ≠ 0 → (b.seats i).Eligible number
  passed : ∀ i, 1 ≤ i → i < b.eligCursor → (b.seats i).activationBlock + ELIGIBILITY_DELAY ≤ number
  complete : ∀ i, 1 ≤ i → i < b.eligCursor → (b.seats i).Eligible number →
    (b.seats i).countedSince ≠ 0
  total : b.eligibleCount = ∑ i ∈ Finset.Icc 1 b.seatCount, (b.seats i).weight

namespace Counted

variable (h : Counted b number) {seatId : Nat} {f : Seat → Seat}
include h

lemma frame (hseats : ∀ i, (b'.seats i).standing = (b.seats i).standing)
    (hcount : b'.seatCount = b.seatCount) (hcursor : b'.eligCursor = b.eligCursor)
    (htotal : b'.eligibleCount = b.eligibleCount) : Counted b' number := by
  simp only [Seat.standing, Prod.mk.injEq] at hseats
  obtain ⟨h1, h2, h3, h4, h5, h6⟩ := h
  simp only [Seat.Eligible, Seat.weight] at h3 h5 h6
  constructor <;> simp only [Seat.Eligible, Seat.weight, hcursor, hcount, htotal, (hseats _).1,
    (hseats _).2.1, (hseats _).2.2.1, (hseats _).2.2.2]
  · exact h1
  · exact h2
  · exact h3
  · exact h4
  · exact h5
  · exact h6

lemma reseat (hin : b.IsSeat seatId)
    (hseats : b'.seats = b.withSeat seatId f) (hcount : b'.seatCount = b.seatCount)
    (hcursor : b'.eligCursor = b.eligCursor)
    (hact : (f (b.seats seatId)).activationBlock = (b.seats seatId).activationBlock)
    (hsound : (f (b.seats seatId)).countedSince ≠ 0 → (f (b.seats seatId)).Eligible number)
    (hcomplete : (f (b.seats seatId)).Eligible number → (f (b.seats seatId)).countedSince ≠ 0)
    (htotal : b'.eligibleCount + (b.seats seatId).weight =
      b.eligibleCount + (f (b.seats seatId)).weight) : Counted b' number := by
  have hsum := b.sum_withSeat hin weight f
  constructor
  · rw [hcursor]
    exact h.pos
  · rw [hcursor, hcount]
    exact h.stop
  · intro i
    rw [hseats]
    by_cases hi : i = seatId
    · rw [hi, b.withSeat_self]
      exact hsound
    · rw [b.withSeat_of_ne hi]
      exact h.sound i
  · intro i
    rw [hcursor, hseats, b.withSeat_same activationBlock hact]
    exact h.passed i
  · intro i
    rw [hcursor, hseats]
    by_cases hi : i = seatId
    · rw [hi, b.withSeat_self]
      exact fun _ _ => hcomplete
    · rw [b.withSeat_of_ne hi]
      exact h.complete i
  · rw [hcount, hseats]
    have := h.total
    omega

lemma weight_le (hin : b.IsSeat seatId) : (b.seats seatId).weight ≤ b.eligibleCount := by
  rw [h.total]
  exact b.le_sum hin weight

lemma uncount (hin : b.IsSeat seatId)
    (hseats : b'.seats = b.withSeat seatId f) (hcount : b'.seatCount = b.seatCount)
    (hcursor : b'.eligCursor = b.eligCursor)
    (hact : (f (b.seats seatId)).activationBlock = (b.seats seatId).activationBlock)
    (hnone : (f (b.seats seatId)).countedSince = 0) (hnot : ¬ (f (b.seats seatId)).Eligible number)
    (htotal : b'.eligibleCount = b.eligibleCount - b.weight seatId) : Counted b' number := by
  refine h.reseat hin hseats hcount hcursor hact (fun hne => absurd hnone hne)
    (fun he => absurd he hnot) ?_
  have hle := h.weight_le hin
  have hzero : (f (b.seats seatId)).weight = 0 := if_pos hnone
  rw [htotal, hzero]
  exact Nat.sub_add_cancel hle

lemma passCursor (hcursor : b.eligCursor ≤ b.seatCount)
    (heligible : (b.seats b.eligCursor).activationBlock + ELIGIBILITY_DELAY ≤ number)
    (hskip : (b.seats b.eligCursor).Eligible number → (b.seats b.eligCursor).countedSince ≠ 0) :
    Counted b.passed number := by
  refine ⟨Nat.le_succ_of_le h.pos, Nat.succ_le_succ hcursor, h.sound, ?_, ?_, h.total⟩
  · intro i hi hlt
    obtain hlt | rfl := Nat.lt_succ_iff_lt_or_eq.mp hlt
    · exact h.passed i hi hlt
    · exact heligible
  · intro i hi hlt
    obtain hlt | rfl := Nat.lt_succ_iff_lt_or_eq.mp hlt
    · exact h.complete i hi hlt
    · exact hskip

lemma countCursor (hcursor : b.eligCursor ≤ b.seatCount)
    (heligible : (b.seats b.eligCursor).Eligible number)
    (hcount : (b.seats b.eligCursor).countedSince = 0) : Counted (b.counted number) number := by
  have hpos : number ≠ 0 := by
    have := heligible.2.2
    unfold ELIGIBILITY_DELAY at this
    omega
  -- the seat is counted, and then the cursor passes it
  have hcounted : Counted { b.counted number with eligCursor := b.eligCursor } number := by
    refine h.reseat ⟨h.pos, hcursor⟩ rfl rfl rfl rfl (fun _ => heligible) (fun _ => hpos) ?_
    simp [Seat.weight, hcount, hpos, counted]
  refine hcounted.passCursor hcursor ?_ ?_
  · simpa [counted] using heligible.2.2
  · simpa [counted] using fun _ => hpos

lemma opened (hb : Blank b) (sender attester : Address) :
    Counted (b.opened number sender attester) number := by
  have hnew : b.seats (b.seatCount + 1) = {} := hb _ fun hin => not_succ_le_self _ hin.2
  have hother {i : Nat} (hi : i < b.eligCursor) :
      (b.opened number sender attester).seats i = b.seats i := by
    have := h.stop
    exact b.withSeat_of_ne (by omega) _
  refine ⟨h.pos, le_succ_of_le h.stop, ?_, ?_, ?_, ?_⟩
  · intro i
    by_cases hi : i = b.seatCount + 1
    · rw [hi]
      simp [Books.opened, hnew]
    · simp only [Books.opened, b.withSeat_of_ne hi]
      exact h.sound i
  · intro i hi hlt
    rw [hother hlt]
    exact h.passed i hi hlt
  · intro i hi hlt
    rw [hother hlt]
    exact h.complete i hi hlt
  · have hsum := b.sum_withSeat_succ Seat.weight
    refine h.total.trans (((hsum _).trans ?_).symm)
    simp [hnew, Seat.weight]

lemma change (hb : Blank b) (hc : Change K number b b') : Counted b' number := by
  cases hc with
  | exit hbonded | jail _ hbonded =>
    exact h.uncount (hb.isSeat_of_status hbonded (by decide)) rfl rfl rfl rfl rfl
      (by simp [Seat.Eligible]) rfl
  | @unjail seatId hbonded hjailed hcount =>
    -- a jailed seat is not counted
    have hnone : (b.seats seatId).countedSince = 0 := by
      by_contra hne
      have := (h.sound seatId hne).2.1
      rw [hjailed] at this
      cases this
    refine h.reseat (hb.isSeat_of_status hbonded (by decide)) rfl rfl rfl rfl
      (fun hne => absurd hnone hne) (fun he => hcount he.2.2) ?_
    simp [Seat.weight, unjailed]
  | @unjailCount seatId hbonded hjailed heligible hcount =>
    have hpos : number ≠ 0 := by
      unfold ELIGIBILITY_DELAY at heligible
      omega
    refine h.reseat (hb.isSeat_of_status hbonded (by decide)) rfl rfl rfl rfl
      (fun _ => ⟨hbonded, rfl, heligible⟩) (fun _ => hpos) ?_
    simp [Seat.weight, hcount, hpos, unjailedCounted]
  | pass hcursor heligible hskip => exact h.passCursor hcursor heligible fun he => hskip he.1 he.2.1
  | count hcursor heligible hbonded hjailed hcount =>
    exact h.countCursor hcursor ⟨hbonded, hjailed, heligible⟩ hcount
  | _ => exact h.frame (by intro; first | rfl | exact b.withSeat_same _ rfl _) rfl rfl rfl

lemma receipt (hb : Blank b) (hr : Receipt number amount b b') : Counted b' number := by
  cases hr with
  | openSeat => exact h.opened hb _ _
  | _ => exact h.frame (fun _ => rfl) rfl rfl rfl

lemma payout (hb : Blank b) (hp : Payout amount b b') : Counted b' number := by
  cases hp with
  | @withdraw _ seatId hexiting =>
    -- an exiting seat is not counted
    have hnone : (b.seats seatId).countedSince = 0 := by
      by_contra hne
      have := (h.sound seatId hne).1
      rw [hexiting] at this
      cases this
    refine h.reseat (hb.isSeat_of_status hexiting (by decide)) rfl rfl rfl rfl
      (fun hne => absurd hnone hne) (fun he => ?_) ?_
    · cases he.1
    · simp [Seat.weight, withdrawn]
  | _ => exact h.frame (by intro; first | rfl | exact b.withSeat_same _ rfl _) rfl rfl rfl

lemma tick : Counted b (number + 1) := by
  refine ⟨h.pos, h.stop, fun i hi => ?_, fun i hi hlt => le_succ_of_le (h.passed i hi hlt),
    fun i hi hlt he => h.complete i hi hlt ⟨he.1, he.2.1, h.passed i hi hlt⟩, h.total⟩
  obtain ⟨hbonded, hjailed, hactive⟩ := h.sound i hi
  exact ⟨hbonded, hjailed, le_succ_of_le hactive⟩

/-- **Behind a complete walk the counted seats are exactly the eligible ones.** -/
theorem exact (hq : Queued b number) (hb : Blank b) (hs : b.Synced number) (i : Nat) :
    (b.seats i).countedSince ≠ 0 ↔ (b.seats i).Eligible number := by
  refine ⟨h.sound i, fun he => ?_⟩
  have hin : b.IsSeat i := hb.isSeat_of_status he.1 (by decide)
  by_cases hlt : i < b.eligCursor
  · exact h.complete i hin.1 hlt he
  · -- the seat at the cursor is not eligible, and the queue is in order
    exfalso
    obtain hend | hnot := hs
    · exact hlt (hin.2.trans_lt hend)
    · have hle := hq.mono b.eligCursor i h.pos (Nat.le_of_not_lt hlt) hin.2
      have := he.2.2
      omega

lemma card : b.eligibleCount =
    ((Finset.Icc 1 b.seatCount).filter fun i => (b.seats i).countedSince ≠ 0).card := by
  rw [h.total, card_filter]
  refine sum_congr rfl fun i _ => ?_
  by_cases hi : (b.seats i).countedSince = 0 <;> simp [Seat.weight, hi]

end Counted

lemma Reachable.counted [Zero H] (h : Reachable K s) : Counted s.books s.number := by
  refine h.induction ?change ?receipt ?payout ?tick ?new
  case new =>
    intro b hb
    rw [hb.rest]
    constructor <;> simp [Seat.Eligible]
    omega
  case change => exact fun hrun hb hc => hb.change hrun.blank hc
  case receipt => exact fun hrun hb hr => hb.receipt hrun.blank hr
  case payout => exact fun hrun hb hp => hb.payout hrun.blank hp
  case tick => exact fun _ hb => hb.tick

/-- The seats that count are exactly those that are bonded, not jailed and active for seven days,
and the eligible count is their number. -/
def Books.CountsEligible (b : Books H) (number : Nat) : Prop :=
  (∀ i, (b.seats i).countedSince ≠ 0 ↔ (b.seats i).status = .BONDED ∧
    (b.seats i).jailed = false ∧ (b.seats i).activationBlock + 86400 ≤ number) ∧
  b.eligibleCount = ((Finset.Icc 1 b.seatCount).filter fun i =>
    (b.seats i).status = .BONDED ∧ (b.seats i).jailed = false ∧
      (b.seats i).activationBlock + 86400 ≤ number).card

lemma Reachable.countsEligible [Zero H] (h : Reachable K ⟨b, number⟩) (hs : b.Synced number) :
    b.CountsEligible number := by
  have hexact := h.counted.exact h.queued h.blank hs
  refine ⟨hexact, h.counted.card.trans ?_⟩
  congr 1
  exact filter_congr fun i _ => hexact i

namespace Deployment

variable [DecidableEq H] [Zero H] {w : State H}

/-- **The eligibility cursor misses no seat.** After a complete sync, be it the one of an
attestation or a public one that has walked as far as it can, the seats that count are exactly the
eligible ones, and the eligible count is their number. Seats activate in the order of their ids,
and a day's bucket holds no more of them than the largest limit there has been. -/
theorem eligible_after_sync (K : Deployment H) (h : K.Moment w) {m : Context}
    (hm : m.number = w.env.number) :
    let b := w.store.toBooks
    (∃ s', syncAll m w.store = .ok ((), s') ∧ s'.toBooks.CountsEligible m.number) ∧
    (∀ maxSteps, ∃ s', sync m maxSteps w.store = .ok ((), s') ∧
      (s'.toBooks.Synced m.number → s'.toBooks.CountsEligible m.number)) ∧
    (∀ i j, 1 ≤ i → i ≤ j → j ≤ b.seatCount →
      (b.seats i).activationBlock ≤ (b.seats j).activationBlock) ∧
    ∀ day, ((Finset.Icc 1 b.seatCount).filter fun i =>
      (b.seats i).activationBlock / BLOCKS_PER_DAY = day).card ≤ largestActivations b.log := by
  have hrun : Reachable K ⟨w.store.toBooks, m.number⟩ := by
    rw [hm]
    exact h.reachable
  refine ⟨⟨_, rfl, ?_⟩, fun maxSteps => ⟨_, rfl, fun hs => ?_⟩, hrun.queued.mono,
    hrun.queued.bucket⟩
  · obtain ⟨hchanges, hs⟩ := post_syncAll (K := K) (s := w.store) (m := m) _ _ rfl
    exact (hrun.steps (Changes.steps hchanges)).countsEligible hs
  · have hchanges := post_syncSeats (K := K) (s := w.store) (m := m) maxSteps _ _ rfl
    exact (hrun.steps (Changes.steps hchanges)).countsEligible hs

/-- A seat has been opened, and eight days have passed. -/
def sampleMatured : State Digest :=
  ([sampleSeat 21 41, .wait 100000].foldlM sampleHub.perform sampleNew).get (by decide +kernel)

lemma sampleMatured_moment : sampleHub.Moment sampleMatured :=
  moment_of_perform sampleNew_deployed (Option.some_get _).symm

/-- The cursor has not passed seat `1`, and an attestation's sync counts it. -/
theorem eligible_after_sync_matured :
    sampleMatured.store.eligibleCount = 0 ∧
    ∃ s', syncAll ⟨21, 0, 100001, 1⟩ sampleMatured.store = .ok ((), s') ∧
      s'.toBooks.CountsEligible 100001 :=
  ⟨by decide +kernel,
    (eligible_after_sync sampleHub sampleMatured_moment (m := ⟨21, 0, 100001, 1⟩)
      (by decide +kernel)).1⟩

end Deployment

end Ferminux.Hub
