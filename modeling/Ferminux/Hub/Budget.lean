import Ferminux.Hub.Participation

/-!
# Hub.Budget

**What a checkpoint costs.** An attestation pays no more than the checkpoint's budget over the
number of seats there may be. That the attestations of one checkpoint stay within the budget is not
checked anywhere: it holds because a seat that is opened in the inclusion window does not become
active in it, so that those who attest are among the seats that were bonded when the window opened.
-/

namespace Ferminux.Hub

open Lib Relation List Books Nat Seat

attribute [local irreducible] Books.withSeat

variable {H : Type} {K : Deployment H} {b b' : Books H} {number amount : Nat}
  {s : Stage H} {log : Log H}

/-! ### Occupied seats -/

def Seat.bonded (x : Seat) : Nat := if x.status = .BONDED then 1 else 0

/-- The occupied seats are the bonded ones, and there is room for them. -/
structure Occupied (b : Books H) : Prop where
  pos : b.maxSeats ≠ 0
  total : b.occupiedSeats = ∑ i ∈ Finset.Icc 1 b.seatCount, (b.seats i).bonded
  room : b.occupiedSeats ≤ b.maxSeats

namespace Occupied

variable (h : Occupied b)
include h

lemma frame (hseats : ∀ i, (b'.seats i).status = (b.seats i).status)
    (hcount : b'.seatCount = b.seatCount) (hoccupied : b'.occupiedSeats = b.occupiedSeats)
    (hmax : b'.maxSeats = b.maxSeats) : Occupied b' := by
  obtain ⟨h1, h2, h3⟩ := h
  constructor <;> simp only [hmax, hoccupied, hcount, bonded, hseats]
  · exact h1
  · exact h2
  · exact h3

lemma reseat {seatId : Nat} {f : Seat → Seat} (hin : b.IsSeat seatId)
    (hseats : b'.seats = b.withSeat seatId f) (hcount : b'.seatCount = b.seatCount)
    (hmax : b'.maxSeats = b.maxSeats) (hnew : (f (b.seats seatId)).bonded = 0)
    (htotal : b'.occupiedSeats + (b.seats seatId).bonded = b.occupiedSeats) : Occupied b' := by
  have hsum := b.sum_withSeat hin bonded f
  have hold := h.total
  have hroom := h.room
  refine ⟨hmax ▸ h.pos, ?_, ?_⟩
  · rw [hcount, hseats]
    omega
  · omega

lemma change (hb : Blank b) (hc : Change K number b b') : Occupied b' := by
  cases hc with
  | @exit seatId hbonded =>
    have hin := hb.isSeat_of_status hbonded (by decide)
    have hone : (b.seats seatId).bonded = 1 := if_pos hbonded
    have hle := b.le_sum hin bonded
    rw [← h.total] at hle
    refine h.reseat hin rfl rfl rfl (if_neg (by simp)) ?_
    simp only [exited]
    omega
  | setMaxSeats hpos hroom => exact ⟨hpos, h.total, hroom⟩
  | _ => exact h.frame (by intro; first | rfl | exact b.withSeat_same _ rfl _) rfl rfl rfl

lemma receipt (hr : Receipt number amount b b') : Occupied b' := by
  cases hr with
  | openSeat _ _ _ hroom =>
    refine ⟨h.pos, ?_, hroom⟩
    have hsum := b.sum_withSeat_succ bonded
    have htotal := h.total
    simp only [opened, hsum]
    simp only [bonded, if_true] at htotal ⊢
    omega
  | _ => exact h.frame (fun _ => rfl) rfl rfl rfl

lemma payout (hb : Blank b) (hp : Payout amount b b') : Occupied b' := by
  cases hp with
  | @withdraw _ seatId hexiting =>
    have hzero : (b.seats seatId).bonded = 0 := if_neg (by simp [hexiting])
    refine h.reseat (hb.isSeat_of_status hexiting (by decide)) rfl rfl rfl (if_neg (by simp)) ?_
    rw [hzero]
    rfl
  | _ => exact h.frame (by intro; first | rfl | exact b.withSeat_same _ rfl _) rfl rfl rfl

lemma card : b.occupiedSeats =
    ((Finset.Icc 1 b.seatCount).filter fun i => (b.seats i).status = .BONDED).card := by
  rw [h.total, Finset.card_filter]
  rfl

end Occupied

lemma Reachable.occupied [Zero H] (h : Reachable K s) : Occupied s.books := by
  refine h.invariant ?change ?receipt ?payout ?new
  case new =>
    intro b hb
    have hmax := hb.maxSeats
    rw [hb.rest]
    exact ⟨hmax, rfl, zero_le _⟩
  case change => exact fun hrun hb hc => hb.change hrun.blank hc
  case receipt => exact fun _ hb hr => hb.receipt hr
  case payout => exact fun hrun hb hp => hb.payout hrun.blank hp

/-! ### Settings -/

/-- The value of a parameter, by the log. -/
def setting (param : Param) (initial : Nat) (log : Log H) : Nat :=
  (log.findSome? fun e => e.2.applied param).getD initial

/-- **The number of seats there may be is not changed in the inclusion window of a checkpoint**: if
it is set there, then to what it was. -/
def SteadySeats (height initial : Nat) (log : Log H) : Prop :=
  ∀ newer older n value, log = newer ++ (n, .ParamApplied .P_MAX_SEATS value) :: older →
    height + 64 ≤ n → n ≤ height + 250 → value = setting .P_MAX_SEATS initial older

lemma SteadySeats.suffix {height initial : Nat} {log' : Log H}
    (h : SteadySeats height initial log') (hsuffix : log <:+ log') :
    SteadySeats height initial log := by
  obtain ⟨newest, rfl⟩ := hsuffix
  intro newer older n value heq
  exact h (newest ++ newer) older n value (by rw [heq, append_assoc])

lemma Change.log_suffix (h : Change K number b b') : b.log <:+ b'.log := by
  cases h with
  | unjailCount => exact (suffix_cons _ _).trans (suffix_cons _ _)
  | pass => exact suffix_rfl
  | _ => exact suffix_cons _ _

lemma Receipt.log_suffix (h : Receipt number amount b b') : b.log <:+ b'.log := by
  cases h with
  | _ => exact suffix_cons _ _

lemma Payout.log_eq (h : Payout amount b b') : b'.log = b.log := by
  cases h with
  | _ => rfl

/-! ### The attestations of a checkpoint -/

/-- The seat and the reward of an attestation of the checkpoint. -/
def Event.pays (height : Nat) : Event H → Option (Nat × Nat)
  | .Attested seatId h reward => if h = height then some (seatId, reward) else none
  | _ => none

/-- The attestations that have been accepted for a checkpoint, with their rewards. -/
def payments (log : Log H) (height : Nat) : List (Nat × Nat) :=
  log.filterMap fun e => e.2.pays height

/-- The total reward that has been allocated for a checkpoint. -/
def rewardFor (log : Log H) (height : Nat) : Nat := ((payments log height).map Prod.snd).sum

lemma mem_acceptedCheckpoints_of_pays {height : Nat} {p : Nat × Nat}
    (h : p ∈ payments log height) : height / CHECKPOINT_INTERVAL ∈ acceptedCheckpoints log p.1 := by
  obtain ⟨⟨n, e⟩, he, hpays⟩ := mem_filterMap.mp h
  refine mem_filterMap.mpr ⟨(n, e), he, ?_⟩
  cases e with
  | Attested seatId h reward =>
    simp only [Event.pays, Option.ite_none_right_eq_some, Option.some.injEq] at hpays
    obtain ⟨rfl, rfl⟩ := hpays
    exact if_pos rfl
  | _ => cases hpays

/-- What one seat gets at most. -/
def Books.share (b : Books H) (height : Nat) : Nat :=
  if halvingActive b (height + 64) then BUDGET_PER_CHECKPOINT / 2 else BUDGET_PER_CHECKPOINT

lemma Books.share_congr (h : b'.openSeatsBlock = b.openSeatsBlock) (height : Nat) :
    b'.share height = b.share height := by
  have hiff : halvingActive b' (height + 64) ↔ halvingActive b (height + 64) := by
    rw [halvingActive, h, halvingActive]
  simp [share, hiff]

lemma Books.rewardNow_le_share (b : Books H) {height : Nat} (hwindow : height + 64 ≤ number) :
    b.rewardNow number ≤ b.share height / b.maxSeats := by
  have hrate : currentRewardPerAttest b number ≤ b.share height / b.maxSeats := by
    have hcap (r p : Nat) : (if p < r then p else r) ≤ p := by split <;> omega
    by_cases hnow : halvingActive b number
    · simp only [currentRewardPerAttest, hnow, if_true]
      refine (hcap _ _).trans (Nat.div_le_div_right ?_)
      rw [share]
      split
      · exact le_rfl
      · exact div_le_self _ _
    · have hearlier : ¬ halvingActive b (height + 64) := by
        rintro (hblock | ⟨hset, hopen⟩)
        · exact hnow (.inl (hblock.trans hwindow))
        · exact hnow (.inr ⟨hset, hopen.trans hwindow⟩)
      simp only [currentRewardPerAttest, hnow, if_false, share, hearlier]
      exact hcap _ _
  unfold rewardNow
  dsimp only
  split
  · exact hrate
  · exact zero_le _

lemma Event.pays_of_inert {e : Event H} (he : e.inert = true) (height : Nat) :
    e.pays height = none := by
  cases e with
  | Attested => cases he
  | _ => rfl

/-! ### The budget -/

/-- What the electorate reads of a seat. -/
def Seat.tenure (x : Seat) : Status × Nat := (x.status, x.activationBlock)

/-- Once the window has opened, those who attest are among at most as many seats as there may be,
and each has got its share at most. -/
structure Electorate (b : Books H) (number height maxSeats : Nat) (seats : Finset Nat) : Prop where
  card : seats.card ≤ maxSeats
  mem : ∀ p ∈ payments b.log height, p.1 ∈ seats
  reward : ∀ p ∈ payments b.log height, p.2 ≤ b.share height / maxSeats
  current : number ≤ height + 250 → b.maxSeats = maxSeats ∧ ∀ i, (b.seats i).status = .BONDED →
    (b.seats i).activationBlock ≤ height + 250 → i ∈ seats

/-- What holds of a checkpoint before its window opens, and after. -/
structure Budgeted (b : Books H) (number height initial : Nat) : Prop where
  setting : b.maxSeats = setting .P_MAX_SEATS initial b.log
  early : number < height + 64 → payments b.log height = []
  nodup : ((payments b.log height).map Prod.fst).Nodup
  electorate : height + 64 ≤ number → ∃ maxSeats seats, Electorate b number height maxSeats seats

namespace Budgeted

variable {height initial : Nat}

variable (h : Budgeted b number height initial) {seatId : Nat}
include h

/-- Nothing is paid, no seat comes in, and neither the number of seats there may be nor the halving
before the window is touched. -/
lemma frame (hseats : ∀ i, (b'.seats i).status = .BONDED → (b.seats i).status = .BONDED ∧
      (b'.seats i).activationBlock = (b.seats i).activationBlock) (hmax : b'.maxSeats = b.maxSeats)
    (hset : Hub.setting .P_MAX_SEATS initial b'.log = Hub.setting .P_MAX_SEATS initial b.log)
    (hpays : payments b'.log height = payments b.log height)
    (hshare : height + 64 ≤ number → b'.share height = b.share height) :
    Budgeted b' number height initial := by
  refine ⟨?_, ?_, ?_, fun hopen => ?_⟩
  · rw [hmax, hset]
    exact h.setting
  · rw [hpays]
    exact h.early
  · rw [hpays]
    exact h.nodup
  · obtain ⟨maxSeats, seats, hcard, hmem, hreward, hcurrent⟩ := h.electorate hopen
    refine ⟨maxSeats, seats, hcard, ?_, ?_, fun hstop => ?_⟩
    · rw [hpays]
      exact hmem
    · rw [hpays, hshare hopen]
      exact hreward
    · obtain ⟨heq, hin⟩ := hcurrent hstop
      refine ⟨hmax.trans heq, fun i hbonded hactive => ?_⟩
      obtain ⟨hbonded', hact⟩ := hseats i hbonded
      exact hin i hbonded' (hact ▸ hactive)

lemma attested (hrec : Recorded b number) {cp : Nat}
    (hwindow : Window number cp) (hbonded : (b.seats seatId).status = .BONDED)
    (hactive : (b.seats seatId).activationBlock ≤ number)
    (hnew : (b.seats seatId).lastAttestedCp < cp / CHECKPOINT_INTERVAL) :
    Budgeted (b.attestedBy number seatId cp) number height initial := by
  have hseats (i : Nat) : ((b.attestedBy number seatId cp).seats i).status = (b.seats i).status ∧
      ((b.attestedBy number seatId cp).seats i).activationBlock = (b.seats i).activationBlock :=
    ⟨b.withSeat_same status rfl i, b.withSeat_same activationBlock rfl i⟩
  by_cases hcp : cp = height
  · subst hcp
    have hpays : payments (b.attestedBy number seatId cp).log cp =
        (seatId, b.rewardNow number) :: payments b.log cp := by
      simp [attestedBy, payments, Event.pays]
    have hstart : cp + 64 ≤ number := hwindow.start
    have hstop : number ≤ cp + 250 := hwindow.stop
    refine ⟨h.setting, fun hearly => absurd hearly (not_lt.mpr hstart), ?_, fun _ => ?_⟩
    · rw [hpays, map_cons, nodup_cons]
      refine ⟨fun hmem => ?_, h.nodup⟩
      obtain ⟨p, hp, hseat⟩ := mem_map.mp hmem
      have haccepted := mem_acceptedCheckpoints_of_pays hp
      rw [hseat] at haccepted
      exact not_le.mpr hnew ((hrec.exact seatId).le _ haccepted).2
    · obtain ⟨maxSeats, seats, hcard, hmem, hreward, hcurrent⟩ := h.electorate hstart
      obtain ⟨heq, hin⟩ := hcurrent hstop
      refine ⟨maxSeats, seats, hcard, ?_, ?_, fun _ => ⟨heq, fun i hb ha => ?_⟩⟩
      · rw [hpays]
        refine forall_mem_cons.mpr ⟨?_, hmem⟩
        exact hin seatId hbonded (hactive.trans hstop)
      · rw [hpays]
        refine forall_mem_cons.mpr ⟨?_, hreward⟩
        rw [← heq]
        exact b.rewardNow_le_share hstart
      · rw [(hseats i).1] at hb
        rw [(hseats i).2] at ha
        exact hin i hb ha
  · refine h.frame (fun i hb => ⟨(hseats i).1 ▸ hb, (hseats i).2⟩) rfl rfl ?_ fun _ => rfl
    simp [attestedBy, payments, Event.pays, hcp]

lemma opened (sender attester : Address) :
    Budgeted (b.opened number sender attester) number height initial := by
  refine ⟨h.setting, h.early, h.nodup, fun hopen => ?_⟩
  obtain ⟨maxSeats, seats, hcard, hmem, hreward, hcurrent⟩ := h.electorate hopen
  refine ⟨maxSeats, seats, hcard, hmem, hreward, fun hstop => ?_⟩
  obtain ⟨heq, hin⟩ := hcurrent hstop
  refine ⟨heq, fun i hbonded hactive => ?_⟩
  by_cases hi : i = b.seatCount + 1
  · -- the seat does not become active in the window
    exfalso
    have hearliest := schedule_earliest number b.queueDay b.queueCount b.activationsPerDay
    rw [hi] at hactive
    simp only [Books.opened, b.withSeat_self] at hactive
    unfold ACTIVATION_DELAY at hearliest
    omega
  · simp only [Books.opened, b.withSeat_of_ne hi] at hbonded hactive
    exact hin i hbonded hactive

lemma same
    (hseats : ∀ i, (b'.seats i).tenure = (b.seats i).tenure) (hmax : b'.maxSeats = b.maxSeats)
    (hset : Hub.setting .P_MAX_SEATS initial b'.log = Hub.setting .P_MAX_SEATS initial b.log)
    (hpays : payments b'.log height = payments b.log height)
    (hshare : b'.openSeatsBlock = b.openSeatsBlock) : Budgeted b' number height initial := by
  simp only [tenure, Prod.mk.injEq] at hseats
  exact h.frame (fun i hbonded => ⟨(hseats i).1 ▸ hbonded, (hseats i).2⟩) hmax hset hpays
    fun _ => share_congr hshare height

lemma leave {f : Seat → Seat}
    (hseats : b'.seats = b.withSeat seatId f) (hnew : (f (b.seats seatId)).status ≠ .BONDED)
    (hmax : b'.maxSeats = b.maxSeats)
    (hset : Hub.setting .P_MAX_SEATS initial b'.log = Hub.setting .P_MAX_SEATS initial b.log)
    (hpays : payments b'.log height = payments b.log height)
    (hshare : b'.openSeatsBlock = b.openSeatsBlock) : Budgeted b' number height initial := by
  refine h.frame (fun i hbonded => ?_) hmax hset hpays fun _ => share_congr hshare height
  rw [hseats] at hbonded ⊢
  by_cases hi : i = seatId
  · rw [hi, b.withSeat_self] at hbonded
    exact absurd hbonded hnew
  · rw [b.withSeat_of_ne hi] at hbonded ⊢
    exact ⟨hbonded, rfl⟩

lemma change (hrec : Recorded b number)
    (hsteady : SteadySeats height initial b'.log) (hc : Change K number b b') :
    Budgeted b' number height initial := by
  cases hc with
  | rest e he =>
    refine h.same (fun _ => rfl) rfl ?_ ?_ rfl
    · rw [Hub.setting, Books.emit, List.findSome?_cons, e.applied_of_inert he rfl]
      rfl
    · rw [payments, Books.emit, filterMap_cons, e.pays_of_inert he]
      rfl
  | exit => exact h.leave rfl (by simp) rfl rfl rfl rfl
  | attest hwindow _ hbonded _ hactive hnew => exact h.attested hrec hwindow hbonded hactive hnew
  | @setMaxSeats value hpos hroom =>
    refine ⟨rfl, h.early, h.nodup, fun hopen => ?_⟩
    obtain ⟨maxSeats, seats, hcard, hmem, hreward, hcurrent⟩ := h.electorate hopen
    refine ⟨maxSeats, seats, hcard, hmem, hreward, fun hstop => ?_⟩
    obtain ⟨heq, hin⟩ := hcurrent hstop
    have hvalue := hsteady [] b.log number value rfl hopen hstop
    exact ⟨hvalue.trans (h.setting.symm.trans heq), hin⟩
  | @setOpenSeats value hunset hlater =>
    refine h.frame (fun _ hbonded => ⟨hbonded, rfl⟩) rfl rfl rfl fun hopen => ?_
    -- the halving does not begin before it is announced
    have hiff : halvingActive { b with
        openSeatsBlock := value
        log := (number, .ParamApplied .P_OPEN_SEATS_BLOCK value) :: b.log } (height + 64) ↔
        halvingActive b (height + 64) := by
      simp only [halvingActive, hunset, ne_eq, not_true_eq_false, false_and, or_false,
        or_iff_left_iff_imp, and_imp]
      intro _ hle
      omega
    simp [share, hiff]
  | _ => exact h.same (by intro; first | rfl | exact b.withSeat_same _ rfl _) rfl rfl rfl rfl

lemma receipt (hr : Receipt number amount b b') : Budgeted b' number height initial := by
  cases hr with
  | openSeat => exact h.opened _ _
  | _ => exact h.same (fun _ => rfl) rfl rfl rfl rfl

lemma payout (hp : Payout amount b b') : Budgeted b' number height initial := by
  cases hp with
  | withdraw => exact h.leave rfl (by simp) rfl rfl rfl rfl
  | _ => exact h.same (by intro; first | rfl | exact b.withSeat_same _ rfl _) rfl rfl rfl rfl

lemma tick (hb : Blank b) (ho : Occupied b) : Budgeted b (number + 1) height initial := by
  refine ⟨h.setting, fun hearly => h.early (by omega), h.nodup, fun hopen => ?_⟩
  by_cases hold : height + 64 ≤ number
  · obtain ⟨maxSeats, seats, hcard, hmem, hreward, hcurrent⟩ := h.electorate hold
    exact ⟨maxSeats, seats, hcard, hmem, hreward, fun hstop => hcurrent (by omega)⟩
  · have hnone := h.early (by omega)
    refine ⟨b.maxSeats, (Finset.Icc 1 b.seatCount).filter fun i => (b.seats i).status = .BONDED,
      ho.card ▸ ho.room, by simp [hnone], by simp [hnone], fun _ => ⟨rfl, fun i hbonded _ => ?_⟩⟩
    exact Finset.mem_filter.mpr
      ⟨Finset.mem_Icc.mpr (hb.isSeat_of_status hbonded (by decide)), hbonded⟩

/-- **The rewards of a checkpoint stay within its budget.** -/
theorem rewardFor_le : rewardFor b.log height ≤ b.share height := by
  by_cases hopen : height + 64 ≤ number
  · obtain ⟨maxSeats, seats, hcard, hmem, hreward, -⟩ := h.electorate hopen
    have hlength : (payments b.log height).length ≤ maxSeats := by
      rw [← length_map (f := Prod.fst), ← toFinset_card_of_nodup h.nodup]
      refine (Finset.card_le_card fun i hi => ?_).trans hcard
      obtain ⟨p, hp, rfl⟩ := mem_map.mp (mem_toFinset.mp hi)
      exact hmem p hp
    have hsum : rewardFor b.log height ≤
        (payments b.log height).length * (b.share height / maxSeats) := by
      have hle := sum_le_card_nsmul ((payments b.log height).map Prod.snd)
        (b.share height / maxSeats) fun r hr => by
          obtain ⟨p, hp, rfl⟩ := mem_map.mp hr
          exact hreward p hp
      simpa [rewardFor] using hle
    calc rewardFor b.log height
        ≤ (payments b.log height).length * (b.share height / maxSeats) := hsum
      _ ≤ maxSeats * (b.share height / maxSeats) := mul_le_mul_right _ hlength
      _ ≤ b.share height := mul_div_le _ _
  · rw [rewardFor, h.early (by omega)]
    exact zero_le _

end Budgeted

/-- Every run keeps to the budget of a checkpoint in whose window the number of seats there may be
is not changed. -/
lemma Steps.budgeted [Zero H] {b0 : Books H} (hb0 : New K b0)
    (hrun : Steps K ⟨b0, K.deployBlock⟩ s) (height : Nat) :
    SteadySeats height b0.maxSeats s.books.log → Budgeted s.books s.number height b0.maxSeats := by
  refine Reachable.induction_new (P := fun b number => SteadySeats height b0.maxSeats b.log →
    Budgeted b number height b0.maxSeats) ?change ?receipt ?payout ?tick hb0 ?new hrun
  case new =>
    intro _
    have hpays : payments b0.log height = [] := by
      refine filterMap_eq_nil_iff.mpr fun e he => ?_
      exact e.2.pays_of_inert (hb0.log e he).2 height
    have hset : setting .P_MAX_SEATS b0.maxSeats b0.log = b0.maxSeats := by
      have hnone : (b0.log.findSome? fun e => e.2.applied .P_MAX_SEATS) = none := by
        refine findSome?_eq_none_iff.mpr fun e he => ?_
        exact e.2.applied_of_inert (hb0.log e he).2 rfl
      rw [setting, hnone]
      rfl
    have hseats (i : Nat) : b0.seats i = {} := by rw [hb0.rest]
    refine ⟨hset.symm, fun _ => hpays, by simp [hpays], fun _ => ?_⟩
    refine ⟨b0.maxSeats, ∅, by simp, by simp [hpays], by simp [hpays], fun _ => ⟨rfl, ?_⟩⟩
    simp [hseats]
  case change =>
    intro b b' number hrun hb hc hsteady
    exact (hb (hsteady.suffix hc.log_suffix)).change hrun.recorded hsteady hc
  case receipt =>
    intro b b' number amount _ hb hr hsteady
    exact (hb (hsteady.suffix hr.log_suffix)).receipt hr
  case payout =>
    intro b b' number amount _ hb hp hsteady
    rw [hp.log_eq] at hsteady
    exact (hb hsteady).payout hp
  case tick =>
    intro b number hrun hb hsteady
    exact (hb hsteady).tick hrun.blank hrun.occupied

namespace Deployment

variable [DecidableEq H] [Zero H] {w₀ w : State H}

/-- **The reward budget of a checkpoint.** If the number of seats there may be is not changed in the
inclusion window, then all rewards that have been allocated for the checkpoint, at any moment, are
at most 7.5 FMX; and at most 3.75 FMX if the halving was active from the first block of the window
on, whatever happens to the seats. -/
theorem reward_budget (K : Deployment H) (h₀ : K.Deployed w₀) (h : K.Later w₀ w) (height : Nat)
    (hsteady : SteadySeats height w₀.store.maxSeats w.store.log) :
    rewardFor w.store.log height ≤ 75 * 10 ^ 17 ∧
    (halvingActive w.store.toBooks (height + 64) →
      rewardFor w.store.log height ≤ 375 * 10 ^ 16) := by
  obtain ⟨hnew, hrun⟩ := h₀.steps h
  have hle := (hrun.budgeted hnew height hsteady).rewardFor_le
  refine ⟨hle.trans ?_, fun hhalf => hle.trans ?_⟩
  · unfold share
    split
    · exact div_le_self _ _
    · exact le_rfl
  · rw [share, stage, if_pos hhalf]
    exact le_of_eq rfl

/-- A seat has been opened, the pool funded, and a checkpoint attested. -/
def sampleAttested : State Digest :=
  ([sampleSeat 21 41, .call 51 (10 ^ 19) .fund, .wait 20099,
    .call 21 0 (.attest 20000 (.block 20000) (sampleSignature 41))].foldlM sampleHub.perform
      sampleNew).get (by decide +kernel)

lemma sampleAttested_later : sampleHub.Later sampleNew sampleAttested :=
  ⟨_, between_of_perform (Option.some_get _).symm, .start rfl⟩

/-- An attestation was paid for the checkpoint. -/
theorem reward_budget_attested :
    rewardFor sampleAttested.store.log 20000 ≠ 0 ∧
    rewardFor sampleAttested.store.log 20000 ≤ 75 * 10 ^ 17 := by
  have hsteady : SteadySeats 20000 sampleNew.store.maxSeats sampleAttested.store.log := by
    intro newer older n value heq
    have hnone : ∀ e ∈ sampleAttested.store.log, e.2.applied .P_MAX_SEATS = none := by
      decide +kernel
    exact absurd (hnone (n, .ParamApplied .P_MAX_SEATS value) (by simp [heq])) (by simp [Event.applied])
  exact ⟨by decide +kernel,
    (reward_budget sampleHub sampleNew_deployed sampleAttested_later 20000 hsteady).1⟩

/-- **Seats.** At every moment the occupied seats are as many as are bonded, and no more than the
maximum, which is never zero. -/
theorem occupied_seats (K : Deployment H) (h : K.Moment w) :
    w.store.occupiedSeats = ((Finset.Icc 1 w.store.seatCount).filter fun i =>
      (w.store.seats i).status = .BONDED).card ∧
    w.store.occupiedSeats ≤ w.store.maxSeats ∧ w.store.maxSeats ≠ 0 :=
  have hoccupied := h.reachable.occupied
  ⟨hoccupied.card, hoccupied.room, hoccupied.pos⟩

/-- One seat is occupied. -/
theorem occupied_seats_attested : sampleAttested.store.occupiedSeats = 1 ∧
    sampleAttested.store.occupiedSeats ≤ sampleAttested.store.maxSeats :=
  ⟨by decide +kernel, (occupied_seats sampleHub ⟨_, sampleNew_deployed, sampleAttested_later⟩).2.1⟩

end Deployment

end Ferminux.Hub
