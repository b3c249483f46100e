import Ferminux.Gateway.Payout
import Ferminux.Lib.Reservation

/-!
# Gateway.PayoutSafety

Is a quote paid at most once, and has a quote that is marked paid been paid? The rows of the quotes
and the transactions the node accepted are **reservations of nonces** (`Lib.Reservation`),
and every statement and every transaction of a pass is one of the steps there.

A quote is paid at most once in every run. That it was paid when it is marked paid holds in the runs
that never reserve one nonce for two quotes; a send that fails leaves its nonce to the next quote of
the same pass, which is how it goes wrong.
-/

namespace Ferminux.Gateway.Payin

open Lib Lib.Runtime List Lib.Table World Option PayinRow Prod

/-! ### The rows and the node as reservations -/

def World.reservation (w : World) : Reservation Nat where
  nonce id := (w.payins.get id).bind (·.payoutNonce)
  settled id := (w.payins.get id).any (·.status = .paid)
  accepted := w.accepted.map (·.quoteId)
  mined := w.mined

def Knows (w : World) (id : Nat) (r : PayinRow) : Prop :=
  (w.payins.get id).map PayinRow.columns = some r.columns

structure Inv (strict : Prop) (w : World) : Prop where
  honest : w.reservation.Honest
  exclusive : strict → w.reservation.Exclusive
  /-- A transaction pays what its quote says. -/
  pays : ∀ tx ∈ w.accepted, ∃ row, w.payins.get tx.quoteId = some row ∧ tx.target = row.target ∧
    tx.value = row.fmxOut

/-- What a pass relies on. -/
structure Quiet (w w' : World) : Prop where
  rows : ∀ {id r}, Knows w id r → Knows w' id r
  accepted : w'.accepted = w.accepted
  mined : w.mined ≤ w'.mined

def discipline (strict : Prop) : Discipline Unit Effect World Choice where
  ok w e o := strict → Unshared w e o
  Inv := Inv strict
  rely _ := Quiet
  guar _ _ _ := True

variable {strict : Prop} {w w' w'' : World} {id : Nat} {r : PayinRow}

lemma Quiet.refl (w : World) : Quiet w w := ⟨id, rfl, Nat.le_refl _⟩

lemma Quiet.trans (h : Quiet w w') (h' : Quiet w' w'') : Quiet w w'' :=
  ⟨fun hr => h'.rows (h.rows hr), h'.accepted.trans h.accepted, Nat.le_trans h.mined h'.mined⟩

lemma relies : Relies (discipline strict) := ⟨fun _ => Quiet.refl, fun h h' => h.trans h'⟩

lemma Knows.nonce (h : Knows w id r) : w.reservation.nonce id = r.payoutNonce := by
  obtain ⟨row, hrow, hcolumns⟩ := map_eq_some_iff.mp h
  simp only [reservation, hrow, bind_some]
  exact congrArg fst hcolumns

lemma Inv.mined_le (hw : Inv strict w) : w.mined ≤ w.accepted.length := by
  simpa [reservation] using hw.honest.mined

lemma Inv.congr (hw : Inv strict w)
    (hrows : w'.reservation = { w.reservation with mined := w'.mined })
    (hmined : w'.mined ≤ w.accepted.length) (haccepted : w'.accepted = w.accepted)
    (hquiet : ∀ {id r}, Knows w id r → Knows w' id r) : Inv strict w' := by
  have hlength : w'.mined ≤ w.reservation.accepted.length := by
    simpa [reservation] using hmined
  refine ⟨hrows ▸ hw.honest.mine hlength, fun hstrict => ?_, fun tx htx => ?_⟩
  · rw [hrows]
    exact ⟨(hw.exclusive hstrict).inj, (hw.exclusive hstrict).paid⟩
  · rw [haccepted] at htx
    obtain ⟨row, hrow, htarget, hvalue⟩ := hw.pays tx htx
    obtain ⟨row', hrow', hcolumns⟩ := map_eq_some_iff.mp
      (hquiet (r := row) (by simp [Knows, hrow]) : Knows w' tx.quoteId row)
    simp only [columns, Prod.mk.injEq] at hcolumns
    exact ⟨row', hrow', htarget.trans hcolumns.2.1.symm, hvalue.trans hcolumns.2.2.1.symm⟩

/-! ### Statements and transactions -/

/-- The rows of all other quotes keep what their payouts depend on. -/
def Beside (id : Nat) (w w' : World) : Prop := ∀ id' r, id' ≠ id → Knows w id' r → Knows w' id' r

lemma Beside.trans (h : Beside id w w') (h' : Beside id w' w'') : Beside id w w'' :=
  fun id' r hne hr => h' id' r hne (h id' r hne hr)

lemma Quiet.beside (h : Quiet w w') : Beside id w w' := fun _ _ _ hr => h.rows hr

lemma beside_modify {f : PayinRow → PayinRow} :
    Beside id w { w with payins := w.payins.modify id f } := by
  intro id' r hne hr
  rw [Knows] at hr ⊢
  simpa only [get_modify, if_neg hne] using hr

lemma knows_setError (message : String) {id' : Nat} :
    Knows (w.setError id message) id' r ↔ Knows w id' r := by
  simp only [Knows, setError, get_modify]
  split
  · next heq =>
    subst heq
    cases w.payins.get id' <;> rfl
  · rfl

lemma Inv.setError (hw : Inv strict w) (message : String) : Inv strict (w.setError id message) := by
  refine hw.congr ?_ hw.mined_le rfl fun hr => (knows_setError message).mpr hr
  simp only [World.reservation, World.setError, Reservation.mk.injEq, and_true]
  constructor <;> funext id' <;> rw [get_modify] <;> split
  all_goals first
    | rfl
    | next heq => subst heq; cases w.payins.get id' <;> rfl

lemma reservation_reserve (hr : Knows w id r) (nonce : Nat) :
    (w.reserve id nonce).reservation = w.reservation.reserve id nonce := by
  obtain ⟨row, hrow, -⟩ := map_eq_some_iff.mp hr
  simp only [reservation, reserve, Reservation.reserve, Reservation.mk.injEq, and_true]
  constructor <;> funext id' <;> rw [get_modify] <;> by_cases hid : id' = id
  all_goals simp [hid, hrow]

lemma reservation_markPaid (hr : Knows w id r) (now : Nat) (hash : TxHashOut) :
    (w.markPaid now id hash).reservation = w.reservation.settle id := by
  obtain ⟨row, hrow, -⟩ := map_eq_some_iff.mp hr
  simp only [reservation, markPaid, Reservation.settle, Reservation.mk.injEq, and_true]
  constructor <;> funext id' <;> rw [get_modify] <;> by_cases hid : id' = id
  all_goals simp [hid, hrow]

section

variable (hw : Inv strict w) {Q : Except String Nat → World → Prop} {nonce : Nat}
include hw

lemma Inv.pays_modify {f : PayinRow → PayinRow}
    (hf : ∀ row, (f row).target = row.target ∧ (f row).fmxOut = row.fmxOut) :
    ∀ tx ∈ w.accepted, ∃ row, (w.payins.modify id f).get tx.quoteId = some row ∧
      tx.target = row.target ∧ tx.value = row.fmxOut := by
  intro tx htx
  obtain ⟨row, hrow, htarget, hvalue⟩ := hw.pays tx htx
  rw [get_modify]
  split
  · next heq =>
    rw [← heq, hrow]
    exact ⟨f row, rfl, htarget.trans (hf row).1.symm, hvalue.trans (hf row).2.symm⟩
  · exact ⟨row, hrow, htarget, hvalue⟩

lemma Inv.reserve (hr : Knows w id r) (hnone : r.payoutNonce = none)
    (hle : nonce ≤ w.accepted.length)
    (hfree : strict → Unshared w (.reserve id nonce) (.statement 0)) :
    Inv strict (w.reserve id nonce) := by
  refine ⟨?_, fun hstrict => ?_, hw.pays_modify fun _ => ⟨rfl, rfl⟩⟩
  · rw [reservation_reserve hr]
    exact hw.honest.reserve (hr.nonce.trans hnone) (by simpa [reservation] using hle)
  · rw [reservation_reserve hr]
    refine (hw.exclusive hstrict).reserve fun id' hid' => ?_
    obtain ⟨row, hrow, hnonce⟩ := bind_eq_some_iff.mp hid'
    exact hfree hstrict (id', row) (get_eq_some.mp hrow) hnonce

lemma Inv.markPaid (hr : Knows w id r)
    (hpaid : strict → id ∈ w.reservation.accepted) (now : Nat) (hash : TxHashOut) :
    Inv strict (w.markPaid now id hash) := by
  refine ⟨?_, fun hstrict => ?_, hw.pays_modify fun _ => ⟨rfl, rfl⟩⟩
  · rw [reservation_markPaid hr]
    exact hw.honest.settle
  · rw [reservation_markPaid hr]
    exact (hw.exclusive hstrict).settle (hpaid hstrict)

lemma Inv.accept (hr : Knows w id r) (hnonce : w.reservation.nonce id = some nonce)
    (h : w.accept { quoteId := id, target := r.target, value := r.fmxOut, nonce } = some w') :
    Inv strict w' ∧ id ∈ w'.reservation.accepted ∧ Beside id w w' ∧ Knows w' id r := by
  unfold World.accept at h
  split at h
  · next hnext =>
    cases h
    dsimp only at hnext
    set tx : Transfer := { quoteId := id, target := r.target, value := r.fmxOut, nonce } with htx
    have haccept : { w with accepted := w.accepted ++ [tx] : World }.reservation =
        w.reservation.accept id := by
      simp [World.reservation, Reservation.accept, htx]
    obtain ⟨row, hrow, hcolumns⟩ := map_eq_some_iff.mp hr
    simp only [columns, Prod.mk.injEq] at hcolumns
    refine ⟨⟨?_, fun hstrict => ?_, fun tx' htx' => ?_⟩, ?_, fun _ _ _ hr' => hr', hr⟩
    · rw [haccept]
      refine hw.honest.accept ?_
      rw [hnonce, hnext]
      simp [World.reservation]
    · rw [haccept]
      exact (hw.exclusive hstrict).accept
    · rcases mem_append.mp htx' with hold | hnew
      · exact hw.pays tx' hold
      · obtain rfl := mem_singleton.mp hnew
        exact ⟨row, hrow, hcolumns.2.1.symm, hcolumns.2.2.1.symm⟩
    · rw [haccept]
      exact mem_append_right _ (mem_singleton_self id)
  · cases h

/-! ### One effect -/

lemma safe_ask {e : Effect} {Q : Except String (Answer e) → World → Prop}
    (h : ∀ w1 o r w', Quiet w w1 → (e.awaits = false → w1 = w) → Inv strict w1 →
      (strict → Unshared w1 e o) → w1.act e o = some (r, w') → Inv strict w' ∧ Q r w') :
    runtime.Safe (discipline strict) () (ask e) Q w :=
  safe_call_from relies hw fun w1 o r w' hrely hsync hinv hok hact =>
    have hstep := h w1 o r w' hrely hsync hinv hok hact
    ⟨hstep.1, trivial, hstep.2⟩

lemma safe_getTransactionCount {tag : BlockTag} (h : ∀ w1, Quiet w w1 → Inv strict w1 →
      Q (.ok (w1.transactionCount tag)) w1 ∧ ∀ message, Q (.error message) w1) :
    runtime.Safe (discipline strict) () (ask (.getTransactionCount tag)) Q w := by
  refine safe_ask hw fun w1 o r w' hquiet _ hw1 _ hact => ?_
  cases o with
  | answer =>
    cases hact
    exact ⟨hw1, (h w1 hquiet hw1).1⟩
  | fails message =>
    cases hact
    exact ⟨hw1, (h w1 hquiet hw1).2 message⟩
  | _ => cases hact

lemma safe_getBalance (h : ∀ w1 r, Quiet w w1 → Inv strict w1 → Q r w1) :
    runtime.Safe (discipline strict) () (ask .getBalance) Q w := by
  refine safe_ask hw fun w1 o r w' hquiet _ hw1 _ hact => ?_
  cases o with
  | answer | fails =>
    cases hact
    exact ⟨hw1, h w1 _ hquiet hw1⟩
  | _ => cases hact

end

def Left (strict : Prop) (id : Nat) (w w' : World) : Prop := Inv strict w' ∧ Beside id w w'

lemma safe_setError (hw : Inv strict w) {message : String} :
    runtime.Safe (discipline strict) () (ask (.setError id message))
      (fun r w' => r = .ok () ∧ Left strict id w w') w := by
  refine safe_ask hw fun w1 o r w' _ hsync hw1 _ hact => ?_
  obtain rfl := hsync rfl
  cases o with
  | statement =>
    cases hact
    exact ⟨hw.setError message, rfl, hw.setError message, beside_modify⟩
  | _ => cases hact

lemma safe_markPaid (hw : Inv strict w) (hr : Knows w id r)
    (hpaid : strict → id ∈ w.reservation.accepted) {hash : TxHashOut} :
    runtime.Safe (discipline strict) () (ask (.markPaid id hash)) (fun _ => Left strict id w) w := by
  refine safe_ask hw fun w1 o r' w' _ hsync hw1 _ hact => ?_
  obtain rfl := hsync rfl
  cases o with
  | statement now =>
    cases hact
    exact ⟨hw.markPaid hr hpaid now hash, hw.markPaid hr hpaid now hash, beside_modify⟩
  | _ => cases hact

/-! ### A pass -/

lemma safe_reserveNonce (hw : Inv strict w) (hr : Knows w id r) :
    runtime.Safe (discipline strict) () (reserveNonce id r) (fun res w' => Left strict id w w' ∧
        ∀ nonce, res = .ok nonce → Knows w' id { r with payoutNonce := some nonce }) w := by
  unfold reserveNonce
  split
  · next nonce hnonce =>
    refine ⟨⟨hw, fun _ _ _ hr' => hr'⟩, fun nonce' h => ?_⟩
    cases h
    simpa only [Knows, columns, hnonce] using hr
  · next hnone =>
    refine safe_bind.mpr (safe_getTransactionCount hw fun w1 hquiet hw1 => ?_)
    refine ⟨?_, fun message => ⟨⟨hw1, hquiet.beside⟩, fun _ h => by cases h⟩⟩
    have hr1 := hquiet.rows hr
    refine safe_bind.mpr (safe_ask hw1 fun w2 o res w' _ hsync _ hok hact => ?_)
    obtain rfl := hsync rfl
    cases o with
    | statement =>
      cases hact
      have hreserved := hw1.reserve hr1 hnone (Nat.le_refl _) hok
      refine ⟨hreserved, ⟨hreserved, hquiet.beside.trans beside_modify⟩, fun nonce h => ?_⟩
      cases h
      obtain ⟨row, hrow, hcolumns⟩ := map_eq_some_iff.mp hr1
      simp only [columns, Prod.mk.injEq] at hcolumns
      simp [Knows, reserve, get_modify, hrow, columns, transactionCount,
        hcolumns]
    | _ => cases hact

lemma safe_send (hw : Inv strict w) (hr : Knows w id r) :
    runtime.Safe (discipline strict) () (send id r) (fun _ => Left strict id w) w := by
  unfold send
  refine safe_bind.mpr (safe_getBalance hw fun w1 bal hquiet hw1 => ?_)
  have hleft : Left strict id w w1 := ⟨hw1, hquiet.beside⟩
  cases bal with
  | error => exact hleft
  | ok =>
    refine safe_ite.mpr ⟨fun _ => ?_, fun _ => ?_⟩
    · exact (safe_setError hw1).mono fun _ w' h => ⟨h.2.1, hleft.2.trans h.2.2⟩
    · refine (safe_reserveNonce hw1 (hquiet.rows hr)).bind ?_
      rintro (message | nonce) w2 ⟨⟨hw2, hbeside⟩, hknows⟩
      · exact ⟨hw2, hleft.2.trans hbeside⟩
      have hr2 := hknows nonce rfl
      refine safe_bind.mpr (safe_ask hw2 fun w3 o res w' hquiet' _ hw3 _ hact => ?_)
      have hr3 := hquiet'.rows hr2
      have hbeside3 : Beside id w w3 := (hleft.2.trans hbeside).trans hquiet'.beside
      -- the node takes the transaction, and the answer arrives or does not
      cases o with
      | answer =>
        obtain ⟨w4, haccept, heq⟩ := map_eq_some_iff.mp hact
        cases heq
        obtain ⟨hw4, hpaid, hbeside4, hr4⟩ := hw3.accept hr3 hr3.nonce haccept
        refine ⟨hw4, (safe_markPaid hw4 hr4 fun _ => hpaid).mono fun _ w' h => ⟨h.1, ?_⟩⟩
        exact (hbeside3.trans hbeside4).trans h.2
      | lost =>
        obtain ⟨w4, haccept, heq⟩ := map_eq_some_iff.mp hact
        cases heq
        obtain ⟨hw4, -, hbeside4, -⟩ := hw3.accept hr3 hr3.nonce haccept
        exact ⟨hw4, hw4, hbeside3.trans hbeside4⟩
      | fails =>
        cases hact
        exact ⟨hw3, hw3, hbeside3⟩
      | _ => cases hact

lemma safe_payoutOne (hw : Inv strict w) (hr : Knows w id r) :
    runtime.Safe (discipline strict) () (payoutOne id r) (fun _ => Left strict id w) w := by
  unfold payoutOne
  split
  · next reserved hreserved =>
    refine safe_bind.mpr (safe_getTransactionCount hw fun w1 hquiet hw1 => ?_)
    have hr1 := hquiet.rows hr
    refine ⟨safe_ite.mpr ⟨fun hlatest => ?_, fun _ => ?_⟩, fun _ => ⟨hw1, hquiet.beside⟩⟩
    · -- a nonce that no other quote holds and that is spent was spent for this one
      refine (safe_markPaid hw1 hr1 fun hstrict => ?_).mono fun _ w' h =>
        ⟨h.1, hquiet.beside.trans h.2⟩
      exact (hw1.exclusive hstrict).mem_of_lt hw1.honest (hr1.nonce.trans hreserved) hlatest
    · exact (safe_send hw1 hr1).mono fun _ w' h => ⟨h.1, hquiet.beside.trans h.2⟩
  · exact safe_send hw hr

lemma mem_confirmedRows {row : Nat × PayinRow} (h : row ∈ w.confirmedRows) :
    Knows w row.1 row.2 := by
  have hrows := mem_of_mem_take h
  rw [mem_insertionSort] at hrows
  exact congrArg (Option.map columns) (get_eq_some.mpr (mem_of_mem_filter hrows))

lemma nodup_confirmedRows : (w.confirmedRows.map fst).Nodup :=
  w.payins.nodup_take_sorted ..

/-- The quotes that are still to be paid are as the pass has read them. -/
def Rest (strict : Prop) (rest : List (Nat × PayinRow)) (w : World) : Prop :=
  Inv strict w ∧ (rest.map Prod.fst).Nodup ∧ ∀ row ∈ rest, Knows w row.1 row.2

lemma safe_payout (hw : Inv strict w) :
    runtime.Safe (discipline strict) () payout (fun _ _ => True) w := by
  refine safe_bind.mpr (safe_ask hw fun w1 o res w' _ hsync _ _ hact => ?_)
  obtain rfl := hsync rfl
  cases o with
  | statement =>
    cases hact
    refine ⟨hw, safe_each (P := Rest strict) ⟨hw, nodup_confirmedRows,
      fun _ => mem_confirmedRows⟩ ?_ fun _ _ => trivial⟩
    rintro row rest w ⟨hw, hnodup, hrest⟩
    rw [map_cons, nodup_cons] at hnodup
    have hnext {w' : World} (h : Left strict row.1 w w') : Rest strict rest w' := by
      refine ⟨h.1, hnodup.2, fun row' hrow' => h.2 _ _ ?_ (hrest row' (.tail _ hrow'))⟩
      rintro heq
      exact hnodup.1 (heq ▸ mem_map_of_mem hrow')
    refine safe_tryCatch.mpr ((safe_payoutOne hw (hrest row mem_cons_self)).mono fun res w' h => ?_)
    cases res with
    | ok => exact hnext h
    | error =>
      refine (safe_setError h.1).mono ?_
      rintro _ w'' ⟨rfl, hleft⟩
      exact hnext ⟨hleft.1, h.2.trans hleft.2⟩
  | _ => cases hact

/-! ### Runs -/

lemma Inv.set (hw : Inv strict w) {row : PayinRow}
    (hnonce : w.reservation.nonce id = row.payoutNonce)
    (hpaid : w.reservation.settled id = (row.status = .paid : Bool))
    (hknows : ∀ {r}, Knows w id r → row.columns = r.columns) :
    Inv strict { w with payins := w.payins.set id row } ∧
      Quiet w { w with payins := w.payins.set id row } := by
  have hrows {id' : Nat} {r : PayinRow} (hr : Knows w id' r) :
      Knows { w with payins := w.payins.set id row } id' r := by
    simp only [Knows, get_set]
    split
    · next heq =>
      subst heq
      exact congrArg some (hknows hr)
    · exact hr
  refine ⟨hw.congr ?_ hw.mined_le rfl hrows, hrows, rfl, Nat.le_refl _⟩
  simp only [reservation] at hnonce hpaid
  simp only [reservation, Reservation.mk.injEq, and_true]
  constructor <;> funext id' <;> rw [get_set] <;> split
  · next heq => rw [heq, hnonce, bind_some]
  · rfl
  · next heq => rw [heq, hpaid, any_some]
  · rfl

lemma Inv.drift (hw : Inv strict w) {o : Choice} (h : w.drift o = some w') :
    Inv strict w' ∧ Quiet w w' := by
  cases o with
  | mine =>
    simp only [World.drift] at h
    split at h
    · next hlt =>
      cases h
      exact ⟨hw.congr rfl hlt rfl fun hr => hr, fun hr => hr, rfl, Nat.le_succ _⟩
    · cases h
  | insert id row =>
    simp only [World.drift] at h
    split at h
    · next hnew =>
      cases h
      refine hw.set ?_ ?_ fun hr => ?_
      · simp [World.reservation, hnew.1, hnew.2.1]
      · simp [World.reservation, hnew.1, hnew.2.2]
      · rw [Knows, hnew.1] at hr
        cases hr
    · cases h
  | update id row =>
    simp only [World.drift] at h
    split at h
    · next hcolumns =>
      cases h
      obtain ⟨old, hold, heq⟩ := map_eq_some_iff.mp hcolumns
      have hparts := heq
      simp only [columns, Prod.mk.injEq] at hparts
      refine hw.set ?_ ?_ fun hr => some.inj (hcolumns.symm.trans hr)
      · simp [World.reservation, hold, hparts.1]
      · simp [World.reservation, hold, hparts.2.2.2]
    · cases h
  | _ => cases h

lemma sound : Sound runtime (discipline strict) where
  toRelies := relies
  guar hne := absurd (Subsingleton.elim _ _) hne
  drift hw h := ⟨(hw.drift h).1, fun _ => (hw.drift h).2⟩
  reboot := id
  task _ _ _ hw := safe_payout hw

lemma Inv.fresh (h : w.Fresh) : Inv strict w := by
  have hnone (id : Nat) : w.reservation.nonce id = none := by
    rw [reservation, bind_eq_none_iff]
    exact fun row hrow => (h.rows hrow).1
  have hunpaid (id : Nat) : w.reservation.settled id = false := by
    rw [reservation, Option.any_eq_false]
    exact fun row hrow => by simpa using (h.rows hrow).2
  refine ⟨⟨fun {n k} hk => ?_, fun {n k} hk => ?_, ?_⟩, fun _ => ⟨fun {n k k'} hk _ => ?_,
    fun {k} hk => ?_⟩, ?_⟩
  · simp [reservation, h.accepted] at hk
  · rw [hnone] at hk
    cases hk
  · simp [reservation, h.mined]
  · rw [hnone] at hk
    cases hk
  · rw [hunpaid] at hk
    cases hk
  · simp [h.accepted]

/-- **A quote is paid at most once, and a quote that is marked paid has been paid** if no nonce is
ever reserved for two quotes. -/
theorem payout_truthful_at_most_once {start : World} (hstart : start.Fresh) :
    (∀ c, runtime.Reach Free start c → (c.world.accepted.map (·.quoteId)).Nodup) ∧
      ∀ c, runtime.Reach Unshared start c → ∀ id row, c.world.payins.get id = some row →
        row.status = .paid → ∃ tx ∈ c.world.accepted, tx.quoteId = id ∧ tx.target = row.target ∧
            tx.value = row.fmxOut := by
  refine ⟨fun c hc => ?_, fun c hc id row hrow hpaid => ?_⟩
  · have hfree : runtime.Reach (discipline False).ok start c := hc.mono _ fun _ _ _ _ => False.elim
    exact (sound.inv (Inv.fresh hstart) hfree).honest.nodup
  · have hunshared : runtime.Reach (discipline True).ok start c := hc.mono _ fun _ _ _ h _ => h
    have hinv : Inv True c.world := sound.inv (Inv.fresh hstart) hunshared
    have hsettled : c.world.reservation.settled id = true := by
      simp [reservation, hrow, hpaid]
    obtain ⟨tx, htx, rfl⟩ := mem_map.mp ((hinv.exclusive trivial).paid hsettled)
    obtain ⟨row', hrow', hpays⟩ := hinv.pays tx htx
    rw [hrow] at hrow'
    cases hrow'
    exact ⟨tx, htx, rfl, hpays⟩

/-! ### Two quotes -/

def sampleStart : World where
  payins := (empty.set 1 { status := .confirmed, target := 11, fmxOut := 5, seenAt := 1 }).set 2
    { status := .confirmed, target := 22, fmxOut := 7, seenAt := 2 }

lemma fresh_sampleStart : sampleStart.Fresh := by
  refine ⟨fun {id row} hrow => ?_, rfl, rfl⟩
  have hall : ∀ r ∈ sampleStart.payins.rows, r.2.payoutNonce = none ∧ r.2.status ≠ .paid := by
    decide +kernel
  exact hall (id, row) (get_eq_some.mp hrow)

def pass (answers : List Choice) : List (Move Unit Unit Choice) :=
  .start () () :: answers.map (.go ())

def bothPaid : List (Move Unit Unit Choice) :=
  pass [.statement 10, .answer (10 ^ 18), .answer 0, .statement 10, .answer 0, .statement 10,
    .answer (10 ^ 18), .answer 0, .statement 10, .answer 0, .statement 10]

/-- Two payins are paid in one tick. -/
theorem payout_truthful_at_most_once_paid : ∃ c : Config Unit Answer World,
    (c.world.accepted.map (·.quoteId)).Nodup ∧
      (c.world.payins.get 2).map (·.status) = some .paid ∧ ∃ tx ∈ c.world.accepted, tx.quoteId = 2 := by
  let c := (runtime.run Unshared sampleStart bothPaid).get (by decide +kernel)
  have hc : runtime.Reach Unshared sampleStart c := reach_of_run _ (some_get _).symm
  have hpaid : (c.world.payins.get 2).map (·.status) = some .paid := by decide +kernel
  obtain ⟨row, hrow, hstatus⟩ := map_eq_some_iff.mp hpaid
  have htruthful := payout_truthful_at_most_once fresh_sampleStart
  obtain ⟨tx, htx, hquote, -⟩ := htruthful.2 c hc 2 row hrow hstatus
  exact ⟨c, htruthful.1 c (hc.mono _ fun _ _ _ _ => trivial), hpaid, tx, htx, hquote⟩

/-- The send for the first quote fails without being broadcast, and the second quote of the pass
reserves and uses the same nonce. The next pass finds the chain past it. -/
def failedSend : List (Move Unit Unit Choice) :=
  pass [.statement 10, .answer (10 ^ 18), .answer 0, .statement 10, .fails "timeout", .statement 10,
    .answer (10 ^ 18), .answer 0, .statement 10, .answer 0, .statement 10] ++
  .drift .mine :: pass [.statement 20, .answer 0, .statement 20]

/-- The first payin takes the transfer of the second for its own. -/
theorem paid_without_transfer : ∃ c, sampleStart.Fresh ∧ runtime.Reach Free sampleStart c ∧
    ∃ row, c.world.payins.get 1 = some row ∧ row.status = .paid ∧
      ¬ ∃ tx ∈ c.world.accepted, tx.target = row.target ∧ tx.value = row.fmxOut := by
  let c := (runtime.run Free sampleStart failedSend).get (by decide +kernel)
  let row : PayinRow := { status := .paid, target := 11, fmxOut := 5, seenAt := 1
                          payoutNonce := some 0, txHashOut := some (.recovered 0), paidAt := some 20 }
  exact ⟨c, fresh_sampleStart, reach_of_run _ (some_get _).symm, row,
    by decide +kernel, rfl, by decide +kernel⟩

end Ferminux.Gateway.Payin
