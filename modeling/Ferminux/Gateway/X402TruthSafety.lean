import Ferminux.Gateway.X402Truth

/-!
# Gateway.X402TruthSafety

The programs of the facilitator against the invariant of `Gateway.X402Truth`: **the rows
tell the truth** in every run that meets the condition, and the runs in which they do not.
-/

namespace Ferminux.Gateway.X402

open Lib Lib.Runtime List Option Lib.Task Lib.Table Prod World Uses

namespace Truth

variable {w w' : World} {signedByPayer : Key × VoucherRow → Bool} {i : Nat} {k : Key} {hash : Nat}
  {rows : List (Key × VoucherRow)} {keys : List Key}
 {key : Key} {now : Nat}

/-! ### Calm effects -/

/-- The effects that anyone can have at any time. -/
def calm : Effect → Prop
  | .update _ _ | .send _ _ | .beginFlush _ | .endFlush => False
  | .insert _ row => row.status = .queued
  | _ => True

lemma Inv.same (hw : Inv w) (h : SameChain w w') (hrows : w'.vouchers = w.vouchers) : Inv w' := by
  refine ⟨hw.chain.same h, fun {k row} hrow => ?_⟩
  rw [hrows] at hrow
  exact (hw.row hrow).same h

lemma Inv.threads (hw : Inv w) (locks : Nat → Option Nat) (reading : Nat → Bool) :
    Inv { w with locks, reading } ∧ (w.flushing.isSome → Stays w { w with locks, reading }) ∧
      w.flushing = w.flushing := by
  have hsame : SameChain w { w with locks, reading } := ⟨rfl, rfl, rfl, rfl, rfl, fun _ h => h⟩
  exact ⟨hw.same hsame rfl, fun _ => hsame.stays rfl, rfl⟩

lemma Inv.insert (hw : Inv w) {row : VoucherRow} (hnew : w.vouchers.get key = none)
    (hqueued : row.status = .queued) : Inv { w with vouchers := w.vouchers.set key row } ∧
      SameChain w { w with vouchers := w.vouchers.set key row } := by
  have hsame : SameChain w { w with vouchers := w.vouchers.set key row } := by
    refine ⟨rfl, rfl, rfl, rfl, rfl, fun k hk => ?_⟩
    simp only [get_set]
    split
    · rfl
    · exact hk
  refine ⟨⟨hw.chain.same hsame, fun {k r} hr => ?_⟩, hsame⟩
  simp only [get_set] at hr
  split at hr
  · next heq =>
    subst heq
    cases hr
    refine (RowTrue.plain (.inl hqueued) (fun hash hmem => ?_) fun hg => ?_).same hsame
    · have hsome := hw.chain.mem_rows _ (mem_of_mem_take hmem)
      simp [Log.key, hnew] at hsome
    · obtain ⟨⟨k', n⟩, hmem, rfl⟩ := mem_map.mp hg
      have hsome := (hw.chain.givenUp hmem).1
      simp [hnew] at hsome
  · exact (hw.row hr).same hsame

lemma Inv.expire (hw : Inv w) (now : Nat) : Inv (w.expire now) := by
  have hrows : (w.expire now).vouchers = w.vouchers.mapRows fun _ => expiredAt now := rfl
  refine hw.mapRows sameChain_mapRows hrows fun {k row} hrow => ?_
  unfold expiredAt
  split
  · next hqueued =>
    have hun := hw.unapplied hrow (by rw [hqueued.1]; nofun)
    exact ⟨nofun, nofun, fun hn => absurd hun hn, fun _ => .inr (.inr rfl)⟩
  · exact hw.row hrow

lemma Inv.voidQueued (hw : Inv w) {reason : String}
    (hvoid : w.voidable key = true) : Inv (w.voidQueued now key reason) := by
  obtain ⟨old, hold, hne⟩ : ∃ r, w.vouchers.get key = some r ∧ r.status ≠ .settled := by
    cases hget : w.vouchers.get key with
    | none => simp [voidable, hget] at hvoid
    | some r =>
      refine ⟨r, rfl, fun heq => ?_⟩
      simp [voidable, hget, heq] at hvoid
  have hupdated : Inv (w.update key (voidedAt now reason)) := by
    refine hw.update fun {row} hrow => ?_
    rw [hold] at hrow
    cases hrow
    exact ⟨fun h => (by cases h), fun h => (by cases h),
      fun hn => absurd (hw.unapplied hold hne) hn, fun _ => .inl rfl⟩
  have hsome : ((w.update key (voidedAt now reason)).vouchers.get key) =
      some (voidedAt now reason old) := by
    simp [World.update, World.mapRows, get_mapRows, hold]
  refine ⟨⟨hupdated.chain.nodup, hupdated.chain.used, hupdated.chain.indexed, hupdated.chain.mem_rows,
    hupdated.chain.receipt, hupdated.chain.reverted, hupdated.chain.complete,
    hupdated.chain.nodup_waiting, hupdated.chain.waiting, hupdated.chain.apart, fun {k n} hg => ?_⟩,
    fun {k row} hrow => ?_⟩
  · rcases mem_cons.mp hg with heq | hg
    · cases heq
      refine ⟨by rw [show (w.voidQueued now key reason).vouchers.get key = _ from hsome]; rfl,
        Nat.le_refl _, ?_⟩
      rintro hash hle ⟨tx, htx, -⟩
      have := (List.getElem?_eq_some_iff.mp htx).1
      exact absurd hle (by simpa [World.voidQueued, World.update, World.mapRows] using this)
    · exact hupdated.chain.givenUp hg
  · have hrow' := hupdated.row hrow
    refine ⟨hrow'.submitted, hrow'.settled, hrow'.applied, fun hg => ?_⟩
    rcases mem_cons.mp hg with heq | hg
    · rw [heq, show (w.voidQueued now key reason).vouchers.get key = _ from hsome] at hrow
      cases hrow
      exact .inl rfl
    · exact hrow'.givenUp hg

lemma Inv.applyLog (hw : Inv w) {log : Log} (hlog : w.logs[w.indexed]? = some (hash, log)) :
    Inv { w.applyLog now hash log with indexed := w.indexed + 1 } ∧
      Stays w { w.applyLog now hash log with indexed := w.indexed + 1 } := by
  have hmem : (hash, log) ∈ w.logs := mem_of_getElem? hlog
  have hlt : w.indexed < w.logs.length := (List.getElem?_eq_some_iff.mp hlog).1
  have htake : w.logs.take (w.indexed + 1) = w.logs.take w.indexed ++ [(hash, log)] := by
    rw [take_add_one, hlog]
    rfl
  -- the rows are changed first
  obtain ⟨f, heq, hf⟩ : ∃ f : VoucherRow → VoucherRow,
      w.applyLog now hash log = w.update log.key f ∧
        ∀ {row}, w.vouchers.get log.key = some row → RowTrue w log.key (f row) ∧
          (log = .settled log.key → (f row).status = .settled) := by
    cases log with
    | settled =>
      refine ⟨_, rfl, fun {row} hrow => ⟨⟨nofun, fun _ => ?_, fun _ => rfl, fun _ => .inr (.inl rfl)⟩,
        fun _ => rfl⟩⟩
      exact hw.chain.used.mpr ⟨hash, hmem⟩
    | skipped key reason =>
      refine ⟨_, rfl, fun {row} hrow => ⟨?_, nofun⟩⟩
      split
      · exact hw.row hrow
      · next hne =>
        exact ⟨nofun, nofun, fun hn => absurd (hw.unapplied hrow hne) hn, fun _ => .inr (.inr rfl)⟩
  rw [heq]
  have hupdated : Inv (w.update log.key f) := hw.update fun hrow => (hf hrow).1
  have hsame := sameChain_update (w := w) log.key f
  refine ⟨⟨⟨hupdated.chain.nodup, hupdated.chain.used, hlt, hupdated.chain.mem_rows,
    hupdated.chain.receipt, hupdated.chain.reverted, hupdated.chain.complete,
    hupdated.chain.nodup_waiting, hupdated.chain.waiting, hupdated.chain.apart,
    hupdated.chain.givenUp⟩, fun {k row} hrow => ?_⟩, rfl, fun k hk => ?_, fun h k hk => ?_⟩
  · have hrow' := hupdated.row hrow
    refine ⟨hrow'.submitted, hrow'.settled, fun hn => ?_, hrow'.givenUp⟩
    by_cases hu : Unapplied w k
    · -- the log that is applied now settles the voucher
      have hnow : log = .settled k := by
        refine Classical.byContradiction fun hne => hn fun h' hmem' => ?_
        have hin : (h', .settled k) ∈ w.logs.take (w.indexed + 1) := hmem'
        rw [htake] at hin
        rcases mem_append.mp hin with hold | hnew
        · exact hu h' hold
        · obtain ⟨-, rfl⟩ := mk.inj (mem_singleton.mp hnew)
          exact hne rfl
      subst hnow
      have hget : (w.update k f).vouchers.get k = (w.vouchers.get k).map f := by
        simp [World.update, World.mapRows, get_mapRows]
      rw [show ({ w.update (Log.settled k).key f with indexed := w.indexed + 1 } : World).vouchers.get k =
        _ from hget] at hrow
      obtain ⟨old, hold, rfl⟩ := map_eq_some_iff.mp hrow
      exact (hf hold).2 rfl
    · exact hrow'.applied fun hu' => hu (hsame.unapplied.mp hu')
  · have hk' := hsame.clean hk
    exact ⟨hk'.unresolved, hk'.uncarried, hk'.mem, hk'.kept⟩
  · have hk' := hsame.sent hk
    exact ⟨hk'.carries, hk'.only, hk'.alone, hk'.kept⟩

lemma act_calm {e : Effect} {o : Choice} {res : Except String (Answer e)} (he : calm e)
    (hw : Inv w) (hok : Timely w e o) (hact : w.act e o = some (res, w')) :
    Inv w' ∧ (w.flushing.isSome → Stays w w') ∧ w'.flushing = w.flushing := by
  have hself : Inv w ∧ (w.flushing.isSome → Stays w w) ∧ w.flushing = w.flushing :=
    ⟨hw, fun _ => Stays.refl w, rfl⟩
  cases e with
  | insert key row =>
    cases o with
    | statement now =>
      simp only [World.act] at hact
      split at hact
      · cases hact
        exact hself
      · next hnew =>
        cases hact
        obtain ⟨hinv, hsame⟩ := hw.insert (not_isSome_iff_eq_none.mp hnew) he
        exact ⟨hinv, fun _ => hsame.stays rfl, rfl⟩
    | _ => cases hact
  | expire now =>
    cases o <;> cases hact
    exact ⟨hw.expire now, fun _ => sameChain_mapRows.stays rfl, rfl⟩
  | voidQueued key reason =>
    cases o with
    | statement now =>
      simp only [World.act] at hact
      split at hact
      · next hvoid =>
        cases hact
        refine ⟨hw.voidQueued hvoid, fun hsome => ?_, rfl⟩
        rw [show w.flushing = none from hok] at hsome
        cases hsome
      · cases hact
        exact hself
    | _ => cases hact
  | applyLog =>
    cases o with
    | statement now =>
      simp only [World.act] at hact
      split at hact
      · next hash log hlog =>
        cases hact
        obtain ⟨hinv, hstays⟩ :
            Inv { w.applyLog now hash log with indexed := w.indexed + 1 } ∧ _ := hw.applyLog hlog
        exact ⟨hinv, fun _ => hstays, hstays.flushing⟩
      · cases hact
        exact hself
    | _ => cases hact
  | lock =>
    cases o with
    | answer =>
      simp only [World.act] at hact
      split at hact
      · cases hact
        exact hw.threads _ _
      · cases hact
    | _ => cases hact
  | wait =>
    cases o with
    | answer =>
      obtain ⟨receipt, -, heq⟩ := map_eq_some_iff.mp hact
      cases heq
      exact hself
    | fails =>
      cases hact
      exact hself
    | _ => cases hact
  | update | send | beginFlush | endFlush => exact he.elim
  | unlock =>
    cases o <;> cases hact
    exact hw.threads _ _
  | balance =>
    cases o with
    | answer =>
      cases hact
      exact hw.threads _ _
    | fails =>
      cases hact
      exact hself
    | _ => cases hact
  | arrive =>
    cases o <;> cases hact
    all_goals exact hw.threads _ _
  | _ =>
    cases o <;> cases hact
    all_goals exact hself

/-! ### What a flush knows -/

lemma guar_of_stays (h : w.flushing.isSome → Stays w w') : discipline.guar i w w' :=
  fun j _ hj => h (by simp [hj])

/-- The thread flushes and holds vouchers that nobody has sent. -/
def HoldsClean (i : Nat) (keys : List Key) (w : World) : Prop :=
  w.flushing = some i ∧ ∀ k ∈ keys, Clean w k

lemma HoldsClean.rely (h : HoldsClean i keys w) (hrely : discipline.rely i w w') :
    HoldsClean i keys w' := by
  have hstays := hrely h.1
  exact ⟨hstays.flushing.trans h.1, fun k hk => hstays.clean k (h.2 k hk)⟩

/-- The thread flushes and has sent vouchers in a transaction. -/
def HoldsSent (i hash : Nat) (keys : List Key) (w : World) : Prop :=
  w.flushing = some i ∧ ∀ k ∈ keys, Sent w hash k

lemma HoldsSent.rely (h : HoldsSent i hash keys w)
    (hrely : discipline.rely i w w') : HoldsSent i hash keys w' := by
  have hstays := hrely h.1
  exact ⟨hstays.flushing.trans h.1, fun k hk => hstays.sent hash k (h.2 k hk)⟩

/-- **One calm effect**: where it is performed, and what it answers. -/
theorem safe_calm (e : Effect) (he : calm e) (hw : Inv w) {Q : Except String (Answer e) → World → Prop}
    (h : ∀ w1 o r w', discipline.rely i w w1 → (e.awaits = false → w1 = w) → Inv w1 →
      Timely w1 e o → w1.act e o = some (r, w') → Inv w' → (w1.flushing.isSome → Stays w1 w') →
        Q r w') : (runtime signedByPayer).Safe discipline i (ask e) Q w := by
  refine safe_call_from relies hw fun w1 o r w' hrely hsync hw1 hok hact => ?_
  obtain ⟨hinv, hstays, -⟩ := act_calm he hw1 hok hact
  exact ⟨hinv, guar_of_stays hstays, h w1 o r w' hrely hsync hw1 hok hact hinv hstays⟩

lemma safe_now (hw : Inv w) :
    (runtime signedByPayer).Safe discipline i (ask .now) (fun r w' => w' = w ∧ ∃ t, r = .ok t) w := by
  refine safe_calm .now trivial hw fun w1 o r w' _ hsync _ _ hact _ _ => ?_
  obtain rfl := hsync rfl
  cases o <;> cases hact
  exact ⟨rfl, _, rfl⟩

lemma safe_update {f : VoucherRow → VoucherRow} (hw : Inv w)
    (hf : ∀ {row}, w.vouchers.get key = some row → RowTrue w key (f row)) :
    (runtime signedByPayer).Safe discipline i (ask (.update key f))
      (fun r w' => Inv w' ∧ SameChain w w' ∧ w'.flushing = w.flushing ∧ r = .ok ()) w := by
  refine safe_call_from relies hw fun w1 o r w' _ hsync _ _ hact => ?_
  obtain rfl := hsync rfl
  cases o <;> cases hact
  have hinv := hw.update hf
  have hsame := sameChain_update (w := w1) key f
  exact ⟨hinv, guar_of_stays fun _ => hsame.stays rfl, hinv, hsame, rfl, rfl⟩

lemma safe_updates {body : Key × VoucherRow → Prog Unit} (hw : Inv w)
    (hbody : ∀ r ∈ rows, ∀ w', Inv w' → SameChain w w' →
      (runtime signedByPayer).Safe discipline i (body r)
        (fun res w'' => Inv w'' ∧ SameChain w' w'' ∧ w''.flushing = w'.flushing ∧ res = .ok ()) w') :
    (runtime signedByPayer).Safe discipline i (each rows body)
      (fun res w' => Inv w' ∧ SameChain w w' ∧ w'.flushing = w.flushing ∧ res = .ok ()) w := by
  refine safe_each (P := fun rest w' => (∀ r ∈ rest, r ∈ rows) ∧ Inv w' ∧ SameChain w w' ∧
    w'.flushing = w.flushing) ⟨fun _ h => h, hw, SameChain.refl w, rfl⟩ ?_
    fun w' h => ⟨h.2.1, h.2.2.1, h.2.2.2, rfl⟩
  rintro r rest w' ⟨hmem, hw', hsame, hflush⟩
  refine (hbody r (hmem r mem_cons_self) w' hw' hsame).mono ?_
  rintro _ w'' ⟨hw'', hsame', hflush', rfl⟩
  exact ⟨fun r' hr' => hmem r' (.tail _ hr'), hw'', hsame.trans hsame', hflush'.trans hflush⟩

lemma safe_finalize {rc : Receipt} (hw : Inv w) (hrows : ∀ r ∈ rows, Final w hash rc r.1) :
    (runtime signedByPayer).Safe discipline i (finalize rows hash rc)
      (fun res w' => Inv w' ∧ SameChain w w' ∧ w'.flushing = w.flushing ∧ res = .ok ()) w := by
  refine (safe_now hw).bind ?_
  rintro _ _ ⟨rfl, t, rfl⟩
  exact safe_updates hw fun r hr w' hw' hsame =>
    safe_update hw' fun {row} _ => hw'.finalized ((hrows r hr).same hsame) _ t row

/-! ### The parts of a flush -/

lemma safe_reconcileOne (hw : Inv w) (hflush : w.flushing = some i) :
    (runtime signedByPayer).Safe discipline i (reconcileOne hash)
      (fun res w' => Inv w' ∧ w'.flushing = some i ∧ res = .ok ()) w := by
  refine safe_bind.mpr (safe_calm (.getTransactionReceipt hash) trivial hw
    fun w1 o r w' hrely _ hw1 _ hact _ _ => ?_)
  have hflush1 := (hrely hflush).flushing.trans hflush
  -- the answer is the receipt as it is now, or nothing
  obtain ⟨receipt, rfl, rfl, hreceipt⟩ : ∃ receipt, r = .ok receipt ∧ w' = w1 ∧
      ∀ rc, receipt = some rc → w1.receipt hash = some rc := by
    cases o <;> cases hact
    · exact ⟨_, rfl, rfl, fun _ h => h⟩
    · exact ⟨none, rfl, rfl, nofun⟩
  refine safe_bind.mpr (safe_calm (.submittedRows hash) trivial hw1
    fun w2 o r w' _ hsync _ _ hact _ _ => ?_)
  obtain rfl := hsync rfl
  cases o <;> cases hact
  -- the rows say `submitted`, so nothing was applied for them
  have hrow {r : Key × VoucherRow} (hr : r ∈ w2.submittedRows hash) :
      Carries w2 hash r.1 ∧ Unapplied w2 r.1 ∧ ¬ GivenUp w2 r.1 := by
    obtain ⟨hmem, hcond⟩ := mem_filter.mp hr
    simp only [Bool.and_eq_true, decide_eq_true_eq] at hcond
    have hget := get_eq_some.mpr hmem
    exact ⟨(hw1.row hget).submitted hcond.1 hash hcond.2,
      hw1.unapplied hget (by rw [hcond.1]; nofun), hw1.kept hget (.inr hcond.1)⟩
  cases receipt with
  | some rc =>
    refine (safe_finalize hw1 fun r hr => ?_).mono fun res w' h => ⟨h.1, h.2.2.1.trans hflush1, h.2.2.2⟩
    obtain ⟨hcarries, hun, hkept⟩ := hrow hr
    exact ⟨hreceipt rc rfl, hcarries, fun _ => hun, hkept⟩
  | none =>
    refine (safe_updates hw1 fun r hr w' hw' hsame => safe_update hw' fun {row} _ => ?_).mono
      fun res w' h => ⟨h.1, h.2.2.1.trans hflush1, h.2.2.2⟩
    obtain ⟨-, hun, hkept⟩ := hrow hr
    exact .plain (.inl rfl) (hsame.unapplied.mpr hun) fun hg => hkept (hsame.given.mp hg)

lemma safe_reconcileSubmitted (hw : Inv w) (hflush : w.flushing = some i) :
    (runtime signedByPayer).Safe discipline i reconcileSubmitted
      (fun res w' => Inv w' ∧ w'.flushing = some i ∧ res = .ok ()) w := by
  refine (safe_now hw).bind ?_
  rintro _ _ ⟨rfl, t, rfl⟩
  refine safe_bind.mpr (safe_calm (.staleHashes (t - X402_SUBMITTED_STALE_S)) trivial hw
    fun w1 o r w' _ hsync _ _ hact _ _ => ?_)
  obtain rfl := hsync rfl
  cases o <;> cases hact
  refine safe_each (P := fun _ w' => Inv w' ∧ w'.flushing = some i) ⟨hw, hflush⟩
    (fun hash rest w' h => (safe_reconcileOne h.1 h.2).mono ?_) fun w' h => ⟨h.1, h.2, rfl⟩
  rintro _ w'' ⟨hw'', hflush'', rfl⟩
  exact ⟨hw'', hflush''⟩

/-- What the choice of a batch does: it asks the node, and writes to the rows it holds. -/
def chooses (keys : List Key) : Effect → Prop
  | .now | .estimateGas _ => True
  | .update key f => key ∈ keys ∧ ∀ row, (f row).status = .queued ∨ (f row).status = .failed ∨
      (f row).status = row.status ∧ (f row).txHash = row.txHash
  | _ => False

lemma safe_chooseBatch {queued : List (Key × VoucherRow)} (hw : Inv w)
    (h : HoldsClean i (queued.map fst) w) :
    (runtime signedByPayer).Safe discipline i (chooseBatch signedByPayer queued)
      (fun res w' => (HoldsClean i (queued.map fst) w' ∧ Inv w') ∧
        ∀ rows, res = .ok rows → rows.Subperm queued) w := by
  have huses : (chooseBatch signedByPayer queued).Uses (chooses (queued.map fst)) := by
    refine uses_chooseBatch trivial (fun _ => trivial) queued
      (fun r hr why t => ⟨mem_map_of_mem hr, fun row => ?_⟩)
      fun r hr message => ⟨mem_map_of_mem hr, fun row => ?_⟩
    · unfold failedAlone
      split
      · exact .inr (.inl rfl)
      · exact .inl rfl
    · unfold noted
      split
      · next hqueued => exact .inl hqueued
      · exact .inr (.inr ⟨rfl, rfl⟩)
  refine (Safe.of_uses_within relies (L := HoldsClean i (queued.map fst))
    (fun h hrely _ => h.rely hrely) ?_ huses hw h).yields (yields_chooseBatch queued)
  intro e w1 o r w' he hw1 hL hok hact
  have hcalm (e : Effect) {r : Except String (Answer e)} (he : calm e) (hok : Timely w1 e o)
      (hact : w1.act e o = some (r, w')) :
      Inv w' ∧ discipline.guar i w1 w' ∧ HoldsClean i (queued.map fst) w' := by
    obtain ⟨hinv, hstays, -⟩ := act_calm he hw1 hok hact
    exact ⟨hinv, guar_of_stays hstays, hL.rely fun hi => hstays (by simp [hi])⟩
  cases e with
  | now => exact hcalm .now trivial hok hact
  | estimateGas rows => exact hcalm (.estimateGas rows) trivial hok hact
  | update key f =>
    cases o <;> cases hact
    have hclean := hL.2 key he.1
    have hun := unapplied_of_unresolved hclean.unresolved
    have hsame := sameChain_update (w := w1) key f
    have hinv : Inv (w1.update key f) := by
      refine hw1.update fun {row} hrow => ?_
      rcases he.2 row with hs | hs | ⟨hs, hh⟩
      · exact .plain (.inl hs) hun hclean.kept
      · exact .plain (.inr hs) hun hclean.kept
      · have hold := hw1.row hrow
        refine ⟨fun h hash hhash => ?_, fun h => hold.settled (hs.symm.trans h),
          fun hn => absurd hun hn, fun hg => absurd hg hclean.kept⟩
        exact hold.submitted (hs.symm.trans h) hash (hh.symm.trans hhash)
    exact ⟨hinv, guar_of_stays fun _ => hsame.stays rfl, hL.1, fun k hk => hsame.clean (hL.2 k hk)⟩
  | _ => exact he.elim

/-! ### A batch is sent -/

lemma receipt_accept (rows : List (Key × VoucherRow)) (hash : Nat) :
    (w.accept rows).receipt hash = w.receipt hash := by
  simp only [receipt, lookup_accept]
  by_cases hi : hash = w.txs.length <;> simp [hi]

lemma carries_accept : Carries (w.accept rows) hash k ↔
      Carries w hash k ∨ hash = w.txs.length ∧ k ∈ rows.map fst := by
  simp only [Carries, lookup_accept]
  by_cases hi : hash = w.txs.length <;> simp [hi]

lemma Clean.ne_of_waiting (hk : Clean w k) {tx : Batch} (h : w.waiting i = some tx)
    {v : Key × VoucherRow} (hv : v ∈ tx.vouchers) : v.1 ≠ k := by
  rintro rfl
  have hcarried := carried_of_waiting h hv
  rw [hk.uncarried] at hcarried
  cases hcarried

/-- **A batch of vouchers that nobody has sent.** -/
theorem Inv.accept (hw : Inv w) (hnodup : (rows.map fst).Nodup)
    (hclean : ∀ k ∈ rows.map fst, Clean w k) : Inv (w.accept rows) := by
  have hclean' {v : Key × VoucherRow} (hv : v ∈ rows) : Clean w v.1 :=
    hclean v.1 (mem_map_of_mem hv)
  refine ⟨⟨hw.chain.nodup, hw.chain.used, hw.chain.indexed, hw.chain.mem_rows, ?_, ?_, ?_, ?_, ?_, ?_,
    ?_⟩, fun {k row} hrow => ?_⟩
  · intro hash log
    rw [receipt_accept]
    exact hw.chain.receipt
  · intro hash rc hrc
    rw [receipt_accept] at hrc
    exact hw.chain.reverted hrc
  · intro hash rc k hrc hstatus hk
    rw [receipt_accept] at hrc
    rcases carries_accept.mp hk with hk | ⟨rfl, -⟩
    · exact hw.chain.complete hrc hstatus hk
    · simp [receipt] at hrc
  · intro hash tx htx
    rw [waiting_accept] at htx
    split at htx
    · cases htx
      exact hnodup
    · exact hw.chain.nodup_waiting htx
  · intro hash tx htx v hv
    rw [waiting_accept] at htx
    split at htx
    · cases htx
      exact ⟨(hclean' hv).unresolved, (hclean' hv).mem⟩
    · exact hw.chain.waiting htx v hv
  · intro i j tx tx' hij hi hj v hv v' hv'
    rw [waiting_accept] at hi hj
    split at hi
    · cases hi
      split at hj
      · next hlast hlast' => exact absurd (hlast.trans hlast'.symm) hij
      · exact ((hclean' hv).ne_of_waiting hj hv').symm
    · split at hj
      · cases hj
        exact (hclean' hv').ne_of_waiting hi hv
      · exact hw.chain.apart hij hi hj v hv v' hv'
  · intro k n hg
    obtain ⟨hmem, hle, hnot⟩ := hw.chain.givenUp hg
    refine ⟨hmem, ?_, fun hash hn hk => ?_⟩
    · simp only [World.accept, length_append]
      exact Nat.le_add_right_of_le hle
    · rcases carries_accept.mp hk with hk | ⟨-, hk⟩
      · exact hnot hash hn hk
      · exact (hclean k hk).kept (mem_map_of_mem hg)
  · have hold := hw.row hrow
    exact ⟨fun hs hash hh => carries_accept.mpr (.inl (hold.submitted hs hash hh)), hold.settled,
      hold.applied, hold.givenUp⟩

lemma Clean.sent (hk : Clean w k) (hmem : k ∈ rows.map fst) :
    Sent (w.accept rows) w.txs.length k where
  carries := carries_accept.mpr (.inr ⟨rfl, hmem⟩)
  only l hl hkey := by
    have hall := any_eq_false.mp hk.unresolved l hl
    exact absurd hkey (by simpa using hall)
  alone hne htx v hv := by
    rw [waiting_accept, if_neg hne] at htx
    exact hk.ne_of_waiting htx hv
  kept := hk.kept

/-- Nothing was applied for what only a transaction that nothing was applied of can settle. -/
lemma Sent.unapplied (hk : Sent w hash k) (h : ∀ l ∈ w.logs.take w.indexed, l.1 ≠ hash) :
    Unapplied w k := fun _ hmem =>
  h _ hmem (hk.only _ (mem_of_mem_take hmem) rfl)

/-- What a flush knows of its batch when it marks the rows. -/
def Markable (i : Nat) (keys : List Key) (w : World) : Prop :=
  w.flushing = some i ∧ ∀ k ∈ keys, Unapplied w k ∧ ¬ GivenUp w k

lemma HoldsClean.markable (h : HoldsClean i keys w) : Markable i keys w :=
  ⟨h.1, fun k hk => ⟨unapplied_of_unresolved (h.2 k hk).unresolved, (h.2 k hk).kept⟩⟩

lemma safe_clean (e : Effect) (he : calm e) (hw : Inv w) (h : HoldsClean i keys w) :
    (runtime signedByPayer).Safe discipline i (ask e) (fun _ w' => Inv w' ∧ HoldsClean i keys w') w := by
  refine safe_calm e he hw fun w1 o r w' hrely _ _ _ _ hinv hstays => ⟨hinv, ?_⟩
  exact (h.rely hrely).rely fun hi => hstays (by simp [hi])

section

variable (hw : Inv w)
include hw

lemma safe_submit (hnodup : (rows.map fst).Nodup) (h : HoldsClean i (rows.map fst) w) :
    (runtime signedByPayer).Safe discipline i (submit rows)
      (fun res w' => Inv w' ∧ Markable i (rows.map fst) w' ∧
        ∀ hash, res = .ok hash → HoldsSent i hash (rows.map fst) w') w := by
  refine (safe_clean (.estimateGas rows) trivial hw h).bind ?_
  rintro (message | estimate | message | message) w1 ⟨hw1, h1⟩
  · exact ⟨hw1, h1.markable, nofun⟩
  · refine (safe_clean .blockGasLimit trivial hw1 h1).bind ?_
    rintro (message | block) w2 ⟨hw2, h2⟩
    · exact ⟨hw2, h2.markable, nofun⟩
    refine safe_bind.mpr (safe_call_from relies hw2 fun w3 o r w' hrely _ hw3 _ hact => ?_)
    have h3 := h2.rely hrely
    cases o with
    | fails =>
      cases hact
      exact ⟨hw3, guar_of_stays fun _ => Stays.refl w3, hw3, h3.markable, nofun⟩
    | answer =>
      cases hact
      have hw' := hw3.accept hnodup h3.2
      have h' : HoldsSent i w3.txs.length (rows.map fst) (w3.accept rows) :=
        ⟨h3.1, fun k hk => (h3.2 k hk).sent hk⟩
      refine ⟨hw', fun j hj hflush => absurd (some.inj (hflush.symm.trans h3.1)) hj, ?_⟩
      -- the answer arrives before anything of the batch is applied
      refine safe_bind.mpr (safe_calm (.sent w3.txs.length) trivial hw'
        fun w4 o r w'' hrely _ hw4 hok hact _ _ => ?_)
      have h4 := h'.rely hrely
      have hmark : Markable i (rows.map fst) w4 :=
        ⟨h4.1, fun k hk => ⟨(h4.2 k hk).unapplied hok, (h4.2 k hk).kept⟩⟩
      cases o with
      | fails =>
        cases hact
        exact ⟨hw4, hmark, nofun⟩
      | answer =>
        cases hact
        refine ⟨hw4, hmark, fun hash heq => ?_⟩
        cases heq
        exact h4
      | _ => cases hact
    | _ => cases hact
  · exact ⟨hw1, h1.markable, nofun⟩
  · exact ⟨hw1, h1.markable, nofun⟩

lemma safe_marks
    (h : Markable i (rows.map fst) w) (hsent : ∀ k ∈ rows.map fst, Carries w hash k) :
    (runtime signedByPayer).Safe discipline i (each rows fun r => do
        let t ← ask .now
        ask (.update r.1 (submittedIn hash t)))
      (fun res w' => Inv w' ∧ SameChain w w' ∧ w'.flushing = w.flushing ∧ res = .ok ()) w := by
  refine safe_updates hw fun r hr w' hw' hsame => ?_
  have hk := mem_map_of_mem (f := fst) hr
  refine (safe_now hw').bind ?_
  rintro _ _ ⟨rfl, t, rfl⟩
  refine safe_update hw' fun {row} _ => ⟨fun _ hash' heq => ?_, nofun, fun hn => ?_, fun hg => ?_⟩
  · cases heq
    exact hsame.carries.mpr (hsent _ hk)
  · exact absurd (hsame.unapplied.mpr (h.2 _ hk).1) hn
  · exact absurd (hsame.given.mp hg) (h.2 _ hk).2

lemma safe_awaitBatch
    (h : Markable i (rows.map fst) w) (hsent : HoldsSent i hash (rows.map fst) w) :
    (runtime signedByPayer).Safe discipline i (awaitBatch rows hash)
      (fun _ w' => Inv w' ∧ w'.flushing = some i) w := by
  refine (safe_marks hw h fun k hk => (hsent.2 k hk).carries).bind ?_
  rintro _ w1 ⟨hw1, hsame, hflush1, rfl⟩
  have h1 : HoldsSent i hash (rows.map fst) w1 :=
    ⟨hflush1.trans hsent.1, fun k hk => hsame.sent (hsent.2 k hk)⟩
  refine safe_bind.mpr (safe_calm (.wait hash) trivial hw1
    fun w2 o r w' hrely _ hw2 _ hact _ _ => ?_)
  have h2 := h1.rely hrely
  cases o with
  | fails =>
    cases hact
    exact ⟨hw2, h2.1⟩
  | answer =>
    obtain ⟨rc, hrc, heq⟩ := map_eq_some_iff.mp hact
    cases heq
    refine (safe_finalize hw2 fun r hr => ?_).mono fun _ w' h' => ⟨h'.1, h'.2.2.1.trans h2.1⟩
    have hk := h2.2 r.1 (mem_map_of_mem hr)
    refine ⟨hrc, hk.carries, fun hstatus => hk.unapplied fun l hl heq => ?_, hk.kept⟩
    -- a transaction that reverted has no logs
    obtain ⟨rc', hrc', hlog⟩ := hw2.chain.receipt.mp
      (show (hash, l.2) ∈ w2.logs from heq ▸ mem_of_mem_take hl)
    cases hrc.symm.trans hrc'
    rw [hw2.chain.reverted hrc hstatus] at hlog
    cases hlog
  | _ => cases hact

lemma safe_sendBatch (hnodup : (rows.map fst).Nodup) (h : HoldsClean i (rows.map fst) w) :
    (runtime signedByPayer).Safe discipline i (sendBatch rows)
      (fun _ w' => Inv w' ∧ w'.flushing = some i) w := by
  refine safe_bind.mpr (safe_tryCatch.mpr ((safe_submit hw hnodup h).bind ?_))
  rintro (message | hash) w1 ⟨hw1, hmark, hsent⟩
  · refine (safe_updates hw1 fun r hr w' hw' hsame =>
      safe_update hw' fun {row} _ => ?_).bind ?_
    · have hk := hmark.2 r.1 (mem_map_of_mem hr)
      exact .plain (.inl rfl) (hsame.unapplied.mpr hk.1) fun hg => hk.2 (hsame.given.mp hg)
    · rintro _ w2 ⟨hw2, -, hflush2, rfl⟩
      exact ⟨hw2, hflush2.trans hmark.1⟩
  · exact safe_awaitBatch hw1 hmark (hsent hash rfl)

/-- **The queue is read**: under the condition nobody has sent what is queued. -/
theorem clean_queuedRows {limit : Nat} {o : Choice} (hok : Timely w (.queuedRows limit) o)
    {k : Key} (hk : k ∈ (w.queuedRows limit).map fst) : Clean w k := by
  obtain ⟨v, hv, rfl⟩ := mem_map.mp hk
  obtain ⟨hget, hqueued⟩ := mem_queuedRows hv
  obtain ⟨hunresolved, huncarried⟩ := hok v (get_eq_some.mp hget) hqueued
  exact ⟨hunresolved, huncarried, by simp [hget], hw.kept hget (.inl hqueued)⟩

lemma safe_flushQueue (hflush : w.flushing = some i) :
    (runtime signedByPayer).Safe discipline i (flushQueue signedByPayer)
      (fun _ w' => Inv w' ∧ w'.flushing = some i) w := by
  refine (safe_reconcileSubmitted hw hflush).bind ?_
  rintro _ w1 ⟨hw1, hflush1, rfl⟩
  refine (safe_now hw1).bind ?_
  rintro _ _ ⟨rfl, t0, rfl⟩
  refine safe_bind.mpr (safe_calm (.expire t0) trivial hw1
    fun w2 o r w' _ hsync _ _ hact hw' hstays => ?_)
  obtain rfl := hsync rfl
  have hflush' := (hstays (by simp [hflush1])).flushing.trans hflush1
  cases o <;> cases hact
  refine safe_bind.mpr (safe_calm (.queuedRows X402_BATCH_SIZE) trivial hw'
    fun w3 o r w'' _ hsync hw3 hok hact _ _ => ?_)
  obtain rfl := hsync rfl
  cases o <;> cases hact
  refine safe_guard ⟨hw3, hflush'⟩ fun _ => ?_
  -- the batch is chosen from the rows that were read
  obtain ⟨more, hmore, heq⟩ := capped_eq X402_BATCH_SIZE [] ((w2.expire t0).queuedRows X402_BATCH_SIZE)
  rw [nil_append] at heq
  have hqueued : HoldsClean i
      ((capped X402_BATCH_SIZE [] ((w2.expire t0).queuedRows X402_BATCH_SIZE)).map fst)
      (w2.expire t0) := by
    rw [heq]
    exact ⟨hflush', fun k hk => clean_queuedRows hw3 hok ((hmore.map fst).subset hk)⟩
  have hnodup :
      ((capped X402_BATCH_SIZE [] ((w2.expire t0).queuedRows X402_BATCH_SIZE)).map fst).Nodup := by
    rw [heq]
    exact (nodup_queuedRows X402_BATCH_SIZE).sublist (hmore.map fst)
  refine (safe_chooseBatch hw3 hqueued).bind ?_
  rintro (message | rows) w4 ⟨⟨h4, hw4⟩, hrows⟩
  · exact ⟨hw4, h4.1⟩
  obtain ⟨l, hperm, hsub⟩ := hrows rows rfl
  have hperm := hperm.map fst
  have hsub := hsub.map fst
  exact safe_ite.mpr ⟨fun _ => ⟨hw4, h4.1⟩, fun _ => safe_sendBatch hw4
    (hperm.nodup_iff.mp (hnodup.sublist hsub))
    ⟨h4.1, fun k hk => h4.2 k (hsub.subset (hperm.symm.subset hk))⟩⟩

lemma Inv.idle (flushing : Option Nat) : Inv { w with flushing } :=
  hw.same ⟨rfl, rfl, rfl, rfl, rfl, fun _ h => h⟩ rfl

lemma safe_endFlush (hflush : w.flushing = some i) :
    (runtime signedByPayer).Safe discipline i (ask .endFlush) (fun _ _ => True) w := by
  refine safe_call_from relies hw fun w1 o r w' _ hsync _ _ hact => ?_
  obtain rfl := hsync rfl
  cases o <;> cases hact
  exact ⟨hw.idle none, fun j hj h => absurd (some.inj (h.symm.trans hflush)) hj, trivial⟩

lemma safe_flush :
    (runtime signedByPayer).Safe discipline i (flush signedByPayer i) (fun _ _ => True) w := by
  refine safe_bind.mpr (safe_call_from relies hw fun w1 o r w' _ hsync _ _ hact => ?_)
  obtain rfl := hsync rfl
  cases o with
  | statement now =>
    simp only [runtime, World.act] at hact
    split at hact
    · cases hact
      exact ⟨hw, guar_of_stays fun _ => Stays.refl w1, trivial⟩
    · next hidle =>
      cases hact
      have hbegun := hw.idle (some i)
      refine ⟨hbegun, guar_of_stays fun hsome => absurd hsome hidle, ?_⟩
      refine safe_ite.mpr ⟨fun _ => ?_, fun _ => trivial⟩
      refine safe_bind.mpr (safe_tryCatch.mpr
        ((safe_flushQueue hbegun rfl).mono fun res w2 h2 => ?_))
      cases res with
      | ok => exact safe_endFlush h2.1 h2.2
      | error message =>
        refine (safe_endFlush h2.1 h2.2).bind ?_
        rintro (message | _) w3 -
        · trivial
        · trivial
  | _ => cases hact

/-! ### Runs -/

end

lemma safe_of_calm {t : Prog α} (ht : t.Uses calm) (hw : Inv w) :
    (runtime signedByPayer).Safe discipline i t (fun _ _ => True) w := by
  refine (Safe.of_uses_within relies (L := fun _ => True) (fun h _ _ => h) ?_ ht hw
    trivial).mono fun _ _ _ => trivial
  intro e w1 o r w' he hw1 _ hok hact
  obtain ⟨hinv, hstays, -⟩ := act_calm he hw1 hok hact
  exact ⟨hinv, guar_of_stays hstays, trivial⟩

lemma uses_checkFunds (key : Key) (v : VoucherRow) : (checkFunds key v).Uses calm := by
  refine next trivial fun nowS => catching ?_ fun _ => trivial
  refine next trivial fun balance => next trivial fun _ => next trivial fun pending => ?_
  split
  · trivial
  · refine next trivial fun unlockAt => ?_
    split <;> trivial

lemma uses_settle (key : Key) (v : VoucherRow) (thread : Nat) :
    (settle key v thread).Uses calm := by
  refine next trivial fun verdict => ?_
  cases verdict with
  | some => trivial
  | none =>
    refine next trivial fun _ => ?_
    refine bind (catching ?_ fun message =>
      next trivial fun _ => trivial) fun res =>
      next trivial fun _ => trivial
    refine next trivial fun used => ?_
    split
    · trivial
    · refine bind (uses_checkFunds key v) fun refused => ?_
      cases refused with
      | some => trivial
      | none =>
        refine next trivial fun nowS =>
          next rfl fun inserted => ?_
        split <;> trivial

lemma sound : Sound (runtime signedByPayer) discipline where
  toRelies := relies
  guar hne h := h _ (Ne.symm hne)
  drift hw h := by
    obtain ⟨hinv, hstays⟩ := hw.drift h
    exact ⟨hinv, fun i _ => hstays⟩
  reboot hw := hw.same ⟨rfl, rfl, rfl, rfl, rfl, fun _ h => h⟩ rfl
  task i j w hw := by
    cases j with
    | settle key v => exact safe_of_calm (bind (uses_settle key v i) fun _ => uses_pure) hw
    | flush => exact safe_flush hw
    | voidQueued key reason =>
      exact safe_of_calm (next trivial fun _ => uses_pure) hw
    | index => exact safe_of_calm (.one trivial) hw

lemma Inv.fresh (h : w.Fresh) : Inv w := by
  have hwaiting (i : Nat) : w.waiting i = none := by simp [waiting, h.txs]
  have hreceipt (i : Nat) : w.receipt i = none := by simp [receipt, h.txs]
  refine ⟨⟨?_, ?_, ?_, ?_, ?_, ?_, ?_, ?_, ?_, ?_, ?_⟩, fun {k row} hrow => ?_⟩
  all_goals first
    | simp [h.logs, h.used, h.indexed, h.givenUp, hwaiting, hreceipt]
    | simp [h.vouchers] at hrow

end Truth

def readQueue (i : Nat) : List (Move Nat Job Choice) :=
  .start i .flush :: goes i (List.replicate 6 (.statement 20))

def giveUp (i nonce : Nat) : List (Move Nat Job Choice) :=
  .start i (.voidQueued (1, nonce) "withdrawn") :: goes i [.statement 21]

def sendChosen (i : Nat) : List (Move Nat Job Choice) :=
  goes i [.estimate (.gas 100_000), .estimate (.gas 100_000), .limit none, .answer]

/-- The node does not answer about the first transaction, which lands after the voucher was queued
again and sent a second time. -/
def sendTwice : List (Move Nat Job Choice) :=
  sendOne ++ goes 0 [.fails "timeout", .statement 20] ++
    .start 5 .flush :: goes 5 [.statement 900, .statement 900, .statement 900, .answer,
      .statement 900, .statement 900, .statement 900, .statement 900, .statement 900] ++
    sendChosen 5 ++ goes 5 [.answer, .statement 900, .statement 900] ++
    [.drift (.settle 0 901 fun _ => true), .drift (.settle 1 902 fun _ => true),
      .start 4 .index, .go 4 (.statement 903)] ++
    goes 5 [.answer, .statement 904, .statement 904, .statement 904] ++
    [.start 6 .index, .go 6 (.statement 905)]

end Ferminux.Gateway.X402
