import Ferminux.Relayer.Cursor

/-!
# Relayer.CursorSafety

The watcher, part by part, against the invariant of `Relayer.Cursor`: **every settled
log has a row**, in every run that meets the condition, and a run of the program in which one
is skipped.

A poll has its cursor (`Started`), reads two heads (`HeadRead`) and scans chunk by chunk
(`Scanning`); all of these survive what the other threads do (`Frame`).
-/

namespace Ferminux.Relayer

open Lib Lib.Runtime Function List Store Nat

variable {settled : Int}

namespace Node

variable {N : NodeConfig} {w w' w'' : World Sources} {chainId : Nat}

/-! ### Parts that leave cursors and heads alone -/

lemma relies_scan : Relies (scanDiscipline N) where
  refl i w := by
    cases i with
    | role => trivial
    | watcher chainId => exact Frame.refl chainId w
  trans {i w₁ w2 w3} h h' := by
    cases i with
    | role => trivial
    | watcher => exact Frame.trans h h'

variable {role : Job → Prog Unit} {chain : ChainConfig} {α : Type} (hw : ScanInv N w)
  {other head block now next saved stop cursor : Nat} {st : Store}

abbrev ScanSafe (N : NodeConfig) (role : Job → Prog Unit) (chainId : Nat) (t : Prog α)
    (Q : Except String α → World Sources → Prop) (w : World Sources) : Prop :=
  (runtime N (sources N) role).Safe (scanDiscipline N) (.watcher chainId) t Q w

lemma quiet_neutral : Quiet N (sources N) (scanDiscipline N) (.watcher chainId) neutral where
  toRelies := relies_scan
  effect he hw _ :=
    ⟨hw.perform he _ _, fun other _ => frame_perform he _ _ other, frame_perform he _ _ chainId⟩

lemma quiet_probing : Quiet N (sources N) (scanDiscipline N) (.watcher chainId) probing :=
  quiet_neutral.within

/-! ### Reading a head -/

def World.noting (w : World Sources) (chainId : Nat) (reads : PollReads) : World Sources :=
  { w with ext := w.ext.noteReads chainId reads }

include hw in
lemma ScanInv.noting (chainId : Nat) (reads : PollReads) : ScanInv N (w.noting chainId reads) :=
  ⟨hw.head, hw.cursor⟩

lemma frame_noting (hne : other ≠ chainId) (reads : PollReads) :
    Frame N other w (w.noting chainId reads) :=
  ⟨rfl, rfl, update_of_ne hne _ _, fun _ h => h, le_refl _, fun _ _ => rfl⟩

lemma Frame.noting (h : Frame N chainId w w') (reads : PollReads) :
    Frame N chainId (w.noting chainId reads) (w'.noting chainId reads) :=
  ⟨h.cursor, h.start, by simp [World.noting, Sources.noteReads], h.rows, h.highest, h.logs⟩

def PollReads.push (reads : PollReads) (head : Nat) : PollReads :=
  { reads with heads := reads.heads ++ [head] }

structure HeadRead (N : NodeConfig) (chainId : Nat) (w : World Sources) (head : Nat)
    (w' : World Sources) : Prop where
  inv : ScanInv N w'
  frame : Frame N chainId (w.noting chainId ((w.ext.reads chainId).push head)) w'
  highest : head ≤ (w'.ext.source chainId).highest
  steady : ∀ scanned, (w.ext.reads chainId).heads = [scanned] →
    head ≤ max scanned (w.ext.reads chainId).cursor + confirmationsOf N chainId

lemma HeadRead.before (h : HeadRead N chainId w' head w'')
    (hframe : Frame N chainId w w') : HeadRead N chainId w head w'' := by
  have hreads := hframe.reads
  refine ⟨h.inv, (hframe.noting _).trans ?_, h.highest, ?_⟩
  · rw [← hreads]
    exact h.frame
  · rw [← hreads]
    exact h.steady

include hw in
lemma safe_blockNumber (endpoint : Nat) :
    ScanSafe N role chainId (ask (.blockNumber chainId endpoint)) (fun r w' => match r with
        | .ok head => HeadRead N chainId w head w'
        | .error _ => Frame N chainId w w' ∧ ScanInv N w') w := by
  refine safe_ask relies_scan hw ?_
  intro w₁ now reply hframe _ hw1 hok
  have hguar : ∀ reads, ∀ other, other ≠ chainId →
      Frame N other w₁ (w₁.noting chainId reads) := fun reads other hne => frame_noting hne reads
  cases hr : reply (.blockNumber chainId endpoint) with
  | error => exact ⟨hw1, fun other _ => Frame.refl other w₁, hframe, hw1⟩
  | ok head =>
    obtain ⟨hserves, hsteady⟩ := hok
    simp only [Serves, serves, steady, hr, Except.toOption, Option.all_some,
      decide_eq_true_eq] at hserves hsteady
    have hread : HeadRead N chainId w₁ head
        (w₁.noting chainId ((w₁.ext.reads chainId).push head)) := by
      refine ⟨hw1.noting chainId _, Frame.refl chainId _, ?_, fun scanned hscanned => ?_⟩
      · exact le_of_lt_succ (lt_of_lt_of_le hserves (hw1.head chainId))
      · rw [hscanned] at hsteady
        exact of_decide_eq_true hsteady
    exact ⟨hread.inv, hguar _, hread.before hframe⟩

include hw in
lemma safe_getBlockNumber : ScanSafe N role chainId
      (getBlockNumber chain chainId) (Ends (scanDiscipline N) (HeadRead N chainId w)) w := by
  refine safe_withFailover quiet_probing hw (fun endpoint w₁ hframe hw1 => ?_) fun _ _ _ hw' => hw'
  refine (safe_blockNumber hw1 endpoint).mono fun r w' hr => ?_
  cases r with
  | ok => exact hr.before hframe
  | error => exact ⟨hframe.trans hr.1, hr.2⟩

/-! ### Writing the cursor -/

def MayMove (N : NodeConfig) (chainId block : Nat) (w : World Sources) : Prop :=
  w.store.getCursor chainId = none ∨
    ∃ cursor start, w.store.getCursor chainId = some cursor ∧ w.ext.start chainId = some start ∧
      start ≤ block ∧ ∀ height, start < height → height ≤ block →
        Settles N w chainId height ∧ RowsAt w chainId height

/-- The watcher moved its cursor to a block. -/
structure Moved (N : NodeConfig) (chainId block : Nat) (w w' : World Sources) : Prop where
  inv : ScanInv N w'
  cursor : w'.store.getCursor chainId = some block
  reads : w'.ext.reads chainId = { cursor := block }
  start : (w.store.getCursor chainId).isSome → w'.ext.start chainId = w.ext.start chainId
  source : w'.ext.source = w.ext.source
  rows : ∀ transferId, HasRow w transferId → HasRow w' transferId

def World.moved (w : World Sources) (store : Store) (chainId block : Nat) : World Sources :=
  { w with store, ext := w.ext.noteCursor w.store chainId block }

lemma frame_moved
    (hst : w.store.mutate N.host now (.setCursor chainId block) = .ok st) (hne : other ≠ chainId) :
    Frame N other w (w.moved st chainId block) := by
  refine ⟨?_, update_of_ne hne _ _, update_of_ne hne _ _, fun id hid => ?_,
    le_refl _, fun _ _ => rfl⟩
  · rw [World.moved, getCursor, cursors_setCursor hst, Table.get_set, if_neg hne]
    rfl
  · exact isSome_getTransfer_mutate hst hid

include hw in
lemma moved_of_mayMove (hmay : MayMove N chainId block w)
    (hst : w.store.mutate N.host now (.setCursor chainId block) = .ok st) :
    Moved N chainId block w (w.moved st chainId block) := by
  have hget : (w.moved st chainId block).store.getCursor chainId = some block := by
    rw [World.moved, getCursor, cursors_setCursor hst, Table.get_set, if_pos rfl]
  have hrows : ∀ id, HasRow w id → HasRow (w.moved st chainId block) id := fun id =>
    isSome_getTransfer_mutate hst
  have hstart : (w.moved st chainId block).ext.start chainId =
      if (w.store.getCursor chainId).isNone then some block else w.ext.start chainId :=
    update_self _ _ _
  refine ⟨⟨hw.head, fun {other cursor} hcursor => ?_⟩, hget, update_self _ _ _,
    fun hsome => ?_, rfl, hrows⟩
  · by_cases hne : other = chainId
    · subst hne
      cases hcursor.symm.trans hget
      rcases hmay with hnone | ⟨cursor, start, hold, hstarted, hle, hblocks⟩
      · refine ⟨block, ?_, le_refl _, fun height hlo hhi => ?_⟩
        · rw [hstart, hnone]
          rfl
        · omega
      · refine ⟨start, ?_, hle, fun height hlo hhi => ?_⟩
        · rw [hstart, hold]
          exact hstarted
        · obtain ⟨hsettled, hat⟩ := hblocks height hlo hhi
          exact ⟨hsettled, fun log hlog => hrows _ (hat log hlog)⟩
    · have hframe := frame_moved hst hne
      rw [hframe.cursor] at hcursor
      obtain ⟨start, hstarted, hle, hblocks⟩ := hw.cursor hcursor
      refine ⟨start, hframe.start.trans hstarted, hle, fun height hlo hhi => ?_⟩
      obtain ⟨hsettled, hat⟩ := hblocks height hlo hhi
      exact ⟨hframe.settles hsettled, hframe.rowsAt hsettled hat⟩
  · rw [hstart, if_neg (by simp [Option.isSome_iff_ne_none.mp hsome])]

include hw in
lemma safe_setCursor (hmay : MayMove N chainId block w) : ScanSafe N role chainId
      (write (.setCursor chainId block)) (Ends (scanDiscipline N) fun _ => Moved N chainId block w) w := by
  refine safe_sync relies_scan rfl hw fun now reply _ => ?_
  have hsame : ∀ other, other ≠ chainId → Frame N other w w := fun other _ => Frame.refl other w
  cases hr : reply (.write (.setCursor chainId block)) with
  | error => exact ⟨hw, hsame, hw⟩
  | ok =>
    cases hst : w.store.mutate N.host now (.setCursor chainId block) with
    | error reason =>
      have hperform : w.perform N (sources N) now (.write (.setCursor chainId block)) (.ok ()) =
          (.error reason, w) := by
        simp only [World.perform, World.serve, World.mutate, hst]
        rfl
      rw [hperform]
      exact ⟨hw, hsame, hw⟩
    | ok st =>
      have hperform : w.perform N (sources N) now (.write (.setCursor chainId block)) (.ok ()) =
          (.ok (), w.moved st chainId block) := by
        simp only [World.perform, World.serve, World.mutate, hst]
        rfl
      rw [hperform]
      have hmoved := moved_of_mayMove hw hmay hst
      exact ⟨hmoved.inv, fun other hne => frame_moved hst hne, hmoved⟩

/-! ### The cursor of a poll -/

structure Started (N : NodeConfig) (chainId cursor : Nat) (w : World Sources) : Prop where
  inv : ScanInv N w
  stored : w.store.getCursor chainId = some cursor
  reads : w.ext.reads chainId = { cursor := cursor }

def CursorPost (N : NodeConfig) (chainId : Nat) :
    Except String (Option Nat) → World Sources → Prop
  | .ok none, w' => ScanInv N w' ∧ w'.store.getCursor chainId = none
  | .ok (some cursor), w' => Started N chainId cursor w'
  | .error _, w' => ScanInv N w'

include hw in
lemma safe_getCursor :
    ScanSafe N role chainId (ask (.getCursor chainId)) (CursorPost N chainId) w := by
  refine safe_sync relies_scan rfl hw fun now reply _ => ?_
  cases hr : reply (.getCursor chainId) with
  | error => exact ⟨hw, fun other _ => Frame.refl other w, hw⟩
  | ok =>
    refine ⟨hw.noting chainId _, fun other hne => frame_noting hne _, ?_⟩
    show CursorPost N chainId (.ok (w.store.getCursor chainId))
      (w.noting chainId { cursor := (w.store.getCursor chainId).getD 0 })
    cases hcursor : w.store.getCursor chainId with
    | none => exact ⟨hw.noting chainId _, hcursor⟩
    | some => exact ⟨hw.noting chainId _, hcursor, update_self _ _ _⟩

include hw in
lemma safe_startingBlock (hnone : w.store.getCursor chainId = none) :
    ScanSafe N role chainId (startingBlock chain chainId)
      (fun r w' => ScanInv N w' ∧ (Returns r → w'.store.getCursor chainId = none)) w := by
  refine safe_guard ⟨hw, fun _ => hnone⟩ fun _ => ?_
  refine (safe_getBlockNumber hw).bind fun r w' hr => ?_
  cases r with
  | ok => exact ⟨hr.inv, fun _ => hr.frame.cursor.trans hnone⟩
  | error => exact ⟨hr, fun hreturns => absurd hreturns not_returns_error⟩

include hw in
lemma safe_initCursor : ScanSafe N role chainId
      (initCursor chain chainId) (Ends (scanDiscipline N) (Started N chainId)) w := by
  refine (safe_getCursor hw).bind_ok (fun _ _ hr => hr) fun stored w₁ hr => ?_
  cases stored with
  | some => exact hr
  | none =>
    refine (safe_startingBlock hr.1 hr.2).bind_ok (fun _ _ hw2 => hw2.1) fun start w2 hw2 => ?_
    refine (safe_setCursor hw2.1 (.inl (hw2.2 returns_ok))).bind fun r w3 hmoved => ?_
    cases r with
    | error => exact hmoved
    | ok => exact ⟨hmoved.inv, hmoved.cursor, hmoved.reads⟩

include hw in
lemma safe_currentCursor : ScanSafe N role chainId
      (currentCursor chain chainId) (Ends (scanDiscipline N) (Started N chainId)) w := by
  refine (safe_getCursor hw).bind_ok (fun _ _ hr => hr) fun stored w₁ hr => ?_
  cases stored with
  | some => exact hr
  | none => exact safe_initCursor hr.1

/-! ### Scanning -/

/-- Where a scan is: every block below `next` that is settled has its rows. -/
structure Scanning (N : NodeConfig) (chainId : Nat) (settled : Int) (next saved : Nat)
    (w : World Sources) : Prop where
  inv : ScanInv N w
  cursor : w.store.getCursor chainId = some saved
  settles : ∀ height : Nat, (height : Int) ≤ settled → Settles N w chainId height
  rows : ∀ start, w.ext.start chainId = some start → ∀ height : Nat, start < height →
    height < next → (height : Int) ≤ settled → RowsAt w chainId height

lemma Scanning.frame (h : Scanning N chainId settled next saved w) (hframe : Frame N chainId w w')
    (hinv : ScanInv N w') : Scanning N chainId settled next saved w' := by
  refine ⟨hinv, hframe.cursor.trans h.cursor, fun height hle => hframe.settles (h.settles height hle),
    fun start hstart height hlo hhi hle => ?_⟩
  rw [hframe.start] at hstart
  exact hframe.rowsAt (h.settles height hle) (h.rows start hstart height hlo hhi hle)

lemma Scanning.chunk (h : Scanning N chainId settled next saved w)
    (hrows : ∀ height : Nat, next ≤ height → height ≤ stop → (height : Int) ≤ settled →
      RowsAt w chainId height) : Scanning N chainId settled (stop + 1) saved w := by
  refine ⟨h.inv, h.cursor, h.settles, fun start hstart height hlo hhi hle => ?_⟩
  by_cases hnext : height < next
  · exact h.rows start hstart height hlo hnext hle
  · exact hrows height (by omega) (by omega) hle

lemma Scanning.mayMove
    (h : Scanning N chainId settled next saved w) (hsaved : saved ≤ block) (hnext : block < next)
    (hsettled : (block : Int) ≤ settled) : MayMove N chainId block w := by
  obtain ⟨start, hstart, hle, -⟩ := h.inv.cursor h.cursor
  refine .inr ⟨saved, start, h.cursor, hstart, by omega, fun height hlo hhi => ?_⟩
  exact ⟨h.settles height (by omega), h.rows start hstart height hlo (by omega) (by omega)⟩

lemma Scanning.moved
    (h : Scanning N chainId settled next saved w) (hmoved : Moved N chainId block w w') :
    Scanning N chainId settled next block w' := by
  refine ⟨hmoved.inv, hmoved.cursor, fun height hle => ?_, fun start hstart height hlo hhi hle => ?_⟩
  · rw [Settles, hmoved.source]
    exact h.settles height hle
  · rw [hmoved.start (by simp [h.cursor])] at hstart
    intro log hlog
    rw [hmoved.source] at hlog
    exact hmoved.rows _ (h.rows start hstart height hlo hhi hle log hlog)

/-- What has to hold behind a log read: what is answered is complete for the range. -/
def LogsPost (N : NodeConfig) (chainId start stop : Nat) (w : World Sources) :
    Except String (List Log) → World Sources → Prop
  | .ok logs, w' =>
    ScanInv N w' ∧ Frame N chainId w w' ∧ ∀ height, start ≤ height → height ≤ stop →
      ∀ log ∈ (w'.ext.source chainId).logsAt height, log ∈ logs
  | .error _, w' => ScanInv N w' ∧ Frame N chainId w w'

include hw in
lemma safe_getLogs (endpoint start stop : Nat) : ScanSafe N role chainId
      (ask (.getLogs chainId endpoint start stop)) (LogsPost N chainId start stop w) w := by
  refine safe_ask relies_scan hw ?_
  intro w₁ now reply hframe _ hw1 hok
  refine ⟨ScanInv.perform hw1 (by trivial) now _,
    fun other _ => frame_perform (by trivial) now _ other, ?_⟩
  cases hr : reply (.getLogs chainId endpoint start stop) with
  | error => exact ⟨hw1, hframe⟩
  | ok =>
    refine ⟨hw1, hframe, fun height hlo hhi log hlog => ?_⟩
    have hserves := hok.1
    simp only [Serves, serves, hr, Except.toOption, Option.all_some, all_eq_true,
      mem_range, Bool.or_eq_true, decide_eq_true_eq] at hserves
    exact (hserves height (by omega)).resolve_left (by omega) log hlog

lemma safe_mark {endpoint start : Nat} {m : Mark} {logs : List Log}
    (h : LogsPost N chainId start stop w (.ok logs) w') : ScanSafe N role chainId
      (ask (.mark chainId endpoint m)) (fun _ w'' => LogsPost N chainId start stop w (.ok logs) w'')
      w' := by
  refine safe_sync relies_scan rfl h.1 fun now reply _ => ?_
  have hframe := frame_perform (N := N) (w := w') (e := .mark chainId endpoint m) (by trivial) now
    (reply (.mark chainId endpoint m))
  have hinv := ScanInv.perform h.1 (e := .mark chainId endpoint m) (by trivial) now
    (reply (.mark chainId endpoint m))
  exact ⟨hinv, fun other _ => hframe other, hinv, h.2.1.trans (hframe chainId), h.2.2⟩

include hw in
lemma safe_firstLogs (start stop : Nat) (failure : String) (endpoints : List Nat) :
    ScanSafe N role chainId (firstLogs chainId N.isRangeRefusal start stop failure endpoints)
      (LogsPost N chainId start stop w) w := by
  induction endpoints generalizing w with
  | nil => exact ⟨hw, Frame.refl chainId w⟩
  | cons endpoint rest ih =>
    -- the next endpoints are asked in a world that the failure led to
    have hnext : ∀ w₁, ScanInv N w₁ → Frame N chainId w w₁ →
        ScanSafe N role chainId (firstLogs chainId N.isRangeRefusal start stop failure rest)
          (LogsPost N chainId start stop w) w₁ := by
      intro w₁ hw1 hframe
      refine (ih hw1).mono fun r w' hpost => ?_
      cases r with
      | ok => exact ⟨hpost.1, hframe.trans hpost.2.1, hpost.2.2⟩
      | error => exact ⟨hpost.1, hframe.trans hpost.2⟩
    have hhandler : ∀ reason w₁, ScanInv N w₁ → Frame N chainId w w₁ → ScanSafe N role chainId (do
            if ¬ N.isRangeRefusal reason then ask (.mark chainId endpoint .logsUnusable)
            firstLogs chainId N.isRangeRefusal start stop failure rest)
          (LogsPost N chainId start stop w) w₁ := by
      intro reason w₁ hw1 hframe
      refine safe_ite.mpr ⟨fun _ => ?_, fun _ => hnext w₁ hw1 hframe⟩
      have hmark : (ask (.mark chainId endpoint .logsUnusable)).Uses probing :=
        .one trivial
      refine (quiet_probing.safe hmark hw1).bind fun r w2 hw2 => ?_
      cases r with
      | ok => exact hnext w2 hw2.2 (hframe.trans hw2.1)
      | error => exact ⟨hw2.2, hframe.trans hw2.1⟩
    refine safe_tryCatch.mpr (safe_bind.mpr ?_)
    refine (safe_getLogs hw endpoint start stop).mono fun r w₁ hr => ?_
    cases r with
    | error reason => exact hhandler reason w₁ hr.1 hr.2
    | ok =>
      refine (safe_mark hr).bind fun r w2 hw2 => ?_
      cases r with
      | ok => exact hw2
      | error reason => exact hhandler reason w2 hw2.1 hw2.2.1

include hw in
lemma safe_logsWithFailover (start stop : Nat) :
    ScanSafe N role chainId (logsWithFailover chain chainId N.isRangeRefusal start stop)
      (LogsPost N chainId start stop w) w := by
  refine (quiet_probing.safe (uses_logEndpoints chainId) hw).bind_ok (fun _ _ hw1 => ⟨hw1.2, hw1.1⟩)
    fun endpoints w₁ hw1 => ?_
  refine safe_guard ⟨hw1.2, hw1.1⟩ fun _ => ?_
  refine (safe_firstLogs hw1.2 start stop _ endpoints).mono fun r w' hpost => ?_
  cases r with
  | ok => exact ⟨hpost.1, hw1.1.trans hpost.2.1, hpost.2.2⟩
  | error => exact ⟨hpost.1, hw1.1.trans hpost.2⟩

def RowPost (N : NodeConfig) (chainId : Nat) (transferId : String) (w : World Sources) :
    Except String Unit → World Sources → Prop
  | .ok _, w' => ScanInv N w' ∧ Frame N chainId w w' ∧ HasRow w' transferId
  | .error _, w' => ScanInv N w' ∧ Frame N chainId w w'

include hw in
lemma safe_putTransfer (t : StoredTransfer) :
    ScanSafe N role chainId (ask (.record chainId t)) (RowPost N chainId t.transferId w) w := by
  refine safe_sync relies_scan rfl hw fun now reply _ => ?_
  have hframe := frame_perform (N := N) (w := w) (e := .record chainId t) (by trivial) now
  have hinv := ScanInv.perform hw (e := .record chainId t) (by trivial) now
  refine ⟨hinv _, fun other _ => hframe _ other, ?_⟩
  cases hr : reply (.record chainId t) with
  | error reason => exact ⟨hinv (.error reason), hframe (.error reason) chainId⟩
  | ok =>
    have hinv' := hinv (.ok ())
    have hframe' := hframe (.ok ()) chainId
    cases hst : w.store.mutate N.host now (.putTransfer t) with
    | error reason =>
      have hperform : (w.perform N (sources N) now (.record chainId t) (.ok ())).1 =
          .error reason := by
        simp [World.perform, World.serve, World.mutate, hst]
      rw [hperform]
      exact ⟨hinv', hframe'⟩
    | ok st =>
      have hperform : (w.perform N (sources N) now (.record chainId t) (.ok ())).1 = .ok () ∧
          (w.perform N (sources N) now (.record chainId t) (.ok ())).2.store = st := by
        simp [World.perform, World.serve, World.mutate, hst]
      rw [hperform.1]
      refine ⟨hinv', hframe', ?_⟩
      rw [HasRow, hperform.2]
      exact isSome_getTransfer_putTransfer hst

include hw in
lemma safe_record (ev : SentEvent) :
    ScanSafe N role chainId (record chainId ev) (RowPost N chainId ev.transferId w) w := by
  refine safe_bind.mpr (safe_sync relies_scan rfl hw fun now reply _ => ?_)
  have hsame : ∀ other, other ≠ chainId → Frame N other w w := fun other _ => Frame.refl other w
  cases hr : reply (.getTransfer ev.transferId) with
  | error => exact ⟨hw, hsame, hw, Frame.refl chainId w⟩
  | ok =>
    refine ⟨hw, hsame, safe_bind.mpr (safe_sync relies_scan rfl hw fun now reply _ => ?_)⟩
    refine ⟨hw, hsame, ?_⟩
    cases hrow : w.store.getTransfer ev.transferId with
    | none => exact safe_putTransfer hw (newRow ev now)
    | some =>
      have hhas : HasRow w ev.transferId := by simp [HasRow, hrow]
      have hdone : RowPost N chainId ev.transferId w (.ok ()) w := ⟨hw, Frame.refl chainId w, hhas⟩
      refine safe_guard hdone fun _ => ?_
      refine safe_ite.mpr ⟨fun _ => ?_, fun _ => hdone⟩
      refine (safe_putTransfer hw _).mono fun r w' hr => ?_
      cases r with
      | ok => exact ⟨hr.1, hr.2.1, hr.2.1.rows _ hhas⟩
      | error => exact hr

include hw in
lemma safe_records (events : List SentEvent) :
    ScanSafe N role chainId (Task.each events (record chainId))
      (fun r w' => ScanInv N w' ∧ Frame N chainId w w' ∧
        (Returns r → ∀ ev ∈ events, HasRow w' ev.transferId)) w := by
  refine safe_each (P := fun rest w' => ScanInv N w' ∧ Frame N chainId w w' ∧
    ∀ ev ∈ events, ev ∈ rest ∨ HasRow w' ev.transferId)
    ⟨hw, Frame.refl chainId w, fun ev hev => .inl hev⟩ ?_ ?_
  · intro ev rest w₁ ⟨hw1, hframe, hrows⟩
    refine (safe_record hw1 ev).mono fun r w2 hr => ?_
    cases r with
    | error =>
      exact ⟨hr.1, hframe.trans hr.2, fun hreturns => absurd hreturns not_returns_error⟩
    | ok =>
      refine ⟨hr.1, hframe.trans hr.2.1, fun ev' hev' => ?_⟩
      rcases hrows ev' hev' with hmem | hrow
      · rcases mem_cons.mp hmem with rfl | hrest
        · exact .inr hr.2.2
        · exact .inl hrest
      · exact .inr (hr.2.1.rows _ hrow)
  · intro w₁ ⟨hw1, hframe, hrows⟩
    exact ⟨hw1, hframe, fun _ ev hev => (hrows ev hev).resolve_left not_mem_nil⟩

/-- **One chunk**: its logs are read and recorded, and the cursor moves. -/
theorem safe_scanChunk {next stop saved target : Nat} {rest : List (Nat × Nat)}
    (h : Scanning N chainId settled next saved w)
    (hrest : ∀ {saved w}, Scanning N chainId settled (stop + 1) saved w → ScanSafe N role chainId
        (scanChunks N chain chainId settled rest saved) (Ends (scanDiscipline N) (Scanning N chainId settled target)) w) :
    ScanSafe N role chainId (scanChunks N chain chainId settled ((next, stop) :: rest) saved)
      (Ends (scanDiscipline N) (Scanning N chainId settled target)) w := by
  refine (safe_logsWithFailover h.inv next stop).bind_ok (fun _ _ hlogs => hlogs.1)
    fun logs w₁ hlogs => ?_
  obtain ⟨hw1, hframe1, hcomplete⟩ := hlogs
  refine safe_bind.mpr (safe_lift.mpr ?_)
  cases hdecode : decodeSent N.host.ethers logs with
  | error => exact hw1
  | ok events =>
    refine (safe_records hw1 events).bind fun r w2 hrecords => ?_
    obtain ⟨hw2, hframe2, hrows⟩ := hrecords
    cases r with
    | error => exact hw2
    | ok =>
      -- a settled block of the chunk still has the logs that were read
      have hscanning : Scanning N chainId settled (stop + 1) saved w2 := by
        have hbefore := (h.frame hframe1 hw1)
        refine (hbefore.frame hframe2 hw2).chunk fun height hlo hhi hle log hlog => ?_
        rw [hframe2.logs height (hbefore.settles height hle)] at hlog
        obtain ⟨ev, hev, hlogev⟩ :=
          (decodeSent_ok hdecode).1 log (hcomplete height hlo hhi log hlog)
        rw [← (Ethers.decodes_of_decodeSentLog hlogev).transferId]
        exact hrows returns_ok ev hev
      refine safe_ite.mpr ⟨fun hlt => ?_, fun _ => hrest hscanning⟩
      have hmay : MayMove N chainId (min (stop : Int) settled).toNat w2 :=
        hscanning.mayMove (by omega) (by omega) (by omega)
      refine (safe_setCursor hw2 hmay).bind fun r w3 hmoved => ?_
      cases r with
      | error => exact hmoved
      | ok => exact hrest (hscanning.moved hmoved)

lemma safe_scanChunks {range : Nat} (hrange : 0 < range) (fuel : Nat)
    (hfuel : stop + 1 ≤ next + fuel)
    (h : Scanning N chainId settled (min next (stop + 1)) saved w) :
    ScanSafe N role chainId (scanChunks N chain chainId settled (chunks range fuel next stop) saved)
      (Ends (scanDiscipline N) (Scanning N chainId settled (stop + 1))) w := by
  induction fuel generalizing next saved w with
  | zero =>
    rw [min_eq_right (by omega)] at h
    exact h
  | succ fuel ih =>
    unfold chunks
    by_cases hle : next ≤ stop
    · rw [if_pos hle]
      rw [min_eq_left (by omega)] at h
      refine safe_scanChunk h fun {saved w} hscanning => ih (by omega) ?_
      have hnext : min (next + range) (stop + 1) = min (next + range - 1) stop + 1 := by omega
      rw [hnext]
      exact hscanning
    · rw [if_neg hle]
      rw [min_eq_right (by omega)] at h
      exact h

/-! ### A poll -/

lemma quiet_confirming :
    Quiet N (sources N) (scanDiscipline N) (.watcher chainId) (confirming chainId) :=
  quiet_neutral.within

/-- The second read of the head, and the height that is settled by it. -/
def SettledRead (N : NodeConfig) (chain : ChainConfig) (chainId : Nat) (w : World Sources)
    (settled : Int) (w' : World Sources) : Prop :=
  ∃ head w₁, HeadRead N chainId w head w₁ ∧ Frame N chainId w₁ w' ∧ ScanInv N w' ∧
    settled ≤ (head : Int) - chain.confirmations

include hw in
lemma safe_settledHeight : ScanSafe N role chainId
      (settledHeight chain chainId) (Ends (scanDiscipline N) (SettledRead N chain chainId w)) w := by
  refine (safe_getBlockNumber hw).bind_ok (fun _ _ hr => hr) fun head w₁ hr => ?_
  refine (quiet_probing.safe (uses_finalityBlock chain chainId) hr.inv).bind_ok
    (fun _ _ hw2 => hw2.2) fun tagged w2 hw2 => ?_
  refine ⟨head, w₁, hr, hw2.1, hw2.2, ?_⟩
  cases tagged with
  | none => exact Int.le_refl _
  | some => exact Int.min_le_right _ _

lemma scanning_of_reads {second : Nat} {w₁ w2 w3 : World Sources}
    (hconfirmations : confirmationsOf N chainId = chain.confirmations)
    (hstarted : Started N chainId cursor w) (hhead : HeadRead N chainId w head w₁)
    (hsecond : HeadRead N chainId w₁ second w2) (hframe : Frame N chainId w2 w3)
    (hinv : ScanInv N w3) (hsettled : settled ≤ (second : Int) - chain.confirmations) :
    Scanning N chainId settled (cursor + 1) cursor w3 ∧ settled ≤ max (head : Int) cursor := by
  have hreads : w₁.ext.reads chainId = { cursor, heads := [head] } := by
    rw [hhead.frame.reads, hstarted.reads]
    exact update_self _ _ _
  have hcursor : w3.store.getCursor chainId = some cursor := by
    rw [hframe.cursor, hsecond.frame.cursor]
    exact hhead.frame.cursor.trans hstarted.stored
  constructor
  · refine ⟨hinv, hcursor, fun height hle => ?_, fun start hstart height hlo hhi _ => ?_⟩
    · have := hsecond.highest
      have := hframe.highest
      unfold Settles
      omega
    · obtain ⟨start', hstart', -, hrows⟩ := hinv.cursor hcursor
      cases hstart.symm.trans hstart'
      exact (hrows height hlo (by omega)).2
  · have := hsecond.steady head (by rw [hreads])
    rw [hreads] at this
    dsimp only at this
    omega

lemma safe_scan (hscanning : Scanning N chainId settled (cursor + 1) cursor w) :
    ScanSafe N role chainId (scanChunks N chain chainId settled (scanned chain cursor head) cursor)
      (Ends (scanDiscipline N) (Scanning N chainId settled (max head cursor + 1))) w := by
  by_cases hbehind : cursor < head
  · rw [max_eq_left (by omega)]
    refine safe_scanChunks chain.range_pos (head - cursor) (by omega) ?_
    rw [min_eq_left (by omega)]
    exact hscanning
  · have hnone : scanned chain cursor head = [] := by
      rw [scanned, Nat.sub_eq_zero_of_le (by omega)]
      rfl
    rw [hnone, max_eq_right (by omega)]
    exact hscanning

/-- The scan went at least as far as the height that is settled. -/
def Scanned (N : NodeConfig) (chainId : Nat) (settled : Int) (saved : Nat) (w : World Sources) :
    Prop :=
  ∃ next, Scanning N chainId settled next saved w ∧ settled < next

lemma safe_poll_scan (hconfirmations : confirmationsOf N chainId = chain.confirmations)
    (hw : ScanInv N w) :
    ScanSafe N role chainId (poll N chain chainId) (fun _ => ScanInv N) w := by
  refine safe_poll quiet_probing (B := Started N chainId)
    (H := fun cursor head w' => ∃ w, Started N chainId cursor w ∧ HeadRead N chainId w head w')
    (S := fun cursor head settled w' =>
      Scanning N chainId settled (cursor + 1) cursor w' ∧ settled ≤ max (head : Int) cursor)
    (G := Scanned N chainId) safe_currentCursor ?_ ?_ ?_ ?_ ?_ ?_ hw
  · intro cursor w hstarted
    refine (safe_getBlockNumber hstarted.inv).mono fun r w' hr => ?_
    cases r with
    | ok => exact ⟨w, hstarted, hr⟩
    | error => exact hr
  · intro cursor head w₁ ⟨w, hstarted, hhead⟩
    refine (safe_settledHeight hhead.inv).mono fun r w' hr => ?_
    cases r with
    | error => exact hr
    | ok =>
      obtain ⟨second, w2, hsecond, hframe, hinv, hle⟩ := hr
      exact scanning_of_reads hconfirmations hstarted hhead hsecond hframe hinv hle
  · intro cursor head settled w ⟨hscanning, hmax⟩
    refine (safe_scan hscanning).mono fun r w' hr => ?_
    cases r with
    | ok => exact ⟨_, hr, by omega⟩
    | error => exact hr
  · intro settled saved w ⟨next, hscanning, hnext⟩
    refine (quiet_confirming.safe (uses_confirmPending settled) hscanning.inv).mono
      fun r w' hw' => ?_
    cases r with
    | ok _ => exact ⟨next, hscanning.frame hw'.1 hw'.2, hnext⟩
    | error => exact hw'.2
  · intro settled saved w ⟨next, hscanning, hnext⟩ hlt
    have hmay : MayMove N chainId settled.toNat w :=
      hscanning.mayMove (by omega) (by omega) (by omega)
    refine (safe_setCursor hscanning.inv hmay).mono fun r w' hmoved => ?_
    cases r with
    | ok => exact hmoved.inv
    | error => exact hmoved
  · intro settled saved w ⟨next, hscanning, _⟩
    exact hscanning.inv

/-! ### Runs -/

lemma sound_scan (hrole : ∀ job, (role job).Uses neutral) :
    Sound (runtime N (sources N) role) (scanDiscipline N) where
  toRelies := relies_scan
  guar {i j w w'} hne hguar := by
    cases j with
    | role => trivial
    | watcher chainId =>
      cases i with
      | role => exact hguar chainId
      | watcher => exact hguar chainId fun heq => hne (by rw [heq])
  drift {w o w'} hw hdrift := by
    cases o with
    | answer => cases hdrift
    | move =>
      obtain ⟨x, hx, rfl⟩ := Option.map_eq_some_iff.mp hdrift
      obtain ⟨hinv, hframe⟩ := reorganise_inv hw hx
      refine ⟨hinv, fun i => ?_⟩
      cases i with
      | role => trivial
      | watcher chainId => exact hframe chainId
  reboot hw := ⟨hw.head, hw.cursor⟩
  task i job w hw := by
    refine safe_taskOf (fun job => ?_) fun chainId chain hchain => ?_
    · refine (Safe.of_uses relies_scan ?_ (hrole job) hw).mono fun _ _ _ => trivial
      intro e w o r w' he hinv _ hact
      obtain ⟨now, reply, rfl, hperform⟩ := act_eq hact
      have hframe := frame_perform (N := N) (w := w) he now (reply e)
      have hinv' := ScanInv.perform hinv he now (reply e)
      rw [hperform] at hframe hinv'
      exact ⟨hinv', hframe, trivial⟩
    · have hconfirmations : confirmationsOf N chainId = chain.confirmations := by
        simp [confirmationsOf, hchain]
      exact (safe_poll_scan hconfirmations hw).mono fun _ _ _ => trivial

lemma scanInv_of_fresh (h : FreshScan w) : ScanInv N w := by
  refine ⟨h.2.2, fun {chainId cursor} hcursor => ?_⟩
  rcases h.1 with hstore | hstore <;> rw [hstore] at hcursor <;> cases hcursor

lemma neutral_validatorRole {V : ValidatorConfig} (job : Job) :
    (validatorRole V job).Uses neutral :=
  (uses_validatorRole job).within

/-- **Nothing settled is skipped.** If restarts lose no write, and in every poll the second head
is at most `confirmations` above the first one or the cursor, every log at or below the cursor
and above the starting block has a row. -/
theorem settled_transfers_stored (hrole : ∀ job, (role job).Uses neutral) {start : World Sources}
    (hstart : FreshScan start) {c : Config Thread Answer (World Sources × Option Store)}
    (hc : (restarting N (sources N) role).Reach (Losing Durable (Steady N)) (start, none) c)
    {chainId cursor : Nat} (hcursor : c.world.1.store.getCursor chainId = some cursor) :
    ∃ first, c.world.1.ext.start chainId = some first ∧
      ∀ height, first < height → height ≤ cursor →
        ∀ log ∈ (c.world.1.ext.source chainId).logsAt height,
          (c.world.1.store.getTransfer log.transferId).isSome := by
  have hsound : Sound (restarting N (sources N) role) ((scanDiscipline N).lossy Durable) :=
    (sound_scan hrole).lossy rfl nofun
  have hinv : ScanInv N c.world.1 := (hsound.inv ⟨scanInv_of_fresh hstart, rfl⟩ hc).1
  obtain ⟨first, hfirst, -, hrows⟩ := hinv.cursor hcursor
  exact ⟨first, hfirst, fun height hlo hhi => (hrows height hlo hhi).2⟩

def sampleConfig : NodeConfig := sampleNode [1] (sampleChain ["a", "b"] 1 2) plainEthers

def sampleValidator : ValidatorConfig :=
  { node := sampleConfig, address := "0xf", maxTransferAgeMs := 0, sharedDir := false
    recoverSigner := fun _ _ => .ok "0xf" }

def settledLog : Log := sampleLog 2 "0xb2"

/-- A new store, beside a chain of the blocks 0 to 3. -/
def sampleScan : World Sources :=
  { store := .journal {}, health := initialHealth sampleConfig
    ext := { source := fun _ => { blocks := [[], [], [settledLog], []], highest := 3 } } }

lemma fresh_sampleScan : FreshScan sampleScan := ⟨.inr rfl, fun _ => rfl, fun _ => le_refl _⟩

/-- Both endpoints answer the head 1 and, later, only the second one answers: it is at 3. -/
def headsAt (head : Except String Nat) : (e : Effect) → Except String (Answer e)
  | .blockNumber _ 0 => head
  | .blockNumber _ _ => .ok 3
  | .getLogs _ _ fromBlock toBlock => .ok (if fromBlock ≤ 2 ∧ 2 ≤ toBlock then [settledLog] else [])
  | e => calm e

/-- A poll scans the block 1, and then reads a settled height of 2. -/
def skippingPoll : List (Move Thread Job (Choice Reorg)) :=
  .start (.watcher 1) .poll :: answers (.watcher 1) 11 0 (headsAt (.ok 1)) ++
    answers (.watcher 1) 11 0 (headsAt (.error "timeout"))

/-- The cursor has passed block 2, whose transfer has no row. -/
theorem settled_transfer_skipped : ∃ c, FreshScan sampleScan ∧
      (runtime sampleConfig (sources sampleConfig) (fun _ => pure ())).Reach Serves sampleScan c ∧
      c.world.store.getCursor 1 = some 2 ∧ c.world.ext.start 1 = some 0 ∧
      ∃ log ∈ (c.world.ext.source 1).logsAt 2, c.world.store.getTransfer log.transferId = none := by
  let c := ((runtime sampleConfig (sources sampleConfig) (fun _ => pure ())).run Serves sampleScan
    skippingPoll).get (by decide +kernel)
  refine ⟨c, fresh_sampleScan, reach_of_run _ (Option.some_get _).symm, ?_⟩
  decide +kernel

/-- A poll that reads the head 3 twice. -/
def steadyPoll : List (Move Thread Job (Choice Reorg)) :=
  .start (.watcher 1) .poll :: answers (.watcher 1) 21 0 (headsAt (.ok 3))

/-- A poll that scans block 2 and moves the cursor there. -/
theorem settled_transfers_stored_scanned :
    ∃ c : Config Thread Answer (World Sources),
      c.world.store.getCursor 1 = some 2 ∧ settledLog ∈ (c.world.ext.source 1).logsAt 2 ∧
        ∃ first, c.world.ext.start 1 = some first ∧ ∀ height, first < height → height ≤ 2 →
            ∀ log ∈ (c.world.ext.source 1).logsAt height,
              (c.world.store.getTransfer log.transferId).isSome := by
  have hrun : ∃ c, (runtime sampleConfig (sources sampleConfig)
      (validatorRole sampleValidator)).Reach (Steady sampleConfig) sampleScan c ∧
        c.world.store.getCursor 1 = some 2 ∧ settledLog ∈ (c.world.ext.source 1).logsAt 2 :=
    exists_reach _ steadyPoll (by decide +kernel)
  obtain ⟨c, hc, hcursor, hlog⟩ := hrun
  refine ⟨c, hcursor, hlog, ?_⟩
  exact settled_transfers_stored neutral_validatorRole fresh_sampleScan (hc.lossy rfl) hcursor

end Node

end Ferminux.Relayer
