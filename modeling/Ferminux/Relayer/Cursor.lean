import Ferminux.Relayer.Validator

/-!
# Relayer.Cursor

Does the watcher **skip a settled transfer**? The endpoints of a source chain serve prefixes
of one chain (`SourceChain`), which grows and is reorganised, but never below the blocks that
were once `confirmations` under its head.

A poll reads the head twice, once for the range it scans and once for the settled height, and
each read may be answered by another endpoint. Its last step moves the cursor to the settled
height whether or not the scan went that far. So the cursor can pass blocks that were never
scanned. In the runs in which the second head is not more than `confirmations` above both the
first one and the cursor (`steady`), every log at or below the cursor has a row.

The watcher of a chain relies on nobody else moving its cursor, on rows staying, and on
settled blocks staying (`Frame`). This holds beside a role of any kind that leaves the
cursors and the heads alone (`neutral`).
-/

namespace Ferminux.Relayer

open Lib Function Store

namespace Node

/-! ### The source chains -/

/-- A chain as the endpoints serve it: the `Sent` logs of the bridge, block by block, and the
highest block it ever had. -/
structure SourceChain where
  blocks : List (List Log)
  highest : Nat

def SourceChain.logsAt (s : SourceChain) (height : Nat) : List Log := (s.blocks[height]?).getD []

/-- The blocks from `fork` on are replaced. -/
structure Reorg where
  chainId : Nat
  fork : Nat
  blocks : List (List Log)

/-- What a poll read so far: the cursor, and the heads that were answered since. -/
structure PollReads where
  cursor : Nat := 0
  heads : List Nat := []
  deriving Repr, DecidableEq

/-- The source chains, and what was noted about the watchers. -/
structure Sources where
  source : Nat → SourceChain
  reads : Nat → PollReads := fun _ => {}
  /-- The cursor a watcher started with. -/
  start : Nat → Option Nat := fun _ => none

variable (N : NodeConfig) (w : World Sources) (x : Sources)

def confirmationsOf (chainId : Nat) : Nat := ((N.chains chainId).map (·.confirmations)).getD 0

/-- A reorganisation leaves the blocks that were `confirmations` under the highest head. -/
def Sources.reorganise (r : Reorg) : Option Sources :=
  let s := x.source r.chainId
  if r.fork ≤ s.blocks.length ∧ s.highest < r.fork + confirmationsOf N r.chainId then
    let blocks := s.blocks.take r.fork ++ r.blocks
    some { x with
           source := update x.source r.chainId
             { blocks, highest := max s.highest (blocks.length - 1) } }
  else none

def Sources.noteReads (chainId : Nat) (reads : PollReads) : Sources :=
  { x with reads := update x.reads chainId reads }

/-- A cursor is written; the first one is the starting block. -/
def Sources.noteCursor (store : Store) (chainId block : Nat) : Sources :=
  { x.noteReads chainId { cursor := block } with
    start := update x.start chainId
      (if (store.getCursor chainId).isNone then some block else x.start chainId) }

def Sources.observe (store : Store) (_now : Nat) :
    (e : Effect) → Except String (Answer e) → Sources
  | .getCursor chainId, .ok cursor => x.noteReads chainId { cursor := cursor.getD 0 }
  | .blockNumber chainId _, .ok head =>
    x.noteReads chainId
      { x.reads chainId with heads := (x.reads chainId).heads ++ [head] }
  | .write (.setCursor chainId block), .ok _ => x.noteCursor store chainId block
  | _, _ => x

def sources : Outside Sources Reorg where
  observe := Sources.observe
  move := Sources.reorganise N

/-- The endpoints serve prefixes of one chain, and a log read that is answered is complete
for the range asked. -/
def serves (e : Effect) (o : Choice Reorg) : Bool :=
  match o with
  | .answer _ reply =>
    match e with
    | .blockNumber chainId endpoint =>
      (reply (.blockNumber chainId endpoint)).toOption.all fun head =>
        decide (head < (w.ext.source chainId).blocks.length)
    | .getLogs chainId endpoint fromBlock toBlock =>
      (reply (.getLogs chainId endpoint fromBlock toBlock)).toOption.all fun logs =>
        (List.range (toBlock + 1)).all fun height =>
          decide (height < fromBlock) ||
            ((w.ext.source chainId).logsAt height).all fun log => decide (log ∈ logs)
    | _ => true
  | _ => true

/-- The second head of a poll is at most `confirmations` above the first one or the
cursor: the settled height is not above what the poll scans. -/
def steady (e : Effect) (o : Choice Reorg) : Bool :=
  match o with
  | .answer _ reply =>
    match e with
    | .blockNumber chainId endpoint =>
      (reply (.blockNumber chainId endpoint)).toOption.all fun head =>
        match (w.ext.reads chainId).heads with
        | [scanned] =>
          decide (head ≤ max scanned (w.ext.reads chainId).cursor + confirmationsOf N chainId)
        | _ => true
    | _ => true
  | _ => true

def Serves (e : Effect) (o : Choice Reorg) : Prop := serves w e o = true

instance (w : World Sources) (e : Effect) (o : Choice Reorg) : Decidable (Serves w e o) :=
  inferInstanceAs (Decidable (_ = _))

def Steady (e : Effect) (o : Choice Reorg) : Prop :=
  Serves w e o ∧ steady N w e o = true

instance (w : World Sources) (e : Effect) (o : Choice Reorg) : Decidable (Steady N w e o) :=
  inferInstanceAs (Decidable (_ ∧ _))

/-- A new store of either backend, beside chains in any state. -/
def FreshScan : Prop :=
  (w.store = .sqlite {} ∨ w.store = .journal {}) ∧ (∀ chainId, w.ext.start chainId = none) ∧
    ∀ chainId, (w.ext.source chainId).blocks.length ≤ (w.ext.source chainId).highest + 1

/-! ### The invariant -/

def HasRow (transferId : String) : Prop :=
  (w.store.getTransfer transferId).isSome

def RowsAt (chainId height : Nat) : Prop :=
  ∀ log ∈ (w.ext.source chainId).logsAt height, HasRow w log.transferId

/-- The block was once `confirmations` under the head. -/
def Settles (chainId height : Nat) : Prop :=
  height + confirmationsOf N chainId ≤ (w.ext.source chainId).highest

structure ScanInv (w : World Sources) : Prop where
  head : ∀ chainId, (w.ext.source chainId).blocks.length ≤ (w.ext.source chainId).highest + 1
  /-- What is at or below the cursor is settled and has rows. -/
  cursor : ∀ {chainId cursor}, w.store.getCursor chainId = some cursor →
    ∃ start, w.ext.start chainId = some start ∧ start ≤ cursor ∧
      ∀ height, start < height → height ≤ cursor →
        Settles N w chainId height ∧ RowsAt w chainId height

/-- What the watcher of a chain relies on. -/
structure Frame (chainId : Nat) (w w' : World Sources) : Prop where
  cursor : w'.store.getCursor chainId = w.store.getCursor chainId
  start : w'.ext.start chainId = w.ext.start chainId
  reads : w'.ext.reads chainId = w.ext.reads chainId
  rows : ∀ transferId, HasRow w transferId → HasRow w' transferId
  highest : (w.ext.source chainId).highest ≤ (w'.ext.source chainId).highest
  logs : ∀ height, Settles N w chainId height →
    (w'.ext.source chainId).logsAt height = (w.ext.source chainId).logsAt height

/-- The effects that leave the cursors, and the heads that were read, alone. -/
def neutral : Effect → Prop
  | .getCursor _ => False
  | .blockNumber _ _ => False
  | .write (.setCursor _ _) => False
  | _ => True

instance {chainId : Nat} : Task.Within (confirming chainId) neutral := {}
instance : Task.Within probing neutral := {}
instance : Task.Within acting neutral := {}

def scanDiscipline : Runtime.Discipline Thread Effect (World Sources) (Choice Reorg) where
  ok := Steady N
  Inv := ScanInv N
  rely
    | .role, _, _ => True
    | .watcher chainId, w, w' => Frame N chainId w w'
  guar
    | .role, w, w' => ∀ chainId, Frame N chainId w w'
    | .watcher own, w, w' => ∀ chainId, chainId ≠ own → Frame N chainId w w'

variable {N} {w w' w'' : World Sources} {chainId : Nat} {e : Effect} {height : Nat} {m : Mutation}

lemma Frame.refl (chainId : Nat) (w : World Sources) : Frame N chainId w w :=
  ⟨rfl, rfl, rfl, fun _ h => h, Nat.le_refl _, fun _ _ => rfl⟩

lemma Frame.settles (h : Frame N chainId w w') (hs : Settles N w chainId height) :
    Settles N w' chainId height :=
  Nat.le_trans hs h.highest

lemma Frame.trans (h : Frame N chainId w w') (h' : Frame N chainId w' w'') :
    Frame N chainId w w'' :=
  ⟨h'.cursor.trans h.cursor, h'.start.trans h.start, h'.reads.trans h.reads,
    fun id hid => h'.rows id (h.rows id hid), h.highest.trans h'.highest,
    fun height hs => (h'.logs height (h.settles hs)).trans (h.logs height hs)⟩

lemma Frame.rowsAt (h : Frame N chainId w w') (hs : Settles N w chainId height)
    (hrows : RowsAt w chainId height) : RowsAt w' chainId height := by
  intro log hlog
  rw [h.logs height hs] at hlog
  exact h.rows log.transferId (hrows log hlog)

lemma ScanInv.frame (hw : ScanInv N w) (h : ∀ chainId, Frame N chainId w w')
    (hhead : ∀ chainId, (w'.ext.source chainId).blocks.length ≤ (w'.ext.source chainId).highest + 1)
    : ScanInv N w' := by
  refine ⟨hhead, fun {chainId cursor} hcursor => ?_⟩
  rw [(h chainId).cursor] at hcursor
  obtain ⟨start, hstart, hle, hrows⟩ := hw.cursor hcursor
  refine ⟨start, (h chainId).start.trans hstart, hle, fun height hlo hhi => ?_⟩
  obtain ⟨hsettled, hat⟩ := hrows height hlo hhi
  exact ⟨(h chainId).settles hsettled, (h chainId).rowsAt hsettled hat⟩

/-! ### Neutral effects and reorganisations -/

lemma observe_neutral (he : neutral e) (x : Sources) (store : Store) (now : Nat)
    (r : Except String (Answer e)) : x.observe store now e r = x := by
  cases e with
  | getCursor | blockNumber => exact he.elim
  | write m =>
    cases m with
    | setCursor => exact he.elim
    | _ => cases r <;> rfl
  | _ => cases r <;> rfl

lemma mutation_neutral (he : neutral e) (hm : e.mutation = some m) :
    ∀ chainId block, m ≠ .setCursor chainId block := by
  rintro chainId block rfl
  cases e with
  | write =>
    cases hm
    exact he
  | _ => cases hm

lemma frame_of_mutate {now : Nat} {st : Store} (h : w.store.mutate N.host now m = .ok st)
    (hm : ∀ block, m ≠ .setCursor chainId block) (hstore : w'.store = st)
    (hext : w'.ext = w.ext) : Frame N chainId w w' := by
  refine ⟨?_, by rw [hext], by rw [hext], fun id hid => ?_, by rw [hext], fun _ _ => by rw [hext]⟩
  · rw [hstore, getCursor, getCursor]
    cases m with
    | setCursor other block =>
      have hne : chainId ≠ other := fun heq => hm block (by rw [heq])
      rw [cursors_setCursor h, Table.get_set, if_neg hne]
    | _ => rw [cursors_mutate (by simp) h]
  · rw [HasRow, hstore]
    exact isSome_getTransfer_mutate h hid

lemma frame_perform (he : neutral e) (now : Nat) (reply : Except String (Answer e)) :
    ∀ chainId, Frame N chainId w (w.perform N (sources N) now e reply).2 := by
  intro chainId
  have hext : (w.perform N (sources N) now e reply).2.ext = w.ext :=
    observe_neutral he w.ext w.store now _
  rcases store_serve (N := N) w now e reply with hstore | ⟨m, hm, hst⟩
  · refine ⟨?_, by rw [hext], by rw [hext], fun id hid => ?_, by rw [hext], fun _ _ => by rw [hext]⟩
    · rw [← hstore]
      rfl
    · unfold HasRow at hid ⊢
      rw [← hstore] at hid
      exact hid
  · exact frame_of_mutate hst (mutation_neutral he hm chainId) rfl hext

lemma ScanInv.perform (hw : ScanInv N w) (he : neutral e) (now : Nat)
    (reply : Except String (Answer e)) : ScanInv N (w.perform N (sources N) now e reply).2 := by
  refine hw.frame (frame_perform he now reply) fun chainId => ?_
  have hext : (w.perform N (sources N) now e reply).2.ext = w.ext :=
    observe_neutral he w.ext w.store now _
  rw [hext]
  exact hw.head chainId

lemma reorganise_inv (hw : ScanInv N w) {r : Reorg} {x : Sources}
    (h : w.ext.reorganise N r = some x) :
    ScanInv N { w with ext := x } ∧ ∀ chainId, Frame N chainId w { w with ext := x } := by
  unfold Sources.reorganise at h
  dsimp only at h
  split at h
  · next hfork =>
    cases h
    have hframe : ∀ chainId, Frame N chainId w { w with
          ext := { w.ext with
            source := update w.ext.source r.chainId
              { blocks := (w.ext.source r.chainId).blocks.take r.fork ++ r.blocks
                highest := max (w.ext.source r.chainId).highest
                  (((w.ext.source r.chainId).blocks.take r.fork ++ r.blocks).length - 1) } } } := by
      intro chainId
      by_cases hc : chainId = r.chainId
      · subst hc
        refine ⟨rfl, rfl, rfl, fun _ hid => hid, by simp, fun height hs => ?_⟩
        have hlt : height < r.fork := by
          unfold Settles at hs
          omega
        have hlen : height < ((w.ext.source r.chainId).blocks.take r.fork).length := by
          rw [List.length_take]
          omega
        simp [SourceChain.logsAt, List.getElem?_append_left hlen, List.getElem?_take_of_lt hlt]
      · refine ⟨rfl, rfl, rfl, fun _ hid => hid, ?_, fun _ _ => ?_⟩ <;>
          simp [update_of_ne hc]
    refine ⟨hw.frame hframe fun chainId => ?_, hframe⟩
    by_cases hc : chainId = r.chainId
    · subst hc
      simp only [update_self]
      omega
    · simp only [update_of_ne hc]
      exact hw.head chainId
  · cases h

end Node

end Ferminux.Relayer
