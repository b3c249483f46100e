import Ferminux.Relayer.Validator

/-!
# Relayer.Depth

Can a minority of endpoints **fake the confirmation depth**? Every endpoint of a source chain
has a view of the chain and may be faulty for a time; at every moment fewer than
`minAgreeingEndpoints` are (`Depths.turn`), and those that are not answer from their views
(`Truthful`).

The log of a transfer is read again on every endpoint, but the settled height that gates
this comes from the first endpoint that answers. So one faulty endpoint that is asked first
makes every block of the others look settled. A watcher does guarantee that a transfer is
buried under the head its poll has read; it is buried under the head of an endpoint that is
not faulty in the runs in which that head is not above all of those (`Covered`).
-/

namespace Ferminux.Relayer

open Lib Function Option Lib.Task Lib.Runtime

variable {e : Effect} {settled : Int}

namespace Node

/-- A chain as an endpoint serves it, block by block. -/
structure View where
  blocks : List (List Log)
  faulty : Bool

def View.head (v : View) : Nat := v.blocks.length - 1

def View.logs (v : View) (fromBlock toBlock : Nat) : List Log :=
  ((v.blocks.take (toBlock + 1)).drop fromBlock).flatten

/-- The endpoints of a chain at the moment a transfer became confirmed. -/
structure ConfirmedAt where
  chainId : Nat
  /-- The row whose log was read again. -/
  row : StoredTransfer
  views : List View

/-- The endpoints change: heads move, blocks are replaced, faults come and go. -/
structure Turn where
  chainId : Nat
  views : List View

structure Depths where
  views : Nat → List View
  /-- The head that was answered last. -/
  lastHead : Nat → Nat := fun _ => 0
  confirmed : List ConfirmedAt := []

variable (N : NodeConfig) (w : World Depths)

def fewFaulty (chainId : Nat) (views : List View) : Bool :=
  (N.chains chainId).all fun chain => decide (views.countP (·.faulty) < chain.minAgreeingEndpoints)

def Depths.turn (x : Depths) (d : Turn) : Option Depths :=
  if fewFaulty N d.chainId d.views then
    some { x with views := update x.views d.chainId d.views }
  else none

def Depths.observe (x : Depths) (_store : Store) (_now : Nat) :
    (e : Effect) → Except String (Answer e) → Depths
  | .blockNumber chainId _, .ok head => { x with lastHead := update x.lastHead chainId head }
  | .confirm chainId t, .ok _ =>
    { x with confirmed := x.confirmed ++ [{ chainId, row := t, views := x.views chainId }] }
  | _, _ => x

def depths : Outside Depths Turn where
  observe := Depths.observe
  move := Depths.turn N

/-- An endpoint that is not faulty answers from its view, if it answers. -/
def truthful (e : Effect) (o : Choice Turn) : Bool :=
  match o with
  | .answer _ reply =>
    match e with
    | .blockNumber chainId endpoint =>
      ((w.ext.views chainId)[endpoint]?).any fun v =>
        v.faulty || (reply (.blockNumber chainId endpoint)).toOption.all (· == v.head)
    | .getLogs chainId endpoint fromBlock toBlock =>
      ((w.ext.views chainId)[endpoint]?).any fun v =>
        v.faulty || (reply (.getLogs chainId endpoint fromBlock toBlock)).toOption.all
            (· == v.logs fromBlock toBlock)
    | _ => true
  | _ => true

/-- A transfer is confirmed only when the head that was answered last is not above every
endpoint that is not faulty. -/
def covered (e : Effect) : Bool :=
  match e with
  | .confirm chainId _ =>
    (w.ext.views chainId).any fun v => !v.faulty && decide (w.ext.lastHead chainId ≤ v.head)
  | _ => true

def Truthful (e : Effect) (o : Choice Turn) : Prop := truthful w e o = true

instance (w : World Depths) (e : Effect) (o : Choice Turn) : Decidable (Truthful w e o) :=
  inferInstanceAs (Decidable (_ = _))

def Covered (e : Effect) (_o : Choice Turn) : Prop := covered w e = true

instance (w : World Depths) (e : Effect) (o : Choice Turn) : Decidable (Covered w e o) :=
  inferInstanceAs (Decidable (_ = _))

/-- Nothing is confirmed yet, and few endpoints are faulty. -/
def FreshDepths : Prop :=
  w.ext.confirmed = [] ∧ ∀ chainId, fewFaulty N chainId (w.ext.views chainId) = true

/-- The transfer was buried under the head of an endpoint that was not faulty. -/
def ConfirmedAt.Deep (k : ConfirmedAt) : Prop :=
  ∀ chain, N.chains k.chainId = some chain →
    ∃ v ∈ k.views, v.faulty = false ∧ k.row.srcBlockNumber + chain.confirmations ≤ v.head

/-! ### The discipline -/

/-- The effects that read no head and confirm nothing. -/
def headless : Effect → Prop
  | .blockNumber _ _ => False
  | .confirm _ _ => False
  | _ => True

instance : Task.Within probing headless := {}
instance : Task.Within rereading headless := {}
instance : Task.Within acting headless := {}
instance {chainId : Nat} : Task.Within (scanning chainId) headless := {}

def AllDeep : Prop := ∀ k ∈ w.ext.confirmed, k.Deep N

def depthDiscipline : Discipline Thread Effect (World Depths) (Choice Turn) where
  ok := Covered
  Inv := AllDeep N
  rely
    | .role, _, _ => True
    | .watcher chainId, w, w' => w'.ext.lastHead chainId = w.ext.lastHead chainId
  guar
    | .role, w, w' => w'.ext.lastHead = w.ext.lastHead
    | .watcher own, w, w' =>
      ∀ chainId, chainId ≠ own → w'.ext.lastHead chainId = w.ext.lastHead chainId

variable {N} {w w' : World Depths} {chainId : Nat} {role : Job → Prog Unit} {chain : ChainConfig}

lemma observe_headless (he : headless e) (x : Depths) (store : Store) (now : Nat)
    (r : Except String (Answer e)) : x.observe store now e r = x := by
  cases e with
  | blockNumber | confirm => exact he.elim
  | _ => cases r <;> rfl

lemma ext_perform_headless (he : headless e) (now : Nat) (reply : Except String (Answer e)) :
    (w.perform N (depths N) now e reply).2.ext = w.ext :=
  observe_headless he w.ext w.store now _

lemma relies_depth : Relies (depthDiscipline N) where
  refl i w := by
    cases i with
    | role => trivial
    | watcher => rfl
  trans {i w1 w2 w3} h h' := by
    cases i with
    | role => trivial
    | watcher => exact Eq.trans h' h

lemma quiet_headless (i : Thread) : Quiet N (depths N) (depthDiscipline N) i headless where
  toRelies := relies_depth
  effect {e w now reply} he hw _ := by
    have hext := ext_perform_headless (N := N) (w := w) he now (reply e)
    refine ⟨?_, ?_, ?_⟩
    · show AllDeep N _
      rw [AllDeep, hext]
      exact hw
    · cases i with
      | role => exact congrArg Depths.lastHead hext
      | watcher => exact fun chainId _ => congrArg (·.lastHead chainId) hext
    · cases i with
      | role => trivial
      | watcher own => exact congrArg (·.lastHead own) hext

lemma quiet_probing_depth {i : Thread} : Quiet N (depths N) (depthDiscipline N) i probing :=
  (quiet_headless i).within

/-! ### The watcher -/

abbrev DeepSafe {α : Type} (N : NodeConfig) (role : Job → Prog Unit) (chainId : Nat) (t : Prog α)
    (Q : Except String α → World Depths → Prop) (w : World Depths) : Prop :=
  (runtime N (depths N) role).Safe (depthDiscipline N) (.watcher chainId) t Q w

lemma safe_lastHead (hw : AllDeep N w) : DeepSafe N role chainId (getBlockNumber chain chainId)
      (Ends (depthDiscipline N) fun head w' => AllDeep N w' ∧ w'.ext.lastHead chainId = head) w := by
  refine safe_withFailover quiet_probing_depth hw (fun endpoint w1 hrely hw1 => ?_)
    fun _ _ _ hw' => hw'
  refine safe_ask relies_depth hw1 ?_
  intro w2 now reply hrely2 _ hw2 _
  cases hr : reply (.blockNumber chainId endpoint) with
  | error => exact ⟨hw2, fun _ _ => rfl, Eq.trans hrely2 hrely, hw2⟩
  | ok =>
    refine ⟨hw2, fun other hne => ?_, hw2, ?_⟩
    · exact update_of_ne hne _ _
    · exact update_self _ _ _

/-- A settled height is `confirmations` under the head that was answered last. -/
def SettledUnder (N : NodeConfig) (chain : ChainConfig) (chainId : Nat) (settled : Int)
    (w : World Depths) : Prop :=
  AllDeep N w ∧ settled + chain.confirmations ≤ w.ext.lastHead chainId

lemma safe_settledUnder (hw : AllDeep N w) : DeepSafe N role chainId (settledHeight chain chainId)
      (Ends (depthDiscipline N) (SettledUnder N chain chainId)) w := by
  refine (safe_lastHead hw).bind_ok (fun _ _ hr => hr) fun head w1 hr => ?_
  refine (quiet_probing_depth.safe (uses_finalityBlock chain chainId) hr.1).bind
      fun r w2 hw2 => ?_
  cases r with
  | error => exact hw2.2
  | ok tagged =>
    refine ⟨hw2.2, ?_⟩
    have hlast : w2.ext.lastHead chainId = head := Eq.trans hw2.1 hr.2
    rw [hlast]
    cases tagged with
    | none => simp
    | some number =>
      have := Int.min_le_right (number : Int) ((head : Int) - chain.confirmations)
      dsimp only
      omega

lemma quiet_scanning_depth {i : Thread} :
    Quiet N (depths N) (depthDiscipline N) i (scanning chainId) :=
  (quiet_headless i).within

lemma safe_currentCursor_depth (hw : AllDeep N w) :
    DeepSafe N role chainId (currentCursor chain chainId) (fun _ => AllDeep N) w := by
  have hget : (ask (.getCursor chainId)).Uses headless := .one trivial
  have hinit : ∀ w1, AllDeep N w1 → (runtime N (depths N) role).Safe (depthDiscipline N)
      (.watcher chainId) (initCursor chain chainId) (fun _ => AllDeep N) w1 := by
    intro w1 hw1
    refine ((quiet_headless _).safe hget hw1).bind_ok (fun _ _ hw2 => hw2.2) fun stored w2 hw2 => ?_
    cases stored with
    | some => exact hw2.2
    | none =>
      have hstart : DeepSafe N role chainId
          (startingBlock chain chainId) (fun _ => AllDeep N) w2 := by
        refine safe_guard hw2.2 fun _ => ?_
        refine (safe_lastHead hw2.2).bind fun r w3 hr => ?_
        cases r with
        | ok => exact hr.1
        | error => exact hr
      refine hstart.bind fun r w3 hw3 => ?_
      cases r with
      | error => exact hw3
      | ok start =>
        have hset : (write (.setCursor chainId start)).Uses headless := .one trivial
        refine ((quiet_headless _).safe hset hw3).bind fun r w4 hw4 => ?_
        cases r <;> exact hw4.2
  refine ((quiet_headless _).safe hget hw).bind_ok (fun _ _ hw1 => hw1.2) fun stored w1 hw1 => ?_
  cases stored with
  | some => exact hw1.2
  | none => exact hinit w1 hw1.2

lemma SettledUnder.rely (h : SettledUnder N chain chainId settled w)
    (hlast : w'.ext.lastHead chainId = w.ext.lastHead chainId) (hw' : AllDeep N w') :
    SettledUnder N chain chainId settled w' := by
  refine ⟨hw', ?_⟩
  rw [hlast]
  exact h.2

section

variable (hchain : N.chains chainId = some chain)
include hchain

section

variable (h : SettledUnder N chain chainId settled w)
include h

/-- What is confirmed is under the head that was answered last, and that head is covered. -/
lemma safe_confirm {t : StoredTransfer} (hle : (t.srcBlockNumber : Int) ≤ settled) :
    DeepSafe N role chainId
      (ask (.confirm chainId t)) (fun _ => SettledUnder N chain chainId settled) w := by
  refine safe_sync relies_depth rfl h.1 fun now reply hok => ?_
  have hdeep : ConfirmedAt.Deep N { chainId, row := t, views := w.ext.views chainId } := by
    intro chain' hchain'
    cases hchain.symm.trans hchain'
    obtain ⟨v, hv, hgood⟩ := List.any_eq_true.mp hok
    rw [Bool.and_eq_true, Bool.not_eq_true', decide_eq_true_eq] at hgood
    have := h.2
    exact ⟨v, hv, hgood.1, by dsimp only; omega⟩
  have hkeeps : ∀ r : Except String Unit,
      AllDeep N { (w.serve N now (.confirm chainId t) (reply (.confirm chainId t))).2 with
        ext := w.ext.observe w.store now (.confirm chainId t) r } := by
    intro r
    cases r with
    | error => exact h.1
    | ok =>
      intro k hk
      rcases List.mem_append.mp hk with hk | hk
      · exact h.1 k hk
      · rw [List.mem_singleton] at hk
        rw [hk]
        exact hdeep
  have hlast : ∀ r : Except String Unit,
      (w.ext.observe w.store now (.confirm chainId t) r).lastHead = w.ext.lastHead := by
    intro r
    cases r <;> rfl
  refine ⟨hkeeps _, fun other _ => congrFun (hlast _) other, hkeeps _, ?_⟩
  show settled + chain.confirmations ≤
    ((w.ext.observe w.store now (.confirm chainId t) _).lastHead chainId : Int)
  rw [hlast]
  exact h.2

lemma safe_confirmOne (t : StoredTransfer) :
    DeepSafe N role chainId (confirmOne N chain chainId settled t)
      (fun _ => SettledUnder N chain chainId settled) w := by
  refine safe_guard h fun hle => ?_
  -- the re-read performs no effect of its own that matters here
  have hquiet : ∀ {α : Type} {task : Prog α}, task.Uses headless →
      ∀ {w}, SettledUnder N chain chainId settled w → DeepSafe N role chainId task
          (fun _ => SettledUnder N chain chainId settled) w := by
    intro α task huses w hw
    exact ((quiet_headless _).safe huses hw.1).mono fun _ w' hw' => hw.rely hw'.1 hw'.2
  have hread : (confirmSentAcrossEndpoints chain chainId N.host.ethers N.requireRpcQuorum
      t.transferId t.srcBlockNumber t.srcBlockHash).Uses headless :=
    uses_confirmSent.within
  refine (hquiet hread h).bind_ok (fun _ _ hw1 => hw1) fun confirmation w1 hw1 => ?_
  cases confirmation with
  | ok => exact safe_confirm hchain hw1 (by omega)
  | vanished => exact hquiet (.one (by trivial)) hw1
  | quorum_failed | unavailable => exact hw1

lemma safe_confirmPending : DeepSafe N role chainId (confirmPending N chain chainId settled)
      (fun _ => SettledUnder N chain chainId settled) w := by
  have hlist : (ask (.listTransfers { status := some [.seen], srcChainId := some chainId
                                      limit := some 1000 })).Uses headless :=
    .one trivial
  refine ((quiet_headless _).safe hlist h.1).bind_ok (fun _ _ hw1 => h.rely hw1.1 hw1.2)
    fun pending w1 hw1 => ?_
  have hunder := h.rely hw1.1 hw1.2
  refine safe_each (P := fun _ => SettledUnder N chain chainId settled) hunder
    (fun t rest w2 hw2 => ?_) fun _ hw2 => hw2
  refine (safe_confirmOne hchain hw2 t).mono fun r w3 hw3 => ?_
  cases r <;> exact hw3

end

lemma safe_poll_depth (hw : AllDeep N w) :
    DeepSafe N role chainId (poll N chain chainId) (fun _ => AllDeep N) w := by
  refine safe_poll quiet_probing_depth (B := fun _ => AllDeep N)
    (H := fun _ _ w' => AllDeep N w') (S := fun _ _ => SettledUnder N chain chainId)
    (G := fun settled _ w' => SettledUnder N chain chainId settled w') ?_ ?_ ?_ ?_ ?_ ?_
    (fun h => h.1) hw
  · intro w hw
    refine (safe_currentCursor_depth hw).mono fun r w' hw' => ?_
    cases r <;> exact hw'
  · intro cursor w hw
    refine (safe_lastHead hw).mono fun r w' hr => ?_
    cases r with
    | ok => exact hr.1
    | error => exact hr
  · exact fun hw => safe_settledUnder hw
  · intro cursor head settled w h
    refine (quiet_scanning_depth.safe (uses_scanChunks settled _ cursor) h.1).mono
      fun r w' hw' => ?_
    cases r with
    | ok => exact h.rely hw'.1 hw'.2
    | error => exact hw'.2
  · intro settled saved w h
    refine (safe_confirmPending hchain h).mono fun r w' hw' => ?_
    cases r with
    | ok => exact hw'
    | error => exact hw'.1
  · intro settled saved w h _
    have hset : (write (.setCursor chainId settled.toNat)).Uses headless :=
      .one trivial
    exact ((quiet_headless _).safe hset h.1).mono fun _ w' hw' => hw'.2

/-! ### Runs -/

end

lemma sound_depth (hrole : ∀ job, (role job).Uses headless) :
    Sound (runtime N (depths N) role) (depthDiscipline N) where
  toRelies := relies_depth
  guar {i j w w'} hne hguar := by
    cases j with
    | role => trivial
    | watcher chainId =>
      cases i with
      | role => exact congrFun hguar chainId
      | watcher => exact hguar chainId fun heq => hne (by rw [heq])
  drift {w o w'} hw hdrift := by
    cases o with
    | answer => cases hdrift
    | move d =>
      obtain ⟨x, hx, rfl⟩ := map_eq_some_iff.mp hdrift
      have hmove : x.confirmed = w.ext.confirmed ∧ x.lastHead = w.ext.lastHead := by
        change w.ext.turn N d = some x at hx
        unfold Depths.turn at hx
        split at hx <;> cases hx
        exact ⟨rfl, rfl⟩
      refine ⟨?_, fun i => ?_⟩
      · show ∀ k ∈ x.confirmed, k.Deep N
        rw [hmove.1]
        exact hw
      · cases i with
        | role => trivial
        | watcher chainId => exact congrFun hmove.2 chainId
  reboot hw := hw
  task i job w hw :=
    safe_taskOf (fun job => ((quiet_headless .role).safe (hrole job) hw).mono fun _ _ _ => trivial)
      fun _ _ hchain => (safe_poll_depth hchain hw).mono fun _ _ _ => trivial

lemma headless_validatorRole {V : ValidatorConfig} (job : Job) :
    (validatorRole V job).Uses headless :=
  (uses_validatorRole job).within

/-- Three endpoints, of which two must agree, and three confirmations. -/
def depthConfig : NodeConfig := sampleNode [1] (sampleChain ["a", "b", "c"] 3 2) plainEthers

def depthValidator : ValidatorConfig :=
  { node := depthConfig, address := "0xf", maxTransferAgeMs := 0, sharedDir := false
    recoverSigner := fun _ _ => .ok "0xf" }

/-- A new node. The first endpoint may be faulty; the others have the log in the block 1 and
`empty` blocks on top of it. -/
def depthStart (faulty : Bool) (empty : Nat) : World Depths :=
  let blocks := [[], [sampleLog 1 "0xb1"]] ++ List.replicate empty []
  { store := .journal {}, health := initialHealth depthConfig
    ext := { views := fun _ => [{ blocks, faulty }, { blocks, faulty := false },
                                { blocks, faulty := false }] } }

lemma fresh_depthStart (faulty : Bool) (empty : Nat) :
    FreshDepths depthConfig (depthStart faulty empty) := by
  refine ⟨rfl, fun chainId => ?_⟩
  unfold fewFaulty depthConfig sampleNode
  by_cases hchain : chainId ∈ [1]
  · simp only [hchain, if_true, all_some, decide_eq_true_eq]
    cases faulty <;> simp [depthStart, sampleChain]
  · simp [hchain, all_none]

/-- Every endpoint shows the log, and the one that is asked first answers the head 4. -/
def headOfFour : (e : Effect) → Except String (Answer e)
  | .blockNumber _ _ => .ok 4
  | .getLogs _ _ fromBlock toBlock =>
    .ok (if fromBlock ≤ 1 ∧ 1 ≤ toBlock then [sampleLog 1 "0xb1"] else [])
  | e => calm e

def confirmingPoll : List (Move Thread Job (Choice Turn)) :=
  .start (.watcher 1) .poll :: answers (.watcher 1) 33 0 headOfFour

end Node

end Ferminux.Relayer
