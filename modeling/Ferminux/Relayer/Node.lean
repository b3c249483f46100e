import Ferminux.Relayer.Watcher

/-!
# Relayer.Node

A **node in its world**: the watchers of the configured chains and the work of its role
share one store, on one event loop. Role work is queued and runs one call at a time, and so
do the polls of a watcher, which makes the role and every watcher a thread.

What is outside the node is a parameter (`Outside`): its own state, how that state changes,
and what it notes about the effects of the node. The answers to the effects that the node
does not serve itself are choices; a theorem about runs says which choices it admits.
-/

namespace Ferminux.Relayer

open Lib Lib.Runtime

namespace Node

inductive Thread where
  | role
  | watcher (chainId : Nat)
  deriving Repr, DecidableEq

inductive Job where
  | tick
  | confirmed (transferId : String)
  | poll
  deriving Repr, DecidableEq

/-- The outside of a node: a state, what it notes of an effect (from the store before it, the
clock and the answer), and its own moves. -/
structure Outside (X D : Type) where
  observe : X → Store → Nat → (e : Effect) → Except String (Answer e) → X
  move : X → D → Option X

/-- The store, what the clients know of their endpoints, and the surroundings. -/
structure World (X : Type) where
  store : Store
  health : Nat → List Health
  capRecheckedAt : Nat := 0
  ext : X

/-- What the surroundings decide. -/
inductive Choice (D : Type) where
  /-- The clock, and the answer to the effect unless the node gives it. -/
  | answer (now : Nat) (reply : (e : Effect) → Except String (Answer e))
  | move (d : D)

variable {X D : Type} (N : NodeConfig) (O : Outside X D) (w : World X)

def Effect.mutation : Effect → Option Mutation
  | .write m => some m
  | .record _ t => some (.putTransfer t)
  | .confirm _ t => some (.setTransferStatus t.transferId .confirmed none)
  | .putOwnSignature _ sig => some (.putSignature sig)
  | _ => none

def World.markEndpoint (now chainId endpoint : Nat) (m : Mark) : World X :=
  { w with
    health := Function.update w.health chainId ((w.health chainId).modify endpoint (·.mark now m)) }

/-- The store that a restart reads back. -/
def World.reopen (store : Store) : World X := { w with store }

def World.mutate (now : Nat) (m : Mutation) : Except String Unit × World X :=
  match w.store.mutate N.host now m with
  | .error reason => (.error reason, w)
  | .ok store => (.ok (), { w with store })

/-- What the node itself does for an effect. A read or a write of the store may throw. -/
def World.serve (now : Nat) :
    (e : Effect) → Except String (Answer e) → Except String (Answer e) × World X
  | .now, _ => (.ok now, w)
  | .health chainId, _ => (.ok (w.health chainId), w)
  | .mark chainId endpoint m, _ => (.ok (), w.markEndpoint now chainId endpoint m)
  | .getCursor chainId, .ok _ => (.ok (w.store.getCursor chainId), w)
  | .getTransfer transferId, .ok _ => (.ok (w.store.getTransfer transferId), w)
  | .listTransfers filter, .ok _ => (.ok (w.store.listTransfers N.host filter), w)
  | .getSignatures transferId, .ok _ => (.ok (w.store.getSignatures N.host transferId), w)
  | .getWindow key, .ok _ => (.ok (w.store.getWindow key), w)
  | .write m, .ok _ => w.mutate N now m
  | .record _ t, .ok _ => w.mutate N now (.putTransfer t)
  | .confirm _ t, .ok _ => w.mutate N now (.setTransferStatus t.transferId .confirmed none)
  | .putOwnSignature _ sig, .ok _ => w.mutate N now (.putSignature sig)
  | .capRecheckedAt, _ => (.ok w.capRecheckedAt, w)
  | .setCapRecheckedAt time, _ => (.ok (), { w with capRecheckedAt := time })
  | _, reply => (reply, w)

def World.perform (now : Nat) (e : Effect) (reply : Except String (Answer e)) :
    Except String (Answer e) × World X :=
  let served := w.serve N now e reply
  (served.1, { served.2 with ext := O.observe w.ext w.store now e served.1 })

def initialHealth (chainId : Nat) : List Health :=
  ((N.chains chainId).map (·.rpcUrls.map fun _ => ({} : Health))).getD []

/-- The tasks of the threads; what the role does is a parameter. -/
def taskOf (role : Job → Prog Unit) : Thread → Job → Prog Unit
  | .role, .poll => pure ()
  | .role, job => role job
  | .watcher chainId, .poll =>
    match N.chains chainId with
    | some chain => pollOnce N chain chainId
    | none => pure ()
  | .watcher _, _ => pure ()

/-- The node in its world. A crash leaves the outside, and a store that loses nothing. -/
def runtime (role : Job → Prog Unit) : Runtime Thread Job Answer (World X) (Choice D) where
  act w e o :=
    match o with
    | .answer now reply => some (w.perform N O now e (reply e))
    | .move _ => none
  awaits := Effect.awaits
  drift w o :=
    match o with
    | .answer _ _ => none
    | .move d => (O.move w.ext d).map fun ext => { w with ext }
  reboot w := { w with health := initialHealth N, capRecheckedAt := 0 }
  task := taskOf N role

/-- The node on a store that may lose writes: a restart reads back any store. The journal loses
what stands behind a torn line, and its windows when it is compacted. -/
def restarting (role : Job → Prog Unit) :
    Runtime Thread Job Answer (World X × Option Store) (Choice D × Option Store) :=
  (runtime N O role).lossy World.reopen

/-- Every write that was acknowledged is there after a restart. -/
abbrev Durable (lost : Option Store) : Prop := lost = none

variable {N O} {role : Job → Prog Unit} {P : Discipline Thread Effect (World X) (Choice D)}
  {e : Effect} {Q : Except String (Answer e) → World X → Prop}

lemma act_eq {w w' : World X} {o : Choice D}
    {r : Except String (Answer e)} (h : (runtime N O role).act w e o = some (r, w')) :
    ∃ now reply, o = .answer now reply ∧ w.perform N O now e (reply e) = (r, w') := by
  cases o with
  | answer now reply => exact ⟨now, reply, rfl, Option.some.inj h⟩
  | move => cases h

lemma store_serve (now : Nat) (e : Effect) (reply : Except String (Answer e)) :
    (w.serve N now e reply).2.store = w.store ∨ ∃ m, e.mutation = some m ∧
        w.store.mutate N.host now m = .ok (w.serve N now e reply).2.store := by
  have hmutate : ∀ m, (w.mutate N now m).2.store = w.store ∨
      w.store.mutate N.host now m = .ok (w.mutate N now m).2.store := by
    intro m
    unfold World.mutate
    split
    · exact .inl rfl
    · next st hst => exact .inr hst
  cases e with
  | write m =>
    cases reply with
    | error => exact .inl rfl
    | ok => exact (hmutate m).imp id fun h => ⟨m, rfl, h⟩
  | record | confirm | putOwnSignature =>
    cases reply with
    | error => exact .inl rfl
    | ok => exact (hmutate _).imp id fun h => ⟨_, rfl, h⟩
  | _ => cases reply <;> exact .inl rfl

/-- **A write**: it throws and changes nothing, or the mutation happened. -/
theorem perform_cases {m : Mutation} (hm : e.mutation = some m) (w : World X)
    (now : Nat) (reply : Except String (Answer e)) : (∃ reason, w.perform N O now e reply =
      (.error reason, { w with ext := O.observe w.ext w.store now e (.error reason) })) ∨
    ∃ st a, w.store.mutate N.host now m = .ok st ∧ w.perform N O now e reply =
      (.ok a, { w with store := st, ext := O.observe w.ext w.store now e (.ok a) }) := by
  have hmutate : (∃ reason, w.mutate N now m = (.error reason, w)) ∨
      ∃ st, w.store.mutate N.host now m = .ok st ∧
        w.mutate N now m = (.ok (), { w with store := st }) := by
    unfold World.mutate
    cases hst : w.store.mutate N.host now m with
    | error reason => exact .inl ⟨reason, rfl⟩
    | ok st => exact .inr ⟨st, rfl, rfl⟩
  cases e with
  | write m' | record chainId t | confirm chainId t | putOwnSignature t sig =>
    cases hm
    cases reply with
    | error reason => exact .inl ⟨reason, rfl⟩
    | ok =>
      simp only [World.perform, World.serve]
      rcases hmutate with ⟨reason, h⟩ | ⟨st, hst, h⟩
      · exact .inl ⟨reason, by rw [h]⟩
      · exact .inr ⟨st, (), hst, by rw [h]⟩
  | _ => cases hm

/-- **One effect**: where it is performed, and what has to hold behind it. -/
theorem safe_ask
    (hP : Relies P) {i : Thread} {w : World X}
    (hw : P.Inv w) (h : ∀ w1 now reply, P.rely i w w1 → (e.awaits = false → w1 = w) → P.Inv w1 →
      P.ok w1 e (.answer now reply) → P.Inv (w1.perform N O now e (reply e)).2 ∧
          P.guar i w1 (w1.perform N O now e (reply e)).2 ∧
            Q (w1.perform N O now e (reply e)).1 (w1.perform N O now e (reply e)).2) :
    (runtime N O role).Safe P i (ask e) Q w := by
  refine safe_call_from hP hw fun w1 o r w' hrely hsync hw1 hok hact => ?_
  obtain ⟨now, reply, rfl, hperform⟩ := act_eq hact
  have hstep := h w1 now reply hrely hsync hw1 hok
  rw [hperform] at hstep
  exact hstep

/-- An effect that does not wait is performed where it is asked. -/
lemma safe_sync (hP : Relies P) {i : Thread} {w : World X} (he : e.awaits = false) (hw : P.Inv w)
    (h : ∀ now reply, P.ok w e (.answer now reply) → P.Inv (w.perform N O now e (reply e)).2 ∧
      P.guar i w (w.perform N O now e (reply e)).2 ∧
        Q (w.perform N O now e (reply e)).1 (w.perform N O now e (reply e)).2) :
    (runtime N O role).Safe P i (ask e) Q w := by
  refine safe_ask hP hw fun w1 now reply _ hsync _ hok => ?_
  obtain rfl := hsync he
  exact h now reply hok

/-! ### Parts that every proof goes through -/

section Parts

variable {P : Discipline Thread Effect (World X) (Choice D)} {i : Thread} {w : World X}
  {role : Job → Prog Unit} {chain : ChainConfig} {chainId : Nat} {α : Type}
  {Q : Except String α → World X → Prop} {q : Effect → Prop} {fn : Nat → Prog α} {demote : Bool}

/-- A kind of effects changes nothing that a thread relies on. -/
structure Quiet (N : NodeConfig) (O : Outside X D)
    (P : Discipline Thread Effect (World X) (Choice D)) (i : Thread) (q : Effect → Prop) :
    Prop extends Relies P where
  effect : ∀ {e w now reply}, q e → P.Inv w → P.ok w e (.answer now reply) →
    P.Inv (w.perform N O now e (reply e)).2 ∧ P.guar i w (w.perform N O now e (reply e)).2 ∧
      P.rely i w (w.perform N O now e (reply e)).2

lemma Quiet.safe (hq : Quiet N O P i q) {t : Prog α} (ht : t.Uses q)
    (hw : P.Inv w) : (runtime N O role).Safe P i t (fun _ w' => P.rely i w w' ∧ P.Inv w') w := by
  refine Safe.of_uses hq.toRelies ?_ ht hw
  intro e w o r w' he hinv hok hact
  obtain ⟨now, reply, rfl, hperform⟩ := act_eq hact
  have hstep := hq.effect he hinv hok
  rw [hperform] at hstep
  exact hstep

lemma Quiet.within {q' : Effect → Prop} [h : Task.Within q' q] (hq : Quiet N O P i q) :
    Quiet N O P i q' :=
  ⟨hq.toRelies, fun he => hq.effect (h.of _ he)⟩

/-- A read that fails over: some endpoint answers, in a world that was relied on, or none
does. -/
lemma safe_firstAnswer (hq : Quiet N O P i probing)
    {failure : String} {w0 : World X} (hfn : ∀ endpoint w1, P.rely i w0 w1 → P.Inv w1 →
      (runtime N O role).Safe P i (fn endpoint) (fun r w' => match r with
        | .ok a => Q (.ok a) w'
        | .error _ => P.rely i w0 w' ∧ P.Inv w') w1)
    (hfail : ∀ reason w', P.rely i w0 w' → P.Inv w' → Q (.error reason) w') (endpoints : List Nat)
    (hrely : P.rely i w0 w) (hw : P.Inv w) :
    (runtime N O role).Safe P i (firstAnswer chainId fn demote failure endpoints) Q w := by
  induction endpoints generalizing w with
  | nil => exact hfail failure w hrely hw
  | cons endpoint _ ih =>
    refine safe_bind.mpr (safe_attempt.mpr ?_)
    refine (hfn endpoint w hrely hw).mono fun r w1 hr => ?_
    cases r with
    | ok => exact hr
    | error reason =>
      refine safe_ite.mpr ⟨fun _ => ?_, fun _ => ih hr.1 hr.2⟩
      have hmark : (ask (.mark chainId endpoint .unhealthy)).Uses probing :=
        .one trivial
      refine (hq.safe hmark hr.2).bind fun r w2 hw2 => ?_
      have hrely2 := hq.trans hr.1 hw2.1
      cases r with
      | ok => exact ih hrely2 hw2.2
      | error reason => exact hfail reason w2 hrely2 hw2.2

lemma safe_withFailover (hq : Quiet N O P i probing) {what : String} (hw : P.Inv w)
    (hfn : ∀ endpoint w1, P.rely i w w1 → P.Inv w1 →
      (runtime N O role).Safe P i (fn endpoint) (fun r w' => match r with
        | .ok a => Q (.ok a) w'
        | .error _ => P.rely i w w' ∧ P.Inv w') w1)
    (hfail : ∀ reason w', P.rely i w w' → P.Inv w' → Q (.error reason) w') :
    (runtime N O role).Safe P i (withFailover chain chainId what fn demote) Q w := by
  refine (hq.safe (uses_healthyEndpoints chainId) hw).bind_ok
    (fun reason w1 hw1 => hfail reason w1 hw1.1 hw1.2) fun endpoints w1 hw1 => ?_
  refine safe_guard (hfail _ w1 hw1.1 hw1.2) fun _ => ?_
  exact safe_firstAnswer hq hfn hfail endpoints hw1.1 hw1.2

/-- What a part leaves: something about what it returns, or the invariant if it throws. -/
def Ends (P : Discipline Thread Effect (World X) (Choice D)) (B : α → World X → Prop) :
    Except String α → World X → Prop
  | .ok a, w => B a w
  | .error _, w => P.Inv w

/-- The rule for a poll: what each part of it leaves the next one. -/
theorem safe_poll (hq : Quiet N O P i probing) {B : Nat → World X → Prop}
    {H : Nat → Nat → World X → Prop} {S : Nat → Nat → Int → World X → Prop}
    {G : Int → Nat → World X → Prop} (hcursor : ∀ {w}, P.Inv w →
      (runtime N O role).Safe P i (currentCursor chain chainId) (Ends P B) w)
    (hhead : ∀ {cursor w}, B cursor w →
      (runtime N O role).Safe P i (getBlockNumber chain chainId) (Ends P (H cursor)) w)
    (hsettled : ∀ {cursor head w}, H cursor head w →
      (runtime N O role).Safe P i (settledHeight chain chainId) (Ends P (S cursor head)) w)
    (hscan : ∀ {cursor head settled w}, S cursor head settled w → (runtime N O role).Safe P i
        (scanChunks N chain chainId settled (scanned chain cursor head) cursor)
        (Ends P (G settled)) w) (hconfirm : ∀ {settled saved w}, G settled saved w →
      (runtime N O role).Safe P i (confirmPending N chain chainId settled)
        (Ends P fun _ => G settled saved) w)
    (hmove : ∀ {settled saved w}, G settled saved w → (saved : Int) < settled →
      (runtime N O role).Safe P i (write (.setCursor chainId settled.toNat))
        (fun _ w' => P.Inv w') w)
    (hinv : ∀ {settled saved w}, G settled saved w → P.Inv w) (hw : P.Inv w) :
    (runtime N O role).Safe P i (poll N chain chainId) (fun _ w' => P.Inv w') w := by
  refine (hq.safe (uses_healthCheck chainId) hw).bind_ok (fun _ _ hw1 => hw1.2) fun _ w1 hw1 => ?_
  refine (hq.safe (uses_healthyEndpoints chainId) hw1.2).bind_ok (fun _ _ hw2 => hw2.2)
    fun healthy w2 hw2 => ?_
  refine safe_guard hw2.2 fun _ => ?_
  refine (hcursor hw2.2).bind_ok (fun _ _ hw3 => hw3) fun cursor w3 hw3 => ?_
  refine (hhead hw3).bind_ok (fun _ _ hw4 => hw4) fun head w4 hw4 => ?_
  refine (hsettled hw4).bind_ok (fun _ _ hw5 => hw5) fun settled w5 hw5 => ?_
  refine (hscan hw5).bind_ok (fun _ _ hw6 => hw6) fun saved w6 hw6 => ?_
  refine (hconfirm hw6).bind fun r w7 hw7 => ?_
  cases r with
  | error => exact hw7
  | ok => exact safe_ite.mpr ⟨hmove hw7, fun _ => hinv hw7⟩

/-- **The tasks of a node** are safe if the role's work and the polls are. -/
theorem safe_taskOf {job : Job}
    (hrole : ∀ job, (runtime N O role).Safe P .role (role job) (fun _ _ => True) w)
    (hpoll : ∀ chainId chain, N.chains chainId = some chain →
      (runtime N O role).Safe P (.watcher chainId) (poll N chain chainId) (fun _ _ => True) w) :
    (runtime N O role).Safe P i (taskOf N role i job) (fun _ _ => True) w := by
  cases i with
  | role =>
    cases job with
    | poll => trivial
    | tick => exact hrole .tick
    | confirmed transferId => exact hrole (.confirmed transferId)
  | watcher chainId =>
    cases job with
    | tick | confirmed => trivial
    | poll =>
      dsimp only [taskOf]
      split
      · next chain hchain =>
        refine safe_tryCatch.mpr ((hpoll chainId chain hchain).mono fun r w' _ => ?_)
        cases r <;> trivial
      · trivial

end Parts

/-! ### Sample answers -/

/-- Endpoints that serve the chain they should, with nothing on it. -/
def calm : (e : Effect) → Except String (Answer e)
  | .chainIdOf chainId _ => .ok chainId
  | .now => .ok 0
  | .health _ => .ok []
  | .mark _ _ _ => .ok ()
  | .blockNumber _ _ => .ok 0
  | .taggedBlock _ _ _ => .ok none
  | .getLogs _ _ _ _ => .ok []
  | .tokenConfig _ _ _ =>
    .ok { kind := 1, paused := false, remoteChainId := 0, remoteToken := "", maxPerTransfer := 0 }
  | .processed _ _ => .ok false
  | .paused _ => .ok false
  | .hashTransfer _ _ => .ok ""
  | .domainSeparator _ => .ok ""
  | .assess _ _ _ => .ok { ok := true, code := none, reason := none }
  | .signTypedData _ _ _ => .ok ""
  | .getCursor _ => .ok none
  | .getTransfer _ => .ok none
  | .listTransfers _ => .ok []
  | .getSignatures _ => .ok []
  | .getWindow _ => .ok none
  | .write _ => .ok ()
  | .record _ _ => .ok ()
  | .confirm _ _ => .ok ()
  | .putOwnSignature _ _ => .ok ()
  | .publish _ _ => .ok ()
  | .capRecheckedAt => .ok 0
  | .setCapRecheckedAt _ => .ok ()

def sampleChain (rpcUrls : List String) (confirmations minAgreeingEndpoints : Nat) : ChainConfig :=
  { name := "sample", rpcUrls, bridgeAddress := "0xb", confirmations, finalityTag := none
    minAgreeingEndpoints, maxBlockRange := 10, startBlock := 1, domainSeparator := none
    enabled := true, needsMonitor := false
    defaultLimit := { maxPerTransfer := 100, dailyCap := 100 }, tokenLimits := []
    range_pos := by decide }

/-- A node that watches chains which are configured alike. -/
def sampleNode (chainIds : List Nat) (chain : ChainConfig) (ethers : Ethers) : NodeConfig :=
  { host := plainHost ethers
    chains := fun chainId => if chainId ∈ chainIds then some chain else none
    requireRpcQuorum := false
    isRangeRefusal := fun _ => false }

def sampleLog (blockNumber : Nat) (blockHash : String) : Log :=
  { transferId := "0x01", dstChainId := 10, localToken := "0xa", srcChainId := 1, nonce := 0
    remoteToken := "0xb", sender := "0xc", recipient := "0xd", amount := 7, fee := 0
    blockNumber, blockHash, transactionHash := "0xe", index := 0 }

/-- A thread performs `n` effects at the time `now`. -/
def answers (i : Thread) (n now : Nat) (reply : (e : Effect) → Except String (Answer e)) :
    List (Move Thread Job (Choice D)) :=
  List.replicate n (.go i (.answer now reply))

end Node

end Ferminux.Relayer
