import Ferminux.Hub.Contract

/-!
# Hub.World

Where the hub lives: its balance of FMX, the block, and **code that is not the hub's**. That code
may call the hub, also from inside a payment the hub makes, and may force FMX on it without a
call. The block number moves on only between transactions.

- `Moment` are the worlds in which somebody else has control, from the deployment on: between
  calls, and whenever a payment hands control out, nested to any depth.
- `Later` are the moments that can follow a world.
-/

namespace Ferminux.Hub

open Lib Relation Option

/-- Everything outside the hub's storage that the hub can observe. -/
structure Env where
  number : Nat
  balance : Nat
  /-- How much of it came without a call, as the balance of a contract that destroys itself does.
  The hub does not see it. -/
  forced : Nat
  deriving Repr, DecidableEq

namespace Env

def tick (e : Env) : Env := { e with number := e.number + 1 }

def receive (e : Env) (n : Nat) : Env := { e with balance := e.balance + n }

def spend (e : Env) (n : Nat) : Env := { e with balance := e.balance - n }

def force (e : Env) (n : Nat) : Env := { e with balance := e.balance + n, forced := e.forced + n }

end Env

variable {H : Type}

abbrev State (H : Type) := World (Store H) Env

/-- One step of code that is not the hub's, on its own. -/
inductive Foreign : State H → State H → Prop
  | force (s : Store H) (e : Env) (n : Nat) : Foreign ⟨s, e⟩ ⟨s, e.force n⟩

namespace Deployment

variable (K : Deployment H)

/-! ### Payments of the hub -/

/-- The context in which the hub receives its own payment. -/
def selfContext (e : Env) (n : Nat) : Context := ⟨K.this, n, e.number, K.cachedChainId⟩

variable (act : State H → State H → Prop)

/-- The hub pays: the FMX moves first, then the receiver's code runs (`act`). A payment to the
hub itself runs `receive`. -/
def Pays (dest : Address) (n : Nat) (w w' : State H) : Prop :=
  n ≤ w.env.balance ∧ (dest ≠ K.this ∧ act ⟨w.store, w.env.spend n⟩ w' ∨
      dest = K.this ∧ ∃ s, fund (K.selfContext w.env n) w.store = .ok ((), s) ∧ w' = ⟨s, w.env⟩)

/-- How a payment is answered, when the code that runs during it acts by `act`. A failure is
undone. -/
def callee : Callee (Store H) Env Answer where
  answers
    | .call dest n, w, ok, w' => ok = true ∧ K.Pays act dest n w w' ∨ ok = false ∧ w' = w
  yields
    | .call dest n, w, w' => dest ≠ K.this ∧ n ≤ w.env.balance ∧ w' = ⟨w.store, w.env.spend n⟩

variable {act} {act' : State H → State H → Prop}

lemma callee_mono (h : ∀ w w', act w w' → act' w w') : (K.callee act).Le (K.callee act') where
  answers := by
    rintro ⟨dest, n⟩ w ok w' (⟨hok, hn, hrest⟩ | hfail)
    · refine .inl ⟨hok, hn, ?_⟩
      rcases hrest with ⟨hdest, hact⟩ | hself
      · exact .inl ⟨hdest, h _ _ hact⟩
      · exact .inr hself
    · exact .inr hfail
  yields := by
    rintro ⟨dest, n⟩ w w' hy
    exact hy

/-! ### Calls of the hub -/

/-- A call anybody but the hub itself can make. -/
structure Admissible (w : State H) (m : Context) : Prop where
  sender_ne_zero : m.sender ≠ 0
  sender : m.sender ≠ K.this
  number : m.number = w.env.number

instance (w : State H) (m : Context) : Decidable (K.Admissible w m) :=
  decidable_of_iff (m.sender ≠ 0 ∧ m.sender ≠ K.this ∧ m.number = w.env.number)
    ⟨fun ⟨h0, hs, hn⟩ => ⟨h0, hs, hn⟩, fun h => ⟨h.sender_ne_zero, h.sender, h.number⟩⟩

/-- The value arrives before the code runs. -/
def arrive (w : State H) (m : Context) : State H := ⟨w.store, w.env.receive m.value⟩

variable [DecidableEq H] [Zero H]

/-- **The hub on its chain.** -/
def host : Host (Store H) Env Answer where
  foreign := Foreign
  callee := K.callee
  callee_mono := K.callee_mono
  entry := fun w p w₀ => ∃ m f, K.Admissible w m ∧ p = K.run m f ∧ w₀ = arrive w m

/-- A successful call of the hub, with anything running in the middle of it. -/
def Calls (w : State H) (m : Context) (f : Function H) (w' : State H) : Prop :=
  K.Admissible w m ∧ (K.run m f).Exec K.host.reentrant (arrive w m) () w'

/-- The hub has just been deployed. FMX may have been at its address before. -/
def Deployed (w : State H) : Prop :=
  (∃ args, K.construct args = .ok w.store) ∧ w.env.number = K.deployBlock ∧
    w.env.balance = w.env.forced

/-- What happens between transactions and in them: the next block begins, or outsiders act and
call the hub. -/
def Between (w w' : State H) : Prop := w' = ⟨w.store, w.env.tick⟩ ∨ K.host.Outside w w'

/-- The worlds in which code other than the hub's has control, at a world or after it. -/
def Later (w w' : State H) : Prop := ∃ w₁, ReflTransGen K.Between w w₁ ∧ K.host.Moment (· = w₁) w'

/-- **The worlds in which code other than the hub's has control.** -/
def Moment (w : State H) : Prop := ∃ w₀, K.Deployed w₀ ∧ K.Later w₀ w

variable {K} {w w' : State H}

/-! ### Runs that can be computed -/

variable (K) {act : State H → State H → Prop}

/-- Accounts that take what they are paid and never call back. -/
def cooperative : (c : ExtCall) → State H → Answer c × State H
  | .call dest n, w =>
    if n ≤ w.env.balance then
      if dest ≠ K.this then (true, ⟨w.store, w.env.spend n⟩)
      else
        match fund (K.selfContext w.env n) w.store with
        | .ok ((), s) => (true, ⟨s, w.env⟩)
        | .error _ => (false, w)
    else (false, w)

omit [DecidableEq H] [Zero H] in
lemma cooperative_answers (hact : ∀ w, act w w) (c : ExtCall)
    (w : State H) : (K.callee act).answers c w (K.cooperative c w).1 (K.cooperative c w).2 := by
  obtain ⟨dest, n⟩ := c
  by_cases hn : n ≤ w.env.balance
  · by_cases hdest : dest ≠ K.this
    · rw [cooperative, if_pos hn, if_pos hdest]
      exact .inl ⟨rfl, hn, .inl ⟨hdest, hact _⟩⟩
    · rw [cooperative, if_pos hn, if_neg hdest]
      cases hf : fund (K.selfContext w.env n) w.store with
      | error => exact .inr ⟨rfl, rfl⟩
      | ok r => exact .inl ⟨rfl, hn, .inr ⟨not_not.mp hdest, r.2, hf, rfl⟩⟩
  · rw [cooperative, if_neg hn]
    exact .inr ⟨rfl, rfl⟩

/-- A step of a run that can be computed. -/
inductive Move (H : Type) where
  | wait (blocks : Nat)
  | call (sender : Address) (value : Nat) (f : Function H)

def contextOf (w : State H) (sender : Address) (value : Nat) : Context :=
  ⟨sender, value, w.env.number, K.cachedChainId⟩

def perform (w : State H) : Move H → Option (State H)
  | .wait blocks => some ⟨w.store, { w.env with number := w.env.number + blocks }⟩
  | .call sender value f =>
    let m := K.contextOf w sender value
    if K.Admissible w m then ((K.run m f).play K.cooperative (arrive w m)).map Prod.snd
    else none

variable {K} {sender : Address} {value : Nat} {f : Function H} {moves : List (Move H)}

lemma between_wait (blocks : Nat) :
    ReflTransGen K.Between w ⟨w.store, { w.env with number := w.env.number + blocks }⟩ := by
  induction blocks with
  | zero => exact .refl
  | succ _ ih => exact ih.tail (.inl rfl)

lemma exec_of_perform (h : K.perform w (.call sender value f) = some w') (hact : ∀ w, act w w) :
    K.Admissible w (K.contextOf w sender value) ∧
      (K.run (K.contextOf w sender value) f).Exec (K.callee act)
        (arrive w (K.contextOf w sender value)) () w' := by
  simp only [perform] at h
  split at h
  · rename_i hadm
    obtain ⟨⟨u, w₁⟩, hplay, rfl⟩ := map_eq_some_iff.mp h
    exact ⟨hadm, Prog.exec_of_play (K.cooperative_answers hact) hplay⟩
  · cases h

lemma calls_of_perform (h : K.perform w (.call sender value f) = some w') :
    K.Calls w (K.contextOf w sender value) f w' :=
  exec_of_perform h fun _ => ⟨0, .refl⟩

lemma between_of_perform (h : moves.foldlM K.perform w = some w') :
    ReflTransGen K.Between w w' := by
  induction moves generalizing w with
  | nil =>
    obtain rfl := some.inj h
    exact .refl
  | cons move _ ih =>
    obtain ⟨w₁, hstep, hrest⟩ := bind_eq_some_iff.mp h
    refine ReflTransGen.trans ?_ (ih hrest)
    cases move with
    | wait blocks =>
      obtain rfl := some.inj hstep
      exact between_wait blocks
    | call _ _ f =>
      obtain ⟨hadm, hexec⟩ := exec_of_perform hstep fun w => (.refl : K.host.activity 0 w w)
      exact .single (.inr ⟨1, .single (.inr ⟨_, _, ⟨_, f, hadm, rfl, rfl⟩, hexec⟩)⟩)

lemma moment_of_perform (hw : K.Deployed w)
    (h : moves.foldlM K.perform w = some w') : K.Moment w' :=
  ⟨w, hw, w', between_of_perform h, .start rfl⟩

end Deployment

/-! ### A hub to run -/

/-- A hub on a chain on which a signature names its signer. -/
def sampleHub : Deployment Digest where
  this := 100
  deployBlock := 1
  rewardSink := 12
  cachedChainId := 3961
  keccak256 := Digest.keccak256
  toAddress := fun _ => 31
  ecrecover := fun _ _ r _ => BitVec.ofNat 160 r
  blockHash := .block

def sampleSignature (signer : UInt8) : Bytes :=
  List.replicate 31 0 ++ [signer] ++ List.replicate 32 0 ++ [27]

def sampleNew : State Digest where
  store := ((sampleHub.construct ⟨11, [], 100, false⟩).toOption).get (by decide +kernel)
  env := ⟨1, 0, 0⟩

lemma sampleNew_deployed : sampleHub.Deployed sampleNew := by
  refine ⟨⟨⟨11, [], 100, false⟩, ?_⟩, rfl, rfl⟩
  rfl

def sampleSeat (owner : Address) (attester : UInt8) : Deployment.Move Digest :=
  .call owner SEAT_DEPOSIT (.openSeat (BitVec.ofNat 160 attester.toNat) (sampleSignature attester)
    (List.replicate 64 0) (sampleSignature 31))

end Ferminux.Hub
