import Ferminux.Bridge.Contract
import Ferminux.Lib.Ledger

/-!
# Bridge.World

Where the bridge lives: the ledgers of the tokens, the clock, and **code that is not the
bridge's**. That code may do anything within the rules of the machine: transfer what it
owns, change the state of a token that is not honest, let time pass, and call the bridge,
also from inside a call the bridge makes.

An **honest** token (and the native coin) keeps a ledger: `transfer`, `transferFrom`,
`mint` and `burn` move exactly the requested amount or fail, nothing else changes a
balance, and only the bridge can spend what the bridge owns. Its code may still hand
control to anybody before and after the amount moves, as a token with hooks does. Nothing
is assumed of the other tokens.
-/

namespace Ferminux.Bridge

open Lib Option

/-- Everything outside the bridge's storage that the bridge can observe. -/
structure Env where
  /-- The ledger of every honest token; the native coin is token `0`. -/
  ledger : Address → Ledger Address
  /-- How much of a token has reached the bridge in plain transfers, which are nobody's
  deposit. The bridge does not see it. -/
  donated : Address → Nat
  now : Nat

namespace Env

variable (e : Env)

def balance (token who : Address) : Nat := (e.ledger token).balance who

def supply (token : Address) : Nat := (e.ledger token).supply

def withLedger (token : Address) (l : Ledger Address) : Env :=
  { e with ledger := Function.update e.ledger token l }

def move (token src dst : Address) (n : Nat) : Env :=
  e.withLedger token ((e.ledger token).move src dst n)

def mint (token dst : Address) (n : Nat) : Env :=
  e.withLedger token ((e.ledger token).mint dst n)

def burn (token src : Address) (n : Nat) : Env :=
  e.withLedger token ((e.ledger token).burn src n)

/-- What was sent to the bridge without a call of it. -/
def donate (token : Address) (n : Nat) : Env :=
  { e with donated := Function.update e.donated token (e.donated token + n) }

end Env

/-- A deployment on a chain, and the tokens that are honest there. -/
structure Chain (H : Type) extends Deployment H where
  honest : Address → Prop
  native_honest : honest 0

variable {H : Type}

/-- The bridge and the tokens. -/
abbrev State (H : Type) := World (Store H) Env

/-! ### What other code does on its own -/

namespace Chain

variable (K : Chain H)

/-- What the bridge has of a token. -/
def held (w : State H) (token : Address) : Nat := w.env.balance token K.this

/-- Nothing an honest token keeps has changed, nor what the bridge has of the native
coin. -/
structure Unmoved (e e' : Env) : Prop where
  ledger : ∀ token, K.honest token → token ≠ 0 → e'.ledger token = e.ledger token
  native : e'.balance 0 K.this = e.balance 0 K.this
  donated : e'.donated = e.donated
  now : e.now ≤ e'.now

/-- One step of code that is not the bridge's. -/
inductive Foreign : State H → State H → Prop
  /-- An owner other than the bridge, or somebody it authorised, transfers a token. -/
  | transfer (s : Store H) (e : Env) (token src dst : Address) (n : Nat) (hsrc : src ≠ K.this)
      (hn : n ≤ e.balance token src) (hdst : dst ≠ K.this) :
      Foreign ⟨s, e⟩ ⟨s, e.move token src dst n⟩
  /-- The same to the bridge: a plain transfer in. -/
  | transferIn (s : Store H) (e : Env) (token src : Address) (n : Nat) (hsrc : src ≠ K.this)
      (hn : n ≤ e.balance token src) :
      Foreign ⟨s, e⟩ ⟨s, (e.move token src K.this n).donate token n⟩
  /-- The native coin reaches the bridge without a call: a block reward, or the balance of
  a contract that destroys itself. -/
  | forced (s : Store H) (e : Env) (n : Nat) :
      Foreign ⟨s, e⟩ ⟨s, (e.mint 0 K.this n).donate 0 n⟩
  /-- Anything else: other tokens, gas, time. -/
  | other (s : Store H) (e e' : Env) (h : K.Unmoved e e') : Foreign ⟨s, e⟩ ⟨s, e'⟩

/-! ### What a call of the bridge does -/

/-- `n` units move; the bridge's storage does not change. -/
def Moves (token src dst : Address) (n : Nat) (w w' : State H) : Prop :=
  n ≤ w.env.balance token src ∧ w' = ⟨w.store, w.env.move token src dst n⟩

def Mints (token dst : Address) (n : Nat) (w w' : State H) : Prop :=
  w' = ⟨w.store, w.env.mint token dst n⟩

/-- A ledger that keeps its books has the amount in the balance and in the supply. -/
def Burns (token src : Address) (n : Nat) (w w' : State H) : Prop :=
  n ≤ w.env.balance token src ∧ n ≤ w.env.supply token ∧ w' = ⟨w.store, w.env.burn token src n⟩

end Chain

namespace ExtCall

/-- The token that a call hands control to. -/
def token : ExtCall → Address
  | .transfer token _ _ | .transferFrom token _ _ _ | .mint token _ _ | .burn token _ _
  | .proposeBridge token _ | .cancelBridgeRotation token | .acceptBridge token => token
  | _ => 0

end ExtCall

namespace Chain

variable (K : Chain H)

/-- What an honest token does to its ledger when the bridge calls it. -/
def effect : ExtCall → State H → State H → Prop
  | .transfer token dst n => Moves token K.this dst n
  | .transferFrom token src dst n => Moves token src dst n
  | .mint token dst n => Mints token dst n
  | .burn token src n => Burns token src n
  | _ => Eq

variable (act : State H → State H → Prop) (c : ExtCall)

/-- The call goes through: an honest token does what it is asked, with other code (`act`)
running before and after; any other token runs code. -/
def Performs (w w' : State H) : Prop :=
  (K.honest c.token ∧ ∃ w₁ w₂, act w w₁ ∧ K.effect c w₁ w₂ ∧ act w₂ w') ∨
    (¬ K.honest c.token ∧ act w w')

/-- A call that returns nothing: a failure is undone. -/
def Finishes (w : State H) : Except String Unit → State H → Prop
  | .error _, w' => w' = w
  | .ok (), w' => K.Performs act c w w'

/-- A call that may also return `false`, or data that does not decode. -/
def Returns (w : State H) : Except String Returned → State H → Prop
  | .error _, w' => w' = w
  | .ok r, w' =>
    (succeeded (.ok r) = .ok true → K.Performs act c w w') ∧
      (succeeded (.ok r) ≠ .ok true → act w w')

/-- What a call of a token may do and answer. -/
def answers : (c : ExtCall) → State H → Answer H c → State H → Prop
  -- reads change nothing; an honest token answers them truthfully
  | .hasCode _, w, _, w' => w' = w
  | .codehash _, w, _, w' => w' = w
  | .selfBalance, w, n, w' => w' = w ∧ n = w.env.balance 0 K.this
  | .balanceOf token who, w, ans, w' =>
    w' = w ∧ (K.honest token → ∀ n, ans = Except.ok n → n = w.env.balance token who)
  | .totalSupply token, w, ans, w' =>
    w' = w ∧ (K.honest token → ∀ n, ans = Except.ok n → n = w.env.supply token)
  | .bridge _, w, _, w' => w' = w
  | .interfaceId _, w, _, w' => w' = w
  | .transfer token dst n, w, ans, w' => K.Returns act (.transfer token dst n) w ans w'
  | .transferFrom token src dst n, w, ans, w' =>
    K.Returns act (.transferFrom token src dst n) w ans w'
  -- the native coin moves first, then the receiver's code runs
  | .sendValue dst n, w, ans, w' =>
    (∃ reason, ans = Except.error reason ∧ w' = w) ∨
      (ans = Except.ok () ∧ ∃ w₁, Moves 0 K.this dst n w w₁ ∧ act w₁ w')
  | .mint token dst n, w, ans, w' => K.Finishes act (.mint token dst n) w ans w'
  | .burn token src n, w, ans, w' => K.Finishes act (.burn token src n) w ans w'
  | .proposeBridge token newBridge, w, ans, w' =>
    K.Finishes act (.proposeBridge token newBridge) w ans w'
  | .cancelBridgeRotation token, w, ans, w' => K.Finishes act (.cancelBridgeRotation token) w ans w'
  | .acceptBridge token, w, ans, w' => K.Finishes act (.acceptBridge token) w ans w'

/-- The worlds at which a call hands control to the token: at once, and after an honest
token has moved the amount. -/
def HandsOver (w w' : State H) : Prop :=
  w' = w ∨ (K.honest c.token ∧ ∃ w₁, act w w₁ ∧ K.effect c w₁ w')

/-- What has happened when the callee gets control. -/
def yields : ExtCall → State H → State H → Prop
  | .hasCode _, _, _ | .codehash _, _, _ | .selfBalance, _, _ | .balanceOf _ _, _, _
  | .totalSupply _, _, _ | .bridge _, _, _ | .interfaceId _, _, _ => False
  | .sendValue dst n, w, w' => Moves 0 K.this dst n w w'
  | c, w, w' => K.HandsOver act c w w'

/-- How other contracts answer, when the code that runs during a call acts by `act`. -/
def callee : Callee (Store H) Env (Answer H) where
  answers := K.answers act
  yields := K.yields act

variable {act} {act' : State H → State H → Prop} {w w' : State H} {c : ExtCall}
  (h : ∀ w w', act w w' → act' w w')

include h in
lemma Performs.mono {K : Chain H} (hp : K.Performs act c w w') : K.Performs act' c w w' := by
  rcases hp with ⟨hh, w₁, w₂, h1, heff, h2⟩ | ⟨hh, h1⟩
  · exact .inl ⟨hh, w₁, w₂, h _ _ h1, heff, h _ _ h2⟩
  · exact .inr ⟨hh, h _ _ h1⟩

include h in
lemma Finishes.mono {K : Chain H} {ans : Except String Unit} (hf : K.Finishes act c w ans w') :
    K.Finishes act' c w ans w' := by
  cases ans with
  | error => exact hf
  | ok => exact Performs.mono h hf

include h in
lemma Returns.mono {K : Chain H} {ans : Except String Returned} (hr : K.Returns act c w ans w') :
    K.Returns act' c w ans w' := by
  cases ans with
  | error => exact hr
  | ok => exact ⟨fun hs => (hr.1 hs).mono h, fun hs => h _ _ (hr.2 hs)⟩

include h in
lemma callee_mono : (K.callee act).Le (K.callee act') where
  answers := by
    intro c w ans w' hans
    cases c with
    | transfer | transferFrom => exact Returns.mono h hans
    | mint | burn | proposeBridge | cancelBridgeRotation | acceptBridge =>
      exact Finishes.mono h hans
    | sendValue =>
      rcases hans with herr | ⟨hok, w₁, hmove, hact⟩
      · exact .inl herr
      · exact .inr ⟨hok, w₁, hmove, h _ _ hact⟩
    | _ => exact hans
  yields := by
    intro c w w' hy
    cases c with
    | transfer | transferFrom | mint | burn | proposeBridge | cancelBridgeRotation
    | acceptBridge =>
      rcases hy with rfl | ⟨hh, w₁, hact, heff⟩
      · exact .inl rfl
      · exact .inr ⟨hh, w₁, h _ _ hact, heff⟩
    | _ => exact hy

/-! ### Calls of the bridge -/

/-- A call anybody but the bridge itself can make. -/
structure Admissible (w : State H) (m : Context) : Prop where
  sender : m.sender ≠ K.this
  value : m.value ≤ w.env.balance 0 m.sender
  timestamp : m.timestamp = w.env.now
  chainid : m.chainid = K.cachedChainId

/-- The value, if any, arrives before the code runs. With no function called it is a plain
transfer. -/
def arrive (w : State H) (m : Context) (f : Function H) : State H :=
  if m.value = 0 then w
  else
    let e := w.env.move 0 m.sender K.this m.value
    match f with
    | .receive => ⟨w.store, e.donate 0 m.value⟩
    | _ => ⟨w.store, e⟩

variable [DecidableEq H] [Zero H] {pin : H}

/-- The bridge among the others. -/
def host : Host (Store H) Env (Answer H) where
  foreign := K.Foreign
  callee := K.callee
  callee_mono := K.callee_mono
  entry := fun w p w₀ => ∃ m f, K.Admissible w m ∧ p = K.run m f ∧ w₀ = K.arrive w m f

/-- A successful call of the bridge, with anything running in the middle of it. -/
def Calls (w : State H) (m : Context) (f : Function H) (w' : State H) : Prop :=
  K.Admissible w m ∧ (K.run m f).Exec K.host.reentrant (K.arrive w m f) () w'

/-- Just constructed. -/
def Deployed (w : State H) : Prop := ∃ args, K.construct args = .ok w.store

/-- The worlds in which code other than the bridge's has control. -/
abbrev Moment : State H → Prop := K.host.Moment K.Deployed

/-! ### Runs that can be computed -/

instance (w : State H) (m : Context) : Decidable (K.Admissible w m) :=
  decidable_of_iff (m.sender ≠ K.this ∧ m.value ≤ w.env.balance 0 m.sender ∧
      m.timestamp = w.env.now ∧ m.chainid = K.cachedChainId)
    ⟨fun ⟨hs, hv, ht, hc⟩ => ⟨hs, hv, ht, hc⟩, fun h => ⟨h.sender, h.value, h.timestamp, h.chainid⟩⟩

/-- Contracts that do what they are asked and never call back. -/
def cooperative (pin : H) : (c : ExtCall) → State H → Answer H c × State H
  | .hasCode _, w => (true, w)
  | .codehash _, w => (pin, w)
  | .selfBalance, w => (w.env.balance 0 K.this, w)
  | .balanceOf token who, w => (.ok (w.env.balance token who), w)
  | .totalSupply token, w => (.ok (w.env.supply token), w)
  | .bridge _, w => (.ok K.this, w)
  | .interfaceId _, w => (none, w)
  | .transfer token dst n, w =>
    if n ≤ w.env.balance token K.this then
      (.ok (.bool true), ⟨w.store, w.env.move token K.this dst n⟩)
    else (.error "", w)
  | .transferFrom token src dst n, w =>
    if n ≤ w.env.balance token src then
      (.ok (.bool true), ⟨w.store, w.env.move token src dst n⟩)
    else (.error "", w)
  | .sendValue dst n, w =>
    if n ≤ w.env.balance 0 K.this then (.ok (), ⟨w.store, w.env.move 0 K.this dst n⟩)
    else (.error "", w)
  | .mint token dst n, w => (.ok (), ⟨w.store, w.env.mint token dst n⟩)
  | .burn token src n, w =>
    if n ≤ w.env.balance token src ∧ n ≤ w.env.supply token then
      (.ok (), ⟨w.store, w.env.burn token src n⟩)
    else (.error "", w)
  | .proposeBridge _ _, w => (.ok (), w)
  | .cancelBridgeRotation _, w => (.ok (), w)
  | .acceptBridge _, w => (.ok (), w)

lemma outside_refl (w : State H) : K.host.Outside w w := ⟨0, .refl⟩

lemma performs_of_effect (hh : K.honest c.token)
    (h : K.effect c w w') : K.Performs K.host.Outside c w w' :=
  .inl ⟨hh, w, w', K.outside_refl w, h, K.outside_refl w'⟩

lemma cooperative_answers (hall : ∀ token, K.honest token) (pin : H) (c : ExtCall) (w : State H) :
    K.host.reentrant.answers c w (K.cooperative pin c w).1 (K.cooperative pin c w).2 := by
  cases c with
  | hasCode | codehash | bridge | interfaceId => rfl
  | selfBalance => exact ⟨rfl, rfl⟩
  | balanceOf | totalSupply => exact ⟨rfl, fun _ n hn => (Except.ok.inj hn).symm⟩
  | transfer token _ n =>
    by_cases h : n ≤ w.env.balance token K.this
    · rw [cooperative, if_pos h]
      exact ⟨fun _ => K.performs_of_effect (hall _) ⟨h, rfl⟩, fun hne => absurd rfl hne⟩
    · rw [cooperative, if_neg h]
      rfl
  | transferFrom token src _ n =>
    by_cases h : n ≤ w.env.balance token src
    · rw [cooperative, if_pos h]
      exact ⟨fun _ => K.performs_of_effect (hall _) ⟨h, rfl⟩, fun hne => absurd rfl hne⟩
    · rw [cooperative, if_neg h]
      rfl
  | sendValue _ n =>
    by_cases h : n ≤ w.env.balance 0 K.this
    · rw [cooperative, if_pos h]
      exact .inr ⟨rfl, _, ⟨h, rfl⟩, K.outside_refl _⟩
    · rw [cooperative, if_neg h]
      exact .inl ⟨"", rfl, rfl⟩
  | mint | proposeBridge | cancelBridgeRotation | acceptBridge =>
    exact K.performs_of_effect (hall _) rfl
  | burn token src n =>
    by_cases h : n ≤ w.env.balance token src ∧ n ≤ w.env.supply token
    · rw [cooperative, if_pos h]
      exact K.performs_of_effect (hall _) ⟨h.1, h.2, rfl⟩
    · rw [cooperative, if_neg h]
      rfl

/-- Time passes, or somebody calls. -/
inductive Move (H : Type) where
  | wait (seconds : Nat)
  | call (sender : Address) (value : Nat) (f : Function H)

/-- What a call sees, without a fork of the chain. -/
def contextOf (w : State H) (sender : Address) (value : Nat) : Context :=
  ⟨sender, value, w.env.now, K.cachedChainId⟩

/-- A move with tokens that cooperate. -/
def perform (pin : H) (w : State H) : Move H → Option (State H)
  | .wait seconds => some ⟨w.store, { w.env with now := w.env.now + seconds }⟩
  | .call sender value f =>
    let m := K.contextOf w sender value
    if K.Admissible w m then
      ((K.run m f).play (K.cooperative pin) (K.arrive w m f)).map Prod.snd
    else none

lemma foreign_of_perform {seconds : Nat}
    (h : K.perform pin w (.wait seconds) = some w') : K.Foreign w w' := by
  obtain rfl := some.inj h
  exact .other w.store w.env _ ⟨fun _ _ _ => rfl, rfl, rfl, Nat.le_add_right _ _⟩

lemma calls_of_perform (hall : ∀ token, K.honest token)
    {sender : Address} {value : Nat} {f : Function H}
    (h : K.perform pin w (.call sender value f) = some w') :
    K.Calls w (K.contextOf w sender value) f w' := by
  simp only [perform] at h
  split at h
  · rename_i hadm
    obtain ⟨⟨u, w₁⟩, hplay, rfl⟩ := map_eq_some_iff.mp h
    exact ⟨hadm, Prog.exec_of_play (K.cooperative_answers hall pin) hplay⟩
  · cases h

lemma moment_of_perform (hall : ∀ token, K.honest token) {moves : List (Move H)}
    (hw : K.Moment w) (h : moves.foldlM (K.perform pin) w = some w') : K.Moment w' := by
  induction moves generalizing w with
  | nil =>
    obtain rfl := some.inj h
    exact hw
  | cons move _ ih =>
    obtain ⟨w₁, hstep, hrest⟩ := bind_eq_some_iff.mp h
    refine ih ?_ hrest
    cases move with
    | wait => exact .foreign hw (K.foreign_of_perform hstep)
    | call _ _ f =>
      obtain ⟨hadm, hexec⟩ := K.calls_of_perform hall hstep
      exact .returned hw ⟨_, f, hadm, rfl, rfl⟩ hexec

end Chain

end Ferminux.Bridge
