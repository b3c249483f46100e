import Ferminux.Agents.ServiceEscrow
import Ferminux.Lib.Calls

/-!
# Agents.X402Vault

`X402VaultV2.sol`: **deposits that vouchers are settled against**. The receiver of a payment may call
the vault in the middle (`Run`). A payer that is a contract is asked about signatures by a static
call, which changes nothing. Events other than those about deposits are left out; amounts and times
are unbounded.
-/

namespace Ferminux.Agents.X402Vault

open Lib Function

/-- A payment that the payer has signed; its nonce makes it single. -/
structure Voucher where
  payer : Address
  payee : Address
  amount : Nat
  nonce : Nat
  /-- Valid while `block.timestamp <= expiry`. -/
  expiry : Nat
  ref : Hash

/-- The events that concern balances. -/
inductive Event where
  | Deposited (payer : Address) (amount : Nat)
  | Withdrawn (dest : Address) (amount : Nat)
  | Settled (v : Voucher) (fee : Nat)

/-- How a call of the vault reverts. -/
inductive Error where
  | NotGovernance | ZeroAddress | ZeroValue | Locked | TooEarly | InsufficientBalance
  | LengthMismatch | FeeTooHigh | NothingToWithdraw | TransferFailed | Reentrancy
  | InsufficientGas
  | VoucherInvalid (reason : String)

open X402Vault.Error

/-- From the request to the first moment a payer may withdraw. -/
def UNLOCK_DELAY : Nat := 3600

/-- The contract's storage, and what it holds. -/
structure Vault where
  governance : Address
  feeRecipient : Address
  feeBps : Nat := 100
  balance : Address → Nat := fun _ => 0
  /-- 0 = locked. -/
  unlockAt : Address → Nat := fun _ => 0
  used : Address → Nat → Bool := fun _ _ => false
  credits : Address → Nat := fun _ => 0
  lock : Bool := false
  held : Nat := 0
  /-- Newest first. -/
  log : List Event := []

/-- A call: it reverts, or leaves a new state. -/
abbrev VaultM := StateT Vault (Except Error)

/-- What a function sees of its call: what the payers' contracts answer about signatures, whether
there is gas for the rest of a batch, what the sender makes of the vault when it is paid, and whether
it takes the payment. -/
structure Call extends Context where
  answers : Voucher → Text → Bool := fun _ _ => false
  headroom : Voucher → Text → Bool := fun _ _ => true
  back : Vault → Vault := id
  paid : Bool := true

section

-- `recover` is what `Sig.recover` makes of a signature under the digest of a voucher
variable (recover : Voucher → Text → Address) (m : Call) (v : Voucher)

/-! ### Deposits -/

/-- The payer's balance backs vouchers again. -/
def relock (payer : Address) : VaultM Unit :=
  modify fun s => { s with unlockAt := update s.unlockAt payer 0 }

/-- Adds to a balance. The payer's own deposit locks it again. -/
def deposit (payer : Address) : VaultM Unit := do
  require (m.value ≠ 0) ZeroValue
  modify fun s => { s with
    balance := update s.balance payer (s.balance payer + m.value)
    held := s.held + m.value
    log := .Deposited payer m.value :: s.log }
  if m.sender = payer then
    relock payer

/-- Adds to the balance of another, whose unlock goes on. -/
def depositFor (payer : Address) : VaultM Unit := do
  require (payer ≠ 0) ZeroAddress
  deposit m payer

/-- Starts the delay of the caller's withdrawal, anew if it was running. -/
def requestUnlock : VaultM Unit :=
  modify fun s => { s with
    unlockAt := update s.unlockAt m.sender (m.timestamp + UNLOCK_DELAY) }

def nonReentrant (f : VaultM Unit) : VaultM Unit := do
  require ((← get).lock = false) Reentrancy
  modify fun s => { s with lock := true }
  f
  modify fun s => { s with lock := false }

/-- A payment, during which others may call. -/
def pay (amount : Nat) : VaultM Unit := do
  require (m.paid = true ∧ amount ≤ (← get).held) TransferFailed
  modify fun s => m.back { s with held := s.held - amount }

/-- Of an unlocked balance; it is reduced first. -/
def withdraw (amount : Nat) : VaultM Unit := nonReentrant do
  let s ← get
  require (s.unlockAt m.sender ≠ 0) Locked
  require (s.unlockAt m.sender ≤ m.timestamp) TooEarly
  require (amount ≠ 0) ZeroValue
  require (amount ≤ s.balance m.sender) InsufficientBalance
  modify fun s => { s with
    balance := update s.balance m.sender (s.balance m.sender - amount)
    unlockAt := update s.unlockAt m.sender 0
    log := .Withdrawn m.sender amount :: s.log }
  pay m amount

/-- Pays what settled vouchers earned the caller. -/
def withdrawCredits : VaultM Unit := nonReentrant do
  let amount := (← get).credits m.sender
  require (amount ≠ 0) NothingToWithdraw
  modify fun s => { s with credits := update s.credits m.sender 0 }
  pay m amount

/-! ### Settlement -/

/-- The payer has signed: as a plain account, or as a contract that says so. -/
abbrev Signed (sig : Text) : Prop :=
  recover v sig ≠ 0 ∧ recover v sig = v.payer ∨ m.answers v sig = true

/-- `_verify`: the reason why the voucher is not valid, if it is not. -/
def verify (sig : Text) (batch : Bool) : VaultM (Option String) := do
  let s ← get
  if v.payer = 0 then return some "zero payer"
  if v.payee = 0 then return some "zero payee"
  if v.amount = 0 then return some "zero amount"
  if batch = true ∧ ¬ (recover v sig ≠ 0 ∧ recover v sig = v.payer) then
    require (m.headroom v sig = true) InsufficientGas
  if v.expiry < m.timestamp then return some "expired"
  if s.used v.payer v.nonce = true then return some "nonce used"
  if s.balance v.payer < v.amount then return some "insufficient balance"
  if ¬ Signed recover m v sig then return some "bad signature"
  return none

/-- What an account may withdraw grows. -/
def credit (account : Address) (amount : Nat) : VaultM Unit :=
  modify fun s => { s with credits := update s.credits account (s.credits account + amount) }

/-- `_settle`. -/
def settleVoucher : VaultM Unit := do
  let s ← get
  let fee := v.amount * s.feeBps / BPS
  modify fun s => { s with
    used := update s.used v.payer (update (s.used v.payer) v.nonce true)
    balance := update s.balance v.payer (s.balance v.payer - v.amount)
    log := .Settled v fee :: s.log }
  credit v.payee (v.amount - fee)
  if fee ≠ 0 then
    credit s.feeRecipient fee

/-- A voucher is settled, or not valid. -/
def settleOr (batch : Bool) (invalid : String → VaultM Unit) (entry : Voucher × Text) :
    VaultM Unit := do
  match ← verify recover m entry.1 entry.2 batch with
  | some reason => invalid reason
  | none => settleVoucher entry.1

/-- One voucher; an invalid one reverts. -/
def settle (sig : Text) : VaultM Unit :=
  settleOr recover m false (fun reason => throw (VoucherInvalid reason)) (v, sig)

/-- Vouchers that are not valid are skipped. -/
def settleBatch (vs : List Voucher) (sigs : List Text) : VaultM Unit := do
  require (vs.length = sigs.length) LengthMismatch
  (vs.zip sigs).forM (settleOr recover m true fun _ => pure ())

/-! ### Governance -/

def onlyGovernance : VaultM Unit := do
  require (m.sender = (← get).governance) NotGovernance

def setFee (bps : Nat) : VaultM Unit := do
  onlyGovernance m
  require (bps ≤ MAX_FEE_BPS) FeeTooHigh
  modify fun s => { s with feeBps := bps }

def setFeeRecipient (recipient : Address) : VaultM Unit := do
  onlyGovernance m
  require (recipient ≠ 0) ZeroAddress
  modify fun s => { s with feeRecipient := recipient }

def setGovernance (newGovernance : Address) : VaultM Unit := do
  onlyGovernance m
  require (newGovernance ≠ 0) ZeroAddress
  modify fun s => { s with governance := newGovernance }

end

/-- The methods of the vault. -/
inductive Method where
  | deposit
  | depositFor (payer : Address)
  | requestUnlock
  | relock
  | withdraw (amount : Nat)
  | withdrawCredits
  | settle (v : Voucher) (sig : Text)
  | settleBatch (vs : List Voucher) (sigs : List Text)
  | setFee (bps : Nat)
  | setFeeRecipient (recipient : Address)
  | setGovernance (newGovernance : Address)
  /-- FMX arrives that is not a deposit. -/
  | arrive

/-- A call on the vault's state. -/
def perform (recover : Voucher → Text → Address) (call : Call × Method) : VaultM Unit :=
  let m := call.1
  match call.2 with
  | .deposit => deposit m m.sender
  | .depositFor payer => depositFor m payer
  | .requestUnlock => requestUnlock m
  | .relock => relock m.sender
  | .withdraw amount => withdraw m amount
  | .withdrawCredits => withdrawCredits m
  | .settle v sig => settle recover m v sig
  | .settleBatch vs sigs => settleBatch recover m vs sigs
  | .setFee bps => setFee m bps
  | .setFeeRecipient recipient => setFeeRecipient m recipient
  | .setGovernance newGovernance => setGovernance m newGovernance
  | .arrive => modify fun s => { s with held := s.held + m.value }

/-- What a list of calls does; behind each stand the calls that the receiver makes when it is paid. -/
inductive Run (recover : Voucher → Text → Address) : List (Call × Method) → Vault → Vault → Prop
  | nil {s : Vault} : Run recover [] s s
  | cons {call : Call × Method} {inner rest : List (Call × Method)} {s s' : Vault}
      (hback : ∀ s, Run recover inner s (call.1.back s))
      (hrest : Run recover rest (attempt (perform recover call) s) s') :
      Run recover (call :: (inner ++ rest)) s s'

/-- The call pays somebody and hands the vault over to them as `s'`: it ends with what they make
of it. -/
def Pays (recover : Voucher → Text → Address) (call : Call × Method) (s s' : Vault) : Prop :=
  ∀ back : Vault → Vault, perform recover ({ call.1 with back }, call.2) s =
    .ok ((), { back s' with lock := false })

/-- The moments of a list of calls: behind a call, and while somebody who is paid is calling. -/
inductive Moment (recover : Voucher → Text → Address) :
    List (Call × Method) → Vault → Vault → Prop
  | behind {calls : List (Call × Method)} {s s' : Vault} (hrun : Run recover calls s s') :
      Moment recover calls s s'
  | during {before inner : List (Call × Method)} {call : Call × Method} {s s₁ s₂ s' : Vault}
      (hbefore : Run recover before s s₁) (hpays : Pays recover call s₁ s₂)
      (hinner : Moment recover inner s₂ s') : Moment recover (before ++ call :: inner) s s'

end Ferminux.Agents.X402Vault
