import Ferminux.Lib.Calls
import Ferminux.Lib.Sums
import Mathlib.Data.FinEnum

/-!
# Dex.Pair

`FerminuxPair.sol`: the **constant-product pool** of two tokens and its liquidity token. The two
tokens are sides `0` and `1`; they move exactly what they are asked to move.

Whatever the pair calls may call back. The functions behind the lock revert then, so what outsiders
do meanwhile is to send tokens to the pair and to use its liquidity token (`Outside`). Amounts are
unbounded but for the reserves: products that would overflow a word revert in the source, and are
taken here.
-/

namespace Ferminux.Dex

open Lib Function

abbrev Address := BitVec 160

/-- Nobody calls from the zero address. -/
abbrev Caller := { a : Address // a ≠ 0 }

/-- The first shares, which are burnt so that the supply never returns to 0. -/
def MINIMUM_LIQUIDITY : Nat := 1000

/-- The pair with its LP token, and the balances of its two tokens. -/
structure Pair where
  /-- What the tokens say the pair holds. -/
  balance : Fin 2 → Nat := fun _ => 0
  reserve : Fin 2 → Nat := fun _ => 0
  blockTimestampLast : Nat := 0
  priceCumulativeLast : Fin 2 → Nat := fun _ => 0
  kLast : Nat := 0
  unlocked : Bool := true
  totalSupply : Nat := 0
  balanceOf : Address → Nat := fun _ => 0
  allowance : Address → Address → Nat := fun _ _ => 0
  nonces : Address → Nat := fun _ => 0

/-- A call: it reverts with a reason, or leaves a new state. -/
abbrev PairM := StateT Pair (Except String)

/-- Checked subtraction. -/
def sub (a b : Nat) : PairM Nat := do
  require (b ≤ a) "panic: underflow"
  return a - b

/-- Division as Solidity has it. -/
def div (a b : Nat) : PairM Nat := do
  require (b ≠ 0) "panic: division by zero"
  return a / b

/-! ### The liquidity token -/

namespace LP

def setBalance (account : Address) (n : Nat) : PairM Unit :=
  modify fun s => { s with balanceOf := update s.balanceOf account n }

/-- New LP tokens. -/
def mint (dest : Address) (value : Nat) : PairM Unit := do
  modify fun s => { s with totalSupply := s.totalSupply + value }
  setBalance dest ((← get).balanceOf dest + value)

/-- LP tokens are destroyed; the owner must have them. -/
def burn (src : Address) (value : Nat) : PairM Unit := do
  setBalance src (← sub ((← get).balanceOf src) value)
  modify fun s => { s with totalSupply := s.totalSupply - value }

/-- Sets what the spender may move for the owner. -/
def approve (owner spender : Address) (value : Nat) : PairM Unit :=
  modify fun s => { s with
    allowance := update s.allowance owner (update (s.allowance owner) spender value) }

/-- Moves LP tokens. -/
def transfer (src dest : Address) (value : Nat) : PairM Unit := do
  setBalance src (← sub ((← get).balanceOf src) value)
  setBalance dest ((← get).balanceOf dest + value)

/-- Moves LP tokens of another account; the largest allowance is never used up. -/
def transferFrom (sender src dest : Address) (value : Nat) : PairM Unit := do
  let allowed := (← get).allowance src sender
  if allowed ≠ 2 ^ 256 - 1 then
    require (value ≤ allowed) "LP: insufficient allowance"
    approve src sender (allowed - value)
  transfer src dest value

/-- `recovered` is what `ecrecover` makes of the signature. -/
def permit (timestamp : Nat) (owner spender : Address) (value deadline : Nat)
    (recovered : Address) : PairM Unit := do
  require (timestamp ≤ deadline) "LP: permit expired"
  modify fun s => { s with nonces := update s.nonces owner (s.nonces owner + 1) }
  require (recovered ≠ 0 ∧ recovered = owner) "LP: invalid signature"
  approve owner spender value

end LP

/-- What anybody can do at any time: tokens arrive, and the liquidity token is used. -/
inductive Outside where
  | donate (side : Fin 2) (amount : Nat)
  | approve (sender : Caller) (spender : Address) (value : Nat)
  | transfer (sender : Caller) (dest : Address) (value : Nat)
  | transferFrom (sender : Caller) (src dest : Address) (value : Nat)
  | permit (timestamp : Nat) (owner spender : Address) (value deadline : Nat) (recovered : Address)

/-- What others do to the balances and to the LP token. It needs no lock. -/
def outside : Outside → PairM Unit
  | .donate side amount =>
    modify fun s => { s with balance := update s.balance side (s.balance side + amount) }
  | .approve sender spender value => LP.approve sender spender value
  | .transfer sender dest value => LP.transfer sender dest value
  | .transferFrom sender src dest value => LP.transferFrom sender src dest value
  | .permit timestamp owner spender value deadline recovered =>
    LP.permit timestamp owner spender value deadline recovered

/-! ### The pool -/

/-- What a function sees of its call: the factory's answer, the time, and what outsiders do during
the calls that the pair makes. -/
structure Context where
  feeTo : Address := 0
  timestamp : Nat := 0
  meanwhile : Nat → List Outside := fun _ => []

/-- `FerminuxMath.sqrt`: the Babylonian loop. -/
def sqrtLoop (y z x : Nat) : Nat := if x < z then sqrtLoop y x ((y / x + x) / 2) else z

/-- The integer square root, by Newton's method. -/
def sqrt (y : Nat) : Nat := if 3 < y then sqrtLoop y y (y / 2 + 1) else if y ≠ 0 then 1 else 0

section

variable (this : Address) (token : Fin 2 → Address) (m : Context)

/-- The modifier `lock`. -/
def locked {α : Type} (body : PairM α) : PairM α := do
  require ((← get).unlocked = true) "PAIR: locked"
  modify fun s => { s with unlocked := false }
  let a ← body
  modify fun s => { s with unlocked := true }
  return a

/-- The `n`th call of a function lets outsiders act. -/
def interact (n : Nat) : PairM Unit := modify (attempts outside (m.meanwhile n))

/-- `_safeTransfer`, as the `n`th call. -/
def safeTransfer (n : Nat) (side : Fin 2) (dest : Address) (value : Nat) : PairM Unit := do
  require (value ≤ (← get).balance side) "PAIR: transfer failed"
  if dest ≠ this then
    modify fun s => { s with balance := update s.balance side (s.balance side - value) }
  interact m n

/-- `if (value > 0) _safeTransfer(…)`. -/
def transferOut (n : Nat) (side : Fin 2) (dest : Address) (value : Nat) : PairM Unit :=
  if 0 < value then safeTransfer this m n side dest value else pure ()

/-- `if (data.length > 0)`, the receiver is called. -/
def callback (hasData : Bool) : PairM Unit := if hasData then interact m 2 else pure ()

/-- `_update`, with the price accumulators of the oracle. -/
def update (old : Fin 2 → Nat) : PairM Unit := do
  let s ← get
  require (s.balance 0 < 2 ^ 112 ∧ s.balance 1 < 2 ^ 112) "PAIR: overflow"
  let blockTimestamp := m.timestamp % 2 ^ 32
  let timeElapsed := (blockTimestamp + 2 ^ 32 - s.blockTimestampLast) % 2 ^ 32
  if 0 < timeElapsed ∧ old 0 ≠ 0 ∧ old 1 ≠ 0 then
    modify fun s => { s with
      priceCumulativeLast := fun i =>
        (s.priceCumulativeLast i + old (1 - i) * 2 ^ 112 / old i * timeElapsed) % 2 ^ 256 }
  modify fun s => { s with reserve := s.balance, blockTimestampLast := blockTimestamp }

/-- A sixth of the growth of √k goes to `feeTo`, as new LP tokens. -/
def mintFee : PairM Bool := do
  let s ← get
  if m.feeTo ≠ 0 then
    if s.kLast ≠ 0 then
      let rootK := sqrt (s.reserve 0 * s.reserve 1)
      let rootKLast := sqrt s.kLast
      if rootKLast < rootK then
        let liquidity := s.totalSupply * (rootK - rootKLast) / (rootK * 5 + rootKLast)
        if 0 < liquidity then
          LP.mint m.feeTo liquidity
    return true
  else
    modify fun s => { s with kLast := 0 }
    return false

/-- `kLast` is only kept while the fee is on. -/
def trackK (feeOn : Bool) : PairM Unit := do
  if feeOn then
    modify fun s => { s with kLast := s.reserve 0 * s.reserve 1 }

/-- The liquidity of a deposit; the first one leaves the minimum with nobody. -/
def liquidityFor (reserve : Fin 2 → Nat) (amount0 amount1 supply : Nat) : PairM Nat :=
  if supply = 0 then do
    let liquidity ← sub (sqrt (amount0 * amount1)) MINIMUM_LIQUIDITY
    LP.mint 0 MINIMUM_LIQUIDITY
    return liquidity
  else do
    let share0 ← div (amount0 * supply) (reserve 0)
    let share1 ← div (amount1 * supply) (reserve 1)
    return min share0 share1

/-- Liquidity for what was sent to the pair since the last call. -/
def mint (dest : Address) : PairM Nat := locked do
  let s ← get
  let amount0 ← sub (s.balance 0) (s.reserve 0)
  let amount1 ← sub (s.balance 1) (s.reserve 1)
  let feeOn ← mintFee m
  let liquidity ← liquidityFor s.reserve amount0 amount1 (← get).totalSupply
  require (0 < liquidity) "PAIR: insufficient liquidity minted"
  LP.mint dest liquidity
  update m s.reserve
  trackK feeOn
  return liquidity

/-- Gives back the share of both tokens for the LP tokens that were sent to the pair. -/
def burn (dest : Address) : PairM (Nat × Nat) := locked do
  let s ← get
  let liquidity := s.balanceOf this
  let feeOn ← mintFee m
  let supply := (← get).totalSupply
  let amount0 ← div (liquidity * s.balance 0) supply
  let amount1 ← div (liquidity * s.balance 1) supply
  require (0 < amount0 ∧ 0 < amount1) "PAIR: insufficient liquidity burned"
  LP.burn this liquidity
  safeTransfer this m 0 0 dest amount0
  safeTransfer this m 1 1 dest amount1
  update m s.reserve
  trackK feeOn
  return (amount0, amount1)

/-- Pays out first and then requires that the balances, less the fee, keep the product. -/
def swap (amount0Out amount1Out : Nat) (dest : Address) (hasData : Bool) : PairM Unit := locked do
  require (0 < amount0Out ∨ 0 < amount1Out) "PAIR: insufficient output amount"
  let old := (← get).reserve
  require (amount0Out < old 0 ∧ amount1Out < old 1) "PAIR: insufficient liquidity"
  require (dest ≠ token 0 ∧ dest ≠ token 1) "PAIR: invalid to"
  transferOut this m 0 0 dest amount0Out
  transferOut this m 1 1 dest amount1Out
  callback m hasData
  let balance := (← get).balance
  let amount0In := balance 0 - (old 0 - amount0Out)
  let amount1In := balance 1 - (old 1 - amount1Out)
  require (0 < amount0In ∨ 0 < amount1In) "PAIR: insufficient input amount"
  let balance0Adjusted ← sub (balance 0 * 1000) (amount0In * 3)
  let balance1Adjusted ← sub (balance 1 * 1000) (amount1In * 3)
  require (old 0 * old 1 * 1000 ^ 2 ≤ balance0Adjusted * balance1Adjusted) "PAIR: K"
  update m old

/-- Pays out what the pair holds beyond its reserves. -/
def skim (dest : Address) : PairM Unit := locked do
  let s ← get
  safeTransfer this m 0 0 dest (← sub (s.balance 0) (s.reserve 0))
  let s ← get
  safeTransfer this m 1 1 dest (← sub (s.balance 1) (s.reserve 1))

/-- Takes the balances as reserves. -/
def sync : PairM Unit := locked do
  update m (← get).reserve

end

/-- The calls of the pair, and what happens beside it. -/
inductive Call where
  | mint (dest : Address)
  | burn (dest : Address)
  | swap (amount0Out amount1Out : Nat) (dest : Address) (hasData : Bool)
  | skim (dest : Address)
  | sync
  | outside (o : Outside)

/-- A call on the pair's state. -/
def perform (this : Address) (token : Fin 2 → Address) (call : Context × Call) : PairM Unit :=
  match call.2 with
  | .mint dest => discard (mint call.1 dest)
  | .burn dest => discard (burn this call.1 dest)
  | .swap amount0Out amount1Out dest hasData =>
    swap this token call.1 amount0Out amount1Out dest hasData
  | .skim dest => skim this call.1 dest
  | .sync => sync call.1
  | .outside o => Dex.outside o

end Ferminux.Dex
