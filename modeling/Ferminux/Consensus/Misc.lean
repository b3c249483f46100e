import Ferminux.Consensus.Types
import Ferminux.Lib.Except
import Mathlib.Algebra.Group.Int.Defs

/-!
# Consensus.Misc

The header checks that do not depend on who sealed the block (`consensus/misc`):
the pinned fork hash, the gas limit's distance to the parent's, and the EIP-1559
base fee.
-/

namespace Ferminux

def gasLimitBoundDivisor : Nat := 1024

def minGasLimit : Nat := 5000

/-- `params.MaxGasLimit`, `2^63-1`. -/
def maxGasLimit : Nat := 0x7fffffffffffffff

def elasticityMultiplier : Nat := 2

def baseFeeChangeDenominator : Nat := 8

def initialBaseFee : Nat := 1000000000

/-- The value of an `int64` after wrapping around. -/
def wrapInt64 (v : Int) : Int := (v + 2 ^ 63) % 2 ^ 64 - 2 ^ 63

/-- `misc.VerifyForkHashes` for a block that is no uncle: the hash pinned at the
EIP-150 fork block, if there is one. -/
def verifyForkHashes (K : Crypto) (config : ChainConfig) (header : Header) : Except Err Unit :=
  guardErr (config.eip150Block == some header.number && config.eip150Hash != zeroHash &&
    config.eip150Hash != K.headerHash header) .errForkHash

/-- `misc.VerifyGaslimit`. The difference is taken on `int64`. -/
def verifyGaslimit (parentGasLimit headerGasLimit : Nat) : Except Err Unit := do
  let diff := wrapInt64 (wrapInt64 parentGasLimit - wrapInt64 headerGasLimit)
  let diff := if diff < 0 then wrapInt64 (-diff) else diff
  guardErr (parentGasLimit / gasLimitBoundDivisor ≤ (diff % 2 ^ 64).toNat) .errGasLimitBound
  guardErr (headerGasLimit < minGasLimit) .errGasLimitTooLow

/-- `misc.CalcBaseFee`: the base fee moves towards the parent's gas target by at
most an eighth. -/
def calcBaseFee (config : ChainConfig) (parent : Header) : Except Err Nat :=
  if !config.isLondon parent.number then .ok initialBaseFee
  else
    match parent.baseFee with
    | none => .error .nilPointer
    | some parentBaseFee =>
      let parentGasTarget := parent.gasLimit / elasticityMultiplier
      if parent.gasUsed = parentGasTarget then .ok parentBaseFee
      else if parentGasTarget = 0 then .error .divideByZero
      else if parentGasTarget < parent.gasUsed then
        .ok (parentBaseFee + max 1 ((parent.gasUsed - parentGasTarget) * parentBaseFee /
          parentGasTarget / baseFeeChangeDenominator))
      else
        .ok (parentBaseFee - (parentGasTarget - parent.gasUsed) * parentBaseFee /
          parentGasTarget / baseFeeChangeDenominator)

/-- The gas limit, and the base fee that follows from the parent. -/
def verifyEip1559Header (config : ChainConfig) (parent header : Header) : Except Err Unit := do
  let parentGasLimit :=
    if !config.isLondon parent.number then parent.gasLimit * elasticityMultiplier % 2 ^ 64
    else parent.gasLimit
  verifyGaslimit parentGasLimit header.gasLimit
  match header.baseFee with
  | none => .error .errBaseFeeMissing
  | some baseFee =>
    let expectedBaseFee ← calcBaseFee config parent
    guardErr (baseFee != expectedBaseFee) .errBaseFee

/-- The gas and fee checks of `verifyCascadingFields` against the parent: before
London no base fee, from London on the EIP-1559 attributes. -/
def verifyGasFields (config : ChainConfig) (parent header : Header) : Except Err Unit := do
  guardErr (header.gasLimit < header.gasUsed) .errGasUsed
  if !config.isLondon header.number then
    guardErr header.baseFee.isSome .errBaseFeeBeforeFork
    verifyGaslimit parent.gasLimit header.gasLimit
  else verifyEip1559Header config parent header

end Ferminux
