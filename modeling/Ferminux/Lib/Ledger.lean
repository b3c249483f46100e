import Mathlib.Algebra.Order.BigOperators.Group.Finset

/-!
# Lib.Ledger

The accounts of one asset: what every holder has and how much there is in all. The three
operations move, create and destroy an exact amount; in the integers each is a sum of
signed entries, which is the form the bookkeeping above adds up (`balance_move` and its
siblings).
-/

namespace Ferminux.Lib

open Function

/-- Balances and total supply of one asset. -/
structure Ledger (ι : Type) where
  balance : ι → Nat
  supply : Nat

namespace Ledger

variable {ι : Type} [DecidableEq ι] (l : Ledger ι)

def move (src dst : ι) (n : Nat) : Ledger ι :=
  let debited := update l.balance src (l.balance src - n)
  { l with balance := update debited dst (debited dst + n) }

def mint (dst : ι) (n : Nat) : Ledger ι where
  balance := update l.balance dst (l.balance dst + n)
  supply := l.supply + n

def burn (src : ι) (n : Nat) : Ledger ι where
  balance := update l.balance src (l.balance src - n)
  supply := l.supply - n

/-- A signed entry of `n` in the account `x`. -/
def entry (x : ι) (n : Int) (y : ι) : Int := if y = x then n else 0

@[simp] lemma entry_self (x : ι) (n : Int) : entry x n x = n := if_pos rfl

lemma entry_of_ne {x y : ι} (n : Int) (h : y ≠ x) : entry x n y = 0 := if_neg h

@[simp] lemma entry_zero (x y : ι) : entry x 0 y = 0 := by simp [entry]

lemma entry_add (x : ι) (a b : Int) (y : ι) : entry x (a + b) y = entry x a y + entry x b y := by
  by_cases h : y = x <;> simp [entry, h]

variable {l}

lemma balance_move {src dst : ι} {n : Nat} (h : n ≤ l.balance src) (x : ι) :
    ((l.move src dst n).balance x : Int) = l.balance x - entry src n x + entry dst n x := by
  by_cases hd : x = dst <;> by_cases hs : x = src
  · subst hd hs
    simp [move]
    omega
  · subst hd
    simp [move, entry, hs]
  · subst hs
    simp [move, entry, hd]
    omega
  · simp [move, entry, hd, hs]

@[simp] lemma supply_move (src dst : ι) (n : Nat) : (l.move src dst n).supply = l.supply := rfl

lemma balance_mint (dst : ι) (n : Nat) (x : ι) :
    ((l.mint dst n).balance x : Int) = l.balance x + entry dst n x := by
  by_cases h : x = dst
  · subst h
    simp [mint]
  · simp [mint, entry, h]

@[simp] lemma supply_mint (dst : ι) (n : Nat) : (l.mint dst n).supply = l.supply + n := rfl

lemma balance_burn {src : ι} {n : Nat} (h : n ≤ l.balance src) (x : ι) :
    ((l.burn src n).balance x : Int) = l.balance x - entry src n x := by
  by_cases hx : x = src
  · subst hx
    simp [burn]
    omega
  · simp [burn, entry, hx]

@[simp] lemma supply_burn (src : ι) (n : Nat) : (l.burn src n).supply = l.supply - n := rfl

end Ledger

end Ferminux.Lib
