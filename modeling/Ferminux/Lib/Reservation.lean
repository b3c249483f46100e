import Mathlib.Data.List.Nodup

/-!
# Lib.Reservation

**Paying from a wallet with reserved nonces.** Payments `k : ι` are made from one account; the nonce
of a payment is written down before the transaction is sent, and a payment is settled when its
transaction was accepted, or when the chain has gone past its nonce. Transactions are accepted in
the order of their nonces and none is dropped, so the account's transactions are the list of the
payments they make.

A payment is made at most once as long as its nonce is never given up. That a settled payment has
been made needs more: no two payments may hold the same nonce.
-/

namespace Ferminux.Lib

open Function List

/-- An account, and what is written down about the payments from it. -/
structure Reservation (ι : Type) where
  nonce : ι → Option Nat
  settled : ι → Bool
  /-- The payments whose transactions have been accepted, by nonce. -/
  accepted : List ι
  /-- How many of them are on the chain. -/
  mined : Nat

namespace Reservation

variable {ι : Type} {x : Reservation ι} {k : ι} {n : Nat}

/-- Every transaction was sent at the nonce its payment holds. -/
structure Honest (x : Reservation ι) : Prop where
  sent : ∀ {n k}, x.accepted[n]? = some k → x.nonce k = some n
  le : ∀ {n k}, x.nonce k = some n → n ≤ x.accepted.length
  mined : x.mined ≤ x.accepted.length

/-- No nonce is held twice, and what is settled has been paid. -/
structure Exclusive (x : Reservation ι) : Prop where
  inj : ∀ {n k k'}, x.nonce k = some n → x.nonce k' = some n → k = k'
  paid : ∀ {k}, x.settled k = true → k ∈ x.accepted

/-- **A payment is made at most once.** -/
theorem Honest.nodup (h : x.Honest) : x.accepted.Nodup := by
  rw [nodup_iff_getElem?_ne_getElem?]
  intro i j hij hj heq
  rw [getElem?_eq_getElem hj] at heq
  have hi := h.sent heq
  have hj' := h.sent (getElem?_eq_getElem hj)
  rw [hi] at hj'
  exact absurd (Option.some.inj hj') (by omega)

/-- **The chain has gone past the nonce of a payment that holds it alone**: it was paid. -/
theorem Exclusive.mem_of_lt (h : x.Exclusive) (hx : x.Honest) (hk : x.nonce k = some n)
    (hn : n < x.mined) : k ∈ x.accepted := by
  have hlt : n < x.accepted.length := Nat.lt_of_lt_of_le hn hx.mined
  have hsent := hx.sent (getElem?_eq_getElem hlt)
  rw [h.inj hk hsent]
  exact getElem_mem hlt

def accept (x : Reservation ι) (k : ι) : Reservation ι := { x with accepted := x.accepted ++ [k] }

def mine (x : Reservation ι) (n : Nat) : Reservation ι := { x with mined := n }

lemma Honest.accept (h : x.Honest) (hk : x.nonce k = some x.accepted.length) :
    (x.accept k).Honest := by
  refine ⟨fun {i k'} hi => ?_, fun {i k'} hi => ?_, ?_⟩
  · simp only [Reservation.accept] at hi
    by_cases hlt : i < x.accepted.length
    · rw [List.getElem?_append_left hlt] at hi
      exact h.sent hi
    · obtain ⟨hbound, heq⟩ := List.getElem?_eq_some_iff.mp hi
      rw [length_append, length_singleton] at hbound
      obtain rfl : i = x.accepted.length := by omega
      rw [getElem_concat_length rfl] at heq
      rw [← heq]
      exact hk
  · exact Nat.le_trans (h.le hi) (by simp [Reservation.accept])
  · exact Nat.le_trans h.mined (by simp [Reservation.accept])

lemma Exclusive.accept (h : x.Exclusive) : (x.accept k).Exclusive :=
  ⟨h.inj, fun hs => mem_append_left _ (h.paid hs)⟩

lemma Honest.mine (h : x.Honest) (hn : n ≤ x.accepted.length) : (x.mine n).Honest :=
  ⟨h.sent, h.le, hn⟩

variable [DecidableEq ι]

def reserve (x : Reservation ι) (k : ι) (n : Nat) : Reservation ι :=
  { x with nonce := update x.nonce k (some n) }

def settle (x : Reservation ι) (k : ι) : Reservation ι :=
  { x with settled := update x.settled k true }

/-- Who holds a nonce once `k` has reserved `n`. -/
lemma nonce_reserve {k' : ι} {i : Nat} (hi : (x.reserve k n).nonce k' = some i) :
    k' = k ∧ i = n ∨ k' ≠ k ∧ x.nonce k' = some i := by
  simp only [Reservation.reserve] at hi
  by_cases hk : k' = k
  · subst hk
    rw [update_self] at hi
    exact .inl ⟨rfl, (Option.some.inj hi).symm⟩
  · rw [update_of_ne hk] at hi
    exact .inr ⟨hk, hi⟩

lemma Honest.reserve (h : x.Honest) (hk : x.nonce k = none) (hn : n ≤ x.accepted.length) :
    (x.reserve k n).Honest := by
  refine ⟨fun {i k'} hi => ?_, fun {i k'} hi => ?_, h.mined⟩
  · have hsent := h.sent hi
    have hne : k' ≠ k := by
      rintro rfl
      rw [hk] at hsent
      cases hsent
    exact (update_of_ne hne ..).trans hsent
  · rcases nonce_reserve hi with ⟨-, rfl⟩ | ⟨-, hi⟩
    · exact hn
    · exact h.le hi

lemma Exclusive.reserve (h : x.Exclusive) (hn : ∀ k', x.nonce k' = some n → k' = k) :
    (x.reserve k n).Exclusive := by
  refine ⟨fun {i k1 k2} h1 h2 => ?_, h.paid⟩
  rcases nonce_reserve h1 with ⟨rfl, rfl⟩ | ⟨-, hold1⟩
  · rcases nonce_reserve h2 with ⟨rfl, -⟩ | ⟨-, hold2⟩
    · rfl
    · exact (hn k2 hold2).symm
  · rcases nonce_reserve h2 with ⟨rfl, rfl⟩ | ⟨-, hold2⟩
    · exact hn k1 hold1
    · exact h.inj hold1 hold2

lemma Honest.settle (h : x.Honest) : (x.settle k).Honest := ⟨h.sent, h.le, h.mined⟩

lemma Exclusive.settle (h : x.Exclusive) (hk : k ∈ x.accepted) : (x.settle k).Exclusive := by
  refine ⟨h.inj, fun {k'} hs => ?_⟩
  by_cases hne : k' = k
  · rw [hne]
    exact hk
  · exact h.paid ((update_of_ne hne ..).symm.trans hs)

end Reservation

end Ferminux.Lib
