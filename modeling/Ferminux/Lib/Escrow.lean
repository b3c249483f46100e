import Mathlib.Algebra.Order.BigOperators.Group.Finset

/-!
# Lib.Escrow

**Two ledgers that are kept in step by messages.** One side locks an asset and sends a
message, the other issues as much of its own when the message arrives; sending home
destroys there and releases here. Messages may be delayed, reordered or lost; each is
received at most once, and only if it was sent.

What is locked is at any time what is issued and what is under way (`Reachable.backed`),
so a release is always covered (`Escrow.Backed.covers`).
-/

namespace Ferminux.Lib

open Finset

variable {M : Type} [DecidableEq M]

/-! ### Channels -/

/-- The messages sent so far and those that have been received. -/
@[ext] structure Channel (M : Type) where
  sent : Finset M
  received : Finset M
  genuine : received ⊆ sent

namespace Channel

def empty : Channel M := ⟨∅, ∅, Finset.Subset.refl _⟩

def send (c : Channel M) (m : M) : Channel M where
  sent := insert m c.sent
  received := c.received
  genuine := c.genuine.trans (subset_insert m _)

def receive (c : Channel M) (m : M) (h : m ∈ c.sent) : Channel M where
  sent := c.sent
  received := insert m c.received
  genuine := insert_subset h c.genuine

def pending (c : Channel M) : Finset M := c.sent \ c.received

def inFlight (weight : M → Nat) (c : Channel M) : Nat := ∑ m ∈ c.pending, weight m

variable (weight : M → Nat) {c : Channel M} {m : M}

lemma inFlight_send (h : m ∉ c.sent) :
    (c.send m).inFlight weight = c.inFlight weight + weight m := by
  have hreceived : m ∉ c.received := fun hm => h (c.genuine hm)
  have hpending : m ∉ c.pending := fun hm => h (mem_sdiff.mp hm).1
  have hset : (c.send m).pending = insert m c.pending := insert_sdiff_of_notMem _ hreceived
  rw [inFlight, hset, sum_insert hpending, add_comm]
  rfl

lemma inFlight_receive (h : m ∈ c.sent) (hfresh : m ∉ c.received) :
    (c.receive m h).inFlight weight + weight m = c.inFlight weight := by
  have hpending : m ∈ c.pending := mem_sdiff.mpr ⟨h, hfresh⟩
  have hset : (c.receive m h).pending = c.pending.erase m := sdiff_insert _ _ _
  rw [inFlight, hset]
  exact sum_erase_add _ _ hpending

lemma weight_le_inFlight (h : m ∈ c.pending) : weight m ≤ c.inFlight weight :=
  single_le_sum (fun _ _ => Nat.zero_le _) h

end Channel

/-! ### The protocol -/

/-- Both ledgers and the messages between them. -/
@[ext] structure Escrow (M : Type) where
  locked : Nat
  issued : Nat
  out : Channel M
  home : Channel M

namespace Escrow

def empty : Escrow M := ⟨0, 0, .empty, .empty⟩

inductive Step (weight : M → Nat) : Escrow M → Escrow M → Prop
  | lock {e : Escrow M} (m : M) (h : m ∉ e.out.sent) :
      Step weight e { e with locked := e.locked + weight m, out := e.out.send m }
  | issue {e : Escrow M} (m : M) (h : m ∈ e.out.sent) (hfresh : m ∉ e.out.received) :
      Step weight e { e with issued := e.issued + weight m, out := e.out.receive m h }
  | retire {e : Escrow M} (m : M) (h : m ∉ e.home.sent) (hm : weight m ≤ e.issued) :
      Step weight e { e with issued := e.issued - weight m, home := e.home.send m }
  | release {e : Escrow M} (m : M) (h : m ∈ e.home.sent) (hfresh : m ∉ e.home.received)
      (hm : weight m ≤ e.locked) :
      Step weight e { e with locked := e.locked - weight m, home := e.home.receive m h }

/-- What is locked covers what is issued and what is under way, exactly. -/
def Backed (weight : M → Nat) (e : Escrow M) : Prop :=
  e.locked = e.issued + e.out.inFlight weight + e.home.inFlight weight

variable {weight : M → Nat} {e e' : Escrow M}

lemma Step.backed (h : Step weight e e') (he : e.Backed weight) : e'.Backed weight := by
  unfold Backed at he ⊢
  cases h with
  | lock _ h | retire _ h =>
    have := Channel.inFlight_send weight h
    dsimp only
    omega
  | issue _ h hfresh | release _ h hfresh =>
    have := Channel.inFlight_receive weight h hfresh
    dsimp only
    omega

def Reachable (weight : M → Nat) : Escrow M → Prop := Relation.ReflTransGen (Step weight) empty

lemma Reachable.backed (h : Reachable weight e) : e.Backed weight := by
  induction h with
  | refl => rfl
  | tail _ hstep ih => exact hstep.backed ih

lemma Backed.covers (h : e.Backed weight) {m : M} (hm : m ∈ e.home.pending) :
    weight m ≤ e.locked := by
  have := Channel.weight_le_inFlight weight hm
  unfold Backed at h
  omega

end Escrow

end Ferminux.Lib
