import Ferminux.Clique.Snapshot

/-!
# Clique.Run

**Runs of `Snapshot.apply`.** Applying a run of headers is applying them one after
the other, so a property of every reachable snapshot needs two lemmas only: that a
bootstrap snapshot has it, and that one turn of the loop keeps it.

`Reachable.invariant` is the induction rule.
-/

namespace Ferminux.Clique

open Lib List Snapshot

/-- The headers carry the block numbers `n + 1`, `n + 2`, … -/
def Contiguous : Nat → List Header → Prop
  | _, [] => True
  | n, header :: rest => header.number = n + 1 ∧ Contiguous (n + 1) rest

instance decidableContiguous : ∀ (n : Nat) (headers : List Header), Decidable (Contiguous n headers)
  | _, [] => .isTrue trivial
  | n, header :: rest =>
    have := decidableContiguous (n + 1) rest
    inferInstanceAs (Decidable (header.number = n + 1 ∧ Contiguous (n + 1) rest))

variable {n : Nat}

/-- The two sanity checks of `apply` say that the headers follow block `n`. -/
lemma contiguous_cons_iff {first : Header} {rest : List Header} : Contiguous n (first :: rest) ↔
      (first :: rest).IsChain (fun a b => b.number = a.number + 1) ∧ first.number = n + 1 := by
  induction rest generalizing n first with
  | nil => simp [Contiguous]
  | cons _ _ ih =>
    rw [Contiguous, ih, isChain_cons_cons]
    constructor
    · rintro ⟨hfirst, hchain, hsecond⟩
      exact ⟨⟨by rw [hsecond, hfirst], hchain⟩, hfirst⟩
    · rintro ⟨⟨hsecond, hchain⟩, hfirst⟩
      exact ⟨hfirst, hchain, by rw [hsecond, hfirst]⟩

variable {l1 l2 : List Header}

lemma contiguous_append :
    Contiguous n (l1 ++ l2) ↔ Contiguous n l1 ∧ Contiguous (n + l1.length) l2 := by
  induction l1 generalizing n with
  | nil => simp [Contiguous]
  | cons header rest ih =>
    have hlen : n + (header :: rest).length = n + 1 + rest.length := by
      rw [length_cons]
      omega
    rw [cons_append, Contiguous, Contiguous, ih, hlen, and_assoc]

variable {header : Header}

lemma Contiguous.number_last {pre : List Header}
    (h : Contiguous n (pre ++ [header])) : header.number = n + pre.length + 1 :=
  (contiguous_append.mp h).2.1

/-- The snapshot after a run of headers that left the state `state`. -/
def Snapshot.advance (K : Crypto) (s : Snapshot) (headers : List Header) (state : AuthState) :
    Snapshot :=
  { s with
    toAuthState := state
    number := s.number + headers.length
    hash := (headers.getLast?.map K.headerHash).getD s.hash }

variable {K : Crypto} {s s' : Snapshot} {headers : List Header}

/-- **`apply`, inverted**: the numbers follow the snapshot's and the loop returns. -/
theorem apply_ok_iff : s.apply K headers = .ok s' ↔ Contiguous s.number headers ∧ ∃ state,
      headers.foldlM (AuthState.applyHeader K s.config s.breakGlass) s.toAuthState = .ok state ∧
        s' = s.advance K headers state := by
  cases headers with
  | nil =>
    simp only [apply, Contiguous, advance, foldlM_nil, pure_eq_ok,
      true_and, exists_eq_left', Except.ok.injEq]
    exact eq_comm
  | cons first rest =>
    rw [contiguous_cons_iff]
    simp only [apply]
    by_cases hchain : (first :: rest).IsChain (fun a b => b.number = a.number + 1)
    · by_cases hfirst : first.number = s.number + 1
      · rw [if_neg (not_not.mpr hchain), if_neg (not_not.mpr hfirst), bind_eq_ok]
        simp only [hchain, hfirst, true_and, Except.ok.injEq, advance,
          List.getLast?_eq_some_getLast (cons_ne_nil first rest), Option.map_some,
          Option.getD_some]
        constructor <;> rintro ⟨state, hfold, heq⟩ <;> exact ⟨state, hfold, heq.symm⟩
      · rw [if_neg (not_not.mpr hchain), if_pos hfirst]
        simp [hfirst]
    · rw [if_pos hchain]
      simp [hchain]

lemma apply_singleton_ok_iff : s.apply K [header] = .ok s' ↔ header.number = s.number + 1 ∧ ∃ state,
      AuthState.applyHeader K s.config s.breakGlass s.toAuthState header = .ok state ∧
        s' = s.advance K [header] state := by
  rw [apply_ok_iff]
  simp [Contiguous]

lemma apply_append :
    s.apply K (l1 ++ l2) = .ok s' ↔ ∃ mid, s.apply K l1 = .ok mid ∧ mid.apply K l2 = .ok s' := by
  have hadvance : ∀ state1 state2, (s.advance K l1 state1).advance K l2 state2 =
      s.advance K (l1 ++ l2) state2 := by
    intro state1 state2
    simp only [advance, length_append, Nat.add_assoc, List.getLast?_append]
    cases l2.getLast? <;> rfl
  simp only [apply_ok_iff, contiguous_append, foldlM_append_eq_ok]
  constructor
  · rintro ⟨⟨hc1, hc2⟩, state2, ⟨state1, hf1, hf2⟩, rfl⟩
    exact ⟨_, ⟨hc1, state1, hf1, rfl⟩, hc2, state2, hf2, (hadvance state1 state2).symm⟩
  · rintro ⟨_, ⟨hc1, state1, hf1, rfl⟩, hc2, state2, hf2, rfl⟩
    exact ⟨⟨hc1, hc2⟩, state2, ⟨state1, hf1, hf2⟩, hadvance state1 state2⟩

variable {config : CliqueConfig} {breakGlass : Option BreakGlassConfig}

lemma reachable_iff :
    Reachable K config breakGlass s ↔ ∃ (b : Bootstrap) (hash : Hash) (headers : List Header),
      (b.snapshot config breakGlass hash).apply K headers = .ok s := by
  constructor
  · intro h
    induction h with
    | bootstrap b hash => exact ⟨b, hash, [], rfl⟩
    | apply _ happly ih =>
      obtain ⟨b, hash, headers, hrun⟩ := ih
      exact ⟨b, hash, headers ++ _, apply_append.mpr ⟨_, hrun, happly⟩⟩
  · rintro ⟨b, hash, headers, hrun⟩
    exact .apply (.bootstrap b hash) hrun

lemma Reachable.config_eq (h : Reachable K config breakGlass s) :
    s.config = config ∧ s.breakGlass = breakGlass := by
  obtain ⟨b, hash, headers, hrun⟩ := reachable_iff.mp h
  obtain ⟨-, state, -, rfl⟩ := apply_ok_iff.mp hrun
  exact ⟨rfl, rfl⟩

/-- **The induction rule**: a property of the block number and the state holds in
every reachable snapshot if bootstrap snapshots have it and the loop body keeps it
from one block to the next. -/
theorem Reachable.invariant {P : Nat → AuthState → Prop} (h : Reachable K config breakGlass s)
    (hboot : ∀ (b : Bootstrap) (hash : Hash),
      P b.anchor (b.snapshot config breakGlass hash).toAuthState)
    (hstep : ∀ (header : Header) (a a' : AuthState) (n : Nat), P n a → header.number = n + 1 →
      AuthState.applyHeader K config breakGlass a header = .ok a' → P (n + 1) a') :
    P s.number s.toAuthState := by
  obtain ⟨b, hash, headers, hrun⟩ := reachable_iff.mp h
  obtain ⟨hcont, state, hfold, rfl⟩ := apply_ok_iff.mp hrun
  refine foldlM_invariant (P := fun pre a => P (b.anchor + pre.length) a) hfold (hboot b hash) ?_
  intro pre header a a' hpre hP happly
  obtain ⟨post, rfl⟩ := hpre
  have hnum := (contiguous_append.mp hcont).1.number_last
  rw [length_append, length_singleton]
  exact hstep header a a' _ hP hnum happly

end Ferminux.Clique
