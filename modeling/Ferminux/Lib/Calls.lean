import Ferminux.Lib.Except

/-!
# Lib.Calls

**Calls that may revert**, one after the other: a call that fails leaves the state as it was. An
invariant and a relation to the start that every returning call keeps hold of the whole sequence.
-/

namespace Ferminux.Lib

variable {σ ε α κ : Type} {f : κ → StateT σ (Except ε) α} {calls : List κ} {s : σ}

/-- A call; a reverted one changes nothing. -/
def attempt (m : StateT σ (Except ε) α) (s : σ) : σ :=
  match m s with
  | .ok (_, s') => s'
  | .error _ => s

def attempts (f : κ → StateT σ (Except ε) α) (calls : List κ) (s : σ) : σ :=
  calls.foldl (fun s c => attempt (f c) s) s

lemma attempt_of_post {m : StateT σ (Except ε) α} {Q : σ → Prop} (hs : Q s)
    (h : Post m (fun _ => Q) s) : Q (attempt m s) := by
  unfold attempt
  split
  · next a s' hm => exact h a s' hm
  · exact hs

lemma post_ite {p : Prop} [Decidable p] {x y : StateT σ (Except ε) α} {R : α → σ → Prop} :
    Post (if p then x else y) R s ↔ (p → Post x R s) ∧ (¬p → Post y R s) := by
  by_cases hp : p <;> simp [hp]

/-- **The run rule**: what every call keeps, all of them keep. -/
theorem attempts_rel {I : σ → Prop} {R : σ → σ → Prop} (hrefl : ∀ s, R s s)
    (htrans : ∀ {s1 s2 s3}, R s1 s2 → R s2 s3 → R s1 s3)
    (hstep : ∀ c ∈ calls, ∀ s, I s → Post (f c) (fun _ s' => I s' ∧ R s s') s) (hs : I s) :
    I (attempts f calls s) ∧ R s (attempts f calls s) := by
  induction calls generalizing s with
  | nil => exact ⟨hs, hrefl s⟩
  | cons c _ ih =>
    have hc : I (attempt (f c) s) ∧ R s (attempt (f c) s) :=
      attempt_of_post (Q := fun s' => I s' ∧ R s s') ⟨hs, hrefl s⟩ (hstep c List.mem_cons_self s hs)
    have hrest := ih (fun c' hmem => hstep c' (List.mem_cons_of_mem c hmem)) hc.1
    exact ⟨hrest.1, htrans hc.2 hrest.2⟩

lemma attempts_append (calls later : List κ) :
    attempts f (calls ++ later) s = attempts f later (attempts f calls s) :=
  List.foldl_append

end Ferminux.Lib
