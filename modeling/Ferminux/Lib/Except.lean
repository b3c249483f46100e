import Mathlib.Data.List.Induction

/-!
# Lib.Except

Inverting successful runs in `Except`: a bind that returned splits into its two
halves, and a loop that returned splits at any point.
-/

namespace Ferminux.Lib

variable {ε α β : Type} {x : Except ε α} {f : β → α → Except ε β} {b : β} {a : α} {e : ε}

def Returns (x : Except ε α) : Prop := ∃ a, x = .ok a

lemma bind_eq_ok {f : α → Except ε β} : x >>= f = .ok b ↔ ∃ a, x = .ok a ∧ f a = .ok b := by
  cases x with
  | error | ok => simp [bind, Except.bind]

lemma returns_bind {f : α → Except ε β} : Returns (x >>= f) ↔ ∃ a, x = .ok a ∧ Returns (f a) := by
  constructor
  · rintro ⟨b, hb⟩
    obtain ⟨a, ha, hf⟩ := bind_eq_ok.mp hb
    exact ⟨a, ha, b, hf⟩
  · rintro ⟨a, ha, b, hb⟩
    exact ⟨b, bind_eq_ok.mpr ⟨a, ha, hb⟩⟩

@[simp] lemma pure_eq_ok {b : α} : (pure a : Except ε α) = .ok b ↔ a = b := by
  simp [pure, Except.pure]

@[simp] lemma returns_ok : Returns (.ok a : Except ε α) := ⟨a, rfl⟩

@[simp] lemma not_returns_error : ¬ Returns (.error e : Except ε α) := by
  rintro ⟨a, h⟩
  cases h

lemma map_eq_ok {f : α → β} : x.map f = .ok b ↔ ∃ a, x = .ok a ∧ f a = b := by
  cases x <;> simp [Except.map]

def require (p : Prop) [Decidable p] (reason : ε) : Except ε Unit :=
  if p then .ok () else .error reason

@[simp] lemma require_eq_ok {p : Prop} [Decidable p] {reason : ε} {u : Unit} :
    require p reason = .ok u ↔ p := by
  by_cases h : p <;> simp [require, h]

@[simp] lemma forall_unit {R : Unit → Prop} : (∀ u, R u) ↔ R () := ⟨fun h => h (), fun h _ => h⟩

/-- A loop over `l1 ++ l2` that returned went through the state between the two. -/
lemma foldlM_append_eq_ok {l1 l2 : List α} {b' : β} :
    (l1 ++ l2).foldlM f b = .ok b' ↔ ∃ b1, l1.foldlM f b = .ok b1 ∧ l2.foldlM f b1 = .ok b' := by
  rw [List.foldlM_append, bind_eq_ok]

/-- **Invariants of a loop that returned**, indexed by what has been consumed: true
at the start and kept by every turn of the loop, so true at the end. -/
theorem foldlM_invariant {P : List α → β → Prop} {b b' : β}
    {l : List α} (h : l.foldlM f b = .ok b') (h0 : P [] b)
    (hstep : ∀ pre x b1 b2, pre ++ [x] <+: l → P pre b1 → f b1 x = .ok b2 → P (pre ++ [x]) b2) :
    P l b' := by
  induction l using List.reverseRecOn generalizing b' with
  | nil =>
    obtain rfl : b = b' := by simpa using h
    exact h0
  | append_singleton l x ih =>
    obtain ⟨b1, hl, hx⟩ := foldlM_append_eq_ok.mp h
    have hP := ih hl fun pre y b1 b2 hpre =>
      hstep pre y b1 b2 (hpre.trans (List.prefix_append l [x]))
    exact hstep l x b1 b' (List.prefix_rfl) hP (by simpa using hx)

/-! ### Computations on a state -/

variable {σ : Type}

/-- Every way the computation can return from `s` meets `Q`. -/
def Post (m : StateT σ (Except ε) α) (Q : α → σ → Prop) (s : σ) : Prop :=
  ∀ a s', m s = .ok (a, s') → Q a s'

variable {Q Q' : α → σ → Prop} {s : σ} {m : StateT σ (Except ε) α} {f : α → StateT σ (Except ε) β}
  {R : β → σ → Prop}

lemma Post.mono (h : Post m Q s) (hQ : ∀ a s, Q a s → Q' a s) : Post m Q' s :=
  fun a s' hm => hQ a s' (h a s' hm)

@[simp] lemma post_pure : Post (pure a : StateT σ (Except ε) α) Q s ↔ Q a s := by
  constructor
  · intro h
    exact h a s rfl
  · intro h a' s' hm
    cases hm
    exact h

@[simp] lemma post_bind : Post (m >>= f) R s ↔ Post m (fun a s' => Post (f a) R s') s := by
  have hbind (b : β) (s' : σ) : (m >>= f) s = .ok (b, s') ↔
      ∃ p : α × σ, m s = .ok p ∧ f p.1 p.2 = .ok (b, s') := bind_eq_ok
  constructor
  · intro h a s1 hm b s2 hf
    exact h b s2 ((hbind b s2).mpr ⟨(a, s1), hm, hf⟩)
  · intro h b s2 hb
    obtain ⟨⟨a, s1⟩, hm, hf⟩ := (hbind b s2).mp hb
    exact h a s1 hm b s2 hf

@[simp] lemma post_map {f : α → β} : Post (f <$> m) R s ↔ Post m (fun a s' => R (f a) s') s := by
  rw [map_eq_pure_bind, post_bind]
  simp

@[simp] lemma post_throw : Post (throw e : StateT σ (Except ε) α) Q s ↔ True := by
  simp [Post, throw, throwThe, MonadExceptOf.throw, StateT.lift, bind, Except.bind]

@[simp] lemma post_get {R : σ → σ → Prop} : Post (get : StateT σ (Except ε) σ) R s ↔ R s s := by
  simp [Post, get, getThe, MonadStateOf.get, StateT.get, pure, Except.pure]

@[simp] lemma post_modify {f : σ → σ} {R : Unit → σ → Prop} :
    Post (modify f : StateT σ (Except ε) Unit) R s ↔ R () (f s) := by
  constructor
  · intro h
    exact h () (f s) rfl
  · intro h _ _ hm
    cases hm
    exact h

@[simp] lemma post_lift : Post (liftM x : StateT σ (Except ε) α) Q s ↔ ∀ a, x = .ok a → Q a s := by
  cases x with
  | error => simp [Post, liftM, monadLift, MonadLift.monadLift, StateT.lift, bind, Except.bind]
  | ok =>
    simp [Post, liftM, monadLift, MonadLift.monadLift, StateT.lift, bind, Except.bind, pure,
      Except.pure]

@[simp] lemma post_require {p : Prop} [Decidable p] {R : Unit → σ → Prop} :
    Post (liftM (require p e) : StateT σ (Except ε) Unit) R s ↔ (p → R () s) := by
  simp

/-- The rules of the steps that every contract takes. -/
lemma post_steps : (∀ {α β : Type} {m : StateT σ (Except ε) α} {f : α → StateT σ (Except ε) β} {R s},
      Post (m >>= f) R s ↔ Post m (fun a s' => Post (f a) R s') s) ∧
    (∀ {R s}, Post (get : StateT σ (Except ε) σ) R s ↔ R s s) ∧
    (∀ {f R s}, Post (modify f : StateT σ (Except ε) Unit) R s ↔ R () (f s)) ∧
    (∀ {p : Prop} [Decidable p] {e : ε} {R s},
      Post (liftM (require p e) : StateT σ (Except ε) Unit) R s ↔ (p → R () s)) ∧
    ∀ {α : Type} {a : α} {R s}, Post (pure a : StateT σ (Except ε) α) R s ↔ R a s :=
  ⟨post_bind, post_get, post_modify, post_require, post_pure⟩

/-- Every way the computation can fail from `s` meets `E`. -/
def Fails (m : StateT σ (Except ε) α) (E : ε → Prop) (s : σ) : Prop := ∀ e, m s = .error e → E e

variable {E : ε → Prop}

@[simp] lemma fails_pure : Fails (pure a : StateT σ (Except ε) α) E s := by
  intro e h
  cases h

@[simp] lemma fails_bind :
    Fails (m >>= f) E s ↔ Fails m E s ∧ Post m (fun a s' => Fails (f a) E s') s := by
  have hbind : (m >>= f) s = (m s >>= fun r => f r.1 r.2) := rfl
  rw [Fails, hbind]
  cases hm : m s with
  | error => simp [Fails, Post, hm, bind, Except.bind]
  | ok r =>
    obtain ⟨a, s'⟩ := r
    simp [Fails, Post, hm, bind, Except.bind]

@[simp] lemma fails_get : Fails (get : StateT σ (Except ε) σ) E s := by
  intro e h
  cases h

@[simp] lemma fails_modify {f : σ → σ} : Fails (modify f : StateT σ (Except ε) Unit) E s := by
  intro e h
  cases h

@[simp] lemma fails_lift :
    Fails (liftM x : StateT σ (Except ε) α) E s ↔ ∀ e, x = .error e → E e := by
  cases x with
  | error => simp [Fails, liftM, monadLift, MonadLift.monadLift, StateT.lift, bind, Except.bind]
  | ok =>
    simp [Fails, liftM, monadLift, MonadLift.monadLift, StateT.lift, bind, Except.bind, pure,
      Except.pure]

end Ferminux.Lib
