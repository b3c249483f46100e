import Ferminux.Lib.Except
import Mathlib.Logic.Relation

/-!
# Lib.Prog

Programs that own a **store** and hand control to **code they do not trust**.

A program (`Prog`) reads and writes its store `S`, may revert, and makes calls out; a call
`c` comes back with an answer of type `A c` and with whatever store the callee left, since
the callee may have called back in the meantime. What callees do is a parameter
(`Callee`): which answers and worlds a call can come back with, and at which worlds the
callee has control in between.

- `Prog.Wp` is the weakest precondition for a postcondition *and* for an invariant that
  has to hold whenever control is handed out.
- `Host` closes the loop: outsiders act on their own and call the program's entry points,
  nested to any depth. `Host.Sound` is the rely-guarantee rule for them: an invariant and
  a guarantee that every entry point keeps, **assuming** that the outsiders it calls keep
  them, hold of every activity of any depth and at every moment.
-/

namespace Ferminux.Lib

/-- What a program does from a given store on: it ends, reverts, or commits a store and
calls out. -/
inductive Script (S : Type) {C : Type} (A : C → Type) (α : Type) where
  | done (a : α) (s : S)
  | revert (reason : String)
  | call (s : S) (c : C) (k : A c → S → Script S A α)

/-- A program with store `S` and calls `c : C` answered by an `A c`. -/
def Prog (S : Type) {C : Type} (A : C → Type) (α : Type) := S → Script S A α

/-- The program's store, and everything else. -/
structure World (S E : Type) where
  store : S
  env : E

variable {S E C : Type} {A : C → Type} {α β : Type}

namespace Script

def bind : Script S A α → (α → Prog S A β) → Script S A β
  | .done a s, f => f a s
  | .revert reason, _ => .revert reason
  | .call s c k, f => .call s c fun ans s' => (k ans s').bind f

end Script

namespace Prog

instance : Monad (Prog S A) where
  pure a := fun s => .done a s
  bind p f := fun s => (p s).bind f

def get : Prog S A S := fun s => .done s s

def modify (f : S → S) : Prog S A Unit := fun s => .done () (f s)

/-- Give up: the whole execution is undone. -/
def revert (reason : String) : Prog S A α := fun _ => .revert reason

def call (c : C) : Prog S A (A c) := fun s => .call s c fun ans s' => .done ans s'

/-- A computation that may fail, its error the reason of the revert. -/
def lift : Except String α → Prog S A α
  | .ok a => pure a
  | .error reason => revert reason

instance : MonadLift (Except String) (Prog S A) := ⟨lift⟩

/-- A computation on a part of the store that makes no call. -/
def embed {σ : Type} (read : S → σ) (write : S → σ → S) (m : StateT σ (Except String) α) :
    Prog S A α := fun s =>
  match m (read s) with
  | .ok (a, x) => .done a (write s x)
  | .error reason => .revert reason

end Prog

/-! ### Executions -/

/-- How the code a program calls behaves. -/
structure Callee (S E : Type) {C : Type} (A : C → Type) where
  /-- The answers and the worlds a call made in a world can come back with. -/
  answers : (c : C) → World S E → A c → World S E → Prop
  /-- The worlds at which the callee takes over control during the call. -/
  yields : C → World S E → World S E → Prop

/-- The callees of `X` can do nothing that those of `Y` cannot. -/
structure Callee.Le (X Y : Callee S E A) : Prop where
  answers : ∀ {c w ans w'}, X.answers c w ans w' → Y.answers c w ans w'
  yields : ∀ {c w w'}, X.yields c w w' → Y.yields c w w'

variable {t : Script S A α} {w' : World S E} {e : E} {reply : (c : C) → World S E → A c × World S E}
  {a : α}

namespace Script

def Exec (X : Callee S E A) : Script S A α → E → α → World S E → Prop
  | .done a s, e, b, w' => b = a ∧ w' = ⟨s, e⟩
  | .revert _, _, _, _ => False
  | .call s c k, e, b, w' =>
    ∃ ans w₁, X.answers c ⟨s, e⟩ ans w₁ ∧ (k ans w₁.store).Exec X w₁.env b w'

/-- The worlds at which a callee takes over, whether or not the execution ends. -/
def Reaches (X : Callee S E A) : Script S A α → E → World S E → Prop
  | .done _ _, _, _ => False
  | .revert _, _, _ => False
  | .call s c k, e, w' =>
    X.yields c ⟨s, e⟩ w' ∨
      ∃ ans w₁, X.answers c ⟨s, e⟩ ans w₁ ∧ (k ans w₁.store).Reaches X w₁.env w'

/-- Every execution that ends meets `Q`, and `J` holds whenever control is handed out. -/
def Wp (X : Callee S E A) (J : World S E → Prop) :
    Script S A α → E → (α → World S E → Prop) → Prop
  | .done a s, e, Q => Q a ⟨s, e⟩
  | .revert _, _, _ => True
  | .call s c k, e, Q =>
    (∀ w', X.yields c ⟨s, e⟩ w' → J w') ∧
      ∀ ans w₁, X.answers c ⟨s, e⟩ ans w₁ → (k ans w₁.store).Wp X J w₁.env Q

/-- Run against callees that are a function. -/
def play (reply : (c : C) → World S E → A c × World S E) :
    Script S A α → E → Option (α × World S E)
  | .done a s, e => some (a, ⟨s, e⟩)
  | .revert _, _ => none
  | .call s c k, e =>
    (k (reply c ⟨s, e⟩).1 (reply c ⟨s, e⟩).2.store).play reply (reply c ⟨s, e⟩).2.env

variable {X Y : Callee S E A} {J : World S E → Prop} {Q Q' : α → World S E → Prop}

lemma exec_of_play (hreply : ∀ c w, X.answers c w (reply c w).1 (reply c w).2)
    (h : t.play reply e = some (a, w')) : t.Exec X e a w' := by
  induction t generalizing e with
  | done =>
    cases h
    exact ⟨rfl, rfl⟩
  | revert => cases h
  | call s c _ ih => exact ⟨_, _, hreply c ⟨s, e⟩, ih _ _ h⟩

lemma Exec.mono (hXY : X.Le Y) (h : t.Exec X e a w') : t.Exec Y e a w' := by
  induction t generalizing e with
  | done | revert => exact h
  | call _ _ _ ih =>
    obtain ⟨ans, w₁, hans, hk⟩ := h
    exact ⟨ans, w₁, hXY.answers hans, ih ans w₁.store hk⟩

lemma Reaches.mono (hXY : X.Le Y) (h : t.Reaches X e w') : t.Reaches Y e w' := by
  induction t generalizing e with
  | done | revert => exact h
  | call _ _ _ ih =>
    rcases h with hy | ⟨ans, w₁, hans, hk⟩
    · exact .inl (hXY.yields hy)
    · exact .inr ⟨ans, w₁, hXY.answers hans, ih ans w₁.store hk⟩

lemma Wp.exec (hwp : t.Wp X J e Q) (h : t.Exec X e a w') : Q a w' := by
  induction t generalizing e with
  | done =>
    obtain ⟨rfl, rfl⟩ := h
    exact hwp
  | revert => exact h.elim
  | call _ _ _ ih =>
    obtain ⟨ans, w₁, hans, hk⟩ := h
    exact ih ans w₁.store (hwp.2 ans w₁ hans) hk

lemma Wp.reaches (hwp : t.Wp X J e Q) (h : t.Reaches X e w') : J w' := by
  induction t generalizing e with
  | done | revert => exact h.elim
  | call _ _ _ ih =>
    rcases h with hy | ⟨ans, w₁, hans, hk⟩
    · exact hwp.1 w' hy
    · exact ih ans w₁.store (hwp.2 ans w₁ hans) hk

lemma Wp.mono (hQ : ∀ a w, Q a w → Q' a w) (h : t.Wp X J e Q) : t.Wp X J e Q' := by
  induction t generalizing e with
  | done b => exact hQ b _ h
  | revert => exact h
  | call _ _ _ ih => exact ⟨h.1, fun ans w₁ hans => ih ans w₁.store (h.2 ans w₁ hans)⟩

lemma wp_true (t : Script S A α) (e : E) : t.Wp X (fun _ => True) e fun _ _ => True := by
  induction t generalizing e with
  | done | revert => trivial
  | call _ _ _ ih => exact ⟨fun _ _ => trivial, fun ans w₁ _ => ih ans w₁.store w₁.env⟩

lemma wp_bind {f : α → Prog S A β} {R : β → World S E → Prop} :
    (t.bind f).Wp X J e R ↔ t.Wp X J e fun a w => (f a w.store).Wp X J w.env R := by
  induction t generalizing e with
  | done | revert => exact Iff.rfl
  | call _ _ _ ih =>
    exact and_congr Iff.rfl
      (forall_congr' fun ans => forall_congr' fun w₁ => imp_congr_right fun _ => ih ans w₁.store)

end Script

namespace Prog

variable (X Y : Callee S E A) (J : World S E → Prop)

def Exec (p : Prog S A α) (w : World S E) (a : α) (w' : World S E) : Prop :=
  (p w.store).Exec X w.env a w'

def Reaches (p : Prog S A α) (w w' : World S E) : Prop := (p w.store).Reaches X w.env w'

def Wp (p : Prog S A α) (Q : α → World S E → Prop) (w : World S E) : Prop :=
  (p w.store).Wp X J w.env Q

variable {X Y J} {Q Q' : α → World S E → Prop} {w : World S E} {p : Prog S A α}
  {x : Except String α}

/-- Run a program against callees that are a function. -/
def play (reply : (c : C) → World S E → A c × World S E) (p : Prog S A α) (w : World S E) :
    Option (α × World S E) := (p w.store).play reply w.env

lemma exec_of_play (hreply : ∀ c w, X.answers c w (reply c w).1 (reply c w).2)
    (h : p.play reply w = some (a, w')) : p.Exec X w a w' :=
  Script.exec_of_play hreply h

/-! ### Rules for the weakest precondition -/

lemma Wp.mono (h : p.Wp X J Q w) (hQ : ∀ a w, Q a w → Q' a w) : p.Wp X J Q' w :=
  Script.Wp.mono hQ h

lemma wp_true (p : Prog S A α) : p.Wp X (fun _ => True) (fun _ _ => True) w := Script.wp_true _ _

@[simp] lemma wp_pure : (pure a : Prog S A α).Wp X J Q w ↔ Q a w := Iff.rfl

@[simp] lemma wp_bind {f : α → Prog S A β} {R : β → World S E → Prop} :
    (p >>= f).Wp X J R w ↔ p.Wp X J (fun a w' => (f a).Wp X J R w') w :=
  Script.wp_bind

@[simp] lemma wp_get {R : S → World S E → Prop} :
    (get : Prog S A S).Wp X J R w ↔ R w.store w := Iff.rfl

@[simp] lemma wp_modify {f : S → S} {R : Unit → World S E → Prop} :
    (modify f : Prog S A Unit).Wp X J R w ↔ R () ⟨f w.store, w.env⟩ := Iff.rfl

@[simp] lemma wp_revert {reason : String} : (revert reason : Prog S A α).Wp X J Q w ↔ True :=
  Iff.rfl

@[simp] lemma wp_call {c : C} {R : A c → World S E → Prop} :
    (call c : Prog S A (A c)).Wp X J R w ↔
      (∀ w', X.yields c w w' → J w') ∧ ∀ ans w', X.answers c w ans w' → R ans w' := Iff.rfl

@[simp] lemma liftM_eq_lift : (liftM x : Prog S A α) = lift x := rfl

@[simp] lemma wp_lift : (lift x : Prog S A α).Wp X J Q w ↔ ∀ a, x = .ok a → Q a w := by
  cases x <;> simp [lift]

@[simp] lemma wp_embed {σ : Type} {read : S → σ} {write : S → σ → S}
    {m : StateT σ (Except String) α} : (embed read write m : Prog S A α).Wp X J Q w ↔
      Post m (fun a x => Q a ⟨write w.store x, w.env⟩) (read w.store) := by
  unfold Wp embed Post
  cases hm : m (read w.store) with
  | error => simp [Script.Wp]
  | ok r =>
    obtain ⟨a, x⟩ := r
    simp [Script.Wp]

@[simp] lemma wp_ite {p : Prop} [Decidable p] {x y : Prog S A α} :
    (if p then x else y).Wp X J Q w ↔ (p → x.Wp X J Q w) ∧ (¬ p → y.Wp X J Q w) := by
  by_cases h : p <;> simp [h]

end Prog

/-! ### Outsiders that call back -/

/-- Where a program lives. -/
structure Host (S E : Type) {C : Type} (A : C → Type) where
  /-- What outsiders can do on their own in one step. -/
  foreign : World S E → World S E → Prop
  /-- How calls behave when the code that runs during them acts by a given relation. -/
  callee : (World S E → World S E → Prop) → Callee S E A
  callee_mono : ∀ {r r' : World S E → World S E → Prop},
    (∀ w w', r w w' → r' w w') → (callee r).Le (callee r')
  /-- The programs outsiders can call in a world, and the world such a call starts in. -/
  entry : World S E → Prog S A Unit → World S E → Prop

namespace Host

open Relation

variable (h : Host S E A)

/-- What outsiders can do in any number of steps, with calls into the program nested at
most `n` deep. Reverted calls change nothing and are left out. -/
def activity : Nat → World S E → World S E → Prop
  | 0 => ReflTransGen h.foreign
  | n + 1 => ReflTransGen fun w w' => h.foreign w w' ∨
      ∃ p w₀, h.entry w p w₀ ∧ p.Exec (h.callee (activity n)) w₀ () w'

/-- What outsiders can do, with calls into the program nested to any depth. -/
def Outside (w w' : World S E) : Prop := ∃ n, h.activity n w w'

/-- The callees of a program whose outsiders call back. -/
def reentrant : Callee S E A := h.callee h.Outside

/-- **The worlds in which somebody else has control**: at the start, after every step of
the outsiders, whenever a call returns, and whenever one hands control out, nested to
any depth. -/
inductive Moment (start : World S E → Prop) : World S E → Prop
  | start {w : World S E} (hw : start w) : Moment start w
  | foreign {w w' : World S E} (hw : Moment start w) (hstep : h.foreign w w') : Moment start w'
  | returned {w w₀ w' : World S E} {p : Prog S A Unit} (hw : Moment start w)
      (hentry : h.entry w p w₀) (hexec : p.Exec h.reentrant w₀ () w') : Moment start w'
  | handed {w w₀ w' : World S E} {p : Prog S A Unit} (hw : Moment start w)
      (hentry : h.entry w p w₀) (hreach : p.Reaches h.reentrant w₀ w') : Moment start w'

/-- An invariant and a guarantee, as a relation on worlds. -/
def Keeps (Inv : World S E → Prop) (G : World S E → World S E → Prop)
    (w w' : World S E) : Prop := Inv w → Inv w' ∧ G w w'

/-- **The rely-guarantee rule**: outsiders on their own keep the invariant and the
guarantee, and so does every entry point if the code it calls does. -/
structure Sound (Inv : World S E → Prop) (G : World S E → World S E → Prop) : Prop where
  refl : ∀ w, G w w
  trans : ∀ {w₁ w₂ w₃}, G w₁ w₂ → G w₂ w₃ → G w₁ w₃
  foreign : ∀ {w w'}, h.foreign w w' → Keeps Inv G w w'
  entry : ∀ {w p w₀}, Inv w → h.entry w p w₀ →
    p.Wp (h.callee (Keeps Inv G)) Inv (fun _ w' => Inv w' ∧ G w w') w₀

namespace Sound

variable {h} {Inv : World S E → Prop} {G : World S E → World S E → Prop}

variable (hs : h.Sound Inv G)
include hs

lemma reflTransGen {r : World S E → World S E → Prop}
    (hr : ∀ w w', r w w' → Keeps Inv G w w') {w : World S E} (hrun : ReflTransGen r w w') :
    Keeps Inv G w w' := by
  intro hinv
  induction hrun with
  | refl => exact ⟨hinv, hs.refl w⟩
  | tail _ hstep ih =>
    obtain ⟨hinv', hG⟩ := hr _ _ hstep ih.1
    exact ⟨hinv', hs.trans ih.2 hG⟩

lemma activity (n : Nat) : ∀ w w', h.activity n w w' → Keeps Inv G w w' := by
  induction n with
  | zero => exact fun w w' => hs.reflTransGen fun _ _ => hs.foreign
  | succ _ ih =>
    refine fun w w' => hs.reflTransGen fun w₁ w₂ hstep => ?_
    rcases hstep with hforeign | ⟨p, w₀, hentry, hexec⟩
    · exact hs.foreign hforeign
    -- by the induction hypothesis the code that runs during the call keeps `G`
    · intro hinv
      exact (hs.entry hinv hentry).exec (hexec.mono (h.callee_mono ih))

lemma outside {w : World S E} (hw : h.Outside w w') : Keeps Inv G w w' := by
  obtain ⟨n, hn⟩ := hw
  exact hs.activity n w w' hn

lemma reentrant_le : h.reentrant.Le (h.callee (Keeps Inv G)) :=
  h.callee_mono fun _ _ => hs.outside

lemma moment {start : World S E → Prop} (hstart : ∀ w, start w → Inv w)
    {w : World S E} (hw : h.Moment start w) : Inv w := by
  induction hw with
  | start hw => exact hstart _ hw
  | foreign _ hstep ih => exact (hs.foreign hstep ih).1
  | returned _ hentry hexec ih => exact ((hs.entry ih hentry).exec (hexec.mono hs.reentrant_le)).1
  | handed _ hentry hreach ih => exact (hs.entry ih hentry).reaches (hreach.mono hs.reentrant_le)

end Sound

end Host

end Ferminux.Lib
