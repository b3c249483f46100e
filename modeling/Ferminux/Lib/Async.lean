import Ferminux.Lib.Except

/-!
# Lib.Async

Programs of a **single-threaded event loop**: several tasks share one world, only one of
them runs at a time, and another one can take over only where the running task waits.

A `Task` returns, throws, or performs an effect and goes on with its answer, which may
itself be an exception. What effects do to the world is a parameter (`Runtime.act`), and so
are which of them the event loop waits for (`Runtime.awaits`), what happens in the world by
itself (`Runtime.drift`) and what a crash leaves of it (`Runtime.reboot`). Every choice the
outside makes is an argument of these functions, so runs can be computed.

- `Runtime.Safe` is the weakest precondition for a postcondition *and* for an invariant
  after every effect, under the **interference** of the other tasks where a task waits.
- `Runtime.Sound` is the rely-guarantee rule: if every task is safe against what the other
  tasks guarantee, the invariant holds in every configuration that is reached.
-/

namespace Ferminux.Lib

open Function Option

/-- What an asynchronous function does. -/
inductive Task {C : Type} (A : C → Type) (α : Type) where
  | done (a : α)
  | fail (reason : String)
  | perform (c : C) (k : Except String (A c) → Task A α)

namespace Task

variable {C : Type} {A : C → Type} {α β : Type} {t : Task A α} {handler : String → Task A α}

def bind : Task A α → (α → Task A β) → Task A β
  | .done a, f => f a
  | .fail reason, _ => .fail reason
  | .perform c k, f => .perform c fun r => (k r).bind f

/-- Run the handler if the task throws. -/
def catching : Task A α → (String → Task A α) → Task A α
  | .done a, _ => .done a
  | .fail reason, handler => handler reason
  | .perform c k, handler => .perform c fun r => (k r).catching handler

instance : Monad (Task A) where
  pure := .done
  bind := Task.bind

instance : MonadExceptOf String (Task A) where
  throw := .fail
  tryCatch := catching

/-- A computation that may throw. -/
def lift : Except String α → Task A α
  | .ok a => .done a
  | .error reason => .fail reason

/-- Perform an effect; its exception is thrown. -/
def call (c : C) : Task A (A c) := .perform c lift

instance : MonadLift (Except String) (Task A) := ⟨lift⟩

/-- What a task returns, or nothing if it throws. -/
def attempt (t : Task A α) : Task A (Option α) :=
  (t.bind fun a => .done (some a)).catching fun _ => .done none

def each (l : List β) (body : β → Task A Unit) : Task A Unit :=
  match l with
  | [] => .done ()
  | b :: rest => (body b).bind fun _ => each rest body

/-- Every value the task can return has a property. -/
def Yields (P : α → Prop) : Task A α → Prop
  | .done a => P a
  | .fail _ => True
  | .perform _ k => ∀ r, (k r).Yields P

section Yields

variable {P : α → Prop} {P' : β → Prop}

lemma Yields.bind {f : α → Task A β} (ht : t.Yields P)
    (hf : ∀ a, P a → (f a).Yields P') : (t >>= f).Yields P' := by
  induction t with
  | done a => exact hf a ht
  | fail => trivial
  | perform _ _ ih => exact fun r => ih r (ht r)

lemma Yields.catching (ht : t.Yields P)
    (hhandler : ∀ reason, (handler reason).Yields P) : (t.catching handler).Yields P := by
  induction t with
  | done => exact ht
  | fail reason => exact hhandler reason
  | perform _ _ ih => exact fun r => ih r (ht r)

lemma Yields.mono {Q : α → Prop} (ht : t.Yields P) (h : ∀ a, P a → Q a) : t.Yields Q := by
  induction t with
  | done a => exact h a ht
  | fail => trivial
  | perform _ _ ih => exact fun r => ih r (ht r)

lemma yields_true : t.Yields fun _ => True := by
  induction t with
  | done | fail => trivial
  | perform _ _ ih => exact ih

lemma Yields.bind_congr {f g : α → Task A β} (ht : t.Yields P)
    (h : ∀ a, P a → f a = g a) : t >>= f = t >>= g := by
  induction t with
  | done a => exact h a ht
  | fail => rfl
  | perform c _ ih => exact congrArg (Task.perform c) (funext fun r => ih r (ht r))

end Yields

/-- The task performs only effects of a kind. -/
def Uses (q : C → Prop) : Task A α → Prop
  | .perform c k => q c ∧ ∀ r, (k r).Uses q
  | _ => True

variable {q : C → Prop} {q' : C → Prop}

@[simp] lemma uses_pure {a : α} : (pure a : Task A α).Uses q := trivial

@[simp] lemma uses_throw {reason : String} : (throw reason : Task A α).Uses q := trivial

@[simp] lemma uses_lift {x : Except String α} : (lift x : Task A α).Uses q := by
  cases x <;> trivial

@[simp] lemma uses_call {c : C} : (call c : Task A (A c)).Uses q ↔ q c :=
  ⟨fun h => h.1, fun h => ⟨h, fun _ => uses_lift⟩⟩

lemma Uses.one {c : C} (hc : q c) : (call c : Task A (A c)).Uses q := uses_call.mpr hc

lemma Uses.mono (ht : t.Uses q) (h : ∀ c, q c → q' c) : t.Uses q' := by
  induction t with
  | done | fail => trivial
  | perform c _ ih => exact ⟨h c ht.1, fun r => ih r (ht.2 r)⟩

/-- A kind of effects is part of another, which is seen effect by effect. -/
class Within (q q' : C → Prop) : Prop where
  of : ∀ c, q c → q' c := by
    intro c hc
    cases c <;> first
      | exact hc.elim
      | trivial
      | next arg => cases arg <;> first | exact hc.elim | trivial

lemma Uses.within [h : Within q q'] (ht : t.Uses q) : t.Uses q' :=
  ht.mono h.of

lemma Uses.bind {f : α → Task A β} (ht : t.Uses q) (hf : ∀ a, (f a).Uses q) : (t >>= f).Uses q := by
  induction t with
  | done a => exact hf a
  | fail => trivial
  | perform _ _ ih => exact ⟨ht.1, fun r => ih r (ht.2 r)⟩

/-- One effect of the kind, and what follows it. -/
lemma Uses.next {c : C} {f : A c → Task A β} (hc : q c) (hf : ∀ a, (f a).Uses q) :
    (call c >>= f).Uses q :=
  Uses.bind (uses_call.mpr hc) hf

lemma Uses.catching (ht : t.Uses q)
    (hhandler : ∀ reason, (handler reason).Uses q) : (t.catching handler).Uses q := by
  induction t with
  | done => trivial
  | fail reason => exact hhandler reason
  | perform _ _ ih => exact ⟨ht.1, fun r => ih r (ht.2 r)⟩

lemma Uses.attempt (ht : t.Uses q) : t.attempt.Uses q :=
  Uses.catching (ht.bind fun _ => trivial) fun _ => trivial

lemma Uses.each {l : List β} {body : β → Task A Unit} (h : ∀ b ∈ l, (body b).Uses q) :
    (each l body).Uses q := by
  induction l with
  | nil => trivial
  | cons b _ ih =>
    exact (h b List.mem_cons_self).bind fun _ => ih fun b' hb' => h b' (List.mem_cons_of_mem b hb')

lemma Uses.ite {p : Prop} [Decidable p] {x y : Task A α} (hx : x.Uses q) (hy : y.Uses q) :
    (if p then x else y).Uses q := by
  split
  · exact hx
  · exact hy

end Task

/-- The event loop of a program with threads `ι`, jobs `J` they can be given, effects
`c : C` with answers in `A c`, worlds `W`, and choices `O` of the outside. -/
structure Runtime (ι J : Type) {C : Type} (A : C → Type) (W O : Type) where
  /-- The answer to an effect and the world it leaves, if it can be as the outside chose. -/
  act : W → (c : C) → O → Option (Except String (A c) × W)
  /-- Other threads can take over before the answer to the effect. -/
  awaits : C → Bool
  /-- What happens while no thread runs. -/
  drift : W → O → Option W
  /-- What a crash leaves. -/
  reboot : W → W
  /-- The task of a thread that is given a job. -/
  task : ι → J → Task A Unit

namespace Runtime

variable {ι J : Type} {C : Type} {A : C → Type} {W O : Type} {start : W}

/-- The world, the tasks of the threads that are not idle, and the thread that runs. -/
structure Config (ι : Type) {C : Type} (A : C → Type) (W : Type) where
  world : W
  threads : ι → Option (Task A Unit) := fun _ => none
  running : Option ι := none

/-- A task starts or goes on, the surroundings move, or the process crashes. -/
inductive Move (ι J O : Type) where
  | start (i : ι) (j : J)
  | go (i : ι) (o : O)
  | drift (o : O)
  | crash

section Safety

/-! ### Rely and guarantee -/

/-- What a proof about a program is relative to: a condition on the choices of the
outside, an invariant of the world, and for every thread what it relies on the others for
and what it guarantees them. -/
structure Discipline (ι C W O : Type) where
  ok : W → C → O → Prop
  Inv : W → Prop
  rely : ι → W → W → Prop
  guar : ι → W → W → Prop

variable (R : Runtime ι J A W O) (D : Discipline ι C W O) {α β : Type}

/-- The worlds an effect can be performed in when thread `i` reached it in `w`. -/
def Meets (i : ι) (e : C) (w w₁ : W) : Prop :=
  if R.awaits e then D.rely i w w₁ ∧ D.Inv w₁ else w₁ = w

/-- Every way the task can end meets `Q`, and every effect keeps the invariant and the
guarantee of the thread. -/
def Safe (i : ι) : Task A α → (Except String α → W → Prop) → W → Prop
  | .done a, Q, w => Q (.ok a) w
  | .fail reason, Q, w => Q (.error reason) w
  | .perform e k, Q, w =>
    ∀ w₁, R.Meets D i e w w₁ → ∀ o r w', D.ok w₁ e o → R.act w₁ e o = some (r, w') →
      D.Inv w' ∧ D.guar i w₁ w' ∧ Safe i (k r) Q w'

variable {R D} {i : ι} {w : W} {Q Q' : Except String α → W → Prop} {t : Task A α} {f : α → Task A β}

lemma Safe.mono (h : R.Safe D i t Q w) (hQ : ∀ r w, Q r w → Q' r w) : R.Safe D i t Q' w := by
  induction t generalizing w with
  | done | fail => exact hQ _ _ h
  | perform _ _ ih =>
    intro w₁ hw1 o r w' hok hact
    obtain ⟨hinv, hguar, hk⟩ := h w₁ hw1 o r w' hok hact
    exact ⟨hinv, hguar, ih r hk⟩

/-- What has to hold behind the first part of a sequence. -/
def Next (R : Runtime ι J A W O) (D : Discipline ι C W O) (i : ι) (f : α → Task A β)
    (Q : Except String β → W → Prop) : Except String α → W → Prop
  | .ok a, w => R.Safe D i (f a) Q w
  | .error reason, w => Q (.error reason) w

variable {Q' : Except String β → W → Prop} {handler : String → Task A α} {p : Prop} {x y : Task A α}

@[simp] lemma next_ok {Q : Except String β → W → Prop} {a : α} :
    Next R D i f Q (.ok a) w ↔ R.Safe D i (f a) Q w := Iff.rfl

@[simp] lemma safe_bind {Q : Except String β → W → Prop} :
    R.Safe D i (t >>= f) Q w ↔ R.Safe D i t (Next R D i f Q) w := by
  induction t generalizing w with
  | done | fail => exact Iff.rfl
  | perform _ _ ih =>
    exact forall_congr' fun w₁ => imp_congr_right fun _ => forall_congr' fun o =>
      forall_congr' fun r => forall_congr' fun w' => imp_congr_right fun _ =>
        imp_congr_right fun _ => and_congr_right fun _ => and_congr_right fun _ => ih r

/-- **Sequencing**: what the first part establishes is where the rest starts. -/
theorem Safe.bind (h : R.Safe D i t Q w) (hf : ∀ r w, Q r w → Next R D i f Q' r w) :
    R.Safe D i (t >>= f) Q' w :=
  safe_bind.mpr (h.mono hf)

/-- Sequencing, when a failure of the first part is one of the whole. -/
lemma Safe.bind_ok
    (h : R.Safe D i t Q w) (herror : ∀ reason w, Q (.error reason) w → Q' (.error reason) w)
    (hok : ∀ a w, Q (.ok a) w → R.Safe D i (f a) Q' w) : R.Safe D i (t >>= f) Q' w := by
  refine h.bind fun r w hr => ?_
  cases r with
  | error reason => exact herror reason w hr
  | ok a => exact hok a w hr

/-- What has to hold behind the body of a `try`. -/
def Handled (R : Runtime ι J A W O) (D : Discipline ι C W O) (i : ι)
    (handler : String → Task A α) (Q : Except String α → W → Prop) : Except String α → W → Prop
  | .ok a, w => Q (.ok a) w
  | .error reason, w => R.Safe D i (handler reason) Q w

@[simp] lemma safe_catching :
    R.Safe D i (t.catching handler) Q w ↔ R.Safe D i t (Handled R D i handler Q) w := by
  induction t generalizing w with
  | done | fail => exact Iff.rfl
  | perform _ _ ih =>
    exact forall_congr' fun w₁ => imp_congr_right fun _ => forall_congr' fun o =>
      forall_congr' fun r => forall_congr' fun w' => imp_congr_right fun _ =>
        imp_congr_right fun _ => and_congr_right fun _ => and_congr_right fun _ => ih r

@[simp] lemma safe_tryCatch :
    R.Safe D i (tryCatch t handler) Q w ↔ R.Safe D i t (Handled R D i handler Q) w :=
  safe_catching

@[simp] lemma safe_attempt {Q : Except String (Option α) → W → Prop} :
    R.Safe D i t.attempt Q w ↔ R.Safe D i t (fun r w' => Q (.ok r.toOption) w') w := by
  have hattempt : t.attempt =
      tryCatch (t >>= fun a => pure (some a)) fun _ => (pure none : Task A (Option α)) := rfl
  rw [hattempt, safe_tryCatch, safe_bind]
  constructor <;> intro h <;> refine h.mono fun r w' hr => ?_ <;> cases r <;> exact hr

@[simp] lemma safe_lift {x : Except String α} : R.Safe D i (Task.lift x) Q w ↔ Q x w := by
  cases x <;> exact Iff.rfl

lemma safe_call {e : C} {Q : Except String (A e) → W → Prop} : R.Safe D i (Task.call e) Q w ↔
      ∀ w₁, R.Meets D i e w w₁ → ∀ o r w', D.ok w₁ e o → R.act w₁ e o = some (r, w') →
        D.Inv w' ∧ D.guar i w₁ w' ∧ Q r w' :=
  forall_congr' fun _ => imp_congr_right fun _ => forall_congr' fun _ => forall_congr' fun _ =>
    forall_congr' fun _ => imp_congr_right fun _ => imp_congr_right fun _ =>
      and_congr_right fun _ => and_congr_right fun _ => safe_lift

@[simp] lemma safe_ite [Decidable p] :
    R.Safe D i (if p then x else y) Q w ↔ (p → R.Safe D i x Q w) ∧ (¬ p → R.Safe D i y Q w) := by
  by_cases h : p <;> simp [h]

/-- An early return. -/
lemma safe_guard [Decidable p] (hx : R.Safe D i x Q w)
    (hy : ¬ p → R.Safe D i y Q w) : R.Safe D i (if p then x else y) Q w :=
  safe_ite.mpr ⟨fun _ => hx, hy⟩

/-- **Loops**: an invariant that every turn keeps, which may end by an exception. -/
theorem safe_each {l : List β} {body : β → Task A Unit} {P : List β → W → Prop}
    {Q : Except String Unit → W → Prop} (hstart : P l w)
    (hturn : ∀ b rest w, P (b :: rest) w → R.Safe D i (body b) (fun r w' => match r with
        | .ok _ => P rest w'
        | .error reason => Q (.error reason) w') w)
    (hend : ∀ w, P [] w → Q (.ok ()) w) : R.Safe D i (Task.each l body) Q w := by
  induction l generalizing w with
  | nil => exact hend w hstart
  | cons b rest ih =>
    have hbind : R.Safe D i (body b >>= fun _ => Task.each rest body) Q w := by
      refine safe_bind.mpr ((hturn b rest w hstart).mono fun r w' hr => ?_)
      cases r with
      | ok => exact ih hr
      | error => exact hr
    exact hbind

lemma Safe.yields {P : α → Prop} (h : R.Safe D i t Q w) (ht : t.Yields P) :
    R.Safe D i t (fun r w' => Q r w' ∧ ∀ a, r = .ok a → P a) w := by
  induction t generalizing w with
  | done =>
    refine ⟨h, fun a' ha' => ?_⟩
    cases ha'
    exact ht
  | fail => exact ⟨h, nofun⟩
  | perform _ _ ih =>
    intro w₁ hw1 o r w' hok hact
    obtain ⟨hinv, hguar, hk⟩ := h w₁ hw1 o r w' hok hact
    exact ⟨hinv, hguar, ih r hk (ht r)⟩

/-- Relying on the others is a preorder. -/
structure Relies (D : Discipline ι C W O) : Prop where
  refl : ∀ i w, D.rely i w w
  trans : ∀ {i w₁ w₂ w₃}, D.rely i w₁ w₂ → D.rely i w₂ w₃ → D.rely i w₁ w₃

/-- **One effect**: where it is performed, and what it may have waited for. -/
theorem safe_call_from (hD : Relies D) (hinv : D.Inv w) {e : C} {Q : Except String (A e) → W → Prop}
    (h : ∀ w₁ o r w', D.rely i w w₁ → (R.awaits e = false → w₁ = w) → D.Inv w₁ → D.ok w₁ e o →
      R.act w₁ e o = some (r, w') → D.Inv w' ∧ D.guar i w₁ w' ∧ Q r w') :
    R.Safe D i (Task.call e) Q w := by
  refine safe_call.mpr fun w₁ hw1 o r w' hok hact => ?_
  unfold Meets at hw1
  split at hw1
  · next hawaits =>
    exact h w₁ o r w' hw1.1 (fun hnot => absurd hawaits (by simp [hnot])) hw1.2 hok hact
  · subst hw1
    exact h w₁ o r w' (hD.refl i w₁) (fun _ => rfl) hinv hok hact

/-- **Parts under a local assertion**: a task whose effects keep an assertion that survives
interference. -/
theorem Safe.of_uses_within (hD : Relies D) {q : C → Prop} {L : W → Prop}
    (hL : ∀ {w w'}, L w → D.rely i w w' → D.Inv w' → L w')
    (hq : ∀ {e w o r w'}, q e → D.Inv w → L w → D.ok w e o → R.act w e o = some (r, w') →
      D.Inv w' ∧ D.guar i w w' ∧ L w') (ht : t.Uses q) (hinv : D.Inv w) (h : L w) :
    R.Safe D i t (fun _ w' => L w' ∧ D.Inv w') w := by
  induction t generalizing w with
  | done | fail => exact ⟨h, hinv⟩
  | perform _ _ ih =>
    intro w₁ hw1 o r w' hok hact
    -- both when the task waited and when it did not, it relied on the way to `w₁`
    have hstart : D.rely i w w₁ ∧ D.Inv w₁ := by
      unfold Meets at hw1
      split at hw1
      · exact hw1
      · rw [hw1]
        exact ⟨hD.refl i w, hinv⟩
    obtain ⟨hinv', hguar, h'⟩ := hq ht.1 hstart.2 (hL h hstart.1 hstart.2) hok hact
    exact ⟨hinv', hguar, ih r (ht.2 r) hinv' h'⟩

/-- **Quiet parts**: a task whose effects change nothing that others could not have changed
leaves what holds under interference. -/
theorem Safe.of_uses (hD : Relies D) {q : C → Prop}
    (hq : ∀ {e w o r w'}, q e → D.Inv w → D.ok w e o → R.act w e o = some (r, w') →
      D.Inv w' ∧ D.guar i w w' ∧ D.rely i w w') (ht : t.Uses q) (hinv : D.Inv w) :
    R.Safe D i t (fun _ w' => D.rely i w w' ∧ D.Inv w') w := by
  refine Safe.of_uses_within hD (fun h hrely _ => hD.trans h hrely) ?_ ht hinv (hD.refl i w)
  intro e w₁ o r w' he hw1 h hok hact
  obtain ⟨hinv', hguar, hrely⟩ := hq he hw1 hok hact
  exact ⟨hinv', hguar, hD.trans h hrely⟩

end Safety

/-! ### Runs -/

section Runs

variable [DecidableEq ι] (R : Runtime ι J A W O) {ok : W → C → O → Prop}

/-- Thread `i` is at the beginning of `t`: it stays in control until it waits or ends. -/
def settle (c : Config ι A W) (i : ι) (t : Task A Unit) (w : W) : Config ι A W :=
  match t with
  | .perform e _ =>
    { world := w
      threads := update c.threads i (some t)
      running := if R.awaits e then none else some i }
  | _ => { world := w, threads := update c.threads i none, running := none }

def step (c : Config ι A W) : Move ι J O → Option (Config ι A W)
  | .start i j =>
    if c.running = none ∧ (c.threads i).isNone then some (R.settle c i (R.task i j) c.world)
    else none
  | .go i o =>
    if c.running = none ∨ c.running = some i then
      match c.threads i with
      | some (.perform e k) => (R.act c.world e o).map fun r => R.settle c i (k r.1) r.2
      | _ => none
    else none
  | .drift o =>
    if c.running = none then (R.drift c.world o).map fun w => { c with world := w } else none
  | .crash => some { world := R.reboot c.world }

/-- The effect a move performs meets the condition. -/
def Allowed (ok : W → C → O → Prop) (c : Config ι A W) : Move ι J O → Prop
  | .go i o => ∀ e k, c.threads i = some (.perform e k) → ok c.world e o
  | _ => True

/-- The configurations reached from a world by runs whose effects meet a condition. -/
inductive Reach (ok : W → C → O → Prop) (start : W) : Config ι A W → Prop
  | start : Reach ok start { world := start }
  | step {c c' : Config ι A W} {m : Move ι J O} (hc : Reach ok start c) (hok : Allowed ok c m)
      (hm : R.step c m = some c') : Reach ok start c'

lemma Reach.mono {ok' : W → C → O → Prop} (h : ∀ w e o, ok w e o → ok' w e o)
    {c : Config ι A W} (hc : R.Reach ok start c) : R.Reach ok' start c := by
  induction hc with
  | start => exact .start
  | @step c c' m _ hok hm ih =>
    refine .step ih ?_ hm
    cases m with
    | go => exact fun e k hthread => h _ _ _ (hok e k hthread)
    | _ => trivial

/-- Every choice is admitted. -/
def Free : W → C → O → Prop := fun _ _ _ => True

instance (w : W) (e : C) (o : O) : Decidable (Free w e o) := inferInstanceAs (Decidable True)

/-! ### Computing runs -/

/-- A step whose effect is checked against the condition. -/
def stepIf (ok : W → C → O → Prop) [∀ w e o, Decidable (ok w e o)] (c : Config ι A W)
    (m : Move ι J O) : Option (Config ι A W) :=
  match m with
  | .go i o =>
    match c.threads i with
    | some (.perform e _) => if ok c.world e o then R.step c m else none
    | _ => none
  | _ => R.step c m

def run (ok : W → C → O → Prop) [∀ w e o, Decidable (ok w e o)] (start : W)
    (moves : List (Move ι J O)) : Option (Config ι A W) :=
  moves.foldlM (R.stepIf ok) { world := start }

lemma stepIf_eq_some [∀ w e o, Decidable (ok w e o)]
    {c c' : Config ι A W} {m : Move ι J O} (h : R.stepIf ok c m = some c') :
    Allowed ok c m ∧ R.step c m = some c' := by
  cases m with
  | start | drift | crash => exact ⟨trivial, h⟩
  | go i o =>
    unfold stepIf at h
    split at h
    · next i' o' hm =>
      cases hm
      split at h
      · next e k hthread =>
        split at h
        · next hok =>
          refine ⟨?_, h⟩
          intro e' k' hthread'
          cases hthread.symm.trans hthread'
          exact hok
        · cases h
      · cases h
    · next hm => exact absurd rfl (hm i o)

lemma reach_of_run [∀ w e o, Decidable (ok w e o)]
    {moves : List (Move ι J O)} {c : Config ι A W} (h : R.run ok start moves = some c) :
    R.Reach ok start c := by
  induction moves using List.reverseRecOn generalizing c with
  | nil =>
    cases h
    exact .start
  | append_singleton _ _ ih =>
    rw [run, List.foldlM_append, bind_eq_bind, bind_eq_some_iff] at h
    obtain ⟨c0, h0, hm⟩ := h
    obtain ⟨hok, hstep⟩ := R.stepIf_eq_some (by simpa using hm)
    exact .step (ih h0) hok hstep

lemma exists_reach [∀ w e o, Decidable (ok w e o)] (moves : List (Move ι J O))
    {p : Config ι A W → Prop} [DecidablePred p]
    (h : (R.run ok start moves).any (p ·) = true) : ∃ c, R.Reach ok start c ∧ p c := by
  obtain ⟨c, hrun, hp⟩ := any_eq_true _ _ |>.mp h
  exact ⟨c, R.reach_of_run hrun, of_decide_eq_true hp⟩

end Runs

/-! ### Soundness -/

variable {R : Runtime ι J A W O} {D : Discipline ι C W O}

/-- **The rely-guarantee rule.** -/
structure Sound (R : Runtime ι J A W O) (D : Discipline ι C W O) : Prop extends Relies D where
  guar : ∀ {i j w w'}, i ≠ j → D.guar i w w' → D.rely j w w'
  drift : ∀ {w o w'}, D.Inv w → R.drift w o = some w' → D.Inv w' ∧ ∀ i, D.rely i w w'
  reboot : ∀ {w}, D.Inv w → D.Inv (R.reboot w)
  task : ∀ i j w, D.Inv w → R.Safe D i (R.task i j) (fun _ _ => True) w

/-- The thread waits: it is about to perform an effect that others can come before. -/
def Waits (R : Runtime ι J A W O) : Task A Unit → Prop
  | .perform e _ => R.awaits e = true
  | _ => False

lemma Safe.interfere (hs : Sound R D) {i : ι} {t : Task A Unit} {w w' : W}
    {Q : Except String Unit → W → Prop} (h : R.Safe D i t Q w) (ht : Waits R t)
    (hrely : D.rely i w w') : R.Safe D i t Q w' := by
  cases t with
  | done | fail => exact ht.elim
  | perform e =>
    intro w₁ hw1
    have hawaits : R.awaits e = true := ht
    simp only [Meets, hawaits, if_true] at hw1
    refine h w₁ ?_
    simp only [Meets, hawaits, if_true]
    exact ⟨hs.trans hrely hw1.1, hw1.2⟩

/-- What holds of every configuration: the invariant, and the safety of every thread. -/
structure Good (R : Runtime ι J A W O) (D : Discipline ι C W O) (c : Config ι A W) : Prop where
  inv : D.Inv c.world
  safe : ∀ {i t}, c.threads i = some t → R.Safe D i t (fun _ _ => True) c.world
  waits : ∀ {i t}, c.threads i = some t → c.running ≠ some i → Waits R t

variable [DecidableEq ι] {c : Config ι A W} {i : ι}

lemma Good.settle (hs : Sound R D) (hc : Good R D c)
    (hrunning : c.running = none ∨ c.running = some i) {t : Task A Unit} {w : W}
    (hinv : D.Inv w) (hrely : ∀ j, j ≠ i → D.rely j c.world w)
    (ht : R.Safe D i t (fun _ _ => True) w) : Good R D (R.settle c i t w) := by
  have hwaits : ∀ {j t'}, j ≠ i → c.threads j = some t' → Waits R t' := by
    intro j t' hj ht'
    refine hc.waits ht' ?_
    rcases hrunning with hnone | hsome
    · simp [hnone]
    · simpa [hsome] using Ne.symm hj
  have hother : ∀ {j t'}, j ≠ i → c.threads j = some t' →
      R.Safe D j t' (fun _ _ => True) w := fun hj ht' =>
    (hc.safe ht').interfere hs (hwaits hj ht') (hrely _ hj)
  have hidle : Good R D
      { world := w, threads := update c.threads i none, running := none } := by
    have hthread : ∀ {j t'}, update c.threads i none j = some t' →
        j ≠ i ∧ c.threads j = some t' := by
      intro j t' ht'
      by_cases hj : j = i
      · subst hj
        cases (update_self j _ c.threads).symm.trans ht'
      · exact ⟨hj, (update_of_ne hj _ c.threads).symm.trans ht'⟩
    exact ⟨hinv, fun ht' => hother (hthread ht').1 (hthread ht').2,
      fun ht' _ => hwaits (hthread ht').1 (hthread ht').2⟩
  cases t with
  | perform e =>
    refine ⟨hinv, ?_, ?_⟩
    · intro j t' ht'
      by_cases hj : j = i
      · subst hj
        cases (update_self j _ c.threads).symm.trans ht'
        exact ht
      · exact hother hj ((update_of_ne hj _ c.threads).symm.trans ht')
    · intro j t' ht' hnot
      by_cases hj : j = i
      · subst hj
        cases (update_self j _ c.threads).symm.trans ht'
        by_cases hawaits : R.awaits e = true
        · exact hawaits
        · simp [Runtime.settle, hawaits] at hnot
      · exact hwaits hj ((update_of_ne hj _ c.threads).symm.trans ht')
  | done | fail => exact hidle

lemma Good.step (hs : Sound R D) {c' : Config ι A W} {m : Move ι J O} (hc : Good R D c)
    (hok : Allowed D.ok c m) (hm : R.step c m = some c') : Good R D c' := by
  cases m with
  | start i j =>
    simp only [Runtime.step] at hm
    split at hm
    · next h =>
      cases hm
      exact hc.settle hs (.inl h.1) hc.inv (fun j _ => hs.refl j c.world)
        (hs.task i j c.world hc.inv)
    · cases hm
  | go i o =>
    simp only [Runtime.step] at hm
    split at hm
    · next hrunning =>
      split at hm
      · next e k hthread =>
        obtain ⟨⟨r, w'⟩, hact, rfl⟩ := map_eq_some_iff.mp hm
        -- the thread performs its effect in the world as it is now
        have hmeets : R.Meets D i e c.world c.world := by
          unfold Meets
          split
          · exact ⟨hs.refl i c.world, hc.inv⟩
          · rfl
        obtain ⟨hinv, hguar, hk⟩ := hc.safe hthread c.world hmeets o r w' (hok e k hthread) hact
        exact hc.settle hs hrunning hinv (fun j hj => hs.guar (Ne.symm hj) hguar) hk
      · cases hm
    · cases hm
  | drift o =>
    simp only [Runtime.step] at hm
    split at hm
    · next hrunning =>
      obtain ⟨w', hw', rfl⟩ := map_eq_some_iff.mp hm
      obtain ⟨hinv, hrely⟩ := hs.drift hc.inv hw'
      have hwaits : ∀ {i t}, c.threads i = some t → Waits R t := fun ht =>
        hc.waits ht (by simp [hrunning])
      exact ⟨hinv, fun ht => (hc.safe ht).interfere hs (hwaits ht) (hrely _), fun ht _ => hwaits ht⟩
    · cases hm
  | crash =>
    cases hm
    exact ⟨hs.reboot hc.inv, nofun, nofun⟩

lemma Sound.good (hs : Sound R D) (hstart : D.Inv start)
    (hc : R.Reach D.ok start c) : Good R D c := by
  induction hc with
  | start => exact ⟨hstart, nofun, nofun⟩
  | step _ hok hm ih => exact ih.step hs hok hm

/-- **The invariant holds in every configuration that is reached.** -/
theorem Sound.inv (hs : Sound R D) (hstart : D.Inv start)
    (hc : R.Reach D.ok start c) : D.Inv c.world :=
  (hs.good hstart hc).inv

/-! ### Restarts that lose writes -/

section Losses

variable {S : Type} (R) (D) (restore : W → S → W) (lost : Option S → Prop)

/-- The program on a storage that may lose what it has acknowledged: with the answer to an effect
the outside says what a restart would bring up from here on, if not what is there. -/
def lossy : Runtime ι J A (W × Option S) (O × Option S) where
  act w e o := (R.act w.1 e o.1).map fun r => (r.1, r.2, o.2)
  awaits := R.awaits
  drift w o := (R.drift w.1 o.1).map fun w' => (w', w.2)
  reboot w := (R.reboot (w.2.elim w.1 (restore w.1)), none)
  task := R.task

/-- A condition on the effects, and on what may be lost. -/
def Losing (ok : W → C → O → Prop) (w : W × Option S) (e : C) (o : O × Option S) : Prop :=
  ok w.1 e o.1 ∧ lost o.2

def Discipline.lossy : Discipline ι C (W × Option S) (O × Option S) where
  ok := Losing lost D.ok
  Inv w := D.Inv w.1 ∧ lost w.2
  rely i w w' := D.rely i w.1 w'.1
  guar i w w' := D.guar i w.1 w'.1

variable {R D restore lost}

omit [DecidableEq ι] in
lemma Safe.lossy {α : Type} {i : ι} {t : Task A α} {Q : Except String α → W → Prop}
    {w : W × Option S} (h : R.Safe D i t Q w.1) :
    (R.lossy restore).Safe (D.lossy lost) i t (fun r w => Q r w.1) w := by
  induction t generalizing w with
  | done | fail => exact h
  | perform e k ih =>
    intro w₁ hmeets o r w' hok hact
    obtain ⟨⟨r, w'⟩, hinner, heq⟩ := map_eq_some_iff.mp hact
    cases heq
    have hmeets : R.Meets D i e w.1 w₁.1 := by
      unfold Meets at hmeets ⊢
      split at hmeets
      · next hawaits => exact (if_pos hawaits).symm ▸ ⟨hmeets.1, hmeets.2.1⟩
      · next hawaits => exact (if_neg hawaits).symm ▸ congrArg Prod.fst hmeets
    obtain ⟨hinv, hguar, hk⟩ := h w₁.1 hmeets o.1 r w' hok.1 hinner
    exact ⟨⟨hinv, hok.2⟩, hguar, ih r hk⟩

omit [DecidableEq ι] in
/-- **What holds on a storage that loses nothing** holds on one whose losses the invariant bears. -/
theorem Sound.lossy (hs : Sound R D) (hnone : lost none)
    (hrestore : ∀ {w s}, D.Inv w → lost (some s) → D.Inv (R.reboot (restore w s))) :
    Sound (R.lossy restore) (D.lossy lost) where
  refl i w := hs.refl i w.1
  trans h h' := hs.trans h h'
  guar hne h := hs.guar hne h
  drift {w o w'} hw hdrift := by
    obtain ⟨w', hinner, rfl⟩ := map_eq_some_iff.mp hdrift
    obtain ⟨hinv, hrely⟩ := hs.drift hw.1 hinner
    exact ⟨⟨hinv, hw.2⟩, hrely⟩
  reboot {w} hw := by
    refine ⟨?_, hnone⟩
    obtain ⟨w, _ | s⟩ := w
    · exact hs.reboot hw.1
    · exact hrestore hw.1 hw.2
  task i j w hw := (hs.task i j w.1 hw.1).lossy

/-- A configuration in which nothing is lost. -/
def Config.kept (c : Config ι A W) : Config ι A (W × Option S) :=
  { c with world := (c.world, none) }

lemma settle_kept (c : Config ι A W) (i : ι) (t : Task A Unit) (w : W) :
    (R.lossy restore).settle c.kept i t (w, none) = (R.settle c i t w).kept := by
  cases t <;> rfl

/-- The move of a storage that loses nothing. -/
def Move.kept : Move ι J O → Move ι J (O × Option S)
  | .start i j => .start i j
  | .go i o => .go i (o, none)
  | .drift o => .drift (o, none)
  | .crash => .crash

lemma step_kept {c' : Config ι A W} {m : Move ι J O} (hm : R.step c m = some c') :
    (R.lossy restore).step c.kept m.kept = some c'.kept := by
  cases m with
  | start i j =>
    simp only [Runtime.step] at hm
    split at hm
    · next h =>
      cases hm
      exact (if_pos h).trans (congrArg some (settle_kept ..))
    · cases hm
  | go i o =>
    simp only [Runtime.step] at hm
    split at hm
    · next h =>
      refine (if_pos h).trans ?_
      split at hm
      · next e k hthread =>
        obtain ⟨⟨r, w'⟩, hact, rfl⟩ := map_eq_some_iff.mp hm
        simp only [Runtime.lossy, Config.kept, hthread, hact, map_some]
        exact congrArg some (settle_kept ..)
      · cases hm
    · cases hm
  | drift o =>
    simp only [Runtime.step] at hm
    split at hm
    · next h =>
      obtain ⟨w', hdrift, rfl⟩ := map_eq_some_iff.mp hm
      refine (if_pos h).trans ?_
      simp only [Runtime.lossy, Config.kept, hdrift, map_some]
    · cases hm
  | crash =>
    cases hm
    rfl

/-- A run without losses is one of the storage that may lose. -/
lemma Reach.lossy {ok : W → C → O → Prop} (hnone : lost none) (hc : R.Reach ok start c) :
    (R.lossy restore).Reach (Losing lost ok) (start, none) c.kept := by
  induction hc with
  | start => exact .start
  | @step c c' m _ hok hm ih =>
    refine .step ih ?_ (step_kept hm)
    cases m with
    | go => exact fun e k hthread => ⟨hok e k hthread, hnone⟩
    | _ => trivial

end Losses

end Runtime

end Ferminux.Lib
