/-
Stateful computations that may fail, and loops of them.

An `Action` threads a state and ends with a value or an error; the state survives the error, as it does behind a
`&mut` parameter. A loop runs its body until the body stops it, for at most `fuel` iterations, so that what holds of
every prefix of a run can be stated too.

- `Action.bind_of_ok`, `Action.bind_of_error`: running a sequence step by step.
- `Triple`: pre- and postconditions with a postcondition for errors; one rule for each way to build an action.
- `loopFor_invariant`: what one iteration preserves, every run preserves.
- `loopFor_stops`: a loop whose measure decreases stops.
-/
import Mathlib.Tactic

namespace WfbLink.Core

variable {σ ε α β ρ : Type}

def Action (σ ε α : Type) : Type := σ → Except ε α × σ

namespace Action

def ok (a : α) : Action σ ε α := fun s => (.ok a, s)

def fail (e : ε) : Action σ ε α := fun s => (.error e, s)

def andThen (act : Action σ ε α) (f : α → Action σ ε β) : Action σ ε β := fun s =>
  match act s with
  | (.ok a, s) => f a s
  | (.error e, s) => (.error e, s)

instance : Monad (Action σ ε) where
  pure := ok
  bind := andThen

/-- a computation that cannot fail -/
def ofState (f : σ → α × σ) : Action σ ε α := fun s => (.ok (f s).1, (f s).2)

def ofExcept (r : Except ε α) : Action σ ε α := fun s => (r, s)

def read (f : σ → α) : Action σ ε α := ofState fun s => (f s, s)

def modify (f : σ → σ) : Action σ ε Unit := ofState fun s => ((), f s)

/-- the outcome as a value -/
def attempt {ε' : Type} (act : Action σ ε α) : Action σ ε' (Except ε α) := ofState act

@[simp] theorem pure_run (a : α) (s : σ) : (pure a : Action σ ε α) s = (.ok a, s) := rfl

@[simp] theorem fail_run (e : ε) (s : σ) : (fail e : Action σ ε α) s = (.error e, s) := rfl

@[simp] theorem ofState_run (f : σ → α × σ) (s : σ) : (ofState f : Action σ ε α) s = (.ok (f s).1, (f s).2) := rfl

@[simp] theorem ofExcept_run (r : Except ε α) (s : σ) : (ofExcept r : Action σ ε α) s = (r, s) := rfl

@[simp] theorem read_run (f : σ → α) (s : σ) : (read f : Action σ ε α) s = (.ok (f s), s) := rfl

@[simp] theorem modify_run (f : σ → σ) (s : σ) : (modify f : Action σ ε Unit) s = (.ok (), f s) := rfl

@[simp] theorem attempt_run {ε' : Type} (act : Action σ ε α) (s : σ) :
    (attempt act : Action σ ε' (Except ε α)) s = (.ok (act s).1, (act s).2) := rfl

variable {act : Action σ ε α} {f : α → Action σ ε β} {s s' : σ}

theorem bind_of_ok {a : α} (h : act s = (.ok a, s')) : (act >>= f) s = f a s' := by
  change andThen act f s = f a s'
  rw [andThen, h]

theorem bind_of_error {e : ε} (h : act s = (.error e, s')) : (act >>= f) s = (.error e, s') := by
  change andThen act f s = (.error e, s')
  rw [andThen, h]

/-- a sequence that returned, taken apart -/
theorem bind_ok {b : β} (h : (act >>= f) s = (.ok b, s')) : ∃ a s₁, act s = (.ok a, s₁) ∧ f a s₁ = (.ok b, s') := by
  rcases hrun : act s with ⟨e | a, s₁⟩
  · rw [bind_of_error hrun] at h
    cases h
  · rw [bind_of_ok hrun] at h
    exact ⟨a, s₁, rfl, h⟩

theorem bind_assoc (act : Action σ ε α) (f : α → Action σ ε β) {γ : Type} (g : β → Action σ ε γ) :
    act >>= f >>= g = act >>= fun a => f a >>= g := by
  funext s
  rcases hrun : act s with ⟨e | a, s'⟩
  · rw [bind_of_error hrun, bind_of_error (bind_of_error hrun)]
  · rw [bind_of_ok hrun]
    change andThen (andThen act f) g s = andThen (f a) g s'
    rw [andThen, show andThen act f s = f a s' from bind_of_ok hrun]
    rfl

end Action

/-! ## Pre- and postconditions -/

/-- how a run ended -/
def Ends (Q : α → σ → Prop) (E : ε → σ → Prop) : Except ε α × σ → Prop
  | (.ok a, s) => Q a s
  | (.error e, s) => E e s

/-- from every state in `P`, the action ends in `Q` or fails in `E` -/
def Triple (P : σ → Prop) (act : Action σ ε α) (Q : α → σ → Prop) (E : ε → σ → Prop) : Prop :=
  ∀ s, P s → Ends Q E (act s)

namespace Triple

variable {P P' : σ → Prop} {act : Action σ ε α} {f : α → Action σ ε β} {Q Q' : α → σ → Prop} {R : β → σ → Prop}
  {E E' : ε → σ → Prop}

theorem pure {a : α} (h : ∀ s, P s → Q a s) : Triple P (Pure.pure a) Q E := h

theorem fail {e : ε} (h : ∀ s, P s → E e s) : Triple P (Action.fail e : Action σ ε α) Q E := h

theorem ofState {g : σ → α × σ} (h : ∀ s, P s → Q (g s).1 (g s).2) : Triple P (Action.ofState g) Q E := h

theorem modify {g : σ → σ} {Q : Unit → σ → Prop} (h : ∀ s, P s → Q () (g s)) : Triple P (Action.modify g) Q E := h

theorem read {g : σ → α} (h : ∀ s, P s → Q (g s) s) : Triple P (Action.read g) Q E := h

theorem ofExcept {r : Except ε α} (hok : ∀ a, r = .ok a → ∀ s, P s → Q a s)
    (herror : ∀ e, r = .error e → ∀ s, P s → E e s) : Triple P (Action.ofExcept r) Q E := by
  intro s hs
  cases r with
  | ok a => exact hok a rfl s hs
  | error e => exact herror e rfl s hs

theorem bind (hact : Triple P act Q E) (hf : ∀ a, Triple (Q a) (f a) R E) : Triple P (act >>= f) R E := by
  intro s hs
  have h := hact s hs
  rcases hrun : act s with ⟨e | a, s'⟩
  · rw [hrun] at h
    rw [Action.bind_of_error hrun]
    exact h
  · rw [hrun] at h
    rw [Action.bind_of_ok hrun]
    exact hf a s' h

/-- a pure part of the precondition -/
theorem assume {φ : Prop} (h : φ → Triple P act Q E) : Triple (fun s => φ ∧ P s) act Q E := by
  intro s hs
  exact h hs.1 s hs.2

/-- an action that fails whatever it is given -/
theorem bind_fails (hact : Triple P act (fun _ _ => False) E) : Triple P (act >>= f) R E :=
  bind hact fun _ _ hs => hs.elim

theorem trivial : Triple P act (fun _ _ => True) fun _ _ => True := by
  intro s _
  rcases act s with ⟨e | a, s'⟩
  · exact True.intro
  · exact True.intro

theorem attempt {ε' : Type} {Q : Except ε α → σ → Prop} {E' : ε' → σ → Prop}
    (h : Triple P act (fun a => Q (.ok a)) (fun e => Q (.error e))) : Triple P (Action.attempt act) Q E' := by
  intro s hs
  have hact := h s hs
  rw [Action.attempt_run]
  rcases hrun : act s with ⟨e | a, s'⟩
  · rw [hrun] at hact
    exact hact
  · rw [hrun] at hact
    exact hact

theorem weaken (h : Triple P act Q E) (hpre : ∀ s, P' s → P s) (hok : ∀ a s, Q a s → Q' a s)
    (herror : ∀ e s, E e s → E' e s) : Triple P' act Q' E' := by
  intro s hs
  have hact := h s (hpre s hs)
  rcases hrun : act s with ⟨e | a, s'⟩
  · rw [hrun] at hact
    exact herror e s' hact
  · rw [hrun] at hact
    exact hok a s' hact

theorem succeeds {s : σ} (h : Triple P act Q fun _ _ => False) (hs : P s) :
    ∃ a s', act s = (.ok a, s') ∧ Q a s' := by
  have hact := h s hs
  rcases hrun : act s with ⟨e | a, s'⟩
  · rw [hrun] at hact
    exact hact.elim
  · rw [hrun] at hact
    exact ⟨a, s', rfl, hact⟩

theorem fails {s : σ} (h : Triple P act (fun _ _ => False) E) (hs : P s) : ∃ e s', act s = (.error e, s') ∧ E e s' := by
  have hact := h s hs
  rcases hrun : act s with ⟨e | a, s'⟩
  · rw [hrun] at hact
    exact ⟨e, s', rfl, hact⟩
  · rw [hrun] at hact
    exact hact.elim

end Triple

/-! ## Loops -/

/-- a loop that is still running, or has stopped -/
inductive Looped (σ ρ : Type) where
  | running (s : σ)
  | stopped (r : ρ)
deriving DecidableEq, Repr

def Looped.Sat (Inv : σ → Prop) (Post : ρ → Prop) : Looped σ ρ → Prop
  | .running s => Inv s
  | .stopped r => Post r

theorem Looped.Sat.weaken {Inv Inv' : σ → Prop} {Post Post' : ρ → Prop} {l : Looped σ ρ}
    (h : l.Sat Inv Post) (hrunning : ∀ s, Inv s → Inv' s) (hstopped : ∀ r, Post r → Post' r) : l.Sat Inv' Post' := by
  cases l with
  | running s => exact hrunning s h
  | stopped r => exact hstopped r h

def Looped.result? : Looped σ ρ → Option ρ
  | .running _ => none
  | .stopped r => some r

theorem Looped.eq_stopped {l : Looped σ ρ} {r : ρ} (h : l.result? = some r) : l = .stopped r := by
  cases l with
  | running s => cases h
  | stopped r' => exact congrArg Looped.stopped (Option.some.inj h)

/-- `loop { body }`, for at most `fuel` iterations -/
def loopFor (body : σ → Looped σ ρ) : ℕ → σ → Looped σ ρ
  | 0, s => .running s
  | fuel + 1, s =>
    match body s with
    | .running s => loopFor body fuel s
    | .stopped r => .stopped r

variable {body : σ → Looped σ ρ} {Inv : σ → Prop} {Post : ρ → Prop}

theorem loopFor_of_running {s s' : σ} (h : body s = .running s') (fuel : ℕ) :
    loopFor body (fuel + 1) s = loopFor body fuel s' := by
  rw [loopFor, h]

theorem loopFor_of_stopped {s : σ} {r : ρ} (h : body s = .stopped r) (fuel : ℕ) :
    loopFor body (fuel + 1) s = .stopped r := by
  rw [loopFor, h]

/-- one more iteration -/
theorem loopFor_succ {fuel : ℕ} {s s' : σ} (h : loopFor body fuel s = .running s') :
    loopFor body (fuel + 1) s = body s' := by
  induction fuel generalizing s with
  | zero =>
    obtain rfl : s = s' := Looped.running.inj h
    rw [loopFor]
    cases body s with
    | running s' => rfl
    | stopped r => rfl
  | succ fuel ih =>
    cases hbody : body s with
    | running s₁ =>
      rw [loopFor_of_running hbody] at h ⊢
      exact ih h
    | stopped r =>
      rw [loopFor_of_stopped hbody] at h
      cases h

/-- **Loop invariant rule.** -/
theorem loopFor_invariant (hbody : ∀ s, Inv s → (body s).Sat Inv Post) (fuel : ℕ) {s : σ} (hs : Inv s) :
    (loopFor body fuel s).Sat Inv Post := by
  induction fuel generalizing s with
  | zero => exact hs
  | succ fuel ih =>
    have h := hbody s hs
    cases hstep : body s with
    | running s' =>
      rw [hstep] at h
      rw [loopFor_of_running hstep]
      exact ih h
    | stopped r =>
      rw [hstep] at h
      rw [loopFor_of_stopped hstep]
      exact h

/-- **Termination rule.** With more fuel than the measure of the state, the loop stops. -/
theorem loopFor_stops (measure : σ → ℕ)
    (hbody : ∀ s, Inv s → (body s).Sat (fun s' => Inv s' ∧ measure s' < measure s) Post) {fuel : ℕ} {s : σ}
    (hfuel : measure s < fuel) (hs : Inv s) : ∃ r, loopFor body fuel s = .stopped r ∧ Post r := by
  induction fuel generalizing s with
  | zero => exact absurd hfuel (Nat.not_lt_zero _)
  | succ fuel ih =>
    have h := hbody s hs
    cases hstep : body s with
    | running s' =>
      rw [hstep] at h
      rw [loopFor_of_running hstep]
      exact ih (Nat.lt_of_lt_of_le h.2 (Nat.lt_succ_iff.1 hfuel)) h.1
    | stopped r =>
      rw [hstep] at h
      rw [loopFor_of_stopped hstep]
      exact ⟨r, rfl, h⟩

end WfbLink.Core
