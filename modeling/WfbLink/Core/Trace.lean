/-
Traces: what a system did, in order.

- `Causal P trace`: `P` allows every event of the trace after the events before it. It is preserved by appending an
  event that `P` allows (`Causal.snoc`), so a run keeps it if every step does.
- `RunsBounded`: how many events of a kind there are between two breaks.
- `Emits log allowed act`: an action only ever appends to the log in its state, and only events that are `allowed`; one
  rule for each way to build an action or a loop.
-/
import WfbLink.Core.Action

namespace WfbLink.Core

section Causal

variable {α : Type} {P : List α → α → Prop} {trace : List α}

/-- every event is allowed by what happened before it -/
def Causal (P : List α → α → Prop) (trace : List α) : Prop :=
  ∀ before e after, trace = before ++ e :: after → P before e

namespace Causal

theorem nil : Causal P ([] : List α) := by
  intro before e after h
  exact absurd h.symm (by simp)

theorem snoc (h : Causal P trace) {e : α} (he : P trace e) : Causal P (trace ++ [e]) := by
  intro before e' after heq
  rcases List.eq_nil_or_concat after with rfl | ⟨init, last, rfl⟩
  · obtain ⟨rfl, hlast⟩ := List.append_inj' heq rfl
    obtain rfl := List.singleton_inj.1 hlast
    exact he
  · have hsplit : trace ++ [e] = (before ++ e' :: init) ++ [last] := by rw [heq]; simp
    obtain ⟨rfl, -⟩ := List.append_inj' hsplit rfl
    exact h before e' init rfl

end Causal

end Causal

/-! ## Runs of events -/

section Runs

variable {α : Type} {breaks counts : α → Bool} {limit count : ℕ} {trace : List α} {e : α}

/-- between two breaks, at most `limit` events count -/
def RunsBounded (breaks counts : α → Bool) (limit : ℕ) (trace : List α) : Prop :=
  ∀ before run after, trace = before ++ run ++ after → (∀ e ∈ run, breaks e = false) → run.countP counts ≤ limit

/-- since the last break, at most `count` events count -/
def TailBounded (breaks counts : α → Bool) (count : ℕ) (trace : List α) : Prop :=
  ∀ before run, trace = before ++ run → (∀ e ∈ run, breaks e = false) → run.countP counts ≤ count

theorem TailBounded.nil : TailBounded breaks counts 0 ([] : List α) := by
  intro before run h _
  rw [(List.append_eq_nil_iff.1 h.symm).2]
  exact le_rfl

theorem TailBounded.mono (h : TailBounded breaks counts count trace) {count' : ℕ} (hle : count ≤ count') :
    TailBounded breaks counts count' trace :=
  fun before run heq hrun => (h before run heq hrun).trans hle

theorem TailBounded.snoc_break (he : breaks e = true) : TailBounded breaks counts 0 (trace ++ [e]) := by
  intro before run h hrun
  rcases List.eq_nil_or_concat run with rfl | ⟨init, last, rfl⟩
  · exact le_rfl
  · rw [List.concat_eq_append, ← List.append_assoc] at h
    obtain ⟨-, hlast⟩ := List.append_inj' h rfl
    obtain rfl := List.singleton_inj.1 hlast
    rw [hrun e (by simp)] at he
    cases he

theorem TailBounded.snoc (h : TailBounded breaks counts count trace) (e : α) :
    TailBounded breaks counts (count + (counts e).toNat) (trace ++ [e]) := by
  intro before run heq hrun
  rcases List.eq_nil_or_concat run with rfl | ⟨init, last, rfl⟩
  · exact Nat.zero_le _
  · rw [List.concat_eq_append] at hrun ⊢
    rw [List.concat_eq_append, ← List.append_assoc] at heq
    obtain ⟨htrace, hlast⟩ := List.append_inj' heq rfl
    obtain rfl := List.singleton_inj.1 hlast
    have hinit := h before init htrace fun e' he' => hrun e' (List.mem_append_left _ he')
    rw [List.countP_append, List.countP_singleton]
    cases hcounts : counts e with
    | false => simpa using hinit
    | true => simpa using hinit

theorem RunsBounded.nil : RunsBounded breaks counts limit ([] : List α) := by
  intro before run after h _
  have hrun := (List.append_eq_nil_iff.1 (List.append_eq_nil_iff.1 h.symm).1).2
  rw [hrun]
  exact Nat.zero_le _

/-- a run either was there before, or ends with the new event -/
theorem RunsBounded.snoc (h : RunsBounded breaks counts limit trace)
    (htail : TailBounded breaks counts limit (trace ++ [e])) : RunsBounded breaks counts limit (trace ++ [e]) := by
  intro before run after heq hrun
  rcases List.eq_nil_or_concat after with rfl | ⟨init, last, rfl⟩
  · rw [List.append_nil] at heq
    exact htail before run heq hrun
  · rw [List.concat_eq_append, ← List.append_assoc] at heq
    exact h before run init (List.append_inj' heq rfl).1 hrun

theorem RunsBounded.tail (h : RunsBounded breaks counts limit trace) : TailBounded breaks counts limit trace := by
  intro before run heq hrun
  exact h before run [] (by rw [List.append_nil, heq]) hrun

/-- an event that does not count -/
theorem RunsBounded.snoc_other (h : RunsBounded breaks counts limit trace) (he : counts e = false) :
    RunsBounded breaks counts limit (trace ++ [e]) := by
  have htail := h.tail.snoc e
  rw [he] at htail
  exact h.snoc htail

end Runs

/-! ## Sections -/

/-- the trace falls into sections, one after the other, each of its own kind -/
def Sections {κ : Type} : List (List κ → Prop) → List κ → Prop
  | [], trace => trace = []
  | kind :: kinds, trace => ∃ first rest, trace = first ++ rest ∧ kind first ∧ Sections kinds rest

/-! ## What an action appends to a log -/

section Emits

variable {σ ε ε' α β κ ρ : Type}

/-- `later` is `earlier` with allowed events appended -/
def Extends (allowed : κ → Prop) (earlier later : List κ) : Prop :=
  ∃ written, later = earlier ++ written ∧ ∀ e ∈ written, allowed e

namespace Extends

variable {allowed allowed' : κ → Prop} {l l' l'' : List κ}

theorem refl (l : List κ) : Extends allowed l l := ⟨[], (List.append_nil l).symm, nofun⟩

theorem of_eq (h : l' = l) : Extends allowed l l' := h ▸ refl l'

theorem single (l : List κ) {e : κ} (he : allowed e) : Extends allowed l (l ++ [e]) :=
  ⟨[e], rfl, fun _ h => List.mem_singleton.1 h ▸ he⟩

theorem trans (h : Extends allowed l l') (h' : Extends allowed l' l'') : Extends allowed l l'' := by
  obtain ⟨w, rfl, hw⟩ := h
  obtain ⟨w', rfl, hw'⟩ := h'
  refine ⟨w ++ w', List.append_assoc l w w', fun e he => ?_⟩
  rcases List.mem_append.1 he with he | he
  · exact hw e he
  · exact hw' e he

theorem mono (h : Extends allowed l l') (himp : ∀ e, allowed e → allowed' e) : Extends allowed' l l' := by
  obtain ⟨w, rfl, hw⟩ := h
  exact ⟨w, rfl, fun e he => himp e (hw e he)⟩

end Extends

/-- from any state, the action appends allowed events to the log -/
def Emits (log : σ → List κ) (allowed : κ → Prop) (act : Action σ ε α) : Prop :=
  ∀ s, Extends allowed (log s) (log (act s).2)

namespace Emits

variable {log : σ → List κ} {allowed allowed' : κ → Prop} {act : Action σ ε α} {f : α → Action σ ε β}

theorem of_same (h : ∀ s, log (act s).2 = log s) : Emits log allowed act := fun s => .of_eq (h s)

theorem pure (a : α) : Emits log allowed (Pure.pure a : Action σ ε α) := of_same fun _ => rfl

theorem fail (e : ε) : Emits log allowed (Action.fail e : Action σ ε α) := of_same fun _ => rfl

theorem read (g : σ → α) : Emits log allowed (Action.read g : Action σ ε α) := of_same fun _ => rfl

theorem ofExcept (r : Except ε α) : Emits log allowed (Action.ofExcept r : Action σ ε α) := of_same fun _ => rfl

theorem modify {g : σ → σ} (h : ∀ s, log (g s) = log s) : Emits log allowed (Action.modify g : Action σ ε Unit) :=
  of_same h

theorem attempt (h : Emits log allowed act) :
    Emits log allowed (Action.attempt act : Action σ ε' (Except ε α)) := h

theorem bind (h : Emits log allowed act) (hf : ∀ a, Emits log allowed (f a)) : Emits log allowed (act >>= f) := by
  intro s
  have hact := h s
  rcases hrun : act s with ⟨e | a, s'⟩
  · rw [hrun] at hact
    rw [Action.bind_of_error hrun]
    exact hact
  · rw [hrun] at hact
    rw [Action.bind_of_ok hrun]
    exact hact.trans (hf a s')

theorem mono (h : Emits log allowed act) (himp : ∀ e, allowed e → allowed' e) : Emits log allowed' act :=
  fun s => (h s).mono himp

end Emits

end Emits

end WfbLink.Core
