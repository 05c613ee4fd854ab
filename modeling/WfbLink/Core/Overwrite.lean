/-
Partial updates of a function.

An `Overwrite` says what is written, and where; `apply` writes it. Overwrites one after the other are an overwrite again,
in which the last one wins. An `Effect` also says what was found by reading again.

- `apply_andThen`: composing overwrites is applying one after the other.
- `Effect.Reached.andThen`, `Effect.Within.andThen`: a sequence of updates, and one that stopped.
-/
import Mathlib.Logic.Function.Basic

namespace WfbLink.Core

/-- what is written, where something is written -/
abbrev Overwrite (α β : Type*) := α → Option β

namespace Overwrite

variable {α β : Type*}

def apply (o : Overwrite α β) (f : α → β) (a : α) : β := (o a).getD (f a)

/-- the later overwrite wins -/
def andThen (o p : Overwrite α β) : Overwrite α β := fun a => (p a).or (o a)

/-- nothing is written -/
def empty : Overwrite α β := fun _ => none

/-- the part of an overwrite that takes -/
def restrict (o : Overwrite α β) (taken : α → Bool) : Overwrite α β := fun a => if taken a then o a else none

/-- the overwrites of a list, one after the other -/
def all : List (Overwrite α β) → Overwrite α β
  | [] => empty
  | o :: os => o.andThen (all os)

variable {o p q : Overwrite α β} {f g h : α → β} {taken : α → Bool} {a : α} {b : β}

theorem apply_of_none (ha : o a = none) : o.apply f a = f a := by rw [apply, ha, Option.getD_none]

theorem andThen_eq_none : o.andThen p a = none ↔ o a = none ∧ p a = none := by
  rw [andThen, Option.or_eq_none_iff, and_comm]

@[simp] theorem empty_apply (f : α → β) : empty.apply f = f := rfl

@[simp] theorem empty_andThen (o : Overwrite α β) : empty.andThen o = o := by
  funext a
  exact Option.or_none

@[simp] theorem andThen_empty (o : Overwrite α β) : o.andThen empty = o := rfl

theorem andThen_assoc (o p q : Overwrite α β) : (o.andThen p).andThen q = o.andThen (p.andThen q) := by
  funext a
  exact Option.or_assoc.symm

/-- one after the other -/
theorem apply_andThen (o p : Overwrite α β) (f : α → β) : (o.andThen p).apply f = p.apply (o.apply f) := by
  funext a
  rw [apply, andThen, apply, apply]
  cases p a with
  | none => rfl
  | some b => rfl

theorem restrict_andThen (o p : Overwrite α β) (taken : α → Bool) :
    (o.andThen p).restrict taken = (o.restrict taken).andThen (p.restrict taken) := by
  funext a
  rw [restrict, andThen, andThen, restrict, restrict]
  cases taken a with
  | false => rfl
  | true => rfl

theorem restrict_eq_none (ho : o a = none) : o.restrict taken a = none := by
  rw [restrict, ho, ite_self]

theorem all_append (os ps : List (Overwrite α β)) : all (os ++ ps) = (all os).andThen (all ps) := by
  induction os with
  | nil => exact (empty_andThen (all ps)).symm
  | cons o os ih => rw [List.cons_append, all, all, ih, andThen_assoc]

/-! ## What stays -/

/-- two functions agree where the overwrite writes nothing -/
def Agree (o : Overwrite α β) (f g : α → β) : Prop := ∀ a, o a = none → f a = g a

namespace Agree

theorem refl (o : Overwrite α β) (f : α → β) : o.Agree f f := fun _ _ => rfl

theorem trans (hfg : o.Agree f g) (hgh : o.Agree g h) : o.Agree f h :=
  fun a ha => (hfg a ha).trans (hgh a ha)

theorem apply (o : Overwrite α β) (f : α → β) : o.Agree (o.apply f) f := fun _ ha => apply_of_none ha

theorem andThen_left (hfg : o.Agree f g) (p : Overwrite α β) : (o.andThen p).Agree f g :=
  fun a ha => hfg a (andThen_eq_none.1 ha).1

theorem andThen_right (hfg : p.Agree f g) (o : Overwrite α β) : (o.andThen p).Agree f g :=
  fun a ha => hfg a (andThen_eq_none.1 ha).2

end Agree

/-! ## What is found -/

/-- where the overwrite writes, this is found -/
def Found (o : Overwrite α β) (f : α → β) : Prop := ∀ a b, o a = some b → f a = b

theorem found_empty (f : α → β) : (empty : Overwrite α β).Found f := by
  rintro a b ⟨⟩

/-- the part that a later overwrite leaves -/
def hide (o later : Overwrite α β) : Overwrite α β := fun a => (later a).elim (o a) fun _ => none

theorem Found.hide (hfound : o.Found f) (later : Overwrite α β) (hagree : later.Agree g f) :
    (o.hide later).Found g := by
  intro a b ha
  rw [Overwrite.hide] at ha
  rcases hlater : later a with _ | b'
  · rw [hagree a hlater]
    rw [hlater] at ha
    exact hfound a b ha
  · rw [hlater] at ha
    cases ha

theorem Found.andThen (hp : p.Found f) (ho : o.Found f) : (o.andThen p).Found f := by
  intro a b ha
  rw [Overwrite.andThen] at ha
  rcases hpa : p a with _ | b'
  · rw [hpa, Option.none_or] at ha
    exact ho a b ha
  · rw [hpa, Option.some_or] at ha
    exact hp a b (hpa.trans ha)

end Overwrite

/-! ## Effects -/

/-- what is written, and what was found by reading again -/
structure Effect (α β : Type*) where
  writes : Overwrite α β
  finds : Overwrite α β

namespace Effect

variable {α β : Type*}

def empty : Effect α β where
  writes := .empty
  finds := .empty

/-- what was found stays, where nothing is written later -/
def andThen (e e' : Effect α β) : Effect α β where
  writes := e.writes.andThen e'.writes
  finds := (e.finds.hide e'.writes).andThen e'.finds

/-- the effects of a list, one after the other -/
def all : List (Effect α β) → Effect α β
  | [] => .empty
  | e :: es => e.andThen (all es)

variable {e e' : Effect α β} {taken : α → Bool} {start f g : α → β}

@[simp] theorem empty_andThen (e : Effect α β) : empty.andThen e = e := by
  have hfinds : ((Overwrite.empty : Overwrite α β).hide e.writes).andThen e.finds = e.finds := by
    funext a
    rw [Overwrite.andThen, Overwrite.hide, Overwrite.empty]
    cases e.writes a with
    | none => exact Option.or_none
    | some b => exact Option.or_none
  rw [andThen, empty, Overwrite.empty_andThen, hfinds]

@[simp] theorem andThen_empty (e : Effect α β) : e.andThen empty = e := by
  have hfinds : e.finds.hide (Overwrite.empty : Overwrite α β) = e.finds := by
    rfl
  rw [andThen, empty, Overwrite.andThen_empty, Overwrite.andThen_empty, hfinds]

theorem andThen_assoc (e e' e'' : Effect α β) : (e.andThen e').andThen e'' = e.andThen (e'.andThen e'') := by
  have hfinds : (((e.finds.hide e'.writes).andThen e'.finds).hide e''.writes).andThen e''.finds
      = (e.finds.hide (e'.writes.andThen e''.writes)).andThen ((e'.finds.hide e''.writes).andThen e''.finds) := by
    funext a
    simp only [Overwrite.andThen, Overwrite.hide]
    cases e''.writes a with
    | some b => simp
    | none => simp [Option.or_assoc]
  rw [andThen, andThen, andThen, andThen, Overwrite.andThen_assoc, hfinds]

theorem all_append (es es' : List (Effect α β)) : all (es ++ es') = (all es).andThen (all es') := by
  induction es with
  | nil => exact (empty_andThen _).symm
  | cons e es ih => rw [List.cons_append, all, all, ih, andThen_assoc]

/-- at one place: whether it is written, and what is found there at the end -/
def view : List (Effect α β) → α → Bool × Option β
  | [], _ => (false, none)
  | e :: es, a =>
    let later := view es a
    ((e.writes a).isSome || later.1, later.2.or (if later.1 then none else e.finds a))

theorem view_eq (es : List (Effect α β)) (a : α) : view es a = (((all es).writes a).isSome, (all es).finds a) := by
  induction es with
  | nil => rfl
  | cons e es ih =>
    rw [view, ih]
    change _ = ((((all es).writes a).or (e.writes a)).isSome,
      ((all es).finds a).or (((all es).writes a).elim (e.finds a) fun _ => none))
    cases (all es).writes a with
    | none => simp
    | some b => simp

/-- the writes that take were made, and what was found is there -/
structure Reached (e : Effect α β) (taken : α → Bool) (start f : α → β) : Prop where
  written : f = (e.writes.restrict taken).apply start
  found : e.finds.Found f

/-- nothing was written elsewhere -/
def Within (e : Effect α β) (taken : α → Bool) (start f : α → β) : Prop := (e.writes.restrict taken).Agree f start

theorem Reached.within (h : e.Reached taken start f) : e.Within taken start f := by
  rw [h.written]
  exact Overwrite.Agree.apply _ _

theorem Within.refl (e : Effect α β) (taken : α → Bool) (start : α → β) : e.Within taken start start :=
  Overwrite.Agree.refl _ _

theorem Within.left (h : e.Within taken start f) (e' : Effect α β) : (e.andThen e').Within taken start f := by
  rw [Within, andThen, Overwrite.restrict_andThen]
  exact h.andThen_left _

/-- **One after the other.** -/
theorem Reached.andThen (h : e.Reached taken start f) (h' : e'.Reached taken f g) :
    (e.andThen e').Reached taken start g := by
  constructor
  · rw [h'.written, h.written, Effect.andThen, Overwrite.restrict_andThen, Overwrite.apply_andThen]
  · refine h'.found.andThen (h.found.hide _ fun a ha => ?_)
    exact h'.within a (Overwrite.restrict_eq_none ha)

/-- the second update stopped half-way -/
theorem Within.andThen (h : e.Reached taken start f) (h' : e'.Within taken f g) :
    (e.andThen e').Within taken start g := by
  rw [Within, Effect.andThen, Overwrite.restrict_andThen]
  exact (Overwrite.Agree.andThen_right h' _).trans (h.within.andThen_left _)

end Effect

end WfbLink.Core
