/-
Batching a stream of items.

A batcher collects items and closes the collected ones into a batch from time to time. Whenever it closes, nothing is
lost, duplicated or reordered: the closed batches and the pending items, one after the other, are the items pushed
(`items_push`, `items_close`), and a closed batch is never empty.
-/
import Mathlib.Tactic

namespace WfbLink.Core

structure Batcher (α : Type) where
  closed : List (List α) := []
  pending : List α := []
deriving Repr

namespace Batcher

variable {α : Type}

def push (b : Batcher α) (x : α) : Batcher α := { b with pending := b.pending ++ [x] }

/-- closes the pending items into a batch, if there are any -/
def close (b : Batcher α) : Batcher α :=
  match b.pending with
  | [] => b
  | _ :: _ => { closed := b.closed ++ [b.pending], pending := [] }

/-- everything that was pushed -/
def items (b : Batcher α) : List α := b.closed.flatten ++ b.pending

@[simp] theorem push_closed (b : Batcher α) (x : α) : (b.push x).closed = b.closed := rfl

@[simp] theorem push_pending (b : Batcher α) (x : α) : (b.push x).pending = b.pending ++ [x] := rfl

@[simp] theorem close_pending (b : Batcher α) : b.close.pending = [] := by
  unfold close
  split
  · assumption
  · rfl

theorem close_of_nil {b : Batcher α} (h : b.pending = []) : b.close = b := by
  unfold close
  rw [h]

theorem close_closed {b : Batcher α} (h : b.pending ≠ []) : b.close.closed = b.closed ++ [b.pending] := by
  unfold close
  split
  · exact absurd ‹_› h
  · rfl

theorem items_push (b : Batcher α) (x : α) : (b.push x).items = b.items ++ [x] := by
  rw [items, items, push_closed, push_pending, List.append_assoc]

theorem items_close (b : Batcher α) : b.close.items = b.items := by
  by_cases h : b.pending = []
  · rw [close_of_nil h]
  · rw [items, close_pending, close_closed h, List.flatten_append, List.append_nil]
    simp [items]

/-- what holds of the batches closed so far and of the pending items holds of the batches after closing -/
theorem forall_close {P : List α → Prop} {b : Batcher α} (hclosed : ∀ batch ∈ b.closed, P batch)
    (hpending : b.pending ≠ [] → P b.pending) : ∀ batch ∈ b.close.closed, P batch := by
  by_cases h : b.pending = []
  · rw [close_of_nil h]
    exact hclosed
  · rw [close_closed h]
    intro batch hbatch
    rcases List.mem_append.1 hbatch with hbatch | hbatch
    · exact hclosed batch hbatch
    · rw [List.mem_singleton.1 hbatch]
      exact hpending h

end Batcher

end WfbLink.Core
