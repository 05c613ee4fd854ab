/-
Tallies with room for a limited number of keys.

A tally is a list of entries, each a key with a count. A key that has an entry adds to its count; a new key gets an
entry as long as there is room, and is ignored afterwards. Tallies are merged by adding the entries of one to the other.

- `tracked_foldl`: which keys get an entry does not depend on how a sequence is split.
- `tallyAll_batch`, `tallyAll_batches`: the keys and the counts of a tally, and of the tallies of batches, merged.
- `sum_map_modify`: counting in one row of a table.
-/
import Mathlib.Tactic

namespace WfbLink.Core

/-! ## Keys -/

section Keys

variable {κ : Type} [DecidableEq κ] (cap : ℕ)

/-- the keys with an entry, once `k` has been seen -/
def track (keys : List κ) (k : κ) : List κ :=
  if k ∈ keys then keys else if keys.length < cap then keys ++ [k] else keys

def tracked (ks : List κ) : List κ := ks.foldl (track cap) []

variable {cap}

theorem track_of_full {keys : List κ} (h : cap ≤ keys.length) (k : κ) : track cap keys k = keys := by
  unfold track
  rw [if_neg (Nat.not_lt.2 h), ite_self]

theorem track_foldl_of_full {keys : List κ} (h : cap ≤ keys.length) (ks : List κ) :
    ks.foldl (track cap) keys = keys := by
  induction ks with
  | nil => rfl
  | cons k ks ih => rw [List.foldl_cons, track_of_full h, ih]

theorem subset_track (keys : List κ) (k : κ) : keys ⊆ track cap keys k := by
  unfold track
  split_ifs
  · exact List.Subset.refl keys
  · exact List.subset_append_left keys [k]
  · exact List.Subset.refl keys

theorem subset_track_foldl (keys ks : List κ) : keys ⊆ ks.foldl (track cap) keys := by
  induction ks generalizing keys with
  | nil => exact List.Subset.refl keys
  | cons k ks ih => exact List.Subset.trans (subset_track keys k) (ih _)

theorem mem_track_or_full (keys : List κ) (k : κ) : k ∈ track cap keys k ∨ cap ≤ (track cap keys k).length := by
  unfold track
  split_ifs with hmem hroom
  · exact .inl hmem
  · exact .inl (List.mem_append_right keys List.mem_cons_self)
  · exact .inr (Nat.not_lt.1 hroom)

/-- a key that was seen has an entry, or there is no room -/
theorem mem_foldl_or_full {ks : List κ} {k : κ} (h : k ∈ ks) (keys : List κ) :
    k ∈ ks.foldl (track cap) keys ∨ cap ≤ (ks.foldl (track cap) keys).length := by
  induction ks generalizing keys with
  | nil => cases h
  | cons k' ks ih =>
    rcases List.mem_cons.1 h with rfl | h
    · rcases mem_track_or_full keys k with hmem | hfull
      · exact .inl (subset_track_foldl _ ks hmem)
      · rw [List.foldl_cons, track_foldl_of_full hfull]
        exact .inr hfull
    · exact ih h _

theorem nodup_track {keys : List κ} (h : keys.Nodup) (k : κ) : (track cap keys k).Nodup := by
  unfold track
  split_ifs with hmem
  · exact h
  · exact List.nodup_append.2 ⟨h, List.nodup_singleton k, by
      intro a ha b hb hab
      rw [List.mem_singleton.1 hb] at hab
      exact hmem (hab ▸ ha)⟩
  · exact h

theorem nodup_track_foldl {keys : List κ} (h : keys.Nodup) (ks : List κ) : (ks.foldl (track cap) keys).Nodup := by
  induction ks generalizing keys with
  | nil => exact h
  | cons k ks ih => exact ih (nodup_track h k)

theorem nodup_tracked (ks : List κ) : (tracked cap ks).Nodup := nodup_track_foldl List.nodup_nil ks

/-- **Splitting keeps the keys.** Seeing the tracked keys of a sequence is seeing the sequence. -/
theorem tracked_foldl (keys ks : List κ) :
    (tracked cap ks).foldl (track cap) keys = ks.foldl (track cap) keys := by
  induction ks using List.reverseRecOn with
  | nil => rfl
  | append_singleton ks k ih =>
    have hsnoc : tracked cap (ks ++ [k]) = track cap (tracked cap ks) k := by
      rw [tracked, List.foldl_append]
      rfl
    rw [hsnoc, List.foldl_append, List.foldl_cons, List.foldl_nil, ← ih]
    by_cases hmem : k ∈ tracked cap ks
    · -- the key has an entry already
      rw [show track cap (tracked cap ks) k = tracked cap ks by rw [track, if_pos hmem]]
      have hseen : k ∈ (tracked cap ks).foldl (track cap) keys ∨ _ := mem_foldl_or_full hmem keys
      rcases hseen with hin | hfull
      · rw [track, if_pos hin]
      · rw [track_of_full hfull]
    · by_cases hroom : (tracked cap ks).length < cap
      · rw [show track cap (tracked cap ks) k = tracked cap ks ++ [k] by rw [track, if_neg hmem, if_pos hroom],
          List.foldl_append]
        rfl
      · -- the sequence has left no room, so the keys it is added to have none either
        rw [track_of_full (Nat.not_lt.1 hroom)]
        refine (track_of_full ?_ k).symm
        by_contra hopen
        have hsub : tracked cap ks ⊆ (tracked cap ks).foldl (track cap) keys := by
          intro x hx
          exact (mem_foldl_or_full hx keys).resolve_right hopen
        have hle := ((nodup_tracked ks).subperm hsub).length_le
        exact hopen ((Nat.not_lt.1 hroom).trans hle)

theorem tracked_subset (ks : List κ) : tracked cap ks ⊆ ks := by
  induction ks using List.reverseRecOn with
  | nil => exact List.Subset.refl _
  | append_singleton ks k ih =>
    have hsnoc : tracked cap (ks ++ [k]) = track cap (tracked cap ks) k := by
      rw [tracked, List.foldl_append]
      rfl
    intro x hx
    rw [hsnoc, track] at hx
    split_ifs at hx
    · exact List.mem_append_left _ (ih hx)
    · rcases List.mem_append.1 hx with hx | hx
      · exact List.mem_append_left _ (ih hx)
      · exact List.mem_append_right _ hx
    · exact List.mem_append_left _ (ih hx)

/-- a sequence with no more different keys than there is room for has all of them tracked -/
theorem mem_tracked_of_card {ks : List κ} (hcard : ks.toFinset.card ≤ cap) {k : κ} (h : k ∈ ks) : k ∈ tracked cap ks := by
  have hseen : k ∈ tracked cap ks ∨ cap ≤ (tracked cap ks).length := mem_foldl_or_full h []
  refine hseen.elim id fun hfull => ?_
  have hsub : (tracked cap ks).toFinset ⊆ ks.toFinset := by
    intro x hx
    exact List.mem_toFinset.2 (tracked_subset ks (List.mem_toFinset.1 hx))
  have hall : (tracked cap ks).toFinset = ks.toFinset := by
    refine Finset.eq_of_subset_of_card_le hsub ?_
    rw [List.toFinset_card_of_nodup (nodup_tracked ks)]
    exact hcard.trans hfull
  exact List.mem_toFinset.1 (hall ▸ List.mem_toFinset.2 h)

end Keys

/-! ## Entries -/

/-- entries with a key and a count; counts are added up from `zero` -/
structure TallyEntry (κ ν ε : Type) where
  key : ε → κ
  entry : κ → ν → ε
  bump : ε → ν → ε
  zero : ν
  add : ν → ν → ν
  key_entry : ∀ k n, key (entry k n) = k
  bump_entry : ∀ k m n, bump (entry k m) n = entry k (add m n)
  zero_add : ∀ n, add zero n = n

section Tally

variable {κ ν ε : Type} [DecidableEq κ] (cap : ℕ) (T : TallyEntry κ ν ε)

/-- adds `n` to the entry of the same key, or appends the new entry while there is room -/
def tallyAdd (tally : List ε) (e : ε) (n : ν) : List ε :=
  match tally.findIdx? fun existing => decide (T.key existing = T.key e) with
  | some i => tally.modify i fun existing => T.bump existing n
  | none => if tally.length < cap then tally ++ [e] else tally

/-- the tally of these keys, with these counts -/
def entries (keys : List κ) (counts : κ → ν) : List ε := keys.map fun k => T.entry k (counts k)

/-- the counts of keys without an entry are zero, or there is no room for them -/
def Settled (keys : List κ) (counts : κ → ν) : Prop := cap ≤ keys.length ∨ ∀ k ∉ keys, counts k = T.zero

variable {cap T}

theorem findIdx_entries {keys : List κ} (counts : κ → ν) {k : κ} (hnodup : keys.Nodup) (hmem : k ∈ keys) (n : ν) :
    ∃ i, (entries T keys counts).findIdx? (fun existing => decide (T.key existing = T.key (T.entry k n))) = some i ∧
      (entries T keys counts).modify i (fun existing => T.bump existing n)
        = entries T keys (Function.update counts k (T.add (counts k) n)) := by
  induction keys with
  | nil => cases hmem
  | cons k' keys ih =>
    obtain ⟨hnotMem, hnodup⟩ := List.nodup_cons.1 hnodup
    by_cases heq : k' = k
    · subst heq
      refine ⟨0, ?_, ?_⟩
      · rw [entries, List.map_cons, List.findIdx?_cons, T.key_entry, T.key_entry, if_pos (decide_eq_true rfl)]
      · rw [entries, List.map_cons, List.modify_zero_cons, T.bump_entry, entries, List.map_cons, Function.update_self]
        refine congrArg _ (List.map_congr_left fun x hx => ?_)
        have hne : x ≠ k' := fun h => hnotMem (h ▸ hx)
        rw [Function.update_of_ne hne]
    · obtain ⟨i, hfind, hmodify⟩ := ih hnodup ((List.mem_cons.1 hmem).resolve_left (Ne.symm heq))
      refine ⟨i + 1, ?_, ?_⟩
      · rw [T.key_entry] at hfind
        rw [entries, List.map_cons, List.findIdx?_cons, T.key_entry, T.key_entry, if_neg (by simpa using heq)]
        exact congrArg (Option.map (· + 1)) hfind
      · rw [entries, List.map_cons, List.modify_succ_cons]
        refine (congrArg _ hmodify).trans ?_
        rw [entries, entries, List.map_cons, Function.update_of_ne heq]

theorem findIdx_entries_none {keys : List κ} {counts : κ → ν} {k : κ} (hmem : k ∉ keys) (n : ν) :
    (entries T keys counts).findIdx? (fun existing => decide (T.key existing = T.key (T.entry k n))) = none := by
  rw [List.findIdx?_eq_none_iff]
  intro e he
  obtain ⟨k', hk', rfl⟩ := List.mem_map.1 he
  rw [T.key_entry, T.key_entry, decide_eq_false_iff_not]
  exact fun h => hmem (h ▸ hk')

theorem entries_update_of_notMem {keys : List κ} {k : κ} (hmem : k ∉ keys) (counts : κ → ν) (n : ν) :
    entries T keys (Function.update counts k n) = entries T keys counts := by
  refine List.map_congr_left fun x hx => ?_
  have hne : x ≠ k := fun h => hmem (h ▸ hx)
  rw [Function.update_of_ne hne]

/-- **One entry.** The key is tracked, and its count goes up. -/
theorem tallyAdd_entries {keys : List κ} {counts : κ → ν} (hnodup : keys.Nodup) (hsettled : Settled cap T keys counts)
    (k : κ) (n : ν) :
    tallyAdd cap T (entries T keys counts) (T.entry k n) n
      = entries T (track cap keys k) (Function.update counts k (T.add (counts k) n)) := by
  unfold tallyAdd track
  by_cases hmem : k ∈ keys
  · obtain ⟨i, hfind, hmodify⟩ := findIdx_entries (T := T) counts hnodup hmem n
    rw [hfind, if_pos hmem]
    exact hmodify
  · rw [findIdx_entries_none hmem, if_neg hmem]
    have hlen : (entries T keys counts).length = keys.length := List.length_map _
    dsimp only
    rw [hlen]
    split_ifs with hroom
    · have hzero : counts k = T.zero := hsettled.resolve_left (Nat.not_le.2 hroom) k hmem
      have hsnoc : entries T (keys ++ [k]) (Function.update counts k (T.add (counts k) n)) =
          entries T keys (Function.update counts k (T.add (counts k) n)) ++ [T.entry k n] := by
        rw [entries, List.map_append, List.map_singleton, Function.update_self, hzero, T.zero_add, entries]
      rw [hsnoc, entries_update_of_notMem hmem]
    · exact (entries_update_of_notMem hmem counts _).symm

theorem settled_update {keys : List κ} {counts : κ → ν} (hsettled : Settled cap T keys counts) (k : κ) (n : ν) :
    Settled cap T (track cap keys k) (Function.update counts k n) := by
  rcases hsettled with hfull | hzero
  · rw [track_of_full hfull]
    exact .inl hfull
  · have hseen : k ∈ track cap keys k ∨ _ := mem_track_or_full keys k
    rcases hseen with hmem | hfull
    · refine .inr fun x hx => ?_
      have hne : x ≠ k := fun h => hx (h ▸ hmem)
      rw [Function.update_of_ne hne]
      exact hzero x fun hx' => hx (subset_track keys k hx')
    · exact .inl hfull

/-! ## Sequences -/

variable (cap T)

/-- adds these keys, each with its count -/
def tallyAll (tally : List ε) (ks : List (κ × ν)) : List ε :=
  ks.foldl (fun tally k => tallyAdd cap T tally (T.entry k.1 k.2) k.2) tally

def addCounts (counts : κ → ν) (ks : List (κ × ν)) : κ → ν :=
  ks.foldl (fun counts k => Function.update counts k.1 (T.add (counts k.1) k.2)) counts

variable {cap T}

/-- **A sequence of keys.** Its keys are tracked one after the other, and every count goes up by its own share. -/
theorem tallyAll_entries {keys : List κ} {counts : κ → ν} (hnodup : keys.Nodup) (hsettled : Settled cap T keys counts)
    (ks : List (κ × ν)) :
    tallyAll cap T (entries T keys counts) ks
      = entries T ((ks.map Prod.fst).foldl (track cap) keys) (addCounts T counts ks) := by
  induction ks generalizing keys counts with
  | nil => rfl
  | cons k ks ih =>
    rw [tallyAll, List.foldl_cons, tallyAdd_entries hnodup hsettled]
    exact ih (nodup_track hnodup k.1) (settled_update hsettled k.1 _)

theorem settled_addCounts {keys : List κ} {counts : κ → ν} (hsettled : Settled cap T keys counts) (ks : List (κ × ν)) :
    Settled cap T ((ks.map Prod.fst).foldl (track cap) keys) (addCounts T counts ks) := by
  induction ks generalizing keys counts with
  | nil => exact hsettled
  | cons k ks ih => exact ih (settled_update hsettled k.1 _)

/-- every key seen once adds one -/
theorem addCounts_each (counts : κ → ν) (one : ν) (ks : List κ) (k : κ) :
    addCounts T counts (ks.map fun x => (x, one)) k = (fun c => T.add c one)^[ks.countP (· = k)] (counts k) := by
  induction ks generalizing counts with
  | nil => rfl
  | cons x ks ih =>
    rw [List.map_cons, addCounts, List.foldl_cons]
    refine (ih _).trans ?_
    by_cases heq : x = k
    · rw [heq, List.countP_cons_of_pos (by simp), Function.update_self, Function.iterate_succ_apply]
    · rw [List.countP_cons_of_neg (by simpa using heq), Function.update_of_ne (Ne.symm heq)]

/-- adding a tally adds the counts of its keys -/
theorem addCounts_tally (counts g : κ → ν) {keys : List κ} (hnodup : keys.Nodup) (k : κ) :
    addCounts T counts (keys.map fun x => (x, g x)) k = if k ∈ keys then T.add (counts k) (g k) else counts k := by
  induction keys generalizing counts with
  | nil => rfl
  | cons x keys ih =>
    obtain ⟨hnotMem, hnodup⟩ := List.nodup_cons.1 hnodup
    rw [List.map_cons, addCounts, List.foldl_cons]
    refine (ih _ hnodup).trans ?_
    by_cases heq : x = k
    · subst heq
      rw [if_neg hnotMem, if_pos List.mem_cons_self, Function.update_self]
    · have hiff : k ∈ x :: keys ↔ k ∈ keys := by rw [List.mem_cons, or_iff_right (Ne.symm heq)]
      simp only [hiff, Function.update_of_ne (Ne.symm heq)]

/-! ## Batches -/

variable (cap T)

/-- the tally of one batch: its keys, and how often it has each of them -/
def batchTally (one : ν) (ks : List κ) : List (κ × ν) :=
  (tracked cap ks).map fun k => (k, (fun c => T.add c one)^[ks.countP (· = k)] T.zero)

/-- the share of the batches in the count of a key: a batch without room for the key adds nothing -/
def batchedCount (one : ν) (batches : List (List κ)) (k : κ) (start : ν) : ν :=
  batches.foldl
    (fun c ks => if k ∈ tracked cap ks then T.add c ((fun c => T.add c one)^[ks.countP (· = k)] T.zero) else c) start

variable {cap T}

/-- **A batch on its own** has its tracked keys, each with its number of occurrences. -/
theorem tallyAll_batch (one : ν) (ks : List κ) :
    tallyAll cap T [] (ks.map fun k => (k, one))
      = entries T (tracked cap ks) fun k => (fun c => T.add c one)^[ks.countP (· = k)] T.zero := by
  have hsettled : Settled cap T [] fun _ => T.zero := .inr fun _ _ => rfl
  have hall := tallyAll_entries List.nodup_nil hsettled (ks.map fun k => (k, one))
  rw [List.map_map] at hall
  refine hall.trans ?_
  have hkeys : ks.map (Prod.fst ∘ fun k => (k, one)) = ks := List.map_id ks
  rw [hkeys, tracked]
  exact congrArg _ (funext fun k => addCounts_each _ one ks k)

/-- **Batches, merged.** The keys are those of the whole sequence. -/
theorem tallyAll_batches (one : ν) {keys : List κ} {counts : κ → ν} (hnodup : keys.Nodup)
    (hsettled : Settled cap T keys counts) (batches : List (List κ)) :
    batches.foldl (fun tally ks => tallyAll cap T tally (batchTally cap T one ks)) (entries T keys counts)
      = entries T (batches.flatten.foldl (track cap) keys)
          fun k => batchedCount cap T one batches k (counts k) := by
  induction batches generalizing keys counts with
  | nil => rfl
  | cons ks batches ih =>
    have hkeys : ((batchTally cap T one ks).map Prod.fst).foldl (track cap) keys = ks.foldl (track cap) keys := by
      rw [batchTally, List.map_map, ← tracked_foldl keys ks]
      exact congrArg (List.foldl _ _) (List.map_id _)
    have hsettled' := settled_addCounts hsettled (batchTally cap T one ks)
    rw [hkeys] at hsettled'
    rw [List.foldl_cons, tallyAll_entries hnodup hsettled, hkeys, ih (nodup_track_foldl hnodup ks) hsettled',
      List.flatten_cons, List.foldl_append]
    refine congrArg _ (funext fun k => ?_)
    rw [batchTally, addCounts_tally _ _ (nodup_tracked ks)]
    rfl

end Tally

/-! ## Rows of counters -/

/-- counting in one row adds to the sum over the rows -/
theorem sum_map_modify {α : Type} {rows : List α} {i : ℕ} {row : α} (hrow : rows[i]? = some row) {f : α → α} {g : α → ℕ}
    {n : ℕ} (hf : g (f row) = g row + n) : ((rows.modify i f).map g).sum = (rows.map g).sum + n := by
  induction rows generalizing i with
  | nil => cases hrow
  | cons first rows ih =>
    cases i with
    | zero =>
      cases hrow
      rw [List.modify_zero_cons, List.map_cons, List.map_cons, List.sum_cons, List.sum_cons, hf]
      omega
    | succ i =>
      rw [List.modify_succ_cons, List.map_cons, List.map_cons, List.sum_cons, List.sum_cons, ih hrow]
      omega

end WfbLink.Core
