/-
What actions do to their state whatever they return, and actions on the members of a list in a shared world.

Each member owns a part of the world. An action on one member changes its part at will, and lets the parts of the others
drift. What is said about a member and its part alone, and does not mind the drift, can then be proved member by member.

- `Within`: an action stays within a relation; one rule for each way to build an action.
- `forEach_triple`: what an action does to one member, `forEach` does to all.
- `forEach_results`, `forEach_log`: its results, and what it adds to a log, are those of the members.
-/
import WfbLink.Core.Action

namespace WfbLink.Core

/-! ## Actions within a relation -/

section Within

variable {σ ε ε' α β : Type} {R R' : σ → σ → Prop}

/-- from any state, the action ends in a related state -/
def Within (R : σ → σ → Prop) (act : Action σ ε α) : Prop := ∀ s, R s (act s).2

namespace Within

variable {act : Action σ ε α} {f : α → Action σ ε β}

theorem ofState {g : σ → α × σ} (h : ∀ s, R s (g s).2) : Within R (Action.ofState g : Action σ ε α) := h

theorem attempt (h : Within R act) : Within R (Action.attempt act : Action σ ε' (Except ε α)) := h

/-- step by step, from a list of what the action does -/
theorem of_cases {Cases : σ → Except ε α × σ → Prop} (h : ∀ s, Cases s (act s))
    (hstep : ∀ s run, Cases s run → R s run.2) : Within R act := fun s => hstep s _ (h s)

theorem mono (h : Within R act) (himp : ∀ s s', R s s' → R' s s') : Within R' act := fun s => himp s _ (h s)

section Preorder

variable [IsPreorder σ R]

theorem pure (a : α) : Within R (Pure.pure a : Action σ ε α) := fun s => refl_of R s

theorem fail (e : ε) : Within R (Action.fail e : Action σ ε α) := fun s => refl_of R s

theorem bind (h : Within R act) (hf : ∀ a, Within R (f a)) : Within R (act >>= f) := by
  intro s
  have hact := h s
  rcases hrun : act s with ⟨e | a, s'⟩
  · rw [hrun] at hact
    rw [Action.bind_of_error hrun]
    exact hact
  · rw [hrun] at hact
    rw [Action.bind_of_ok hrun]
    exact trans_of R hact (hf a s')

end Preorder

/-- what the relation preserves, the action preserves -/
theorem triple (h : Within R act) {P : σ → Prop} (himp : ∀ s s', R s s' → P s → P s') :
    Triple P act (fun _ => P) fun _ => P := by
  intro s hs
  have hafter := himp s _ (h s) hs
  rcases hrun : act s with ⟨e | a, s'⟩
  · rw [hrun] at hafter
    exact hafter
  · rw [hrun] at hafter
    exact hafter

/-- what holds after every outcome -/
theorem of_triple {P : σ → Prop} (h : Triple P act (fun _ => P) fun _ => P) : Within (fun s s' => P s → P s') act := by
  intro s hs
  have hafter := h s hs
  rcases hrun : act s with ⟨e | a, s'⟩
  · rw [hrun] at hafter
    exact hafter
  · rw [hrun] at hafter
    exact hafter

end Within

theorem Triple.of_cases {P : σ → Prop} {Q : α → σ → Prop} {E : ε → σ → Prop} {act : Action σ ε α}
    {Cases : σ → Except ε α × σ → Prop} (h : ∀ s, Cases s (act s))
    (hstep : ∀ s, P s → ∀ run, Cases s run → Ends Q E run) : Triple P act Q E := fun s hs => hstep s hs _ (h s)

end Within

/-! ## Members of a list -/

/-- something held, and the world next to it -/
structure Beside (κ ω : Type) where
  held : κ
  world : ω

section Members

variable {κ ω ε α : Type}

def inWorld (act : Action ω ε α) : Action (Beside κ ω) ε α := fun s =>
  let (result, world) := act s.world
  (result, { s with world })

/-- the action on each member in turn, up to the first failure -/
def forEachMember (body : Action (Beside κ ω) ε α) : List κ → ω → Except ε (List α) × Beside (List κ) ω
  | [], world => (.ok [], ⟨[], world⟩)
  | member :: members, world =>
    match body ⟨member, world⟩ with
    | (.error e, s) => (.error e, ⟨s.held :: members, s.world⟩)
    | (.ok a, s) =>
      let (result, rest) := forEachMember body members s.world
      (result.map (a :: ·), ⟨s.held :: rest.held, rest.world⟩)

def forEach (body : Action (Beside κ ω) ε α) : Action (Beside (List κ) ω) ε (List α) := fun s =>
  forEachMember body s.held s.world

variable {ι π : Type} (key : κ → ι) (part : ω → ι → π) (Drift : π → π → Prop)

/-- the action keeps the key of its member, and leaves the parts of the others to drift -/
def Confined (s s' : Beside κ ω) : Prop :=
  key s'.held = key s.held ∧ ∀ i ≠ key s.held, Drift (part s.world i) (part s'.world i)

/-- what is said about a member and its part of the world -/
def AtPart (P : κ → π → Prop) (s : Beside κ ω) : Prop := P s.held (part s.world (key s.held))

/-- it holds of every member -/
def AllParts (P : κ → π → Prop) (s : Beside (List κ) ω) : Prop := ∀ k ∈ s.held, P k (part s.world (key k))

/-- a statement about a member that does not mind the drift -/
def Stable (P : κ → π → Prop) : Prop := ∀ k p p', Drift p p' → P k p → P k p'

variable {key part Drift} {body : Action (Beside κ ω) ε α} {P : κ → π → Prop} {Q : α → κ → π → Prop}

theorem AllParts.of_drift (hP : Stable Drift P) {members : List κ} {w w' : ω}
    (hdrift : ∀ k ∈ members, Drift (part w (key k)) (part w' (key k))) (h : AllParts key part P ⟨members, w⟩) :
    AllParts key part P ⟨members, w'⟩ := fun k hk => hP k _ _ (hdrift k hk) (h k hk)

/-- the action on the members leaves everybody else to drift -/
theorem forEachMember_confined [IsPreorder π Drift] (hbody : Within (Confined key part Drift) body) (members : List κ)
    (w : ω) : (forEachMember body members w).2.held.map key = members.map key ∧
      ∀ i ∉ members.map key, Drift (part w i) (part (forEachMember body members w).2.world i) := by
  induction members generalizing w with
  | nil => exact ⟨rfl, fun i _ => refl_of Drift _⟩
  | cons member members ih =>
    obtain ⟨hkey, hothers⟩ := hbody ⟨member, w⟩
    rw [forEachMember]
    rcases hrun : body ⟨member, w⟩ with ⟨e | a, s⟩
    · rw [hrun] at hkey hothers
      refine ⟨?_, fun i hi => hothers i fun h => hi (h ▸ List.mem_cons_self)⟩
      rw [List.map_cons, List.map_cons, hkey]
    · rw [hrun] at hkey hothers
      obtain ⟨hkeys, hrest⟩ := ih s.world
      refine ⟨?_, fun i hi => ?_⟩
      · rw [List.map_cons, List.map_cons, hkey]
        exact congrArg _ hkeys
      · have hfirst := hothers i fun h => hi (h ▸ List.mem_cons_self)
        exact trans_of Drift hfirst (hrest i fun h => hi (List.mem_cons_of_mem _ h))

/-- **Member by member.** The results are true of the members that are left, and so is what held before if the action
fails on the way. -/
theorem forEach_triple [IsPreorder π Drift] (hbody : Within (Confined key part Drift) body) (hP : Stable Drift P)
    (hQ : ∀ a, Stable Drift (Q a)) (hQP : ∀ a k p, Q a k p → P k p)
    (hone : Triple (AtPart key part P) body (fun a => AtPart key part (Q a)) fun _ => AtPart key part P) :
    Triple (fun s => (s.held.map key).Nodup ∧ AllParts key part P s) (forEach body)
      (fun as s => List.Forall₂ (fun a k => Q a k (part s.world (key k))) as s.held) fun _ => AllParts key part P := by
  rintro ⟨members, w⟩ ⟨hnodup, hall⟩
  change Ends _ _ (forEachMember body members w)
  induction members generalizing w with
  | nil => exact .nil
  | cons member members ih =>
    obtain ⟨hfresh, hnodup⟩ := List.nodup_cons.1 hnodup
    obtain ⟨hkey, hothers⟩ := hbody ⟨member, w⟩
    have hfirst := hone ⟨member, w⟩ (hall member List.mem_cons_self)
    rw [forEachMember]
    rcases hrun : body ⟨member, w⟩ with ⟨e | a, s⟩
    all_goals
      rw [hrun] at hkey hothers hfirst
      have hrest : AllParts key part P ⟨members, s.world⟩ := by
        refine AllParts.of_drift hP (fun k hk => hothers _ fun h => hfresh ?_) fun k hk =>
          hall k (List.mem_cons_of_mem _ hk)
        exact h ▸ List.mem_map_of_mem hk
    · exact List.forall_mem_cons.2 ⟨hfirst, hrest⟩
    · have hthen := ih s.world hnodup hrest
      have hdrift := (forEachMember_confined hbody members s.world).2
      rw [← hkey] at hfresh
      have hkept := hQ a s.held _ _ (hdrift (key s.held) hfresh) hfirst
      dsimp only
      rcases hrun' : forEachMember body members s.world with ⟨e | as, s'⟩
      · rw [hrun'] at hthen hkept
        exact List.forall_mem_cons.2 ⟨hQP a _ _ hkept, hthen⟩
      · rw [hrun'] at hthen hkept
        exact List.Forall₂.cons hkept hthen

/-- what every member ends in, whatever the action returns for it -/
theorem forEach_all [IsPreorder π Drift] {P' : κ → π → Prop} (hbody : Within (Confined key part Drift) body)
    (hP : Stable Drift P) (hP' : Stable Drift P') (himp : ∀ k p, P' k p → P k p)
    (hone : Triple (AtPart key part P) body (fun _ => AtPart key part P') fun _ => AtPart key part P) :
    Triple (fun s => (s.held.map key).Nodup ∧ AllParts key part P s) (forEach body)
      (fun _ s => (s.held.map key).Nodup ∧ AllParts key part P' s)
      fun _ s => (s.held.map key).Nodup ∧ AllParts key part P s := by
  intro s hs
  have hnodup : ((forEach body s).2.held.map key).Nodup := by
    change ((forEachMember body s.held s.world).2.held.map key).Nodup
    rw [(forEachMember_confined hbody s.held s.world).1]
    exact hs.1
  have hrun := forEach_triple (Q := fun _ => P') hbody hP (fun _ => hP') (fun _ => himp) hone s hs
  rcases hresult : forEach body s with ⟨e | as, s'⟩
  · rw [hresult] at hrun hnodup
    exact ⟨hnodup, hrun⟩
  · rw [hresult] at hrun hnodup
    refine ⟨hnodup, fun k hk => ?_⟩
    obtain ⟨i, hi, rfl⟩ := List.getElem_of_mem hk
    exact hrun.get (by rw [hrun.length_eq]; exact hi) hi

instance forall₂_isPreorder {R : κ → κ → Prop} [IsPreorder κ R] : IsPreorder (List κ) (List.Forall₂ R) where
  refl _ := List.forall₂_same.2 fun k _ => refl_of R k
  trans l₁ l₂ l₃ h h' := by
    induction h generalizing l₃ with
    | nil => exact h'
    | cons hfirst _ ih =>
      cases h' with
      | cons hfirst' hrest' => exact .cons (trans_of R hfirst hfirst') (ih _ hrest')

/-- each member stays within a relation -/
theorem forEachMember_held {R : κ → κ → Prop} [IsPreorder κ R]
    (hbody : Within (fun s s' : Beside κ ω => R s.held s'.held) body) (members : List κ) (w : ω) :
    List.Forall₂ R members (forEachMember body members w).2.held := by
  induction members generalizing w with
  | nil => exact .nil
  | cons member members ih =>
    have hfirst := hbody ⟨member, w⟩
    rw [forEachMember]
    rcases hrun : body ⟨member, w⟩ with ⟨e | a, s⟩
    · rw [hrun] at hfirst
      exact .cons hfirst (refl_of (List.Forall₂ R) members)
    · rw [hrun] at hfirst
      exact .cons hfirst (ih s.world)

/-- the world stays within a relation -/
theorem forEachMember_world {R : ω → ω → Prop} [IsPreorder ω R]
    (hbody : Within (fun s s' : Beside κ ω => R s.world s'.world) body) (members : List κ) (w : ω) :
    R w (forEachMember body members w).2.world := by
  induction members generalizing w with
  | nil => exact refl_of R w
  | cons member members ih =>
    have hfirst := hbody ⟨member, w⟩
    rw [forEachMember]
    rcases hrun : body ⟨member, w⟩ with ⟨e | a, s⟩
    · rw [hrun] at hfirst
      exact hfirst
    · rw [hrun] at hfirst
      exact trans_of R hfirst (ih s.world)

/-- an action that always returns -/
def Returns {σ ε α : Type} (act : Action σ ε α) : Prop := ∀ s, ∃ a s', act s = (.ok a, s')

theorem Returns.of_cases {σ ε α : Type} {act : Action σ ε α} {Cases : σ → Except ε α × σ → Prop}
    (h : ∀ s, Cases s (act s)) (hok : ∀ s run, Cases s run → ∃ a s', run = (.ok a, s')) : Returns act :=
  fun s => hok s _ (h s)

theorem Returns.forEach (hbody : Returns body) : Returns (Core.forEach body) := by
  rintro ⟨members, w⟩
  change ∃ as s', forEachMember body members w = (.ok as, s')
  induction members generalizing w with
  | nil => exact ⟨[], _, rfl⟩
  | cons member members ih =>
    obtain ⟨a, s, hfirst⟩ := hbody ⟨member, w⟩
    obtain ⟨as, s', hrest⟩ := ih s.world
    rw [forEachMember, hfirst]
    dsimp only
    rw [hrest]
    exact ⟨a :: as, _, rfl⟩

/-- every result goes with what its member has become, while the world keeps an invariant -/
theorem forEach_results {I : ω → Prop} {R : α → κ → Prop}
    (hbody : ∀ s a s', I s.world → body s = (.ok a, s') → I s'.world ∧ R a s'.held)
    {s : Beside (List κ) ω} {as : List α} {s' : Beside (List κ) ω} (hI : I s.world)
    (hrun : Core.forEach body s = (.ok as, s')) : List.Forall₂ R as s'.held := by
  obtain ⟨members, w⟩ := s
  change forEachMember body members w = (.ok as, s') at hrun
  induction members generalizing w as s' with
  | nil =>
    cases hrun
    exact .nil
  | cons member members ih =>
    rw [forEachMember] at hrun
    rcases hfirst : body ⟨member, w⟩ with ⟨e | a, s⟩
    · rw [hfirst] at hrun
      cases hrun
    · rw [hfirst] at hrun
      dsimp only at hrun
      rcases hrest : forEachMember body members s.world with ⟨e | rest, t⟩
      · rw [hrest] at hrun
        cases hrun
      · rw [hrest] at hrun
        cases hrun
        obtain ⟨hI', hR⟩ := hbody _ _ _ hI hfirst
        exact .cons hR (ih s.world hI' hrest)

/-- what the members add to a log, one after the other, while the world keeps an invariant -/
theorem forEach_log {entry : Type} {log : ω → List entry} {I : ω → Prop} {Of : List κ → List entry → Prop}
    (hnil : Of [] []) (happend : ∀ k ks xs ys, Of [k] xs → Of ks ys → Of (k :: ks) (xs ++ ys))
    (hbody : ∀ s a s', I s.world → body s = (.ok a, s') →
      I s'.world ∧ ∃ xs, log s'.world = log s.world ++ xs ∧ Of [s.held] xs)
    {s : Beside (List κ) ω} {as : List α} {s' : Beside (List κ) ω} (hI : I s.world)
    (hrun : Core.forEach body s = (.ok as, s')) : ∃ xs, log s'.world = log s.world ++ xs ∧ Of s.held xs := by
  obtain ⟨members, w⟩ := s
  change forEachMember body members w = (.ok as, s') at hrun
  induction members generalizing w as s' with
  | nil =>
    cases hrun
    exact ⟨[], (List.append_nil _).symm, hnil⟩
  | cons member members ih =>
    rw [forEachMember] at hrun
    rcases hfirst : body ⟨member, w⟩ with ⟨e | a, s⟩
    · rw [hfirst] at hrun
      cases hrun
    · rw [hfirst] at hrun
      dsimp only at hrun
      rcases hrest : forEachMember body members s.world with ⟨e | rest, t⟩
      · rw [hrest] at hrun
        cases hrun
      · rw [hrest] at hrun
        cases hrun
        obtain ⟨hI', xs, hxs, hOf⟩ := hbody _ _ _ hI hfirst
        obtain ⟨ys, hys, hOfs⟩ := ih s.world hI' hrest
        refine ⟨xs ++ ys, ?_, happend _ _ _ _ hOf hOfs⟩
        change log t.world = log w ++ (xs ++ ys)
        rw [hys, hxs, List.append_assoc]

end Members

end WfbLink.Core
