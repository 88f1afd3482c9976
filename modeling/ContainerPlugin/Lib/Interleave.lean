import Mathlib.Data.List.Basic
import Mathlib.Logic.Function.Basic
import Mathlib.Logic.Relation

/-!
# Interleaved parties

Parties `ι` with states `τ` of their own take turns on a shared state `σ`. `view i` is the part of the
shared state that the party `i` depends on and that no other party changes. Then what a party does in
an interleaved run is what it does in a run of its own.

Where the steps are a relation, each party guarantees something of what its steps do to the shared
state, and an invariant of a party holds throughout if the party keeps it and no guarantee disturbs it.
-/

namespace Interleave

variable {ι σ τ ε ν : Type*} {view : ι → σ → ν} {act : ι → σ × τ → ε → σ × τ}

/-- Each party keeps to its own part of the shared state. -/
structure Separate (view : ι → σ → ν) (act : ι → σ × τ → ε → σ × τ) : Prop where
  own : ∀ i s s' t e, view i s = view i s' →
    view i (act i (s, t) e).1 = view i (act i (s', t) e).1 ∧
      (act i (s, t) e).2 = (act i (s', t) e).2
  other : ∀ i j s t e, i ≠ j → view i (act j (s, t) e).1 = view i s

/-- A run of a party on its own goes the same way from states that look the same to it. -/
theorem Separate.foldl_congr (h : Separate view act) {i : ι} {es : List ε} {st st' : σ × τ}
    (hview : view i st.1 = view i st'.1) (hlocal : st.2 = st'.2) :
    view i (es.foldl (act i) st).1 = view i (es.foldl (act i) st').1 ∧
      (es.foldl (act i) st).2 = (es.foldl (act i) st').2 := by
  induction es generalizing st st' with
  | nil => exact ⟨hview, hlocal⟩
  | cons e es ih =>
    obtain ⟨s, t⟩ := st
    obtain ⟨s', t'⟩ := st'
    obtain rfl : t = t' := hlocal
    obtain ⟨hview', hlocal'⟩ := h.own i s s' t e hview
    exact ih hview' hlocal'

variable [DecidableEq ι]

/-- A party takes a step. -/
def step (act : ι → σ × τ → ε → σ × τ) (st : σ × (ι → τ)) (e : ι × ε) : σ × (ι → τ) :=
  ((act e.1 (st.1, st.2 e.1) e.2).1, Function.update st.2 e.1 (act e.1 (st.1, st.2 e.1) e.2).2)

/-- The events of one party. -/
def eventsOf (i : ι) (es : List (ι × ε)) : List ε :=
  es.filterMap fun e => if e.1 = i then some e.2 else none

theorem eventsOf_cons_self (i : ι) (e : ε) (es : List (ι × ε)) :
    eventsOf i ((i, e) :: es) = e :: eventsOf i es := by
  simp [eventsOf]

theorem eventsOf_cons_ne {i j : ι} (h : i ≠ j) (e : ε) (es : List (ι × ε)) :
    eventsOf i ((j, e) :: es) = eventsOf i es := by
  simp [eventsOf, Ne.symm h]

/-- An interleaved run looks to each party like a run of its own. -/
theorem Separate.run (h : Separate view act) (i : ι) (es : List (ι × ε)) (st : σ × (ι → τ)) :
    view i (es.foldl (step act) st).1 =
        view i ((eventsOf i es).foldl (act i) (st.1, st.2 i)).1 ∧
      (es.foldl (step act) st).2 i = ((eventsOf i es).foldl (act i) (st.1, st.2 i)).2 := by
  induction es generalizing st with
  | nil => exact ⟨rfl, rfl⟩
  | cons e es ih =>
    obtain ⟨j, e⟩ := e
    rw [List.foldl_cons]
    obtain ⟨hview, hlocal⟩ := ih (step act st (j, e))
    rw [hview, hlocal]
    by_cases hij : i = j
    · subst hij
      rw [eventsOf_cons_self, List.foldl_cons]
      simp only [step, Function.update_self, and_self]
    · rw [eventsOf_cons_ne hij]
      simp only [step, Function.update_of_ne hij]
      exact h.foldl_congr (h.other i j st.1 (st.2 j) e hij) rfl

/-! ## Guarantees -/

section Guarantees

variable {R : ι → σ × τ → σ × τ → Prop} {G : ι → σ → σ → Prop} {I : ι → σ × τ → Prop}
  {st st' : σ × (ι → τ)}

/-- Some party takes one of its steps. -/
def Step (R : ι → σ × τ → σ × τ → Prop) (st st' : σ × (ι → τ)) : Prop :=
  ∃ i y, R i (st.1, st.2 i) y ∧ st' = (y.1, Function.update st.2 i y.2)

/-- A party keeps its invariant, relying on what the others guarantee. -/
structure Reliable (R : ι → σ × τ → σ × τ → Prop) (G : ι → σ → σ → Prop)
    (I : ι → σ × τ → Prop) : Prop where
  own : ∀ i x y, I i x → R i x y → I i y ∧ G i x.1 y.1
  other : ∀ i j s s' t, i ≠ j → I i (s, t) → G j s s' → I i (s', t)

theorem Reliable.step (h : Reliable R G I) (hI : ∀ i, I i (st.1, st.2 i)) (hstep : Step R st st') :
    ∀ i, I i (st'.1, st'.2 i) := by
  obtain ⟨j, y, hR, rfl⟩ := hstep
  obtain ⟨hown, hguarantee⟩ := h.own j _ y (hI j) hR
  intro i
  dsimp only
  by_cases hij : i = j
  · subst hij
    rwa [Function.update_self]
  · rw [Function.update_of_ne hij]
    exact h.other i j _ _ _ hij (hI i) hguarantee

theorem Reliable.steps (h : Reliable R G I) (hI : ∀ i, I i (st.1, st.2 i))
    (hsteps : Relation.ReflTransGen (Step R) st st') : ∀ i, I i (st'.1, st'.2 i) := by
  induction hsteps with
  | refl => exact hI
  | tail _ hstep ih => exact h.step ih hstep

end Guarantees

end Interleave
