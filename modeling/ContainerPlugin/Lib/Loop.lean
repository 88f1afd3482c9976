import Mathlib.Data.List.Basic

/-!
# Loops

A loop with a state `σ` that ends with a result `β`: in every round `step` either gives the state of
the next round or the result. `Runs` is a loop that comes to its end, with the states of its rounds,
and `run` computes it as far as the fuel goes. A loop whose rounds keep an invariant and decrease a
measure comes to its end, whatever it started with.
-/

namespace Loop

variable {σ β : Type*} {step : σ → σ ⊕ β} {s : σ} {rounds : List σ} {b : β}

/-- The loop ends with `b`, and `rounds` are the states that it has been in, the first one first. -/
inductive Runs (step : σ → σ ⊕ β) : σ → List σ → β → Prop
  | done {s : σ} {b : β} (h : step s = .inr b) : Runs step s [s] b
  | next {s s' : σ} {rounds : List σ} {b : β} (h : step s = .inl s')
    (hrest : Runs step s' rounds b) : Runs step s (s :: rounds) b

/-- The loop with at most `fuel` rounds, `none` if it needs more. -/
def run (step : σ → σ ⊕ β) : ℕ → σ → Option β
  | 0, _ => none
  | fuel + 1, s =>
    match step s with
    | .inl s' => run step fuel s'
    | .inr b => some b

theorem Runs.head_mem (h : Runs step s rounds b) : s ∈ rounds := by
  cases h <;> exact List.mem_cons_self

theorem run_eq_some_iff {fuel : ℕ} :
    run step fuel s = some b ↔ ∃ rounds, Runs step s rounds b ∧ rounds.length ≤ fuel := by
  induction fuel generalizing s with
  | zero =>
    refine iff_of_false nofun ?_
    rintro ⟨rounds, h, hlength⟩
    have hmem := h.head_mem
    rw [List.length_eq_zero_iff.mp (Nat.le_zero.mp hlength)] at hmem
    cases hmem
  | succ fuel ih =>
    rw [run]
    split
    · rename_i s' hstep
      rw [ih]
      constructor
      · rintro ⟨rounds, h, hlength⟩
        exact ⟨s :: rounds, .next hstep h, Nat.succ_le_succ hlength⟩
      · rintro ⟨rounds, h, hlength⟩
        cases h with
        | done h => rw [hstep] at h; cases h
        | next h hrest =>
          rw [hstep] at h
          cases h
          exact ⟨_, hrest, Nat.le_of_succ_le_succ hlength⟩
    · rename_i b' hstep
      constructor
      · intro h
        cases h
        exact ⟨[s], .done hstep, Nat.succ_le_succ (Nat.zero_le _)⟩
      · rintro ⟨rounds, h, -⟩
        cases h with
        | done h => rw [hstep] at h; cases h; rfl
        | next h => rw [hstep] at h; cases h

/-- More fuel makes no difference. -/
theorem Runs.run_eq (h : Runs step s rounds b) {fuel : ℕ} (hfuel : rounds.length ≤ fuel) :
    run step fuel s = some b := run_eq_some_iff.mpr ⟨rounds, h, hfuel⟩

/-- A computation with fuel has a result: it is the same with any fuel from some point on. -/
def Yields (f : ℕ → Option β) (b : β) : Prop := ∃ n, ∀ fuel, n ≤ fuel → f fuel = some b

theorem Yields.unique {f : ℕ → Option β} {b' : β} (h : Yields f b) (h' : Yields f b') : b = b' := by
  obtain ⟨n, hn⟩ := h
  obtain ⟨n', hn'⟩ := h'
  have heq := (hn _ (Nat.le_max_left n n')).symm.trans (hn' _ (Nat.le_max_right n n'))
  exact Option.some.inj heq

/-- A result that is there with one more round. -/
theorem Yields.of_succ {f g : ℕ → Option β} (hf : ∀ fuel, f (fuel + 1) = g fuel)
    (h : Yields g b) : Yields f b := by
  obtain ⟨n, hn⟩ := h
  refine ⟨n + 1, fun fuel hfuel => ?_⟩
  obtain ⟨fuel, rfl⟩ := Nat.exists_eq_add_of_le' hfuel
  rw [← Nat.add_assoc, hf]
  exact hn _ (Nat.le_add_left n fuel)

/-- One computation after the other. -/
theorem Yields.bind {γ : Type*} {f : ℕ → Option β} {g : β → ℕ → Option γ} {c : γ}
    (hf : Yields f b) (hg : Yields (g b) c) : Yields (fun fuel => (f fuel).bind (g · fuel)) c := by
  obtain ⟨n, hn⟩ := hf
  obtain ⟨n', hn'⟩ := hg
  refine ⟨max n n', fun fuel hfuel => ?_⟩
  have hf : f fuel = some b := hn fuel (Nat.le_trans (Nat.le_max_left n n') hfuel)
  simp only [hf, Option.bind_some]
  exact hn' fuel (Nat.le_trans (Nat.le_max_right n n') hfuel)

theorem Yields.some (b : β) : Yields (fun _ => Option.some b) b := ⟨0, fun _ _ => rfl⟩

theorem Runs.yields (h : Runs step s rounds b) : Yields (fun fuel => run step fuel s) b :=
  ⟨rounds.length, fun _ hfuel => h.run_eq hfuel⟩

/-- The variant rule: with a measure that decreases, the loop comes to its end. -/
theorem exists_runs {I : σ → Prop} (measure : σ → ℕ)
    (hstep : ∀ s s', I s → step s = .inl s' → I s' ∧ measure s' < measure s) (hs : I s) :
    ∃ rounds b, Runs step s rounds b ∧ rounds.length ≤ measure s + 1 := by
  induction hn : measure s using Nat.strongRecOn generalizing s with
  | ind n ih =>
    cases hs' : step s with
    | inr b => exact ⟨[s], b, .done hs', Nat.succ_le_succ (Nat.zero_le _)⟩
    | inl s' =>
      obtain ⟨hI, hlt⟩ := hstep s s' hs hs'
      obtain ⟨rounds, b, hruns, hlength⟩ := ih _ (hn ▸ hlt) hI rfl
      refine ⟨s :: rounds, b, .next hs' hruns, ?_⟩
      rw [List.length_cons]
      omega

/-- The invariant rule: what every round preserves holds in all of them. -/
theorem Runs.forall_rounds {I : σ → Prop} (h : Runs step s rounds b)
    (hstep : ∀ s s', I s → step s = .inl s' → I s') (hs : I s) : ∀ r ∈ rounds, I r := by
  induction h with
  | done => exact List.forall_mem_singleton.mpr hs
  | next hs' hrest ih => exact List.forall_mem_cons.mpr ⟨hs, ih (hstep _ _ hs hs')⟩

/-- The result is that of a round, the last one. -/
theorem Runs.exists_last (h : Runs step s rounds b) : ∃ r ∈ rounds, step r = .inr b := by
  induction h with
  | done h => exact ⟨_, List.mem_singleton_self _, h⟩
  | next _ _ ih =>
    obtain ⟨r, hr, hstep⟩ := ih
    exact ⟨r, List.mem_cons_of_mem _ hr, hstep⟩

end Loop
