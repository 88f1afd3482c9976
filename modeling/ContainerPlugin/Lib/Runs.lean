import Mathlib.Data.List.Basic

/-!
# Runs of a machine

A machine with states `σ` takes steps `step : σ → α → σ`. `Always` is a property of every state that
a run goes through, `Along` a condition that every step of it meets. When, in the states that
satisfy an invariant, the next step keeps the property exactly if it meets the condition, a run keeps
the property exactly if all its steps meet the condition.
-/

namespace Runs

variable {σ α : Type*} (step : σ → α → σ)

/-- `P` holds at the start of the run and after each of its steps. -/
def Always (P : σ → Prop) : σ → List α → Prop
  | s, [] => P s
  | s, a :: as => P s ∧ Always P (step s a) as

/-- Every step of the run meets `C`. -/
def Along (C : σ → α → Prop) : σ → List α → Prop
  | _, [] => True
  | s, a :: as => C s a ∧ Along C (step s a) as

instance Along.decidable (C : σ → α → Prop) [∀ s a, Decidable (C s a)] :
    ∀ s as, Decidable (Along step C s as)
  | _, [] => inferInstanceAs (Decidable True)
  | s, a :: as =>
    have := Along.decidable C (step s a) as
    inferInstanceAs (Decidable (C s a ∧ Along step C (step s a) as))

variable {step} {P I : σ → Prop} {C : σ → α → Prop} {s : σ}

theorem Along.of_forall {as : List α} (h : ∀ s, ∀ a ∈ as, C s a) : Along step C s as := by
  induction as generalizing s with
  | nil => trivial
  | cons a as ih =>
    exact ⟨h s a List.mem_cons_self, ih fun s b hb => h s b (List.mem_cons_of_mem a hb)⟩

theorem along_append {as bs : List α} :
    Along step C s (as ++ bs) ↔ Along step C s as ∧ Along step C (as.foldl step s) bs := by
  induction as generalizing s with
  | nil => exact (and_iff_right trivial).symm
  | cons a as ih => exact (and_congr_right fun _ => ih).trans and_assoc.symm

theorem Always.head {as : List α} (h : Always step P s as) : P s := by
  cases as with
  | nil => exact h
  | cons => exact h.1

theorem Always.last {as : List α} (h : Always step P s as) : P (as.foldl step s) := by
  induction as generalizing s with
  | nil => exact h
  | cons a as ih => exact ih h.2

/-- A property that is preserved by the steps meeting `C` holds along every run of such steps. -/
theorem Always.of_along (hstep : ∀ s a, P s → C s a → P (step s a)) {as : List α} (hs : P s)
    (h : Along step C s as) : Always step P s as := by
  induction as generalizing s with
  | nil => exact hs
  | cons a as ih => exact ⟨hs, ih (hstep s a hs h.1) h.2⟩

/-- A property of the states gives a further condition on the steps. -/
theorem Along.of_always {D : σ → α → Prop} {as : List α}
    (himp : ∀ s, ∀ a ∈ as, P s → C s a → D s a) (h : Always step P s as)
    (hC : Along step C s as) : Along step D s as := by
  induction as generalizing s with
  | nil => trivial
  | cons a as ih =>
    have hrest : ∀ s, ∀ b ∈ as, P s → C s b → D s b :=
      fun s b hb => himp s b (List.mem_cons_of_mem a hb)
    exact ⟨himp s a List.mem_cons_self h.1 hC.1, ih hrest h.2 hC.2⟩

theorem Always.mono {Q : σ → Prop} (hPQ : ∀ s, P s → Q s) {as : List α}
    (h : Always step P s as) : Always step Q s as := by
  induction as generalizing s with
  | nil => exact hPQ s h
  | cons a as ih => exact ⟨hPQ s h.1, ih h.2⟩

theorem always_iff_along {as : List α} (hinv : ∀ s, ∀ a ∈ as, I s → P s → I (step s a))
    (hstep : ∀ s, ∀ a ∈ as, I s → P s → (P (step s a) ↔ C s a)) (hI : I s) (hP : P s) :
    Always step P s as ↔ Along step C s as := by
  induction as generalizing s with
  | nil => exact ⟨fun _ => trivial, fun _ => hP⟩
  | cons a as ih =>
    have hI' : I (step s a) := hinv s a List.mem_cons_self hI hP
    have hiff := hstep s a List.mem_cons_self hI hP
    have hrest := ih (fun s b hb => hinv s b (List.mem_cons_of_mem a hb))
      (fun s b hb => hstep s b (List.mem_cons_of_mem a hb)) hI'
    constructor
    · intro h
      exact ⟨hiff.mp h.2.head, (hrest h.2.head).mp h.2⟩
    · intro h
      exact ⟨hP, (hrest (hiff.mpr h.1)).mpr h.2⟩

/-- The same with a property `D` of the steps, for runs whose steps are regular. -/
theorem always_and_along_iff {D R : σ → α → Prop} {as : List α}
    (hinv : ∀ s, ∀ a ∈ as, I s → R s a → C s a → I (step s a))
    (hstep : ∀ s, ∀ a ∈ as, I s → R s a → (P (step s a) ∧ D s a ↔ C s a)) (hI : I s) (hP : P s)
    (hR : Along step R s as) : Always step P s as ∧ Along step D s as ↔ Along step C s as := by
  induction as generalizing s with
  | nil => exact ⟨fun _ => trivial, fun _ => ⟨hP, trivial⟩⟩
  | cons a as ih =>
    have hiff := hstep s a List.mem_cons_self hI hR.1
    have hrest : C s a → P (step s a) →
        (Always step P (step s a) as ∧ Along step D (step s a) as ↔ Along step C (step s a) as) :=
      fun hC hP => ih (fun s b hb => hinv s b (List.mem_cons_of_mem a hb))
        (fun s b hb => hstep s b (List.mem_cons_of_mem a hb))
        (hinv s a List.mem_cons_self hI hR.1 hC) hP hR.2
    constructor
    · rintro ⟨⟨-, halways⟩, hD, halong⟩
      have hC := hiff.mp ⟨halways.head, hD⟩
      exact ⟨hC, (hrest hC halways.head).mp ⟨halways, halong⟩⟩
    · rintro ⟨hC, halong⟩
      obtain ⟨hP', hD⟩ := hiff.mpr hC
      obtain ⟨halways, halong⟩ := (hrest hC hP').mpr halong
      exact ⟨⟨hP, halways⟩, hD, halong⟩

/-- If an observation of the state changes in the steps `a` only, and such a step occurs once in the
run, the run changes it like that step. -/
theorem observe_once [DecidableEq α] {β : Type*} {observe : σ → β} {change : β → β} {a : α}
    (hstep : ∀ s b, observe (step s b) = if b = a then change (observe s) else observe s)
    {as : List α} (hnodup : as.Nodup) (ha : a ∈ as) :
    observe (as.foldl step s) = change (observe s) := by
  have hother : ∀ {as : List α} {s}, a ∉ as → observe (as.foldl step s) = observe s := by
    intro as s ha
    induction as generalizing s with
    | nil => rfl
    | cons b as ih =>
      rw [List.mem_cons, not_or] at ha
      rw [List.foldl_cons, ih ha.2, hstep, if_neg (Ne.symm ha.1)]
  induction as generalizing s with
  | nil => cases ha
  | cons b as ih =>
    obtain ⟨hb, hnodup⟩ := List.nodup_cons.mp hnodup
    rw [List.foldl_cons]
    rcases List.mem_cons.mp ha with rfl | ha
    · rw [hother hb, hstep, if_pos rfl]
    · have hne : b ≠ a := fun heq => hb (heq ▸ ha)
      rw [ih hnodup ha, hstep, if_neg hne]

end Runs
