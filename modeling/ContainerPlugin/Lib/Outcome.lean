import Mathlib.Logic.Basic

/-!
# What a fallible computation ensures

`r.Ensures E Q` reads: if `r` returns, its value meets `Q`, and if it stops with an error, the error
meets `E`. With `E` false it says that `r` returns. The rules follow the monad, and the loop rule
carries an invariant that speaks of the elements still to come.
-/

universe u v

namespace Except

variable {ε : Type u} {α β : Type v}

def Ensures (r : Except ε α) (E : ε → Prop) (Q : α → Prop) : Prop :=
  match r with
  | .ok a => Q a
  | .error e => E e

/-- The computation returns, with a value that meets `Q`. -/
abbrev Returns (r : Except ε α) (Q : α → Prop) : Prop := r.Ensures (fun _ => False) Q

variable {E E' : ε → Prop} {Q Q' : α → Prop} {R : β → Prop}

@[simp] theorem ensures_ok {a : α} : (ok a : Except ε α).Ensures E Q ↔ Q a := .rfl

@[simp] theorem ensures_error {e : ε} : (error e : Except ε α).Ensures E Q ↔ E e := .rfl

@[simp] theorem ok_bind (a : α) (f : α → Except ε β) : (ok a >>= f) = f a := rfl

/-- A computation that returns has returned at each of its steps. -/
theorem exists_of_bind_eq_ok {r : Except ε α} {f : α → Except ε β} {b : β} (h : (r >>= f) = .ok b) :
    ∃ a, r = .ok a ∧ f a = .ok b := by
  cases r with
  | ok a => exact ⟨a, rfl, h⟩
  | error e => cases h

theorem eq_ok_of_toOption {r : Except ε α} {a : α} (h : r.toOption = some a) : r = .ok a := by
  cases r with
  | ok a' => exact congrArg Except.ok (Option.some.inj h)
  | error e => cases h

theorem ensures_true (r : Except ε α) : r.Ensures (fun _ => True) fun _ => True := by
  cases r with
  | ok => trivial
  | error => trivial

theorem Ensures.of_ok {r : Except ε α} {a : α} (h : r.Ensures E Q) (hr : r = .ok a) : Q a := by
  subst hr
  exact h

theorem Ensures.of_error {r : Except ε α} {e : ε} (h : r.Ensures E Q) (hr : r = .error e) : E e := by
  subst hr
  exact h

theorem Ensures.mono {r : Except ε α} (h : r.Ensures E Q) (hQ : ∀ a, Q a → Q' a) :
    r.Ensures E Q' := by
  cases r with
  | ok a => exact hQ a h
  | error e => exact h

theorem Ensures.monoError {r : Except ε α} (h : r.Ensures E Q) (hE : ∀ e, E e → E' e) :
    r.Ensures E' Q := by
  cases r with
  | ok a => exact h
  | error e => exact hE e h

theorem Ensures.and {r : Except ε α} (h : r.Ensures E Q) (h' : r.Ensures E' Q') :
    r.Ensures E fun a => Q a ∧ Q' a := by
  cases r with
  | ok a => exact ⟨h, h'⟩
  | error e => exact h

theorem Ensures.bind {r : Except ε α} {f : α → Except ε β} (h : r.Ensures E Q)
    (hf : ∀ a, Q a → (f a).Ensures E R) : (r >>= f).Ensures E R := by
  cases r with
  | ok a => exact hf a h
  | error e => exact h

theorem Ensures.map {r : Except ε α} {f : α → β} (h : r.Ensures E fun a => R (f a)) :
    (r.map f).Ensures E R := by
  cases r with
  | ok a => exact h
  | error e => exact h

theorem Ensures.foldlM {f : β → α → Except ε β} {I : List α → β → Prop}
    (hf : ∀ a as b, I (a :: as) b → (f b a).Ensures E (I as)) {l : List α} {b : β} (h : I l b) :
    (l.foldlM f b).Ensures E (I []) := by
  induction l generalizing b with
  | nil => exact h
  | cons a as ih =>
    rw [List.foldlM_cons]
    exact (hf a as b h).bind fun b' hb' => ih hb'

end Except
