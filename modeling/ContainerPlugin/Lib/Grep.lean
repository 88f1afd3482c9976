import Mathlib.Data.List.Basic

/-!
# Lines that contain a pattern

The patterns of `grep` that are made of characters and of dots, of which each stands for any
character. A line is a list of words without blanks, with a blank between any two.
-/

namespace Grep

/-- The line begins with a match of the pattern. -/
def matchesHere : List Char → List Char → Bool
  | [], _ => true
  | _ :: _, [] => false
  | p :: ps, c :: cs => (p = '.' ∨ p = c) && matchesHere ps cs

/-- The line contains a match of the pattern. -/
def selects (pattern : List Char) : List Char → Bool
  | [] => matchesHere pattern []
  | c :: cs => matchesHere pattern (c :: cs) || selects pattern cs

theorem matchesHere_append (pattern line : List Char) :
    matchesHere pattern (pattern ++ line) = true := by
  induction pattern with
  | nil => cases line <;> rfl
  | cons p ps ih => simp [matchesHere, ih]

theorem selects_of_matchesHere {pattern line : List Char} (h : matchesHere pattern line = true) :
    selects pattern line = true := by
  cases line with
  | nil => exact h
  | cons c cs => simp [selects, h]

theorem selects_append {pattern line : List Char} (before : List Char)
    (h : selects pattern line = true) : selects pattern (before ++ line) = true := by
  induction before with
  | nil => exact h
  | cons c cs ih => simp [selects, ih]

/-- Without dots, a match is the pattern itself. -/
theorem matchesHere_iff_prefix {pattern line : List Char} (hdots : '.' ∉ pattern) :
    matchesHere pattern line = true ↔ pattern <+: line := by
  induction pattern generalizing line with
  | nil => cases line <;> simp [matchesHere]
  | cons p ps ih =>
    rw [List.mem_cons, not_or] at hdots
    obtain ⟨hp, hps⟩ := hdots
    have hp : p ≠ '.' := fun heq => hp heq.symm
    cases line with
    | nil => simp [matchesHere]
    | cons c cs => simp [matchesHere, ih hps, hp, List.cons_prefix_cons]

/-- A pattern without the separator does not reach behind it. -/
theorem prefix_append_cons_iff {sep : Char} {pattern w rest : List Char} (h : sep ∉ pattern) :
    pattern <+: w ++ sep :: rest ↔ pattern <+: w := by
  constructor
  · rintro ⟨tail, htail⟩
    rcases List.append_eq_append_iff.mp htail with ⟨c, rfl, -⟩ | ⟨c, rfl, hc⟩
    · exact List.prefix_append _ _
    · rcases List.cons_eq_append_iff.mp hc with ⟨rfl, -⟩ | ⟨c', rfl, -⟩
      · simp
      · exact absurd (by simp) h
  · intro hprefix
    exact hprefix.trans (List.prefix_append _ _)

/-! ## A character, a blank and a name -/

section Words

variable {d : Char} {name w rest : List Char}

/-- The character can only match at the end of a word. -/
theorem selects_word (hdot : d ≠ '.') (hd : d ≠ ' ') (hw : ' ' ∉ w) :
    selects (d :: ' ' :: name) (w ++ ' ' :: rest) = true ↔
      w.getLast? = some d ∧ matchesHere name rest = true ∨
        selects (d :: ' ' :: name) rest = true := by
  induction w with
  | nil => simp [selects, matchesHere, hdot, hd]
  | cons c w ih =>
    have hw' : ' ' ∉ w := fun hmem => hw (List.mem_cons_of_mem c hmem)
    rw [List.cons_append, selects, Bool.or_eq_true, ih hw']
    cases w with
    | nil =>
      simp [matchesHere, hdot, @eq_comm _ d c]
    | cons c' w =>
      have hc' : c' ≠ ' ' := fun heq => hw' (heq ▸ List.mem_cons_self)
      simp [matchesHere, hc'.symm]

theorem selects_last_word (hw : ' ' ∉ w) : selects (d :: ' ' :: name) w = false := by
  induction w with
  | nil => rfl
  | cons c w ih =>
    have hw' : ' ' ∉ w := fun hmem => hw (List.mem_cons_of_mem c hmem)
    rw [selects, ih hw']
    cases w with
    | nil => simp [matchesHere]
    | cons c' w =>
      have hc' : c' ≠ ' ' := fun heq => hw' (heq ▸ List.mem_cons_self)
      simp [matchesHere, hc'.symm]

theorem selects_words {ws : List (List Char)} (hdot : d ≠ '.') (hd : d ≠ ' ') (hw : ' ' ∉ w)
    (hws : ws ≠ []) :
    selects (d :: ' ' :: name) ([' '].intercalate (w :: ws)) = true ↔
      w.getLast? = some d ∧ matchesHere name ([' '].intercalate ws) = true ∨
        selects (d :: ' ' :: name) ([' '].intercalate ws) = true := by
  rw [List.intercalate_cons_of_ne_nil hws, List.append_assoc, List.singleton_append]
  exact selects_word hdot hd hw

/-- Words that do not end with the character are not selected. -/
theorem selects_words_eq_false {ws : List (List Char)} (hdot : d ≠ '.') (hd : d ≠ ' ')
    (hws : ∀ w ∈ ws, ' ' ∉ w ∧ w.getLast? ≠ some d) :
    selects (d :: ' ' :: name) ([' '].intercalate ws) = false := by
  induction ws with
  | nil => rfl
  | cons w ws ih =>
    obtain ⟨⟨hw, hlast⟩, hws⟩ := List.forall_mem_cons.mp hws
    cases ws with
    | nil =>
      rw [List.intercalate_singleton]
      exact selects_last_word hw
    | cons w' ws =>
      rw [← Bool.not_eq_true, selects_words hdot hd hw (List.cons_ne_nil _ _), ih hws]
      rintro (⟨heq, -⟩ | h)
      · exact hlast heq
      · cases h

end Words

/-- A pattern that a later word begins with is found. -/
theorem selects_append_words {pattern w : List Char} {ws : List (List Char)}
    (before : List (List Char)) (h : selects pattern ([' '].intercalate (w :: ws)) = true) :
    selects pattern ([' '].intercalate (before ++ w :: ws)) = true := by
  induction before with
  | nil => exact h
  | cons w' before ih =>
    have hne : before ++ w :: ws ≠ [] := List.append_ne_nil_of_right_ne_nil _ (List.cons_ne_nil w ws)
    rw [List.cons_append, List.intercalate_cons_of_ne_nil hne]
    exact selects_append _ ih

end Grep
