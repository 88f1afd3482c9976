import Mathlib.Data.List.Basic

/-!
# Texts made of words

A text is split at a separator into words; a word can be a decimal number or a list of such numbers
with a separator of its own. Reading is the inverse of printing as long as the separator occurs in no
word.
-/

namespace Words

variable {α : Type*}

/-- Every word after the first one brings its separator along. -/
theorem intercalate_cons (sep : α) (w : List α) (ws : List (List α)) :
    [sep].intercalate (w :: ws) = w ++ (ws.map (sep :: ·)).flatten := by
  induction ws generalizing w with
  | nil => simp
  | cons w' ws ih =>
    rw [List.intercalate_cons_cons, ih, List.map_cons, List.flatten_cons, List.append_assoc,
      List.singleton_append, List.cons_append]

/-- Words printed one after the other, each with its separator, are read back. -/
theorem splitOn_words [BEq α] [LawfulBEq α] {sep : α} {w : List α} {ws : List (List α)}
    (hw : sep ∉ w) (hws : ∀ w ∈ ws, sep ∉ w) :
    (w ++ (ws.map (sep :: ·)).flatten).splitOn sep = w :: ws := by
  rw [← intercalate_cons]
  refine List.splitOn_intercalate sep ?_ (List.cons_ne_nil w ws)
  exact List.forall_mem_cons.mpr ⟨hw, hws⟩

/-- A character of a text is the separator or stands in a word. -/
theorem eq_or_mem_splitOn [BEq α] [LawfulBEq α] {sep c : α} {text : List α} (h : c ∈ text) :
    c = sep ∨ ∃ w ∈ text.splitOn sep, c ∈ w := by
  have htext : [sep].intercalate (text.splitOn sep) = text := List.intercalate_splitOn sep
  cases hwords : text.splitOn sep with
  | nil =>
    rw [hwords] at htext
    rw [← htext] at h
    cases h
  | cons w ws =>
    rw [hwords, intercalate_cons] at htext
    rw [← htext, List.mem_append, List.mem_flatten] at h
    rcases h with h | ⟨piece, hpiece, h⟩
    · exact .inr ⟨w, List.mem_cons_self, h⟩
    · obtain ⟨w', hw', rfl⟩ := List.mem_map.mp hpiece
      rcases List.mem_cons.mp h with rfl | h
      · exact .inl rfl
      · exact .inr ⟨w', List.mem_cons_of_mem _ hw', h⟩

/-- What follows the last separator is unique. -/
theorem append_cons_inj {sep : α} {front front' word word' : List α} (hword : sep ∉ word)
    (hword' : sep ∉ word') (h : front ++ sep :: word = front' ++ sep :: word') :
    front = front' ∧ word = word' := by
  rcases List.append_eq_append_iff.mp h with ⟨c, rfl, hc⟩ | ⟨c, rfl, hc⟩
  · rcases List.cons_eq_append_iff.mp hc with ⟨rfl, hc⟩ | ⟨d, rfl, rfl⟩
    · exact ⟨(List.append_nil _).symm, (List.cons.inj hc).2⟩
    · exact absurd (by simp) hword
  · rcases List.cons_eq_append_iff.mp hc with ⟨rfl, hc⟩ | ⟨d, rfl, rfl⟩
    · exact ⟨List.append_nil _, (List.cons.inj hc).2.symm⟩
    · exact absurd (by simp) hword'

/-! ## Numbers -/

/-- A decimal number. -/
def parseNat (w : List Char) : Option ℕ :=
  if w ≠ [] ∧ w.all Char.isDigit then some (Nat.ofDigitChars 10 w 0) else none

def parseNats (sep : Char) (w : List Char) : Option (List ℕ) := (w.splitOn sep).mapM parseNat

theorem isDigit_of_mem_repr {n : ℕ} {c : Char} (h : c ∈ n.repr.toList) : c.isDigit := by
  rw [Nat.toList_repr] at h
  exact Nat.isDigit_of_mem_toDigits (by omega) (by omega) h

/-- A separator that is no digit occurs in no number. -/
theorem notMem_repr {c : Char} (hc : c.isDigit = false) (n : ℕ) : c ∉ n.repr.toList := by
  intro h
  have hdigit := isDigit_of_mem_repr h
  rw [hc] at hdigit
  cases hdigit

theorem parseNat_repr (n : ℕ) : parseNat n.repr.toList = some n := by
  have hword : n.repr.toList ≠ [] ∧ n.repr.toList.all Char.isDigit := by
    refine ⟨?_, List.all_eq_true.mpr fun c => isDigit_of_mem_repr⟩
    rw [Nat.toList_repr]
    exact Nat.toDigits_ne_nil
  rw [parseNat, if_pos hword, Nat.toList_repr, Nat.ofDigitChars_ten_toDigits]

/-- A list of numbers that has been printed number by number is read back. -/
theorem parseNats_reprs {sep : Char} (hsep : sep.isDigit = false) (n : ℕ) (ns : List ℕ) :
    parseNats sep (n.repr.toList ++ (ns.map fun n => sep :: n.repr.toList).flatten) =
      some (n :: ns) := by
  have hwords : (ns.map fun n => sep :: n.repr.toList) =
      (ns.map fun n => n.repr.toList).map (sep :: ·) := by
    rw [List.map_map]
    rfl
  have hno : ∀ w ∈ ns.map fun n => n.repr.toList, sep ∉ w := by
    intro w hw
    obtain ⟨n, -, rfl⟩ := List.mem_map.mp hw
    exact notMem_repr hsep n
  have hall : ∀ ns : List ℕ, (ns.map fun n => n.repr.toList).mapM parseNat = some ns := by
    intro ns
    induction ns with
    | nil => rfl
    | cons n ns ih =>
      rw [List.map_cons, List.mapM_cons, parseNat_repr, ih]
      rfl
  rw [parseNats, hwords, splitOn_words (notMem_repr hsep n) hno]
  exact hall (n :: ns)

end Words
