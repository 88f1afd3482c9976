import Mathlib.Algebra.Order.Ring.Int
import Mathlib.Data.List.TakeWhile
import ContainerPlugin.Lib.Words

/-!
# Scanning text

What the C library reads from a text: `%s` and `%lu` of `sscanf`, `atoi`, and the lines of a file
with `getline`. The conversions pass over blanks first, and numbers out of range are the largest
ones.
-/

namespace Scan

/-- `isspace` -/
def isSpace (c : Char) : Bool := [' ', '\t', '\n', '\x0b', '\x0c', '\r'].contains c

def skipSpaces (cs : List Char) : List Char := cs.dropWhile isSpace

/-- `%s`, with what it leaves. -/
def scanWord (cs : List Char) : Option (List Char × List Char) :=
  if skipSpaces cs = [] then none
  else some ((skipSpaces cs).takeWhile (!isSpace ·), (skipSpaces cs).dropWhile (!isSpace ·))

def scanDigits (cs : List Char) : Option (ℕ × List Char) :=
  if cs.takeWhile Char.isDigit = [] then none
  else some (Nat.ofDigitChars 10 (cs.takeWhile Char.isDigit) 0, cs.dropWhile Char.isDigit)

/-- A decimal number that may have a sign. -/
def scanInt (cs : List Char) : Option (ℤ × List Char) :=
  match skipSpaces cs with
  | '-' :: cs => (scanDigits cs).map fun r => (-(r.1 : ℤ), r.2)
  | '+' :: cs => (scanDigits cs).map fun r => ((r.1 : ℤ), r.2)
  | cs => (scanDigits cs).map fun r => ((r.1 : ℤ), r.2)

/-- `%lu`, with what it leaves. -/
def scanUlong (cs : List Char) : Option (UInt64 × List Char) :=
  (scanInt cs).map fun r => (if r.1.natAbs < 2 ^ 64 then UInt64.ofInt r.1 else -1, r.2)

/-- `atoi`: what `strtol` gives, cut to an `int`. -/
def atoi (s : String) : BitVec 32 :=
  match scanInt s.toList with
  | none => 0
  | some (n, _) => BitVec.ofInt 32 (max (-2 ^ 63) (min (2 ^ 63 - 1) n))

/-! ## Texts that have been printed -/

section Printed

variable {p : Char → Bool} {pad w rest : List Char}

/-- What follows begins with a character that does not belong to the word. -/
def Stops (p : Char → Bool) (rest : List Char) : Prop := ∀ c ∈ rest.head?, p c = false

theorem takeWhile_append_stops (hw : ∀ c ∈ w, p c = true) (hrest : Stops p rest) :
    (w ++ rest).takeWhile p = w := by
  rw [List.takeWhile_append_of_pos hw]
  cases rest with
  | nil => exact List.append_nil w
  | cons c rest => rw [List.takeWhile_cons_of_neg (by simp [hrest c rfl]), List.append_nil]

theorem dropWhile_append_stops (hw : ∀ c ∈ w, p c = true) (hrest : Stops p rest) :
    (w ++ rest).dropWhile p = rest := by
  rw [List.dropWhile_append_of_pos hw]
  cases rest with
  | nil => rfl
  | cons c rest => exact List.dropWhile_cons_of_neg (by simp [hrest c rfl])

/-- A word behind blanks is read back. -/
theorem scanWord_append (hpad : ∀ c ∈ pad, isSpace c = true) (hne : w ≠ [])
    (hw : ∀ c ∈ w, isSpace c = false) (hrest : Stops (!isSpace ·) rest) :
    scanWord (pad ++ (w ++ rest)) = some (w, rest) := by
  have hskip : skipSpaces (pad ++ (w ++ rest)) = w ++ rest := by
    apply dropWhile_append_stops hpad
    intro c hc
    cases w with
    | nil => exact absurd rfl hne
    | cons d w =>
      cases hc
      exact hw _ List.mem_cons_self
  have hword : ∀ c ∈ w, (!isSpace c) = true := fun c hc => by rw [hw c hc]; rfl
  rw [scanWord, hskip, if_neg (List.append_ne_nil_of_left_ne_nil hne rest),
    takeWhile_append_stops hword hrest, dropWhile_append_stops hword hrest]

theorem isSpace_of_isDigit {c : Char} (h : c.isDigit = true) : isSpace c = false := by
  rw [isSpace, Bool.eq_false_iff]
  intro hspace
  have hmem : c ∈ [' ', '\t', '\n', '\x0b', '\x0c', '\r'] := List.contains_iff_mem.mp hspace
  simp only [List.mem_cons, List.not_mem_nil, or_false] at hmem
  rcases hmem with rfl | rfl | rfl | rfl | rfl | rfl <;> cases h

theorem scanDigits_repr (n : ℕ) (hrest : Stops Char.isDigit rest) :
    scanDigits (n.repr.toList ++ rest) = some (n, rest) := by
  have hdigits : ∀ c ∈ n.repr.toList, c.isDigit = true := fun c hc => Words.isDigit_of_mem_repr hc
  have hne : n.repr.toList ≠ [] := by
    rw [Nat.toList_repr]
    exact Nat.toDigits_ne_nil
  rw [scanDigits, takeWhile_append_stops hdigits hrest, dropWhile_append_stops hdigits hrest,
    if_neg hne, Nat.toList_repr, Nat.ofDigitChars_ten_toDigits]

/-- A natural number behind blanks is read back. -/
theorem scanInt_repr (hpad : ∀ c ∈ pad, isSpace c = true) (n : ℕ)
    (hrest : Stops Char.isDigit rest) :
    scanInt (pad ++ (n.repr.toList ++ rest)) = some ((n : ℤ), rest) := by
  have hdigits : ∀ c ∈ n.repr.toList, c.isDigit = true := fun c hc => Words.isDigit_of_mem_repr hc
  have hscan := scanDigits_repr n hrest
  cases htext : n.repr.toList with
  | nil =>
    rw [Nat.toList_repr] at htext
    exact absurd htext Nat.toDigits_ne_nil
  | cons d ds =>
    rw [htext] at hscan hdigits
    have hd : d.isDigit = true := hdigits d List.mem_cons_self
    have hskip : skipSpaces (pad ++ (d :: ds ++ rest)) = d :: ds ++ rest := by
      apply dropWhile_append_stops hpad
      intro c hc
      cases hc
      exact isSpace_of_isDigit hd
    have hminus : d ≠ '-' := by rintro rfl; cases hd
    have hplus : d ≠ '+' := by rintro rfl; cases hd
    rw [scanInt, hskip]
    rw [List.cons_append] at hscan ⊢
    split
    · rename_i heq
      exact absurd (List.cons.inj heq).1 hminus
    · rename_i heq
      exact absurd (List.cons.inj heq).1 hplus
    · rw [hscan]
      rfl

theorem scanUlong_repr (hpad : ∀ c ∈ pad, isSpace c = true) {n : ℕ} (hn : n < 2 ^ 64)
    (hrest : Stops Char.isDigit rest) :
    scanUlong (pad ++ (n.repr.toList ++ rest)) = some (UInt64.ofNat n, rest) := by
  have hofInt : UInt64.ofInt (n : ℤ) = UInt64.ofNat n := by
    have hmod : ((n : ℤ) % 2 ^ 64).toNat = n := by omega
    rw [UInt64.ofInt, hmod]
  have hlt : ((n : ℤ), rest).1.natAbs < 2 ^ 64 := hn
  rw [scanUlong, scanInt_repr hpad n hrest, Option.map_some, if_pos hlt, hofInt]

end Printed

/-! ## Lines -/

/-- An open file: what has not been read yet, and the end-of-file flag. -/
structure Stream where
  rest : List Char
  eof : Bool

/-- `getline`: the next line with its newline, and the flag is set by a read at the end. -/
def Stream.getline (s : Stream) : Option (List Char) × Stream :=
  match s.rest.dropWhile (· ≠ '\n') with
  | _ :: rest => (some (s.rest.takeWhile (· ≠ '\n') ++ ['\n']), ⟨rest, s.eof⟩)
  | [] => (if s.rest = [] then none else some s.rest, ⟨[], true⟩)

section Lines

variable {line rest : List Char} {eof : Bool}

/-- A line that ends with a newline. -/
theorem Stream.getline_line (hline : '\n' ∉ line) :
    Stream.getline ⟨line ++ '\n' :: rest, eof⟩ = (some (line ++ ['\n']), ⟨rest, eof⟩) := by
  have hpos : ∀ c ∈ line, decide (c ≠ '\n') = true :=
    fun c hc => decide_eq_true fun heq => hline (heq ▸ hc)
  have hstops : Stops (fun c => decide (c ≠ '\n')) ('\n' :: rest) := by
    intro c hc
    cases hc
    rfl
  simp only [getline, dropWhile_append_stops hpos hstops, takeWhile_append_stops hpos hstops]

/-- The last line, if there is one, need not end with a newline. -/
theorem Stream.getline_last (hline : '\n' ∉ line) :
    Stream.getline ⟨line, eof⟩ = (if line = [] then none else some line, ⟨[], true⟩) := by
  have hdrop : line.dropWhile (fun c => decide (c ≠ '\n')) = [] := by
    rw [List.dropWhile_eq_nil_iff]
    exact fun c hc => decide_eq_true fun heq => hline (heq ▸ hc)
  simp only [getline, hdrop]

end Lines

end Scan
