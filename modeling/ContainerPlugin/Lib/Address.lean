import ContainerPlugin.Lib.Words

/-!
# Literals of internet addresses

The dotted form of IPv4, and the form of IPv6 with groups of hexadecimal digits, of which one run of
zeroes may be left out and the last two may be written like an IPv4 address.
-/

namespace Address

/-- A number up to 255 without a leading zero. -/
def isOctet (w : List Char) : Bool :=
  w ≠ [] ∧ w.all Char.isDigit ∧ (w.length = 1 ∨ w.head? ≠ some '0') ∧ Nat.ofDigitChars 10 w 0 ≤ 255

def isIpv4 (w : List Char) : Bool := (w.splitOn '.').length = 4 ∧ ∀ octet ∈ w.splitOn '.', isOctet octet

def isHexDigit (c : Char) : Bool := c.isDigit ∨ 'a' ≤ c ∧ c ≤ 'f' ∨ 'A' ≤ c ∧ c ≤ 'F'

/-- Up to four hexadecimal digits. -/
def isGroup (w : List Char) : Bool := w ≠ [] ∧ w.length ≤ 4 ∧ w.all isHexDigit

/-- How many groups of 16 bits the words stand for; the last one may be an IPv4 address. -/
def groupCount : List (List Char) → Option ℕ
  | [] => some 0
  | [w] => if isGroup w then some 1 else if isIpv4 w then some 2 else none
  | w :: w' :: ws => if isGroup w then (groupCount (w' :: ws)).map (· + 1) else none

/-- The groups before or after `::`. -/
def sideCount (w : List Char) : Option ℕ := if w = [] then some 0 else groupCount (w.splitOn ':')

/-- An address in which `::` at the offset `i` stands for a run of zeroes. -/
def isCompressedAt (w : List Char) (i : ℕ) : Bool :=
  (w.drop i).take 2 = [':', ':'] ∧ '.' ∉ w.take i ∧
    (sideCount (w.take i)).any fun m => (sideCount (w.drop (i + 2))).any fun n => m + n ≤ 7

def isIpv6 (w : List Char) : Bool :=
  groupCount (w.splitOn ':') = some 8 ∨ ∃ i ∈ List.range w.length, isCompressedAt w i

def isIp (s : String) : Bool := isIpv4 s.toList ∨ isIpv6 s.toList

/-- The characters of an address. -/
def IsAddressChar (c : Char) : Prop := isHexDigit c = true ∨ c = '.' ∨ c = ':'

theorem isAddressChar_of_isIpv4 {w : List Char} (h : isIpv4 w = true) {c : Char} (hc : c ∈ w) :
    IsAddressChar c := by
  have hwords := (of_decide_eq_true h).2
  have hcases : c = '.' ∨ ∃ octet ∈ w.splitOn '.', c ∈ octet := Words.eq_or_mem_splitOn hc
  rcases hcases with rfl | ⟨octet, hoctet, hc⟩
  · exact .inr (.inl rfl)
  · have hdigit := List.all_eq_true.mp (of_decide_eq_true (hwords octet hoctet)).2.1 c hc
    exact .inl (decide_eq_true (.inl hdigit))

theorem isAddressChar_of_isGroup {w : List Char} (h : isGroup w = true) {c : Char} (hc : c ∈ w) :
    IsAddressChar c := .inl (List.all_eq_true.mp (of_decide_eq_true h).2.2 c hc)

theorem isAddressChar_of_groupCount {ws : List (List Char)} {n : ℕ} (h : groupCount ws = some n)
    {w : List Char} (hw : w ∈ ws) {c : Char} (hc : c ∈ w) : IsAddressChar c := by
  induction ws generalizing n with
  | nil => cases hw
  | cons first ws ih =>
    cases ws with
    | nil =>
      rw [List.mem_singleton] at hw
      subst hw
      rw [groupCount] at h
      split at h
      · exact isAddressChar_of_isGroup ‹_› hc
      · split at h
        · exact isAddressChar_of_isIpv4 ‹_› hc
        · cases h
    | cons second ws =>
      rw [groupCount] at h
      split at h
      · obtain ⟨m, hm, -⟩ := Option.map_eq_some_iff.mp h
        rcases List.mem_cons.mp hw with rfl | hw
        · exact isAddressChar_of_isGroup ‹_› hc
        · exact ih hm hw
      · cases h

theorem isAddressChar_of_words {w : List Char} {n : ℕ} (h : groupCount (w.splitOn ':') = some n)
    {c : Char} (hc : c ∈ w) : IsAddressChar c := by
  have hcases : c = ':' ∨ ∃ word ∈ w.splitOn ':', c ∈ word := Words.eq_or_mem_splitOn hc
  rcases hcases with rfl | ⟨word, hword, hc⟩
  · exact .inr (.inr rfl)
  · exact isAddressChar_of_groupCount h hword hc

theorem isAddressChar_of_sideCount {w : List Char} {n : ℕ} (h : sideCount w = some n) {c : Char}
    (hc : c ∈ w) : IsAddressChar c := by
  rw [sideCount] at h
  split at h
  · rename_i hnil
    rw [hnil] at hc
    cases hc
  · exact isAddressChar_of_words h hc

theorem isAddressChar_of_isIpv6 {w : List Char} (h : isIpv6 w = true) {c : Char} (hc : c ∈ w) :
    IsAddressChar c := by
  rcases of_decide_eq_true h with hwords | ⟨i, -, hcompressed⟩
  · exact isAddressChar_of_words hwords hc
  · obtain ⟨hgap, -, hcounts⟩ := of_decide_eq_true hcompressed
    obtain ⟨m, hm, hcounts⟩ := (Option.any_eq_true _ _).mp hcounts
    obtain ⟨n, hn, -⟩ := (Option.any_eq_true _ _).mp hcounts
    -- the text is what stands before the gap, the gap and what stands behind it
    have hsplit : w = w.take i ++ ([':', ':'] ++ w.drop (i + 2)) := by
      rw [← hgap, ← List.drop_drop, List.take_append_drop, List.take_append_drop]
    rw [hsplit] at hc
    rcases List.mem_append.mp hc with hc | hc
    · exact isAddressChar_of_sideCount hm hc
    · rcases List.mem_append.mp hc with hc | hc
      · exact .inr (.inr (by simpa using hc))
      · exact isAddressChar_of_sideCount hn hc

theorem isAddressChar_of_isIp {s : String} (h : isIp s = true) {c : Char} (hc : c ∈ s.toList) :
    IsAddressChar c := by
  rcases of_decide_eq_true h with h | h
  · exact isAddressChar_of_isIpv4 h hc
  · exact isAddressChar_of_isIpv6 h hc

theorem toList_ne_nil_of_isIp {s : String} (h : isIp s = true) : s.toList ≠ [] := by
  intro hnil
  rw [isIp, hnil] at h
  exact absurd h (by decide)

end Address
