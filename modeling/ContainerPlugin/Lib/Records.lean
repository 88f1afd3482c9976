import Mathlib.Algebra.Order.Ring.Int
import ContainerPlugin.Lib.Loop

/-!
# Records with a length field

A buffer holds one record after the other. Each has a header with its own length, header included,
and the next one begins at the next multiple of 4 behind it. A loop over them carries the offset of
a record and the bytes that are left from there on, and ends at the first header that does not fit
them. Nothing is assumed of the lengths.
-/

namespace Records

open Loop

/-- Up to a multiple of 4. -/
def align (n : ℕ) : ℕ := (n + 3) / 4 * 4

theorem le_align (n : ℕ) : n ≤ align n := by
  rw [align]
  omega

theorem align_le (n : ℕ) : align n ≤ n + 3 := by
  rw [align]
  omega

variable {header : ℕ} {length : ℕ → ℕ} {offset : ℕ} {left : ℤ}

/-- There is a header, and the record that it tells of is no shorter than a header and no longer than
what is left. -/
def Fits (header : ℕ) (length : ℕ → ℕ) (offset : ℕ) (left : ℤ) : Prop :=
  header ≤ left ∧ header ≤ length offset ∧ length offset ≤ left

instance : Decidable (Fits header length offset left) := inferInstanceAs (Decidable (_ ∧ _ ∧ _))

/-- At most `fuel` records. -/
def recordsFrom (header : ℕ) (length : ℕ → ℕ) : ℕ → ℕ → ℤ → List ℕ
  | 0, _, _ => []
  | fuel + 1, offset, left =>
    if Fits header length offset left then
      offset :: recordsFrom header length fuel (offset + align (length offset))
        (left - align (length offset))
    else []

/-- The offsets of the records in the next `left` bytes; every record takes at least one. -/
def records (header : ℕ) (length : ℕ → ℕ) (offset : ℕ) (left : ℤ) : List ℕ :=
  recordsFrom header length left.toNat offset left

theorem recordsFrom_eq (hheader : 0 < header) {fuel fuel' : ℕ} (hfuel : left.toNat ≤ fuel)
    (hfuel' : left.toNat ≤ fuel') :
    recordsFrom header length fuel offset left = recordsFrom header length fuel' offset left := by
  induction fuel generalizing fuel' offset left with
  | zero =>
    cases fuel' with
    | zero => rfl
    | succ fuel' =>
      have hnot : ¬ Fits header length offset left := by
        rintro ⟨hleft, -⟩
        omega
      rw [recordsFrom, recordsFrom, if_neg hnot]
  | succ fuel ih =>
    by_cases hfits : Fits header length offset left
    · have hle := le_align (length offset)
      obtain ⟨hleft, hlength, -⟩ := hfits
      cases fuel' with
      | zero => omega
      | succ fuel' =>
        have hrest : recordsFrom header length fuel (offset + align (length offset))
            (left - align (length offset)) = recordsFrom header length fuel'
            (offset + align (length offset)) (left - align (length offset)) :=
          ih (by omega) (by omega)
        rw [recordsFrom, recordsFrom, hrest]
    · cases fuel' with
      | zero => rw [recordsFrom, recordsFrom, if_neg hfits]
      | succ fuel' => rw [recordsFrom, recordsFrom, if_neg hfits, if_neg hfits]

theorem records_of_not_fits (h : ¬ Fits header length offset left) :
    records header length offset left = [] := by
  rw [records]
  cases left.toNat with
  | zero => rfl
  | succ fuel => rw [recordsFrom, if_neg h]

theorem records_of_fits (hheader : 0 < header) (h : Fits header length offset left) :
    records header length offset left = offset :: records header length
      (offset + align (length offset)) (left - align (length offset)) := by
  have hle := le_align (length offset)
  obtain ⟨fuel, hfuel⟩ : ∃ fuel, left.toNat = fuel + 1 := ⟨left.toNat - 1, by
    have hleft := h.1
    omega⟩
  rw [records, records, hfuel, recordsFrom, if_pos h]
  congr 1
  have hlength := h.2.1
  exact recordsFrom_eq hheader (by omega) (Nat.le_refl _)

/-- Every record is within the bytes that are left. -/
theorem mem_records (hheader : 0 < header) {record : ℕ}
    (h : record ∈ records header length offset left) :
    header ≤ length record ∧ record + length record ≤ offset + left := by
  induction hn : left.toNat using Nat.strongRecOn generalizing offset left with
  | ind n ih =>
    by_cases hfits : Fits header length offset left
    · rw [records_of_fits hheader hfits, List.mem_cons] at h
      obtain ⟨hleft, hlength, hle⟩ := hfits
      have halign := le_align (length offset)
      rcases h with rfl | h
      · exact ⟨hlength, by omega⟩
      · have hrest := ih _ (by omega) h rfl
        exact ⟨hrest.1, by omega⟩
    · rw [records_of_not_fits hfits] at h
      cases h

/-! ## Loops over the records -/

section For

variable {σ β γ : Type*} {step : σ → σ ⊕ β} {I : σ → Prop} {at_ : σ → ℕ} {left_ : σ → ℤ}
  {acc : σ → γ} {body : γ → ℕ → γ} {result : γ → β} {s : σ} {rounds : List σ} {b : β}

/-- In the states that satisfy `I`, the loop does `body` for the record that it is at and goes on to
the next one, or ends with a result if there is none. -/
structure IsFor (header : ℕ) (length : ℕ → ℕ) (step : σ → σ ⊕ β) (I : σ → Prop) (at_ : σ → ℕ)
    (left_ : σ → ℤ) (acc : σ → γ) (body : γ → ℕ → γ) (result : γ → β) : Prop where
  next : ∀ s, I s → Fits header length (at_ s) (left_ s) → ∃ s', step s = .inl s' ∧ I s' ∧
    at_ s' = at_ s + align (length (at_ s)) ∧ left_ s' = left_ s - align (length (at_ s)) ∧
    acc s' = body (acc s) (at_ s)
  done : ∀ s, I s → ¬ Fits header length (at_ s) (left_ s) → step s = .inr (result (acc s))

/-- The loop ends, as what is left becomes less with every record. -/
theorem IsFor.exists_runs (h : IsFor header length step I at_ left_ acc body result)
    (hheader : 0 < header) (hs : I s) :
    ∃ rounds b, Runs step s rounds b ∧ rounds.length ≤ (left_ s).toNat + 1 := by
  refine Loop.exists_runs (I := I) (fun s => (left_ s).toNat) (fun s s' hs hstep => ?_) hs
  by_cases hfits : Fits header length (at_ s) (left_ s)
  · obtain ⟨s'', hnext, hs', -, hleft, -⟩ := h.next s hs hfits
    rw [hstep] at hnext
    cases hnext
    refine ⟨hs', ?_⟩
    have hle := le_align (length (at_ s))
    obtain ⟨hhead, hlength, -⟩ := hfits
    omega
  · rw [h.done s hs hfits] at hstep
    cases hstep

theorem IsFor.invariant (h : IsFor header length step I at_ left_ acc body result)
    (hruns : Runs step s rounds b) (hs : I s) : ∀ r ∈ rounds, I r := by
  refine hruns.forall_rounds (fun s s' hs hstep => ?_) hs
  by_cases hfits : Fits header length (at_ s) (left_ s)
  · obtain ⟨s'', hnext, hs', -⟩ := h.next s hs hfits
    rw [hstep] at hnext
    cases hnext
    exact hs'
  · rw [h.done s hs hfits] at hstep
    cases hstep

/-- The loop goes from record to record, and its result is that of `body` for all of them. -/
theorem IsFor.rounds_eq (h : IsFor header length step I at_ left_ acc body result)
    (hheader : 0 < header) (hruns : Runs step s rounds b) (hs : I s) :
    (rounds.filter fun r => Fits header length (at_ r) (left_ r)).map at_ =
        records header length (at_ s) (left_ s) ∧
      b = result ((records header length (at_ s) (left_ s)).foldl body (acc s)) := by
  induction hruns with
  | @done s b hstep =>
    by_cases hfits : Fits header length (at_ s) (left_ s)
    · obtain ⟨s', hnext, -⟩ := h.next s hs hfits
      rw [hstep] at hnext
      cases hnext
    · rw [h.done s hs hfits] at hstep
      cases hstep
      rw [records_of_not_fits hfits, List.filter_cons_of_neg (by simpa using hfits)]
      exact ⟨rfl, rfl⟩
  | @next s s' rounds b hstep hrest ih =>
    by_cases hfits : Fits header length (at_ s) (left_ s)
    · obtain ⟨s'', hnext, hs', hat, hleft, hacc⟩ := h.next s hs hfits
      rw [hstep] at hnext
      cases hnext
      obtain ⟨hrounds, hresult⟩ := ih hs'
      rw [hat, hleft] at hrounds hresult
      rw [hacc] at hresult
      rw [records_of_fits hheader hfits, List.filter_cons_of_pos (by simpa using hfits),
        List.map_cons, hrounds]
      exact ⟨rfl, hresult⟩
    · rw [h.done s hs hfits] at hstep
      cases hstep

end For

/-! ## Loops that overwrite -/

/-- What is overwritten again and again ends with the last value. -/
theorem foldl_overwrite {α γ : Type*} (p : α → Bool) (f : α → γ) (l : List α) (c : γ) :
    l.foldl (fun c a => if p a then f a else c) c = ((l.filter p).getLast?.map f).getD c := by
  induction l generalizing c with
  | nil => rfl
  | cons a l ih =>
    rw [List.foldl_cons, ih]
    cases hp : p a with
    | true =>
      rw [List.filter_cons_of_pos hp, List.getLast?_cons, if_pos rfl]
      cases (l.filter p).getLast? with
      | none => rfl
      | some last => rfl
    | false => rw [List.filter_cons_of_neg (by simp [hp]), if_neg Bool.false_ne_true]

/-- The same where each element gives a list of values. -/
theorem foldl_overwrite_flatMap {α δ γ : Type*} (values : α → List δ) (f : δ → γ) (l : List α)
    (c : γ) :
    l.foldl (fun c a => ((values a).getLast?.map f).getD c) c =
      ((l.flatMap values).getLast?.map f).getD c := by
  induction l generalizing c with
  | nil => rfl
  | cons a l ih =>
    rw [List.foldl_cons, ih, List.flatMap_cons, List.getLast?_append]
    cases (l.flatMap values).getLast? with
    | none => rfl
    | some last => rfl

/-! ## Records that are laid out -/

section Layout

variable {β α : Type*} {buffer : ℕ → β} {bytes bytes' : List β} {pad : β}

/-- The bytes are in the buffer at the offset. -/
def Holds (buffer : ℕ → β) (offset : ℕ) (bytes : List β) : Prop :=
  ∀ i (hi : i < bytes.length), buffer (offset + i) = bytes[i]

theorem holds_nil : Holds buffer offset [] := by
  intro i hi
  cases hi

theorem holds_cons_iff {b : β} :
    Holds buffer offset (b :: bytes) ↔ buffer offset = b ∧ Holds buffer (offset + 1) bytes := by
  constructor
  · intro h
    refine ⟨h 0 (Nat.zero_lt_succ _), fun i hi => ?_⟩
    rw [Nat.add_right_comm, Nat.add_assoc]
    exact h (i + 1) (Nat.succ_lt_succ hi)
  · rintro ⟨hfirst, hrest⟩ i hi
    cases i with
    | zero => exact hfirst
    | succ i =>
      have hi := hrest i (Nat.lt_of_succ_lt_succ hi)
      rw [Nat.add_right_comm, Nat.add_assoc] at hi
      exact hi

theorem holds_append_iff : Holds buffer offset (bytes ++ bytes') ↔
    Holds buffer offset bytes ∧ Holds buffer (offset + bytes.length) bytes' := by
  induction bytes generalizing offset with
  | nil => simp [holds_nil]
  | cons b bytes ih =>
    rw [List.cons_append, holds_cons_iff, holds_cons_iff, ih, and_assoc, List.length_cons,
      Nat.add_assoc, Nat.add_comm 1]

/-- Up to the place of the next record. -/
def padded (pad : β) (bytes : List β) : List β :=
  bytes ++ List.replicate (align bytes.length - bytes.length) pad

theorem length_padded (pad : β) (bytes : List β) :
    (padded pad bytes).length = align bytes.length := by
  rw [padded, List.length_append, List.length_replicate]
  exact Nat.add_sub_cancel' (le_align _)

/-- Records that were written one after the other are found again, each at its place. -/
theorem forall₂_records {encode : α → List β} (hheader : 0 < header) (pad : β) {as : List α}
    (hlength : ∀ a ∈ as, ∀ offset, Holds buffer offset (encode a) →
      length offset = (encode a).length)
    (hsize : ∀ a ∈ as, header ≤ (encode a).length)
    (hholds : Holds buffer offset (as.flatMap fun a => padded pad (encode a))) :
    List.Forall₂ (fun offset a => Holds buffer offset (encode a))
      (records header length offset ((as.flatMap fun a => padded pad (encode a)).length : ℕ)) as := by
  induction as generalizing offset with
  | nil =>
    rw [records_of_not_fits]
    · exact .nil
    · rintro ⟨hleft, -⟩
      rw [List.flatMap_nil, List.length_nil] at hleft
      omega
  | cons a as ih =>
    rw [List.flatMap_cons, holds_append_iff, length_padded] at hholds
    obtain ⟨hfirst, hrest⟩ := hholds
    have ha := (holds_append_iff.mp hfirst).1
    have hlen := hlength a List.mem_cons_self offset ha
    have hhead := hsize a List.mem_cons_self
    have hle := le_align (encode a).length
    rw [List.flatMap_cons, List.length_append, length_padded, records_of_fits hheader, hlen,
      Nat.cast_add, add_sub_cancel_left]
    · exact .cons ha (ih (fun a' ha' => hlength a' (List.mem_cons_of_mem _ ha'))
        (fun a' ha' => hsize a' (List.mem_cons_of_mem _ ha')) hrest)
    · refine ⟨?_, ?_, ?_⟩
      · omega
      · rw [hlen]
        exact hhead
      · rw [hlen]
        omega

end Layout

end Records
