import ContainerPlugin.Classifier.Failures

/-!
# The test for room

`acl_list_entries_fit_in_hashmap` adds the entries of the stored lists in an `uint16_t`. As list
updates may overfill the store, the sum can pass `2 ^ 16`, and then an over-full store looks as if it
held the remainder only.
-/

namespace ContainerPlugin.Classifier

variable {s : State}

/-- The store is exactly full, and the list has no entries that would need room. -/
def EmptyIntoFull (count : ℕ) (list : ClsList) : Prop :=
  count = maxAceInHashmap ∧ list.numEntries = 0

/-- The count passes the range of an `uint16_t`, and there is room beside what is left of it. -/
def WrapsToRoom (count : ℕ) (list : ClsList) : Prop :=
  2 ^ 16 ≤ count ∧ FitsBeside count list

/-- The test tells whether the entries fit beside all stored ones, unless the store is full and the
list is empty or the count wraps around. -/
theorem fit_test_exact_iff (s : State) (list : ClsList) :
    (aclListEntriesFitInHashmap s list = true ↔
        aceCount s + list.numEntries ≤ maxAceInHashmap) ↔
      ¬ EmptyIntoFull (aceCount s) list ∧ ¬ WrapsToRoom (aceCount s) list := by
  rw [fits_iff, EmptyIntoFull, WrapsToRoom]
  have hmax : maxAceInHashmap = 512 := rfl
  by_cases hwraps : 2 ^ 16 ≤ aceCount s
  · -- nothing fits beside so many entries
    have hover : ¬ aceCount s + list.numEntries ≤ maxAceInHashmap := by omega
    have hfull : aceCount s ≠ maxAceInHashmap := by omega
    simp only [hover, hfull, hwraps, iff_false, false_and, not_false_iff, true_and]
  · have hcount : aceCount s % 2 ^ 16 = aceCount s := Nat.mod_eq_of_lt (by omega)
    rw [FitsBeside, hcount]
    omega

/-- A list of 32768 entries. -/
def hugeList (listId : Uuid) : ClsList :=
  ⟨listId, "acl", 0, List.replicate 32768 [], by rw [List.length_replicate]; decide⟩

theorem numEntries_hugeList (listId : Uuid) : (hugeList listId).numEntries = 32768 :=
  List.length_replicate

/-- Two list updates store 65536 entries, and one more is said to fit. -/
theorem over_full_store_looks_empty : ¬ ∀ (uuidHash : Uuid → ℕ) (lists : List (Layouts × ClsList))
    (list : ClsList),
    let s := (lists.map fun c => (c.1, Call.listUpdate c.2)).foldl (callStep uuidHash) .empty
    aclListEntriesFitInHashmap s list = true ↔
      aceCount s + list.numEntries ≤ maxAceInHashmap := by
  intro h
  let lists : List (Layouts × ClsList) :=
    [(⟨.pushFront, .pushFront⟩, hugeList 1), (⟨.pushFront, .pushFront⟩, hugeList 2)]
  let s := (lists.map fun c => (c.1, Call.listUpdate c.2)).foldl (callStep BitVec.toNat) .empty
  let list : ClsList := ⟨3, "acl", 0, [[]], by decide⟩
  have hacls : s.acls = [hugeList 2, hugeList 1] := rfl
  have hcount : aceCount s = 65536 := by
    rw [aceCount, hacls, List.map_cons, List.map_singleton, numEntries_hugeList,
      numEntries_hugeList]
    rfl
  have hfits : aclListEntriesFitInHashmap s list = true := by
    rw [fits_iff, FitsBeside, hcount]
    decide
  have hle := (h BitVec.toNat lists list).mp hfits
  change aceCount s + 1 ≤ 512 at hle
  omega

end ContainerPlugin.Classifier
