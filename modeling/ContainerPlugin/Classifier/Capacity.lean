import Mathlib.Algebra.BigOperators.Group.List.Basic
import Mathlib.Algebra.Order.BigOperators.Group.List
import Mathlib.Algebra.Order.Group.Nat
import ContainerPlugin.Lib.Runs
import ContainerPlugin.Classifier.Statistics

/-!
# The number of stored entries

`ops_cls_pd_apply` creates a list only if its entries fit beside those of the stored lists.
`ops_cls_pd_list_update` creates and overwrites lists without that test, so the store stays within
`MAX_ACE_IN_HASHMAP` exactly as long as every update happens to fit beside the other lists.
-/

namespace ContainerPlugin.Classifier

open Runs

variable {uuidHash : Uuid → ℕ} {s : State}

/-- The state after a call; the call brings the arrangements that the maps take while it runs. -/
def callStep (uuidHash : Uuid → ℕ) (s : State) (c : Layouts × Call) : State :=
  (call uuidHash c.1 s c.2).state

/-- The entries of all stored lists, in unbounded arithmetic. -/
def aceCount (s : State) : ℕ := (s.acls.map (·.numEntries)).sum

/-- The entries of the stored lists other than `uuid`. -/
def otherAceCount (s : State) (uuid : Uuid) : ℕ :=
  ((s.acls.filter (·.listId ≠ uuid)).map (·.numEntries)).sum

/-- A list update brings no more entries than the other lists leave room for. -/
def UpdateFits (s : State) (c : Layouts × Call) : Prop :=
  match c.2 with
  | .listUpdate list => otherAceCount s list.listId + list.numEntries ≤ maxAceInHashmap
  | _ => True

/-- The stored entries stay within the limit, so that an entry of a list is an index into the
counts of its bindings and `ops_cls_pd_statistics_get` can be asked for all entries of a list. -/
structure WithinCapacity (uuidHash : Uuid → ℕ) (s : State) : Prop where
  total : aceCount s ≤ maxAceInHashmap
  index : ∀ a ∈ s.acls, ∀ b ∈ s.bindings, b.listId = a.listId →
    ∀ i < a.numEntries, i < maxAcePerAcl
  statisticsGet : ∀ a ∈ s.acls, ∀ bundle direction statistics random,
    (opsClsPdStatisticsGet uuidHash s a.listId bundle direction statistics a.numEntries
      random).isSome

theorem WithinCapacity.of_total (h : aceCount s ≤ maxAceInHashmap) :
    WithinCapacity uuidHash s := by
  have hle : ∀ a ∈ s.acls, a.numEntries ≤ maxAcePerAcl := fun a ha =>
    (List.single_le_sum (fun _ _ => Nat.zero_le _) _ (List.mem_map_of_mem ha)).trans h
  refine ⟨h, fun a ha b _ _ i hi => hi.trans_le (hle a ha), fun a ha _ _ _ _ => ?_⟩
  exact opsClsPdStatisticsGet_isSome (Int.ofNat_le.2 (hle a ha))

/-! ## The fit test -/

theorem foldl_aceCount (l : List ClsList) {count : ℕ} (h : count < 2 ^ 16) :
    l.foldl (fun count acl => (count + acl.numEntries) % 2 ^ 16) count =
      (count + (l.map (·.numEntries)).sum) % 2 ^ 16 := by
  induction l generalizing count with
  | nil => rw [List.foldl_nil, List.map_nil, List.sum_nil, Nat.add_zero, Nat.mod_eq_of_lt h]
  | cons a l ih =>
    rw [List.foldl_cons, ih (Nat.mod_lt _ (by decide)), List.map_cons, List.sum_cons]
    omega

/-- The count is exact modulo `2 ^ 16`. -/
theorem aclGetCurrentAceEntriesCount_eq (s : State) :
    aclGetCurrentAceEntriesCount s = aceCount s % 2 ^ 16 := by
  rw [aclGetCurrentAceEntriesCount, foldl_aceCount _ (by decide), Nat.zero_add, aceCount]

/-- In a store within the limit the test is right. -/
theorem aceCount_add_le_of_fits (h : aceCount s ≤ maxAceInHashmap) (list : ClsList) :
    aclListEntriesFitInHashmap s list = true →
      aceCount s + list.numEntries ≤ maxAceInHashmap := by
  have hcount : aclGetCurrentAceEntriesCount s = aceCount s := by
    rw [aclGetCurrentAceEntriesCount_eq]
    exact Nat.mod_eq_of_lt (h.trans_lt (by decide))
  intro hfits
  rw [aclListEntriesFitInHashmap, hcount] at hfits
  split at hfits
  · cases hfits
  · split at hfits
    · have hle := of_decide_eq_true hfits
      omega
    · cases hfits

/-! ## What the operations do to the count -/

theorem aceCount_aclCreate (L : Layouts) (list : ClsList) :
    aceCount (aclCreate uuidHash L s list) = aceCount s + list.numEntries := by
  have hperm := (Hmap.values_insert_perm (L := L.acls) (h := s.allAcls) (v := list)
    (uuidHash list.listId)).map (·.numEntries)
  rw [aceCount, State.acls, aclCreate, hperm.sum_eq, List.map_cons, List.sum_cons, Nat.add_comm]
  rfl

theorem aceCount_le_of_sublist {s' : State} (h : s'.acls.Sublist s.acls) :
    aceCount s' ≤ aceCount s :=
  (h.map _).sum_le_sum fun _ _ => Nat.zero_le _

theorem aceCount_opsClsPdRemove_le (H : StoreInv uuidHash s) (listId : Uuid)
    (bundle : Option Bundle) (direction : Direction) :
    aceCount (opsClsPdRemove uuidHash s listId bundle direction).state ≤ aceCount s :=
  aceCount_le_of_sublist (acls_opsClsPdRemove_sublist H listId bundle direction)

theorem aceCount_opsClsPdApply_le (L : Layouts) (list : Option ClsList) (bundle : Option Bundle)
    (info : InterfaceInfo) (direction : Direction) (h : aceCount s ≤ maxAceInHashmap) :
    aceCount (opsClsPdApply uuidHash L s list bundle info direction).state ≤ maxAceInHashmap := by
  cases list with
  | none => exact h
  | some list =>
    unfold opsClsPdApply
    simp only
    split
    · rw [aceCount, State.acls, applyToBundle_allAcls]
      exact h
    · split
      · rename_i hfits
        rw [aceCount, State.acls, applyToBundle_allAcls]
        exact (aceCount_aclCreate L list).trans_le (aceCount_add_le_of_fits h list hfits)
      · exact h

/-- An overwritten list gives its place to the new one. -/
theorem aceCount_opsClsPdListUpdate (H : StoreInv uuidHash s) (L : Layouts) (list : ClsList) :
    aceCount (opsClsPdListUpdate uuidHash L s list).state =
      otherAceCount s list.listId + list.numEntries := by
  rw [opsClsPdListUpdate, aclCreateOrUpdateEntry]
  cases hlookup : aclLookupByUuid uuidHash s list.listId with
  | none =>
    have hother : s.acls.filter (·.listId ≠ list.listId) = s.acls :=
      List.filter_eq_self.2 fun a ha => by simpa using aclLookupByUuid_eq_none H hlookup a ha
    rw [otherAceCount, hother]
    exact aceCount_aclCreate L list
  | some a =>
    obtain ⟨hmem, hid⟩ := aclLookupByUuid_eq_some H hlookup
    obtain ⟨n, hn, rfl⟩ := List.mem_map.1 hmem
    let q : Hmap.Node ClsList → Bool := fun n =>
      n.hash == uuidHash list.listId && n.value.listId == list.listId
    have hex : ∃ n ∈ s.allAcls.nodes, q n = true :=
      ⟨n, hn, by simp [q, H.aclsHashed n hn, hid]⟩
    obtain ⟨l₁, m, l₂, hnodes, hm, hover⟩ := Hmap.overwriteFirst_eq_append hex
    have hacls : s.acls = l₁.map (·.value) ++ m.value :: l₂.map (·.value) := by
      rw [State.acls, Hmap.values, hnodes, List.map_append, List.map_cons]
    have hmid : m.value.listId = list.listId := by
      simp only [q, Bool.and_eq_true, beq_iff_eq] at hm
      exact hm.2
    -- uuids are unique, so the lists beside the overwritten one are the other lists
    have hnodup := H.aclsNodup
    rw [hacls, List.map_append, List.map_cons, List.nodup_middle, List.nodup_cons,
      ← List.map_append] at hnodup
    have hne : ∀ a ∈ l₁.map (·.value) ++ l₂.map (·.value), a.listId ≠ list.listId := by
      intro a ha heq
      exact hnodup.1 (hmid.symm ▸ heq ▸ List.mem_map_of_mem ha)
    have hother : s.acls.filter (·.listId ≠ list.listId) =
        l₁.map (·.value) ++ l₂.map (·.value) := by
      rw [hacls, List.filter_append, List.filter_cons_of_neg (by simp [hmid])]
      rw [List.filter_eq_self.2 fun a ha => by simpa using hne a (List.mem_append_left _ ha),
        List.filter_eq_self.2 fun a ha => by simpa using hne a (List.mem_append_right _ ha)]
    have hvalues : (s.allAcls.updateWithHash (uuidHash list.listId) (·.listId == list.listId)
        (aclCopy · list)).values = l₁.map (·.value) ++ aclCopy m.value list :: l₂.map (·.value) := by
      rw [Hmap.values, Hmap.updateWithHash, hover (aclCopy · list), List.map_append, List.map_cons]
    have hcopy : (aclCopy m.value list).numEntries = list.numEntries := rfl
    rw [aceCount, State.acls, otherAceCount, hother]
    simp only
    rw [hvalues]
    simp only [List.map_append, List.map_cons, List.sum_append, List.sum_cons, hcopy]
    omega

/-! ## Runs -/

/-- From a store within the limit, a call leads to one exactly if it is no update that is too big. -/
theorem aceCount_callStep_le_iff (H : StoreInv uuidHash s) (h : aceCount s ≤ maxAceInHashmap)
    (c : Layouts × Call) :
    aceCount (callStep uuidHash s c) ≤ maxAceInHashmap ↔ UpdateFits s c := by
  obtain ⟨L, c⟩ := c
  cases c with
  | apply list bundle info direction =>
    exact iff_of_true (aceCount_opsClsPdApply_le L list bundle info direction h) trivial
  | remove listId bundle direction =>
    exact iff_of_true ((aceCount_opsClsPdRemove_le H listId bundle direction).trans h) trivial
  | lagUpdate list bundle ofpPort action info direction =>
    refine iff_of_true ?_ trivial
    have hacls : (opsClsPdLagUpdate uuidHash L s list bundle ofpPort action info
        direction).state.allAcls = s.allAcls :=
      opsClsPdLagUpdate_allAcls L list bundle ofpPort action info direction
    exact (congrArg (fun m : Hmap ClsList => (m.values.map (·.numEntries)).sum) hacls).trans_le h
  | replace orig list bundle info direction =>
    refine iff_of_true ?_ trivial
    have hremoved := (aceCount_opsClsPdRemove_le H orig bundle direction).trans h
    rw [callStep, call, opsClsPdReplace]
    simp only
    split
    · exact hremoved
    · exact aceCount_opsClsPdApply_le L (some list) bundle info direction hremoved
  | listUpdate list =>
    exact (aceCount_opsClsPdListUpdate H L list).symm ▸ Iff.rfl

/-- A run from empty tables keeps the store within its capacity if and only if every list update
fits beside the other lists. -/
theorem ace_capacity_iff (uuidHash : Uuid → ℕ) (cs : List (Layouts × Call)) :
    Always (callStep uuidHash) (WithinCapacity uuidHash) .empty cs ↔
      Along (callStep uuidHash) UpdateFits .empty cs := by
  refine always_iff_along (I := StoreInv uuidHash) (fun s c _ H _ => H.call c.1 c.2) ?_ .empty
    (.of_total (Nat.zero_le _))
  intro s c _ H hcap
  constructor
  · intro hcap'
    exact (aceCount_callStep_le_iff H hcap.total c).1 hcap'.total
  · intro hfits
    exact .of_total ((aceCount_callStep_le_iff H hcap.total c).2 hfits)

/-- A list of 513 entries, one more than the counts of a binding. -/
def oversizeList (listId : Uuid) : ClsList :=
  ⟨listId, "acl", 0, List.replicate 513 [], by rw [List.length_replicate]; decide⟩

/-- An applied list is overwritten with 513 entries. -/
theorem list_update_exceeds_capacity : ¬ ∀ (uuidHash : Uuid → ℕ) (cs : List (Layouts × Call)),
    Always (callStep uuidHash) (WithinCapacity uuidHash) .empty cs := by
  intro hall
  have hlast := (hall BitVec.toNat
    [(⟨.pushFront, .pushFront⟩, .apply (some (sampleList 1)) (some sampleBundle) [] .ingress),
      (⟨.pushFront, .pushFront⟩, .listUpdate (oversizeList 1))]).last
  exact absurd hlast.total (by decide +kernel)

end ContainerPlugin.Classifier
