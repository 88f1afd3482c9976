import ContainerPlugin.Classifier.Basic

/-!
# The store invariant of the classifier

`StoreInv` is established by one lemma for each way in which the plug-in writes to a table
(create, overwrite and delete a list; insert and unlink a binding). Lookups only see a bucket, so
two facts about buckets carry it: the walk that guards an insertion meets every binding of the
list, and a list is deleted only when its bucket, and with it every binding of the list, is gone.
-/

namespace ContainerPlugin.Classifier

variable {uuidHash : Uuid → ℕ} {s : State}

/-- The tables are hashed by list id, hold one list per uuid and one binding per
(list, interface, direction), and no binding is left without its list. -/
structure StoreInv (uuidHash : Uuid → ℕ) (s : State) : Prop where
  aclsHashed : s.allAcls.WellHashed fun a => uuidHash a.listId
  bindingsHashed : s.allPortApplications.WellHashed fun b => uuidHash b.listId
  aclsNodup : (s.acls.map (·.listId)).Nodup
  bindingsNodup : (s.bindings.map (·.key)).Nodup
  stored : ∀ b ∈ s.bindings, ∃ a ∈ s.acls, a.listId = b.listId

theorem StoreInv.empty : StoreInv uuidHash .empty where
  aclsHashed := .empty
  bindingsHashed := .empty
  aclsNodup := List.nodup_nil
  bindingsNodup := List.nodup_nil
  stored := fun _ hb => nomatch hb

/-! ## Lookups -/

theorem aclLookupByUuid_eq_none (H : StoreInv uuidHash s) {uuid : Uuid}
    (h : aclLookupByUuid uuidHash s uuid = none) : ∀ a ∈ s.acls, a.listId ≠ uuid := by
  intro a ha hid
  rw [aclLookupByUuid, List.find?_eq_none] at h
  exact h a ((Hmap.mem_withHash_iff H.aclsHashed).2 ⟨ha, by rw [hid]⟩) (beq_iff_eq.2 hid)

theorem aclLookupByUuid_eq_some (H : StoreInv uuidHash s) {uuid : Uuid} {a : ClsList}
    (h : aclLookupByUuid uuidHash s uuid = some a) : a ∈ s.acls ∧ a.listId = uuid := by
  have hid := List.find?_some h
  exact ⟨((Hmap.mem_withHash_iff H.aclsHashed).1 (List.mem_of_find?_eq_some h)).1,
    beq_iff_eq.1 hid⟩

/-- The guard of an insertion meets every binding of the list. -/
theorem not_mem_of_not_portAlreadyBound (H : StoreInv uuidHash s) {listId : Uuid} {name : String}
    {direction : Direction} (h : portAlreadyBound uuidHash s listId name direction = false) :
    (listId, name, direction) ∉ s.bindings.map (·.key) := by
  intro hmem
  obtain ⟨b, hb, hkey⟩ := List.mem_map.1 hmem
  simp only [AclPortBinding.key, Prod.mk.injEq] at hkey
  have hbucket := Hmap.mem_bucket_of_hash H.bindingsHashed hb (k := uuidHash listId)
    (by rw [hkey.1])
  rw [portAlreadyBound, List.any_eq_false] at h
  exact h b hbucket (by simp [hkey.2.1, hkey.2.2])

/-! ## One lemma for each kind of write -/

theorem StoreInv.aclCreate (H : StoreInv uuidHash s) (L : Layouts) {list : ClsList}
    (hnew : aclLookupByUuid uuidHash s list.listId = none) :
    StoreInv uuidHash (aclCreate uuidHash L s list) where
  aclsHashed := H.aclsHashed.insert
  bindingsHashed := H.bindingsHashed
  aclsNodup := by
    have hperm := (Hmap.values_insert_perm (L := L.acls) (h := s.allAcls) (v := list)
      (uuidHash list.listId)).map (·.listId)
    refine hperm.nodup_iff.2 (List.nodup_cons.2 ⟨?_, H.aclsNodup⟩)
    intro hmem
    obtain ⟨a, ha, hid⟩ := List.mem_map.1 hmem
    exact aclLookupByUuid_eq_none H hnew a ha hid
  bindingsNodup := H.bindingsNodup
  stored := by
    intro b hb
    obtain ⟨a, ha, hid⟩ := H.stored b hb
    exact ⟨a, (Hmap.mem_values_insert _).2 (.inr ha), hid⟩

theorem StoreInv.aclCreateOrUpdateEntry (H : StoreInv uuidHash s) (L : Layouts) (list : ClsList) :
    StoreInv uuidHash (aclCreateOrUpdateEntry uuidHash L s list) := by
  unfold Classifier.aclCreateOrUpdateEntry
  split
  · have hcol : ∀ a ∈ s.allAcls.values, (a.listId == list.listId) = true →
        (aclCopy a list).listId = a.listId := fun a _ hp => (beq_iff_eq.1 hp).symm
    have hids := Hmap.map_values_updateWithHash (h := s.allAcls) (k := uuidHash list.listId) hcol
    refine ⟨H.aclsHashed.updateWithHash fun a ha hp => by rw [hcol a ha hp],
      H.bindingsHashed, ?_, H.bindingsNodup, ?_⟩
    · exact (congrArg List.Nodup hids).mpr H.aclsNodup
    · intro b hb
      obtain ⟨a, ha, hid⟩ := H.stored b hb
      have hmem : b.listId ∈ s.allAcls.values.map (·.listId) := List.mem_map.2 ⟨a, ha, hid⟩
      rw [← hids] at hmem
      obtain ⟨a', ha', hid'⟩ := List.mem_map.1 hmem
      exact ⟨a', ha', hid'⟩
  · rename_i hnew
    exact H.aclCreate L hnew

theorem mem_acls_aclListDelete (H : StoreInv uuidHash s) {uuid : Uuid} {a : ClsList} :
    a ∈ (aclListDelete uuidHash s uuid).acls ↔ a ∈ s.acls ∧ a.listId ≠ uuid := by
  have hnodup : s.allAcls.values.Nodup := H.aclsNodup.of_map _
  show a ∈ (s.allAcls.removeWithHash (uuidHash uuid) _).values ↔ _
  rw [Hmap.values_removeWithHash H.aclsHashed, Hmap.mem_eraseP_iff_of_nodup hnodup]
  refine and_congr_right fun ha => ⟨fun hfind hid => ?_, fun hid hfind => ?_⟩
  · -- uuids are unique, so the search stops at `a`
    cases hfound : s.allAcls.values.find? fun a => uuidHash a.listId == uuidHash uuid &&
        a.listId == uuid with
    | none =>
      have hno := List.find?_eq_none.1 hfound a ha
      simp [hid] at hno
    | some a' =>
      have hid' := List.find?_some hfound
      simp only [Bool.and_eq_true, beq_iff_eq] at hid'
      have heq := List.inj_on_of_nodup_map H.aclsNodup (List.mem_of_find?_eq_some hfound) ha
        (hid'.2.trans hid.symm)
      exact hfind (heq ▸ hfound)
  · have hid' := List.find?_some hfind
    simp only [Bool.and_eq_true, beq_iff_eq] at hid'
    exact hid hid'.2

/-- A list may go once its bucket of bindings is empty: no binding of the list can be left. -/
theorem StoreInv.aclListDelete (H : StoreInv uuidHash s) {uuid : Uuid}
    (hempty : s.allPortApplications.bucket (uuidHash uuid) = []) :
    StoreInv uuidHash (aclListDelete uuidHash s uuid) where
  aclsHashed := H.aclsHashed.removeWithHash
  bindingsHashed := H.bindingsHashed
  aclsNodup := by
    have hsub : (Classifier.aclListDelete uuidHash s uuid).acls.Sublist s.acls := by
      show (s.allAcls.removeWithHash (uuidHash uuid) _).values.Sublist s.allAcls.values
      rw [Hmap.values_removeWithHash H.aclsHashed]
      exact List.eraseP_sublist
    exact H.aclsNodup.sublist (hsub.map _)
  bindingsNodup := H.bindingsNodup
  stored := by
    intro b hb
    obtain ⟨a, ha, hid⟩ := H.stored b hb
    have hne : b.listId ≠ uuid := by
      intro heq
      have hmem := Hmap.mem_bucket_of_hash H.bindingsHashed hb (k := uuidHash uuid) (by rw [heq])
      rw [hempty] at hmem
      cases hmem
    exact ⟨a, (mem_acls_aclListDelete H).2 ⟨ha, hid ▸ hne⟩, hid⟩

theorem StoreInv.insertBinding (H : StoreInv uuidHash s) (L : Layouts) {b : AclPortBinding}
    (hstored : ∃ a ∈ s.acls, a.listId = b.listId) (hnew : b.key ∉ s.bindings.map (·.key)) :
    StoreInv uuidHash (insertBinding uuidHash L s b) where
  aclsHashed := H.aclsHashed
  bindingsHashed := H.bindingsHashed.insert
  aclsNodup := H.aclsNodup
  bindingsNodup := by
    have hperm := (Hmap.values_insert_perm (L := L.bindings) (h := s.allPortApplications) (v := b)
      (uuidHash b.listId)).map (·.key)
    exact hperm.nodup_iff.2 (List.nodup_cons.2 ⟨hnew, H.bindingsNodup⟩)
  stored := by
    intro b' hb'
    rcases (Hmap.mem_values_insert _).1 hb' with rfl | hb'
    · exact hstored
    · exact H.stored b' hb'

theorem bindings_removeBinding (H : StoreInv uuidHash s) (listId : Uuid) (name : String) :
    (removeBinding uuidHash s listId name).bindings =
      s.bindings.eraseP fun b => (uuidHash b.listId &&& s.allPortApplications.mask ==
        uuidHash listId &&& s.allPortApplications.mask) && b.interfaceName == name :=
  Hmap.values_removeInBucket H.bindingsHashed

theorem StoreInv.removeBinding (H : StoreInv uuidHash s) (listId : Uuid) (name : String) :
    StoreInv uuidHash (removeBinding uuidHash s listId name) where
  aclsHashed := H.aclsHashed
  bindingsHashed := H.bindingsHashed.removeInBucket
  aclsNodup := H.aclsNodup
  bindingsNodup := by
    rw [bindings_removeBinding H]
    exact H.bindingsNodup.sublist (List.eraseP_sublist.map _)
  stored := by
    intro b hb
    rw [bindings_removeBinding H] at hb
    exact H.stored b (List.mem_of_mem_eraseP hb)

/-! ## The operations -/

theorem StoreInv.removePort (H : StoreInv uuidHash s) (listId : Uuid) (port : BundlePort) :
    StoreInv uuidHash (removePort uuidHash listId s port) := by
  have H' := H.removeBinding listId port.name
  unfold Classifier.removePort
  simp only
  split
  · rename_i hempty
    exact H'.aclListDelete (List.isEmpty_iff.1 hempty)
  · exact H'

theorem StoreInv.opsClsPdRemove (H : StoreInv uuidHash s) (listId : Uuid)
    (bundle : Option Bundle) (direction : Direction) :
    StoreInv uuidHash (opsClsPdRemove uuidHash s listId bundle direction).state := by
  unfold Classifier.opsClsPdRemove
  split
  · exact H
  · split
    · exact H
    · rename_i bundle
      exact List.foldlRecOn bundle.ports _ H fun s H port _ => H.removePort listId port

theorem StoreInv.applyPort (L : Layouts) (listId : Uuid) (bundleName : String)
    (info : InterfaceInfo) (direction : Direction) {st : State × Bool} (port : BundlePort)
    (H : StoreInv uuidHash st.1) (hstored : ∃ a ∈ st.1.acls, a.listId = listId) :
    StoreInv uuidHash
      (applyPort uuidHash L listId bundleName info direction st port).1 ∧
    ∃ a ∈ (applyPort uuidHash L listId bundleName info direction st port).1.acls,
      a.listId = listId := by
  unfold Classifier.applyPort
  split
  · exact ⟨H, hstored⟩
  · rename_i hbound
    exact ⟨H.insertBinding L hstored
      (not_mem_of_not_portAlreadyBound H (Bool.not_eq_true _ ▸ hbound)), hstored⟩

theorem StoreInv.applyToBundle (H : StoreInv uuidHash s) (L : Layouts) {list : ClsList}
    (hstored : ∃ a ∈ s.acls, a.listId = list.listId) (bundle : Option Bundle)
    (info : InterfaceInfo) (direction : Direction) :
    StoreInv uuidHash (applyToBundle uuidHash L s list bundle info direction).state := by
  cases bundle with
  | none => exact H
  | some bundle =>
    have hloop := List.foldlRecOn bundle.ports
      (Classifier.applyPort uuidHash L list.listId bundle.name info direction)
      (motive := fun st => StoreInv uuidHash st.1 ∧ ∃ a ∈ st.1.acls, a.listId = list.listId)
      (b := (s, false)) ⟨H, hstored⟩ (fun _ h port _ =>
        StoreInv.applyPort L list.listId bundle.name info direction port h.1 h.2)
    unfold Classifier.applyToBundle
    simp only
    split
    · exact hloop.1
    · exact hloop.1

theorem mem_acls_aclCreate (L : Layouts) (list : ClsList) {a : ClsList} :
    a ∈ (aclCreate uuidHash L s list).acls ↔ a = list ∨ a ∈ s.acls :=
  Hmap.mem_values_insert _

section
variable {L : Layouts} {list : ClsList} {bundle : Option Bundle} {info : InterfaceInfo}
  {direction : Direction}

theorem opsClsPdApply_known {a : ClsList}
    (h : aclLookupByUuid uuidHash s list.listId = some a) :
    opsClsPdApply uuidHash L s (some list) bundle info direction =
      applyToBundle uuidHash L s list bundle info direction := by
  simp only [opsClsPdApply, h]

theorem opsClsPdApply_new (h : aclLookupByUuid uuidHash s list.listId = none)
    (hfits : aclListEntriesFitInHashmap s list = true) :
    opsClsPdApply uuidHash L s (some list) bundle info direction =
      applyToBundle uuidHash L (aclCreate uuidHash L s list) list bundle info direction := by
  simp only [opsClsPdApply, h, hfits, if_true]

theorem opsClsPdApply_full (h : aclLookupByUuid uuidHash s list.listId = none)
    (hfits : aclListEntriesFitInHashmap s list = false) :
    (opsClsPdApply uuidHash L s (some list) bundle info direction).state = s := by
  simp only [opsClsPdApply, h, hfits, Bool.false_eq_true, if_false]

end

theorem StoreInv.opsClsPdApply (H : StoreInv uuidHash s) (L : Layouts) (list : Option ClsList)
    (bundle : Option Bundle) (info : InterfaceInfo) (direction : Direction) :
    StoreInv uuidHash (opsClsPdApply uuidHash L s list bundle info direction).state := by
  cases list with
  | none => exact H
  | some list =>
    unfold Classifier.opsClsPdApply
    simp only
    split
    · rename_i a hlookup
      exact H.applyToBundle L ⟨a, aclLookupByUuid_eq_some H hlookup⟩ bundle info direction
    · rename_i hnew
      split
      · exact (H.aclCreate L hnew).applyToBundle L
          ⟨list, (mem_acls_aclCreate L list).2 (.inl rfl), rfl⟩ bundle info direction
      · exact H

/-- Adding a LAG member makes the same test and the same binding as a turn of the loop of
`ops_cls_pd_apply`. -/
theorem lagUpdateMember_add (L : Layouts) (list : ClsList) (bundleName : String)
    (port : BundlePort) (info : InterfaceInfo) (direction : Direction) :
    lagUpdateMember uuidHash L s list bundleName port .memberIntfAdd info direction =
      (applyPort uuidHash L list.listId bundleName info direction (s, false) port).1 := by
  unfold lagUpdateMember applyPort
  simp only
  split
  · rfl
  · rfl

theorem StoreInv.opsClsPdLagUpdate (H : StoreInv uuidHash s) (L : Layouts)
    (list : Option ClsList) (bundle : Option Bundle) (ofpPort : ℕ) (action : LagUpdateAction)
    (info : InterfaceInfo) (direction : Direction) :
    StoreInv uuidHash
      (opsClsPdLagUpdate uuidHash L s list bundle ofpPort action info direction).state := by
  unfold Classifier.opsClsPdLagUpdate
  split
  · exact H
  · split
    · exact H
    · split
      · exact H
      · split
        · exact H
        · split
          · exact H
          · rename_i list _ _ a hlookup _ bundle _ port _
            cases action with
            | memberIntfAdd =>
              simp only [lagUpdateMember_add]
              exact (StoreInv.applyPort L _ _ _ _ port H
                ⟨a, aclLookupByUuid_eq_some H hlookup⟩).1
            | memberIntfDel => exact H.removeBinding list.listId port.name

theorem StoreInv.opsClsPdReplace (H : StoreInv uuidHash s) (L : Layouts) (orig : Uuid)
    (list : ClsList) (bundle : Option Bundle) (info : InterfaceInfo) (direction : Direction) :
    StoreInv uuidHash (opsClsPdReplace uuidHash L s orig list bundle info direction).state := by
  have hremoved := H.opsClsPdRemove orig bundle direction
  unfold Classifier.opsClsPdReplace
  simp only
  split
  · exact hremoved
  · exact hremoved.opsClsPdApply L (some list) bundle info direction

theorem StoreInv.call (H : StoreInv uuidHash s) (L : Layouts) (c : Call) :
    StoreInv uuidHash (call uuidHash L s c).state := by
  cases c with
  | apply list bundle info direction => exact H.opsClsPdApply L list bundle info direction
  | remove listId bundle direction => exact H.opsClsPdRemove listId bundle direction
  | lagUpdate list bundle ofpPort action info direction =>
    exact H.opsClsPdLagUpdate L list bundle ofpPort action info direction
  | replace orig list bundle info direction =>
    exact H.opsClsPdReplace L orig list bundle info direction
  | listUpdate list => exact H.aclCreateOrUpdateEntry L list

theorem StoreInv.run (H : StoreInv uuidHash s) (cs : List (Layouts × Call)) :
    StoreInv uuidHash (run uuidHash s cs) := by
  induction cs generalizing s with
  | nil => exact H
  | cons c cs ih => exact ih (H.call c.1 c.2)

/-! ## Where the contents of a list come from -/

/-- The list an apply stores in state `s`: the one it is called with, if there is no list of that
uuid yet and the new one fits. -/
def created (uuidHash : Uuid → ℕ) (s : State) (list : ClsList) : Option ClsList :=
  if aclLookupByUuid uuidHash s list.listId = none ∧ aclListEntriesFitInHashmap s list then
    some list
  else none

/-- The list whose contents a call writes to the ACL table: that of a list update, or that of an
apply which creates the entry (for a replace, after its remove). -/
def given (uuidHash : Uuid → ℕ) (s : State) : Call → Option ClsList
  | .listUpdate list => some list
  | .apply (some list) .. => created uuidHash s list
  | .replace orig list bundle _ direction =>
    let removed := Classifier.opsClsPdRemove uuidHash s orig bundle direction
    if removed.rc = 0 then created uuidHash removed.state list else none
  | _ => none

/-- The last list that a run wrote to the entry of `uuid`. -/
def lastGiven (uuidHash : Uuid → ℕ) (uuid : Uuid) : State → List (Layouts × Call) → Option ClsList
  | _, [] => none
  | s, (L, c) :: cs =>
    match lastGiven uuidHash uuid (Classifier.call uuidHash L s c).state cs with
    | some list => some list
    | none => (given uuidHash s c).filter (·.listId == uuid)

/-- The contents that the store keeps of a list. -/
def SameContents (a list : ClsList) : Prop :=
  a.listId = list.listId ∧ a.listType = list.listType ∧ a.entries = list.entries

/-- Every list of `s'` is the one that `list` describes, or it was in `s` and `list` is about
another uuid. -/
def StoredFrom (s s' : State) (list : Option ClsList) : Prop :=
  ∀ a ∈ s'.acls, (∃ l, list = some l ∧ SameContents a l) ∨
    (a ∈ s.acls ∧ ∀ l, list = some l → l.listId ≠ a.listId)

theorem StoredFrom.of_subset {s' : State} (h : ∀ a ∈ s'.acls, a ∈ s.acls) :
    StoredFrom s s' none :=
  fun a ha => .inr ⟨h a ha, nofun⟩

theorem applyToBundle_allAcls (L : Layouts) (list : ClsList) (bundle : Option Bundle)
    (info : InterfaceInfo) (direction : Direction) :
    (applyToBundle uuidHash L s list bundle info direction).state.allAcls = s.allAcls := by
  cases bundle with
  | none => rfl
  | some bundle =>
    have hloop := List.foldlRecOn bundle.ports
      (Classifier.applyPort uuidHash L list.listId bundle.name info direction)
      (motive := fun st => st.1.allAcls = s.allAcls) (b := (s, false)) rfl fun st h port _ => by
        unfold Classifier.applyPort
        split
        · exact h
        · exact h
    unfold applyToBundle
    simp only
    split
    · exact hloop
    · exact hloop

theorem acls_removePort_sublist (H : StoreInv uuidHash s) (listId : Uuid) (port : BundlePort) :
    (removePort uuidHash listId s port).acls.Sublist s.acls := by
  have H' := H.removeBinding listId port.name
  unfold Classifier.removePort
  simp only
  split
  · show (Hmap.removeWithHash _ _ _).values.Sublist _
    rw [Hmap.values_removeWithHash H'.aclsHashed]
    exact List.eraseP_sublist
  · exact .refl _

theorem acls_opsClsPdRemove_sublist (H : StoreInv uuidHash s) (listId : Uuid)
    (bundle : Option Bundle) (direction : Direction) :
    (opsClsPdRemove uuidHash s listId bundle direction).state.acls.Sublist s.acls := by
  unfold opsClsPdRemove
  split
  · exact .refl _
  · split
    · exact .refl _
    · rename_i bundle
      have hloop := List.foldlRecOn bundle.ports (Classifier.removePort uuidHash listId)
        (motive := fun s' => StoreInv uuidHash s' ∧ s'.acls.Sublist s.acls)
        (b := s) ⟨H, .refl _⟩ fun s' h port _ =>
          ⟨h.1.removePort listId port, (acls_removePort_sublist h.1 listId port).trans h.2⟩
      exact hloop.2

theorem mem_acls_of_opsClsPdRemove (H : StoreInv uuidHash s) (listId : Uuid)
    (bundle : Option Bundle) (direction : Direction) {a : ClsList}
    (ha : a ∈ (opsClsPdRemove uuidHash s listId bundle direction).state.acls) : a ∈ s.acls :=
  (acls_opsClsPdRemove_sublist H listId bundle direction).subset ha

theorem StoredFrom.opsClsPdApply (H : StoreInv uuidHash s) (L : Layouts) (list : ClsList)
    (bundle : Option Bundle) (info : InterfaceInfo) (direction : Direction) :
    StoredFrom s (opsClsPdApply uuidHash L s (some list) bundle info direction).state
      (created uuidHash s list) := by
  unfold Classifier.opsClsPdApply
  simp only
  split
  · rename_i a hlookup
    rw [created, if_neg (by simp [hlookup])]
    refine .of_subset fun a ha => ?_
    rwa [State.acls, applyToBundle_allAcls] at ha
  · rename_i hnew
    split
    · rename_i hfits
      rw [created, if_pos ⟨hnew, hfits⟩]
      intro a ha
      rw [State.acls, applyToBundle_allAcls] at ha
      rcases (mem_acls_aclCreate L list).1 ha with rfl | ha
      · exact .inl ⟨a, rfl, rfl, rfl, rfl⟩
      · refine .inr ⟨ha, fun l hl => ?_⟩
        cases hl
        exact (aclLookupByUuid_eq_none H hnew a ha).symm
    · rename_i hfull
      rw [created, if_neg (by simp [hfull])]
      exact .of_subset fun _ h => h

theorem StoredFrom.opsClsPdListUpdate (H : StoreInv uuidHash s) (L : Layouts) (list : ClsList) :
    StoredFrom s (opsClsPdListUpdate uuidHash L s list).state (some list) := by
  intro a ha
  have H' := H.aclCreateOrUpdateEntry L list
  by_cases hid : a.listId = list.listId
  · -- one entry of the table carries the new contents, and uuids are unique
    refine .inl ⟨list, rfl, ?_⟩
    have hcopy : ∃ c ∈ (Classifier.aclCreateOrUpdateEntry uuidHash L s list).acls,
        SameContents c list := by
      unfold Classifier.aclCreateOrUpdateEntry
      split
      · rename_i a₀ hlookup
        obtain ⟨hmem, hid₀⟩ := aclLookupByUuid_eq_some H hlookup
        obtain ⟨b, -, -, hb⟩ := Hmap.exists_mem_values_updateWithHash H.aclsHashed
          (g := (aclCopy · list)) (p := (·.listId == list.listId)) hmem
          (congrArg uuidHash hid₀) (beq_iff_eq.2 hid₀)
        exact ⟨_, hb, rfl, rfl, rfl⟩
      · exact ⟨list, (mem_acls_aclCreate L list).2 (.inl rfl), rfl, rfl, rfl⟩
    obtain ⟨c, hc, hsame⟩ := hcopy
    cases List.inj_on_of_nodup_map H'.aclsNodup ha hc (hid.trans hsame.1.symm)
    exact hsame
  · refine .inr ⟨?_, fun l hl => by cases hl; exact fun h => hid h.symm⟩
    change a ∈ (Classifier.aclCreateOrUpdateEntry uuidHash L s list).acls at ha
    unfold Classifier.aclCreateOrUpdateEntry at ha
    split at ha
    · rcases Hmap.mem_values_updateWithHash ha with ha | ⟨b, -, -, rfl⟩
      · exact ha
      · exact absurd rfl hid
    · rcases (mem_acls_aclCreate L list).1 ha with rfl | ha
      · exact absurd rfl hid
      · exact ha

theorem opsClsPdLagUpdate_allAcls (L : Layouts) (list : Option ClsList) (bundle : Option Bundle)
    (ofpPort : ℕ) (action : LagUpdateAction) (info : InterfaceInfo) (direction : Direction) :
    (opsClsPdLagUpdate uuidHash L s list bundle ofpPort action info direction).state.allAcls =
      s.allAcls := by
  unfold opsClsPdLagUpdate
  repeat' split
  all_goals try rfl
  unfold lagUpdateMember
  repeat' split
  all_goals rfl

/-- What one call does to the contents of the ACL table. -/
theorem StoredFrom.call (H : StoreInv uuidHash s) (L : Layouts) (c : Call) :
    StoredFrom s (call uuidHash L s c).state (given uuidHash s c) := by
  cases c with
  | apply list bundle info direction =>
    cases list with
    | none => exact .of_subset fun _ h => h
    | some list => exact .opsClsPdApply H L list bundle info direction
  | remove listId bundle direction =>
    exact .of_subset fun _ h => mem_acls_of_opsClsPdRemove H listId bundle direction h
  | lagUpdate list bundle ofpPort action info direction =>
    refine .of_subset fun a ha => ?_
    change a ∈ (Hmap.values (Classifier.opsClsPdLagUpdate uuidHash L s list bundle ofpPort action
      info direction).state.allAcls) at ha
    rwa [opsClsPdLagUpdate_allAcls] at ha
  | replace orig list bundle info direction =>
    have hsub := fun a => mem_acls_of_opsClsPdRemove (a := a) H orig bundle direction
    have happly := StoredFrom.opsClsPdApply (H.opsClsPdRemove orig bundle direction) L list bundle
      info direction
    simp only [Classifier.call, opsClsPdReplace, given]
    by_cases hrc : (Classifier.opsClsPdRemove uuidHash s orig bundle direction).rc = 0
    · rw [if_neg (not_not.2 hrc), if_pos hrc]
      intro a ha
      rcases happly a ha with hl | ⟨ha, hne⟩
      · exact .inl hl
      · exact .inr ⟨hsub a ha, hne⟩
    · rw [if_pos hrc, if_neg hrc]
      exact .of_subset hsub
  | listUpdate list => exact .opsClsPdListUpdate H L list

/-- Along a run, a stored list has the contents last given to its uuid, or it has been there, and
untouched, from the start. -/
theorem stored_of_run (H : StoreInv uuidHash s) (cs : List (Layouts × Call)) {a : ClsList}
    (ha : a ∈ (run uuidHash s cs).acls) :
    (∃ l, lastGiven uuidHash a.listId s cs = some l ∧ SameContents a l) ∨
      (lastGiven uuidHash a.listId s cs = none ∧ a ∈ s.acls) := by
  induction cs generalizing s with
  | nil => exact .inr ⟨rfl, ha⟩
  | cons c cs ih =>
    obtain ⟨L, c⟩ := c
    rcases ih (H.call L c) ha with ⟨l, hl, hsame⟩ | ⟨hnone, hmem⟩
    · exact .inl ⟨l, by rw [lastGiven, hl], hsame⟩
    · rw [lastGiven, hnone]
      rcases StoredFrom.call H L c a hmem with ⟨l, hl, hsame⟩ | ⟨hmem, hother⟩
      · refine .inl ⟨l, ?_, hsame⟩
        simp [hl, hsame.1]
      · refine .inr ⟨?_, hmem⟩
        cases hg : given uuidHash s c with
        | none => rfl
        | some l => simp [hother l hg]

/-- The store invariant along every run from empty tables: one list per uuid, no binding without
its list, no two bindings of the same (list, interface, direction), and every list with the type
and the entries last given to its uuid. -/
theorem store_invariant (uuidHash : Uuid → ℕ) (cs : List (Layouts × Call)) :
    let s := run uuidHash .empty cs
    (s.acls.map (·.listId)).Nodup ∧
      (∀ b ∈ s.bindings, ∃ a ∈ s.acls, a.listId = b.listId) ∧
      (s.bindings.map (·.key)).Nodup ∧
      ∀ a ∈ s.acls, ∃ l, lastGiven uuidHash a.listId .empty cs = some l ∧
        a.listType = l.listType ∧ a.entries = l.entries := by
  have H : StoreInv uuidHash (run uuidHash .empty cs) := StoreInv.empty.run cs
  refine ⟨H.aclsNodup, H.stored, H.bindingsNodup, fun a ha => ?_⟩
  rcases stored_of_run StoreInv.empty cs ha with ⟨l, hl, hsame⟩ | ⟨-, hmem⟩
  · exact ⟨l, hl, hsame.2⟩
  · cases hmem

/-- The states that runs from empty tables reach. -/
def Reachable (uuidHash : Uuid → ℕ) (s : State) : Prop :=
  ∃ cs, Classifier.run uuidHash .empty cs = s

theorem Reachable.storeInv (h : Reachable uuidHash s) : StoreInv uuidHash s := by
  obtain ⟨cs, rfl⟩ := h
  exact StoreInv.empty.run cs

/-! ## A run with two lists -/

/-- An ACL without entries. -/
def sampleList (listId : Uuid) : ClsList := ⟨listId, "acl", 0, [], by decide⟩

/-- A bundle with the single port `1`. -/
def sampleBundle : Bundle := ⟨"1", [⟨1, "1"⟩], by decide⟩

/-- List 1 is applied to port `1` on ingress; list 2 is known but not applied. -/
def sampleCalls : List (Layouts × Call) :=
  [(⟨.pushFront, .pushFront⟩, .apply (some (sampleList 1)) (some sampleBundle) [] .ingress),
    (⟨.pushFront, .pushFront⟩, .listUpdate (sampleList 2))]

end ContainerPlugin.Classifier
