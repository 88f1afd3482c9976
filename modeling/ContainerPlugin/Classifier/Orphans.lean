import ContainerPlugin.Classifier.Capacity
import ContainerPlugin.Classifier.Application

/-!
# Lists without a binding

The store keeps no reference count. An apply that creates a list and then binds no port leaves it
without a binding; a remove deletes its list only when the bucket of the list has become empty, and
may unbind another list for good; deleting a LAG member never deletes a list. `KeepsReferences` says,
on the tables before a call, that none of this happens.
-/

namespace ContainerPlugin.Classifier

open Runs

variable {uuidHash : Uuid → ℕ} {s : State}

/-- Some binding refers to the list. -/
def Referenced (s : State) (uuid : Uuid) : Prop := ∃ b ∈ s.bindings, b.listId = uuid

/-- Every stored list is referenced. -/
def NoOrphan (s : State) : Prop := ∀ a ∈ s.acls, Referenced s a.listId

/-- An apply finds a port of the bundle that it may bind. -/
def Binds (uuidHash : Uuid → ℕ) (s : State) (listId : Uuid) (bundle : Option Bundle)
    (direction : Direction) : Prop :=
  ∃ b ∈ bundle, ∃ port ∈ b.ports,
    portAlreadyBound uuidHash s listId port.name direction = false

/-- The list that an apply is about is referenced, or is going to be, or is not stored. -/
def ApplyKeeps (uuidHash : Uuid → ℕ) (s : State) (list : ClsList) (bundle : Option Bundle)
    (direction : Direction) : Prop :=
  (aclLookupByUuid uuidHash s list.listId = none → aclListEntriesFitInHashmap s list = true) →
    Referenced s list.listId ∨ Binds uuidHash s list.listId bundle direction

/-- None of the searches for `names` in the bucket of the list stops at the binding. -/
def Left (uuidHash : Uuid → ℕ) (s : State) (listId : Uuid) (names : List String)
    (b : AclPortBinding) : Prop :=
  b ∈ s.bindings ∧ ∀ name ∈ names, foundBinding uuidHash s listId name ≠ some b

/-- A removal of `listId` leaves a binding of the list `uuid`, or it is about this list and leaves
nothing in its bucket. -/
def RemoveKeeps (uuidHash : Uuid → ℕ) (s : State) (listId : Uuid) (names : List String)
    (uuid : Uuid) : Prop :=
  (∃ b, Left uuidHash s listId names b ∧ b.listId = uuid) ∨
    (uuid = listId ∧ ∀ b, Left uuidHash s listId names b →
      b ∉ s.allPortApplications.bucket (uuidHash listId))

/-- The call leaves no list without a binding, judged by the tables before it. The two halves of a
replace are judged by the tables they start from. -/
def KeepsReferences (uuidHash : Uuid → ℕ) (s : State) (c : Layouts × Call) : Prop :=
  match c.2 with
  | .apply (some list) bundle _ direction => ApplyKeeps uuidHash s list bundle direction
  | .remove listId (some bundle) _ => aclLookupByUuid uuidHash s listId ≠ none →
      ∀ a ∈ s.acls, RemoveKeeps uuidHash s listId (bundle.ports.map (·.name)) a.listId
  | .lagUpdate (some list) (some bundle) ofpPort .memberIntfDel _ _ =>
      aclLookupByUuid uuidHash s list.listId ≠ none →
        ∀ port ∈ bundle.ports.find? (·.ofpPort == ofpPort), ∀ a ∈ s.acls,
          ∃ b, Left uuidHash s list.listId [port.name] b ∧ b.listId = a.listId
  | .replace orig list (some bundle) _ direction => aclLookupByUuid uuidHash s orig ≠ none →
      (∀ a ∈ s.acls, a.listId ≠ list.listId →
        RemoveKeeps uuidHash s orig (bundle.ports.map (·.name)) a.listId) ∧
      ApplyKeeps uuidHash (opsClsPdRemove uuidHash s orig (some bundle) direction).state list
        (some bundle) direction
  | .listUpdate list => aclLookupByUuid uuidHash s list.listId ≠ none
  | _ => True

/-! ## Apply -/

theorem referenced_insertBinding (L : Layouts) (b : AclPortBinding) (uuid : Uuid) :
    Referenced (insertBinding uuidHash L s b) uuid ↔ Referenced s uuid ∨ b.listId = uuid := by
  constructor
  · rintro ⟨b', hb', hid⟩
    rcases (bindings_insertBinding L).1 hb' with rfl | hb'
    · exact .inr hid
    · exact .inl ⟨b', hb', hid⟩
  · rintro (⟨b', hb', hid⟩ | hid)
    · exact ⟨b', (bindings_insertBinding L).2 (.inr hb'), hid⟩
    · exact ⟨b, (bindings_insertBinding L).2 (.inl rfl), hid⟩

/-- The port loop of an apply adds a reference to the list if the tables before it let it bind some
port: the first such port is reached with these tables. -/
theorem referenced_foldl_applyPort (L : Layouts) (listId : Uuid) (bundleName : String)
    (info : InterfaceInfo) (direction : Direction) (uuid : Uuid) (ports : List BundlePort)
    (st : State × Bool) :
    Referenced (ports.foldl (applyPort uuidHash L listId bundleName info direction) st).1 uuid ↔
      Referenced st.1 uuid ∨ (uuid = listId ∧ ∃ port ∈ ports,
        portAlreadyBound uuidHash st.1 listId port.name direction = false) := by
  induction ports generalizing st with
  | nil => simp
  | cons port ports ih =>
    rw [List.foldl_cons, ih]
    cases hbound : portAlreadyBound uuidHash st.1 listId port.name direction with
    | true =>
      rw [applyPort_eq_of_bound L listId bundleName info direction hbound]
      simp [hbound]
    | false =>
      rw [applyPort, if_neg (by simp [hbound]), referenced_insertBinding]
      constructor
      · rintro ((h | rfl) | ⟨rfl, -⟩)
        · exact .inl h
        · exact .inr ⟨rfl, port, List.mem_cons_self, hbound⟩
        · exact .inr ⟨rfl, port, List.mem_cons_self, hbound⟩
      · rintro (h | ⟨rfl, -⟩)
        · exact .inl (.inl h)
        · exact .inl (.inr rfl)

theorem referenced_applyToBundle (L : Layouts) (list : ClsList) (bundle : Option Bundle)
    (info : InterfaceInfo) (direction : Direction) (uuid : Uuid) :
    Referenced (applyToBundle uuidHash L s list bundle info direction).state uuid ↔
      Referenced s uuid ∨
        (uuid = list.listId ∧ Binds uuidHash s list.listId bundle direction) := by
  cases bundle with
  | none => simp [applyToBundle, Binds]
  | some bundle =>
    have hloop : ∀ st, Referenced (bundle.ports.foldl (applyPort uuidHash L list.listId bundle.name
        info direction) st).1 uuid ↔ _ :=
      referenced_foldl_applyPort L list.listId bundle.name info direction uuid bundle.ports
    simp only [Binds, Option.mem_some_iff, exists_eq_left']
    unfold applyToBundle
    simp only
    split
    · exact hloop (s, false)
    · exact hloop (s, false)

/-- What an apply makes of the references, from any store. -/
theorem noOrphan_opsClsPdApply_iff (H : StoreInv uuidHash s) (L : Layouts) (list : ClsList)
    (bundle : Option Bundle) (info : InterfaceInfo) (direction : Direction) :
    NoOrphan (opsClsPdApply uuidHash L s (some list) bundle info direction).state ↔
      (∀ a ∈ s.acls, a.listId ≠ list.listId → Referenced s a.listId) ∧
        ApplyKeeps uuidHash s list bundle direction := by
  cases hlookup : aclLookupByUuid uuidHash s list.listId with
  | some a₀ =>
    obtain ⟨ha₀, hid₀⟩ := aclLookupByUuid_eq_some H hlookup
    simp only [opsClsPdApply_known hlookup, NoOrphan, State.acls, applyToBundle_allAcls,
      referenced_applyToBundle, ApplyKeeps, hlookup]
    constructor
    · intro h
      refine ⟨fun a ha hne => (h a ha).resolve_right fun hb => hne hb.1, fun _ => ?_⟩
      exact hid₀ ▸ (h a₀ ha₀).imp id fun hb => hid₀.symm ▸ hb.2
    · rintro ⟨hother, hlist⟩ a ha
      by_cases hid : a.listId = list.listId
      · rw [hid]
        exact (hlist (absurd · (Option.some_ne_none _))).imp id fun hb => ⟨rfl, hb⟩
      · exact .inl (hother a ha hid)
  | none =>
    have hne : ∀ a ∈ s.acls, a.listId ≠ list.listId := aclLookupByUuid_eq_none H hlookup
    cases hfits : aclListEntriesFitInHashmap s list with
    | false =>
      simp only [opsClsPdApply_full hlookup hfits, ApplyKeeps, hlookup, hfits]
      exact ⟨fun h => ⟨fun a ha _ => h a ha, fun hf => absurd (hf trivial) Bool.false_ne_true⟩,
        fun h a ha => h.1 a ha (hne a ha)⟩
    | true =>
      -- creating the list leaves the bindings as they are
      have hcreate : Binds uuidHash (aclCreate uuidHash L s list) list.listId bundle direction ↔
          Binds uuidHash s list.listId bundle direction := .rfl
      have hrefs : ∀ uuid, Referenced (aclCreate uuidHash L s list) uuid ↔ Referenced s uuid :=
        fun _ => .rfl
      have hmem : ∀ a, a ∈ Hmap.values (aclCreate uuidHash L s list).allAcls ↔
          a = list ∨ a ∈ s.acls := fun a => mem_acls_aclCreate L list
      simp only [opsClsPdApply_new hlookup hfits, NoOrphan, State.acls, applyToBundle_allAcls,
        referenced_applyToBundle, hcreate, hrefs, hmem, ApplyKeeps, hlookup, hfits]
      constructor
      · intro h
        refine ⟨fun a ha hid => (h a (.inr ha)).resolve_right fun hb => hid hb.1, fun _ => ?_⟩
        exact (h list (.inl rfl)).imp id And.right
      · rintro ⟨hother, hlist⟩ a (rfl | ha)
        · exact (hlist fun _ => trivial).imp id fun hb => ⟨rfl, hb⟩
        · exact .inl (hother a ha (hne a ha))

/-! ## Remove -/

theorem referenced_foldl_removePort (H : StoreInv uuidHash s) {listId : Uuid}
    {ports : List BundlePort} (hnd : (ports.map (·.name)).Nodup) (uuid : Uuid) :
    Referenced (ports.foldl (removePort uuidHash listId) s) uuid ↔
      ∃ b, Left uuidHash s listId (ports.map (·.name)) b ∧ b.listId = uuid := by
  simp only [Referenced, Left, mem_bindings_foldl_removePort H hnd, List.forall_mem_map]

theorem mask_foldl_removePort (listId : Uuid) (ports : List BundlePort) :
    (ports.foldl (removePort uuidHash listId) s).allPortApplications.mask =
      s.allPortApplications.mask := by
  induction ports generalizing s with
  | nil => rfl
  | cons port ports ih =>
    rw [List.foldl_cons, ih, removePort_allPortApplications]
    rfl

theorem mem_acls_removePort (H : StoreInv uuidHash s) (listId : Uuid) (port : BundlePort)
    (a : ClsList) :
    a ∈ (removePort uuidHash listId s port).acls ↔ a ∈ s.acls ∧ (a.listId = listId →
      (removePort uuidHash listId s port).allPortApplications.bucket (uuidHash listId) ≠ []) := by
  have H' := H.removeBinding listId port.name
  rw [removePort_allPortApplications]
  unfold removePort
  simp only
  split
  · rename_i hempty
    rw [mem_acls_aclListDelete H', List.isEmpty_iff.1 hempty]
    exact and_congr_right fun _ => ⟨fun hne hid => absurd hid hne, fun h hid => h hid rfl⟩
  · rename_i hfull
    exact ⟨fun ha => ⟨ha, fun _ h => hfull (List.isEmpty_iff.2 h)⟩, And.left⟩

theorem mem_bucket_foldl_removePort (H : StoreInv uuidHash s) {listId : Uuid}
    {ports : List BundlePort} (hnd : (ports.map (·.name)).Nodup) {b : AclPortBinding} :
    b ∈ (ports.foldl (removePort uuidHash listId) s).allPortApplications.bucket
        (uuidHash listId) ↔
      Left uuidHash s listId (ports.map (·.name)) b ∧
        b ∈ s.allPortApplications.bucket (uuidHash listId) := by
  have H' : StoreInv uuidHash (ports.foldl (removePort uuidHash listId) s) :=
    List.foldlRecOn ports _ H fun s H port _ => H.removePort listId port
  have hmem : b ∈ (ports.foldl (removePort uuidHash listId) s).bindings ↔
      b ∈ s.bindings ∧ ∀ port ∈ ports, foundBinding uuidHash s listId port.name ≠ some b :=
    mem_bindings_foldl_removePort H hnd
  rw [Hmap.mem_bucket_iff H'.bindingsHashed, Hmap.mem_bucket_iff H.bindingsHashed,
    mask_foldl_removePort]
  simp only [Left, List.forall_mem_map]
  change b ∈ Hmap.values _ ↔ b ∈ Hmap.values _ ∧ _ at hmem
  rw [hmem]
  exact ⟨fun h => ⟨h.1, h.1.1, h.2⟩, fun h => ⟨h.1, h.2.2⟩⟩

/-- The bucket of the list only loses bindings, so the list is deleted on the way exactly if its
bucket is empty at the end. -/
theorem mem_acls_foldl_removePort (H : StoreInv uuidHash s) (listId : Uuid)
    {ports : List BundlePort} (hnd : (ports.map (·.name)).Nodup) (a : ClsList) :
    a ∈ (ports.foldl (removePort uuidHash listId) s).acls ↔ a ∈ s.acls ∧ (a.listId = listId →
      ports = [] ∨ (ports.foldl (removePort uuidHash listId) s).allPortApplications.bucket
        (uuidHash listId) ≠ []) := by
  induction ports generalizing s with
  | nil => simp
  | cons port ports ih =>
    have H' := H.removePort listId port
    have hnd' := (List.nodup_cons.1 hnd).2
    rw [List.foldl_cons, ih H' hnd', mem_acls_removePort H, and_assoc, ← imp_and]
    refine and_congr_right fun _ => imp_congr_right fun _ => ?_
    constructor
    · rintro ⟨hfirst, rfl | hlast⟩
      · exact .inr hfirst
      · exact .inr hlast
    · rintro (h | hlast)
      · cases h
      · refine ⟨fun hfirst => hlast ?_, .inr hlast⟩
        rw [List.eq_nil_iff_forall_not_mem] at hfirst ⊢
        exact fun b hb => hfirst b ((mem_bucket_foldl_removePort H' hnd').1 hb).2

/-- What a remove makes of the references of the stored lists that `watched` selects, provided these
lists are referenced before. -/
theorem noOrphan_foldl_removePort_iff (H : StoreInv uuidHash s) (listId : Uuid)
    {ports : List BundlePort} (hnd : (ports.map (·.name)).Nodup) (watched : Uuid → Prop)
    (href : ∀ a ∈ s.acls, watched a.listId → Referenced s a.listId) :
    let s' := ports.foldl (removePort uuidHash listId) s
    (∀ a ∈ s'.acls, watched a.listId → Referenced s' a.listId) ↔
      ∀ a ∈ s.acls, watched a.listId →
        RemoveKeeps uuidHash s listId (ports.map (·.name)) a.listId := by
  simp only [mem_acls_foldl_removePort H listId hnd, referenced_foldl_removePort H hnd]
  constructor
  · intro h a ha hw
    by_cases hid : a.listId = listId
    · by_cases hempty : ∀ b, Left uuidHash s listId (ports.map (·.name)) b →
        b ∉ s.allPortApplications.bucket (uuidHash listId)
      · exact .inr ⟨hid, hempty⟩
      · push Not at hempty
        obtain ⟨b, hleft, hb⟩ := hempty
        refine .inl (h a ⟨ha, fun _ => .inr ?_⟩ hw)
        exact List.ne_nil_of_mem ((mem_bucket_foldl_removePort H hnd).2 ⟨hleft, hb⟩)
    · exact .inl (h a ⟨ha, fun h => absurd h hid⟩ hw)
  · rintro h a ⟨ha, hkept⟩ hw
    rcases h a ha hw with hleft | ⟨hid, hempty⟩
    · exact hleft
    · rcases hkept hid with rfl | hne
      · obtain ⟨b, hb, hbid⟩ := href a ha hw
        exact ⟨b, ⟨hb, nofun⟩, hbid⟩
      · obtain ⟨b, hb⟩ := List.exists_mem_of_ne_nil _ hne
        obtain ⟨hleft, hbucket⟩ := (mem_bucket_foldl_removePort H hnd).1 hb
        exact absurd hbucket (hempty b hleft)

/-! ## Runs -/

theorem opsClsPdRemove_known {listId : Uuid} {a : ClsList} {direction : Direction}
    (h : aclLookupByUuid uuidHash s listId = some a) (bundle : Bundle) :
    opsClsPdRemove uuidHash s listId (some bundle) direction =
      ⟨bundle.ports.foldl (removePort uuidHash listId) s, 0, none⟩ := by
  simp only [opsClsPdRemove, h]

theorem opsClsPdRemove_failed {listId : Uuid} {bundle : Option Bundle} {direction : Direction}
    (h : aclLookupByUuid uuidHash s listId = none ∨ bundle = none) :
    opsClsPdRemove uuidHash s listId bundle direction = ⟨s, -1, none⟩ := by
  unfold opsClsPdRemove
  rcases h with h | rfl
  · simp only [h]
  · split
    · rfl
    · rfl

theorem noOrphan_opsClsPdLagUpdate_iff (H : StoreInv uuidHash s) (hs : NoOrphan s) (L : Layouts)
    (list : Option ClsList) (bundle : Option Bundle) (ofpPort : ℕ) (action : LagUpdateAction)
    (info : InterfaceInfo) (direction : Direction) :
    NoOrphan (opsClsPdLagUpdate uuidHash L s list bundle ofpPort action info direction).state ↔
      KeepsReferences uuidHash s (L, .lagUpdate list bundle ofpPort action info direction) := by
  unfold opsClsPdLagUpdate
  cases list with
  | none => exact iff_of_true hs trivial
  | some list =>
    cases action with
    | memberIntfAdd =>
      refine iff_of_true ?_ (by cases bundle <;> trivial)
      simp only
      split
      · exact hs
      · split
        · exact hs
        · split
          · exact hs
          · split
            · exact hs
            · rename_i port _
              rw [lagUpdateMember]
              split
              · exact hs
              · exact fun a ha => (referenced_insertBinding L _ _).2 (.inl (hs a ha))
    | memberIntfDel =>
      simp only [reduceCtorEq, false_and, and_false, if_false]
      cases bundle with
      | none =>
        simp only [KeepsReferences]
        split
        · exact iff_of_true hs trivial
        · exact iff_of_true hs trivial
      | some bundle =>
        simp only [KeepsReferences]
        split
        · rename_i hlookup
          exact iff_of_true hs fun h => absurd hlookup h
        · rename_i hlookup
          cases hport : bundle.ports.find? (·.ofpPort == ofpPort) with
          | none => exact iff_of_true hs fun _ _ h => nomatch h
          | some port =>
            simp only [lagUpdateMember, NoOrphan, Referenced, Left, mem_bindings_removeBinding H,
              hlookup, ne_eq, reduceCtorEq, not_false_eq_true, forall_true_left,
              Option.mem_some_iff, forall_eq', List.forall_mem_singleton]
            rfl

theorem noOrphan_opsClsPdRemove_iff (H : StoreInv uuidHash s) (hs : NoOrphan s) (L : Layouts)
    (listId : Uuid) (bundle : Option Bundle) (direction : Direction) :
    NoOrphan (opsClsPdRemove uuidHash s listId bundle direction).state ↔
      KeepsReferences uuidHash s (L, .remove listId bundle direction) := by
  cases bundle with
  | none =>
    rw [opsClsPdRemove_failed (.inr rfl)]
    exact iff_of_true hs trivial
  | some bundle =>
    cases hlookup : aclLookupByUuid uuidHash s listId with
    | none =>
      rw [opsClsPdRemove_failed (.inl hlookup)]
      exact iff_of_true hs fun h => absurd hlookup h
    | some a =>
      rw [opsClsPdRemove_known hlookup]
      have hiff := noOrphan_foldl_removePort_iff H listId bundle.ports_nodup (fun _ => True)
        fun a ha _ => hs a ha
      simp only [KeepsReferences, hlookup, ne_eq, reduceCtorEq, not_false_eq_true,
        forall_true_left]
      simpa only [NoOrphan, forall_true_left] using hiff

theorem noOrphan_opsClsPdReplace_iff (H : StoreInv uuidHash s) (hs : NoOrphan s) (L : Layouts)
    (orig : Uuid) (list : ClsList) (bundle : Option Bundle) (info : InterfaceInfo)
    (direction : Direction) :
    NoOrphan (opsClsPdReplace uuidHash L s orig list bundle info direction).state ↔
      KeepsReferences uuidHash s (L, .replace orig list bundle info direction) := by
  rw [opsClsPdReplace]
  cases bundle with
  | none =>
    rw [opsClsPdRemove_failed (.inr rfl)]
    exact iff_of_true hs trivial
  | some bundle =>
    cases hlookup : aclLookupByUuid uuidHash s orig with
    | none =>
      rw [opsClsPdRemove_failed (.inl hlookup)]
      exact iff_of_true hs fun h => absurd hlookup h
    | some a =>
      have H' := H.opsClsPdRemove orig (some bundle) direction
      simp only [KeepsReferences, hlookup, ne_eq, reduceCtorEq, not_false_eq_true,
        forall_true_left]
      rw [opsClsPdRemove_known hlookup] at H' ⊢
      simp only [not_true_eq_false, if_false]
      rw [noOrphan_opsClsPdApply_iff H']
      exact and_congr_left' (noOrphan_foldl_removePort_iff H orig bundle.ports_nodup
        (· ≠ list.listId) fun a ha _ => hs a ha)

theorem noOrphan_opsClsPdListUpdate_iff (H : StoreInv uuidHash s) (hs : NoOrphan s) (L : Layouts)
    (list : ClsList) :
    NoOrphan (opsClsPdListUpdate uuidHash L s list).state ↔
      KeepsReferences uuidHash s (L, .listUpdate list) := by
  rw [opsClsPdListUpdate, aclCreateOrUpdateEntry]
  simp only [KeepsReferences]
  cases hlookup : aclLookupByUuid uuidHash s list.listId with
  | some a₀ =>
    refine iff_of_true (fun a ha => ?_) fun h => absurd h (Option.some_ne_none _)
    obtain ⟨ha₀, hid₀⟩ := aclLookupByUuid_eq_some H hlookup
    rcases Hmap.mem_values_updateWithHash ha with ha | ⟨a', -, -, rfl⟩
    · exact hs a ha
    · obtain ⟨b, hb, hbid⟩ := hs a₀ ha₀
      exact ⟨b, hb, hbid.trans hid₀⟩
  | none =>
    refine iff_of_false (fun h => ?_) (not_not.2 rfl)
    -- the new list has no binding: bindings only refer to stored lists
    obtain ⟨b, hb, hbid⟩ := h list ((mem_acls_aclCreate L list).2 (.inl rfl))
    obtain ⟨a, ha, haid⟩ := H.stored b hb
    exact aclLookupByUuid_eq_none H hlookup a ha (haid.trans hbid)

/-- From a store without orphans, a call leads to one exactly if it meets `KeepsReferences`. -/
theorem noOrphan_callStep_iff (H : StoreInv uuidHash s) (hs : NoOrphan s) (c : Layouts × Call) :
    NoOrphan (callStep uuidHash s c) ↔ KeepsReferences uuidHash s c := by
  obtain ⟨L, c⟩ := c
  cases c with
  | apply list bundle info direction =>
    cases list with
    | none => exact iff_of_true hs trivial
    | some list =>
      refine (noOrphan_opsClsPdApply_iff H L list bundle info direction).trans ?_
      exact and_iff_right fun a ha _ => hs a ha
  | remove listId bundle direction =>
    exact noOrphan_opsClsPdRemove_iff H hs L listId bundle direction
  | lagUpdate list bundle ofpPort action info direction =>
    exact noOrphan_opsClsPdLagUpdate_iff H hs L list bundle ofpPort action info direction
  | replace orig list bundle info direction =>
    exact noOrphan_opsClsPdReplace_iff H hs L orig list bundle info direction
  | listUpdate list => exact noOrphan_opsClsPdListUpdate_iff H hs L list

/-- A run from empty tables leaves no list without a binding if and only if every call of it meets
`KeepsReferences`. -/
theorem no_orphan_iff (uuidHash : Uuid → ℕ) (cs : List (Layouts × Call)) :
    Always (callStep uuidHash) NoOrphan .empty cs ↔
      Along (callStep uuidHash) (KeepsReferences uuidHash) .empty cs := by
  refine always_iff_along (I := StoreInv uuidHash) (fun s c _ H _ => H.call c.1 c.2) ?_ .empty ?_
  · intro s c _ H hs
    exact noOrphan_callStep_iff H hs c
  · intro a ha
    cases ha

/-- The calls that the plug-in gets while bindings change. -/
def Call.OnBindings : Call → Prop
  | .listUpdate _ => False
  | _ => True

/-- An apply to a bundle that does not exist fails and leaves its list behind. -/
theorem failed_apply_leaves_orphan : ¬ ∀ (uuidHash : Uuid → ℕ) (cs : List (Layouts × Call)),
    (∀ c ∈ cs, c.2.OnBindings) → Always (callStep uuidHash) NoOrphan .empty cs := by
  intro hall
  let cs : List (Layouts × Call) :=
    [(⟨.pushFront, .pushFront⟩, .apply (some (sampleList 1)) none [] .ingress)]
  have hlast := (hall BitVec.toNat cs fun c hc => List.mem_singleton.1 hc ▸ trivial).last
  obtain ⟨b, hb, -⟩ := hlast (sampleList 1) (List.mem_singleton.2 rfl)
  cases hb

end ContainerPlugin.Classifier
