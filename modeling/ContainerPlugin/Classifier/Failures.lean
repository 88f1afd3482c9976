import ContainerPlugin.Classifier.Orphans
import ContainerPlugin.Classifier.Requests

/-!
# What failed calls leave behind

`ops_cls_pd_apply` stores a new list before it looks for the bundle and for ports to bind, so that a
call which fails there leaves the list in the store. `ops_cls_pd_replace` removes the original list
before it applies the new one and does not put it back. Both theorems give the failures that change
the tables in terms of the tables before the call.
-/

namespace ContainerPlugin.Classifier

variable {uuidHash : Uuid → ℕ} {s : State}

/-! ## Apply -/

/-- The port loop of an apply reports a port, and changes the tables, exactly if some port may be
bound. -/
theorem foldl_applyPort_cases (L : Layouts) (listId : Uuid) (bundleName : String)
    (info : InterfaceInfo) (direction : Direction) (ports : List BundlePort) (st : State × Bool) :
    let st' := ports.foldl (applyPort uuidHash L listId bundleName info direction) st
    ((∃ port ∈ ports, portAlreadyBound uuidHash st.1 listId port.name direction = false) ∧
      st'.2 = true) ∨
    ((∀ port ∈ ports, portAlreadyBound uuidHash st.1 listId port.name direction = true) ∧
      st' = st) := by
  induction ports generalizing st with
  | nil => exact .inr ⟨nofun, rfl⟩
  | cons port ports ih =>
    simp only [List.foldl_cons]
    cases hbound : portAlreadyBound uuidHash st.1 listId port.name direction with
    | true =>
      rw [applyPort_eq_of_bound L listId bundleName info direction hbound]
      rcases ih st with ⟨⟨q, hq, hfree⟩, hflag⟩ | ⟨hall, hst⟩
      · exact .inl ⟨⟨q, List.mem_cons_of_mem _ hq, hfree⟩, hflag⟩
      · exact .inr ⟨List.forall_mem_cons.2 ⟨hbound, hall⟩, hst⟩
    | false =>
      have hflag := (map_applyPort_of_not_bound L listId bundleName info direction hbound).1
      refine .inl ⟨⟨port, List.mem_cons_self, hbound⟩, ?_⟩
      rcases ih (applyPort uuidHash L listId bundleName info direction st port) with
        ⟨-, hlast⟩ | ⟨-, hst⟩
      · exact hlast
      · rw [hst]
        exact hflag

/-- The part of an apply after the list has been found or created. -/
theorem applyToBundle_cases (L : Layouts) (list : ClsList) (bundle : Option Bundle)
    (info : InterfaceInfo) (direction : Direction) :
    let r := applyToBundle uuidHash L s list bundle info direction
    (Binds uuidHash s list.listId bundle direction ∧ r.rc = 0) ∨
      (¬ Binds uuidHash s list.listId bundle direction ∧ r.rc = -1 ∧ r.state = s) := by
  cases bundle with
  | none => exact .inr ⟨fun ⟨_, hb, _⟩ => (by cases hb), rfl, rfl⟩
  | some bundle =>
    simp only [applyToBundle]
    rcases foldl_applyPort_cases L list.listId bundle.name info direction bundle.ports (s, false)
      with ⟨hfree, hflag⟩ | ⟨hall, hst⟩
    · rw [if_pos hflag]
      exact .inl ⟨⟨bundle, rfl, hfree⟩, rfl⟩
    · rw [hst]
      refine .inr ⟨?_, rfl, rfl⟩
      rintro ⟨_, hb, port, hport, hfree⟩
      obtain rfl := Option.some.inj hb
      rw [hall port hport] at hfree
      cases hfree

/-- An apply refuses its list, or it does not and binds a port, or it binds none: then it has stored
the list if it was new. -/
theorem opsClsPdApply_cases (L : Layouts) (list : ClsList) (bundle : Option Bundle)
    (info : InterfaceInfo) (direction : Direction) :
    let r := opsClsPdApply uuidHash L s (some list) bundle info direction
    let isNew := aclLookupByUuid uuidHash s list.listId = none
    let fits := aclListEntriesFitInHashmap s list = true
    (isNew ∧ ¬ fits ∧ r.rc = -1 ∧ r.state = s) ∨
    ((isNew → fits) ∧ Binds uuidHash s list.listId bundle direction ∧ r.rc = 0) ∨
    ((isNew → fits) ∧ ¬ Binds uuidHash s list.listId bundle direction ∧ r.rc = -1 ∧
      ((isNew ∧ r.state = aclCreate uuidHash L s list) ∨ (¬ isNew ∧ r.state = s))) := by
  cases hlookup : aclLookupByUuid uuidHash s list.listId with
  | some a =>
    simp only [opsClsPdApply_known hlookup, reduceCtorEq, false_and, false_or, IsEmpty.forall_iff,
      true_and, not_false_eq_true]
    exact applyToBundle_cases L list bundle info direction
  | none =>
    cases hfits : aclListEntriesFitInHashmap s list with
    | false =>
      simp only [opsClsPdApply, hlookup, hfits]
      exact .inl ⟨trivial, Bool.false_ne_true, rfl, rfl⟩
    | true =>
      -- the new list does not change what is bound
      have hcreate : Binds uuidHash (aclCreate uuidHash L s list) list.listId bundle direction ↔
          Binds uuidHash s list.listId bundle direction := .rfl
      rw [opsClsPdApply_new hlookup hfits]
      refine .inr ?_
      rcases applyToBundle_cases L list bundle info direction with hok | ⟨hnone, hrc, hstate⟩
      · exact .inl ⟨fun _ => rfl, hcreate.1 hok.1, hok.2⟩
      · exact .inr ⟨fun _ => rfl, fun h => hnone (hcreate.2 h), hrc, .inl ⟨rfl, hstate⟩⟩

/-- The apply stores its list although it has no bundle, or no port of it, to bind the list to. -/
def StoresInVain (uuidHash : Uuid → ℕ) (s : State) (list : Option ClsList)
    (bundle : Option Bundle) (direction : Direction) : Prop :=
  ∃ l ∈ list, aclLookupByUuid uuidHash s l.listId = none ∧
    aclListEntriesFitInHashmap s l = true ∧ ¬ Binds uuidHash s l.listId bundle direction

theorem aclCreate_ne (L : Layouts) (list : ClsList) : aclCreate uuidHash L s list ≠ s := by
  intro heq
  have hlength : (aclCreate uuidHash L s list).allAcls.nodes.length =
      s.allAcls.nodes.length + 1 := Hmap.length_nodes_insert _
  rw [heq] at hlength
  omega

/-- A failing apply leaves both tables as they were if and only if it does not store its list in
vain. -/
theorem apply_failure_unchanged_iff (uuidHash : Uuid → ℕ) (L : Layouts) (s : State)
    (list : Option ClsList) (bundle : Option Bundle) (info : InterfaceInfo)
    (direction : Direction) :
    let r := opsClsPdApply uuidHash L s list bundle info direction
    (r.rc = -1 → r.state.allAcls = s.allAcls ∧
        r.state.allPortApplications = s.allPortApplications) ↔
      ¬ StoresInVain uuidHash s list bundle direction := by
  cases list with
  | none => exact iff_of_true (fun _ => ⟨rfl, rfl⟩) fun ⟨l, hl, _⟩ => (by cases hl)
  | some list =>
    simp only [StoresInVain, Option.mem_some_iff, exists_eq_left']
    rcases opsClsPdApply_cases L list bundle info direction with
      ⟨-, hfull, -, hstate⟩ | ⟨-, hbinds, hrc⟩ | ⟨hfits, hnone, hrc, hstored⟩
    · rw [hstate]
      exact iff_of_true (fun _ => ⟨rfl, rfl⟩) fun h => hfull h.2.1
    · rw [hrc]
      exact iff_of_true nofun fun h => h.2.2 hbinds
    · rcases hstored with ⟨hnew, hstate⟩ | ⟨hknown, hstate⟩
      · refine iff_of_false (fun h => ?_) fun h => h ⟨hnew, hfits hnew, hnone⟩
        have hsame := h hrc
        rw [hstate] at hsame
        exact aclCreate_ne L list (congrArg₂ State.mk hsame.1 hsame.2)
      · rw [hstate]
        exact iff_of_true (fun _ => ⟨rfl, rfl⟩) fun h => hknown h.1

/-- An apply to a bundle that does not exist fails and stores its list. -/
theorem failed_apply_stores_list : ¬ ∀ (uuidHash : Uuid → ℕ) (L : Layouts) (s : State)
    (list : Option ClsList) (bundle : Option Bundle) (info : InterfaceInfo)
    (direction : Direction),
    let r := opsClsPdApply uuidHash L s list bundle info direction
    r.rc = -1 → r.state.allAcls = s.allAcls ∧
      r.state.allPortApplications = s.allPortApplications := by
  intro hall
  have hsame := hall BitVec.toNat ⟨.pushFront, .pushFront⟩ .empty (some (sampleList 1)) none []
    .ingress rfl
  have hlength := congrArg (fun m : Hmap ClsList => m.nodes.length) hsame.1
  exact absurd hlength (by decide)

/-! ## Replace -/

/-- The remove unbinds a port of the bundle, or finds the bucket of the list empty and deletes the
list. -/
def Takes (uuidHash : Uuid → ℕ) (s : State) (listId : Uuid) (names : List String) : Prop :=
  names ≠ [] ∧ (s.allPortApplications.bucket (uuidHash listId) = [] ∨
    ∃ name ∈ names, foundBinding uuidHash s listId name ≠ none)

/-- The remove deletes the list: it leaves nothing in its bucket. -/
def Deletes (uuidHash : Uuid → ℕ) (s : State) (listId : Uuid) (names : List String) : Prop :=
  names ≠ [] ∧ ∀ b, Left uuidHash s listId names b →
    b ∉ s.allPortApplications.bucket (uuidHash listId)

/-- The test for room, given the number of stored entries; the sum is an `uint16_t`. -/
def FitsBeside (count : ℕ) (list : ClsList) : Prop :=
  count % 2 ^ 16 < maxAceInHashmap ∧ list.numEntries ≤ maxAceInHashmap - count % 2 ^ 16

/-- After the remove of `orig`, the new list is not stored and there is no room for it. -/
def RefusedAfter (uuidHash : Uuid → ℕ) (s : State) (orig : Uuid) (list : ClsList)
    (names : List String) : Prop :=
  (aclLookupByUuid uuidHash s list.listId = none ∨
    (list.listId = orig ∧ Deletes uuidHash s orig names)) ∧
  (Deletes uuidHash s orig names → ¬ FitsBeside (otherAceCount s orig) list) ∧
  (¬ Deletes uuidHash s orig names → ¬ FitsBeside (aceCount s) list)

/-- After the remove of `orig`, a binding that is left in the bucket of the new list blocks every
port. -/
def BlockedAfter (uuidHash : Uuid → ℕ) (s : State) (orig : Uuid) (list : ClsList)
    (names : List String) (direction : Direction) : Prop :=
  ∀ name ∈ names, ∃ b, Left uuidHash s orig names b ∧ b.interfaceName = name ∧
    b.direction = direction ∧ b ∈ s.allPortApplications.bucket (uuidHash list.listId)

/-- The remove of a replace takes something and the apply after it fails. -/
def LosesOriginal (uuidHash : Uuid → ℕ) (s : State) (orig : Uuid) (list : ClsList)
    (bundle : Option Bundle) (direction : Direction) : Prop :=
  aclLookupByUuid uuidHash s orig ≠ none ∧ ∃ b ∈ bundle,
    Takes uuidHash s orig (b.ports.map (·.name)) ∧
    (RefusedAfter uuidHash s orig list (b.ports.map (·.name)) ∨
      BlockedAfter uuidHash s orig list (b.ports.map (·.name)) direction)

theorem fits_iff (list : ClsList) :
    aclListEntriesFitInHashmap s list = true ↔ FitsBeside (aceCount s) list := by
  rw [aclListEntriesFitInHashmap, aclGetCurrentAceEntriesCount_eq, FitsBeside]
  split
  · rename_i hfull
    exact iff_of_false Bool.false_ne_true fun h => h.1.ne hfull
  · split
    · rename_i hroom
      rw [decide_eq_true_iff, and_iff_right hroom]
    · rename_i hover
      exact iff_of_false Bool.false_ne_true fun h => hover h.1

theorem aclLookupByUuid_eq_none_iff (H : StoreInv uuidHash s) {uuid : Uuid} :
    aclLookupByUuid uuidHash s uuid = none ↔ ∀ a ∈ s.acls, a.listId ≠ uuid := by
  refine ⟨aclLookupByUuid_eq_none H, fun h => ?_⟩
  cases hlookup : aclLookupByUuid uuidHash s uuid with
  | none => rfl
  | some a =>
    obtain ⟨ha, hid⟩ := aclLookupByUuid_eq_some H hlookup
    exact absurd hid (h a ha)

section
variable {orig : Uuid} {ports : List BundlePort}

theorem StoreInv.foldl_removePort (H : StoreInv uuidHash s) (orig : Uuid)
    (ports : List BundlePort) :
    StoreInv uuidHash (ports.foldl (Classifier.removePort uuidHash orig) s) :=
  List.foldlRecOn ports _ H fun _ H port _ => H.removePort orig port

/-- The lists that the port loop of a remove leaves. -/
theorem mem_acls_foldl_removePort_iff (H : StoreInv uuidHash s)
    (hnd : (ports.map (·.name)).Nodup) (a : ClsList) :
    a ∈ (ports.foldl (removePort uuidHash orig) s).acls ↔
      a ∈ s.acls ∧ (a.listId = orig → ¬ Deletes uuidHash s orig (ports.map (·.name))) := by
  rw [mem_acls_foldl_removePort H orig hnd]
  refine and_congr_right fun _ => imp_congr_right fun _ => ?_
  rw [Deletes, not_and_or, not_ne_iff, List.map_eq_nil_iff]
  refine or_congr_right ?_
  rw [ne_eq, List.eq_nil_iff_forall_not_mem, not_iff_not]
  refine forall_congr' fun b => ?_
  rw [mem_bucket_foldl_removePort H hnd, not_and]

theorem lookup_foldl_removePort (H : StoreInv uuidHash s) (hnd : (ports.map (·.name)).Nodup)
    (uuid : Uuid) :
    aclLookupByUuid uuidHash (ports.foldl (removePort uuidHash orig) s) uuid = none ↔
      aclLookupByUuid uuidHash s uuid = none ∨
        (uuid = orig ∧ Deletes uuidHash s orig (ports.map (·.name))) := by
  rw [aclLookupByUuid_eq_none_iff (H.foldl_removePort orig ports), aclLookupByUuid_eq_none_iff H]
  simp only [mem_acls_foldl_removePort_iff H hnd]
  constructor
  · intro h
    by_cases hother : ∀ a ∈ s.acls, a.listId ≠ uuid
    · exact .inl hother
    · push Not at hother
      obtain ⟨a, ha, rfl⟩ := hother
      by_contra hnot
      rw [not_or, not_and] at hnot
      exact h a ⟨ha, hnot.2⟩ rfl
  · rintro (h | ⟨rfl, hdel⟩) a ⟨ha, hkept⟩ hid
    · exact h a ha hid
    · exact hkept hid hdel

theorem aceCount_eq_of_mem {s' : State} {l : List ClsList} (hnd : s'.acls.Nodup) (hl : l.Nodup)
    (h : ∀ a, a ∈ s'.acls ↔ a ∈ l) : aceCount s' = (l.map (·.numEntries)).sum :=
  (((List.perm_ext_iff_of_nodup hnd hl).2 h).map _).sum_eq

/-- The room that a remove leaves. -/
theorem fits_foldl_removePort (H : StoreInv uuidHash s) (hnd : (ports.map (·.name)).Nodup)
    (list : ClsList) :
    ¬ aclListEntriesFitInHashmap (ports.foldl (removePort uuidHash orig) s) list = true ↔
      (Deletes uuidHash s orig (ports.map (·.name)) →
        ¬ FitsBeside (otherAceCount s orig) list) ∧
      (¬ Deletes uuidHash s orig (ports.map (·.name)) → ¬ FitsBeside (aceCount s) list) := by
  have hnodup : s.acls.Nodup := H.aclsNodup.of_map _
  have hnodup' : (ports.foldl (removePort uuidHash orig) s).acls.Nodup :=
    (H.foldl_removePort orig ports).aclsNodup.of_map _
  rw [fits_iff]
  by_cases hdel : Deletes uuidHash s orig (ports.map (·.name))
  · have hcount : aceCount (ports.foldl (removePort uuidHash orig) s) = otherAceCount s orig := by
      apply aceCount_eq_of_mem hnodup' (hnodup.filter _)
      intro a
      rw [mem_acls_foldl_removePort_iff H hnd, List.mem_filter, decide_eq_true_iff]
      exact and_congr_right fun _ => ⟨fun h hid => h hid hdel, fun h hid => absurd hid h⟩
    simp only [hcount, hdel, forall_true_left, not_true_eq_false, IsEmpty.forall_iff, and_true]
  · have hcount : aceCount (ports.foldl (removePort uuidHash orig) s) = aceCount s := by
      apply aceCount_eq_of_mem hnodup' hnodup
      intro a
      rw [mem_acls_foldl_removePort_iff H hnd]
      exact and_iff_left fun _ => hdel
    simp only [hcount, hdel, not_false_eq_true, forall_true_left, IsEmpty.forall_iff, true_and]

/-- The ports that are blocked once a remove has taken its bindings. -/
theorem not_binds_foldl_removePort (H : StoreInv uuidHash s) {bundle : Bundle} {list : ClsList}
    {direction : Direction} :
    ¬ Binds uuidHash (bundle.ports.foldl (removePort uuidHash orig) s) list.listId (some bundle)
        direction ↔
      BlockedAfter uuidHash s orig list (bundle.ports.map (·.name)) direction := by
  have H' := H.foldl_removePort orig bundle.ports
  simp only [Binds, Option.mem_some_iff, exists_eq_left', not_exists, not_and, Bool.not_eq_false,
    portAlreadyBound_iff H', Obstructed, mask_foldl_removePort,
    mem_bindings_foldl_removePort H bundle.ports_nodup, BlockedAfter, List.forall_mem_map, Left,
    Hmap.mem_bucket_iff H.bindingsHashed]
  refine forall₂_congr fun port _ => exists_congr fun b => ?_
  constructor
  · rintro ⟨hleft, hname, hdir, hbits⟩
    exact ⟨hleft, hname, hdir, hleft.1, hbits⟩
  · rintro ⟨hleft, hname, hdir, -, hbits⟩
    exact ⟨hleft, hname, hdir, hbits⟩

/-- Without anything to take, a remove leaves every binding and every list. -/
theorem kept_of_not_takes (H : StoreInv uuidHash s) (hnd : (ports.map (·.name)).Nodup)
    (h : ¬ Takes uuidHash s orig (ports.map (·.name))) :
    (∀ b ∈ s.bindings, b ∈ (ports.foldl (removePort uuidHash orig) s).bindings) ∧
      ∀ a ∈ s.acls, a ∈ (ports.foldl (removePort uuidHash orig) s).acls := by
  rw [Takes, not_and, not_or] at h
  have hnone : ∀ name ∈ ports.map (·.name), foundBinding uuidHash s orig name = none := by
    intro name hname
    by_contra hfound
    exact (h (List.ne_nil_of_mem hname)).2 ⟨name, hname, hfound⟩
  have hleft : ∀ b ∈ s.bindings, Left uuidHash s orig (ports.map (·.name)) b := by
    intro b hb
    refine ⟨hb, fun name hname => ?_⟩
    rw [hnone name hname]
    exact nofun
  constructor
  · intro b hb
    refine (mem_bindings_foldl_removePort H hnd).2 ⟨hb, fun port hport => ?_⟩
    exact (hleft b hb).2 port.name (List.mem_map_of_mem hport)
  · intro a ha
    refine (mem_acls_foldl_removePort_iff H hnd a).2 ⟨ha, fun _ hdel => ?_⟩
    -- the bucket is not empty and nothing in it is found
    obtain ⟨b, hb⟩ := List.exists_mem_of_ne_nil _ (h hdel.1).1
    exact hdel.2 b (hleft b ((Hmap.mem_bucket_iff H.bindingsHashed).1 hb).1) hb

end

/-- A failed apply leaves the bindings alone and at most adds its list. -/
theorem opsClsPdApply_of_failed {L : Layouts} {list : ClsList} {bundle : Option Bundle}
    {info : InterfaceInfo} {direction : Direction}
    (h : (opsClsPdApply uuidHash L s (some list) bundle info direction).rc ≠ 0) :
    let s' := (opsClsPdApply uuidHash L s (some list) bundle info direction).state
    s'.bindings = s.bindings ∧ (∀ a ∈ s.acls, a ∈ s'.acls) ∧
      ∀ a ∈ s'.acls, a ∈ s.acls ∨
        (a = list ∧ ¬ Binds uuidHash s list.listId bundle direction) := by
  rcases opsClsPdApply_cases L list bundle info direction with
    ⟨-, -, -, hstate⟩ | ⟨-, -, hrc⟩ | ⟨-, hnone, -, ⟨-, hstate⟩ | ⟨-, hstate⟩⟩
  · rw [hstate]
    exact ⟨rfl, fun _ ha => ha, fun _ ha => .inl ha⟩
  · exact absurd hrc h
  · rw [hstate]
    refine ⟨rfl, fun a ha => (mem_acls_aclCreate L list).2 (.inr ha), fun a ha => ?_⟩
    exact ((mem_acls_aclCreate L list).1 ha).symm.imp id fun heq => ⟨heq, hnone⟩
  · rw [hstate]
    exact ⟨rfl, fun _ ha => ha, fun _ ha => .inl ha⟩

theorem opsClsPdApply_failed_iff {L : Layouts} {list : ClsList} {bundle : Option Bundle}
    {info : InterfaceInfo} {direction : Direction} :
    (opsClsPdApply uuidHash L s (some list) bundle info direction).rc ≠ 0 ↔
      (aclLookupByUuid uuidHash s list.listId = none ∧
        ¬ aclListEntriesFitInHashmap s list = true) ∨
      ¬ Binds uuidHash s list.listId bundle direction := by
  rcases opsClsPdApply_cases L list bundle info direction with
    ⟨hnew, hfull, hrc, -⟩ | ⟨hfits, hbinds, hrc⟩ | ⟨-, hnone, hrc, -⟩
  · exact iff_of_true (by rw [hrc]; decide) (.inl ⟨hnew, hfull⟩)
  · refine iff_of_false (not_not.2 hrc) ?_
    rintro (⟨hnew, hfull⟩ | hnone)
    · exact hfull (hfits hnew)
    · exact hnone hbinds
  · exact iff_of_true (by rw [hrc]; decide) (.inr hnone)

/-- Once the remove has taken something, a failing apply does not bring it back. -/
theorem lost_of_takes (H : StoreInv uuidHash s) {L : Layouts} {orig : Uuid} {list : ClsList}
    {bundle : Bundle} {info : InterfaceInfo} {direction : Direction}
    (horig : aclLookupByUuid uuidHash s orig ≠ none)
    (htakes : Takes uuidHash s orig (bundle.ports.map (·.name)))
    (hfail : (opsClsPdApply uuidHash L (bundle.ports.foldl (removePort uuidHash orig) s)
      (some list) (some bundle) info direction).rc ≠ 0) :
    let s' := (opsClsPdApply uuidHash L (bundle.ports.foldl (removePort uuidHash orig) s)
      (some list) (some bundle) info direction).state
    ¬ ((∀ b ∈ s.bindings, b ∈ s'.bindings) ∧ ∀ a ∈ s.acls, a ∈ s'.acls) := by
  obtain ⟨hbindings, -, hacls⟩ := opsClsPdApply_of_failed hfail
  dsimp only
  rintro ⟨hkeepb, hkeepa⟩
  obtain ⟨hne, hempty | ⟨name, hname, hfound⟩⟩ := htakes
  · -- the bucket is empty: the list goes, and comes back only if every port can be bound
    obtain ⟨a, ha⟩ := Option.ne_none_iff_exists'.1 horig
    obtain ⟨ha, hid⟩ := aclLookupByUuid_eq_some H ha
    have hdel : Deletes uuidHash s orig (bundle.ports.map (·.name)) := by
      refine ⟨hne, fun b _ hb => ?_⟩
      rw [hempty] at hb
      cases hb
    rcases hacls a (hkeepa a ha) with hkept | ⟨rfl, hnone⟩
    · exact ((mem_acls_foldl_removePort_iff H bundle.ports_nodup a).1 hkept).2 hid hdel
    · rw [not_binds_foldl_removePort H] at hnone
      obtain ⟨name, hname⟩ := List.exists_mem_of_ne_nil _ hne
      obtain ⟨b, -, -, -, hb⟩ := hnone name hname
      rw [hid, hempty] at hb
      cases hb
  · obtain ⟨b, hb⟩ := Option.ne_none_iff_exists'.1 hfound
    have hmem := hkeepb b (mem_of_foundBinding H hb).1
    rw [hbindings, mem_bindings_foldl_removePort H bundle.ports_nodup] at hmem
    obtain ⟨port, hport, rfl⟩ := List.mem_map.1 hname
    exact hmem.2 port hport hb

/-- A failing replace keeps every binding, with its counts, and every list if and only if it does not
lose the original: either its remove takes nothing or its apply succeeds. -/
theorem replace_atomic_iff (hs : Served uuidHash s) (L : Layouts) (orig : Uuid) (list : ClsList)
    (bundle : Option Bundle) (info : InterfaceInfo) (direction : Direction) :
    let r := opsClsPdReplace uuidHash L s orig list bundle info direction
    (r.rc ≠ 0 → (∀ b ∈ s.bindings, b ∈ r.state.bindings) ∧ ∀ a ∈ s.acls, a ∈ r.state.acls) ↔
      ¬ LosesOriginal uuidHash s orig list bundle direction := by
  have H := hs.invariants.1
  by_cases hremove : aclLookupByUuid uuidHash s orig = none ∨ bundle = none
  · -- the remove fails and the replace stops
    have hfailed : opsClsPdRemove uuidHash s orig bundle direction = ⟨s, -1, none⟩ :=
      opsClsPdRemove_failed hremove
    simp only [opsClsPdReplace, hfailed]
    refine iff_of_true (fun _ => ⟨fun _ hb => hb, fun _ ha => ha⟩) ?_
    rintro ⟨horig, b, hb, -⟩
    rcases hremove with hremove | rfl
    · exact horig hremove
    · cases hb
  rw [not_or] at hremove
  obtain ⟨horig, hbundle⟩ := hremove
  obtain ⟨bundle, rfl⟩ := Option.ne_none_iff_exists'.1 hbundle
  obtain ⟨a, ha⟩ := Option.ne_none_iff_exists'.1 horig
  have hreplace : opsClsPdReplace uuidHash L s orig list (some bundle) info direction =
      opsClsPdApply uuidHash L (bundle.ports.foldl (removePort uuidHash orig) s) (some list)
        (some bundle) info direction := by
    simp only [opsClsPdReplace, opsClsPdRemove_known ha, ne_eq, not_true_eq_false, if_false]
  have hfail : (opsClsPdApply uuidHash L (bundle.ports.foldl (removePort uuidHash orig) s)
      (some list) (some bundle) info direction).rc ≠ 0 ↔
      RefusedAfter uuidHash s orig list (bundle.ports.map (·.name)) ∨
        BlockedAfter uuidHash s orig list (bundle.ports.map (·.name)) direction := by
    rw [opsClsPdApply_failed_iff, lookup_foldl_removePort H bundle.ports_nodup,
      fits_foldl_removePort H bundle.ports_nodup, not_binds_foldl_removePort H]
    rfl
  rw [hreplace]
  constructor
  · rintro hatomic ⟨-, b, hb, htakes, hafter⟩
    obtain rfl := Option.some.inj hb
    have hrc := hfail.2 hafter
    exact lost_of_takes H horig htakes hrc (hatomic hrc)
  · intro hsafe hrc
    have htakes : ¬ Takes uuidHash s orig (bundle.ports.map (·.name)) :=
      fun h => hsafe ⟨horig, bundle, rfl, h, hfail.1 hrc⟩
    obtain ⟨hkeepb, hkeepa⟩ := kept_of_not_takes H bundle.ports_nodup htakes
    obtain ⟨hbindings, hacls, -⟩ := opsClsPdApply_of_failed hrc
    refine ⟨fun b hb => ?_, fun a ha => hacls a (hkeepa a ha)⟩
    rw [hbindings]
    exact hkeepb b hb

theorem served_run (cs : List (Layouts × Call)) : Served uuidHash (run uuidHash .empty cs) := by
  have hserve : ∀ s : State, (cs.map fun c => Request.call c.1 c.2).foldlM (serve uuidHash) s =
      some (run uuidHash s cs) := by
    induction cs with
    | nil => exact fun _ => rfl
    | cons c cs ih => exact fun s => ih _
  exact ⟨_, hserve .empty⟩

/-- List 2, which is not applied to port `2`, is to be replaced there by a list that is too long: the
replace fails and everything is as before. -/
theorem refused_replace_keeps_all :
    let s := run BitVec.toNat .empty sampleCalls
    let r := opsClsPdReplace BitVec.toNat ⟨.pushFront, .pushFront⟩ s 2 (oversizeList 3)
      (some otherBundle) [] .ingress
    r.rc ≠ 0 ∧ (∀ b ∈ s.bindings, b ∈ r.state.bindings) ∧ ∀ a ∈ s.acls, a ∈ r.state.acls := by
  refine ⟨by decide +kernel, (replace_atomic_iff (served_run sampleCalls) _ 2 (oversizeList 3)
    (some otherBundle) [] .ingress).2 ?_ (by decide +kernel)⟩
  rintro ⟨-, b, hb, ⟨-, hempty | ⟨name, hname, hfound⟩⟩, -⟩
  · exact absurd (congrArg List.length hempty) (by decide)
  · cases hb
    obtain rfl : name = "2" := List.mem_singleton.1 hname
    exact hfound rfl

/-- List 1 is to be replaced on port `1` by a list that is too long: the port is left unbound. -/
theorem failed_replace_unbinds : ¬ ∀ (uuidHash : Uuid → ℕ) (s : State), Served uuidHash s →
    ∀ (L : Layouts) (orig : Uuid) (list : ClsList) (bundle : Option Bundle) (info : InterfaceInfo)
      (direction : Direction),
    let r := opsClsPdReplace uuidHash L s orig list bundle info direction
    r.rc ≠ 0 → (∀ b ∈ s.bindings, b ∈ r.state.bindings) ∧ ∀ a ∈ s.acls, a ∈ r.state.acls := by
  intro hall
  have hkept := hall BitVec.toNat _ (served_run sampleCalls) ⟨.pushFront, .pushFront⟩ 1
    (oversizeList 3) (some sampleBundle) [] .ingress (by decide +kernel)
  have hmem := hkept.1 (newBinding 1 "1" [] .ingress ⟨1, "1"⟩) (List.mem_singleton.2 rfl)
  exact absurd (List.length_pos_of_mem hmem) (by decide +kernel)

end ContainerPlugin.Classifier
