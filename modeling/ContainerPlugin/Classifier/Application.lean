import ContainerPlugin.Classifier.Store

/-!
# Which bindings an application adds

Before it binds a port, `ops_cls_pd_apply` looks for a binding of that interface and direction in
the bucket of the list, without comparing the list id. A port that the list is not bound to yet is
therefore skipped when the bucket holds a binding of another list there. The bucket is the one of
the mask in force when the loop reaches the port: every port bound before it may have grown the
map. `Unobstructed` states this on the tables before the call.
-/

namespace ContainerPlugin.Classifier

variable {uuidHash : Uuid → ℕ} {s : State}

/-- The list is bound to the interface in the direction. -/
def Bound (bindings : List AclPortBinding) (listId : Uuid) (name : String)
    (direction : Direction) : Prop :=
  (listId, name, direction) ∈ bindings.map (·.key)

instance (bindings : List AclPortBinding) (listId : Uuid) (name : String)
    (direction : Direction) : Decidable (Bound bindings listId name direction) :=
  inferInstanceAs (Decidable (_ ∈ _))

/-- Some binding of the interface and direction lies in the bucket of the list under `mask`. -/
def Obstructed (uuidHash : Uuid → ℕ) (bindings : List AclPortBinding) (listId : Uuid) (mask : ℕ)
    (name : String) (direction : Direction) : Prop :=
  ∃ b ∈ bindings, b.interfaceName = name ∧ b.direction = direction ∧
    uuidHash b.listId &&& mask = uuidHash listId &&& mask

/-- No port of `names` that the list is not bound to yet is obstructed. `n` and `mask` are the
number of nodes and the mask of the map when the loop reaches the first port; every port that has
to be bound adds a node and lets the map grow. -/
def Unobstructed (uuidHash : Uuid → ℕ) (grow : ℕ → ℕ → ℕ) (bindings : List AclPortBinding)
    (listId : Uuid) (direction : Direction) : ℕ → ℕ → List String → Prop
  | _, _, [] => True
  | n, mask, name :: names =>
    if Bound bindings listId name direction then
      Unobstructed uuidHash grow bindings listId direction n mask names
    else
      ¬ Obstructed uuidHash bindings listId mask name direction ∧
        Unobstructed uuidHash grow bindings listId direction (n + 1) (grow (n + 1) mask) names

theorem portAlreadyBound_iff (H : StoreInv uuidHash s) {listId : Uuid} {name : String}
    {direction : Direction} :
    portAlreadyBound uuidHash s listId name direction = true ↔
      Obstructed uuidHash s.bindings listId s.allPortApplications.mask name direction := by
  simp only [portAlreadyBound, List.any_eq_true, Bool.and_eq_true, beq_iff_eq, Obstructed]
  constructor
  · rintro ⟨b, hb, hname, hdir⟩
    obtain ⟨hmem, hbits⟩ := (Hmap.mem_bucket_iff H.bindingsHashed).1 hb
    exact ⟨b, hmem, hname, hdir, hbits⟩
  · rintro ⟨b, hmem, hname, hdir, hbits⟩
    exact ⟨b, (Hmap.mem_bucket_iff H.bindingsHashed).2 ⟨hmem, hbits⟩, hname, hdir⟩

theorem Bound.obstructed {bindings : List AclPortBinding} {listId : Uuid} {name : String}
    {direction : Direction} (h : Bound bindings listId name direction) (mask : ℕ) :
    Obstructed uuidHash bindings listId mask name direction := by
  obtain ⟨b, hb, hkey⟩ := List.mem_map.1 h
  simp only [AclPortBinding.key, Prod.mk.injEq] at hkey
  exact ⟨b, hb, hkey.2.1, hkey.2.2, by rw [hkey.1]⟩

/-! ## One turn of the loop -/

section
variable (L : Layouts) (listId : Uuid) (bundleName : String) (info : InterfaceInfo)
  (direction : Direction)

theorem bindings_insertBinding {b b' : AclPortBinding} :
    b' ∈ (insertBinding uuidHash L s b).bindings ↔ b' = b ∨ b' ∈ s.bindings :=
  Hmap.mem_values_insert _

/-- A turn of the loop concerns no other interface. -/
theorem mem_bindings_applyPort_of_ne (st : State × Bool) (port : BundlePort) {b : AclPortBinding}
    (hne : b.interfaceName ≠ port.name) :
    b ∈ (applyPort uuidHash L listId bundleName info direction st port).1.bindings ↔
      b ∈ st.1.bindings := by
  unfold applyPort
  split
  · rfl
  · rw [bindings_insertBinding]
    refine ⟨fun h => h.resolve_left ?_, .inr⟩
    rintro rfl
    exact hne rfl

theorem key_mem_applyPort (st : State × Bool) (port : BundlePort) (k : Uuid × String × Direction) :
    k ∈ (applyPort uuidHash L listId bundleName info direction st port).1.bindings.map (·.key) ↔
      k ∈ st.1.bindings.map (·.key) ∨
        (portAlreadyBound uuidHash st.1 listId port.name direction = false ∧
          k = (listId, port.name, direction)) := by
  unfold applyPort
  split
  · rename_i h
    simp [h]
  · rename_i h
    rw [Bool.not_eq_true] at h
    simp only [List.mem_map, bindings_insertBinding, h, true_and]
    constructor
    · rintro ⟨b, rfl | hb, rfl⟩
      · exact .inr rfl
      · exact .inl ⟨b, hb, rfl⟩
    · rintro (⟨b, hb, rfl⟩ | rfl)
      · exact ⟨b, .inr hb, rfl⟩
      · exact ⟨_, .inl rfl, rfl⟩

theorem applyPort_eq_of_bound {st : State × Bool} {port : BundlePort}
    (h : portAlreadyBound uuidHash st.1 listId port.name direction = true) :
    applyPort uuidHash L listId bundleName info direction st port = st := if_pos h

theorem map_applyPort_of_not_bound {st : State × Bool} {port : BundlePort}
    (h : portAlreadyBound uuidHash st.1 listId port.name direction = false) :
    let st' := applyPort uuidHash L listId bundleName info direction st port
    st'.2 = true ∧
      st'.1.allPortApplications.nodes.length = st.1.allPortApplications.nodes.length + 1 ∧
      st'.1.allPortApplications.mask = L.bindings.grow
        (st.1.allPortApplications.nodes.length + 1) st.1.allPortApplications.mask := by
  unfold applyPort
  rw [if_neg (by simp [h])]
  exact ⟨rfl, Hmap.length_nodes_insert _, rfl⟩

/-- The loop leaves the bindings of all other interfaces alone. -/
theorem key_mem_foldl_of_not_mem (ports : List BundlePort) (st : State × Bool)
    {k : Uuid × String × Direction} (hk : k.2.1 ∉ ports.map (·.name)) :
    k ∈ (ports.foldl (applyPort uuidHash L listId bundleName info direction)
        st).1.bindings.map (·.key) ↔
      k ∈ st.1.bindings.map (·.key) := by
  induction ports generalizing st with
  | nil => rfl
  | cons port ports ih =>
    rw [List.map_cons, List.mem_cons, not_or] at hk
    rw [List.foldl_cons, ih _ hk.2, key_mem_applyPort]
    refine ⟨fun h => h.resolve_right ?_, .inl⟩
    rintro ⟨-, rfl⟩
    exact hk.1 rfl

/-- The tables seen from the interfaces `names` are those before the loop. -/
def AgreesOn (names : List String) (bindings : List AclPortBinding) (s : State) : Prop :=
  ∀ b : AclPortBinding, b.interfaceName ∈ names → (b ∈ s.bindings ↔ b ∈ bindings)

variable {bindings : List AclPortBinding}

theorem AgreesOn.bound_iff {listId : Uuid} {direction : Direction} {names : List String}
    (h : AgreesOn names bindings s) {name : String} (hname : name ∈ names) :
    Bound s.bindings listId name direction ↔ Bound bindings listId name direction := by
  simp only [Bound, List.mem_map]
  constructor <;> rintro ⟨b, hb, hkey⟩ <;>
    have hb' : b.interfaceName = name := congrArg (·.2.1) hkey
  · exact ⟨b, (h b (hb' ▸ hname)).1 hb, hkey⟩
  · exact ⟨b, (h b (hb' ▸ hname)).2 hb, hkey⟩

theorem AgreesOn.obstructed_iff {listId : Uuid} {direction : Direction} {names : List String}
    (h : AgreesOn names bindings s) {name : String} (hname : name ∈ names) (mask : ℕ) :
    Obstructed uuidHash s.bindings listId mask name direction ↔
      Obstructed uuidHash bindings listId mask name direction := by
  constructor <;> rintro ⟨b, hb, hb', hrest⟩
  · exact ⟨b, (h b (hb' ▸ hname)).1 hb, hb', hrest⟩
  · exact ⟨b, (h b (hb' ▸ hname)).2 hb, hb', hrest⟩

theorem AgreesOn.applyPort {port : BundlePort} {names : List String} {st : State × Bool}
    (h : AgreesOn (port.name :: names) bindings st.1) (hport : port.name ∉ names) :
    AgreesOn names bindings
      (applyPort uuidHash L listId bundleName info direction st port).1 := by
  intro b hb
  rw [mem_bindings_applyPort_of_ne]
  · exact h b (List.mem_cons_of_mem _ hb)
  · rintro heq
    exact hport (heq ▸ hb)

/-- A turn of the loop skips a port that is bound or obstructed and binds any other. -/
theorem applyPort_cases {port : BundlePort} {names : List String} {st : State × Bool}
    (H : StoreInv uuidHash st.1) (hagree : AgreesOn (port.name :: names) bindings st.1) :
    let st' := applyPort uuidHash L listId bundleName info direction st port
    let mask := st.1.allPortApplications.mask
    (Bound bindings listId port.name direction ∧ st' = st) ∨
    (¬ Bound bindings listId port.name direction ∧
      Obstructed uuidHash bindings listId mask port.name direction ∧ st' = st) ∨
    (¬ Bound bindings listId port.name direction ∧
      ¬ Obstructed uuidHash bindings listId mask port.name direction ∧
      portAlreadyBound uuidHash st.1 listId port.name direction = false) := by
  have hiff : portAlreadyBound uuidHash st.1 listId port.name direction = true ↔ _ :=
    portAlreadyBound_iff H
  rw [hagree.obstructed_iff (List.mem_cons_self ..)] at hiff
  by_cases hbound : Bound bindings listId port.name direction
  · exact .inl ⟨hbound, if_pos (hiff.2 (hbound.obstructed _))⟩
  by_cases hobs : Obstructed uuidHash bindings listId st.1.allPortApplications.mask port.name
      direction
  · exact .inr (.inl ⟨hbound, hobs, if_pos (hiff.2 hobs)⟩)
  · exact .inr (.inr ⟨hbound, hobs, Bool.eq_false_iff.2 fun h => hobs (hiff.1 h)⟩)

/-- What the loop does when no port is obstructed. -/
theorem keys_foldl_of_unobstructed {ports : List BundlePort} {st : State × Bool}
    (H : StoreInv uuidHash st.1) (hstored : ∃ a ∈ st.1.acls, a.listId = listId)
    (hagree : AgreesOn (ports.map (·.name)) bindings st.1)
    (hnd : (ports.map (·.name)).Nodup)
    (hfree : Unobstructed uuidHash L.bindings.grow bindings listId direction
      st.1.allPortApplications.nodes.length st.1.allPortApplications.mask
      (ports.map (·.name))) :
    let st' := ports.foldl (applyPort uuidHash L listId bundleName info direction) st
    (∀ k, k ∈ st'.1.bindings.map (·.key) ↔
      k ∈ st.1.bindings.map (·.key) ∨ ∃ port ∈ ports, k = (listId, port.name, direction)) ∧
    ((st.2 = true ∨ ∃ port ∈ ports, ¬ Bound bindings listId port.name direction) →
      st'.2 = true) := by
  induction ports generalizing st with
  | nil => exact ⟨fun k => by simp, fun h => h.elim id (by simp)⟩
  | cons port ports ih =>
    rw [List.map_cons, List.nodup_cons] at hnd
    rw [List.map_cons] at hagree hfree
    rw [Unobstructed] at hfree
    obtain ⟨H', hstored'⟩ := StoreInv.applyPort L listId bundleName info direction port H hstored
    have hagree' : AgreesOn _ bindings
        (applyPort uuidHash L listId bundleName info direction st port).1 :=
      hagree.applyPort L listId bundleName info direction hnd.1
    simp only [List.foldl_cons, List.exists_mem_cons_iff]
    rcases applyPort_cases L listId bundleName info direction H hagree with
      ⟨hbound, hskip⟩ | ⟨hnew, hobs, -⟩ | ⟨hnew, -, hins⟩
    · rw [if_pos hbound] at hfree
      rw [hskip] at hagree' ⊢
      obtain ⟨hkeys, hfound⟩ := ih H hstored hagree' hnd.2 hfree
      refine ⟨fun k => (hkeys k).trans ?_, fun h => hfound ?_⟩
      · constructor
        · exact Or.imp_right .inr
        · rintro (hk | rfl | hk)
          · exact .inl hk
          · exact .inl ((hagree.bound_iff (List.mem_cons_self ..)).2 hbound)
          · exact .inr hk
      · exact h.imp_right fun h => h.resolve_left (not_not.2 hbound)
    · rw [if_neg hnew] at hfree
      exact absurd hobs hfree.1
    · rw [if_neg hnew] at hfree
      obtain ⟨hflag, hlen, hmask⟩ := map_applyPort_of_not_bound L listId bundleName info direction
        hins
      obtain ⟨hkeys, hfound⟩ := ih H' hstored' hagree' hnd.2 (by
        rw [hlen, hmask]
        exact hfree.2)
      refine ⟨fun k => (hkeys k).trans ?_, fun _ => hfound (.inl hflag)⟩
      rw [key_mem_applyPort, hins]
      simp only [true_and, or_assoc]

/-- If the loop leaves the list bound to every port, no port was obstructed. -/
theorem unobstructed_of_keys_foldl {ports : List BundlePort} {st : State × Bool}
    (H : StoreInv uuidHash st.1) (hstored : ∃ a ∈ st.1.acls, a.listId = listId)
    (hagree : AgreesOn (ports.map (·.name)) bindings st.1)
    (hnd : (ports.map (·.name)).Nodup)
    (hall : ∀ port ∈ ports, (listId, port.name, direction) ∈
      (ports.foldl (applyPort uuidHash L listId bundleName info direction)
        st).1.bindings.map (·.key)) :
    Unobstructed uuidHash L.bindings.grow bindings listId direction
      st.1.allPortApplications.nodes.length st.1.allPortApplications.mask
      (ports.map (·.name)) := by
  induction ports generalizing st with
  | nil => trivial
  | cons port ports ih =>
    rw [List.map_cons, List.nodup_cons] at hnd
    rw [List.map_cons] at hagree ⊢
    rw [List.forall_mem_cons, List.foldl_cons] at hall
    obtain ⟨hhead, hall⟩ := hall
    obtain ⟨H', hstored'⟩ := StoreInv.applyPort L listId bundleName info direction port H hstored
    have hagree' : AgreesOn _ bindings
        (applyPort uuidHash L listId bundleName info direction st port).1 :=
      hagree.applyPort L listId bundleName info direction hnd.1
    have htail := ih H' hstored' hagree' hnd.2 hall
    rw [Unobstructed]
    rcases applyPort_cases L listId bundleName info direction H hagree with
      ⟨hbound, hskip⟩ | ⟨hnew, hobs, hskip⟩ | ⟨hnew, hobs, hins⟩
    · rw [hskip] at htail
      rwa [if_pos hbound]
    · -- the turn skipped the port and no later turn is about its interface
      rw [key_mem_foldl_of_not_mem L listId bundleName info direction ports _ hnd.1,
        hskip] at hhead
      exact absurd ((hagree.bound_iff (List.mem_cons_self ..)).1 hhead) hnew
    · obtain ⟨-, hlen, hmask⟩ := map_applyPort_of_not_bound L listId bundleName info direction
        hins
      rw [hlen, hmask] at htail
      rw [if_neg hnew]
      exact ⟨hobs, htail⟩

end

/-! ## The two operations -/

/-- `after` holds the keys of `before` and those of the list in the direction on the interfaces
`names`, and no other. -/
def AppliesExactly (listId : Uuid) (direction : Direction) (names : List String)
    (before after : List AclPortBinding) : Prop :=
  ∀ k, k ∈ after.map (·.key) ↔
    k ∈ before.map (·.key) ∨ ∃ name ∈ names, k = (listId, name, direction)

theorem applyToBundle_bindings (L : Layouts) (list : ClsList) (bundle : Bundle)
    (info : InterfaceInfo) (direction : Direction) :
    let st := bundle.ports.foldl
      (applyPort uuidHash L list.listId bundle.name info direction) (s, false)
    let r := applyToBundle uuidHash L s list (some bundle) info direction
    r.state = st.1 ∧ (r.rc = 0 ↔ st.2 = true) := by
  simp only [applyToBundle]
  split
  · rename_i h
    exact ⟨rfl, fun _ => h, fun _ => rfl⟩
  · rename_i h
    exact ⟨rfl, fun h' => absurd (show (-1 : ℤ) = 0 from h') (by decide), fun h' => absurd h' h⟩

/-- The part of an apply after the list has been found or created. -/
theorem applyToBundle_exact_iff (H : StoreInv uuidHash s) (L : Layouts) {list : ClsList}
    (hstored : ∃ a ∈ s.acls, a.listId = list.listId) (bundle : Bundle) (info : InterfaceInfo)
    (direction : Direction) :
    let r := applyToBundle uuidHash L s list (some bundle) info direction
    (AppliesExactly list.listId direction (bundle.ports.map (·.name)) s.bindings
        r.state.bindings ∧
      ((∃ port ∈ bundle.ports, ¬ Bound s.bindings list.listId port.name direction) →
        r.rc = 0)) ↔
      Unobstructed uuidHash L.bindings.grow s.bindings list.listId direction
        s.allPortApplications.nodes.length s.allPortApplications.mask
        (bundle.ports.map (·.name)) := by
  obtain ⟨hstate, hrc⟩ := @applyToBundle_bindings uuidHash s L list bundle info direction
  have hagree : AgreesOn (bundle.ports.map (·.name)) s.bindings (s, false).1 := fun _ _ => .rfl
  simp only [hstate, hrc]
  constructor
  · rintro ⟨hexact, -⟩
    refine @unobstructed_of_keys_foldl uuidHash L list.listId bundle.name info direction s.bindings
      bundle.ports (s, false) H hstored hagree bundle.ports_nodup fun port hport => ?_
    exact (hexact _).2 (.inr ⟨port.name, List.mem_map_of_mem hport, rfl⟩)
  · intro hfree
    obtain ⟨hkeys, hfound⟩ := @keys_foldl_of_unobstructed uuidHash L list.listId bundle.name info
      direction s.bindings bundle.ports (s, false) H hstored hagree bundle.ports_nodup hfree
    refine ⟨fun k => (hkeys k).trans ?_, fun h => hfound (.inr h)⟩
    simp only [List.mem_map, exists_exists_and_eq_and]

/-- An apply of a list that is stored or fits binds exactly the ports of the bundle, and reports
success whenever one was missing, if and only if no missing port is obstructed; an add of a LAG
member does so if and only if the member is bound already or not obstructed. -/
theorem application_exact_iff (hs : Reachable uuidHash s) :
    (∀ L list (bundle : Bundle) info direction,
      (aclLookupByUuid uuidHash s list.listId ≠ none ∨
        aclListEntriesFitInHashmap s list = true) →
      let r := opsClsPdApply uuidHash L s (some list) (some bundle) info direction
      ((AppliesExactly list.listId direction (bundle.ports.map (·.name)) s.bindings
          r.state.bindings ∧
        ((∃ port ∈ bundle.ports, ¬ Bound s.bindings list.listId port.name direction) →
          r.rc = 0)) ↔
        Unobstructed uuidHash L.bindings.grow s.bindings list.listId direction
          s.allPortApplications.nodes.length s.allPortApplications.mask
          (bundle.ports.map (·.name)))) ∧
    ∀ L list (bundle : Bundle) ofpPort port info direction,
      aclListIsRollbackTestList list = false → aclLookupByUuid uuidHash s list.listId ≠ none →
      bundle.ports.find? (·.ofpPort == ofpPort) = some port →
      let r := opsClsPdLagUpdate uuidHash L s (some list) (some bundle) ofpPort .memberIntfAdd info
        direction
      (r.rc = 0 ∧ AppliesExactly list.listId direction [port.name] s.bindings r.state.bindings) ↔
        Bound s.bindings list.listId port.name direction ∨
          ¬ Obstructed uuidHash s.bindings list.listId s.allPortApplications.mask port.name
            direction := by
  have H := hs.storeInv
  constructor
  · intro L list bundle info direction hlist
    simp only [opsClsPdApply]
    split
    · rename_i a hlookup
      exact applyToBundle_exact_iff H L ⟨a, aclLookupByUuid_eq_some H hlookup⟩ bundle info direction
    · rename_i hlookup
      rw [if_pos (hlist.resolve_left (not_not.2 hlookup))]
      exact applyToBundle_exact_iff (H.aclCreate L hlookup) L
        ⟨list, (mem_acls_aclCreate L list).2 (.inl rfl), rfl⟩ bundle info direction
  · intro L list bundle ofpPort port info direction hname hlookup hport
    have hresult : opsClsPdLagUpdate uuidHash L s (some list) (some bundle) ofpPort .memberIntfAdd
        info direction = ⟨lagUpdateMember uuidHash L s list bundle.name port .memberIntfAdd info
          direction, 0, none⟩ := by
      obtain ⟨a, ha⟩ := Option.ne_none_iff_exists'.1 hlookup
      simp [opsClsPdLagUpdate, hname, ha, hport]
    have hkeys := @key_mem_applyPort uuidHash L list.listId bundle.name info direction (s, false)
      port
    simp only [hresult, true_and, lagUpdateMember_add, AppliesExactly, List.mem_singleton,
      exists_eq_left]
    rw [← portAlreadyBound_iff H]
    constructor
    · intro hexact
      have hself := (hexact (list.listId, port.name, direction)).2 (.inr rfl)
      rw [hkeys] at hself
      exact hself.imp_right fun h => by simp [h.1]
    · intro hfree k
      rw [hkeys]
      constructor
      · exact Or.imp_right And.right
      · rintro (hk | rfl)
        · exact .inl hk
        · exact hfree.imp_right fun h => ⟨Bool.eq_false_iff.2 h, rfl⟩

/-! ## One port, two lists -/

/-- A bundle with the single port `2`. -/
def otherBundle : Bundle := ⟨"2", [⟨2, "2"⟩], by decide⟩

/-- List 2 applied to port `2`, where nothing is bound yet. -/
theorem application_exact_of_free :
    let s := run BitVec.toNat .empty sampleCalls
    let r := opsClsPdApply BitVec.toNat ⟨.pushFront, .pushFront⟩ s (some (sampleList 2))
      (some otherBundle) [] .ingress
    AppliesExactly 2 .ingress ["2"] s.bindings r.state.bindings ∧
      ((∃ port ∈ otherBundle.ports, ¬ Bound s.bindings 2 port.name .ingress) → r.rc = 0) := by
  refine ((application_exact_iff ⟨sampleCalls, rfl⟩).1 ⟨.pushFront, .pushFront⟩ (sampleList 2)
    otherBundle [] .ingress (.inl (by decide))).2 ?_
  refine (if_neg (by decide)).mpr ⟨?_, trivial⟩
  rintro ⟨b, hb, hname, -⟩
  obtain rfl := List.mem_singleton.1 hb
  exact absurd hname (by decide)

/-- List 2 applied to port `1`, where list 1 is bound: the call fails and binds nothing. -/
theorem apply_obstructed_by_other_list :
    let s := run BitVec.toNat .empty sampleCalls
    let r := opsClsPdApply BitVec.toNat ⟨.pushFront, .pushFront⟩ s (some (sampleList 2))
      (some sampleBundle) [] .ingress
    aclLookupByUuid BitVec.toNat s 2 ≠ none ∧
      ¬ AppliesExactly 2 .ingress ["1"] s.bindings r.state.bindings ∧
      ¬ ((∃ port ∈ sampleBundle.ports, ¬ Bound s.bindings 2 port.name .ingress) → r.rc = 0) := by
  refine ⟨by decide, fun hexact => ?_, fun hrc => ?_⟩
  · have hmem := (hexact (2, "1", .ingress)).2 (.inr ⟨"1", List.mem_singleton.2 rfl, rfl⟩)
    exact absurd hmem (by decide)
  · exact absurd (hrc ⟨⟨1, "1"⟩, List.mem_singleton.2 rfl, by decide⟩) (by decide)

end ContainerPlugin.Classifier
