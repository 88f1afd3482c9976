import ContainerPlugin.Classifier.Store

/-!
# Which bindings a removal takes

`ops_cls_pd_remove` and the delete action of `ops_cls_pd_lag_update` search the bucket of the list
for the interface name alone. They take exactly the bindings of the list in the given direction
when, for every port concerned, the search stops at a binding of that list and direction (or finds
none), and otherwise a binding of another list or of the other direction is lost.
-/

namespace ContainerPlugin.Classifier

variable {uuidHash : Uuid → ℕ} {s : State}

/-- The binding at which the search for a port in the bucket of the list stops. -/
def foundBinding (uuidHash : Uuid → ℕ) (s : State) (listId : Uuid) (name : String) :
    Option AclPortBinding :=
  (s.allPortApplications.bucket (uuidHash listId)).find? (·.interfaceName == name)

theorem mem_of_foundBinding (H : StoreInv uuidHash s) {listId : Uuid} {name : String}
    {b : AclPortBinding} (h : foundBinding uuidHash s listId name = some b) :
    b ∈ s.bindings ∧ b.interfaceName = name := by
  have hname := List.find?_some h
  exact ⟨((Hmap.mem_bucket_iff H.bindingsHashed).1 (List.mem_of_find?_eq_some h)).1,
    beq_iff_eq.1 hname⟩

theorem StoreInv.nodup_bindings (H : StoreInv uuidHash s) : s.bindings.Nodup :=
  H.bindingsNodup.of_map _

/-- The search meets every binding of the list on the port, so it finds something there. -/
theorem foundBinding_isSome (H : StoreInv uuidHash s) {b : AclPortBinding} (hb : b ∈ s.bindings) :
    ∃ b', foundBinding uuidHash s b.listId b.interfaceName = some b' := by
  cases h : foundBinding uuidHash s b.listId b.interfaceName with
  | some b' => exact ⟨b', rfl⟩
  | none =>
    rw [foundBinding, List.find?_eq_none] at h
    exact absurd (beq_self_eq_true b.interfaceName)
      (h b (Hmap.mem_bucket_of_hash H.bindingsHashed hb rfl))

theorem mem_bindings_removeBinding (H : StoreInv uuidHash s) {listId : Uuid} {name : String}
    {b : AclPortBinding} :
    b ∈ (removeBinding uuidHash s listId name).bindings ↔
      b ∈ s.bindings ∧ foundBinding uuidHash s listId name ≠ some b :=
  Hmap.mem_values_removeInBucket H.bindingsHashed H.nodup_bindings

theorem removePort_allPortApplications (listId : Uuid) (port : BundlePort) :
    (removePort uuidHash listId s port).allPortApplications =
      (removeBinding uuidHash s listId port.name).allPortApplications := by
  unfold removePort
  simp only
  split
  · rfl
  · rfl

/-- A turn of the loop leaves the search for every other port as it was. -/
theorem foundBinding_removePort (H : StoreInv uuidHash s) {listId : Uuid} {port : BundlePort}
    {name : String} (hne : port.name ≠ name) :
    foundBinding uuidHash (removePort uuidHash listId s port) listId name =
      foundBinding uuidHash s listId name := by
  rw [foundBinding, removePort_allPortApplications]
  apply Hmap.find?_bucket_removeInBucket H.bindingsHashed
  intro b hb
  rw [beq_iff_eq.1 hb]
  exact beq_false_of_ne hne

/-- The port loop takes, for every port, the binding its search finds before the loop. -/
theorem mem_bindings_foldl_removePort (H : StoreInv uuidHash s) {listId : Uuid}
    {ports : List BundlePort} (hnd : (ports.map (·.name)).Nodup) {b : AclPortBinding} :
    b ∈ (ports.foldl (removePort uuidHash listId) s).bindings ↔
      b ∈ s.bindings ∧ ∀ port ∈ ports, foundBinding uuidHash s listId port.name ≠ some b := by
  induction ports generalizing s with
  | nil => simp
  | cons port ports ih =>
    rw [List.map_cons, List.nodup_cons] at hnd
    have hrest : ∀ q ∈ ports, foundBinding uuidHash (removePort uuidHash listId s port) listId
        q.name = foundBinding uuidHash s listId q.name := by
      intro q hq
      apply foundBinding_removePort H
      intro heq
      exact hnd.1 (heq ▸ List.mem_map_of_mem hq)
    have hhead : b ∈ (removePort uuidHash listId s port).bindings ↔
        b ∈ s.bindings ∧ foundBinding uuidHash s listId port.name ≠ some b := by
      rw [State.bindings, removePort_allPortApplications]
      exact mem_bindings_removeBinding H
    rw [List.foldl_cons, ih (H.removePort listId port) hnd.2, hhead, List.forall_mem_cons]
    constructor
    · rintro ⟨⟨hb, hport⟩, hports⟩
      exact ⟨hb, hport, fun q hq => hrest q hq ▸ hports q hq⟩
    · rintro ⟨hb, hport, hports⟩
      exact ⟨⟨hb, hport⟩, fun q hq => (hrest q hq).symm ▸ hports q hq⟩

/-- `after` holds the bindings of `before` less those of the list in the direction on the
interfaces `names`. -/
def RemovesExactly (listId : Uuid) (direction : Direction) (names : List String)
    (before after : List AclPortBinding) : Prop :=
  ∀ b, b ∈ after ↔
    b ∈ before ∧ ¬ (b.listId = listId ∧ b.direction = direction ∧ b.interfaceName ∈ names)

/-- For every one of the interfaces, the search in the bucket of the list stops at a binding of the
list in the direction, or finds nothing. -/
def FindsOwn (uuidHash : Uuid → ℕ) (s : State) (listId : Uuid) (direction : Direction)
    (names : List String) : Prop :=
  ∀ name ∈ names, ∀ b, foundBinding uuidHash s listId name = some b →
    b.listId = listId ∧ b.direction = direction

theorem removesExactly_iff_findsOwn (H : StoreInv uuidHash s) {listId : Uuid}
    {direction : Direction} {names : List String} {after : List AclPortBinding}
    (hafter : ∀ b, b ∈ after ↔
      b ∈ s.bindings ∧ ∀ name ∈ names, foundBinding uuidHash s listId name ≠ some b) :
    RemovesExactly listId direction names s.bindings after ↔
      FindsOwn uuidHash s listId direction names := by
  constructor
  · intro hexact name hname b hfound
    have hgone : b ∉ after := fun hb => ((hafter b).1 hb).2 name hname hfound
    rw [hexact b] at hgone
    have hb := (mem_of_foundBinding H hfound).1
    have h := not_not.1 fun hn => hgone ⟨hb, hn⟩
    exact ⟨h.1, h.2.1⟩
  · intro hown b
    rw [hafter b]
    refine and_congr_right fun hb => ?_
    constructor
    · rintro hne ⟨rfl, rfl, hname⟩
      -- the search finds some binding of this key, and keys are unique
      obtain ⟨b', hfound⟩ := foundBinding_isSome H hb
      have hb' := mem_of_foundBinding H hfound
      have hkey := hown _ hname b' hfound
      have heq := List.inj_on_of_nodup_map H.bindingsNodup hb'.1 hb
        (by simp only [AclPortBinding.key, hkey.1, hkey.2, hb'.2])
      exact hne _ hname (heq ▸ hfound)
    · intro hn name hname hfound
      have hkey := hown name hname b hfound
      exact hn ⟨hkey.1, hkey.2, (mem_of_foundBinding H hfound).2 ▸ hname⟩

/-! ## The two operations -/

theorem opsClsPdRemove_of_rc {listId : Uuid} {bundle : Bundle} {direction : Direction}
    (h : (opsClsPdRemove uuidHash s listId (some bundle) direction).rc = 0) :
    (opsClsPdRemove uuidHash s listId (some bundle) direction).state =
      bundle.ports.foldl (removePort uuidHash listId) s := by
  unfold opsClsPdRemove at h ⊢
  split
  · rename_i hlookup
    simp [hlookup] at h
  · rfl

theorem opsClsPdLagUpdate_of_rc {L : Layouts} {list : ClsList} {bundle : Bundle} {ofpPort : ℕ}
    {action : LagUpdateAction} {info : InterfaceInfo} {direction : Direction}
    (h : (opsClsPdLagUpdate uuidHash L s (some list) (some bundle) ofpPort action info
      direction).rc = 0) :
    ∃ port, bundle.ports.find? (·.ofpPort == ofpPort) = some port ∧
      (opsClsPdLagUpdate uuidHash L s (some list) (some bundle) ofpPort action info
        direction).state =
        lagUpdateMember uuidHash L s list bundle.name port action info direction := by
  unfold opsClsPdLagUpdate at h ⊢
  simp only at h ⊢
  split at h
  · simp at h
  · rename_i hrollback
    rw [if_neg hrollback]
    cases hlookup : aclLookupByUuid uuidHash s list.listId with
    | none => simp [hlookup] at h
    | some a =>
      cases hport : bundle.ports.find? (·.ofpPort == ofpPort) with
      | none => simp [hlookup, hport] at h
      | some port => exact ⟨port, rfl, rfl⟩

/-- A successful remove, and a successful delete of a LAG member, takes exactly the bindings it is
asked for if and only if its searches stop at these. -/
theorem removal_exact_iff (hs : Reachable uuidHash s) :
    (∀ listId (bundle : Bundle) direction,
      (opsClsPdRemove uuidHash s listId (some bundle) direction).rc = 0 →
      (RemovesExactly listId direction (bundle.ports.map (·.name)) s.bindings
          (opsClsPdRemove uuidHash s listId (some bundle) direction).state.bindings ↔
        FindsOwn uuidHash s listId direction (bundle.ports.map (·.name)))) ∧
    ∀ L list (bundle : Bundle) ofpPort info direction,
      (opsClsPdLagUpdate uuidHash L s (some list) (some bundle) ofpPort .memberIntfDel info
        direction).rc = 0 →
      ∃ port, bundle.ports.find? (·.ofpPort == ofpPort) = some port ∧
        (RemovesExactly list.listId direction [port.name] s.bindings
            (opsClsPdLagUpdate uuidHash L s (some list) (some bundle) ofpPort .memberIntfDel info
              direction).state.bindings ↔
          FindsOwn uuidHash s list.listId direction [port.name]) := by
  have H := hs.storeInv
  constructor
  · intro listId bundle direction hrc
    rw [opsClsPdRemove_of_rc hrc]
    apply removesExactly_iff_findsOwn H
    intro b
    rw [mem_bindings_foldl_removePort H bundle.ports_nodup]
    simp only [List.forall_mem_map]
  · intro L list bundle ofpPort info direction hrc
    obtain ⟨port, hport, hstate⟩ := opsClsPdLagUpdate_of_rc hrc
    refine ⟨port, hport, ?_⟩
    rw [hstate]
    apply removesExactly_iff_findsOwn H
    intro b
    show b ∈ (removeBinding uuidHash s list.listId port.name).bindings ↔ _
    rw [mem_bindings_removeBinding H]
    simp only [List.forall_mem_singleton]

/-! ## One port, two lists -/

/-- Removing list 1, which is found first, takes exactly its binding. -/
theorem removal_exact_of_own :
    RemovesExactly 1 .ingress ["1"] (run BitVec.toNat .empty sampleCalls).bindings
      (opsClsPdRemove BitVec.toNat (run BitVec.toNat .empty sampleCalls) 1 (some sampleBundle)
        .ingress).state.bindings := by
  refine ((removal_exact_iff ⟨sampleCalls, rfl⟩).1 1 sampleBundle .ingress rfl).2 ?_
  intro name hname b hfound
  obtain rfl : name = "1" := List.mem_singleton.1 hname
  obtain rfl := Option.some.inj hfound
  exact ⟨rfl, rfl⟩

/-- Removing list 2 from port `1`, to which it is not applied, succeeds and unbinds list 1. -/
theorem remove_unbinds_other_list :
    (opsClsPdRemove BitVec.toNat (run BitVec.toNat .empty sampleCalls) 2 (some sampleBundle)
        .ingress).rc = 0 ∧
      ¬ RemovesExactly 2 .ingress ["1"] (run BitVec.toNat .empty sampleCalls).bindings
        (opsClsPdRemove BitVec.toNat (run BitVec.toNat .empty sampleCalls) 2 (some sampleBundle)
          .ingress).state.bindings := by
  refine ⟨rfl, fun hexact => ?_⟩
  have hmem := (hexact (newBinding 1 "1" [] .ingress ⟨1, "1"⟩)).2
    ⟨List.mem_singleton.2 rfl, fun h => absurd h.1 (by decide)⟩
  cases hmem

end ContainerPlugin.Classifier
