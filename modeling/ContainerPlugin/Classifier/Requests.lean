import ContainerPlugin.Classifier.Statistics

/-!
# Runs that count

The operations on the hit counts beside those on the tables. `ops_cls_pd_statistics_clear` walks, for
every port of the bundle, the whole bucket of the list and zeroes the counts of every binding with
the name of the port. `Served` is what runs of all operations reach; in these states the store
invariant holds and the counting is switched on for every entry of every binding.
-/

namespace ContainerPlugin.Classifier

variable {uuidHash : Uuid → ℕ} {s s' : State}

/-- The loop over `MAX_ACE_PER_ACL` entries in `ops_cls_pd_statistics_clear`. -/
def AclPortBinding.clear (b : AclPortBinding) : AclPortBinding :=
  { b with stats := fun idx => { b.stats idx with hitcounts := 0 } }

/-- What the walk over the bucket does to a binding it meets. -/
def clearNamed (name : String) (b : AclPortBinding) : AclPortBinding :=
  if b.interfaceName == name then b.clear else b

/-- One turn of the port loop of `ops_cls_pd_statistics_clear`; the flag is `port_found`. -/
def clearPort (uuidHash : Uuid → ℕ) (listId : Uuid) (st : State × Bool) (port : BundlePort) :
    State × Bool :=
  ({ st.1 with
      allPortApplications :=
        st.1.allPortApplications.mapInBucket (uuidHash listId) (clearNamed port.name) },
    st.2 || (st.1.allPortApplications.bucket (uuidHash listId)).any (·.interfaceName == port.name))

/-- The direction is a parameter of the source function that its body does not read. -/
def opsClsPdStatisticsClear (uuidHash : Uuid → ℕ) (s : State) (listId : Uuid)
    (bundle : Option Bundle) (_direction : Direction) : Result :=
  match aclLookupByUuid uuidHash s listId, bundle with
  | none, _ | some _, none => ⟨s, -1, none⟩
  | some _, some bundle =>
    let st := bundle.ports.foldl (clearPort uuidHash listId) (s, false)
    -- the status is written when the first binding is found
    if st.2 then ⟨st.1, 0, some .success⟩ else ⟨st.1, -1, none⟩

/-- A call of any operation of the plug-in. -/
inductive Request where
  | call (L : Layouts) (c : Call)
  | statisticsGet (listId : Uuid) (bundle : Option Bundle) (direction : Direction)
      (statistics : Option (ℕ → Statistics)) (numEntries : ℤ) (random : ℕ → UInt64)
  | statisticsClear (listId : Uuid) (bundle : Option Bundle) (direction : Direction)

/-- The tables after a request; `none` is an index past the counts of a binding. -/
def serve (uuidHash : Uuid → ℕ) (s : State) : Request → Option State
  | .call L c => some (call uuidHash L s c).state
  | .statisticsGet listId bundle direction statistics numEntries random =>
    (opsClsPdStatisticsGet uuidHash s listId bundle direction statistics numEntries
      random).map (·.state)
  | .statisticsClear listId bundle direction =>
    some (opsClsPdStatisticsClear uuidHash s listId bundle direction).state

/-- The states that runs of all operations from empty tables reach. -/
def Served (uuidHash : Uuid → ℕ) (s : State) : Prop :=
  ∃ rs : List Request, rs.foldlM (serve uuidHash) State.empty = some s

/-! ## Which bindings there are after a call -/

/-- Counting is switched on for every entry. -/
def AclPortBinding.Enabled (b : AclPortBinding) : Prop := ∀ idx, (b.stats idx).statsEnabled = true

/-- Counting is switched on in every binding. -/
def CountsEnabled (s : State) : Prop := ∀ b ∈ s.bindings, b.Enabled

theorem newBinding_enabled (listId : Uuid) (bundleName : String) (info : InterfaceInfo)
    (direction : Direction) (port : BundlePort) :
    (newBinding listId bundleName info direction port).Enabled := fun _ => rfl

theorem CountsEnabled.of_subset (hs : CountsEnabled s) (h : ∀ b ∈ s'.bindings, b ∈ s.bindings) :
    CountsEnabled s' :=
  fun b hb => hs b (h b hb)

theorem CountsEnabled.insertBinding (hs : CountsEnabled s) (L : Layouts) {b : AclPortBinding}
    (hb : b.Enabled) : CountsEnabled (insertBinding uuidHash L s b) := by
  intro b' hb'
  rcases (Hmap.mem_values_insert _).1 hb' with rfl | hb'
  · exact hb
  · exact hs b' hb'

theorem CountsEnabled.applyPort (L : Layouts) (listId : Uuid) (bundleName : String)
    (info : InterfaceInfo) (direction : Direction) {st : State × Bool} (hs : CountsEnabled st.1)
    (port : BundlePort) :
    CountsEnabled (applyPort uuidHash L listId bundleName info direction st port).1 := by
  unfold Classifier.applyPort
  split
  · exact hs
  · exact hs.insertBinding L (newBinding_enabled _ _ _ _ _)

theorem CountsEnabled.applyToBundle (hs : CountsEnabled s) (L : Layouts) (list : ClsList)
    (bundle : Option Bundle) (info : InterfaceInfo) (direction : Direction) :
    CountsEnabled (applyToBundle uuidHash L s list bundle info direction).state := by
  cases bundle with
  | none => exact hs
  | some bundle =>
    have hloop := List.foldlRecOn bundle.ports
      (Classifier.applyPort uuidHash L list.listId bundle.name info direction)
      (motive := fun st => CountsEnabled st.1) (b := (s, false)) hs fun _ h port _ =>
        h.applyPort L list.listId bundle.name info direction port
    unfold Classifier.applyToBundle
    simp only
    split
    · exact hloop
    · exact hloop

theorem CountsEnabled.opsClsPdApply (hs : CountsEnabled s) (L : Layouts) (list : Option ClsList)
    (bundle : Option Bundle) (info : InterfaceInfo) (direction : Direction) :
    CountsEnabled (opsClsPdApply uuidHash L s list bundle info direction).state := by
  cases list with
  | none => exact hs
  | some list =>
    have hcreate : CountsEnabled (aclCreate uuidHash L s list) := hs
    unfold Classifier.opsClsPdApply
    simp only
    split
    · exact hs.applyToBundle L list bundle info direction
    · split
      · exact hcreate.applyToBundle L list bundle info direction
      · exact hs

theorem bindings_removeBinding_subset {listId : Uuid} {name : String} {b : AclPortBinding}
    (hb : b ∈ (removeBinding uuidHash s listId name).bindings) : b ∈ s.bindings := by
  obtain ⟨n, hn, rfl⟩ := List.mem_map.1 hb
  exact List.mem_map_of_mem (List.mem_of_mem_eraseP hn)

theorem CountsEnabled.removePort (hs : CountsEnabled s) (listId : Uuid) (port : BundlePort) :
    CountsEnabled (removePort uuidHash listId s port) := by
  apply hs.of_subset
  intro b hb
  rw [State.bindings, removePort_allPortApplications] at hb
  exact bindings_removeBinding_subset hb

theorem CountsEnabled.opsClsPdRemove (hs : CountsEnabled s) (listId : Uuid)
    (bundle : Option Bundle) (direction : Direction) :
    CountsEnabled (opsClsPdRemove uuidHash s listId bundle direction).state := by
  unfold Classifier.opsClsPdRemove
  split
  · exact hs
  · split
    · exact hs
    · rename_i bundle
      exact List.foldlRecOn bundle.ports _ hs fun s hs port _ => hs.removePort listId port

theorem CountsEnabled.lagUpdateMember (hs : CountsEnabled s) (L : Layouts) (list : ClsList)
    (bundleName : String) (port : BundlePort) (action : LagUpdateAction) (info : InterfaceInfo)
    (direction : Direction) :
    CountsEnabled (lagUpdateMember uuidHash L s list bundleName port action info direction) := by
  cases action with
  | memberIntfAdd =>
    have hst : CountsEnabled (s, false).1 := hs
    rw [lagUpdateMember_add]
    exact hst.applyPort L list.listId bundleName info direction port
  | memberIntfDel => exact hs.of_subset fun b hb => bindings_removeBinding_subset hb

theorem CountsEnabled.call (hs : CountsEnabled s) (L : Layouts) (c : Call) :
    CountsEnabled (call uuidHash L s c).state := by
  cases c with
  | apply list bundle info direction => exact hs.opsClsPdApply L list bundle info direction
  | remove listId bundle direction => exact hs.opsClsPdRemove listId bundle direction
  | lagUpdate list bundle ofpPort action info direction =>
    simp only [Classifier.call]
    unfold opsClsPdLagUpdate
    repeat' split
    all_goals first
      | exact hs
      | exact hs.lagUpdateMember L _ _ _ action info direction
  | replace orig list bundle info direction =>
    have hremoved : CountsEnabled (Classifier.opsClsPdRemove uuidHash s orig bundle direction).state :=
      hs.opsClsPdRemove orig bundle direction
    simp only [Classifier.call, opsClsPdReplace]
    split
    · exact hremoved
    · exact hremoved.opsClsPdApply L (some list) bundle info direction
  | listUpdate list =>
    simp only [Classifier.call, opsClsPdListUpdate, aclCreateOrUpdateEntry]
    split
    · exact hs
    · exact hs

/-! ## What the operations on the counts leave alone -/

/-- Only counts differ: the same lists, and bindings of the same hashes and keys in the same order. -/
structure SameKeys (s s' : State) : Prop where
  allAcls : s'.allAcls = s.allAcls
  mask : s'.allPortApplications.mask = s.allPortApplications.mask
  nodes : s'.allPortApplications.nodes.map (fun n => (n.hash, n.value.key)) =
    s.allPortApplications.nodes.map fun n => (n.hash, n.value.key)

theorem SameKeys.refl (s : State) : SameKeys s s := ⟨rfl, rfl, rfl⟩

theorem SameKeys.trans {s'' : State} (h : SameKeys s s') (h' : SameKeys s' s'') :
    SameKeys s s'' :=
  ⟨h'.allAcls.trans h.allAcls, h'.mask.trans h.mask, h'.nodes.trans h.nodes⟩

theorem SameKeys.keys (h : SameKeys s s') : s'.bindings.map (·.key) = s.bindings.map (·.key) := by
  have hnodes := congrArg (List.map Prod.snd) h.nodes
  rw [List.map_map, List.map_map] at hnodes
  rw [State.bindings, State.bindings, Hmap.values, Hmap.values, List.map_map, List.map_map]
  exact hnodes

theorem SameKeys.aclLookupByUuid (h : SameKeys s s') (uuid : Uuid) :
    aclLookupByUuid uuidHash s' uuid = aclLookupByUuid uuidHash s uuid := by
  unfold Classifier.aclLookupByUuid
  rw [h.allAcls]

theorem StoreInv.of_sameKeys (H : StoreInv uuidHash s) (h : SameKeys s s') :
    StoreInv uuidHash s' where
  aclsHashed := h.allAcls ▸ H.aclsHashed
  bindingsHashed := by
    intro n hn
    have hmem : (n.hash, n.value.key) ∈
        s'.allPortApplications.nodes.map fun n => (n.hash, n.value.key) :=
      List.mem_map_of_mem hn
    rw [h.nodes] at hmem
    obtain ⟨m, hm, heq⟩ := List.mem_map.1 hmem
    simp only [AclPortBinding.key, Prod.mk.injEq] at heq
    simp only [← heq.1, ← heq.2.1]
    exact H.bindingsHashed m hm
  aclsNodup := by
    rw [State.acls, h.allAcls]
    exact H.aclsNodup
  bindingsNodup := h.keys ▸ H.bindingsNodup
  stored := by
    intro b hb
    have hmem : b.key ∈ s'.bindings.map (·.key) := List.mem_map_of_mem hb
    rw [h.keys] at hmem
    obtain ⟨c, hc, heq⟩ := List.mem_map.1 hmem
    simp only [AclPortBinding.key, Prod.mk.injEq] at heq
    rw [State.acls, h.allAcls, ← heq.1]
    exact H.stored c hc

theorem sameKeys_updateInBucket (k : ℕ) (p : AclPortBinding → Bool)
    (stats : Fin maxAcePerAcl → Statistics) :
    SameKeys s { s with
      allPortApplications :=
        s.allPortApplications.updateInBucket k p fun b => { b with stats := stats } } :=
  ⟨rfl, rfl, Hmap.map_node_overwriteFirst fun _ => rfl⟩

theorem key_clearNamed (name : String) (b : AclPortBinding) : (clearNamed name b).key = b.key := by
  unfold clearNamed
  split
  · rfl
  · rfl

theorem sameKeys_clearPort (listId : Uuid) (st : State × Bool) (port : BundlePort) :
    SameKeys st.1 (clearPort uuidHash listId st port).1 :=
  ⟨rfl, rfl, Hmap.map_node_mapInBucket (key_clearNamed port.name)⟩

theorem sameKeys_foldl_clearPort (listId : Uuid) (ports : List BundlePort) (st : State × Bool) :
    SameKeys st.1 (ports.foldl (clearPort uuidHash listId) st).1 := by
  induction ports generalizing st with
  | nil => exact .refl _
  | cons port ports ih => exact (sameKeys_clearPort listId st port).trans (ih _)

theorem sameKeys_opsClsPdStatisticsClear (listId : Uuid) (bundle : Option Bundle)
    (direction : Direction) :
    SameKeys s (opsClsPdStatisticsClear uuidHash s listId bundle direction).state := by
  unfold opsClsPdStatisticsClear
  split
  · exact .refl s
  · exact .refl s
  · rename_i bundle _
    have hloop : SameKeys s (bundle.ports.foldl (clearPort uuidHash listId) (s, false)).1 :=
      sameKeys_foldl_clearPort listId bundle.ports (s, false)
    simp only
    split
    · exact hloop
    · exact hloop

/-! ## The loop over the entries -/

/-- What a turn of the loop makes of an entry. -/
def Statistics.count (entry : Statistics) (random : UInt64) : Statistics :=
  if entry.statsEnabled then { entry with hitcounts := entry.hitcounts + random % 10 } else entry

/-- The first `n` turns of the loop from `buffers` lead to `buffers'`. -/
structure Counted (random : ℕ → UInt64) (buffers buffers' : StatisticsBuffers) (n : ℕ) : Prop where
  counted : ∀ idx : Fin maxAcePerAcl, idx.val < n →
    buffers'.stats idx = (buffers.stats idx).count (random idx)
  rest : ∀ idx : Fin maxAcePerAcl, n ≤ idx.val → buffers'.stats idx = buffers.stats idx
  returned : ∀ idx : Fin maxAcePerAcl, idx.val < n → (buffers.stats idx).statsEnabled = true →
    buffers'.statistics idx = buffers'.stats idx

theorem Counted.countEntry {random : ℕ → UInt64} {buffers buffers' buffers'' : StatisticsBuffers}
    {n : ℕ} (h : Counted random buffers buffers' n)
    (hcount : countEntry random buffers' n = some buffers'') :
    Counted random buffers buffers'' (n + 1) := by
  unfold Classifier.countEntry at hcount
  split at hcount
  swap
  · cases hcount
  rename_i hn
  have hsame : buffers'.stats ⟨n, hn⟩ = buffers.stats ⟨n, hn⟩ := h.rest ⟨n, hn⟩ le_rfl
  have hne : ∀ idx : Fin maxAcePerAcl, idx.val ≠ n → idx ≠ ⟨n, hn⟩ :=
    fun idx hidx heq => hidx (congrArg Fin.val heq)
  simp only [hsame] at hcount
  split at hcount
  · rename_i hen
    cases hcount
    refine ⟨fun idx hidx => ?_, fun idx hidx => ?_, fun idx hidx hidxen => ?_⟩
    · rcases Nat.lt_succ_iff_lt_or_eq.1 hidx with hlt | rfl
      · simp only [Function.update_of_ne (hne idx hlt.ne)]
        exact h.counted idx hlt
      · simp only [Fin.eta, Function.update_self, Statistics.count]
        rw [if_pos hen]
    · simp only [Function.update_of_ne (hne idx (by omega))]
      exact h.rest idx (by omega)
    · rcases Nat.lt_succ_iff_lt_or_eq.1 hidx with hlt | rfl
      · simp only [Function.update_of_ne (hne idx hlt.ne), Function.update_of_ne hlt.ne]
        exact h.returned idx hlt hidxen
      · simp only [Fin.eta, Function.update_self]
  · rename_i hdis
    cases hcount
    refine ⟨fun idx hidx => ?_, fun idx hidx => h.rest idx (by omega), fun idx hidx hidxen => ?_⟩
    · rcases Nat.lt_succ_iff_lt_or_eq.1 hidx with hlt | rfl
      · exact h.counted idx hlt
      · simp only [Statistics.count]
        rw [if_neg hdis]
        exact hsame
    · rcases Nat.lt_succ_iff_lt_or_eq.1 hidx with hlt | rfl
      · simp only [Function.update_of_ne hlt.ne]
        exact h.returned idx hlt hidxen
      · exact absurd hidxen hdis

theorem counted_foldlM {random : ℕ → UInt64} {buffers buffers' : StatisticsBuffers} {n : ℕ}
    (h : (List.range n).foldlM (countEntry random) buffers = some buffers') :
    Counted random buffers buffers' n := by
  induction n generalizing buffers' with
  | zero =>
    cases h
    exact ⟨nofun, fun _ _ => rfl, nofun⟩
  | succ n ih =>
    rw [List.range_succ, List.foldlM_append] at h
    obtain ⟨mid, hmid, hlast⟩ := Option.bind_eq_some_iff.1 h
    rw [List.foldlM_cons] at hlast
    obtain ⟨last, hcount, hnil⟩ := Option.bind_eq_some_iff.1 hlast
    cases hnil
    exact (ih hmid).countEntry hcount

theorem Counted.enabled {random : ℕ → UInt64} {buffers buffers' : StatisticsBuffers} {n : ℕ}
    (h : Counted random buffers buffers' n) (idx : Fin maxAcePerAcl) :
    (buffers'.stats idx).statsEnabled = (buffers.stats idx).statsEnabled := by
  by_cases hlt : idx.val < n
  · rw [h.counted idx hlt, Statistics.count]
    split
    · rfl
    · rfl
  · rw [h.rest idx (not_lt.1 hlt)]

/-! ## The invariants of a run -/

/-- A get that returns 0 has found a binding on a port of the bundle and counted its entries. -/
theorem opsClsPdStatisticsGet_cases {listId : Uuid} {bundle : Option Bundle}
    {direction : Direction} {statistics : Option (ℕ → Statistics)} {numEntries : ℤ}
    {random : ℕ → UInt64} {r : StatisticsResult}
    (h : opsClsPdStatisticsGet uuidHash s listId bundle direction statistics numEntries random =
      some r) :
    (r.rc = -1 ∧ r.state = s ∧ r.statistics = statistics) ∨
    ∃ out a bdl b buffers, statistics = some out ∧ aclLookupByUuid uuidHash s listId = some a ∧
      bundle = some bdl ∧ boundPort uuidHash s listId bdl = some b ∧
      Counted random ⟨b.stats, out⟩ buffers numEntries.toNat ∧ r.rc = 0 ∧
      r.statistics = some buffers.statistics ∧ r.state = { s with
        allPortApplications := s.allPortApplications.updateInBucket (uuidHash listId)
          (·.interfaceName == b.interfaceName) fun b => { b with stats := buffers.stats } } := by
  unfold opsClsPdStatisticsGet at h
  split at h
  · cases h
    exact .inl ⟨rfl, rfl, rfl⟩
  rename_i out
  split at h
  · cases h
    exact .inl ⟨rfl, rfl, rfl⟩
  · cases h
    exact .inl ⟨rfl, rfl, rfl⟩
  rename_i a bdl hlookup
  split at h
  · cases h
    exact .inl ⟨rfl, rfl, rfl⟩
  rename_i b hbound
  obtain ⟨buffers, hcount, hr⟩ := Option.map_eq_some_iff.1 h
  cases hr
  exact .inr ⟨out, a, bdl, b, buffers, rfl, hlookup, rfl, hbound, counted_foldlM hcount, rfl, rfl,
    rfl⟩

/-- When there is a binding to count, and the entries are indices into its counts, a get returns 0. -/
theorem opsClsPdStatisticsGet_found {listId : Uuid} {bundle : Bundle} {b : AclPortBinding}
    {numEntries : ℤ} (hlookup : aclLookupByUuid uuidHash s listId ≠ none)
    (hbound : boundPort uuidHash s listId bundle = some b) (hnum : numEntries ≤ maxAcePerAcl)
    (direction : Direction) (out : ℕ → Statistics) (random : ℕ → UInt64) :
    ∃ buffers, Counted random ⟨b.stats, out⟩ buffers numEntries.toNat ∧
      opsClsPdStatisticsGet uuidHash s listId (some bundle) direction (some out) numEntries random =
        some ⟨{ s with
          allPortApplications := s.allPortApplications.updateInBucket (uuidHash listId)
            (·.interfaceName == b.interfaceName) fun b => { b with stats := buffers.stats } },
          0, some buffers.statistics, some .success⟩ := by
  obtain ⟨a, ha⟩ := Option.ne_none_iff_exists'.1 hlookup
  have hsome : (countEntries random ⟨b.stats, out⟩ numEntries).isSome := countEntries_isSome hnum
  obtain ⟨buffers, hcount⟩ := Option.isSome_iff_exists.1 hsome
  refine ⟨buffers, counted_foldlM hcount, ?_⟩
  simp only [opsClsPdStatisticsGet, ha, hbound, hcount, Option.map_some]

theorem mem_of_boundPort (H : StoreInv uuidHash s) {listId : Uuid} {bundle : Bundle}
    {b : AclPortBinding} (h : boundPort uuidHash s listId bundle = some b) :
    b ∈ s.bindings ∧ b.interfaceName ∈ bundle.ports.map (·.name) ∧
      foundBinding uuidHash s listId b.interfaceName = some b := by
  obtain ⟨port, hport, hfound⟩ := List.exists_of_findSome?_eq_some h
  obtain ⟨hb, hname⟩ := mem_of_foundBinding H hfound
  exact ⟨hb, hname ▸ List.mem_map_of_mem hport, hname ▸ hfound⟩

/-- Overwriting the counts of the binding that a search finds takes that binding out and puts one of
the same key in its place. -/
theorem mem_bindings_updateInBucket (H : StoreInv uuidHash s) {listId : Uuid} {b : AclPortBinding}
    (hb : foundBinding uuidHash s listId b.interfaceName = some b)
    (stats : Fin maxAcePerAcl → Statistics) (c : AclPortBinding) :
    c ∈ State.bindings { s with
        allPortApplications := s.allPortApplications.updateInBucket (uuidHash listId)
          (·.interfaceName == b.interfaceName) fun b => { b with stats := stats } } ↔
      c = { b with stats := stats } ∨ (c ∈ s.bindings ∧ c ≠ b) := by
  rw [foundBinding, Hmap.find?_bucket_eq_map] at hb
  obtain ⟨n, hn, rfl⟩ := Option.map_eq_some_iff.1 hb
  obtain ⟨l₁, l₂, hnodes, hover⟩ := Hmap.overwriteFirst_of_find? hn
  have hnodup := H.nodup_bindings
  simp only [State.bindings, Hmap.values, Hmap.updateInBucket] at hnodup ⊢
  rw [hover, List.map_append, List.map_cons]
  rw [hnodes, List.map_append, List.map_cons] at hnodup ⊢
  rw [List.nodup_middle, List.nodup_cons] at hnodup
  rw [List.perm_middle.mem_iff, List.perm_middle.mem_iff, List.mem_cons, List.mem_cons]
  refine or_congr_right ⟨fun hc => ⟨.inr hc, ?_⟩, fun hc => hc.1.resolve_left hc.2⟩
  rintro rfl
  exact hnodup.1 hc

theorem CountsEnabled.opsClsPdStatisticsGet (H : StoreInv uuidHash s) (hs : CountsEnabled s)
    {listId : Uuid} {bundle : Option Bundle} {direction : Direction}
    {statistics : Option (ℕ → Statistics)} {numEntries : ℤ} {random : ℕ → UInt64}
    {r : StatisticsResult}
    (h : opsClsPdStatisticsGet uuidHash s listId bundle direction statistics numEntries random =
      some r) : CountsEnabled r.state := by
  rcases opsClsPdStatisticsGet_cases h with ⟨-, hstate, -⟩ |
    ⟨out, a, bdl, b, buffers, -, -, -, hbound, hcounted, -, -, hstate⟩
  · rw [hstate]
    exact hs
  · obtain ⟨hb, -, hfound⟩ := mem_of_boundPort H hbound
    rw [hstate]
    intro c hc
    rcases (mem_bindings_updateInBucket H hfound buffers.stats c).1 hc with rfl | ⟨hc, -⟩
    · exact fun idx => (hcounted.enabled idx).trans (hs b hb idx)
    · exact hs c hc

theorem clearNamed_enabled {b : AclPortBinding} (h : b.Enabled) (name : String) :
    (clearNamed name b).Enabled := by
  unfold clearNamed
  split
  · exact h
  · exact h

theorem CountsEnabled.clearPort {st : State × Bool} (hs : CountsEnabled st.1) (listId : Uuid)
    (port : BundlePort) : CountsEnabled (clearPort uuidHash listId st port).1 := by
  intro b hb
  obtain ⟨n, hn, rfl⟩ := List.mem_map.1 hb
  obtain ⟨m, hm, rfl⟩ := List.mem_map.1 hn
  have hmen : m.value.Enabled := hs m.value (List.mem_map_of_mem hm)
  split
  · exact clearNamed_enabled hmen port.name
  · exact hmen

theorem CountsEnabled.opsClsPdStatisticsClear (hs : CountsEnabled s) (listId : Uuid)
    (bundle : Option Bundle) (direction : Direction) :
    CountsEnabled (opsClsPdStatisticsClear uuidHash s listId bundle direction).state := by
  unfold Classifier.opsClsPdStatisticsClear
  split
  · exact hs
  · exact hs
  · rename_i bundle _
    have hloop := List.foldlRecOn bundle.ports (Classifier.clearPort uuidHash listId)
      (motive := fun st => CountsEnabled st.1) (b := (s, false)) hs fun _ h port _ =>
        h.clearPort listId port
    simp only
    split
    · exact hloop
    · exact hloop

/-- Every request keeps the invariants. -/
theorem invariants_serve {r : Request} (h : serve uuidHash s r = some s')
    (H : StoreInv uuidHash s ∧ CountsEnabled s) : StoreInv uuidHash s' ∧ CountsEnabled s' := by
  obtain ⟨H, hs⟩ := H
  cases r with
  | call L c =>
    cases h
    exact ⟨H.call L c, hs.call L c⟩
  | statisticsGet listId bundle direction statistics numEntries random =>
    obtain ⟨r, hr, rfl⟩ := Option.map_eq_some_iff.1 h
    refine ⟨?_, CountsEnabled.opsClsPdStatisticsGet H hs hr⟩
    rcases opsClsPdStatisticsGet_cases hr with ⟨-, hstate, -⟩ |
      ⟨out, a, bdl, b, buffers, -, -, -, -, -, -, -, hstate⟩
    · exact hstate ▸ H
    · rw [hstate]
      exact H.of_sameKeys (sameKeys_updateInBucket _ _ buffers.stats)
  | statisticsClear listId bundle direction =>
    cases h
    exact ⟨H.of_sameKeys (sameKeys_opsClsPdStatisticsClear listId bundle direction),
      hs.opsClsPdStatisticsClear listId bundle direction⟩

theorem invariants_foldlM {rs : List Request} (h : rs.foldlM (serve uuidHash) s = some s')
    (H : StoreInv uuidHash s ∧ CountsEnabled s) : StoreInv uuidHash s' ∧ CountsEnabled s' := by
  induction rs generalizing s with
  | nil =>
    cases h
    exact H
  | cons r rs ih =>
    rw [List.foldlM_cons] at h
    obtain ⟨mid, hmid, hrest⟩ := Option.bind_eq_some_iff.1 h
    exact ih hrest (invariants_serve hmid H)

theorem Served.invariants (h : Served uuidHash s) : StoreInv uuidHash s ∧ CountsEnabled s := by
  obtain ⟨rs, hrs⟩ := h
  exact invariants_foldlM hrs ⟨.empty, fun b hb => nomatch hb⟩

end ContainerPlugin.Classifier
