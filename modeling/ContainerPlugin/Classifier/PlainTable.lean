import Mathlib.Algebra.BigOperators.Group.Finset.Basic
import Mathlib.Algebra.Order.BigOperators.Group.Finset
import ContainerPlugin.Classifier.Failures

/-!
# The plug-in as a plain table

What the plug-in is for: a set of bindings to which an apply adds and from which a remove takes. As
long as a port carries one list in one direction at a time, as the calls see it, neither the hash
function nor the arrangement of the maps can be told from the outside: the plug-in binds what the
plain table has and answers as the table does.
-/

namespace ContainerPlugin.Classifier

open Runs

/-! ## The table -/

/-- The list, the interface and the direction of every binding. -/
abbrev Table := Finset (Uuid × String × Direction)

/-- The bindings of a list in a direction. -/
def slots (listId : Uuid) (names : List String) (direction : Direction) : Table :=
  (names.map fun name => (listId, name, direction)).toFinset

def Bundle.names (bundle : Bundle) : List String := bundle.ports.map (·.name)

/-- The member port of a LAG update. -/
def Bundle.member (bundle : Bundle) (ofpPort : ℕ) : List String :=
  ((bundle.ports.find? (·.ofpPort == ofpPort)).map (·.name)).toList

/-- What a call makes of the table, and whether it succeeds. -/
def Table.call (t : Table) : Call → Table × Bool
  | .apply (some list) (some bundle) _ direction =>
    let new := slots list.listId bundle.names direction
    (t ∪ new, !decide (new ⊆ t))
  | .remove listId (some bundle) direction => (t \ slots listId bundle.names direction, true)
  | .lagUpdate (some list) (some bundle) ofpPort action _ direction =>
    let member := slots list.listId (bundle.member ofpPort) direction
    match action with
    | .memberIntfAdd =>
      if direction = .egress ∧ aclListIsRollbackTestList list then (t, false)
      else (t ∪ member, !(bundle.member ofpPort).isEmpty)
    | .memberIntfDel => (t \ member, !(bundle.member ofpPort).isEmpty)
  | .replace orig list (some bundle) _ direction =>
    let removed := t \ slots orig bundle.names direction
    let new := slots list.listId bundle.names direction
    (removed ∪ new, !decide (new ⊆ removed))
  | .listUpdate _ => (t, true)
  | .apply none .. | .apply (some _) none .. | .remove _ none _ | .lagUpdate none ..
  | .lagUpdate (some _) none .. | .replace _ _ none .. => (t, false)

def Table.step (t : Table) (c : Call) : Table := (t.call c).1

/-- The ports carry nothing but the list, in the direction. -/
def Table.Carry (t : Table) (listId : Uuid) (names : List String) (direction : Direction) : Prop :=
  ∀ k ∈ t, k.2.1 ∈ names → k.1 = listId ∧ k.2.2 = direction

instance (t : Table) (listId : Uuid) (names : List String) (direction : Direction) :
    Decidable (t.Carry listId names direction) := inferInstanceAs (Decidable (∀ _ ∈ _, _))

/-- The list is bound somewhere. -/
def Table.Has (t : Table) (listId : Uuid) : Prop := ∃ k ∈ t, k.1 = listId

instance (t : Table) (listId : Uuid) : Decidable (t.Has listId) :=
  inferInstanceAs (Decidable (∃ _ ∈ _, _))

/-- A call that finds no other list on its ports, nor the other direction. A removal and a LAG update
are about a list that is bound. -/
def Table.Orderly (t : Table) : Call → Prop
  | .apply (some list) (some bundle) _ direction => t.Carry list.listId bundle.names direction
  | .remove listId (some bundle) direction =>
    t.Carry listId bundle.names direction ∧ t.Has listId
  | .lagUpdate (some list) (some bundle) ofpPort _ _ direction =>
    t.Carry list.listId (bundle.member ofpPort) direction ∧ t.Has list.listId
  | .replace orig _ (some bundle) _ direction => t.Carry orig bundle.names direction ∧ t.Has orig
  | .apply none .. | .apply (some _) none .. | .remove _ none _ | .lagUpdate none ..
  | .lagUpdate (some _) none .. | .replace _ _ none .. | .listUpdate _ => True

instance (t : Table) : ∀ c : Call, Decidable (t.Orderly c)
  | .apply (some _) (some _) .. => inferInstanceAs (Decidable (Table.Carry ..))
  | .remove _ (some _) _ => inferInstanceAs (Decidable (_ ∧ _))
  | .lagUpdate (some _) (some _) .. => inferInstanceAs (Decidable (_ ∧ _))
  | .replace _ _ (some _) .. => inferInstanceAs (Decidable (_ ∧ _))
  | .apply none .. | .apply (some _) none .. | .remove _ none _ | .lagUpdate none ..
  | .lagUpdate (some _) none .. | .replace _ _ none .. | .listUpdate _ =>
    inferInstanceAs (Decidable True)

/-- The answers to a run of calls. -/
def Table.answers : Table → List Call → List Bool
  | _, [] => []
  | t, c :: cs => (t.call c).2 :: Table.answers (t.step c) cs

def answers (uuidHash : Uuid → ℕ) : State → List (Layouts × Call) → List Bool
  | _, [] => []
  | s, c :: cs =>
    decide ((call uuidHash c.1 s c.2).rc = 0) :: answers uuidHash (callStep uuidHash s c) cs

/-- The bindings in the store. -/
def State.table (s : State) : Table := (s.bindings.map (·.key)).toFinset

/-! ## What the searches find -/

section Searches

variable {uuidHash : Uuid → ℕ} {s : State} {listId : Uuid} {names : List String}
  {direction : Direction} {k : Uuid × String × Direction}

theorem mem_slots : k ∈ slots listId names direction ↔
    k.1 = listId ∧ k.2.2 = direction ∧ k.2.1 ∈ names := by
  obtain ⟨id, name, dir⟩ := k
  simp only [slots, List.mem_toFinset, List.mem_map, Prod.mk.injEq]
  constructor
  · rintro ⟨name, hname, rfl, rfl, rfl⟩
    exact ⟨rfl, rfl, hname⟩
  · rintro ⟨rfl, rfl, hname⟩
    exact ⟨name, hname, rfl, rfl, rfl⟩

theorem mem_table : k ∈ s.table ↔ k ∈ s.bindings.map (·.key) := List.mem_toFinset

theorem bound_iff_mem_table {name : String} :
    Bound s.bindings listId name direction ↔ (listId, name, direction) ∈ s.table := mem_table.symm

/-- A binding on one of the ports is one of the list. -/
theorem Table.Carry.of_mem (h : s.table.Carry listId names direction) {b : AclPortBinding}
    (hb : b ∈ s.bindings) (hname : b.interfaceName ∈ names) :
    b.listId = listId ∧ b.direction = direction :=
  h b.key (mem_table.mpr (List.mem_map_of_mem hb)) hname

/-- No other binding is in the way, whatever the mask. -/
theorem Table.Carry.unobstructed (h : s.table.Carry listId names direction) (grow : ℕ → ℕ → ℕ)
    (n mask : ℕ) : Unobstructed uuidHash grow s.bindings listId direction n mask names := by
  induction names generalizing n mask with
  | nil => trivial
  | cons name names ih =>
    have hrest : s.table.Carry listId names direction :=
      fun k hk hname => h k hk (List.mem_cons_of_mem _ hname)
    rw [Unobstructed]
    split
    · exact ih hrest n mask
    · rename_i hnew
      refine ⟨?_, ih hrest _ _⟩
      rintro ⟨b, hb, rfl, rfl, -⟩
      obtain ⟨rfl, -⟩ := h.of_mem hb List.mem_cons_self
      exact hnew (List.mem_map_of_mem hb)

theorem Table.Carry.findsOwn (H : StoreInv uuidHash s) (h : s.table.Carry listId names direction) :
    FindsOwn uuidHash s listId direction names := by
  intro name hname b hfound
  obtain ⟨hb, rfl⟩ := mem_of_foundBinding H hfound
  exact h.of_mem hb hname

/-- The guard of an insertion stops at the binding itself only. -/
theorem Table.Carry.portAlreadyBound_iff (H : StoreInv uuidHash s)
    (h : s.table.Carry listId names direction) {name : String} (hname : name ∈ names) :
    portAlreadyBound uuidHash s listId name direction = true ↔
      (listId, name, direction) ∈ s.table := by
  rw [Classifier.portAlreadyBound_iff H, ← bound_iff_mem_table]
  refine ⟨?_, fun hbound => hbound.obstructed _⟩
  rintro ⟨b, hb, rfl, rfl, -⟩
  obtain ⟨rfl, -⟩ := h.of_mem hb hname
  exact List.mem_map_of_mem hb

theorem AppliesExactly.table_eq {s' : State}
    (h : AppliesExactly listId direction names s.bindings s'.bindings) :
    s'.table = s.table ∪ slots listId names direction := by
  ext k
  rw [Finset.mem_union, mem_table, mem_table, mem_slots, h k]
  refine or_congr_right ?_
  obtain ⟨id, name, dir⟩ := k
  simp only [Prod.mk.injEq]
  constructor
  · rintro ⟨name, hname, rfl, rfl, rfl⟩
    exact ⟨rfl, rfl, hname⟩
  · rintro ⟨rfl, rfl, hname⟩
    exact ⟨name, hname, rfl, rfl, rfl⟩

theorem RemovesExactly.table_eq {s' : State}
    (h : RemovesExactly listId direction names s.bindings s'.bindings) :
    s'.table = s.table \ slots listId names direction := by
  ext k
  simp only [Finset.mem_sdiff, mem_table, mem_slots, List.mem_map]
  constructor
  · rintro ⟨b, hb, rfl⟩
    obtain ⟨hmem, hother⟩ := (h b).mp hb
    exact ⟨⟨b, hmem, rfl⟩, hother⟩
  · rintro ⟨⟨b, hmem, rfl⟩, hother⟩
    exact ⟨b, (h b).mpr ⟨hmem, hother⟩, rfl⟩

end Searches

/-! ## Room for the lists -/

/-- A list for which room is kept. -/
structure Sized (ids : Finset Uuid) (size : Uuid → ℕ) (list : ClsList) : Prop where
  mem : list.listId ∈ ids
  le : list.numEntries ≤ size list.listId

instance (ids : Finset Uuid) (size : Uuid → ℕ) (list : ClsList) : Decidable (Sized ids size list) :=
  decidable_of_iff (list.listId ∈ ids ∧ list.numEntries ≤ size list.listId)
    ⟨fun h => ⟨h.1, h.2⟩, fun h => ⟨h.mem, h.le⟩⟩

/-- The lists together fit the store, an empty one counted as one entry. -/
structure Room (ids : Finset Uuid) (size : Uuid → ℕ) : Prop where
  pos : ∀ id ∈ ids, 0 < size id
  total : ∑ id ∈ ids, size id ≤ maxAceInHashmap

/-- The list that a call may store. -/
def Call.brought : Call → Option ClsList
  | .apply list .. => list
  | .replace _ list .. | .listUpdate list => some list
  | .remove .. | .lagUpdate .. => none

section Room

variable {uuidHash : Uuid → ℕ} {s : State} {ids : Finset Uuid} {size : Uuid → ℕ} {list : ClsList}

theorem aceCount_add_size_le (H : StoreInv uuidHash s) (hs : ∀ a ∈ s.acls, Sized ids size a)
    {id : Uuid} (hid : id ∈ ids) (hnew : ∀ a ∈ s.acls, a.listId ≠ id) :
    aceCount s + size id ≤ ∑ id ∈ ids, size id := by
  have hsub : (s.acls.map (·.listId)).toFinset ⊆ ids.erase id := by
    intro id' hid'
    obtain ⟨a, ha, rfl⟩ := List.mem_map.mp (List.mem_toFinset.mp hid')
    exact Finset.mem_erase.mpr ⟨hnew a ha, (hs a ha).mem⟩
  have hcount : aceCount s ≤ ∑ id ∈ (s.acls.map (·.listId)).toFinset, size id := by
    rw [List.sum_toFinset size H.aclsNodup, List.map_map]
    exact List.sum_le_sum fun a ha => (hs a ha).le
  calc aceCount s + size id
      ≤ ∑ id ∈ ids.erase id, size id + size id :=
        Nat.add_le_add_right (hcount.trans (Finset.sum_le_sum_of_subset hsub)) _
    _ = ∑ id ∈ ids, size id := Finset.sum_erase_add ids size hid

/-- A list that is not stored yet is never refused. -/
theorem Room.fits (hroom : Room ids size) (H : StoreInv uuidHash s)
    (hs : ∀ a ∈ s.acls, Sized ids size a) (hlist : Sized ids size list)
    (hnew : aclLookupByUuid uuidHash s list.listId = none) :
    aclListEntriesFitInHashmap s list = true := by
  have hcount := aceCount_add_size_le H hs hlist.mem (aclLookupByUuid_eq_none H hnew)
  have htotal := hroom.total
  have hpos := hroom.pos _ hlist.mem
  have hle := hlist.le
  rw [fits_iff, FitsBeside, Nat.mod_eq_of_lt (by rw [maxAceInHashmap, maxAcePerAcl] at htotal; omega)]
  omega

theorem brought_of_given {c : Call} (h : given uuidHash s c = some list) :
    c.brought = some list := by
  have hcreated : ∀ {s' l}, created uuidHash s' l = some list → l = list := by
    intro s' l h
    rw [created] at h
    split at h
    · exact Option.some.inj h
    · cases h
  cases c with
  | apply l bundle info direction =>
    cases l with
    | none => cases h
    | some l => exact congrArg some (hcreated h)
  | remove => cases h
  | lagUpdate => cases h
  | replace orig l bundle info direction =>
    simp only [given] at h
    split at h
    · exact congrArg some (hcreated h)
    · cases h
  | listUpdate l => exact h

theorem sized_call (H : StoreInv uuidHash s) (hs : ∀ a ∈ s.acls, Sized ids size a) (L : Layouts)
    {c : Call} (hc : ∀ list ∈ c.brought, Sized ids size list) :
    ∀ a ∈ (call uuidHash L s c).state.acls, Sized ids size a := by
  intro a ha
  rcases StoredFrom.call H L c a ha with ⟨l, hl, hid, -, hentries⟩ | ⟨ha, -⟩
  · have hsized := hc l (brought_of_given hl)
    refine ⟨hid ▸ hsized.mem, ?_⟩
    rw [ClsList.numEntries, hentries, hid]
    exact hsized.le
  · exact hs a ha

end Room

/-! ## The calls -/

section Calls

variable {uuidHash : Uuid → ℕ} {s : State} {ids : Finset Uuid} {size : Uuid → ℕ} {list : ClsList}
  {listId : Uuid} {bundle : Bundle} {direction : Direction}

theorem Table.Has.lookup_ne_none (H : StoreInv uuidHash s) (h : s.table.Has listId) :
    aclLookupByUuid uuidHash s listId ≠ none := by
  obtain ⟨k, hk, rfl⟩ := h
  obtain ⟨b, hb, rfl⟩ := List.mem_map.mp (mem_table.mp hk)
  obtain ⟨a, ha, hid⟩ := H.stored b hb
  exact fun hnone => aclLookupByUuid_eq_none H hnone a ha hid

/-- The apply finds a port to bind exactly if one of its slots is not in the table. -/
theorem binds_iff (H : StoreInv uuidHash s) (h : s.table.Carry listId bundle.names direction) :
    Binds uuidHash s listId (some bundle) direction ↔
      ¬ slots listId bundle.names direction ⊆ s.table := by
  have hport : ∀ port ∈ bundle.ports, portAlreadyBound uuidHash s listId port.name direction = true ↔
      (listId, port.name, direction) ∈ s.table :=
    fun port hport => h.portAlreadyBound_iff H (List.mem_map_of_mem hport)
  simp only [Binds, Option.mem_some_iff, exists_eq_left', Finset.subset_iff, mem_slots, not_forall]
  constructor
  · rintro ⟨port, hmem, hfree⟩
    refine ⟨(listId, port.name, direction), ⟨rfl, rfl, List.mem_map_of_mem hmem⟩, fun hbound => ?_⟩
    rw [(hport port hmem).mpr hbound] at hfree
    cases hfree
  · rintro ⟨⟨id, name, dir⟩, ⟨rfl, rfl, hname⟩, hfree⟩
    obtain ⟨port, hmem, rfl⟩ := List.mem_map.mp hname
    exact ⟨port, hmem, Bool.eq_false_iff.mpr fun hbound => hfree ((hport port hmem).mp hbound)⟩

/-- The part of an apply after the list has been found or created. -/
theorem table_applyToBundle (H : StoreInv uuidHash s) (L : Layouts)
    (hstored : ∃ a ∈ s.acls, a.listId = list.listId)
    (h : s.table.Carry list.listId bundle.names direction) (info : InterfaceInfo) :
    let r := applyToBundle uuidHash L s list (some bundle) info direction
    let new := slots list.listId bundle.names direction
    r.state.table = s.table ∪ new ∧ decide (r.rc = 0) = !decide (new ⊆ s.table) := by
  have hexact := ((applyToBundle_exact_iff H L hstored bundle info direction).mpr
    (h.unobstructed L.bindings.grow _ _)).1
  refine ⟨hexact.table_eq, ?_⟩
  rcases applyToBundle_cases L list (some bundle) info direction with ⟨hbinds, hrc⟩ | ⟨hnone, hrc, -⟩
  · have hnew := (binds_iff H h).mp hbinds
    rw [hrc, decide_eq_false hnew]
    rfl
  · have hall := not_not.mp fun hnew => hnone ((binds_iff H h).mpr hnew)
    rw [hrc, decide_eq_true hall]
    rfl

theorem table_opsClsPdApply (H : StoreInv uuidHash s) (L : Layouts)
    (hfits : aclLookupByUuid uuidHash s list.listId = none → aclListEntriesFitInHashmap s list = true)
    (h : s.table.Carry list.listId bundle.names direction) (info : InterfaceInfo) :
    let r := opsClsPdApply uuidHash L s (some list) (some bundle) info direction
    let new := slots list.listId bundle.names direction
    r.state.table = s.table ∪ new ∧ decide (r.rc = 0) = !decide (new ⊆ s.table) := by
  cases hlookup : aclLookupByUuid uuidHash s list.listId with
  | some a =>
    rw [opsClsPdApply_known hlookup]
    exact table_applyToBundle H L ⟨a, aclLookupByUuid_eq_some H hlookup⟩ h info
  | none =>
    rw [opsClsPdApply_new hlookup (hfits hlookup)]
    exact table_applyToBundle (H.aclCreate L hlookup) L
      ⟨list, (mem_acls_aclCreate L list).mpr (.inl rfl), rfl⟩ h info

theorem table_opsClsPdRemove (H : StoreInv uuidHash s)
    (h : s.table.Carry listId bundle.names direction) (hhas : s.table.Has listId) :
    let r := opsClsPdRemove uuidHash s listId (some bundle) direction
    r.state.table = s.table \ slots listId bundle.names direction ∧ r.rc = 0 := by
  obtain ⟨a, hlookup⟩ := Option.ne_none_iff_exists'.mp (hhas.lookup_ne_none H)
  rw [opsClsPdRemove_known hlookup]
  refine ⟨?_, rfl⟩
  refine RemovesExactly.table_eq ((removesExactly_iff_findsOwn H fun b => ?_).mpr (h.findsOwn H))
  rw [mem_bindings_foldl_removePort H bundle.ports_nodup, Bundle.names]
  simp only [List.forall_mem_map]

/-- After a removal its ports carry nothing. -/
theorem Table.Carry.sdiff {t : Table} {names : List String} (h : t.Carry listId names direction)
    (listId' : Uuid) (direction' : Direction) :
    (t \ slots listId names direction).Carry listId' names direction' := by
  intro k hk hname
  obtain ⟨hmem, hother⟩ := Finset.mem_sdiff.mp hk
  obtain ⟨hid, hdir⟩ := h k hmem hname
  exact absurd (mem_slots.mpr ⟨hid, hdir, hname⟩) hother

theorem table_lagUpdateMember (H : StoreInv uuidHash s) (L : Layouts) (bundleName : String)
    {port : BundlePort} (h : s.table.Carry list.listId [port.name] direction)
    (action : LagUpdateAction) (info : InterfaceInfo) :
    (lagUpdateMember uuidHash L s list bundleName port action info direction).table =
      match action with
      | .memberIntfAdd => s.table ∪ slots list.listId [port.name] direction
      | .memberIntfDel => s.table \ slots list.listId [port.name] direction := by
  cases action with
  | memberIntfAdd =>
    have hguard := h.portAlreadyBound_iff H List.mem_cons_self
    rw [lagUpdateMember_add]
    refine AppliesExactly.table_eq fun k => ?_
    rw [key_mem_applyPort]
    simp only [List.mem_singleton, exists_eq_left]
    constructor
    · exact Or.imp_right And.right
    · rintro (hk | rfl)
      · exact .inl hk
      · cases hbound : portAlreadyBound uuidHash s list.listId port.name direction with
        | true => exact .inl (mem_table.mp (hguard.mp hbound))
        | false => exact .inr ⟨rfl, rfl⟩
  | memberIntfDel =>
    refine RemovesExactly.table_eq ((removesExactly_iff_findsOwn H fun b => ?_).mpr (h.findsOwn H))
    rw [lagUpdateMember, mem_bindings_removeBinding H]
    simp only [List.forall_mem_singleton]

theorem table_opsClsPdLagUpdate (H : StoreInv uuidHash s) (L : Layouts) {ofpPort : ℕ}
    (h : s.table.Carry list.listId (bundle.member ofpPort) direction) (hhas : s.table.Has list.listId)
    (action : LagUpdateAction) (info : InterfaceInfo) :
    let r := opsClsPdLagUpdate uuidHash L s (some list) (some bundle) ofpPort action info direction
    let c := Call.lagUpdate (some list) (some bundle) ofpPort action info direction
    r.state.table = (s.table.call c).1 ∧ decide (r.rc = 0) = (s.table.call c).2 := by
  obtain ⟨a, hlookup⟩ := Option.ne_none_iff_exists'.mp (hhas.lookup_ne_none H)
  by_cases hrefused : direction = .egress ∧ action = .memberIntfAdd ∧ aclListIsRollbackTestList list
  · obtain ⟨rfl, rfl, hrollback⟩ := hrefused
    simp [opsClsPdLagUpdate, Table.call, hrollback]
  simp only [opsClsPdLagUpdate, if_neg hrefused, hlookup]
  cases hport : bundle.ports.find? (·.ofpPort == ofpPort) with
  | none =>
    have hmember : bundle.member ofpPort = [] := by rw [Bundle.member, hport]; rfl
    have hslots : slots list.listId [] direction = ∅ := rfl
    cases action with
    | memberIntfAdd =>
      simp only [Table.call, hmember, hslots, Finset.union_empty]
      split
      · exact ⟨rfl, rfl⟩
      · exact ⟨rfl, rfl⟩
    | memberIntfDel =>
      simp only [Table.call, hmember, hslots, Finset.sdiff_empty]
      exact ⟨trivial, rfl⟩
  | some port =>
    have hmember : bundle.member ofpPort = [port.name] := by rw [Bundle.member, hport]; rfl
    rw [hmember] at h
    have htable := table_lagUpdateMember H L bundle.name h action info
    cases action with
    | memberIntfAdd =>
      have hrollback : ¬ (direction = .egress ∧ aclListIsRollbackTestList list) :=
        fun h => hrefused ⟨h.1, rfl, h.2⟩
      simp only [Table.call, if_neg hrollback, hmember]
      exact ⟨htable, rfl⟩
    | memberIntfDel =>
      simp only [Table.call, hmember]
      exact ⟨htable, rfl⟩

theorem table_opsClsPdListUpdate (L : Layouts) :
    (opsClsPdListUpdate uuidHash L s list).state.table = s.table := by
  simp only [opsClsPdListUpdate, aclCreateOrUpdateEntry]
  split
  · rfl
  · rfl

/-- An orderly call does to the store what it does to the table, and is answered alike. -/
theorem table_call (H : StoreInv uuidHash s) (hroom : Room ids size)
    (hs : ∀ a ∈ s.acls, Sized ids size a) (L : Layouts) {c : Call}
    (hc : ∀ list ∈ c.brought, Sized ids size list) (horderly : s.table.Orderly c) :
    (call uuidHash L s c).state.table = (s.table.call c).1 ∧
      decide ((call uuidHash L s c).rc = 0) = (s.table.call c).2 := by
  cases c with
  | apply list bundle info direction =>
    cases list with
    | none => exact ⟨rfl, rfl⟩
    | some list =>
      have hfits := hroom.fits H hs (hc list rfl)
      cases bundle with
      | some bundle => exact table_opsClsPdApply H L hfits horderly info
      | none =>
        cases hlookup : aclLookupByUuid uuidHash s list.listId with
        | some a =>
          simp only [call, opsClsPdApply_known hlookup]
          exact ⟨rfl, rfl⟩
        | none =>
          simp only [call, opsClsPdApply_new hlookup (hfits hlookup)]
          exact ⟨rfl, rfl⟩
  | remove listId bundle direction =>
    cases bundle with
    | none =>
      simp only [call, opsClsPdRemove_failed (.inr rfl)]
      exact ⟨rfl, rfl⟩
    | some bundle =>
      obtain ⟨htable, hrc⟩ := table_opsClsPdRemove H horderly.1 horderly.2
      exact ⟨htable, decide_eq_true hrc⟩
  | lagUpdate list bundle ofpPort action info direction =>
    cases list with
    | none => exact ⟨rfl, rfl⟩
    | some list =>
      cases bundle with
      | some bundle => exact table_opsClsPdLagUpdate H L horderly.1 horderly.2 action info
      | none =>
        simp only [call, opsClsPdLagUpdate]
        split
        · exact ⟨rfl, rfl⟩
        · split
          · exact ⟨rfl, rfl⟩
          · exact ⟨rfl, rfl⟩
  | replace orig list bundle info direction =>
    cases bundle with
    | none =>
      have hfailed : call uuidHash L s (.replace orig list none info direction) = ⟨s, -1, none⟩ := by
        simp only [call, opsClsPdReplace, opsClsPdRemove_failed (.inr rfl)]
        rfl
      rw [hfailed]
      exact ⟨rfl, rfl⟩
    | some bundle =>
      obtain ⟨hcarry, hhas⟩ := horderly
      obtain ⟨htable, hrc⟩ := table_opsClsPdRemove H hcarry hhas
      have H' := H.opsClsPdRemove orig (some bundle) direction
      have hs' : ∀ a ∈ (opsClsPdRemove uuidHash s orig (some bundle) direction).state.acls,
          Sized ids size a := fun a ha => hs a (mem_acls_of_opsClsPdRemove H _ _ _ ha)
      have hcarry' := hcarry.sdiff list.listId direction
      rw [← htable] at hcarry'
      have hreplace : call uuidHash L s (.replace orig list (some bundle) info direction) =
          opsClsPdApply uuidHash L (opsClsPdRemove uuidHash s orig (some bundle) direction).state
            (some list) (some bundle) info direction := by
        simp only [call, opsClsPdReplace]
        exact if_neg (not_not.mpr hrc)
      rw [hreplace]
      have happly := table_opsClsPdApply H' L (hroom.fits H' hs' (hc list rfl)) hcarry' info
      rw [htable] at happly
      exact happly
  | listUpdate list => exact ⟨table_opsClsPdListUpdate L, rfl⟩

/-- An orderly run does to the store what it does to the table. -/
theorem table_foldl_callStep (H : StoreInv uuidHash s) (hroom : Room ids size)
    (hs : ∀ a ∈ s.acls, Sized ids size a) {cs : List (Layouts × Call)}
    (hsized : ∀ c ∈ cs, ∀ list ∈ c.2.brought, Sized ids size list)
    (horderly : Along Table.step Table.Orderly s.table (cs.map (·.2))) :
    (cs.foldl (callStep uuidHash) s).table = (cs.map (·.2)).foldl Table.step s.table ∧
      answers uuidHash s cs = Table.answers s.table (cs.map (·.2)) := by
  induction cs generalizing s with
  | nil => exact ⟨rfl, rfl⟩
  | cons c cs ih =>
    obtain ⟨hc, hcs⟩ := List.forall_mem_cons.mp hsized
    obtain ⟨hfirst, hrest⟩ := horderly
    obtain ⟨htable, hanswer⟩ := table_call H hroom hs c.1 hc hfirst
    have hstep : (callStep uuidHash s c).table = s.table.step c.2 := htable
    have hrest : Along Table.step Table.Orderly (s.table.step c.2) (cs.map (·.2)) := hrest
    rw [← hstep] at hrest
    have H' : StoreInv uuidHash (callStep uuidHash s c) := H.call c.1 c.2
    obtain ⟨htables, hanswers⟩ := ih H' (sized_call H hs c.1 hc) hcs hrest
    rw [hstep] at htables hanswers
    exact ⟨htables, List.cons_eq_cons.mpr ⟨hanswer, hanswers⟩⟩

end Calls

/-- Whatever the hash function and the arrangements of the maps, an orderly run of calls with lists
that together fit leaves in the store the bindings of the plain table, and is answered alike. -/
theorem classifier_refines_table (uuidHash : Uuid → ℕ) {ids : Finset Uuid} {size : Uuid → ℕ}
    (hroom : Room ids size) {cs : List (Layouts × Call)}
    (hsized : ∀ c ∈ cs, ∀ list ∈ c.2.brought, Sized ids size list)
    (horderly : Along Table.step Table.Orderly ∅ (cs.map (·.2))) :
    (cs.foldl (callStep uuidHash) .empty).table = (cs.map (·.2)).foldl Table.step ∅ ∧
      answers uuidHash .empty cs = Table.answers ∅ (cs.map (·.2)) := by
  refine table_foldl_callStep .empty hroom ?_ hsized horderly
  intro a ha
  cases ha

/-- Two lists on different ports, of which one then replaces the other. -/
def twoListCalls : List (Layouts × Call) :=
  [.apply (some (sampleList 1)) (some sampleBundle) [] .ingress,
    .apply (some (sampleList 2)) (some otherBundle) [] .ingress, .listUpdate (sampleList 1),
    .replace 1 (sampleList 2) (some sampleBundle) [] .ingress,
    .remove 2 (some otherBundle) .ingress].map (⟨.pushFront, .pushFront⟩, ·)

/-- All ids hash alike. -/
theorem classifier_refines_table_of_collision :
    (twoListCalls.foldl (callStep fun _ => 0) .empty).table = {(2, "1", .ingress)} ∧
      answers (fun _ => 0) .empty twoListCalls = [true, true, true, true, true] := by
  have hroom : Room {1, 2} fun _ => 1 := ⟨fun _ _ => Nat.one_pos, by decide +kernel⟩
  have hsized : ∀ c ∈ twoListCalls, ∀ list ∈ c.2.brought, Sized {1, 2} (fun _ => 1) list := by
    decide +kernel
  have horderly : Along Table.step Table.Orderly ∅ (twoListCalls.map (·.2)) := by decide +kernel
  obtain ⟨htable, hanswers⟩ := classifier_refines_table (fun _ => 0) hroom hsized horderly
  exact ⟨htable.trans (by decide +kernel), hanswers.trans (by decide +kernel)⟩

end ContainerPlugin.Classifier
