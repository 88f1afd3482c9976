import ContainerPlugin.Classifier.Failures

/-!
# Whose hit counts are read and cleared

The two walks over the bucket of a list compare interface names only. `ops_cls_pd_statistics_clear`
zeroes all bindings with the name of a port of the bundle, `ops_cls_pd_statistics_get` counts and
returns the first of these. They concern the list and direction asked for exactly when the bucket
holds nothing else that matters on these ports.
-/

namespace ContainerPlugin.Classifier

variable {uuidHash : Uuid → ℕ} {s : State}

/-- A binding of the list in the direction on one of the interfaces. -/
def Own (listId : Uuid) (direction : Direction) (names : List String) (b : AclPortBinding) :
    Prop :=
  b.listId = listId ∧ b.direction = direction ∧ b.interfaceName ∈ names

/-- Nothing has been counted, or everything cleared. -/
def AclPortBinding.Zero (b : AclPortBinding) : Prop := ∀ idx, (b.stats idx).hitcounts = 0

/-- The walks over the bucket of the list meet the binding. -/
def Met (uuidHash : Uuid → ℕ) (s : State) (listId : Uuid) (names : List String)
    (b : AclPortBinding) : Prop :=
  b ∈ s.allPortApplications.bucket (uuidHash listId) ∧ b.interfaceName ∈ names

/-! ## Clear -/

theorem clear_eq_self {b : AclPortBinding} (h : b.Zero) : b.clear = b := by
  have hstats : (fun idx => { b.stats idx with hitcounts := 0 }) = b.stats := by
    funext idx
    rw [← h idx]
  unfold AclPortBinding.clear
  rw [hstats]

theorem clear_zero (b : AclPortBinding) : b.clear.Zero := fun _ => rfl

theorem clear_clear (b : AclPortBinding) : b.clear.clear = b.clear := clear_eq_self (clear_zero b)

/-- What the whole loop does to a binding. -/
def clearedBy (uuidHash : Uuid → ℕ) (mask : ℕ) (listId : Uuid) (names : List String)
    (b : AclPortBinding) : AclPortBinding :=
  if (uuidHash b.listId &&& mask == uuidHash listId &&& mask) && names.contains b.interfaceName then
    b.clear
  else b

theorem clearedBy_cons (mask : ℕ) (listId : Uuid) (name : String) (names : List String)
    (b : AclPortBinding) :
    clearedBy uuidHash mask listId names
        (if uuidHash b.listId &&& mask == uuidHash listId &&& mask then clearNamed name b else b) =
      clearedBy uuidHash mask listId (name :: names) b := by
  cases hbits : uuidHash b.listId &&& mask == uuidHash listId &&& mask with
  | false => simp only [clearedBy, hbits, Bool.false_and, Bool.false_eq_true, if_false]
  | true =>
    cases hname : b.interfaceName == name with
    | false =>
      simp only [clearedBy, clearNamed, hbits, hname, Bool.true_and, Bool.false_eq_true, if_false,
        if_true, List.contains_cons, Bool.false_or]
    | true =>
      have hbits' : (uuidHash b.clear.listId &&& mask == uuidHash listId &&& mask) = true := hbits
      simp only [clearedBy, clearNamed, hbits, hbits', hname, Bool.true_and, if_true,
        List.contains_cons, Bool.true_or, clear_clear, ite_self]

theorem bindings_foldl_clearPort (listId : Uuid) (ports : List BundlePort) (st : State × Bool)
    (H : StoreInv uuidHash st.1) :
    (ports.foldl (clearPort uuidHash listId) st).1.bindings = st.1.bindings.map
      (clearedBy uuidHash st.1.allPortApplications.mask listId (ports.map (·.name))) := by
  induction ports generalizing st with
  | nil =>
    have hid : clearedBy uuidHash st.1.allPortApplications.mask listId [] = id := by
      funext b
      simp only [clearedBy, List.contains_nil, Bool.and_false, Bool.false_eq_true, if_false, id_eq]
    rw [List.map_nil, hid, List.map_id]
    rfl
  | cons port ports ih =>
    have hfirst : (clearPort uuidHash listId st port).1.bindings = _ :=
      Hmap.values_mapInBucket H.bindingsHashed
    rw [List.foldl_cons, ih _ (H.of_sameKeys (sameKeys_clearPort listId st port)), hfirst,
      List.map_map, List.map_cons]
    apply List.map_congr_left
    intro b _
    exact clearedBy_cons _ listId port.name (ports.map (·.name)) b

theorem any_map_clearNamed (l : List AclPortBinding) (name name' : String) :
    (l.map (clearNamed name)).any (·.interfaceName == name') =
      l.any (·.interfaceName == name') := by
  have hname : ∀ b, (clearNamed name b).interfaceName = b.interfaceName :=
    fun b => congrArg (·.2.1) (key_clearNamed name b)
  rw [List.any_map]
  congr 1
  funext b
  simp only [Function.comp_apply, hname]

/-- `port_found`: some port has its name in the bucket. -/
theorem flag_foldl_clearPort (listId : Uuid) (ports : List BundlePort) (st : State × Bool) :
    (ports.foldl (clearPort uuidHash listId) st).2 = (st.2 || ports.any fun port =>
      (st.1.allPortApplications.bucket (uuidHash listId)).any (·.interfaceName == port.name)) := by
  induction ports generalizing st with
  | nil => rw [List.any_nil, Bool.or_false]; rfl
  | cons port ports ih =>
    have hbucket : (clearPort uuidHash listId st port).1.allPortApplications.bucket
        (uuidHash listId) = _ := Hmap.bucket_mapInBucket
    rw [List.foldl_cons, ih, hbucket]
    simp only [any_map_clearNamed, clearPort, List.any_cons, Bool.or_assoc]

theorem boundPort_isSome_iff {listId : Uuid} {bundle : Bundle} :
    (boundPort uuidHash s listId bundle).isSome = bundle.ports.any fun port =>
      (s.allPortApplications.bucket (uuidHash listId)).any (·.interfaceName == port.name) := by
  rw [boundPort, List.isSome_findSome?]
  congr 1
  funext port
  rw [foundBinding, List.isSome_find?]

/-- A clear does nothing, or it zeroes what its walks meet and reports whether there was any. -/
theorem opsClsPdStatisticsClear_cases (H : StoreInv uuidHash s) (listId : Uuid)
    (bundle : Option Bundle) (direction : Direction) :
    let r := opsClsPdStatisticsClear uuidHash s listId bundle direction
    ((aclLookupByUuid uuidHash s listId = none ∨ bundle = none) ∧ r.rc = -1 ∧ r.state = s) ∨
    ∃ bdl, aclLookupByUuid uuidHash s listId ≠ none ∧ bundle = some bdl ∧
      (r.rc = 0 ↔ (boundPort uuidHash s listId bdl).isSome = true) ∧
      r.state = (bdl.ports.foldl (clearPort uuidHash listId) (s, false)).1 ∧
      r.state.bindings = s.bindings.map (clearedBy uuidHash s.allPortApplications.mask listId
        (bdl.ports.map (·.name))) := by
  cases bundle with
  | none =>
    cases hlookup : aclLookupByUuid uuidHash s listId with
    | none =>
      simp only [opsClsPdStatisticsClear, hlookup]
      exact .inl ⟨.inl trivial, trivial, trivial⟩
    | some a =>
      simp only [opsClsPdStatisticsClear, hlookup]
      exact .inl ⟨.inr trivial, trivial, trivial⟩
  | some bdl =>
    cases hlookup : aclLookupByUuid uuidHash s listId with
    | none =>
      simp only [opsClsPdStatisticsClear, hlookup]
      exact .inl ⟨.inl trivial, trivial, trivial⟩
    | some a =>
      have hflag : (bdl.ports.foldl (clearPort uuidHash listId) (s, false)).2 =
          (boundPort uuidHash s listId bdl).isSome := by
        rw [flag_foldl_clearPort, boundPort_isSome_iff, Bool.false_or]
      have hbindings : (bdl.ports.foldl (clearPort uuidHash listId) (s, false)).1.bindings = _ :=
        bindings_foldl_clearPort listId bdl.ports (s, false) H
      refine .inr ⟨bdl, nofun, rfl, ?_⟩
      simp only [opsClsPdStatisticsClear, hlookup, hflag]
      split
      · rename_i hfound
        exact ⟨iff_of_true rfl hfound, rfl, hbindings⟩
      · rename_i hnone
        exact ⟨iff_of_false (show (-1 : ℤ) ≠ 0 by decide) hnone, rfl, hbindings⟩

theorem met_iff (H : StoreInv uuidHash s) {listId : Uuid} {names : List String}
    {b : AclPortBinding} (hb : b ∈ s.bindings) :
    Met uuidHash s listId names b ↔
      ((uuidHash b.listId &&& s.allPortApplications.mask ==
        uuidHash listId &&& s.allPortApplications.mask) && names.contains b.interfaceName) =
          true := by
  rw [Met, Hmap.mem_bucket_iff H.bindingsHashed, Bool.and_eq_true, beq_iff_eq,
    List.contains_iff_mem]
  exact and_congr_left' (and_iff_right hb)

theorem clearedBy_of_met (H : StoreInv uuidHash s) {listId : Uuid} {names : List String}
    {b : AclPortBinding} (h : Met uuidHash s listId names b) :
    clearedBy uuidHash s.allPortApplications.mask listId names b = b.clear :=
  if_pos ((met_iff H ((Hmap.mem_bucket_iff H.bindingsHashed).1 h.1).1).1 h)

theorem clearedBy_of_not_met (H : StoreInv uuidHash s) {listId : Uuid} {names : List String}
    {b : AclPortBinding} (hb : b ∈ s.bindings) (h : ¬ Met uuidHash s listId names b) :
    clearedBy uuidHash s.allPortApplications.mask listId names b = b :=
  if_neg fun hmet => h ((met_iff H hb).2 hmet)

theorem Own.met (H : StoreInv uuidHash s) {listId : Uuid} {direction : Direction}
    {names : List String} {b : AclPortBinding} (h : Own listId direction names b)
    (hb : b ∈ s.bindings) : Met uuidHash s listId names b :=
  ⟨Hmap.mem_bucket_of_hash H.bindingsHashed hb (congrArg uuidHash h.1), h.2.2⟩

theorem key_clearedBy (mask : ℕ) (listId : Uuid) (names : List String) (b : AclPortBinding) :
    (clearedBy uuidHash mask listId names b).key = b.key := by
  unfold clearedBy
  split
  · rfl
  · rfl

/-! ## Only the binding asked for -/

/-- The names of the ports of the bundle, if there is one. -/
def interfaceNames (bundle : Option Bundle) : List String :=
  bundle.elim [] fun b => b.ports.map (·.name)

/-- A clear leaves all bindings but those asked for as they are, and zeroes these if it returns 0. -/
structure ClearsOwn (uuidHash : Uuid → ℕ) (s : State) (listId : Uuid) (bundle : Option Bundle)
    (direction : Direction) (r : Result) : Prop where
  keys : r.state.bindings.map (·.key) = s.bindings.map (·.key)
  others : ∀ b ∈ s.bindings, ¬ Own listId direction (interfaceNames bundle) b →
    b ∈ r.state.bindings
  zeroed : r.rc = 0 → ∀ b ∈ r.state.bindings, Own listId direction (interfaceNames bundle) b →
    b.Zero

/-- A get that returns 0 has counted one of the bindings asked for, returned the counts of this one
and left all other bindings alone. -/
def GetsOwn (s : State) (listId : Uuid) (bundle : Option Bundle) (direction : Direction)
    (statistics : Option (ℕ → Statistics)) (numEntries : ℤ) (random : ℕ → UInt64)
    (r : StatisticsResult) : Prop :=
  r.rc = 0 → ∃ b ∈ s.bindings, Own listId direction (interfaceNames bundle) b ∧
    ∃ out buffers, statistics = some out ∧ Counted random ⟨b.stats, out⟩ buffers numEntries.toNat ∧
      r.statistics = some buffers.statistics ∧
      ∀ c, c ∈ r.state.bindings ↔ c = { b with stats := buffers.stats } ∨ (c ∈ s.bindings ∧ c ≠ b)

/-- The two operations touch only bindings of the list in the direction on ports of the bundle. -/
structure TouchesOwn (uuidHash : Uuid → ℕ) (s : State) (listId : Uuid) (bundle : Option Bundle)
    (direction : Direction) : Prop where
  clear : ClearsOwn uuidHash s listId bundle direction
    (opsClsPdStatisticsClear uuidHash s listId bundle direction)
  get : ∀ statistics numEntries random r,
    opsClsPdStatisticsGet uuidHash s listId bundle direction statistics numEntries random =
      some r → GetsOwn s listId bundle direction statistics numEntries random r

/-- What the walks meet on the ports of the bundle is asked for or has nothing counted, and what
they meet first is asked for. -/
def MeetsOwn (uuidHash : Uuid → ℕ) (s : State) (listId : Uuid) (bundle : Option Bundle)
    (direction : Direction) : Prop :=
  aclLookupByUuid uuidHash s listId ≠ none → ∀ bdl ∈ bundle,
    (∀ b, Met uuidHash s listId (bdl.ports.map (·.name)) b →
      Own listId direction (bdl.ports.map (·.name)) b ∨ b.Zero) ∧
    ∀ b, boundPort uuidHash s listId bdl = some b → b.listId = listId ∧ b.direction = direction

theorem clearsOwn_iff (H : StoreInv uuidHash s) (listId : Uuid) (bundle : Option Bundle)
    (direction : Direction) :
    ClearsOwn uuidHash s listId bundle direction
        (opsClsPdStatisticsClear uuidHash s listId bundle direction) ↔
      (aclLookupByUuid uuidHash s listId ≠ none → ∀ bdl ∈ bundle,
        ∀ b, Met uuidHash s listId (bdl.ports.map (·.name)) b →
          Own listId direction (bdl.ports.map (·.name)) b ∨ b.Zero) := by
  have hsame : SameKeys s (opsClsPdStatisticsClear uuidHash s listId bundle direction).state :=
    sameKeys_opsClsPdStatisticsClear listId bundle direction
  have H' := H.of_sameKeys hsame
  rcases opsClsPdStatisticsClear_cases H listId bundle direction with
    ⟨hfail, hrc, hstate⟩ | ⟨bdl, hlookup, rfl, hrc, -, hbindings⟩
  · refine iff_of_true ⟨hsame.keys, ?_, ?_⟩ ?_
    · rw [hstate]
      exact fun _ hb _ => hb
    · rw [hrc]
      exact nofun
    · intro hlookup bdl hbdl
      rcases hfail with hfail | rfl
      · exact absurd hfail hlookup
      · cases hbdl
  · constructor
    · rintro hclear - bdl' hbdl b hmet
      obtain rfl := Option.some.inj hbdl
      refine or_iff_not_imp_left.2 fun hother => ?_
      have hb := ((Hmap.mem_bucket_iff H.bindingsHashed).1 hmet.1).1
      have hkept := hclear.others b hb hother
      -- the binding of this key in the new table is the cleared one
      have hcleared : b.clear ∈ (opsClsPdStatisticsClear uuidHash s listId (some bdl)
          direction).state.bindings := by
        rw [hbindings, ← clearedBy_of_met H hmet]
        exact List.mem_map_of_mem hb
      have heq : b = b.clear := List.inj_on_of_nodup_map H'.bindingsNodup hkept hcleared rfl
      rw [heq]
      exact clear_zero b
    · intro hmeets
      refine ⟨hsame.keys, fun b hb hother => ?_, fun _ b hb hown => ?_⟩
      · rw [hbindings]
        refine List.mem_map.2 ⟨b, hb, ?_⟩
        by_cases hmet : Met uuidHash s listId (bdl.ports.map (·.name)) b
        · rw [clearedBy_of_met H hmet]
          exact clear_eq_self ((hmeets hlookup bdl rfl b hmet).resolve_left hother)
        · exact clearedBy_of_not_met H hb hmet
      · rw [hbindings] at hb
        obtain ⟨c, hc, rfl⟩ := List.mem_map.1 hb
        have hkey : (clearedBy uuidHash s.allPortApplications.mask listId
            (bdl.ports.map (·.name)) c).key = c.key := key_clearedBy _ listId _ c
        simp only [AclPortBinding.key, Prod.mk.injEq] at hkey
        have hownc : Own listId direction (bdl.ports.map (·.name)) c :=
          ⟨hkey.1 ▸ hown.1, hkey.2.2 ▸ hown.2.1, hkey.2.1 ▸ hown.2.2⟩
        rw [clearedBy_of_met H (hownc.met H hc)]
        exact clear_zero c

theorem add_random_ne (x : UInt64) : x + 1 % 10 ≠ x := by
  intro h
  have hnat := congrArg UInt64.toNat h
  have hlt := x.toNat_lt
  have hone : (1 % 10 : UInt64).toNat = 1 := by decide
  rw [UInt64.toNat_add, hone] at hnat
  omega

theorem getsOwn_iff (H : StoreInv uuidHash s) (hs : CountsEnabled s) (listId : Uuid)
    (bundle : Option Bundle) (direction : Direction) :
    (∀ statistics numEntries random r,
      opsClsPdStatisticsGet uuidHash s listId bundle direction statistics numEntries random =
        some r → GetsOwn s listId bundle direction statistics numEntries random r) ↔
      (aclLookupByUuid uuidHash s listId ≠ none → ∀ bdl ∈ bundle,
        ∀ b, boundPort uuidHash s listId bdl = some b →
          b.listId = listId ∧ b.direction = direction) := by
  constructor
  · intro hget hlookup bdl hbdl b hbound
    obtain rfl : bundle = some bdl := hbdl
    -- one entry, and one hit is drawn for it
    obtain ⟨buffers, hcounted, hr⟩ := opsClsPdStatisticsGet_found hlookup hbound
      (show 1 ≤ (maxAcePerAcl : ℤ) by decide) direction (fun _ => ⟨true, 0⟩) fun _ => 1
    obtain ⟨hb, hname, hfound⟩ := mem_of_boundPort H hbound
    obtain ⟨c, -, hown, _, _, -, -, -, hafter⟩ := hget _ _ _ _ hr rfl
    by_cases heq : b = c
    · exact heq ▸ ⟨hown.1, hown.2.1⟩
    · -- another binding has been counted, so the one that was met first is unchanged
      have hkept := (hafter b).2 (.inr ⟨hb, heq⟩)
      rw [mem_bindings_updateInBucket H hfound] at hkept
      have hstats : b.stats = buffers.stats :=
        congrArg AclPortBinding.stats (hkept.resolve_right fun h => h.2 rfl)
      have hcount := hcounted.counted ⟨0, by decide⟩ (by decide)
      rw [Statistics.count, if_pos (hs b hb _), ← hstats] at hcount
      exact absurd (congrArg Statistics.hitcounts hcount).symm (add_random_ne _)
  · intro hmeets statistics numEntries random r hr hrc
    rcases opsClsPdStatisticsGet_cases hr with ⟨hrc', -, -⟩ |
      ⟨out, a, bdl, b, buffers, rfl, hlookup, rfl, hbound, hcounted, -, hout, hstate⟩
    · rw [hrc] at hrc'
      exact absurd hrc' (by decide)
    · obtain ⟨hb, hname, hfound⟩ := mem_of_boundPort H hbound
      obtain ⟨hid, hdir⟩ := hmeets (by rw [hlookup]; exact Option.some_ne_none _) bdl rfl b hbound
      refine ⟨b, hb, ⟨hid, hdir, hname⟩, out, buffers, rfl, hcounted, hout, fun c => ?_⟩
      rw [hstate]
      exact mem_bindings_updateInBucket H hfound buffers.stats c

end ContainerPlugin.Classifier
