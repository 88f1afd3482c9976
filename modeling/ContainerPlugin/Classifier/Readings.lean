import ContainerPlugin.Classifier.HitCounts

/-!
# Gets after a clear

The binding that a get counts is the first one its walk meets, the bindings that a clear zeroes are
all its walk meets. So the first one is among those cleared, and since counting leaves every name in
its place, it stays the first: a series of gets reads one counter for each entry, from zero on. The
counter is an `uint64_t`.
-/

namespace ContainerPlugin.Classifier

variable {uuidHash : Uuid → ℕ} {s : State}

/-- What may differ between gets for one list, bundle and number of entries: the direction, the array
of the caller and the numbers drawn. -/
structure Reading where
  direction : Direction
  statistics : ℕ → Statistics
  random : ℕ → UInt64

/-- The results of a series of gets. -/
def readings (uuidHash : Uuid → ℕ) (listId : Uuid) (bundle : Option Bundle) (numEntries : ℤ) :
    State → List Reading → Option (List StatisticsResult)
  | _, [] => some []
  | s, c :: cs => do
    let r ← opsClsPdStatisticsGet uuidHash s listId bundle c.direction (some c.statistics)
      numEntries c.random
    let rs ← readings uuidHash listId bundle numEntries r.state cs
    pure (r :: rs)

/-- The count that a get returns for an entry. -/
def StatisticsResult.hitcount (r : StatisticsResult) (idx : ℕ) : UInt64 :=
  r.statistics.elim 0 fun statistics => (statistics idx).hitcounts

/-- What is drawn for an entry in a series of gets. -/
def drawn (cs : List Reading) (idx : ℕ) : List UInt64 := cs.map fun c => c.random idx % 10

/-- The values of a counter that starts at `count`. -/
def counterValues : UInt64 → List UInt64 → List UInt64
  | _, [] => []
  | count, d :: ds => (count + d) :: counterValues (count + d) ds

theorem counterValues_le {ds : List UInt64} (hds : ∀ d ∈ ds, d.toNat ≤ 9) (count : UInt64) {k : ℕ}
    {value : UInt64} (h : (counterValues count ds)[k]? = some value) :
    value.toNat ≤ count.toNat + 9 * (k + 1) := by
  induction ds generalizing count k with
  | nil => cases h
  | cons d ds ih =>
    have hd := hds d List.mem_cons_self
    have hsum : (count + d).toNat ≤ count.toNat + d.toNat := by
      rw [UInt64.toNat_add]
      exact Nat.mod_le _ _
    cases k with
    | zero =>
      cases h
      omega
    | succ k =>
      have hrest := ih (fun d hd => hds d (List.mem_cons_of_mem _ hd)) (count + d) h
      omega

/-- The counter never goes down exactly if it does not overflow. -/
theorem isChain_counterValues_iff (ds : List UInt64) (count : UInt64) :
    (count :: counterValues count ds).IsChain (· ≤ ·) ↔
      count.toNat + (ds.map UInt64.toNat).sum < 2 ^ 64 := by
  induction ds generalizing count with
  | nil =>
    refine iff_of_true (.singleton count) ?_
    have hlt := count.toNat_lt
    rwa [List.map_nil, List.sum_nil, Nat.add_zero]
  | cons d ds ih =>
    have hcount := count.toNat_lt
    have hd := d.toNat_lt
    have hadd := UInt64.toNat_add count d
    rw [counterValues, List.isChain_cons_cons, ih, UInt64.le_iff_toNat_le, List.map_cons,
      List.sum_cons, hadd]
    omega

/-- One get: it returns 0, counts the binding that is met first, and that binding stays first. -/
theorem reading_step (H : StoreInv uuidHash s) (hs : CountsEnabled s) {listId : Uuid}
    {bundle : Bundle} {b : AclPortBinding} {numEntries : ℤ} (hnum : numEntries ≤ maxAcePerAcl)
    (hlookup : aclLookupByUuid uuidHash s listId ≠ none)
    (hbound : boundPort uuidHash s listId bundle = some b) (c : Reading) :
    ∃ r b', opsClsPdStatisticsGet uuidHash s listId (some bundle) c.direction (some c.statistics)
        numEntries c.random = some r ∧ r.rc = 0 ∧
      StoreInv uuidHash r.state ∧ CountsEnabled r.state ∧
      aclLookupByUuid uuidHash r.state listId ≠ none ∧
      boundPort uuidHash r.state listId bundle = some b' ∧
      ∀ idx : Fin maxAcePerAcl, (idx : ℤ) < numEntries →
        (b'.stats idx).hitcounts = (b.stats idx).hitcounts + c.random idx % 10 ∧
        r.hitcount idx = (b'.stats idx).hitcounts := by
  obtain ⟨hb, -, -⟩ := mem_of_boundPort H hbound
  obtain ⟨buffers, hcounted, hr⟩ := opsClsPdStatisticsGet_found hlookup hbound hnum c.direction
    c.statistics c.random
  have hinv := invariants_serve (r := .statisticsGet listId (some bundle) c.direction
    (some c.statistics) numEntries c.random) (Option.map_eq_some_iff.2 ⟨_, hr, rfl⟩) ⟨H, hs⟩
  refine ⟨_, { b with stats := buffers.stats }, hr, rfl, hinv.1, hinv.2, hlookup, ?_, ?_⟩
  · have hfind : ∀ name, foundBinding uuidHash { s with
        allPortApplications := s.allPortApplications.updateInBucket (uuidHash listId)
          (·.interfaceName == b.interfaceName) fun b => { b with stats := buffers.stats } }
        listId name = (foundBinding uuidHash s listId name).map fun a =>
          if a.interfaceName == b.interfaceName then { a with stats := buffers.stats } else a := by
      intro name
      apply Hmap.find?_bucket_updateInBucket
      · exact fun _ => rfl
      · by_cases hname : b.interfaceName = name
        · exact .inl fun a ha => hname ▸ ha
        · refine .inr fun a ha => beq_false_of_ne fun heq => hname ?_
          rw [← beq_iff_eq.1 ha, heq]
    rw [boundPort] at hbound ⊢
    simp only [hfind]
    have hmap := congrArg (Option.map fun a : AclPortBinding =>
      if a.interfaceName == b.interfaceName then { a with stats := buffers.stats } else a) hbound
    rw [List.map_findSome?, Option.map_some, if_pos (beq_self_eq_true _)] at hmap
    exact hmap
  · intro idx hidx
    have hlt : idx.val < numEntries.toNat := by omega
    have hcount := hcounted.counted idx hlt
    rw [Statistics.count, if_pos (hs b hb idx)] at hcount
    exact ⟨congrArg Statistics.hitcounts hcount,
      congrArg Statistics.hitcounts (hcounted.returned idx hlt (hs b hb idx))⟩

/-- A series of gets: all return 0, and what they return for an entry are the values of one
counter. -/
theorem readings_values (H : StoreInv uuidHash s) (hs : CountsEnabled s) {listId : Uuid}
    {bundle : Bundle} {b : AclPortBinding} {numEntries : ℤ} (hnum : numEntries ≤ maxAcePerAcl)
    (hlookup : aclLookupByUuid uuidHash s listId ≠ none)
    (hbound : boundPort uuidHash s listId bundle = some b) (cs : List Reading) :
    ∃ rs, readings uuidHash listId (some bundle) numEntries s cs = some rs ∧
      rs.length = cs.length ∧ (∀ r ∈ rs, r.rc = 0) ∧
      ∀ idx : Fin maxAcePerAcl, (idx : ℤ) < numEntries →
        rs.map (·.hitcount idx) = counterValues (b.stats idx).hitcounts (drawn cs idx) := by
  induction cs generalizing s b with
  | nil => exact ⟨[], rfl, rfl, nofun, fun _ _ => rfl⟩
  | cons c cs ih =>
    obtain ⟨r, b', hr, hrc, H', hs', hlookup', hbound', hcount⟩ :=
      reading_step H hs hnum hlookup hbound c
    obtain ⟨rs, hrs, hlen, hrcs, hvalues⟩ := ih H' hs' hlookup' hbound'
    refine ⟨r :: rs, ?_, congrArg (· + 1) hlen, List.forall_mem_cons.2 ⟨hrc, hrcs⟩, ?_⟩
    · rw [readings, hr]
      simp only [Option.bind_eq_bind, Option.bind_some, hrs]
      rfl
    · intro idx hidx
      obtain ⟨hadd, hret⟩ := hcount idx hidx
      rw [List.map_cons, hvalues idx hidx, hret, hadd]
      rfl

theorem SameKeys.any_bucket {s' : State} (h : SameKeys s s') (k : ℕ) (name : String) :
    (s'.allPortApplications.bucket k).any (·.interfaceName == name) =
      (s.allPortApplications.bucket k).any (·.interfaceName == name) := by
  have hkeys : ∀ m : Hmap AclPortBinding, (m.bucket k).any (·.interfaceName == name) =
      (m.nodes.map fun n => (n.hash, n.value.key)).any fun key =>
        (key.1 &&& m.mask == k &&& m.mask) && key.2.2.1 == name := by
    intro m
    rw [Hmap.bucket, List.any_map, List.any_filter, List.any_map]
    rfl
  rw [hkeys, hkeys, h.nodes, h.mask]

/-- What a get meets first after a clear that returned 0 has been cleared. -/
theorem boundPort_of_clear (H : StoreInv uuidHash s) {listId : Uuid} {bundle : Option Bundle}
    {direction : Direction}
    (hrc : (opsClsPdStatisticsClear uuidHash s listId bundle direction).rc = 0) :
    let s' := (opsClsPdStatisticsClear uuidHash s listId bundle direction).state
    ∃ bdl b, bundle = some bdl ∧ aclLookupByUuid uuidHash s' listId ≠ none ∧
      boundPort uuidHash s' listId bdl = some b ∧ b.Zero := by
  have hsame : SameKeys s (opsClsPdStatisticsClear uuidHash s listId bundle direction).state :=
    sameKeys_opsClsPdStatisticsClear listId bundle direction
  have H' := H.of_sameKeys hsame
  rcases opsClsPdStatisticsClear_cases H listId bundle direction with
    ⟨-, hrc', -⟩ | ⟨bdl, hlookup, rfl, hfound, -, hbindings⟩
  · rw [hrc] at hrc'
    exact absurd hrc' (by decide)
  · have hsome := hfound.1 hrc
    rw [boundPort_isSome_iff] at hsome
    simp only [← hsame.any_bucket] at hsome
    rw [← boundPort_isSome_iff] at hsome
    obtain ⟨b, hbound⟩ := Option.isSome_iff_exists.1 hsome
    obtain ⟨hb, hname, hfirst⟩ := mem_of_boundPort H' hbound
    have hbits := ((Hmap.mem_bucket_iff H'.bindingsHashed).1 (List.mem_of_find?_eq_some hfirst)).2
    refine ⟨bdl, b, rfl, ?_, hbound, ?_⟩
    · rw [hsame.aclLookupByUuid]
      exact hlookup
    · rw [hbindings] at hb
      obtain ⟨c, hc, rfl⟩ := List.mem_map.1 hb
      have hkey : (clearedBy uuidHash s.allPortApplications.mask listId
          (bdl.ports.map (·.name)) c).key = c.key := key_clearedBy _ listId _ c
      simp only [AclPortBinding.key, Prod.mk.injEq] at hkey
      rw [hkey.1, hsame.mask] at hbits
      rw [hkey.2.1] at hname
      have hmet : Met uuidHash s listId (bdl.ports.map (·.name)) c :=
        ⟨(Hmap.mem_bucket_iff H.bindingsHashed).2 ⟨hc, hbits⟩, hname⟩
      rw [clearedBy_of_met H hmet]
      exact clear_zero c

theorem drawn_le (cs : List Reading) (idx : ℕ) : ∀ d ∈ drawn cs idx, d.toNat ≤ 9 := by
  intro d hd
  obtain ⟨c, -, rfl⟩ := List.mem_map.1 hd
  have hten : (10 : UInt64).toNat = 10 := by decide
  rw [UInt64.toNat_mod, hten]
  omega

/-- The counter of an entry starts at 0 after a clear. -/
theorem readings_after_clear (hs : Served uuidHash s) {listId : Uuid} {bundle : Option Bundle}
    {direction : Direction} {numEntries : ℤ} (hnum : numEntries ≤ maxAcePerAcl)
    (hrc : (opsClsPdStatisticsClear uuidHash s listId bundle direction).rc = 0)
    (cs : List Reading) :
    ∃ rs, readings uuidHash listId bundle numEntries
        (opsClsPdStatisticsClear uuidHash s listId bundle direction).state cs = some rs ∧
      rs.length = cs.length ∧ (∀ r ∈ rs, r.rc = 0) ∧
      ∀ idx : ℕ, (idx : ℤ) < numEntries →
        rs.map (·.hitcount idx) = counterValues 0 (drawn cs idx) := by
  obtain ⟨H, hen⟩ := hs.invariants
  obtain ⟨bdl, b, rfl, hlookup, hbound, hzero⟩ := boundPort_of_clear H hrc
  obtain ⟨rs, hrs, hlen, hrcs, hvalues⟩ := readings_values
    (H.of_sameKeys (sameKeys_opsClsPdStatisticsClear listId (some bdl) direction))
    (hen.opsClsPdStatisticsClear listId (some bdl) direction) hnum hlookup hbound cs
  refine ⟨rs, hrs, hlen, hrcs, fun idx hidx => ?_⟩
  have hlt : idx < maxAcePerAcl := by omega
  rw [← hzero ⟨idx, hlt⟩]
  exact hvalues ⟨idx, hlt⟩ hidx

theorem isChain_counterValues_zero_iff (ds : List UInt64) :
    (counterValues 0 ds).IsChain (· ≤ ·) ↔ (ds.map UInt64.toNat).sum < 2 ^ 64 := by
  have hchain := isChain_counterValues_iff ds 0
  rw [UInt64.toNat_zero, Nat.zero_add] at hchain
  rw [← hchain]
  cases ds with
  | nil => exact iff_of_true .nil (.singleton 0)
  | cons d ds =>
    rw [counterValues, List.isChain_cons_cons]
    exact (and_iff_right (UInt64.le_iff_toNat_le.2 (Nat.zero_le _))).symm

/-- The gets after a clear that returned 0 all return 0, what the `k`-th of them returns for an entry
is at most `9 * k`, and the counts of an entry never go down exactly if the numbers drawn for it stay
below the range of its `uint64_t` counter. -/
theorem gets_after_clear (hs : Served uuidHash s) {listId : Uuid} {bundle : Option Bundle}
    {direction : Direction} {numEntries : ℤ} (hnum : numEntries ≤ maxAcePerAcl)
    (hrc : (opsClsPdStatisticsClear uuidHash s listId bundle direction).rc = 0)
    (cs : List Reading) :
    ∃ rs, readings uuidHash listId bundle numEntries
        (opsClsPdStatisticsClear uuidHash s listId bundle direction).state cs = some rs ∧
      rs.length = cs.length ∧ (∀ r ∈ rs, r.rc = 0) ∧
      ∀ idx : ℕ, (idx : ℤ) < numEntries →
        (∀ k r, rs[k]? = some r → (r.hitcount idx).toNat ≤ 9 * (k + 1)) ∧
        ((rs.map (·.hitcount idx)).IsChain (· ≤ ·) ↔
          ((drawn cs idx).map UInt64.toNat).sum < 2 ^ 64) := by
  obtain ⟨rs, hrs, hlen, hrcs, hvalues⟩ := readings_after_clear hs hnum hrc cs
  refine ⟨rs, hrs, hlen, hrcs, fun idx hidx => ⟨fun k r hr => ?_, ?_⟩⟩
  · have hk : (counterValues 0 (drawn cs idx))[k]? = some (r.hitcount idx) := by
      rw [← hvalues idx hidx, List.getElem?_map, hr]
      rfl
    have hle := counterValues_le (drawn_le cs idx) 0 hk
    rwa [UInt64.toNat_zero, Nat.zero_add] at hle
  · rw [hvalues idx hidx]
    exact isChain_counterValues_zero_iff (drawn cs idx)

/-- A get that draws 9 for every entry. -/
def drawsNine : Reading := ⟨.ingress, fun _ => ⟨true, 0⟩, fun _ => 9⟩

/-- List 1 is cleared on port `1` and read twice. -/
theorem two_gets_after_clear :
    let s := run BitVec.toNat .empty sampleCalls
    let r := opsClsPdStatisticsClear BitVec.toNat s 1 (some sampleBundle) .ingress
    r.rc = 0 ∧ ∃ rs, readings BitVec.toNat 1 (some sampleBundle) 1 r.state
        [drawsNine, drawsNine] = some rs ∧ rs.length = 2 ∧ (∀ r ∈ rs, r.rc = 0) ∧
      ∀ idx : ℕ, (idx : ℤ) < 1 →
        (∀ k r, rs[k]? = some r → (r.hitcount idx).toNat ≤ 9 * (k + 1)) ∧
        ((rs.map (·.hitcount idx)).IsChain (· ≤ ·) ↔
          ((drawn [drawsNine, drawsNine] idx).map UInt64.toNat).sum < 2 ^ 64) :=
  ⟨rfl, gets_after_clear (served_run sampleCalls) (by decide) rfl [drawsNine, drawsNine]⟩

/-- A counter that is read `2 ^ 61` times with 9 drawn each time overflows. -/
theorem gets_overflow : ¬ ∀ (uuidHash : Uuid → ℕ) (s : State), Served uuidHash s →
    ∀ (listId : Uuid) (bundle : Option Bundle) (direction : Direction) (numEntries : ℤ),
    numEntries ≤ maxAcePerAcl →
    (opsClsPdStatisticsClear uuidHash s listId bundle direction).rc = 0 →
    ∀ cs : List Reading, cs ≠ [] →
    ∃ rs, readings uuidHash listId bundle numEntries
        (opsClsPdStatisticsClear uuidHash s listId bundle direction).state cs = some rs ∧
      rs.length = cs.length ∧ (∀ r ∈ rs, r.rc = 0) ∧
      ∀ idx : ℕ, (idx : ℤ) < numEntries →
        (∀ k r, rs[k]? = some r → (r.hitcount idx).toNat ≤ 9 * (k + 1)) ∧
        (rs.map (·.hitcount idx)).IsChain (· ≤ ·) := by
  intro hall
  obtain ⟨n, hn⟩ : ∃ n : ℕ, n = 2 ^ 61 := ⟨_, rfl⟩
  have hne : List.replicate n drawsNine ≠ [] := by
    rw [ne_eq, List.replicate_eq_nil_iff]
    omega
  have hclear : (opsClsPdStatisticsClear BitVec.toNat (run BitVec.toNat .empty sampleCalls) 1
      (some sampleBundle) .ingress).rc = 0 := rfl
  have hnum : (1 : ℤ) ≤ maxAcePerAcl := by decide
  obtain ⟨rs, hrs, -, -, hcounts⟩ := hall BitVec.toNat _ (served_run sampleCalls) 1
    (some sampleBundle) .ingress 1 hnum hclear _ hne
  obtain ⟨rs', hrs', -, -, hvalues⟩ := readings_after_clear (served_run sampleCalls) hnum hclear
    (List.replicate n drawsNine)
  obtain rfl : rs = rs' := Option.some.inj (hrs.symm.trans hrs')
  have hchain := (hcounts 0 (by decide)).2
  rw [hvalues 0 (by decide), isChain_counterValues_zero_iff, drawn, List.map_replicate,
    List.map_replicate, List.sum_replicate_nat] at hchain
  have hnine : (drawsNine.random 0 % 10).toNat = 9 := by decide
  rw [hnine] at hchain
  omega

end ContainerPlugin.Classifier
