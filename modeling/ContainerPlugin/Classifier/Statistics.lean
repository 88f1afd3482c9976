import ContainerPlugin.Classifier.Removal

/-!
# Reading the hit counts

`ops_cls_pd_statistics_get` copies the counts of the first binding it finds on a port of the bundle
to the array of its caller. It indexes the `stats` array of the binding with every number below
`num_entries`, an argument; `none` stands for an index past the end of that array.
-/

namespace ContainerPlugin.Classifier

variable {uuidHash : Uuid → ℕ} {s : State}

/-- The counts of a binding and the array of the caller. -/
structure StatisticsBuffers where
  stats : Fin maxAcePerAcl → Statistics
  statistics : ℕ → Statistics

/-- One turn of the loop over the entries; `random` is the number drawn for the entry. -/
def countEntry (random : ℕ → UInt64) (buffers : StatisticsBuffers) (idx : ℕ) :
    Option StatisticsBuffers :=
  if h : idx < maxAcePerAcl then
    let entry := buffers.stats ⟨idx, h⟩
    if entry.statsEnabled then
      let entry := { entry with hitcounts := entry.hitcounts + random idx % 10 }
      some ⟨Function.update buffers.stats ⟨idx, h⟩ entry,
        Function.update buffers.statistics idx entry⟩
    else
      some ⟨buffers.stats, Function.update buffers.statistics idx
        { buffers.statistics idx with statsEnabled := entry.statsEnabled }⟩
  else none

/-- The loop over the entries. A negative `num_entries` makes no turn. -/
def countEntries (random : ℕ → UInt64) (buffers : StatisticsBuffers) (numEntries : ℤ) :
    Option StatisticsBuffers :=
  (List.range numEntries.toNat).foldlM (countEntry random) buffers

structure StatisticsResult where
  state : State
  rc : ℤ
  statistics : Option (ℕ → Statistics)
  status : Option StatusCode

/-- The first binding that the search meets, port by port. -/
def boundPort (uuidHash : Uuid → ℕ) (s : State) (listId : Uuid) (bundle : Bundle) :
    Option AclPortBinding :=
  bundle.ports.findSome? fun port => foundBinding uuidHash s listId port.name

/-- The direction is a parameter of the source function that its body does not read. -/
def opsClsPdStatisticsGet (uuidHash : Uuid → ℕ) (s : State) (listId : Uuid)
    (bundle : Option Bundle) (_direction : Direction) (statistics : Option (ℕ → Statistics))
    (numEntries : ℤ) (random : ℕ → UInt64) : Option StatisticsResult :=
  match statistics with
  | none => some ⟨s, -1, none, none⟩
  | some statistics =>
    match aclLookupByUuid uuidHash s listId, bundle with
    | none, _ | some _, none => some ⟨s, -1, some statistics, none⟩
    | some _, some bundle =>
      match boundPort uuidHash s listId bundle with
      | none => some ⟨s, -1, some statistics, none⟩
      | some b =>
        (countEntries random ⟨b.stats, statistics⟩ numEntries).map fun buffers =>
          ⟨{ s with
              allPortApplications := s.allPortApplications.updateInBucket (uuidHash listId)
                (·.interfaceName == b.interfaceName) fun b => { b with stats := buffers.stats } },
            0, some buffers.statistics, some .success⟩

/-! ## When the array is large enough -/

theorem countEntry_isSome {random : ℕ → UInt64} {buffers : StatisticsBuffers} {idx : ℕ}
    (h : idx < maxAcePerAcl) : (countEntry random buffers idx).isSome := by
  rw [countEntry, dif_pos h]
  simp only
  split
  · rfl
  · rfl

theorem countEntries_isSome {random : ℕ → UInt64} {buffers : StatisticsBuffers} {numEntries : ℤ}
    (h : numEntries ≤ maxAcePerAcl) : (countEntries random buffers numEntries).isSome := by
  have hrange : ∀ idx ∈ List.range numEntries.toNat, idx < maxAcePerAcl := by
    intro idx hidx
    have hlt := List.mem_range.1 hidx
    omega
  rw [countEntries]
  generalize List.range numEntries.toNat = l at hrange
  induction l generalizing buffers with
  | nil => rfl
  | cons idx l ih =>
    have hsome : (countEntry random buffers idx).isSome :=
      countEntry_isSome (hrange idx List.mem_cons_self)
    obtain ⟨buffers', hcount⟩ := Option.isSome_iff_exists.1 hsome
    rw [List.foldlM_cons, hcount]
    exact ih fun idx hidx => hrange idx (List.mem_cons_of_mem _ hidx)

theorem opsClsPdStatisticsGet_isSome {listId : Uuid} {bundle : Option Bundle}
    {direction : Direction} {statistics : Option (ℕ → Statistics)} {numEntries : ℤ}
    {random : ℕ → UInt64} (h : numEntries ≤ maxAcePerAcl) :
    (opsClsPdStatisticsGet uuidHash s listId bundle direction statistics numEntries
      random).isSome := by
  unfold opsClsPdStatisticsGet
  split
  · rfl
  · split
    · rfl
    · rfl
    · split
      · rfl
      · rw [Option.isSome_map]
        exact countEntries_isSome h

end ContainerPlugin.Classifier
