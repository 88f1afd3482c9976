import ContainerPlugin.Stp.KernelBridge

/-!
# The count of ports

`mstp_cist_port_add` returns before it counts a port with an invalid state, and every deletion counts.
So the count of the instance is exact along a run if and only if no port is ever added with an
invalid state.
-/

namespace ContainerPlugin.Stp

open Runs

/-- `nb_ports` is the number of ports. -/
def Plugin.CountExact (s : Plugin) : Prop := s.nbPorts = s.ports.length

/-- No tracked port stays, and a row has a port. -/
def AddsFirst (rows : List PortRow) (ports : List MstpInstancePort) : Prop :=
  (∀ port ∈ ports, firstRow rows port.name = none) ∧ ∃ row ∈ rows, row.port.isSome

instance (rows : List PortRow) (ports : List MstpInstancePort) :
    Decidable (AddsFirst rows ports) := inferInstanceAs (Decidable (_ ∧ _))

/-- A call enables STP on the bridge, once, exactly when it adds the first port to an instance
without ports. -/
def EnablesWithFirst (env : Env) (s : Plugin) (call : Option (List PortRow)) : Prop :=
  (mstpCistUpdate env s call).world.brSets = s.world.brSets +
    match call with
    | none => 0
    | some rows => if AddsFirst rows s.ports then 1 else 0

/-- Every port that the call adds has a valid state. -/
def AddsValid (env : Env) (s : Plugin) : Option (List PortRow) → Prop
  | none => True
  | some rows => ∀ entry ∈ collectPorts rows, entry.1 ∉ s.ports.map (·.name) →
      (getPortStateFromString env entry.2.portState).isSome

instance (env : Env) (s : Plugin) : DecidablePred (AddsValid env s)
  | none => inferInstanceAs (Decidable True)
  | some _ => inferInstanceAs (Decidable (∀ _ ∈ _, _))

/-- How many rows add a port. -/
def added (rows : List PortRow) (ports : List MstpInstancePort) : ℕ :=
  (collectPorts rows).countP fun entry => entry.1 ∉ ports.map (·.name)

section Counts

variable {env : Env} {msti : MstpInstance} {w : World} {rows : List PortRow}

/-! ## The three loops -/

theorem walkSafe_deleteOrRefresh_brSets (sh : Shash) (st : World × ℤ)
    (nodes : List (Hmap.Node MstpInstancePort)) :
    (Hmap.walkSafe (deleteOrRefresh env sh) st nodes).1.1.brSets = st.1.brSets := by
  induction nodes generalizing st with
  | nil => rfl
  | cons n nodes ih =>
    rw [Hmap.walkSafe]
    simp only [ih, deleteOrRefresh]
    cases shashFindData sh n.value.name with
    | none => rfl
    | some row => rfl

theorem length_keptNodes (rows : List PortRow) (nodes : List (Hmap.Node MstpInstancePort)) :
    (keptNodes rows nodes).length + leaving rows (nodes.map (·.value)) = nodes.length := by
  induction nodes with
  | nil => rfl
  | cons n nodes ih =>
    rw [keptNodes, leaving] at ih ⊢
    rw [List.map_cons, List.countP_cons, List.length_cons]
    cases hrow : firstRow rows n.value.name with
    | none =>
      rw [List.filterMap_cons_none (by rw [hrow]; rfl), Option.isNone_none, if_pos rfl]
      omega
    | some row =>
      rw [List.filterMap_cons_some (by rw [hrow]; rfl), Option.isNone_some,
        if_neg Bool.false_ne_true, List.length_cons]
      omega

/-- A new port is counted if its state is valid, and `br_set` is called if it is the first one. -/
theorem CistInv.addIfNew_count (h : CistInv env msti.ports) {entry : String × PortRow}
    (hnew : entry.1 ∉ msti.ports.values.map (·.name)) :
    let st := Stp.addIfNew env (msti, w) entry
    let arrives := Arrives env (msti.ports.values.map (·.name)) entry
    st.1.nbPorts = msti.nbPorts + (if arrives then 1 else 0) ∧
      st.1.ports.values.length = msti.ports.values.length + 1 ∧
      st.2.brSets = w.brSets + if arrives ∧ msti.nbPorts = 0 then 1 else 0 := by
  intro st arrives
  have hentry : st = mstpCistPortAdd env msti w entry.1 entry.2 := h.addIfNew_of_notMem hnew
  have hlength : st.1.ports.values.length = msti.ports.values.length + 1 := by
    rw [hentry, ports_mstpCistPortAdd]
    exact (Hmap.values_insert_perm _).length_eq
  have harrives : arrives ↔ (getPortStateFromString env entry.2.portState).isSome :=
    and_iff_right hnew
  simp only [harrives, hlength, true_and]
  rw [hentry, mstpCistPortAdd]
  cases getPortStateFromString env entry.2.portState with
  | none => exact ⟨(Int.add_zero _).symm, rfl⟩
  | some state =>
    refine ⟨rfl, ?_⟩
    by_cases hnb : msti.nbPorts = 0
    · simp only [hnb, Int.zero_add, if_true]
      split
      · rfl
      · rfl
    · have hcount : ¬ msti.nbPorts + 1 = 1 := by omega
      simp only [hcount, hnb, if_false, ne_eq, not_true_eq_false, and_false]
      rfl

/-- The loop over the rows adds one to the count for every new port in a valid state, and calls
`br_set` when that makes it positive. -/
theorem CistInv.addIfNews_count (h : CistInv env msti.ports) (hcfgs : HasRows rows msti.ports)
    {sh : Shash} (hsh : ShashOf rows sh) :
    let st := sh.foldl (Stp.addIfNew env) (msti, w)
    let arrivals := sh.countP (Arrives env (msti.ports.values.map (·.name)))
    st.1.nbPorts = msti.nbPorts + arrivals ∧
      st.1.ports.values.length = msti.ports.values.length +
        sh.countP (fun entry => entry.1 ∉ msti.ports.values.map (·.name)) ∧
      st.2.brSets = w.brSets +
        if msti.nbPorts ≤ 0 ∧ 0 < msti.nbPorts + arrivals then 1 else 0 := by
  induction sh generalizing msti w with
  | nil => simp
  | cons entry sh ih =>
    obtain ⟨hnotin, htail⟩ := hsh.tail
    rw [List.foldl_cons]
    by_cases htracked : entry.1 ∈ msti.ports.values.map (·.name)
    · have hnot : ¬ Arrives env (msti.ports.values.map (·.name)) entry := fun harr => harr.1 htracked
      rw [h.addIfNew_of_mem htracked, List.countP_cons_of_neg (by simpa using hnot),
        List.countP_cons_of_neg (by simpa using htracked)]
      exact ih h hcfgs htail
    · have hext := h.addIfNew (w := w) hcfgs (hsh.rows entry List.mem_cons_self)
      have hadded : (sh.countP fun e => e.1 ∉
          (Stp.addIfNew env (msti, w) entry).1.ports.values.map (·.name)) =
          sh.countP fun e => e.1 ∉ msti.ports.values.map (·.name) := by
        apply List.countP_congr
        intro e he
        simp only [hext.mem_names_iff hnotin e he]
      obtain ⟨hnb', hlength', hsets'⟩ := h.addIfNew_count (w := w) htracked
      obtain ⟨hnb, hlength, hsets⟩ := ih (w := (Stp.addIfNew env (msti, w) entry).2) hext.inv
        hext.cfgs htail
      rw [Prod.mk.eta] at hnb hlength hsets
      rw [hext.countP_arrives hnotin, hnb'] at hnb hsets
      rw [hadded, hlength'] at hlength
      rw [hsets'] at hsets
      rw [List.countP_cons, List.countP_cons_of_pos (p := fun e : String × PortRow =>
        decide (e.1 ∉ msti.ports.values.map (·.name))) (by simpa using htracked)]
      by_cases harr : Arrives env (msti.ports.values.map (·.name)) entry
      · simp only [harr, if_true, true_and, decide_true] at hnb hsets ⊢
        refine ⟨by omega, by omega, ?_⟩
        rw [hsets]
        split_ifs <;> omega
      · simp only [harr, if_false, false_and, decide_false, Bool.false_eq_true, Int.add_zero,
          Nat.add_zero] at hnb hsets ⊢
        exact ⟨hnb, by omega, hsets⟩

theorem walkUntil_checkPortState_brSets (nodes : List (Hmap.Node MstpInstancePort)) (w : World) :
    (Hmap.walkUntil (checkPortState env) w nodes).1.brSets = w.brSets := by
  induction nodes generalizing w with
  | nil => rfl
  | cons n nodes ih =>
    rw [Hmap.walkUntil]
    cases hcheck : checkPortState env w n.value with
    | none => rfl
    | some r =>
      refine (ih r.1).trans ?_
      rw [checkPortState] at hcheck
      split at hcheck
      · cases hcheck
      · split at hcheck
        · cases hcheck
          rfl
        · cases hcheck
          rfl

/-! ## Calls -/

/-- What a call makes of the count and of the ports, and when it calls `br_set`. -/
theorem CistInv.configurePorts_count (h : CistInv env msti.ports) (w : World)
    (rows : List PortRow) :
    let st := mstpCistConfigurePorts env msti w rows
    let count := msti.nbPorts - leaving rows msti.ports.values
    let arrivals := arriving env rows msti.ports.values
    st.1.nbPorts = count + arrivals ∧
      st.1.ports.values.length + leaving rows msti.ports.values =
        msti.ports.values.length + added rows msti.ports.values ∧
      st.2.brSets = w.brSets + if count ≤ 0 ∧ 0 < count + arrivals then 1 else 0 := by
  intro st count arrivals
  let deleted := Stp.deleteOldPorts env (collectPorts rows) msti w
  have hsh := ShashOf.order env rows
  have hperm := env.order_perm (collectPorts rows)
  let extended := Stp.addNewPorts env (collectPorts rows) deleted.1 deleted.2
  have hinv : CistInv env deleted.1.ports := h.deleteOldPorts
  obtain ⟨hnb, hlength, hsets⟩ : extended.1.nbPorts = _ ∧ extended.1.ports.values.length = _ ∧
      extended.2.brSets = _ := hinv.addIfNews_count .deleteOldPorts hsh
  have harrivals : (env.order (collectPorts rows)).countP
      (Arrives env (deleted.1.ports.values.map (·.name))) = arrivals :=
    countP_arrives_deleteOldPorts env msti w rows
  have hadded : ((env.order (collectPorts rows)).countP fun entry =>
      entry.1 ∉ deleted.1.ports.values.map (·.name)) = added rows msti.ports.values := by
    refine (List.countP_congr fun entry hentry => ?_).trans (hperm.countP_eq _)
    simp only [deleted, mem_names_deleteOldPorts, hsh.rows entry hentry, Option.isSome_some,
      and_true]
  have hkept : deleted.1.ports.values.length + leaving rows msti.ports.values =
      msti.ports.values.length := by
    have hnodes := length_keptNodes rows msti.ports.nodes
    simp only [deleted, ports_deleteOldPorts, Hmap.values, List.length_map]
    exact hnodes
  have hdeleted : deleted.2.brSets = w.brSets := walkSafe_deleteOrRefresh_brSets _ _ _
  have hcount : deleted.1.nbPorts = count := nbPorts_deleteOldPorts env rows msti w
  have hlast : st.1.ports.values.length = extended.1.ports.values.length := by
    have hnames := congrArg List.length (map_name_checkPorts env extended.1 extended.2)
    rw [List.length_map, List.length_map] at hnames
    exact hnames
  rw [harrivals, hcount] at hnb hsets
  rw [hadded] at hlength
  refine ⟨hnb, by omega, ?_⟩
  refine (walkUntil_checkPortState_brSets _ _).trans (hsets.trans ?_)
  rw [hdeleted]

/-- All that is added is counted if and only if it has valid states. -/
theorem arriving_eq_added_iff {ports : List MstpInstancePort} :
    arriving env rows ports = added rows ports ↔
      ∀ entry ∈ collectPorts rows, entry.1 ∉ ports.map (·.name) →
        (getPortStateFromString env entry.2.portState).isSome := by
  have hfilter : arriving env rows ports =
      ((collectPorts rows).filter fun entry => entry.1 ∉ ports.map (·.name)).countP fun entry =>
        (getPortStateFromString env entry.2.portState).isSome := by
    rw [List.countP_filter, arriving]
    apply List.countP_congr
    intro entry _
    rw [decide_eq_true_iff, Bool.and_eq_true, decide_eq_true_iff, Arrives, and_comm]
  rw [hfilter, added, List.countP_eq_length_filter (p := fun entry : String × PortRow =>
    decide (entry.1 ∉ ports.map (·.name))), List.countP_eq_length]
  simp only [List.mem_filter, and_imp, decide_eq_true_eq]

theorem leaving_eq_length_iff {ports : List MstpInstancePort} :
    leaving rows ports = ports.length ↔ ∀ port ∈ ports, firstRow rows port.name = none := by
  rw [leaving, List.countP_eq_length]
  simp only [Option.isNone_iff_eq_none]

/-- If no tracked port stays, then every row with a port adds one. -/
theorem added_pos_iff {ports : List MstpInstancePort}
    (hleave : ∀ port ∈ ports, firstRow rows port.name = none) :
    0 < added rows ports ↔ ∃ row ∈ rows, row.port.isSome := by
  have hentry : ∀ entry ∈ collectPorts rows, entry.1 ∉ ports.map (·.name) := by
    intro entry hentry hname
    obtain ⟨port, hport, hname⟩ := List.mem_map.mp hname
    have hrow := mem_collectPorts hentry
    rw [← hname, hleave port hport] at hrow
    cases hrow
  rw [added, List.countP_pos_iff]
  constructor
  · rintro ⟨entry, hmem, -⟩
    have hrow := List.find?_some (mem_collectPorts hmem)
    rw [decide_eq_true_eq] at hrow
    exact ⟨entry.2, List.mem_of_find?_eq_some (mem_collectPorts hmem), by rw [hrow]; rfl⟩
  · rintro ⟨row, hrow, hport⟩
    obtain ⟨name, hname⟩ := Option.isSome_iff_exists.mp hport
    have hsome : (firstRow rows name).isSome := by
      rw [firstRow, List.find?_isSome]
      exact ⟨row, hrow, by simpa using hname⟩
    obtain ⟨first, hfirst⟩ := Option.isSome_iff_exists.mp hsome
    have hmem := exists_mem_collectPorts hfirst
    exact ⟨(name, first), hmem, by simpa using hentry _ hmem⟩

end Counts

section Runs

variable {env : Env} {s : Plugin}

/-- From an exact count, a call keeps the count exact, and enables STP when it should, if and only if
the ports that it adds have valid states. -/
theorem Plugin.Inv.count_update_iff (h : s.Inv env) (hexact : s.CountExact)
    (call : Option (List PortRow)) :
    (mstpCistUpdate env s call).CountExact ∧ EnablesWithFirst env s call ↔
      AddsValid env s call := by
  cases call with
  | none => exact iff_of_true ⟨hexact, rfl⟩ trivial
  | some rows =>
    obtain ⟨msti, w, hconf, heq⟩ := h.update rows
    obtain ⟨hnb', hlength, hsets'⟩ := hconf.inv.configurePorts_count w rows
    rw [hconf.ports] at hnb' hlength hsets'
    rw [hconf.nbPorts] at hnb' hsets'
    rw [hconf.brSets] at hsets'
    rw [Plugin.CountExact] at hexact
    have hle : leaving rows s.ports ≤ s.ports.length := List.countP_le_length
    rw [AddsValid, ← arriving_eq_added_iff]
    have hcount : (mstpCistUpdate env s (some rows)).CountExact ↔
        arriving env rows s.ports = added rows s.ports := by
      rw [heq, Plugin.CountExact, Plugin.nbPorts, Plugin.ports]
      simp only []
      omega
    refine (and_congr_right fun h => ?_).trans ((and_iff_left_of_imp fun _ => trivial).trans hcount)
    rw [iff_true, EnablesWithFirst, heq]
    refine hsets'.trans (congrArg _ (if_congr ?_ rfl rfl))
    have hadded := hcount.mp h
    by_cases hleave : ∀ port ∈ s.ports, firstRow rows port.name = none
    · rw [AddsFirst, and_iff_right hleave, ← added_pos_iff hleave]
      have hall := leaving_eq_length_iff.mpr hleave
      omega
    · refine iff_of_false ?_ fun hfirst => hleave hfirst.1
      have hne : leaving rows s.ports ≠ s.ports.length := fun heq =>
        hleave (leaving_eq_length_iff.mp heq)
      omega

/-- Along a run from the start, the count is the number of ports, and STP is enabled exactly with the
first port of an instance without ports, if and only if every port is added with a valid state. -/
theorem port_count_exact_iff (env : Env) (w : World) (calls : List (Option (List PortRow))) :
    Always (mstpCistUpdate env) Plugin.CountExact ⟨none, w⟩ calls ∧
        Along (mstpCistUpdate env) (EnablesWithFirst env) ⟨none, w⟩ calls ↔
      Along (mstpCistUpdate env) (AddsValid env) ⟨none, w⟩ calls := by
  have hinit : Plugin.Inv env ⟨none, w⟩ := nofun
  refine always_and_along_iff (I := fun s => s.Inv env ∧ s.CountExact) (R := fun _ _ => True)
    ?_ ?_ ⟨hinit, rfl⟩ rfl (.of_forall fun _ _ _ => trivial)
  · intro s call _ ⟨h, hexact⟩ _ hvalid
    exact ⟨h.step call, ((h.count_update_iff hexact call).mpr hvalid).1⟩
  · intro s call _ ⟨h, hexact⟩ _
    exact h.count_update_iff hexact call

/-- Port "1" is added with an invalid state, and deleting it makes the count negative. -/
theorem port_count_negative :
    ¬ ∀ (env : Env) (w : World) (calls : List (Option (List PortRow))),
      Always (mstpCistUpdate env) Plugin.CountExact ⟨none, w⟩ calls ∧
        Along (mstpCistUpdate env) (EnablesWithFirst env) ⟨none, w⟩ calls := by
  intro h
  let calls : List (Option (List PortRow)) := [some [⟨some "1", none⟩], some []]
  have hlast := (h plainEnv Monitor.initial.plugin.world calls).1.last
  have hcount : (calls.foldl (mstpCistUpdate plainEnv)
      ⟨none, Monitor.initial.plugin.world⟩).nbPorts = -1 := by decide +kernel
  rw [Plugin.CountExact, hcount] at hlast
  omega

end Runs

end ContainerPlugin.Stp
