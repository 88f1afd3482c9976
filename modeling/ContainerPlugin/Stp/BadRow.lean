import ContainerPlugin.Stp.KernelBridge

/-!
# Rows with an invalid state

The walk that brings the states of the tracked ports up to date returns at the first row with an
invalid state. The ports that come later in the order of the hash map keep the states they had, so
that one bad row can hold back the others.
-/

namespace ContainerPlugin.Stp

/-- The state that a port gets if it has a row. -/
def rowStpState (env : Env) (rows : List PortRow) (name : String) : Option PortState :=
  (firstRow rows name).map fun _ => (rowState env rows name).getD .invalid

/-- The `stp_state` of a port. -/
def stpStateOf (ports : List MstpInstancePort) (name : String) : Option PortState :=
  (ports.find? (·.name == name)).map (·.stpState)

/-- The ports without a row are gone, and those of the other rows have come. -/
def trackedAfter (env : Env) (rows : List PortRow) (ports : Hmap MstpInstancePort) :
    Hmap MstpInstancePort :=
  ((env.order (collectPorts rows)).filter fun entry =>
      entry.1 ∉ ports.values.map (·.name)).foldl
    (fun ports entry =>
      ports.insert env.layout (env.hashString entry.1) (newPort env entry.1 entry.2))
    { ports with nodes := keptNodes rows ports.nodes }

/-- In the order of the hash map, no invalid row comes before the port, and its own is valid. -/
def Reached (env : Env) (rows : List PortRow) (ports : Hmap MstpInstancePort) (name : String) :
    Prop :=
  name ∈ ((trackedAfter env rows ports).values.map (·.name)).takeWhile fun name =>
    (rowState env rows name).isSome

instance (env : Env) (rows : List PortRow) (ports : Hmap MstpInstancePort) (name : String) :
    Decidable (Reached env rows ports name) :=
  inferInstanceAs (Decidable (_ ∈ _))

/-- A tracked port is deleted, or has the state of its row already, or is reached. -/
def Served (env : Env) (rows : List PortRow) (ports : Hmap MstpInstancePort)
    (port : MstpInstancePort) : Prop :=
  rowStpState env rows port.name = none ∨ rowStpState env rows port.name = some port.stpState ∨
    Reached env rows ports port.name

instance (env : Env) (rows : List PortRow) (ports : Hmap MstpInstancePort)
    (port : MstpInstancePort) : Decidable (Served env rows ports port) :=
  inferInstanceAs (Decidable (_ ∨ _ ∨ _))

section Walk

variable {env : Env} {msti : MstpInstance} {ports : Hmap MstpInstancePort} {w : World}
  {rows : List PortRow} {name : String}

theorem stpStateOf_cons (port : MstpInstancePort) (ports : List MstpInstancePort) :
    stpStateOf (port :: ports) name =
      if port.name = name then some port.stpState else stpStateOf ports name := by
  rw [stpStateOf]
  by_cases hname : port.name = name
  · rw [List.find?_cons_of_pos (by simpa using hname), if_pos hname]
    rfl
  · rw [List.find?_cons_of_neg (by simpa using hname), if_neg hname]
    rfl

theorem stpStateOf_eq_some {ports : List MstpInstancePort} (hnodup : (ports.map (·.name)).Nodup)
    {state : PortState} :
    stpStateOf ports name = some state ↔
      ∃ port ∈ ports, port.name = name ∧ port.stpState = state := by
  induction ports with
  | nil => exact iff_of_false nofun nofun
  | cons port ports ih =>
    rw [List.map_cons, List.nodup_cons] at hnodup
    rw [stpStateOf_cons, List.exists_mem_cons_iff]
    split
    case isTrue hname =>
      rw [Option.some.injEq]
      constructor
      · exact fun hstate => .inl ⟨hname, hstate⟩
      · rintro (⟨-, hstate⟩ | ⟨other, hother, hname', -⟩)
        · exact hstate
        · exact absurd (List.mem_map.mpr ⟨other, hother, hname'.trans hname.symm⟩) hnodup.1
    case isFalse hname =>
      rw [ih hnodup.2]
      exact ⟨.inr, fun h => h.resolve_left fun h => hname h.1⟩

theorem stpStateOf_eq_none {ports : List MstpInstancePort} :
    stpStateOf ports name = none ↔ name ∉ ports.map (·.name) := by
  simp [stpStateOf]

/-! ## The ports after the additions -/

/-- The lookups of the loop see the ports that were added before, but no name comes twice. -/
theorem CistInv.ports_addIfNews (h : CistInv env msti.ports) (hcfgs : HasRows rows msti.ports)
    {sh : Shash} (hsh : ShashOf rows sh) :
    (sh.foldl (Stp.addIfNew env) (msti, w)).1.ports =
      (sh.filter fun entry => entry.1 ∉ msti.ports.values.map (·.name)).foldl
        (fun ports entry =>
          ports.insert env.layout (env.hashString entry.1) (newPort env entry.1 entry.2))
        msti.ports := by
  induction sh generalizing msti w with
  | nil => rfl
  | cons entry sh ih =>
    obtain ⟨hnotin, htail⟩ := hsh.tail
    have hext := h.addIfNew (w := w) hcfgs (hsh.rows entry List.mem_cons_self)
    have hrest := ih (w := (Stp.addIfNew env (msti, w) entry).2) hext.inv hext.cfgs htail
    rw [List.foldl_cons, hrest]
    have hfilter : (sh.filter fun e => e.1 ∉
        (Stp.addIfNew env (msti, w) entry).1.ports.values.map (·.name)) =
        sh.filter fun e => e.1 ∉ msti.ports.values.map (·.name) := by
      apply List.filter_congr
      intro e he
      have hne : e.1 ≠ entry.1 := fun heq => hnotin (heq ▸ List.mem_map_of_mem he)
      rw [decide_eq_decide, hext.names, List.mem_singleton, or_iff_right hne]
    rw [hfilter]
    by_cases htracked : entry.1 ∈ msti.ports.values.map (·.name)
    · rw [List.filter_cons_of_neg (by simpa using htracked), h.addIfNew_of_mem htracked]
    · rw [List.filter_cons_of_pos (by simpa using htracked), h.addIfNew_of_notMem htracked,
        List.foldl_cons, ports_mstpCistPortAdd]

theorem CistInv.ports_addNewPorts (h : CistInv env msti.ports) (rows : List PortRow) :
    (Stp.addNewPorts env (collectPorts rows) (Stp.deleteOldPorts env (collectPorts rows) msti w).1
      (Stp.deleteOldPorts env (collectPorts rows) msti w).2).1.ports =
      trackedAfter env rows msti.ports := by
  have hfilter : ((env.order (collectPorts rows)).filter fun entry => entry.1 ∉
      (Stp.deleteOldPorts env (collectPorts rows) msti w).1.ports.values.map (·.name)) =
      (env.order (collectPorts rows)).filter fun entry =>
        entry.1 ∉ msti.ports.values.map (·.name) := by
    apply List.filter_congr
    intro entry hentry
    have hrow := (ShashOf.order env rows).rows entry hentry
    rw [decide_eq_decide, mem_names_deleteOldPorts, hrow, Option.isSome_some, and_iff_left rfl]
  rw [Stp.addNewPorts, h.deleteOldPorts.ports_addIfNews .deleteOldPorts (.order env rows),
    hfilter, ports_deleteOldPorts, trackedAfter]

theorem CistInv.trackedAfter (h : CistInv env msti.ports) (rows : List PortRow) :
    Reconciled env rows (Stp.trackedAfter env rows msti.ports) := by
  -- what the world was makes no difference
  rw [← h.ports_addNewPorts (w := ⟨[], 0, ∅, fun _ => none⟩)]
  exact h.deleteOldPorts.addNewPorts .deleteOldPorts

theorem mem_foldl_insert {sh : Shash} {port : MstpInstancePort} :
    port ∈ (sh.foldl (fun ports entry =>
        ports.insert env.layout (env.hashString entry.1) (newPort env entry.1 entry.2))
        ports).values ↔
      port ∈ ports.values ∨ ∃ entry ∈ sh, port = newPort env entry.1 entry.2 := by
  induction sh generalizing ports with
  | nil => simp
  | cons entry sh ih =>
    rw [List.foldl_cons, ih, Hmap.mem_values_insert, List.exists_mem_cons_iff, or_assoc,
      or_left_comm]

/-- A port that stays keeps its state until the walk. -/
theorem CistInv.stpStateOf_trackedAfter_old (h : CistInv env msti.ports) {port : MstpInstancePort}
    (hport : port ∈ msti.ports.values) (hrow : (firstRow rows port.name).isSome) :
    stpStateOf (Stp.trackedAfter env rows msti.ports).values port.name = some port.stpState := by
  obtain ⟨row, hrow⟩ := Option.isSome_iff_exists.mp hrow
  obtain ⟨n, hn, rfl⟩ := List.mem_map.mp hport
  have hkept := mem_keptNodes.mpr ⟨n, hn, row, hrow, rfl⟩
  refine (stpStateOf_eq_some (h.trackedAfter rows).inv.nodup).mpr ?_
  exact ⟨{ n.value with cfg := row },
    mem_foldl_insert.mpr (.inl (List.mem_map.mpr ⟨_, hkept, rfl⟩)), rfl, rfl⟩

/-- A port that is added has the state of its row. -/
theorem CistInv.stpStateOf_trackedAfter_new (h : CistInv env msti.ports)
    (hnew : name ∉ msti.ports.values.map (·.name)) :
    stpStateOf (Stp.trackedAfter env rows msti.ports).values name = rowStpState env rows name := by
  rw [rowStpState]
  cases hrow : firstRow rows name with
  | none =>
    rw [Option.map_none, stpStateOf_eq_none, (h.trackedAfter rows).names, hrow]
    exact Bool.false_ne_true
  | some row =>
    refine (stpStateOf_eq_some (h.trackedAfter rows).inv.nodup).mpr ?_
    have hentry : (name, row) ∈ (env.order (collectPorts rows)).filter fun entry =>
        entry.1 ∉ msti.ports.values.map (·.name) := by
      rw [List.mem_filter, (env.order_perm _).mem_iff]
      exact ⟨exists_mem_collectPorts hrow, by simpa using hnew⟩
    refine ⟨newPort env name row, mem_foldl_insert.mpr (.inr ⟨_, hentry, rfl⟩), rfl, ?_⟩
    simp only [newPort, rowState, hrow, Option.bind_some]

/-! ## The walk over the ports -/

/-- The walk gives the ports that it reaches the states of their rows, and leaves the others. -/
theorem stpStateOf_walkUntil (env : Env) (w : World) (name : String)
    {nodes : List (Hmap.Node MstpInstancePort)}
    (hcfgs : ∀ n ∈ nodes, firstRow rows n.value.name = some n.value.cfg) :
    stpStateOf ((Hmap.walkUntil (checkPortState env) w nodes).2.map (·.value)) name =
      if name ∈ (nodes.map (·.value.name)).takeWhile fun name => (rowState env rows name).isSome
      then rowStpState env rows name else stpStateOf (nodes.map (·.value)) name := by
  induction nodes generalizing w with
  | nil => rfl
  | cons n nodes ih =>
    have hrow := hcfgs n List.mem_cons_self
    rw [Hmap.walkUntil, List.map_cons]
    cases hcheck : checkPortState env w n.value with
    | none =>
      have hstate : rowState env rows n.value.name = none := by
        rw [rowState, hrow]
        exact checkPortState_eq_none.mp hcheck
      rw [List.takeWhile_cons_of_neg (by simp [hstate]), if_neg List.not_mem_nil]
    | some r =>
      obtain ⟨hstate, hport⟩ := checkPortState_some hcheck
      have hsome : rowState env rows n.value.name = some r.2.stpState := by
        rw [rowState, hrow]
        exact hstate
      have hname : r.2.name = n.value.name := by rw [hport]
      rw [List.takeWhile_cons_of_pos (by simp [hsome]), List.map_cons, List.map_cons,
        stpStateOf_cons, stpStateOf_cons, ih _ fun m hm => hcfgs m (List.mem_cons_of_mem _ hm), hname]
      simp only [List.mem_cons]
      by_cases heq : n.value.name = name
      · subst heq
        rw [if_pos rfl, if_pos (.inl rfl), rowStpState, hrow, Option.map_some, hsome]
        rfl
      · simp only [Ne.symm heq, heq, false_or, if_false]

/-- A port ends with the state of its row if and only if it is not tracked before, or is served. -/
theorem CistInv.stpStateOf_configurePorts (h : CistInv env msti.ports) (w : World)
    (rows : List PortRow) (name : String) :
    stpStateOf (mstpCistConfigurePorts env msti w rows).1.ports.values name =
        rowStpState env rows name ↔
      ∀ port ∈ msti.ports.values, port.name = name → Served env rows msti.ports port := by
  have hafter := h.trackedAfter rows
  have hwalk := stpStateOf_walkUntil env (Stp.addNewPorts env (collectPorts rows)
      (Stp.deleteOldPorts env (collectPorts rows) msti w).1
      (Stp.deleteOldPorts env (collectPorts rows) msti w).2).2 name
    fun n hn => hafter.cfgs n.value (List.mem_map_of_mem hn)
  have hconf : stpStateOf (mstpCistConfigurePorts env msti w rows).1.ports.values name =
      if Reached env rows msti.ports name then rowStpState env rows name
      else stpStateOf (Stp.trackedAfter env rows msti.ports).values name := by
    rw [mstpCistConfigurePorts]
    simp only [Stp.checkPorts, h.ports_addNewPorts, Reached, Hmap.values, List.map_map]
    exact hwalk
  rw [hconf]
  by_cases hreached : Reached env rows msti.ports name
  · rw [if_pos hreached]
    exact iff_of_true rfl fun port _ hname => .inr (.inr (hname ▸ hreached))
  rw [if_neg hreached]
  by_cases htracked : name ∈ msti.ports.values.map (·.name)
  · obtain ⟨port, hport, rfl⟩ := List.mem_map.mp htracked
    have hiff : stpStateOf (Stp.trackedAfter env rows msti.ports).values port.name =
        rowStpState env rows port.name ↔ Served env rows msti.ports port := by
      rw [Served, or_iff_left hreached]
      cases hrow : firstRow rows port.name with
      | none =>
        have hnone : rowStpState env rows port.name = none := by rw [rowStpState, hrow]; rfl
        refine iff_of_true ?_ (.inl hnone)
        rw [hnone, stpStateOf_eq_none, hafter.names, hrow]
        exact Bool.false_ne_true
      | some row =>
        have hstate : rowStpState env rows port.name ≠ none := by
          rw [rowStpState, hrow]
          exact Option.some_ne_none _
        rw [h.stpStateOf_trackedAfter_old hport (Option.isSome_of_mem hrow), eq_comm,
          or_iff_right hstate]
    rw [hiff]
    refine ⟨fun hserved other hother hname => ?_, fun hall => hall port hport rfl⟩
    rw [List.inj_on_of_nodup_map h.nodup hother hport hname]
    exact hserved
  · refine iff_of_true (h.stpStateOf_trackedAfter_new htracked) fun port hport hname => ?_
    exact absurd (List.mem_map.mpr ⟨port, hport, hname⟩) htracked

end Walk

/-! ## Two configurations -/

section TwoRuns

variable {env : Env} {s : Plugin} {pre post : List PortRow} {port : Option String}

theorem Plugin.Inv.stpStateOf_update (h : s.Inv env) (rows : List PortRow) (name : String) :
    stpStateOf (mstpCistUpdate env s (some rows)).ports name = rowStpState env rows name ↔
      ∀ q ∈ s.ports, q.name = name → Served env rows s.portMap q := by
  obtain ⟨msti, w, hconf, heq⟩ := h.update rows
  rw [heq, ← hconf.ports, ← hconf.portMap]
  exact hconf.inv.stpStateOf_configurePorts w rows name

/-- Rows of other ports are found as before. -/
theorem rowStpState_of_ne {name : String} (hne : some name ≠ port) (state state' : Option String) :
    rowStpState env (pre ++ ⟨port, state⟩ :: post) name =
      rowStpState env (pre ++ ⟨port, state'⟩ :: post) name := by
  simp only [rowStpState, rowState, firstRow, List.find?_append, List.find?_cons]
  simp [Ne.symm hne]

/-- Two configurations that differ in the state of one row, say a valid and an invalid one, give all
other ports the states of their rows if and only if, in both of them, every other port tracked
before has the state of its row already or is reached by the walk. -/
theorem bad_row_isolated_iff (h : s.Inv env) (pre post : List PortRow)
    (port valid invalid : Option String) :
    let good := pre ++ ⟨port, valid⟩ :: post
    let bad := pre ++ ⟨port, invalid⟩ :: post
    (∀ name, some name ≠ port →
        stpStateOf (mstpCistUpdate env s (some good)).ports name =
            stpStateOf (mstpCistUpdate env s (some bad)).ports name ∧
          stpStateOf (mstpCistUpdate env s (some bad)).ports name = rowStpState env bad name) ↔
      ∀ q ∈ s.ports, some q.name ≠ port →
        Served env good s.portMap q ∧ Served env bad s.portMap q := by
  intro good bad
  have hrows : ∀ {name}, some name ≠ port →
      rowStpState env good name = rowStpState env bad name :=
    fun hne => rowStpState_of_ne hne valid invalid
  constructor
  · intro hall q hq hne
    obtain ⟨hsame, hbad⟩ := hall q.name hne
    have hgood := hsame.trans (hbad.trans (hrows hne).symm)
    exact ⟨(h.stpStateOf_update good q.name).mp hgood q hq rfl,
      (h.stpStateOf_update bad q.name).mp hbad q hq rfl⟩
  · intro hserved name hne
    have hgood := (h.stpStateOf_update good name).mpr fun q hq hname =>
      (hserved q hq (hname ▸ hne)).1
    have hbad := (h.stpStateOf_update bad name).mpr fun q hq hname =>
      (hserved q hq (hname ▸ hne)).2
    exact ⟨hgood.trans ((hrows hne).trans hbad.symm), hbad⟩

/-- Ports "1" and "2" forward. -/
def forwardingPair : Plugin :=
  mstpCistUpdates plainEnv ⟨none, Monitor.initial.plugin.world⟩
    [[⟨some "1", some "Forwarding"⟩, ⟨some "2", some "Forwarding"⟩]]

theorem inv_forwardingPair : forwardingPair.Inv plainEnv := by
  have hinit : Plugin.Inv plainEnv ⟨none, Monitor.initial.plugin.world⟩ := nofun
  exact hinit.updates _

/-- The walk comes to port "2", which is to be blocked, before the bad row of port "1". -/
theorem bad_row_isolated_of_last :
    let good : List PortRow := [⟨some "1", some "Forwarding"⟩, ⟨some "2", some "Blocking"⟩]
    let bad : List PortRow := [⟨some "1", some "Discarding"⟩, ⟨some "2", some "Blocking"⟩]
    ∀ name, some name ≠ some "1" →
      stpStateOf (mstpCistUpdate plainEnv forwardingPair (some good)).ports name =
          stpStateOf (mstpCistUpdate plainEnv forwardingPair (some bad)).ports name ∧
        stpStateOf (mstpCistUpdate plainEnv forwardingPair (some bad)).ports name =
          rowStpState plainEnv bad name :=
  (bad_row_isolated_iff inv_forwardingPair [] [⟨some "2", some "Blocking"⟩] (some "1")
    (some "Forwarding") (some "Discarding")).mpr (by decide +kernel)

/-- Port "1" is to be blocked, but the walk ends at the bad row of port "2". -/
theorem bad_row_holds_back_other :
    ¬ ∀ (env : Env) (s : Plugin), s.Inv env → ∀ (pre post : List PortRow) (port : Option String)
      (valid invalid : Option String), (getPortStateFromString env valid).isSome →
      getPortStateFromString env invalid = none →
      let good := pre ++ ⟨port, valid⟩ :: post
      let bad := pre ++ ⟨port, invalid⟩ :: post
      ∀ name, some name ≠ port →
        stpStateOf (mstpCistUpdate env s (some good)).ports name =
            stpStateOf (mstpCistUpdate env s (some bad)).ports name ∧
          stpStateOf (mstpCistUpdate env s (some bad)).ports name = rowStpState env bad name := by
  intro h
  have hport := h plainEnv forwardingPair inv_forwardingPair [⟨some "1", some "Blocking"⟩] []
    (some "2") (some "Forwarding") (some "Discarding") (by decide +kernel) (by decide +kernel)
    "1" (by decide)
  revert hport
  decide +kernel

end TwoRuns

end ContainerPlugin.Stp
