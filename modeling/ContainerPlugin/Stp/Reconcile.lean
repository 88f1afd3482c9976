import ContainerPlugin.Stp.Basic

/-!
# Reconciliation of the CIST

Every tracked port of the CIST has the first row of its name, and after a walk over the ports each
one up to the first invalid row has the state of its row. The walk is in the order of the hash map,
which only insertions change, so that another call with the same rows finds nothing to do.
-/

namespace ContainerPlugin.Stp

/-! ## The rows -/

section Shash

variable {sh : Shash} {name : String} {row : PortRow} {rows : List PortRow}

/-- The first row for the port. -/
def firstRow (rows : List PortRow) (name : String) : Option PortRow :=
  rows.find? fun row => row.port = some name

theorem shashFindData_eq_none : shashFindData sh name = none ↔ name ∉ sh.map (·.1) := by
  simp only [shashFindData, Option.map_eq_none_iff, List.find?_eq_none, beq_iff_eq, List.mem_map,
    not_exists, not_and]

theorem shashFindData_addOnce (n : String) :
    shashFindData (shashAddOnce sh n row) name =
      (shashFindData sh name).or (if n = name then some row else none) := by
  rw [shashAddOnce]
  split
  case isTrue hn =>
    by_cases heq : n = name
    · subst heq
      cases hfind : shashFindData sh n with
      | none => exact absurd hn (shashFindData_eq_none.mp hfind)
      | some found => rfl
    · rw [if_neg heq, Option.or_none]
  case isFalse hn =>
    simp only [shashFindData, List.find?_append, List.find?_singleton, beq_iff_eq]
    split <;> cases sh.find? (·.1 == name) <;> rfl

theorem shashFindData_foldl :
    shashFindData (rows.foldl collectPort sh) name =
      (shashFindData sh name).or (firstRow rows name) := by
  induction rows generalizing sh with
  | nil => exact Option.or_none.symm
  | cons row rows ih =>
    rw [List.foldl_cons, ih, collectPort]
    cases hport : row.port with
    | none => simp [firstRow, hport]
    | some n =>
      simp only [shashFindData_addOnce, Option.or_assoc]
      by_cases heq : n = name
      · simp [firstRow, hport, heq]
      · simp [firstRow, hport, heq]

/-- The shash has the first row of every port. -/
theorem shashFindData_collectPorts :
    shashFindData (collectPorts rows) name = firstRow rows name := by
  rw [collectPorts, shashFindData_foldl]
  rfl

theorem nodup_collectPorts : ((collectPorts rows).map (·.1)).Nodup := by
  have hfold : ∀ sh : Shash, (sh.map (·.1)).Nodup →
      ((rows.foldl collectPort sh).map (·.1)).Nodup := by
    induction rows with
    | nil => exact fun sh hsh => hsh
    | cons row rows ih =>
      intro sh hsh
      apply ih
      rw [collectPort]
      cases row.port with
      | none => exact hsh
      | some n =>
        simp only [shashAddOnce]
        split
        case isTrue => exact hsh
        case isFalse hn =>
          rw [List.map_append, List.map_singleton, ← List.concat_eq_append]
          exact hsh.concat hn
  exact hfold [] List.nodup_nil

theorem mem_collectPorts {entry : String × PortRow} (hentry : entry ∈ collectPorts rows) :
    firstRow rows entry.1 = some entry.2 := by
  rw [← shashFindData_collectPorts, shashFindData]
  cases hfind : (collectPorts rows).find? (·.1 == entry.1) with
  | none => simp at hfind; exact absurd rfl (hfind entry.1 entry.2 hentry)
  | some found =>
    have hname : found.1 = entry.1 := by simpa using List.find?_some hfind
    have heq : found = entry :=
      List.inj_on_of_nodup_map nodup_collectPorts (List.mem_of_find?_eq_some hfind) hentry hname
    rw [heq]
    rfl

theorem exists_mem_collectPorts (hrow : firstRow rows name = some row) :
    (name, row) ∈ collectPorts rows := by
  rw [← shashFindData_collectPorts, shashFindData, Option.map_eq_some_iff] at hrow
  obtain ⟨entry, hfind, hrow⟩ := hrow
  have hname : entry.1 = name := by simpa using List.find?_some hfind
  rw [← hname, ← hrow]
  exact List.mem_of_find?_eq_some hfind

end Shash

/-! ## The tracked ports -/

/-- The ports of the CIST have their hashes, and no name is tracked twice. -/
structure CistInv (env : Env) (ports : Hmap MstpInstancePort) : Prop where
  hashed : Hmap.WellHashed (fun port => env.hashString port.name) ports
  nodup : (ports.values.map (·.name)).Nodup

/-- Every tracked port has the row that was found for it. -/
def HasRows (rows : List PortRow) (ports : Hmap MstpInstancePort) : Prop :=
  ∀ port ∈ ports.values, firstRow rows port.name = some port.cfg

section Ports

variable {env : Env} {msti : MstpInstance} {ports : Hmap MstpInstancePort} {w : World}
  {rows : List PortRow} {name : String}

theorem CistInv.empty : CistInv env .empty := ⟨.empty, List.nodup_nil⟩

/-- The lookup finds a port exactly if its name is tracked. -/
theorem CistInv.lookup_eq_none (h : CistInv env msti.ports) :
    mstpCistAndInstancePortLookup env msti name = none ↔
      name ∉ msti.ports.values.map (·.name) := by
  simp only [mstpCistAndInstancePortLookup, List.find?_eq_none, Hmap.mem_withHash_iff h.hashed,
    beq_iff_eq, List.mem_map, not_exists, not_and]
  constructor
  · intro hnone port hport hname
    exact hnone port ⟨hport, by rw [hname]⟩ hname
  · intro hnone port hport hname
    exact hnone port hport.1 hname

/-- The nodes that are left after the rows have been collected. -/
def keptNodes (rows : List PortRow) (nodes : List (Hmap.Node MstpInstancePort)) :
    List (Hmap.Node MstpInstancePort) :=
  nodes.filterMap fun n =>
    (firstRow rows n.value.name).map fun row => { n with value := { n.value with cfg := row } }

theorem walkSafe_deleteOrRefresh {st : World × ℤ} {nodes : List (Hmap.Node MstpInstancePort)} :
    (Hmap.walkSafe (deleteOrRefresh env (collectPorts rows)) st nodes).2 =
      keptNodes rows nodes := by
  rw [Hmap.walkSafe_eq_filterMap (g := fun port =>
    (firstRow rows port.name).map fun row => { port with cfg := row })]
  · simp only [Option.map_map, keptNodes, Function.comp_def]
  · intro st port
    rw [deleteOrRefresh, shashFindData_collectPorts]
    cases firstRow rows port.name with
    | none => rfl
    | some row => rfl

theorem mem_keptNodes {nodes : List (Hmap.Node MstpInstancePort)}
    {m : Hmap.Node MstpInstancePort} :
    m ∈ keptNodes rows nodes ↔ ∃ n ∈ nodes, ∃ row, firstRow rows n.value.name = some row ∧
      m = { n with value := { n.value with cfg := row } } := by
  simp only [keptNodes, List.mem_filterMap, Option.map_eq_some_iff, eq_comm (a := m)]

/-- Exactly the names with a row are left. -/
theorem map_name_keptNodes (nodes : List (Hmap.Node MstpInstancePort)) :
    (keptNodes rows nodes).map (·.value.name) =
      (nodes.map (·.value.name)).filter fun name => (firstRow rows name).isSome := by
  induction nodes with
  | nil => rfl
  | cons n nodes ih =>
    rw [keptNodes] at ih ⊢
    cases hrow : firstRow rows n.value.name with
    | none => simp [hrow, ih]
    | some row => simp [hrow, ih]

theorem CistInv.kept (h : CistInv env ports) :
    CistInv env { ports with nodes := keptNodes rows ports.nodes } := by
  refine ⟨?_, ?_⟩
  · intro m hm
    obtain ⟨n, hn, row, -, rfl⟩ := mem_keptNodes.mp hm
    exact h.hashed n hn
  · have hnames := h.nodup
    simp only [Hmap.values, List.map_map, Function.comp_def] at hnames ⊢
    rw [map_name_keptNodes]
    exact hnames.filter _

theorem HasRows.kept : HasRows rows { ports with nodes := keptNodes rows ports.nodes } := by
  intro port hport
  obtain ⟨m, hm, rfl⟩ := List.mem_map.mp hport
  obtain ⟨n, -, row, hrow, rfl⟩ := mem_keptNodes.mp hm
  exact hrow

/-! ## Additions -/

/-- The port that is added for a row. -/
def newPort (env : Env) (name : String) (row : PortRow) : MstpInstancePort :=
  ⟨name, (getPortStateFromString env row.portState).getD .invalid, row⟩

theorem ports_mstpCistPortAdd (env : Env) (msti : MstpInstance) (w : World) (name : String)
    (row : PortRow) :
    (mstpCistPortAdd env msti w name row).1.ports =
      msti.ports.insert env.layout (env.hashString name) (newPort env name row) := by
  simp only [mstpCistPortAdd, newPort]
  cases getPortStateFromString env row.portState with
  | none => rfl
  | some state => rfl

theorem CistInv.insert (h : CistInv env ports) (row : PortRow)
    (hnew : name ∉ ports.values.map (·.name)) :
    CistInv env (ports.insert env.layout (env.hashString name) (newPort env name row)) := by
  refine ⟨h.hashed.insert (v := newPort env name row), ?_⟩
  have hperm := Hmap.values_insert_perm (L := env.layout) (h := ports)
    (v := newPort env name row) (env.hashString name)
  refine (hperm.map (·.name)).nodup_iff.mpr ?_
  exact List.nodup_cons.mpr ⟨hnew, h.nodup⟩

/-- The tracked ports are those of the CIST before and the given names. -/
structure Extends (env : Env) (rows : List PortRow) (names : List String)
    (ports ports' : Hmap MstpInstancePort) : Prop where
  inv : CistInv env ports'
  cfgs : HasRows rows ports'
  names : ∀ name, name ∈ ports'.values.map (·.name) ↔
    name ∈ names ∨ name ∈ ports.values.map (·.name)

theorem CistInv.addIfNew_of_mem (h : CistInv env msti.ports) {entry : String × PortRow}
    (htracked : entry.1 ∈ msti.ports.values.map (·.name)) :
    Stp.addIfNew env (msti, w) entry = (msti, w) := by
  rw [Stp.addIfNew]
  cases hlookup : mstpCistAndInstancePortLookup env msti entry.1 with
  | none => exact absurd htracked (h.lookup_eq_none.mp hlookup)
  | some found => rfl

theorem CistInv.addIfNew_of_notMem (h : CistInv env msti.ports) {entry : String × PortRow}
    (hnew : entry.1 ∉ msti.ports.values.map (·.name)) :
    Stp.addIfNew env (msti, w) entry = mstpCistPortAdd env msti w entry.1 entry.2 := by
  rw [Stp.addIfNew, h.lookup_eq_none.mpr hnew]

theorem CistInv.addIfNew (h : CistInv env msti.ports) (hrows : HasRows rows msti.ports)
    {entry : String × PortRow} (hentry : firstRow rows entry.1 = some entry.2) :
    Extends env rows [entry.1] msti.ports (Stp.addIfNew env (msti, w) entry).1.ports := by
  by_cases htracked : entry.1 ∈ msti.ports.values.map (·.name)
  · rw [h.addIfNew_of_mem htracked]
    refine ⟨h, hrows, fun name => ?_⟩
    rw [List.mem_singleton]
    exact ⟨.inr, fun hor => hor.elim (fun heq => heq ▸ htracked) id⟩
  · rw [h.addIfNew_of_notMem htracked, ports_mstpCistPortAdd]
    refine ⟨h.insert entry.2 htracked, ?_, ?_⟩
    · intro port hport
      obtain rfl | hport := (Hmap.mem_values_insert _).mp hport
      · exact hentry
      · exact hrows port hport
    · intro name
      simp [newPort, eq_comm]

theorem CistInv.addIfNews (h : CistInv env msti.ports) (hrows : HasRows rows msti.ports)
    {sh : Shash} (hsh : ∀ entry ∈ sh, firstRow rows entry.1 = some entry.2) :
    Extends env rows (sh.map (·.1)) msti.ports
      (sh.foldl (Stp.addIfNew env) (msti, w)).1.ports := by
  induction sh generalizing msti w with
  | nil => exact ⟨h, hrows, fun name => by simp⟩
  | cons entry sh ih =>
    have hentry := h.addIfNew (w := w) hrows (hsh entry List.mem_cons_self)
    have hrest := ih (w := (Stp.addIfNew env (msti, w) entry).2) hentry.inv hentry.cfgs
      fun e he => hsh e (List.mem_cons_of_mem _ he)
    refine ⟨hrest.inv, hrest.cfgs, fun name => ?_⟩
    rw [List.foldl_cons, hrest.names, hentry.names, List.mem_singleton, List.map_cons,
      List.mem_cons]
    exact or_left_comm.trans or_assoc.symm

/-- Ports that are all tracked are not added. -/
theorem CistInv.addIfNews_eq (h : CistInv env msti.ports) {sh : Shash}
    (hsh : ∀ entry ∈ sh, entry.1 ∈ msti.ports.values.map (·.name)) :
    sh.foldl (Stp.addIfNew env) (msti, w) = (msti, w) := by
  induction sh with
  | nil => rfl
  | cons entry sh ih =>
    rw [List.foldl_cons, h.addIfNew_of_mem (hsh entry List.mem_cons_self)]
    exact ih fun e he => hsh e (List.mem_cons_of_mem _ he)

/-! ## Changes of state -/

theorem checkPortState_some {w' : World} {port port' : MstpInstancePort}
    (h : checkPortState env w port = some (w', port')) :
    getPortStateFromString env port.cfg.portState = some port'.stpState ∧
      port' = { port with stpState := port'.stpState } := by
  simp only [checkPortState] at h
  cases hstate : getPortStateFromString env port.cfg.portState with
  | none =>
    rw [hstate] at h
    cases h
  | some state =>
    rw [hstate] at h
    simp only [] at h
    split at h
    case isTrue =>
      cases h
      exact ⟨rfl, rfl⟩
    case isFalse hsame =>
      cases h
      rw [not_not] at hsame
      exact ⟨congrArg some hsame, rfl⟩

theorem checkPortState_eq_none {port : MstpInstancePort} :
    checkPortState env w port = none ↔
      getPortStateFromString env port.cfg.portState = none := by
  simp only [checkPortState]
  cases getPortStateFromString env port.cfg.portState with
  | none => simp
  | some state =>
    simp only [reduceCtorEq, iff_false]
    split <;> simp

/-- The walk leaves hashes, names and rows alone. -/
theorem map_checkPorts (env : Env) (msti : MstpInstance) (w : World) :
    (checkPorts env msti w).1.ports.nodes.map (fun n => (n.hash, n.value.name, n.value.cfg)) =
      msti.ports.nodes.map fun n => (n.hash, n.value.name, n.value.cfg) := by
  apply Hmap.map_walkUntil fun port : MstpInstancePort => (port.name, port.cfg)
  intro w port w' port' hcheck
  rw [(checkPortState_some hcheck).2]

theorem map_name_checkPorts (env : Env) (msti : MstpInstance) (w : World) :
    (checkPorts env msti w).1.ports.values.map (·.name) = msti.ports.values.map (·.name) := by
  have hmap := congrArg (List.map (·.2.1)) (map_checkPorts env msti w)
  simpa only [List.map_map, Function.comp_def, Hmap.values] using hmap

theorem exists_of_mem_checkPorts {m : Hmap.Node MstpInstancePort}
    (hm : m ∈ (checkPorts env msti w).1.ports.nodes) :
    ∃ n ∈ msti.ports.nodes, n.hash = m.hash ∧ n.value.name = m.value.name ∧
      n.value.cfg = m.value.cfg := by
  have hmem : (m.hash, m.value.name, m.value.cfg) ∈
      msti.ports.nodes.map fun n => (n.hash, n.value.name, n.value.cfg) := by
    rw [← map_checkPorts env msti w]
    exact List.mem_map_of_mem hm
  obtain ⟨n, hn, heq⟩ := List.mem_map.mp hmem
  simp only [Prod.mk.injEq] at heq
  exact ⟨n, hn, heq⟩

theorem CistInv.checkPorts (h : CistInv env msti.ports) :
    CistInv env (Stp.checkPorts env msti w).1.ports := by
  refine ⟨?_, ?_⟩
  · intro m hm
    obtain ⟨n, hn, hhash, hname, -⟩ := exists_of_mem_checkPorts hm
    calc m.hash = n.hash := hhash.symm
      _ = env.hashString n.value.name := h.hashed n hn
      _ = env.hashString m.value.name := by rw [hname]
  · rw [map_name_checkPorts]
    exact h.nodup

theorem HasRows.checkPorts (h : HasRows rows msti.ports) :
    HasRows rows (Stp.checkPorts env msti w).1.ports := by
  intro port hport
  obtain ⟨m, hm, rfl⟩ := List.mem_map.mp hport
  obtain ⟨n, hn, -, hname, hcfg⟩ := exists_of_mem_checkPorts hm
  rw [← hname, ← hcfg]
  exact h n.value (List.mem_map_of_mem hn)

theorem checkPorts_checkPorts (w' : World) :
    checkPorts env (checkPorts env msti w).1 w' = ((checkPorts env msti w).1, w') := by
  have hwalk := Hmap.walkUntil_walkUntil (f := checkPortState env) ?_ ?_ msti.ports.nodes w w'
  · simp only [checkPorts, hwalk]
  · intro w port w' port' hcheck t
    obtain ⟨hstate, heq⟩ := checkPortState_some hcheck
    have hcfg : port'.cfg = port.cfg := by rw [heq]
    simp [checkPortState, hcfg, hstate]
  · intro w port hnone t
    exact checkPortState_eq_none.mpr (checkPortState_eq_none.mp hnone)

/-! ## Calls -/

/-- The tracked ports are those of the rows. -/
structure Reconciled (env : Env) (rows : List PortRow) (ports : Hmap MstpInstancePort) : Prop where
  inv : CistInv env ports
  cfgs : HasRows rows ports
  names : ∀ name, name ∈ ports.values.map (·.name) ↔ (firstRow rows name).isSome

theorem ports_deleteOldPorts (env : Env) (rows : List PortRow) (msti : MstpInstance) (w : World) :
    (deleteOldPorts env (collectPorts rows) msti w).1.ports =
      { msti.ports with nodes := keptNodes rows msti.ports.nodes } := by
  simp only [deleteOldPorts, walkSafe_deleteOrRefresh]

theorem mem_names_deleteOldPorts :
    name ∈ (deleteOldPorts env (collectPorts rows) msti w).1.ports.values.map (·.name) ↔
      name ∈ msti.ports.values.map (·.name) ∧ (firstRow rows name).isSome := by
  rw [ports_deleteOldPorts]
  simp only [Hmap.values, List.map_map, Function.comp_def, map_name_keptNodes, List.mem_filter]

theorem CistInv.deleteOldPorts (h : CistInv env msti.ports) :
    CistInv env (Stp.deleteOldPorts env (collectPorts rows) msti w).1.ports := by
  rw [ports_deleteOldPorts]
  exact h.kept

theorem HasRows.deleteOldPorts :
    HasRows rows (Stp.deleteOldPorts env (collectPorts rows) msti w).1.ports := by
  rw [ports_deleteOldPorts]
  exact .kept

theorem CistInv.addNewPorts (h : CistInv env msti.ports) (hrows : HasRows rows msti.ports) :
    Reconciled env rows (Stp.addNewPorts env (collectPorts rows) msti w).1.ports := by
  have hadd := h.addIfNews (w := w) hrows fun entry (hentry : entry ∈ env.order _) =>
    mem_collectPorts ((env.order_perm (collectPorts rows)).mem_iff.mp hentry)
  refine ⟨hadd.inv, hadd.cfgs, fun name => ?_⟩
  rw [Stp.addNewPorts, hadd.names]
  constructor
  · intro hor
    cases hor with
    | inl hname =>
      obtain ⟨entry, hentry, rfl⟩ := List.mem_map.mp hname
      rw [mem_collectPorts ((env.order_perm _).mem_iff.mp hentry)]
      rfl
    | inr hname =>
      obtain ⟨port, hport, rfl⟩ := List.mem_map.mp hname
      rw [hrows port hport]
      rfl
  · intro hsome
    obtain ⟨row, hrow⟩ := Option.isSome_iff_exists.mp hsome
    have hentry := (env.order_perm _).mem_iff.mpr (exists_mem_collectPorts hrow)
    exact .inl (List.mem_map.mpr ⟨_, hentry, rfl⟩)

theorem Reconciled.checkPorts (h : Reconciled env rows msti.ports) :
    Reconciled env rows (Stp.checkPorts env msti w).1.ports := by
  refine ⟨h.inv.checkPorts, h.cfgs.checkPorts, fun name => ?_⟩
  rw [map_name_checkPorts]
  exact h.names name

/-- Deletions and additions give the names and rows; the walk that follows gives the states. -/
theorem CistInv.exists_checkPorts (h : CistInv env msti.ports) (w : World) (rows : List PortRow) :
    ∃ added w', Reconciled env rows added.ports ∧
      mstpCistConfigurePorts env msti w rows = Stp.checkPorts env added w' :=
  ⟨_, _, h.deleteOldPorts.addNewPorts .deleteOldPorts, rfl⟩

theorem CistInv.configurePorts (h : CistInv env msti.ports) (w : World) (rows : List PortRow) :
    Reconciled env rows (mstpCistConfigurePorts env msti w rows).1.ports := by
  obtain ⟨added, w', hadded, heq⟩ := h.exists_checkPorts w rows
  rw [heq]
  exact hadded.checkPorts

/-- Ports that all have their rows are neither deleted nor changed. -/
theorem deleteOldPorts_eq (h : HasRows rows msti.ports) :
    deleteOldPorts env (collectPorts rows) msti w = (msti, w) := by
  have hwalk : ∀ (nodes : List (Hmap.Node MstpInstancePort)) (st : World × ℤ),
      (∀ n ∈ nodes, firstRow rows n.value.name = some n.value.cfg) →
      Hmap.walkSafe (deleteOrRefresh env (collectPorts rows)) st nodes = (st, nodes) := by
    intro nodes st hnodes
    induction nodes with
    | nil => rfl
    | cons n nodes ih =>
      have hn := hnodes n List.mem_cons_self
      have hrest := ih fun m hm => hnodes m (List.mem_cons_of_mem _ hm)
      simp only [Hmap.walkSafe, deleteOrRefresh, shashFindData_collectPorts, hn, hrest]
  simp only [deleteOldPorts]
  rw [hwalk _ _ fun n hn => h n.value (List.mem_map_of_mem hn)]

/-- A call with the same rows again finds nothing to do. -/
theorem CistInv.configurePorts_again (h : CistInv env msti.ports) (w w' : World)
    (rows : List PortRow) :
    mstpCistConfigurePorts env (mstpCistConfigurePorts env msti w rows).1 w' rows =
      ((mstpCistConfigurePorts env msti w rows).1, w') := by
  have hrec := h.configurePorts w rows
  have hnames : ∀ entry ∈ env.order (collectPorts rows),
      entry.1 ∈ (mstpCistConfigurePorts env msti w rows).1.ports.values.map (·.name) := by
    intro entry hentry
    rw [hrec.names, mem_collectPorts ((env.order_perm _).mem_iff.mp hentry)]
    rfl
  have hsettled : Stp.checkPorts env (mstpCistConfigurePorts env msti w rows).1 w' =
      ((mstpCistConfigurePorts env msti w rows).1, w') := by
    obtain ⟨added, v, -, heq⟩ := h.exists_checkPorts w rows
    rw [heq]
    exact checkPorts_checkPorts w'
  nth_rewrite 1 [mstpCistConfigurePorts]
  rw [deleteOldPorts_eq hrec.cfgs]
  simp only [Stp.addNewPorts, hrec.inv.addIfNews_eq hnames]
  exact hsettled

/-- With valid rows only, every port gets the state of its row. -/
theorem CistInv.stpState_configurePorts (h : CistInv env msti.ports) (w : World)
    (hvalid : ∀ row ∈ rows, (getPortStateFromString env row.portState).isSome) :
    ∀ port ∈ (mstpCistConfigurePorts env msti w rows).1.ports.values,
      getPortStateFromString env port.cfg.portState = some port.stpState := by
  obtain ⟨added, w', hadded, heq⟩ := h.exists_checkPorts w rows
  rw [heq]
  intro port hport
  obtain ⟨m, hm, rfl⟩ := List.mem_map.mp hport
  refine Hmap.of_mem_walkUntil
    (Q := fun port => getPortStateFromString env port.cfg.portState = some port.stpState)
    ?_ ?_ w' m hm
  · intro w port w' port' hcheck
    obtain ⟨hstate, heq⟩ := checkPortState_some hcheck
    have hcfg : port'.cfg = port.cfg := by rw [heq]
    rw [hcfg]
    exact hstate
  · intro n hn w hnone
    have hrow := hadded.cfgs n.value (List.mem_map_of_mem hn)
    have hsome := hvalid n.value.cfg (List.mem_of_find?_eq_some hrow)
    rw [checkPortState_eq_none.mp hnone] at hsome
    cases hsome

end Ports

/-- The CIST of the plug-in, if there is one, satisfies its invariant. -/
def Plugin.Inv (env : Env) (s : Plugin) : Prop :=
  ∀ msti, s.cist = some msti → CistInv env msti.ports

/-- The hash map of the tracked ports. -/
def Plugin.portMap (s : Plugin) : Hmap MstpInstancePort :=
  match s.cist with
  | none => .empty
  | some msti => msti.ports

/-- The tracked ports. -/
def Plugin.ports (s : Plugin) : List MstpInstancePort :=
  match s.cist with
  | none => []
  | some msti => msti.ports.values

def Plugin.nbPorts (s : Plugin) : ℤ :=
  match s.cist with
  | none => 0
  | some msti => msti.nbPorts

/-- A sequence of `mstp_cist_update` calls. -/
def mstpCistUpdates (env : Env) (s : Plugin) (calls : List (List PortRow)) : Plugin :=
  calls.foldl (fun s rows => mstpCistUpdate env s (some rows)) s

section Calls

variable {env : Env} {s : Plugin}

theorem kernel_mstpCistAddBridge (w : World) : (mstpCistAddBridge env w).kernel = w.kernel := by
  have hsystem : ∀ (w : World) (c : Cmd), w.kernel.exec c = w.kernel →
      (w.system env c).1.kernel = w.kernel := by
    intro w c hc
    simp only [World.system, hc, ite_self]
  rw [mstpCistAddBridge]
  simp only []
  split
  · rw [hsystem _ .ipLinkUp rfl, hsystem w .ipLinkAdd rfl]
  · rw [hsystem w .ipLinkAdd rfl]

theorem brSets_mstpCistAddBridge (w : World) : (mstpCistAddBridge env w).brSets = w.brSets := by
  rw [mstpCistAddBridge]
  simp only []
  split
  · rfl
  · rfl

theorem Plugin.values_portMap (s : Plugin) : s.portMap.values = s.ports := by
  rw [Plugin.portMap, Plugin.ports]
  cases s.cist with
  | none => rfl
  | some msti => rfl

/-- The CIST that a call configures, an empty one if it has to be created. -/
structure Plugin.Configures (env : Env) (s : Plugin) (msti : MstpInstance) (w : World) : Prop where
  inv : CistInv env msti.ports
  portMap : msti.ports = s.portMap
  nbPorts : msti.nbPorts = s.nbPorts
  kernel : w.kernel = s.world.kernel
  brSets : w.brSets = s.world.brSets

theorem Plugin.Configures.ports {msti : MstpInstance} {w : World} (h : s.Configures env msti w) :
    msti.ports.values = s.ports := by
  rw [h.portMap, s.values_portMap]

/-- The first call creates the CIST, and every call configures its ports. -/
theorem Plugin.Inv.update (h : s.Inv env) (rows : List PortRow) :
    ∃ msti w, s.Configures env msti w ∧ mstpCistUpdate env s (some rows) =
      ⟨some (mstpCistConfigurePorts env msti w rows).1,
        (mstpCistConfigurePorts env msti w rows).2⟩ := by
  cases hcist : s.cist with
  | none =>
    refine ⟨⟨.empty, 0⟩, mstpCistAddBridge env s.world, ⟨.empty, ?_, ?_, ?_, ?_⟩, ?_⟩
    · simp [Plugin.portMap, hcist]
    · simp [Plugin.nbPorts, hcist]
    · exact kernel_mstpCistAddBridge s.world
    · exact brSets_mstpCistAddBridge s.world
    · simp only [mstpCistUpdate, hcist]
      rfl
  | some msti =>
    refine ⟨msti, s.world, ⟨h msti hcist, ?_, ?_, rfl, rfl⟩, ?_⟩
    · simp [Plugin.portMap, hcist]
    · simp [Plugin.nbPorts, hcist]
    · simp only [mstpCistUpdate, hcist]

theorem Plugin.Inv.step (h : s.Inv env) (call : Option (List PortRow)) :
    (mstpCistUpdate env s call).Inv env := by
  cases call with
  | none => exact h
  | some rows =>
    obtain ⟨msti, w, hconf, heq⟩ := h.update rows
    rw [heq]
    intro msti' hcist
    cases hcist
    exact (hconf.inv.configurePorts w rows).inv

theorem Plugin.Inv.updates (h : s.Inv env) (calls : List (List PortRow)) :
    (mstpCistUpdates env s calls).Inv env := by
  induction calls generalizing s with
  | nil => exact h
  | cons rows calls ih => exact ih (h.step (some rows))

/-- After any calls, the tracked names are those of the rows of the last one, each once; if all
states are valid, every port has the state of the first row with its name; and the same call once
more changes nothing and runs no command. -/
theorem cist_reconciled (env : Env) (w : World) (calls : List (List PortRow))
    (rows : List PortRow) :
    let s := mstpCistUpdates env ⟨none, w⟩ (calls ++ [rows])
    ∃ msti, s.cist = some msti ∧ (msti.ports.values.map (·.name)).Nodup ∧
      (∀ name, name ∈ msti.ports.values.map (·.name) ↔ ∃ row ∈ rows, row.port = some name) ∧
      ((∀ row ∈ rows, (getPortStateFromString env row.portState).isSome) →
        ∀ port ∈ msti.ports.values, ∃ row, firstRow rows port.name = some row ∧
          getPortStateFromString env row.portState = some port.stpState) ∧
      mstpCistUpdate env s (some rows) = s := by
  intro s
  have hinit : Plugin.Inv env ⟨none, w⟩ := fun msti hcist => nomatch hcist
  obtain ⟨msti, w', hconf, heq⟩ := (hinit.updates calls).update rows
  have hinv := hconf.inv
  have hs : s = ⟨some (mstpCistConfigurePorts env msti w' rows).1,
      (mstpCistConfigurePorts env msti w' rows).2⟩ := by
    rw [← heq]
    exact List.foldl_append
  have hrec := hinv.configurePorts w' rows
  refine ⟨_, congrArg Plugin.cist hs, hrec.inv.nodup, ?_, ?_, ?_⟩
  · intro name
    rw [hrec.names, firstRow, List.find?_isSome]
    simp
  · intro hvalid port hport
    exact ⟨port.cfg, hrec.cfgs port hport, hinv.stpState_configurePorts w' hvalid port hport⟩
  · rw [hs]
    simp only [mstpCistUpdate, hinv.configurePorts_again]

end Calls

end ContainerPlugin.Stp
