import ContainerPlugin.Lib.Runs
import ContainerPlugin.Stp.Reconcile

/-!
# The kernel bridge

A port is enslaved to the bridge only at the end of `mstp_cist_port_add`. That end is not reached by
the port that brings the count to 1, because `br_set` returns the number of characters written, nor
by a port that is added with an invalid state and gets a valid one later.
-/

namespace ContainerPlugin.Stp

open Runs

/-- Commands return 0, the file of the bridge opens, and `fprintf` returns the number of characters
written. -/
structure Env.Healthy (env : Env) : Prop where
  system : ∀ log text, env.system log text = true
  fopen : ∀ n, env.fopen n = true
  fprintf : ∀ n text, env.fprintf n text = text.utf8ByteSize

/-- The state that the row of a port gives it. -/
def rowState (env : Env) (rows : List PortRow) (name : String) : Option PortState :=
  (firstRow rows name).bind fun row => getPortStateFromString env row.portState

/-- The plug-in, and the tracked ports whose row has had a valid state since they were added. -/
structure Monitor where
  plugin : Plugin
  seen : Finset String

/-- The ports with a row that is valid now or was valid before. -/
def validSince (env : Env) (seen : Finset String) (rows : List PortRow) : Finset String :=
  ((rows.filterMap (·.port)).filter fun name =>
    (rowState env rows name).isSome ∨ name ∈ seen).toFinset

def Monitor.step (env : Env) (m : Monitor) (rows : List PortRow) : Monitor :=
  ⟨mstpCistUpdate env m.plugin (some rows), validSince env m.seen rows⟩

def Monitor.initial : Monitor := ⟨⟨none, [], 0, ∅, fun _ => none⟩, ∅⟩

/-- The enslaved ports are the tracked ones that have had a valid state, and the kernel has their
states. -/
structure Monitor.Follows (m : Monitor) : Prop where
  slaves : ∀ name, name ∈ m.plugin.world.kernel.slaves ↔
    name ∈ m.plugin.ports.map (·.name) ∧ name ∈ m.seen
  state : ∀ port ∈ m.plugin.ports, port.name ∈ m.plugin.world.kernel.slaves →
    m.plugin.world.kernel.linkState port.name = some port.stpState

/-- How many tracked ports have no row. -/
def leaving (rows : List PortRow) (ports : List MstpInstancePort) : ℕ :=
  ports.countP fun port => (firstRow rows port.name).isNone

/-- An entry is for a port that is not tracked, in a valid state. -/
def Arrives (env : Env) (names : List String) (entry : String × PortRow) : Prop :=
  entry.1 ∉ names ∧ (getPortStateFromString env entry.2.portState).isSome

instance (env : Env) (names : List String) : DecidablePred (Arrives env names) :=
  fun _ => inferInstanceAs (Decidable (_ ∧ _))

/-- How many rows add a port in a valid state. -/
def arriving (env : Env) (rows : List PortRow) (ports : List MstpInstancePort) : ℕ :=
  (collectPorts rows).countP (Arrives env (ports.map (·.name)))

/-- The added ports do not bring the count to 1, and no port without a state gets one. -/
def KeepsBridge (env : Env) (m : Monitor) (rows : List PortRow) : Prop :=
  let count := m.plugin.nbPorts - leaving rows m.plugin.ports
  ¬ (count ≤ 0 ∧ 0 < count + arriving env rows m.plugin.ports) ∧
    ∀ port ∈ m.plugin.ports, port.stpState = .invalid → rowState env rows port.name = none

section Passes

variable {env : Env} {msti : MstpInstance} {w : World} {rows : List PortRow} {name : String}

theorem Env.Healthy.kernel_system (henv : env.Healthy) (w : World) (c : Cmd) :
    (w.system env c).1.kernel = w.kernel.exec c := by
  simp [World.system, henv.system]

/-- `br_set` reports success with the number of characters, which is not 0. -/
theorem Env.Healthy.brSet_ne_zero (henv : env.Healthy) (w : World) : (brSet env w).2 ≠ 0 := by
  simp only [brSet, henv.fopen, henv.fprintf, if_true]
  split <;> decide

theorem kernel_brSet (w : World) : (brSet env w).1.kernel = w.kernel := rfl

/-! ## Deletions -/

/-- The count goes down with every deletion. -/
theorem nbPorts_deleteOldPorts (env : Env) (rows : List PortRow) (msti : MstpInstance) (w : World) :
    (deleteOldPorts env (collectPorts rows) msti w).1.nbPorts =
      msti.nbPorts - leaving rows msti.ports.values := by
  have hwalk : ∀ (nodes : List (Hmap.Node MstpInstancePort)) (w : World) (nb : ℤ),
      (Hmap.walkSafe (deleteOrRefresh env (collectPorts rows)) (w, nb) nodes).1.2 =
        nb - leaving rows (nodes.map (·.value)) := by
    intro nodes
    induction nodes with
    | nil => simp [Hmap.walkSafe, leaving]
    | cons n nodes ih =>
      intro w nb
      cases hrow : firstRow rows n.value.name with
      | none =>
        simp only [Hmap.walkSafe, deleteOrRefresh, shashFindData_collectPorts, hrow, ih, leaving,
          List.map_cons, List.countP_cons, Option.isNone_none, if_true]
        omega
      | some row =>
        simp only [Hmap.walkSafe, deleteOrRefresh, shashFindData_collectPorts, hrow, ih]
        simp [leaving, hrow]
  exact hwalk msti.ports.nodes w msti.nbPorts

theorem walkSafe_deleteOrRefresh_state (henv : env.Healthy) (rows : List PortRow) (w : World)
    (nb : ℤ) (nodes : List (Hmap.Node MstpInstancePort)) :
    let st := (Hmap.walkSafe (deleteOrRefresh env (collectPorts rows)) (w, nb) nodes).1
    st.1.kernel.linkState = w.kernel.linkState ∧
      ∀ name, name ∈ st.1.kernel.slaves ↔ name ∈ w.kernel.slaves ∧
        ∀ n ∈ nodes, n.value.name = name → firstRow rows name ≠ none := by
  induction nodes generalizing w nb with
  | nil => simp [Hmap.walkSafe]
  | cons n nodes ih =>
    cases hrow : firstRow rows n.value.name with
    | none =>
      obtain ⟨hlink, hslaves⟩ := ih (mstpCistAddDelPort env w n.value.name false) (nb - 1)
      have hkernel : (mstpCistAddDelPort env w n.value.name false).kernel =
          { w.kernel with slaves := w.kernel.slaves.erase n.value.name } :=
        henv.kernel_system w _
      rw [hkernel] at hlink
      simp only [hkernel, Finset.mem_erase] at hslaves
      simp only [Hmap.walkSafe, deleteOrRefresh, shashFindData_collectPorts, hrow]
      refine ⟨hlink, fun name => ?_⟩
      rw [hslaves]
      simp only [List.forall_mem_cons, and_assoc]
      constructor
      · rintro ⟨hne, hmem, hrest⟩
        exact ⟨hmem, fun heq => absurd heq.symm hne, hrest⟩
      · rintro ⟨hmem, hn, hrest⟩
        exact ⟨fun heq => hn heq.symm (heq ▸ hrow), hmem, hrest⟩
    | some row =>
      obtain ⟨hlink, hslaves⟩ := ih w nb
      simp only [Hmap.walkSafe, deleteOrRefresh, shashFindData_collectPorts, hrow]
      refine ⟨hlink, fun name => ?_⟩
      rw [hslaves]
      simp only [List.forall_mem_cons]
      constructor
      · rintro ⟨hmem, hrest⟩
        exact ⟨hmem, fun heq => by simp [← heq, hrow], hrest⟩
      · rintro ⟨hmem, -, hrest⟩
        exact ⟨hmem, hrest⟩

/-! ## Additions -/

/-- The port is enslaved, and its state is set. -/
def Kernel.enslave (k : Kernel) (port : String) (state : PortState) : Kernel :=
  ⟨insert port k.slaves, Function.update k.linkState port (some state)⟩

/-- The kernel after a port was added. -/
theorem mstpCistPortAdd_state (henv : env.Healthy) (msti : MstpInstance) (w : World)
    (name : String) (row : PortRow) :
    let st := mstpCistPortAdd env msti w name row
    match getPortStateFromString env row.portState with
    | none => st.1.nbPorts = msti.nbPorts ∧ st.2.kernel = w.kernel
    | some state => st.1.nbPorts = msti.nbPorts + 1 ∧ st.2.kernel =
        if msti.nbPorts = 0 then w.kernel else w.kernel.enslave name state := by
  simp only [mstpCistPortAdd]
  cases getPortStateFromString env row.portState with
  | none => exact ⟨rfl, rfl⟩
  | some state =>
    refine ⟨rfl, ?_⟩
    by_cases hnb : msti.nbPorts = 0
    · simp [hnb, henv.brSet_ne_zero, kernel_brSet]
    · have hcount : ¬ msti.nbPorts + 1 = 1 := by omega
      simp only [hcount, hnb, if_false, ne_eq, not_true_eq_false, mstpCistSetPort,
        mstpCistAddDelPort, henv.kernel_system]
      rfl

/-- What one round of the loop does: nothing for a tracked port, and otherwise it depends on the row
and on the count whether the port is enslaved. -/
theorem CistInv.addIfNew_cases (h : CistInv env msti.ports) (henv : env.Healthy)
    (entry : String × PortRow) :
    let st := Stp.addIfNew env (msti, w) entry
    (entry.1 ∈ msti.ports.values.map (·.name) ∧ st = (msti, w)) ∨
      entry.1 ∉ msti.ports.values.map (·.name) ∧
        (∀ port, port ∈ st.1.ports.values ↔
          port = newPort env entry.1 entry.2 ∨ port ∈ msti.ports.values) ∧
        match getPortStateFromString env entry.2.portState with
        | none => st.1.nbPorts = msti.nbPorts ∧ st.2.kernel = w.kernel
        | some state => st.1.nbPorts = msti.nbPorts + 1 ∧ st.2.kernel =
            if msti.nbPorts = 0 then w.kernel else w.kernel.enslave entry.1 state := by
  by_cases htracked : entry.1 ∈ msti.ports.values.map (·.name)
  · exact .inl ⟨htracked, h.addIfNew_of_mem htracked⟩
  · rw [h.addIfNew_of_notMem htracked]
    refine .inr ⟨htracked, fun port => ?_, mstpCistPortAdd_state henv ..⟩
    rw [ports_mstpCistPortAdd]
    exact Hmap.mem_values_insert _

/-- An enslaved port is tracked in a valid state, which the kernel has, and every port in a valid
state has been seen with a valid row. -/
structure KernelInv (seen : Finset String) (kernel : Kernel) (ports : List MstpInstancePort) :
    Prop where
  slave : ∀ name ∈ kernel.slaves, ∃ port ∈ ports, port.name = name ∧ port.stpState ≠ .invalid ∧
    kernel.linkState name = some port.stpState
  valid : ∀ port ∈ ports, port.stpState ≠ .invalid → port.name ∈ seen

theorem getPortStateFromString_ne_invalid {s : Option String} {state : PortState}
    (h : getPortStateFromString env s = some state) : state ≠ .invalid := by
  cases s with
  | none => cases h
  | some s =>
    rw [getPortStateFromString] at h
    split_ifs at h <;> cases h <;> decide

section KernelInv

variable {seen : Finset String} {kernel : Kernel} {ports ports' : List MstpInstancePort}
  {port : MstpInstancePort}

theorem KernelInv.of_mem_iff (hk : KernelInv seen kernel ports)
    (hports : ∀ port, port ∈ ports' ↔ port ∈ ports) : KernelInv seen kernel ports' := by
  refine ⟨?_, ?_⟩
  · intro name hname
    obtain ⟨port, hport, hslave⟩ := hk.slave name hname
    exact ⟨port, (hports port).mpr hport, hslave⟩
  · intro port hport
    exact hk.valid port ((hports port).mp hport)

theorem KernelInv.tracked (hk : KernelInv seen kernel ports) {name : String}
    (hname : name ∈ kernel.slaves) : name ∈ ports.map (·.name) := by
  obtain ⟨port, hport, rfl, -⟩ := hk.slave name hname
  exact List.mem_map_of_mem hport

/-- A port that is tracked without being enslaved. -/
theorem KernelInv.cons (hk : KernelInv seen kernel ports)
    (hvalid : port.stpState ≠ .invalid → port.name ∈ seen) :
    KernelInv seen kernel (port :: ports) := by
  refine ⟨?_, ?_⟩
  · intro name hname
    obtain ⟨port, hport, hslave⟩ := hk.slave name hname
    exact ⟨port, List.mem_cons_of_mem _ hport, hslave⟩
  · exact List.forall_mem_cons.mpr ⟨hvalid, hk.valid⟩

theorem KernelInv.enslave (hk : KernelInv seen kernel ports) (port : MstpInstancePort)
    (hfresh : port.name ∉ kernel.slaves) (hvalid : port.stpState ≠ .invalid)
    (hseen : port.name ∈ seen) :
    KernelInv seen (kernel.enslave port.name port.stpState) (port :: ports) := by
  refine ⟨?_, List.forall_mem_cons.mpr ⟨fun _ => hseen, hk.valid⟩⟩
  intro name hname
  obtain rfl | hold := Finset.mem_insert.mp hname
  · exact ⟨port, List.mem_cons_self, rfl, hvalid, Function.update_self ..⟩
  · obtain ⟨other, hother, hname', hvalid', hlink⟩ := hk.slave name hold
    refine ⟨other, List.mem_cons_of_mem _ hother, hname', hvalid', ?_⟩
    have hne : name ≠ port.name := fun heq => hfresh (heq ▸ hold)
    exact (Function.update_of_ne hne ..).trans hlink

end KernelInv

theorem KernelInv.addIfNew {seen : Finset String}
    (hk : KernelInv seen w.kernel msti.ports.values) (h : CistInv env msti.ports)
    (henv : env.Healthy) {entry : String × PortRow}
    (hseen : (getPortStateFromString env entry.2.portState).isSome → entry.1 ∈ seen) :
    KernelInv seen (Stp.addIfNew env (msti, w) entry).2.kernel
      (Stp.addIfNew env (msti, w) entry).1.ports.values := by
  obtain ⟨-, hsame⟩ | ⟨hnew, hports, hstate⟩ := h.addIfNew_cases (w := w) henv entry
  · rw [hsame]
    exact hk
  · have hkernel : KernelInv seen (Stp.addIfNew env (msti, w) entry).2.kernel
        (newPort env entry.1 entry.2 :: msti.ports.values) := by
      cases hrow : getPortStateFromString env entry.2.portState with
      | none =>
        rw [hrow] at hstate
        rw [hstate.2]
        exact hk.cons (by simp [newPort, hrow])
      | some state =>
        rw [hrow] at hstate
        rw [hstate.2]
        have hfresh : entry.1 ∉ w.kernel.slaves := fun hmem => hnew (hk.tracked hmem)
        have hin : entry.1 ∈ seen := hseen (by simp [hrow])
        split
        case isTrue => exact hk.cons fun _ => hin
        case isFalse =>
          have hport : newPort env entry.1 entry.2 = ⟨entry.1, state, entry.2⟩ := by
            simp [newPort, hrow]
          rw [hport]
          exact hk.enslave ⟨entry.1, state, entry.2⟩ hfresh
            (getPortStateFromString_ne_invalid hrow) hin
    exact hkernel.of_mem_iff fun port => (hports port).trans List.mem_cons.symm

/-- The rows are those of the configuration, and no name comes twice. -/
structure ShashOf (rows : List PortRow) (sh : Shash) : Prop where
  nodup : (sh.map (·.1)).Nodup
  rows : ∀ entry ∈ sh, firstRow rows entry.1 = some entry.2

theorem ShashOf.tail {entry : String × PortRow} {sh : Shash} (h : ShashOf rows (entry :: sh)) :
    entry.1 ∉ sh.map (·.1) ∧ ShashOf rows sh := by
  have hnodup := List.nodup_cons.mp h.nodup
  exact ⟨hnodup.1, hnodup.2, fun e he => h.rows e (List.mem_cons_of_mem _ he)⟩

/-- What one round for a new port does to the slaves and the count. -/
theorem CistInv.addIfNew_new (h : CistInv env msti.ports) (henv : env.Healthy)
    {entry : String × PortRow} (hnew : entry.1 ∉ msti.ports.values.map (·.name)) :
    let st := Stp.addIfNew env (msti, w) entry
    let arrives := Arrives env (msti.ports.values.map (·.name))
    (∀ name, name ∈ st.2.kernel.slaves ↔
        name ∈ w.kernel.slaves ∨ name = entry.1 ∧ arrives entry ∧ msti.nbPorts ≠ 0) ∧
      st.1.nbPorts = msti.nbPorts + if arrives entry then 1 else 0 := by
  obtain ⟨hold, -⟩ | ⟨-, -, hstate⟩ := h.addIfNew_cases (w := w) henv entry
  · exact absurd hold hnew
  · cases hrow : getPortStateFromString env entry.2.portState with
    | none =>
      rw [hrow] at hstate
      have hnot : ¬ Arrives env (msti.ports.values.map (·.name)) entry := by simp [Arrives, hrow]
      simp [hstate, hnot]
    | some state =>
      rw [hrow] at hstate
      have harr : Arrives env (msti.ports.values.map (·.name)) entry := by
        simp [Arrives, hrow, hnew]
      by_cases hnb : msti.nbPorts = 0
      · simp [hstate, harr, hnb]
      · simp [hstate, harr, hnb, Kernel.enslave, or_comm]

section Extends

variable {entry : String × PortRow} {sh : Shash} {ports ports' : Hmap MstpInstancePort}

/-- One more tracked port makes no difference for the entries of other ports. -/
theorem Extends.mem_names_iff (hext : Extends env rows [entry.1] ports ports')
    (hnotin : entry.1 ∉ sh.map (·.1)) :
    ∀ e ∈ sh, e.1 ∈ ports'.values.map (·.name) ↔ e.1 ∈ ports.values.map (·.name) := by
  intro e he
  have hne : e.1 ≠ entry.1 := fun heq => hnotin (heq ▸ List.mem_map_of_mem he)
  rw [hext.names, List.mem_singleton, or_iff_right hne]

theorem Extends.arrives_iff (hext : Extends env rows [entry.1] ports ports')
    (hnotin : entry.1 ∉ sh.map (·.1)) :
    ∀ e ∈ sh, Arrives env (ports'.values.map (·.name)) e ↔
      Arrives env (ports.values.map (·.name)) e := by
  intro e he
  rw [Arrives, hext.mem_names_iff hnotin e he, Arrives]

theorem Extends.countP_arrives (hext : Extends env rows [entry.1] ports ports')
    (hnotin : entry.1 ∉ sh.map (·.1)) :
    sh.countP (Arrives env (ports'.values.map (·.name))) =
      sh.countP (Arrives env (ports.values.map (·.name))) := by
  apply List.countP_congr
  intro e he
  simpa using hext.arrives_iff hnotin e he

end Extends

/-- The loop over the rows leaves the ports tracked before as they are, and enslaves the new ones in
a valid state unless the count reaches 1 on the way. -/
theorem slaves_addIfNews (henv : env.Healthy) (h : CistInv env msti.ports)
    (hcfgs : HasRows rows msti.ports) {sh : Shash} (hsh : ShashOf rows sh)
    (htracked : ∀ name ∈ w.kernel.slaves, name ∈ msti.ports.values.map (·.name)) :
    let slaves := (sh.foldl (addIfNew env) (msti, w)).2.kernel.slaves
    let arrives := Arrives env (msti.ports.values.map (·.name))
    (∀ name, name ∉ sh.map (·.1) ∨ name ∈ msti.ports.values.map (·.name) →
        (name ∈ slaves ↔ name ∈ w.kernel.slaves)) ∧
      ((∀ entry ∈ sh, arrives entry → entry.1 ∈ slaves) ↔
        ¬ (msti.nbPorts ≤ 0 ∧ 0 < msti.nbPorts + sh.countP arrives)) := by
  intro slaves arrives
  induction sh generalizing msti w with
  | nil => simp [slaves]
  | cons entry sh ih =>
    obtain ⟨hnotin, htail⟩ := hsh.tail
    have hext := h.addIfNew (w := w) hcfgs (hsh.rows entry List.mem_cons_self)
    obtain ⟨hold, hsame⟩ | ⟨hnew, hports, hstate⟩ := h.addIfNew_cases (w := w) henv entry
    · obtain ⟨hkeep, hiff⟩ := ih h hcfgs htail htracked
      have hslaves : slaves = (sh.foldl (addIfNew env) (msti, w)).2.kernel.slaves := by
        simp only [slaves, List.foldl_cons, hsame]
      have hnot : ¬ arrives entry := fun harr => harr.1 hold
      rw [hslaves]
      refine ⟨fun name hname => hkeep name ?_, ?_⟩
      · exact hname.imp_left fun hnotin hmem => hnotin (List.mem_cons_of_mem _ hmem)
      · rw [List.forall_mem_cons, List.countP_cons_of_neg (by simpa using hnot)]
        simpa [hnot] using hiff
    · obtain ⟨hslave, hnb⟩ := h.addIfNew_new (w := w) henv hnew
      have hnames : ∀ name, name ∈ (addIfNew env (msti, w) entry).1.ports.values.map (·.name) ↔
          name = entry.1 ∨ name ∈ msti.ports.values.map (·.name) := by
        intro name
        rw [hext.names, List.mem_singleton]
      have hrest : ∀ name ∈ (addIfNew env (msti, w) entry).2.kernel.slaves,
          name ∈ (addIfNew env (msti, w) entry).1.ports.values.map (·.name) := by
        intro name hname
        obtain hname | ⟨hname, -⟩ := (hslave name).mp hname
        · exact (hnames name).mpr (.inr (htracked name hname))
        · exact (hnames name).mpr (.inl hname)
      obtain ⟨hkeep, hiff⟩ := ih hext.inv hext.cfgs htail hrest
      rw [hext.countP_arrives hnotin, hnb] at hiff
      have hfresh : entry.1 ∉ w.kernel.slaves := fun hmem => hnew (htracked _ hmem)
      have hentry : entry.1 ∈ slaves ↔ arrives entry ∧ msti.nbPorts ≠ 0 := by
        refine (hkeep entry.1 (.inl hnotin)).trans ?_
        rw [hslave]
        simp [hfresh, arrives]
      refine ⟨fun name hname => ?_, ?_⟩
      · have hne : name ≠ entry.1 := by
          rintro rfl
          cases hname with
          | inl hnotin => exact hnotin List.mem_cons_self
          | inr hmem => exact hnew hmem
        have hname' : name ∉ sh.map (·.1) ∨
            name ∈ (addIfNew env (msti, w) entry).1.ports.values.map (·.name) :=
          hname.imp (fun hnot hmem => hnot (List.mem_cons_of_mem _ hmem))
            fun hmem => (hnames name).mpr (.inr hmem)
        refine (hkeep name hname').trans ?_
        rw [hslave]
        simp [hne]
      · have htailiff : (∀ e ∈ sh, arrives e → e.1 ∈ slaves) ↔ ¬ (msti.nbPorts +
            (if arrives entry then 1 else 0) ≤ 0 ∧ 0 < msti.nbPorts +
            (if arrives entry then 1 else 0) + sh.countP arrives) := by
          refine Iff.trans ?_ hiff
          exact forall₂_congr fun e he => by rw [hext.arrives_iff hnotin e he]; rfl
        rw [List.forall_mem_cons, htailiff, hentry, List.countP_cons]
        by_cases harr : arrives entry
        · simp only [harr, if_true, decide_true, true_and, forall_const, ne_eq]
          omega
        · simp [harr]

theorem KernelInv.addIfNews {seen : Finset String}
    (hk : KernelInv seen w.kernel msti.ports.values) (h : CistInv env msti.ports)
    (henv : env.Healthy) (hcfgs : HasRows rows msti.ports) {sh : Shash} (hsh : ShashOf rows sh)
    (hseen : ∀ entry ∈ sh, (getPortStateFromString env entry.2.portState).isSome →
      entry.1 ∈ seen) :
    KernelInv seen (sh.foldl (Stp.addIfNew env) (msti, w)).2.kernel
      (sh.foldl (Stp.addIfNew env) (msti, w)).1.ports.values := by
  induction sh generalizing msti w with
  | nil => exact hk
  | cons entry sh ih =>
    have hext := h.addIfNew (w := w) hcfgs (hsh.rows entry List.mem_cons_self)
    have hstep := hk.addIfNew h henv (hseen entry List.mem_cons_self)
    exact ih hstep hext.inv hext.cfgs hsh.tail.2 fun e he => hseen e (List.mem_cons_of_mem _ he)

/-! ## The other two loops -/

/-- A port that is deleted is taken out of the bridge. -/
theorem KernelInv.deleteOldPorts {seen seen' : Finset String}
    (hk : KernelInv seen w.kernel msti.ports.values) (henv : env.Healthy)
    (hseen : ∀ name ∈ seen, firstRow rows name ≠ none → name ∈ seen') :
    KernelInv seen' (Stp.deleteOldPorts env (collectPorts rows) msti w).2.kernel
      (Stp.deleteOldPorts env (collectPorts rows) msti w).1.ports.values := by
  obtain ⟨hlink, hslaves⟩ :=
    walkSafe_deleteOrRefresh_state henv rows w msti.nbPorts msti.ports.nodes
  rw [ports_deleteOldPorts]
  refine ⟨?_, ?_⟩
  · intro name hname
    obtain ⟨hold, hrow⟩ := (hslaves name).mp hname
    obtain ⟨port, hport, rfl, hvalid, hstate⟩ := hk.slave name hold
    obtain ⟨n, hn, rfl⟩ := List.mem_map.mp hport
    obtain ⟨row, hrow⟩ := Option.ne_none_iff_exists'.mp (hrow n hn rfl)
    have hkept := mem_keptNodes.mpr ⟨n, hn, row, hrow, rfl⟩
    refine ⟨{ n.value with cfg := row }, List.mem_map.mpr ⟨_, hkept, rfl⟩, rfl, hvalid, ?_⟩
    exact (congrFun hlink _).trans hstate
  · intro port hport hvalid
    obtain ⟨m, hm, rfl⟩ := List.mem_map.mp hport
    obtain ⟨n, hn, row, hrow, rfl⟩ := mem_keptNodes.mp hm
    apply hseen _ (hk.valid n.value (List.mem_map_of_mem hn) hvalid)
    simp [hrow]

theorem checkPortState_state (henv : env.Healthy) {w' : World} {port port' : MstpInstancePort}
    (h : checkPortState env w port = some (w', port')) :
    w'.kernel.slaves = w.kernel.slaves ∧
      (∀ name, name ≠ port.name → w'.kernel.linkState name = w.kernel.linkState name) ∧
      (w.kernel.linkState port.name = some port.stpState →
        w'.kernel.linkState port.name = some port'.stpState) := by
  simp only [checkPortState] at h
  cases hstate : getPortStateFromString env port.cfg.portState with
  | none =>
    rw [hstate] at h
    cases h
  | some state =>
    rw [hstate] at h
    simp only [] at h
    split at h
    case isTrue =>
      cases h
      rw [mstpCistSetPort, henv.kernel_system]
      refine ⟨rfl, fun name hne => Function.update_of_ne hne .., fun _ => Function.update_self ..⟩
    case isFalse =>
      cases h
      exact ⟨rfl, fun _ _ => rfl, id⟩

/-- The walk over the ports changes states in the CIST and in the kernel together. -/
theorem walkUntil_checkPortState_state (henv : env.Healthy)
    (nodes : List (Hmap.Node MstpInstancePort)) (hnodup : (nodes.map (·.value.name)).Nodup)
    (w : World) :
    let r := Hmap.walkUntil (checkPortState env) w nodes
    r.1.kernel.slaves = w.kernel.slaves ∧
      (∀ name, name ∉ nodes.map (·.value.name) →
        r.1.kernel.linkState name = w.kernel.linkState name) ∧
      (∀ n ∈ nodes, ∃ m ∈ r.2, m.value.name = n.value.name ∧
        (n.value.stpState ≠ .invalid → m.value.stpState ≠ .invalid) ∧
        (w.kernel.linkState n.value.name = some n.value.stpState →
          r.1.kernel.linkState n.value.name = some m.value.stpState)) ∧
      ∀ m ∈ r.2, m.value.stpState ≠ .invalid → ∃ n ∈ nodes, n.value.name = m.value.name ∧
        (n.value.stpState ≠ .invalid ∨
          (getPortStateFromString env n.value.cfg.portState).isSome) := by
  induction nodes generalizing w with
  | nil => simp [Hmap.walkUntil]
  | cons n nodes ih =>
    rw [List.map_cons, List.nodup_cons] at hnodup
    cases hcheck : checkPortState env w n.value with
    | none =>
      rw [Hmap.walkUntil, hcheck]
      refine ⟨rfl, fun _ _ => rfl, fun m hm => ⟨m, hm, rfl, id, id⟩, ?_⟩
      exact fun m hm hvalid => ⟨m, hm, rfl, .inl hvalid⟩
    | some r =>
      obtain ⟨w', port'⟩ := r
      obtain ⟨hslaves, hother, hself⟩ := checkPortState_state henv hcheck
      obtain ⟨hstate, hport⟩ := checkPortState_some hcheck
      obtain ⟨ihslaves, ihother, ihnew, ihold⟩ := ih hnodup.2 w'
      rw [Hmap.walkUntil, hcheck]
      refine ⟨ihslaves.trans hslaves, ?_, ?_, ?_⟩
      · intro name hname
        rw [List.map_cons, List.mem_cons, not_or] at hname
        exact (ihother name hname.2).trans (hother name hname.1)
      · rw [List.forall_mem_cons]
        refine ⟨⟨{ n with value := port' }, List.mem_cons_self, ?_, fun _ => ?_, ?_⟩, ?_⟩
        · rw [hport]
        · exact getPortStateFromString_ne_invalid hstate
        · intro hlink
          exact (ihother _ hnodup.1).trans (hself hlink)
        · intro k hk
          obtain ⟨m, hm, hname, hvalid, hlink⟩ := ihnew k hk
          have hne : k.value.name ≠ n.value.name :=
            fun heq => hnodup.1 (heq ▸ List.mem_map_of_mem hk)
          refine ⟨m, List.mem_cons_of_mem _ hm, hname, hvalid, fun hk => hlink ?_⟩
          rw [hother _ hne]
          exact hk
      · rw [List.forall_mem_cons]
        refine ⟨fun _ => ⟨n, List.mem_cons_self, ?_, .inr ?_⟩, ?_⟩
        · rw [hport]
        · rw [hstate]
          rfl
        · intro m hm hvalid
          obtain ⟨k, hk, hor⟩ := ihold m hm hvalid
          exact ⟨k, List.mem_cons_of_mem _ hk, hor⟩

theorem KernelInv.checkPorts {seen : Finset String}
    (hk : KernelInv seen w.kernel msti.ports.values) (h : CistInv env msti.ports)
    (henv : env.Healthy) (hcfgs : HasRows rows msti.ports)
    (hseen : ∀ name, (rowState env rows name).isSome → name ∈ seen) :
    KernelInv seen (Stp.checkPorts env msti w).2.kernel
      (Stp.checkPorts env msti w).1.ports.values := by
  have hnodup : (msti.ports.nodes.map (·.value.name)).Nodup := by
    simpa only [Hmap.values, List.map_map, Function.comp_def] using h.nodup
  obtain ⟨hslaves, -, hnew, hold⟩ :=
    walkUntil_checkPortState_state henv msti.ports.nodes hnodup w
  refine ⟨?_, ?_⟩
  · intro name hname
    obtain ⟨port, hport, rfl, hvalid, hlink⟩ := hk.slave name (hslaves ▸ hname)
    obtain ⟨n, hn, rfl⟩ := List.mem_map.mp hport
    obtain ⟨m, hm, hname, hvalid', hlink'⟩ := hnew n hn
    exact ⟨m.value, List.mem_map_of_mem hm, hname, hvalid' hvalid, hlink' hlink⟩
  · intro port hport hvalid
    obtain ⟨m, hm, rfl⟩ := List.mem_map.mp hport
    obtain ⟨n, hn, hname, hor⟩ := hold m hm hvalid
    rw [← hname]
    cases hor with
    | inl hvalid => exact hk.valid n.value (List.mem_map_of_mem hn) hvalid
    | inr hsome =>
      apply hseen
      rw [rowState, hcfgs n.value (List.mem_map_of_mem hn)]
      exact hsome

end Passes

/-! ## Calls -/

section Calls

variable {env : Env} {msti : MstpInstance} {w : World} {rows : List PortRow}

theorem ShashOf.order (env : Env) (rows : List PortRow) :
    ShashOf rows (env.order (collectPorts rows)) := by
  have hperm := env.order_perm (collectPorts rows)
  refine ⟨?_, fun entry hentry => mem_collectPorts (hperm.mem_iff.mp hentry)⟩
  exact ((hperm.map _).nodup_iff).mpr nodup_collectPorts

theorem arrives_deleteOldPorts_iff (env : Env) (msti : MstpInstance) (w : World)
    (rows : List PortRow) : ∀ entry ∈ collectPorts rows,
      (Arrives env ((Stp.deleteOldPorts env (collectPorts rows) msti w).1.ports.values.map
        (·.name)) entry ↔ Arrives env (msti.ports.values.map (·.name)) entry) := by
  intro entry hentry
  simp only [Arrives, mem_names_deleteOldPorts, mem_collectPorts hentry, Option.isSome_some,
    and_true]

/-- The deletions make no difference for the rows that add a port. -/
theorem countP_arrives_deleteOldPorts (env : Env) (msti : MstpInstance) (w : World)
    (rows : List PortRow) : (env.order (collectPorts rows)).countP (Arrives env
      ((Stp.deleteOldPorts env (collectPorts rows) msti w).1.ports.values.map (·.name))) =
        arriving env rows msti.ports.values := by
  rw [(env.order_perm (collectPorts rows)).countP_eq]
  apply List.countP_congr
  intro entry hentry
  simpa using arrives_deleteOldPorts_iff env msti w rows entry hentry

/-- A call changes nothing about the slaves among the ports it keeps, and it enslaves the ports it
adds in a valid state if and only if they do not bring the count to 1. -/
theorem CistInv.slaves_configurePorts (h : CistInv env msti.ports) (henv : env.Healthy)
    (rows : List PortRow)
    (htracked : ∀ name ∈ w.kernel.slaves, name ∈ msti.ports.values.map (·.name)) :
    let slaves := (mstpCistConfigurePorts env msti w rows).2.kernel.slaves
    let count := msti.nbPorts - leaving rows msti.ports.values
    (∀ name ∈ msti.ports.values.map (·.name), (firstRow rows name).isSome →
        (name ∈ slaves ↔ name ∈ w.kernel.slaves)) ∧
      ((∀ entry ∈ collectPorts rows, Arrives env (msti.ports.values.map (·.name)) entry →
          entry.1 ∈ slaves) ↔
        ¬ (count ≤ 0 ∧ 0 < count + arriving env rows msti.ports.values)) := by
  intro slaves count
  let deleted := Stp.deleteOldPorts env (collectPorts rows) msti w
  have hinv : CistInv env deleted.1.ports := h.deleteOldPorts
  have hcfgs : HasRows rows deleted.1.ports := .deleteOldPorts
  have hnames : ∀ name, name ∈ deleted.1.ports.values.map (·.name) ↔
      name ∈ msti.ports.values.map (·.name) ∧ (firstRow rows name).isSome :=
    fun name => mem_names_deleteOldPorts
  obtain ⟨-, hslaves⟩ :=
    walkSafe_deleteOrRefresh_state henv rows w msti.nbPorts msti.ports.nodes
  replace hslaves : ∀ name, name ∈ deleted.2.kernel.slaves ↔ name ∈ w.kernel.slaves ∧
      ∀ n ∈ msti.ports.nodes, n.value.name = name → firstRow rows name ≠ none := hslaves
  have hnb : deleted.1.nbPorts = count := nbPorts_deleteOldPorts env rows msti w
  have htracked' : ∀ name ∈ deleted.2.kernel.slaves,
      name ∈ deleted.1.ports.values.map (·.name) := by
    intro name hname
    obtain ⟨hold, hrow⟩ := (hslaves name).mp hname
    refine (hnames name).mpr ⟨htracked name hold, ?_⟩
    obtain ⟨port, hport, rfl⟩ := List.mem_map.mp (htracked name hold)
    obtain ⟨n, hn, rfl⟩ := List.mem_map.mp hport
    exact Option.isSome_iff_ne_none.mpr (hrow n hn rfl)
  obtain ⟨hkeep, hiff⟩ := slaves_addIfNews henv hinv hcfgs (.order env rows) htracked'
  have hcheck : slaves =
      (Stp.addNewPorts env (collectPorts rows) deleted.1 deleted.2).2.kernel.slaves := by
    have hnodup := (hinv.addNewPorts (w := deleted.2) hcfgs).inv.nodup
    simp only [Hmap.values, List.map_map, Function.comp_def] at hnodup
    exact (walkUntil_checkPortState_state henv _ hnodup _).1
  rw [hcheck]
  refine ⟨fun name hname hrow => ?_, ?_⟩
  · refine (hkeep name (.inr ((hnames name).mpr ⟨hname, hrow⟩))).trans ((hslaves name).trans ?_)
    exact and_iff_left fun n _ _ => Option.isSome_iff_ne_none.mp hrow
  · rw [countP_arrives_deleteOldPorts env msti w rows, hnb] at hiff
    refine Iff.trans ?_ hiff
    refine forall_congr' fun entry => ?_
    rw [(env.order_perm (collectPorts rows)).mem_iff]
    refine forall_congr' fun hentry => ?_
    rw [arrives_deleteOldPorts_iff env msti w rows entry hentry]
    rfl

/-- All three loops keep the invariant. -/
theorem KernelInv.configurePorts {seen seen' : Finset String}
    (hk : KernelInv seen w.kernel msti.ports.values) (h : CistInv env msti.ports)
    (henv : env.Healthy) (hold : ∀ name ∈ seen, firstRow rows name ≠ none → name ∈ seen')
    (hnew : ∀ name, (rowState env rows name).isSome → name ∈ seen') :
    KernelInv seen' (mstpCistConfigurePorts env msti w rows).2.kernel
      (mstpCistConfigurePorts env msti w rows).1.ports.values := by
  have hcfgs : HasRows rows (Stp.deleteOldPorts env (collectPorts rows) msti w).1.ports :=
    .deleteOldPorts
  have hadded := (hk.deleteOldPorts henv hold).addIfNews h.deleteOldPorts henv hcfgs
    (.order env rows) ?_
  · have hrec : Reconciled env rows (addNewPorts env (collectPorts rows)
        (Stp.deleteOldPorts env (collectPorts rows) msti w).1
        (Stp.deleteOldPorts env (collectPorts rows) msti w).2).1.ports :=
      h.deleteOldPorts.addNewPorts hcfgs
    exact hadded.checkPorts hrec.inv henv hrec.cfgs hnew
  · intro entry hentry hsome
    apply hnew
    rw [rowState, (ShashOf.order env rows).rows entry hentry]
    exact hsome

/-- What holds of the plug-in and the ports that have been seen with a valid row after any calls. -/
structure Monitor.Inv (env : Env) (m : Monitor) : Prop where
  plugin : m.plugin.Inv env
  kernel : KernelInv m.seen m.plugin.world.kernel m.plugin.ports
  tracked : ∀ name ∈ m.seen, name ∈ m.plugin.ports.map (·.name)

theorem mem_validSince {seen : Finset String} {name : String} :
    name ∈ validSince env seen rows ↔ (firstRow rows name).isSome ∧
      ((rowState env rows name).isSome ∨ name ∈ seen) := by
  have hport : name ∈ rows.filterMap (·.port) ↔ (firstRow rows name).isSome := by
    rw [firstRow, List.find?_isSome]
    simp
  rw [validSince, List.mem_toFinset, List.mem_filter, hport, decide_eq_true_iff]

variable {m : Monitor}

theorem Plugin.Inv.nodup {s : Plugin} (h : s.Inv env) : (s.ports.map (·.name)).Nodup := by
  rw [Plugin.ports]
  cases hcist : s.cist with
  | none => exact List.nodup_nil
  | some msti => exact (h msti hcist).nodup

/-- Under the invariant only a port that is not enslaved can be amiss. -/
theorem Monitor.Inv.follows_iff (h : m.Inv env) :
    m.Follows ↔ ∀ name ∈ m.seen, name ∈ m.plugin.world.kernel.slaves := by
  constructor
  · intro hfollows name hname
    exact (hfollows.slaves name).mpr ⟨h.tracked name hname, hname⟩
  · intro hall
    refine ⟨fun name => ⟨fun hname => ?_, fun hname => hall name hname.2⟩, ?_⟩
    · obtain ⟨port, hport, rfl, hvalid, -⟩ := h.kernel.slave name hname
      exact ⟨List.mem_map_of_mem hport, h.kernel.valid port hport hvalid⟩
    · intro port hport hname
      obtain ⟨port', hport', heq, -, hlink⟩ := h.kernel.slave port.name hname
      rw [← List.inj_on_of_nodup_map h.plugin.nodup hport' hport heq]
      rw [heq]
      exact hlink

theorem Monitor.Inv.step (h : m.Inv env) (henv : env.Healthy) (rows : List PortRow) :
    (m.step env rows).Inv env := by
  obtain ⟨msti, w, hconf, heq⟩ := h.plugin.update rows
  have hk : KernelInv m.seen w.kernel msti.ports.values := by
    rw [hconf.kernel, hconf.ports]
    exact h.kernel
  have hrec := hconf.inv.configurePorts w rows
  have hstep : m.step env rows = ⟨⟨some (mstpCistConfigurePorts env msti w rows).1,
      (mstpCistConfigurePorts env msti w rows).2⟩, validSince env m.seen rows⟩ := by
    rw [← heq]
    rfl
  rw [hstep]
  refine ⟨?_, ?_, ?_⟩
  · intro msti' hcist
    cases hcist
    exact hrec.inv
  · refine hk.configurePorts hconf.inv henv ?_ ?_
    · intro name hname hrow
      exact mem_validSince.mpr ⟨Option.isSome_iff_ne_none.mpr hrow, .inr hname⟩
    · intro name hsome
      have hrow : (firstRow rows name).isSome := Option.isSome_of_isSome_bind hsome
      exact mem_validSince.mpr ⟨hrow, .inl hsome⟩
  · intro name hname
    exact (hrec.names name).mpr (mem_validSince.mp hname).1

/-- A call keeps the bridge in step exactly if no port brings the count to 1 and no port that was
added without a valid state gets one. -/
theorem Monitor.Inv.step_follows_iff (h : m.Inv env) (henv : env.Healthy) (hfollows : m.Follows)
    (rows : List PortRow) : (m.step env rows).Follows ↔ KeepsBridge env m rows := by
  obtain ⟨msti, w, hconf, heq⟩ := h.plugin.update rows
  have hslaves : (m.step env rows).plugin.world.kernel.slaves =
      (mstpCistConfigurePorts env msti w rows).2.kernel.slaves := by
    rw [Monitor.step, heq]
  have htracked : ∀ name ∈ w.kernel.slaves, name ∈ msti.ports.values.map (·.name) := by
    rw [hconf.kernel, hconf.ports]
    exact fun name hname => h.kernel.tracked hname
  obtain ⟨hkept, hadded⟩ := hconf.inv.slaves_configurePorts henv rows htracked
  rw [← hslaves] at hkept hadded
  rw [hconf.ports, hconf.nbPorts] at hadded
  rw [hconf.ports, hconf.kernel] at hkept
  rw [(h.step henv rows).follows_iff, KeepsBridge, ← hadded]
  constructor
  · intro hall
    refine ⟨fun entry hentry harrives => ?_, fun port hport hinvalid => ?_⟩
    · have hrow := mem_collectPorts hentry
      apply hall
      refine mem_validSince.mpr ⟨Option.isSome_of_mem hrow, .inl ?_⟩
      rw [rowState, hrow]
      exact harrives.2
    · by_contra hsome
      -- a port that gets its first state is to be enslaved, but nothing does it
      replace hsome := Option.isSome_iff_ne_none.mpr hsome
      have hrow : (firstRow rows port.name).isSome := Option.isSome_of_isSome_bind hsome
      have hname := List.mem_map_of_mem (f := (·.name)) hport
      have hmem := hall port.name (mem_validSince.mpr ⟨hrow, .inl hsome⟩)
      obtain ⟨port', hport', heq', hvalid, -⟩ :=
        h.kernel.slave port.name ((hkept port.name hname hrow).mp hmem)
      rw [List.inj_on_of_nodup_map h.plugin.nodup hport' hport heq'] at hvalid
      exact hvalid hinvalid
  · intro hkeeps name hname
    obtain ⟨hrow, hor⟩ := mem_validSince.mp hname
    by_cases htracked : name ∈ m.plugin.ports.map (·.name)
    · apply (hkept name htracked hrow).mpr
      apply h.follows_iff.mp hfollows
      obtain ⟨port, hport, rfl⟩ := List.mem_map.mp htracked
      cases hor with
      | inr hseen => exact hseen
      | inl hsome =>
        apply h.kernel.valid port hport
        intro hinvalid
        rw [hkeeps.2 port hport hinvalid] at hsome
        cases hsome
    · have hsome := hor.resolve_right fun hseen => htracked (h.tracked name hseen)
      obtain ⟨row, hrow⟩ := Option.isSome_iff_exists.mp hrow
      rw [rowState, hrow] at hsome
      exact hkeeps.1 (name, row) (exists_mem_collectPorts hrow) ⟨htracked, hsome⟩

theorem Monitor.Inv.initial : Monitor.initial.Inv env where
  plugin := fun _ hcist => nomatch hcist
  kernel :=
    { slave := fun _ hname => absurd hname (Finset.notMem_empty _)
      valid := fun _ hport => nomatch hport }
  tracked := fun _ hname => absurd hname (Finset.notMem_empty _)

/-- Along a run the enslaved ports are the tracked ones that have had a valid state, with the states
that the CIST has, if and only if every call of it meets `KeepsBridge`. -/
theorem kernel_bridge_follows_iff (henv : env.Healthy) (calls : List (List PortRow)) :
    Always (Monitor.step env) Monitor.Follows .initial calls ↔
      Along (Monitor.step env) (KeepsBridge env) .initial calls := by
  have hinit : Monitor.initial.Inv env := .initial
  refine always_iff_along (I := Monitor.Inv env) (fun m rows _ h _ => h.step henv rows)
    (fun m rows _ h hfollows => h.step_follows_iff henv hfollows rows) hinit ?_
  exact hinit.follows_iff.mpr fun _ hname => absurd hname (Finset.notMem_empty _)

instance (env : Env) (m : Monitor) (rows : List PortRow) : Decidable (KeepsBridge env m rows) :=
  inferInstanceAs (Decidable (_ ∧ _))

/-- Everything succeeds. -/
def plainEnv : Env where
  names := ⟨"Blocking", "Disabled", "Learning", "Forwarding"⟩
  hashString := String.length
  layout := .pushFront
  order sh := sh
  order_perm _ := .rfl
  system _ _ := true
  socket _ := true
  fopen _ := true
  fprintf _ text := text.utf8ByteSize
  ioctl _ := 0

theorem healthy_plainEnv : plainEnv.Healthy := ⟨fun _ _ => rfl, fun _ => rfl, fun _ _ => rfl⟩

/-- A port without a valid state is deleted, which makes the count negative. The next one brings it
back to 0 and is enslaved. -/
theorem kernel_bridge_follows_negative_count :
    let calls : List (List PortRow) := [[⟨some "1", none⟩], [], [⟨some "2", some "Forwarding"⟩]]
    Always (Monitor.step plainEnv) Monitor.Follows .initial calls ∧
      (calls.foldl (Monitor.step plainEnv) .initial).plugin.world.kernel.slaves = {"2"} := by
  intro calls
  have hkeeps : Along (Monitor.step plainEnv) (KeepsBridge plainEnv) .initial calls := by
    decide +kernel
  exact ⟨(kernel_bridge_follows_iff healthy_plainEnv calls).mpr hkeeps, by decide +kernel⟩

/-- The first port brings the count to 1 and is not enslaved. -/
theorem first_port_not_enslaved :
    ¬ ∀ (env : Env), env.Healthy → ∀ calls : List (List PortRow),
      Always (Monitor.step env) Monitor.Follows .initial calls := by
  intro h
  let calls : List (List PortRow) := [[⟨some "1", some "Forwarding"⟩]]
  have hfollows := (h plainEnv healthy_plainEnv calls).last
  have htracked : "1" ∈ (calls.foldl (Monitor.step plainEnv) .initial).plugin.ports.map (·.name) ∧
      "1" ∈ (calls.foldl (Monitor.step plainEnv) .initial).seen := by decide +kernel
  have hslaves :
      "1" ∉ (calls.foldl (Monitor.step plainEnv) .initial).plugin.world.kernel.slaves := by
    decide +kernel
  exact hslaves ((hfollows.slaves "1").mpr htracked)

end Calls

end ContainerPlugin.Stp
