import Mathlib.Data.Finset.Lattice.Lemmas
import ContainerPlugin.Lib.Runs
import ContainerPlugin.Ofproto.AsicColumns

/-!
# Providers come and go

A client allocates a provider, has it constructed, and frees it after `destruct` or when `construct`
returns an error. `construct` puts the provider into `all_sim_provider_nodes` in any case, so that a
provider that is freed because a command of `construct` has failed stays in the table.
-/

namespace ContainerPlugin.Ofproto

open Runs

/-! ## Commands on bridges -/

inductive BridgeCmd where
  | addBr (name : String)
  | setTrunks (name : String)
  | linkUp (name : String)
  | delBr (name : String)
  deriving DecidableEq

def BridgeCmd.text : BridgeCmd → String
  | .addBr name => ovsVsctl ++ " --may-exist add-br " ++ name ++ " -- set bridge " ++ name ++
    " datapath_type=netdev"
  | .setTrunks name => ovsVsctl ++ " set port " ++ name ++ " trunks=0"
  | .linkUp name => swnsExec ++ " /sbin/ip link set dev " ++ name ++ " up"
  | .delBr name => ovsVsctl ++ " del-br " ++ name

/-- The size of the buffer; `destruct` has one of its own. -/
def BridgeCmd.bufferSize : BridgeCmd → ℕ
  | .delBr _ => 80
  | _ => maxCmdLen

def BridgeCmd.Fits (c : BridgeCmd) : Prop := strlen c.text < c.bufferSize

instance (c : BridgeCmd) : Decidable c.Fits := inferInstanceAs (Decidable (_ < _))

/-- What the program does not decide: which commands fail although they could be carried out, what
becomes of a text that was cut off, and the addresses `malloc` returns. -/
structure BridgeEnv where
  fails : List BridgeCmd → BridgeCmd → Bool
  cut : List BridgeCmd → BridgeCmd → Finset String → Finset String × Bool
  malloc : List Ptr → Ptr
  malloc_fresh : ∀ live, malloc live ∉ live

def BridgeEnv.Healthy (env : BridgeEnv) : Prop := ∀ log c, env.fails log c = false

/-- The history of commands and the bridges of the ASIC. -/
structure BridgeWorld where
  log : List BridgeCmd
  bridges : Finset String

/-- A bridge comes with the port and the link of its name. -/
def BridgeCmd.exec (bridges : Finset String) : BridgeCmd → Option (Finset String)
  | .addBr name => some (insert name bridges)
  | .setTrunks name | .linkUp name => if name ∈ bridges then some bridges else none
  | .delBr name => if name ∈ bridges then some (bridges.erase name) else none

/-- `system(cmd)`, and whether it returned 0. -/
def BridgeWorld.system (env : BridgeEnv) (w : BridgeWorld) (c : BridgeCmd) : BridgeWorld × Bool :=
  if ¬ c.Fits then
    ({ log := w.log ++ [c], bridges := (env.cut w.log c w.bridges).1 },
      (env.cut w.log c w.bridges).2)
  else if env.fails w.log c then ({ w with log := w.log ++ [c] }, false)
  else
    match c.exec w.bridges with
    | some bridges => ({ log := w.log ++ [c], bridges := bridges }, true)
    | none => ({ w with log := w.log ++ [c] }, false)

/-- One command after the other, and whether all returned 0. -/
def BridgeWorld.systemAll (env : BridgeEnv) : BridgeWorld → List BridgeCmd → BridgeWorld × Bool
  | w, [] => (w, true)
  | w, c :: cs =>
    let (w, ok) := w.system env c
    let (w, oks) := BridgeWorld.systemAll env w cs
    (w, ok && oks)

/-! ## The life cycle -/

/-- A `struct sim_provider_node` and the type of its `struct ofproto`. -/
structure ProviderNode where
  type : String
  provider : State

structure Registry where
  /-- The providers that are allocated. -/
  live : List Ptr
  node : Ptr → ProviderNode
  allSimProviderNodes : List Ptr
  world : BridgeWorld

def constructCmds (name : String) : List BridgeCmd := [.addBr name, .setTrunks name, .linkUp name]

/-- What `construct` sets in the provider. -/
def State.construct (s : State) (vrf : Bool) : State :=
  { s with
    vrf := vrf
    bundles := []
    mbridge := .empty
    vlansBmp := ∅
    vlanIntfBmp := ∅ }

/-- `construct`, and whether it returns 0. -/
def Registry.construct (env : BridgeEnv) (r : Registry) (q : Ptr) : Registry × Bool :=
  let node := r.node q
  let isBridge := decide (node.type = "system")
  let (world, ok) :=
    if isBridge then r.world.systemAll env (constructCmds node.provider.name) else (r.world, true)
  ({ r with
      node := Function.update r.node q { node with provider := node.provider.construct !isBridge }
      allSimProviderNodes := q :: r.allSimProviderNodes
      world := world }, ok)

/-- `destruct` -/
def Registry.destruct (env : BridgeEnv) (r : Registry) (q : Ptr) : Registry :=
  let provider := (r.node q).provider
  { r with
    allSimProviderNodes := r.allSimProviderNodes.erase q
    world := if provider.vrf = false then (r.world.system env (.delBr provider.name)).1 else r.world }

/-- `dealloc` -/
def Registry.dealloc (r : Registry) (q : Ptr) : Registry := { r with live := r.live.erase q }

/-- `alloc`, and what the client sets. -/
def Registry.alloc (env : BridgeEnv) (r : Registry) (node : ProviderNode) : Registry :=
  { r with
    live := env.malloc r.live :: r.live
    node := Function.update r.node (env.malloc r.live) node }

/-- `enumerate_names` -/
def Registry.enumerateNames (r : Registry) (type : String) : Except Fault (Finset String) :=
  r.allSimProviderNodes.foldlM (fun names q =>
    if q ∉ r.live then .error .useAfterFree
    else if (r.node q).type = type then .ok (insert (r.node q).provider.name names)
    else .ok names) ∅

/-- What a client does. -/
inductive LifeEvent where
  | create (node : ProviderNode)
  | delete (q : Ptr)

/-- A provider that cannot be constructed is freed. A client deletes the providers that it has. -/
def Registry.step (env : BridgeEnv) (r : Registry) : LifeEvent → Registry
  | .create node =>
    let (r', ok) := (r.alloc env node).construct env (env.malloc r.live)
    if ok then r' else r'.dealloc (env.malloc r.live)
  | .delete q => if q ∈ r.live then (r.destruct env q).dealloc q else r

def Registry.initial (world : BridgeWorld) : Registry := ⟨[], fun _ => ⟨"", sampleState false⟩, [], world⟩

/-- The names of the providers of a type that are allocated. -/
def Registry.names (r : Registry) (type : String) : Finset String :=
  ((r.live.filter fun q => (r.node q).type = type).map fun q => (r.node q).provider.name).toFinset

/-- `enumerate_names` finds the providers. -/
def Registry.Listed (r : Registry) : Prop := ∀ type, r.enumerateNames type = .ok (r.names type)

/-- No command of `construct` fails. -/
def Creates (env : BridgeEnv) (r : Registry) : LifeEvent → Prop
  | .create node => node.type = "system" →
    (r.world.systemAll env (constructCmds node.provider.name)).2 = true
  | .delete _ => True

instance (env : BridgeEnv) (r : Registry) : ∀ e, Decidable (Creates env r e)
  | .create node => inferInstanceAs (Decidable (node.type = "system" → _))
  | .delete _ => inferInstanceAs (Decidable True)

section Lifecycle

variable {env : BridgeEnv} {r : Registry} {q : Ptr} {e : LifeEvent}

theorem foldlM_names {nodes : List Ptr} (hlive : ∀ q ∈ nodes, q ∈ r.live) (type : String)
    (names : Finset String) : nodes.foldlM (fun names q =>
      if q ∉ r.live then .error .useAfterFree
      else if (r.node q).type = type then .ok (insert (r.node q).provider.name names)
      else .ok names) names = (.ok (names ∪ ((nodes.filter fun q => (r.node q).type = type).map
        fun q => (r.node q).provider.name).toFinset) : Except Fault (Finset String)) := by
  induction nodes generalizing names with
  | nil => simp [pure, Except.pure]
  | cons q nodes ih =>
    obtain ⟨hq, hnodes⟩ := List.forall_mem_cons.mp hlive
    rw [List.foldlM_cons, if_neg (not_not_intro hq)]
    by_cases htype : (r.node q).type = type
    · rw [if_pos htype, Except.ok_bind, ih hnodes, List.filter_cons, if_pos (decide_eq_true htype),
        List.map_cons, List.toFinset_cons, Finset.insert_union, Finset.union_insert]
    · rw [if_neg htype, Except.ok_bind, ih hnodes, List.filter_cons, if_neg (by simp [htype])]

theorem Registry.listed (h : r.allSimProviderNodes = r.live) : r.Listed := by
  intro type
  have hlive : ∀ q ∈ r.allSimProviderNodes, q ∈ r.live := fun q hq => h ▸ hq
  rw [Registry.enumerateNames, foldlM_names hlive, Finset.empty_union, h, Registry.names]

/-- A provider that was freed is looked at first. -/
theorem Registry.enumerateNames_of_freed (hnodes : r.allSimProviderNodes = q :: r.live)
    (hq : q ∉ r.live) (type : String) : r.enumerateNames type = .error .useAfterFree := by
  rw [Registry.enumerateNames, hnodes, List.foldlM_cons, if_pos hq]
  rfl

theorem Registry.not_listed (h : ∀ type, r.enumerateNames type = .error .useAfterFree) :
    ¬ r.Listed := by
  intro hlisted
  have herror := (hlisted "system").symm.trans (h "system")
  cases herror

/-- `construct` returns 0 if none of its commands fails. -/
theorem Registry.construct_alloc (r : Registry) (node : ProviderNode) :
    ((r.alloc env node).construct env (env.malloc r.live)).2 = true ↔
      Creates env r (.create node) := by
  simp only [Registry.construct, Registry.alloc, Function.update_self, Creates]
  by_cases htype : node.type = "system"
  · simp [htype]
  · simp [htype]

/-- Whether or not it fails, the new provider is put into the table. -/
theorem Registry.nodes_create (r : Registry) (node : ProviderNode) :
    (r.step env (.create node)).allSimProviderNodes =
      env.malloc r.live :: r.allSimProviderNodes := by
  simp only [Registry.step]
  split
  · rfl
  · rfl

/-- A provider that was constructed stays. -/
theorem Registry.live_create (r : Registry) (node : ProviderNode) :
    (Creates env r (.create node) →
      (r.step env (.create node)).live = env.malloc r.live :: r.live) ∧
    (¬ Creates env r (.create node) → (r.step env (.create node)).live = r.live) := by
  rw [← r.construct_alloc node]
  simp only [Registry.step]
  split
  · rename_i hok
    exact ⟨fun _ => rfl, fun hfailed => absurd hok hfailed⟩
  · rename_i hfailed
    refine ⟨fun hok => absurd hok hfailed, fun _ => ?_⟩
    exact List.erase_cons_head ..

/-- As long as the table has the providers that are allocated, the next step keeps it so if it is no
creation that fails, and otherwise a freed provider is left in it and looked at. -/
theorem Registry.listed_step (r : Registry) (env : BridgeEnv) (e : LifeEvent)
    (h : r.allSimProviderNodes = r.live) :
    (Creates env r e → (r.step env e).allSimProviderNodes = (r.step env e).live) ∧
      (¬ Creates env r e → ∀ type, (r.step env e).enumerateNames type = .error .useAfterFree) := by
  cases e with
  | create node =>
    have hnodes : (r.step env (.create node)).allSimProviderNodes = env.malloc r.live :: r.live := by
      rw [r.nodes_create node, h]
    refine ⟨fun hok => hnodes.trans ((r.live_create node).1 hok).symm, fun hfailed => ?_⟩
    have hlive := (r.live_create node).2 hfailed
    rw [← hlive] at hnodes
    refine Registry.enumerateNames_of_freed hnodes ?_
    rw [hlive]
    exact env.malloc_fresh r.live
  | delete q =>
    refine ⟨fun _ => ?_, fun hfailed => absurd trivial hfailed⟩
    simp only [Registry.step]
    split
    · exact congrArg (List.erase · q) h
    · exact h

end Lifecycle

/-- `enumerate_names` finds exactly the providers that there are, whatever has been created and
deleted, if and only if no command has failed with which a bridge was constructed. When one fails for
the first time, `enumerate_names` looks at the provider that was freed. -/
theorem providers_listed_iff (env : BridgeEnv) (world : BridgeWorld) (es : List LifeEvent) :
    (Always (Registry.step env) Registry.Listed (.initial world) es ↔
      Along (Registry.step env) (Creates env) (.initial world) es) ∧
    ∀ e, Along (Registry.step env) (Creates env) (.initial world) es →
      ¬ Creates env (es.foldl (Registry.step env) (.initial world)) e →
      ∀ type, ((es.foldl (Registry.step env) (.initial world)).step env e).enumerateNames type =
        .error .useAfterFree := by
  constructor
  · refine always_iff_along (I := fun r => r.Listed → r.allSimProviderNodes = r.live) ?_ ?_
      (fun _ => rfl) (Registry.listed rfl)
    · intro r e _ hinv hlisted hlisted'
      obtain ⟨hkept, hfails⟩ := r.listed_step env e (hinv hlisted)
      by_cases hcreates : Creates env r e
      · exact hkept hcreates
      · exact absurd hlisted' (Registry.not_listed (hfails hcreates))
    · intro r e _ hinv hlisted
      obtain ⟨hkept, hfails⟩ := r.listed_step env e (hinv hlisted)
      refine ⟨fun hlisted' => ?_, fun hcreates => Registry.listed (hkept hcreates)⟩
      by_contra hcreates
      exact Registry.not_listed (hfails hcreates) hlisted'
  · intro e hcreates hfails
    have hkept : Always (Registry.step env) (fun r => r.allSimProviderNodes = r.live)
        (.initial world) es :=
      .of_along (fun r e h hr => (r.listed_step env e h).1 hr) rfl hcreates
    exact (Registry.listed_step _ env e hkept.last).2 hfails

def sampleBridgeEnv : BridgeEnv where
  fails _ _ := false
  cut _ _ bridges := (bridges, false)
  malloc := freshPtr
  malloc_fresh := freshPtr_notMem

/-- After a VRF was created, the link of a bridge cannot be brought up. -/
theorem freed_provider_listed :
    let env := { sampleBridgeEnv with fails := fun _ c => c = .linkUp "br0" }
    let vrf : LifeEvent := .create ⟨"vrf", sampleState false⟩
    let bridge : LifeEvent := .create ⟨"system", sampleState false⟩
    (((Registry.initial ⟨[], ∅⟩).step env vrf).step env bridge).enumerateNames "vrf" =
      .error .useAfterFree := by
  intro env vrf bridge
  exact (providers_listed_iff env ⟨[], ∅⟩ [vrf]).2 bridge (by decide +kernel) (by decide +kernel) "vrf"

/-! ## The bridges of the ASIC -/

/-- A new bridge has a name of its own, which fits the buffer of `destruct`. -/
def OwnsBridge (r : Registry) : LifeEvent → Prop
  | .create node => node.type = "system" → strlen node.provider.name ≤ 41 ∧
    node.provider.name ∉ r.names "system"
  | .delete _ => True

instance (r : Registry) : ∀ e, Decidable (OwnsBridge r e)
  | .create node => inferInstanceAs (Decidable (node.type = "system" → _))
  | .delete _ => inferInstanceAs (Decidable True)

/-- The ASIC has the bridges of the providers, which have names of their own. -/
structure Registry.Bridges (r : Registry) : Prop where
  nodes : r.allSimProviderNodes = r.live
  nodup : r.live.Nodup
  vrf : ∀ q ∈ r.live, (r.node q).provider.vrf = false ↔ (r.node q).type = "system"
  short : ∀ q ∈ r.live, (r.node q).type = "system" → strlen (r.node q).provider.name ≤ 41
  distinct : ∀ q ∈ r.live, ∀ q' ∈ r.live, (r.node q).type = "system" → (r.node q').type = "system" →
    (r.node q).provider.name = (r.node q').provider.name → q = q'
  bridges : r.world.bridges = r.names "system"

section Bridges

variable {env : BridgeEnv} {r : Registry} {w : BridgeWorld} {c : BridgeCmd} {name : String}
  {e : LifeEvent} {q : Ptr}

theorem fits_of_short (hshort : strlen name ≤ 41) : (∀ c ∈ constructCmds name, c.Fits) ∧
    (BridgeCmd.delBr name).Fits := by
  have hvsctl : strlen ovsVsctl = 30 := by decide +kernel
  have hswns : strlen swnsExec = 24 := by decide +kernel
  have hliterals : strlen " --may-exist add-br " = 20 ∧ strlen " -- set bridge " = 15 ∧
      strlen " datapath_type=netdev" = 21 ∧ strlen " set port " = 10 ∧ strlen " trunks=0" = 9 ∧
      strlen " /sbin/ip link set dev " = 23 ∧ strlen " up" = 3 ∧ strlen " del-br " = 8 := by
    decide +kernel
  simp only [constructCmds, List.forall_mem_cons, List.not_mem_nil, false_implies, implies_true,
    and_true, BridgeCmd.Fits, BridgeCmd.text, BridgeCmd.bufferSize, strlen_append, maxCmdLen]
  omega

/-- A command that can be carried out is. -/
theorem BridgeWorld.system_eq (henv : env.Healthy) (hfits : c.Fits) {bridges : Finset String}
    (hexec : c.exec w.bridges = some bridges) :
    w.system env c = (⟨w.log ++ [c], bridges⟩, true) := by
  rw [BridgeWorld.system, if_neg (not_not_intro hfits), henv w.log c, hexec]
  rfl

theorem BridgeWorld.systemAll_construct (henv : env.Healthy) (hshort : strlen name ≤ 41) :
    (w.systemAll env (constructCmds name)).2 = true ∧
      (w.systemAll env (constructCmds name)).1.bridges = insert name w.bridges := by
  have hfits := (fits_of_short hshort).1
  simp only [constructCmds, List.forall_mem_cons] at hfits
  obtain ⟨hadd, hset, hlink, -⟩ := hfits
  have hmem : name ∈ insert name w.bridges := Finset.mem_insert_self ..
  have hexec : (BridgeCmd.addBr name).exec w.bridges = some (insert name w.bridges) ∧
      (BridgeCmd.setTrunks name).exec (insert name w.bridges) = some (insert name w.bridges) ∧
      (BridgeCmd.linkUp name).exec (insert name w.bridges) = some (insert name w.bridges) :=
    ⟨rfl, if_pos hmem, if_pos hmem⟩
  simp only [constructCmds, BridgeWorld.systemAll, w.system_eq henv hadd hexec.1,
    BridgeWorld.system_eq henv hset (w := ⟨_, insert name w.bridges⟩) hexec.2.1,
    BridgeWorld.system_eq henv hlink (w := ⟨_, insert name w.bridges⟩) hexec.2.2, Bool.and_self,
    and_self]

theorem Registry.mem_names {type n : String} :
    n ∈ r.names type ↔ ∃ q ∈ r.live, (r.node q).type = type ∧ (r.node q).provider.name = n := by
  simp [Registry.names, and_assoc]

/-- No command of `construct` fails. -/
theorem OwnsBridge.creates (h : OwnsBridge r e) (henv : env.Healthy) : Creates env r e := by
  cases e with
  | create node => exact fun htype => (BridgeWorld.systemAll_construct henv (h htype).1).1
  | delete q => trivial

/-- The new provider is the first one, and if it is a bridge the ASIC gets another one. -/
theorem Registry.create_eq (henv : env.Healthy) {node : ProviderNode}
    (howns : OwnsBridge r (.create node)) : ∃ world, r.step env (.create node) =
      ⟨env.malloc r.live :: r.live, Function.update r.node (env.malloc r.live)
          { node with provider := node.provider.construct !decide (node.type = "system") },
        env.malloc r.live :: r.allSimProviderNodes, world⟩ ∧
      world.bridges = if node.type = "system" then insert node.provider.name r.world.bridges
        else r.world.bridges := by
  have hok := (r.construct_alloc node).mpr (howns.creates henv)
  simp only [Registry.step, if_pos hok]
  refine ⟨(if decide (node.type = "system") = true then
    r.world.systemAll env (constructCmds node.provider.name) else (r.world, true)).1, ?_, ?_⟩
  · simp only [Registry.construct, Registry.alloc, Function.update_self, Function.update_idem]
  · by_cases htype : node.type = "system"
    · simpa [htype] using (BridgeWorld.systemAll_construct henv (howns htype).1).2
    · simp [htype]

theorem Registry.Bridges.create (h : r.Bridges) (henv : env.Healthy) {node : ProviderNode}
    (howns : OwnsBridge r (.create node)) : (r.step env (.create node)).Bridges := by
  obtain ⟨world, hstep, hbridges⟩ := Registry.create_eq henv howns
  have hfresh := env.malloc_fresh r.live
  generalize env.malloc r.live = q at hstep hfresh
  have hother : ∀ q' ∈ r.live, Function.update r.node q
      { node with provider := node.provider.construct !decide (node.type = "system") } q' = r.node q' := by
    intro q' hq'
    refine Function.update_of_ne ?_ ..
    rintro rfl
    exact hfresh hq'
  have hunused : ∀ q' ∈ r.live, node.type = "system" → (r.node q').type = "system" →
      node.provider.name ≠ (r.node q').provider.name :=
    fun q' hq' htype htype' heq => (howns htype).2 (Registry.mem_names.mpr ⟨q', hq', htype', heq.symm⟩)
  rw [hstep]
  refine ⟨congrArg (q :: ·) h.nodes, List.nodup_cons.mpr ⟨hfresh, h.nodup⟩, ?_, ?_, ?_, ?_⟩
  · refine List.forall_mem_cons.mpr ⟨?_, fun q' hq' => ?_⟩
    · simp [State.construct]
    · simp only [hother q' hq']
      exact h.vrf q' hq'
  · refine List.forall_mem_cons.mpr ⟨fun htype => ?_, fun q' hq' => ?_⟩
    · simp only [Function.update_self] at htype ⊢
      exact (howns htype).1
    · simp only [hother q' hq']
      exact h.short q' hq'
  · refine List.forall_mem_cons.mpr ⟨?_, fun q' hq' => ?_⟩
    · refine List.forall_mem_cons.mpr ⟨fun _ _ _ => rfl, fun q' hq' htype htype' heq => ?_⟩
      simp only [Function.update_self, hother q' hq'] at htype htype' heq
      exact absurd heq (hunused q' hq' htype htype')
    · refine List.forall_mem_cons.mpr ⟨fun htype' htype heq => ?_, fun q'' hq'' => ?_⟩
      · simp only [Function.update_self, hother q' hq'] at htype htype' heq
        exact absurd heq.symm (hunused q' hq' htype htype')
      · simp only [hother q' hq', hother q'' hq'']
        exact h.distinct q' hq' q'' hq''
  · ext n
    have hrest : (∃ q' ∈ r.live, (Function.update r.node q
        { node with provider := node.provider.construct !decide (node.type = "system") } q').type =
          "system" ∧ (Function.update r.node q
        { node with provider := node.provider.construct !decide (node.type = "system") } q').provider.name =
          n) ↔ n ∈ r.world.bridges := by
      rw [h.bridges, Registry.mem_names]
      refine exists_congr fun q' => and_congr_right fun hq' => ?_
      rw [hother q' hq']
    rw [Registry.mem_names, hbridges]
    simp only [List.exists_mem_cons_iff, Function.update_self, hrest]
    by_cases htype : node.type = "system"
    · rw [if_pos htype, Finset.mem_insert]
      simp [htype, State.construct, eq_comm]
    · simp [htype]

theorem Registry.Bridges.delete (h : r.Bridges) (henv : env.Healthy) (hq : q ∈ r.live) :
    ((r.destruct env q).dealloc q).Bridges := by
  have hmem : ∀ q', q' ∈ r.live.erase q ↔ q' ≠ q ∧ q' ∈ r.live := fun q' => h.nodup.mem_erase_iff
  have hlive : ∀ q' ∈ r.live.erase q, q' ∈ r.live := fun q' hq' => ((hmem q').mp hq').2
  refine ⟨?_, h.nodup.erase q, fun q' hq' => h.vrf q' (hlive q' hq'),
    fun q' hq' => h.short q' (hlive q' hq'),
    fun q₁ h₁ q₂ h₂ => h.distinct q₁ (hlive q₁ h₁) q₂ (hlive q₂ h₂), ?_⟩
  · exact congrArg (List.erase · q) h.nodes
  · ext n
    simp only [Registry.dealloc, Registry.destruct, Registry.mem_names, hmem]
    by_cases hvrf : (r.node q).provider.vrf = false
    · have htype := (h.vrf q hq).mp hvrf
      have hname : (r.node q).provider.name ∈ r.world.bridges := by
        rw [h.bridges, Registry.mem_names]
        exact ⟨q, hq, htype, rfl⟩
      have hdeleted := r.world.system_eq henv (fits_of_short (h.short q hq htype)).2
        (if_pos hname : BridgeCmd.exec _ (.delBr _) = _)
      rw [if_pos hvrf, hdeleted, Finset.mem_erase, h.bridges, Registry.mem_names]
      constructor
      · rintro ⟨hne, q', hq', htype', rfl⟩
        refine ⟨q', ⟨?_, hq'⟩, htype', rfl⟩
        rintro rfl
        exact hne rfl
      · rintro ⟨q', ⟨hne, hq'⟩, htype', rfl⟩
        exact ⟨fun heq => hne (h.distinct q' hq' q hq htype' htype heq), q', hq', htype', rfl⟩
    · have htype : ¬ (r.node q).type = "system" := fun htype => hvrf ((h.vrf q hq).mpr htype)
      rw [if_neg hvrf, h.bridges, Registry.mem_names]
      refine exists_congr fun q' => ⟨fun hq' => ⟨⟨?_, hq'.1⟩, hq'.2⟩, fun hq' => ⟨hq'.1.2, hq'.2⟩⟩
      rintro rfl
      exact htype hq'.2.1

theorem Registry.Bridges.step (h : r.Bridges) (henv : env.Healthy) (howns : OwnsBridge r e) :
    (r.step env e).Bridges := by
  cases e with
  | create node => exact h.create henv howns
  | delete q =>
    rw [Registry.step]
    split
    · exact h.delete henv ‹_›
    · exact h

end Bridges

/-- Where no command fails and each new bridge has a short name of its own, the ASIC has exactly the
bridges that `enumerate_names` reports. -/
theorem asic_bridges_follow_providers (env : BridgeEnv) (henv : env.Healthy) (log : List BridgeCmd)
    {es : List LifeEvent} (h : Along (Registry.step env) OwnsBridge (.initial ⟨log, ∅⟩) es) :
    Always (Registry.step env) (fun r => r.enumerateNames "system" = .ok r.world.bridges)
      (.initial ⟨log, ∅⟩) es := by
  have hinit : (Registry.initial ⟨log, ∅⟩).Bridges :=
    ⟨rfl, List.nodup_nil, by simp [Registry.initial], by simp [Registry.initial],
      by simp [Registry.initial], by simp [Registry.initial, Registry.names]⟩
  have hbridges : Always (Registry.step env) Registry.Bridges (.initial ⟨log, ∅⟩) es :=
    .of_along (fun _ _ hr howns => hr.step henv howns) hinit h
  refine hbridges.mono fun r hr => ?_
  rw [Registry.listed hr.nodes "system", hr.bridges]

/-- A bridge and a VRF come, and the bridge goes and comes back. -/
theorem asic_bridges_follow_providers_of_recreation :
    let bridge : ProviderNode := ⟨"system", sampleState false⟩
    let vrf : ProviderNode := ⟨"vrf", sampleState false⟩
    Always (Registry.step sampleBridgeEnv) (fun r => r.enumerateNames "system" = .ok r.world.bridges)
      (.initial ⟨[], ∅⟩) [.create bridge, .create vrf, .delete 1, .create bridge] := by
  intro bridge vrf
  have howns : Along (Registry.step sampleBridgeEnv) OwnsBridge (.initial ⟨[], ∅⟩)
      [.create bridge, .create vrf, .delete 1, .create bridge] := by decide +kernel
  exact asic_bridges_follow_providers sampleBridgeEnv (fun _ _ => rfl) [] howns

end ContainerPlugin.Ofproto
