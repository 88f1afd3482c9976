import Mathlib.Data.Finset.Lattice.Basic
import Mathlib.Data.Finset.Filter
import ContainerPlugin.Sflow.Vrf

/-!
# The rules of one VRF

`sflow_iptables_reconfigure` compares the bundles with the names that it remembered, in one pass over
the bundles and one over the names. In the second pass the bundle of the name is searched for, and a
name without a bundle leaves the variable of the search NULL.
-/

namespace ContainerPlugin.Sflow

open Ofproto Netdev

/-- Every name has one set of rules, and there are no others. -/
def RulesOf (samplingRate : BitVec 32) (names : Finset String) (rules : List SflowRule) : Prop :=
  ∀ rule, rules.count rule =
    if rule ∈ ruleSet samplingRate rule.port ∧ rule.port ∈ names then 1 else 0

/-- The bundle gets rules: it has sFlow and is not remembered. -/
def SflowBundle.Gains (cfg : SimSflowCfg) (bundle : SflowBundle) : Prop :=
  bundle.isSflowEnabled = true ∧ bundle.name ∉ cfg.ports

instance (cfg : SimSflowCfg) (bundle : SflowBundle) : Decidable (bundle.Gains cfg) :=
  inferInstanceAs (Decidable (_ ∧ _))

/-- A netdev of a bundle that gets rules. -/
def GainsRules (cfg : SimSflowCfg) (bundles : List SflowBundle) (netdev : String) : Prop :=
  ∃ bundle ∈ bundles, bundle.Gains cfg ∧ netdev ∈ bundle.ports

instance (cfg : SimSflowCfg) (bundles : List SflowBundle) (netdev : String) :
    Decidable (GainsRules cfg bundles netdev) :=
  inferInstanceAs (Decidable (∃ bundle ∈ bundles, _ ∧ _))

/-- Bundles have names and netdevs of their own, the remembered names are those with rules, and the
commands for all the names fit their buffers. -/
structure Remembered (env : Env) (w : World) (bundles : List SflowBundle) (cfg : SimSflowCfg) :
    Prop where
  names : (bundles.map (·.name)).Nodup
  netdevs : (bundles.flatMap (·.ports)).Nodup
  rules : RulesOf cfg.samplingRate cfg.ports w.machine.rules
  fits : ∀ name, name ∈ cfg.ports ∨ name ∈ bundles.map (·.name) →
    ∀ insert, ∀ rule ∈ ruleSet cfg.samplingRate name, (Cmd.iptables insert rule).Fits env

/-- The names with sFlow are remembered and have rules, and `netdev_sflow_reset` was called once for
the netdevs of bundles that got rules, and not for others. -/
structure Reconfigured (w : World) (bundles : List SflowBundle) (cfg : SimSflowCfg)
    (r : World × SimSflowCfg) : Prop where
  ports : r.2 = { cfg with ports := sflowNames bundles }
  rules : RulesOf cfg.samplingRate (sflowNames bundles) r.1.machine.rules
  resets : ∀ netdev, (r.1.netdevs netdev).sflowResets =
    (w.netdevs netdev).sflowResets + if GainsRules cfg bundles netdev then 1 else 0

section Rules

variable {env : Env} {w : World} {cfg : SimSflowCfg} {bundles : List SflowBundle}
  {samplingRate : BitVec 32} {names : Finset String} {name : String} {rules rules' : List SflowRule}

theorem port_of_mem_ruleSet {rule : SflowRule} (h : rule ∈ ruleSet samplingRate name) :
    rule.port = name := by
  simp only [ruleSet, List.mem_cons, List.not_mem_nil, or_false] at h
  rcases h with rfl | rfl | rfl | rfl <;> rfl

theorem count_ruleSet (samplingRate : BitVec 32) (name : String) (rule : SflowRule) :
    (ruleSet samplingRate name).count rule =
      if rule ∈ ruleSet samplingRate rule.port ∧ rule.port = name then 1 else 0 := by
  have hnodup : (ruleSet samplingRate name).Nodup := by simp [ruleSet]
  split
  · rename_i h
    rw [← h.2]
    rw [← h.2] at hnodup
    exact List.count_eq_one_of_mem hnodup h.1
  · rename_i h
    refine List.count_eq_zero_of_not_mem fun hmem => h ⟨?_, port_of_mem_ruleSet hmem⟩
    rwa [port_of_mem_ruleSet hmem]

theorem RulesOf.insert (h : RulesOf samplingRate names rules) (hname : name ∉ names)
    (hrules : ∀ rule, rules'.count rule = (ruleSet samplingRate name).count rule + rules.count rule) :
    RulesOf samplingRate (insert name names) rules' := by
  intro rule
  rw [hrules, h rule, count_ruleSet]
  by_cases hport : rule.port = name
  · simp [hport, hname]
  · simp [hport]

theorem RulesOf.erase (h : RulesOf samplingRate names rules) (hname : name ∈ names)
    (hrules : ∀ rule, rules'.count rule = rules.count rule - (ruleSet samplingRate name).count rule) :
    RulesOf samplingRate (names.erase name) rules' := by
  intro rule
  rw [hrules, h rule, count_ruleSet]
  by_cases hport : rule.port = name
  · simp [hport, hname]
  · simp [hport]

/-! ## Commands -/

theorem netdevs_systemAll (env : Env) (w : World) (cs : List Cmd) :
    (w.systemAll env cs).netdevs = w.netdevs := by
  induction cs generalizing w with
  | nil => rfl
  | cons c cs ih =>
    rw [World.systemAll]
    dsimp only
    split
    · exact ih _
    · rfl

theorem count_rules_inserted (henv : env.Healthy)
    (hfits : ∀ rule ∈ rules, (Cmd.iptables true rule).Fits env) (rule : SflowRule) :
    (w.systemAll env (rules.map (.iptables true))).machine.rules.count rule =
      rules.count rule + w.machine.rules.count rule := by
  induction rules generalizing w with
  | nil => simp [World.systemAll]
  | cons first rules ih =>
    obtain ⟨hfirst, hrest⟩ := List.forall_mem_cons.mp hfits
    rw [List.map_cons, World.systemAll, World.system_eq henv hfirst rfl]
    dsimp only
    rw [if_pos rfl, ih hrest, List.count_cons, List.count_cons]
    omega

theorem count_rules_deleted (henv : env.Healthy)
    (hfits : ∀ rule ∈ rules, (Cmd.iptables false rule).Fits env)
    (hthere : ∀ rule, rules.count rule ≤ w.machine.rules.count rule) (rule : SflowRule) :
    (w.systemAll env (rules.map (.iptables false))).machine.rules.count rule =
      w.machine.rules.count rule - rules.count rule := by
  induction rules generalizing w with
  | nil => simp [World.systemAll]
  | cons first rules ih =>
    obtain ⟨hfirst, hrest⟩ := List.forall_mem_cons.mp hfits
    have hmem : first ∈ w.machine.rules := by
      have hcount := hthere first
      rw [List.count_cons_self] at hcount
      exact List.count_pos_iff.mp (by omega)
    have hexec : w.machine.exec (.iptables false first) =
        some { w.machine with rules := w.machine.rules.erase first } := if_pos hmem
    rw [List.map_cons, World.systemAll, World.system_eq henv hfirst hexec]
    dsimp only
    rw [if_pos rfl, ih hrest, List.count_cons, List.count_erase]
    · omega
    · intro rule'
      have hcount := hthere rule'
      rw [List.count_cons] at hcount
      dsimp only
      rw [List.count_erase]
      omega

/-! ## Netdevs -/

theorem resets_sflowPortReset {bundle : SflowBundle} (hnodup : bundle.ports.Nodup)
    (netdev : String) : ((sflowPortReset bundle w).netdevs netdev).sflowResets =
      (w.netdevs netdev).sflowResets + if netdev ∈ bundle.ports then 1 else 0 := by
  have hloop : ∀ (ports : List String) (w : World), ports.Nodup →
      ((ports.foldl (World.modifyNetdev · netdevSflowReset) w).netdevs netdev).sflowResets =
        (w.netdevs netdev).sflowResets + if netdev ∈ ports then 1 else 0 := by
    intro ports
    induction ports with
    | nil => intro w _; simp
    | cons port ports ih =>
      intro w hports
      obtain ⟨hport, hports⟩ := List.nodup_cons.mp hports
      rw [List.foldl_cons, ih _ hports]
      by_cases heq : netdev = port
      · subst heq
        simp [World.modifyNetdev, netdevSflowReset, hport]
      · simp [World.modifyNetdev, heq]
  exact hloop bundle.ports w hnodup

theorem resets_sflowPortStatsEnable (bundle : SflowBundle) (enabled : Bool) (netdev : String) :
    ((sflowPortStatsEnable bundle enabled w).netdevs netdev).sflowResets =
      (w.netdevs netdev).sflowResets := by
  have hloop : ∀ (ports : List String) (w : World), ((ports.foldl
      (World.modifyNetdev · (netdevSflowStatsEnable · enabled)) w).netdevs netdev).sflowResets =
        (w.netdevs netdev).sflowResets := by
    intro ports
    induction ports with
    | nil => intro w; rfl
    | cons port ports ih =>
      intro w
      rw [List.foldl_cons, ih]
      by_cases heq : netdev = port
      · subst heq
        simp [World.modifyNetdev, netdevSflowStatsEnable]
      · simp [World.modifyNetdev, heq]
  exact hloop bundle.ports w

/-! ## The two passes -/

/-- The names of the bundles that get rules. -/
def gainedNames (cfg : SimSflowCfg) (bundles : List SflowBundle) : Finset String :=
  ((bundles.filter fun bundle => bundle.Gains cfg).map (·.name)).toFinset

theorem mem_gainedNames : name ∈ gainedNames cfg bundles ↔
    name ∈ sflowNames bundles ∧ name ∉ cfg.ports := by
  simp only [gainedNames, sflowNames, List.mem_toFinset, List.mem_map, List.mem_filter,
    decide_eq_true_eq]
  constructor
  · rintro ⟨bundle, ⟨hmem, henabled, hnew⟩, rfl⟩
    exact ⟨⟨bundle, ⟨hmem, henabled⟩, rfl⟩, hnew⟩
  · rintro ⟨⟨bundle, ⟨hmem, henabled⟩, rfl⟩, hnew⟩
    exact ⟨bundle, ⟨hmem, henabled, hnew⟩, rfl⟩

/-- One bundle in the pass over the bundles. `names` are those with rules when the pass comes to
it. -/
theorem addBundleRules_spec (henv : env.Healthy) {bundle : SflowBundle} (hports : bundle.ports.Nodup)
    (hfit : ∀ rule ∈ ruleSet cfg.samplingRate bundle.name, (Cmd.iptables true rule).Fits env)
    (hrules : RulesOf cfg.samplingRate names w.machine.rules)
    (hnew : bundle.name ∉ cfg.ports → bundle.name ∉ names) :
    RulesOf cfg.samplingRate (if bundle.Gains cfg then insert bundle.name names else names)
        (addBundleRules env cfg w bundle).machine.rules ∧
      ∀ netdev, ((addBundleRules env cfg w bundle).netdevs netdev).sflowResets =
        (w.netdevs netdev).sflowResets +
          if bundle.Gains cfg ∧ netdev ∈ bundle.ports then 1 else 0 := by
  by_cases hgain : bundle.Gains cfg
  · have hstep : addBundleRules env cfg w bundle = sflowIptableAdd env cfg
        (sflowPortStatsEnable bundle true (sflowPortReset bundle w)) bundle.name := if_pos hgain
    rw [hstep]
    refine ⟨?_, fun netdev => ?_⟩
    · rw [if_pos hgain]
      refine hrules.insert (hnew hgain.2) fun rule => ?_
      rw [sflowIptableAdd, count_rules_inserted henv hfit, sflowPortStatsEnable, sflowPortReset,
        machine_modifyNetdevs, machine_modifyNetdevs]
    · rw [sflowIptableAdd, netdevs_systemAll, resets_sflowPortStatsEnable,
        resets_sflowPortReset hports]
      simp only [hgain, true_and]
  · have hstep : addBundleRules env cfg w bundle = w := if_neg hgain
    rw [hstep]
    refine ⟨?_, fun netdev => ?_⟩
    · rw [if_neg hgain]
      exact hrules
    · simp [hgain]

theorem insert_union_gainedNames (cfg : SimSflowCfg) (bundle : SflowBundle)
    (bundles : List SflowBundle) (names : Finset String) :
    (if bundle.Gains cfg then insert bundle.name names else names) ∪ gainedNames cfg bundles =
      names ∪ gainedNames cfg (bundle :: bundles) := by
  ext name
  by_cases hgain : bundle.Gains cfg
  · simp [gainedNames, hgain]
  · simp [gainedNames, hgain]

/-- The pass over the bundles. -/
theorem addBundles_spec (henv : env.Healthy) (hnames : (bundles.map (·.name)).Nodup)
    (hnetdevs : (bundles.flatMap (·.ports)).Nodup)
    (hfits : ∀ bundle ∈ bundles, ∀ rule ∈ ruleSet cfg.samplingRate bundle.name,
      (Cmd.iptables true rule).Fits env)
    (hrules : RulesOf cfg.samplingRate names w.machine.rules)
    (hnew : ∀ bundle ∈ bundles, bundle.name ∉ cfg.ports → bundle.name ∉ names) :
    RulesOf cfg.samplingRate (names ∪ gainedNames cfg bundles)
        (bundles.foldl (addBundleRules env cfg) w).machine.rules ∧
      ∀ netdev, ((bundles.foldl (addBundleRules env cfg) w).netdevs netdev).sflowResets =
        (w.netdevs netdev).sflowResets + if GainsRules cfg bundles netdev then 1 else 0 := by
  induction bundles generalizing w names with
  | nil => exact ⟨by simpa [gainedNames] using hrules, fun netdev => by simp [GainsRules]⟩
  | cons bundle bundles ih =>
    obtain ⟨hname, hnames⟩ := List.nodup_cons.mp hnames
    rw [List.flatMap_cons, List.nodup_append'] at hnetdevs
    obtain ⟨hports, hnetdevs, hdisjoint⟩ := hnetdevs
    obtain ⟨hfit, hfits⟩ := List.forall_mem_cons.mp hfits
    obtain ⟨hnewName, hnew⟩ := List.forall_mem_cons.mp hnew
    obtain ⟨hrules, hstep⟩ := addBundleRules_spec henv hports hfit hrules hnewName
    -- a later bundle has another name
    have hnew' : ∀ b ∈ bundles, b.name ∉ cfg.ports →
        b.name ∉ if bundle.Gains cfg then insert bundle.name names else names := by
      intro b hb hb' hmem
      split at hmem
      · rcases Finset.mem_insert.mp hmem with heq | hmem
        · exact hname (List.mem_map.mpr ⟨b, hb, heq⟩)
        · exact hnew b hb hb' hmem
      · exact hnew b hb hb' hmem
    obtain ⟨hrules', hresets⟩ := ih hnames hnetdevs hfits hrules hnew'
    rw [List.foldl_cons]
    refine ⟨?_, fun netdev => ?_⟩
    · rw [← insert_union_gainedNames]
      exact hrules'
    · have hgains : GainsRules cfg (bundle :: bundles) netdev ↔
          bundle.Gains cfg ∧ netdev ∈ bundle.ports ∨ GainsRules cfg bundles netdev := by
        simp [GainsRules]
      rw [hresets, hstep]
      simp only [hgains]
      by_cases hmem : netdev ∈ bundle.ports
      · have hnot : ¬ GainsRules cfg bundles netdev := by
          rintro ⟨b, hb, -, hnetdev⟩
          exact hdisjoint hmem (List.mem_flatMap_of_mem hb hnetdev)
        simp [hmem, hnot]
      · simp [hmem]

/-- The bundle found for a name is the one that says whether the name has sFlow. -/
theorem isSflowEnabled_find {bundle : SflowBundle} (hnames : (bundles.map (·.name)).Nodup)
    (hfind : bundles.find? (·.name = name) = some bundle) :
    bundle.isSflowEnabled = true ↔ name ∈ sflowNames bundles := by
  have hmem := List.mem_of_find?_eq_some hfind
  have hname : bundle.name = name := by simpa using List.find?_some hfind
  rw [mem_sflowNames]
  constructor
  · exact fun h => ⟨bundle, hmem, h, hname⟩
  · rintro ⟨b, hb, henabled, hbname⟩
    rwa [List.inj_on_of_nodup_map hnames hmem hb (hname.trans hbname.symm)]

/-- One name in the pass over the remembered names. -/
theorem delPortRules_returns (henv : env.Healthy) (hnames : (bundles.map (·.name)).Nodup)
    {port : String} (hport : port ∈ names)
    (hfit : ∀ rule ∈ ruleSet cfg.samplingRate port, (Cmd.iptables false rule).Fits env)
    (hfound : ∃ bundle ∈ bundles, bundle.name = port)
    (hrules : RulesOf cfg.samplingRate names w.machine.rules) :
    (delPortRules env cfg bundles w port).Returns fun w' =>
      RulesOf cfg.samplingRate (names.filter fun name => name = port → name ∈ sflowNames bundles)
          w'.machine.rules ∧
        ∀ netdev, (w'.netdevs netdev).sflowResets = (w.netdevs netdev).sflowResets := by
  obtain ⟨bundle, hmem, hname⟩ := hfound
  have hsome : (bundles.find? (·.name = port)).isSome = true :=
    List.find?_isSome.mpr ⟨bundle, hmem, by simpa using hname⟩
  obtain ⟨found, hfind⟩ := Option.isSome_iff_exists.mp hsome
  have henabled := isSflowEnabled_find hnames hfind
  rw [delPortRules, hfind]
  dsimp only
  split
  · rename_i hon
    have hkept : (names.filter fun name => name = port → name ∈ sflowNames bundles) = names := by
      apply Finset.filter_true_of_mem
      rintro name - rfl
      exact henabled.mp hon
    refine ⟨?_, fun netdev => rfl⟩
    rw [hkept]
    exact hrules
  · rename_i hoff
    have herased : (names.filter fun name => name = port → name ∈ sflowNames bundles) =
        names.erase port := by
      ext name
      rw [Finset.mem_filter, Finset.mem_erase, and_comm]
      refine and_congr_left fun _ => ⟨?_, fun hne heq => absurd heq hne⟩
      rintro h rfl
      exact hoff (henabled.mpr (h rfl))
    have hthere : ∀ rule, (ruleSet cfg.samplingRate port).count rule ≤
        (sflowPortStatsEnable found false w).machine.rules.count rule := by
      intro rule
      rw [sflowPortStatsEnable, machine_modifyNetdevs, hrules rule, count_ruleSet]
      split
      · rename_i h
        rw [if_pos ⟨h.1, by rw [h.2]; exact hport⟩]
      · exact Nat.zero_le _
    refine ⟨?_, fun netdev => ?_⟩
    · rw [herased]
      refine hrules.erase hport fun rule => ?_
      rw [sflowIptableDel, count_rules_deleted henv hfit hthere, sflowPortStatsEnable,
        machine_modifyNetdevs]
    · rw [sflowIptableDel, netdevs_systemAll, resets_sflowPortStatsEnable]

/-- The pass over the remembered names. -/
theorem delPorts_returns (henv : env.Healthy) (hnames : (bundles.map (·.name)).Nodup)
    {ports : List String} (hports : ports.Nodup) (hsub : ∀ name ∈ ports, name ∈ names)
    (hfits : ∀ name ∈ ports, ∀ rule ∈ ruleSet cfg.samplingRate name,
      (Cmd.iptables false rule).Fits env)
    (hfound : ∀ name ∈ ports, ∃ bundle ∈ bundles, bundle.name = name)
    (hrules : RulesOf cfg.samplingRate names w.machine.rules) :
    (ports.foldlM (delPortRules env cfg bundles) w).Returns fun w' =>
      RulesOf cfg.samplingRate (names.filter fun name => name ∈ ports → name ∈ sflowNames bundles)
          w'.machine.rules ∧
        ∀ netdev, (w'.netdevs netdev).sflowResets = (w.netdevs netdev).sflowResets := by
  induction ports generalizing w names with
  | nil => exact ⟨by simpa using hrules, fun _ => rfl⟩
  | cons port ports ih =>
    obtain ⟨hport, hports⟩ := List.nodup_cons.mp hports
    obtain ⟨hportName, hsub⟩ := List.forall_mem_cons.mp hsub
    obtain ⟨hfit, hfits⟩ := List.forall_mem_cons.mp hfits
    obtain ⟨hportFound, hfound⟩ := List.forall_mem_cons.mp hfound
    rw [List.foldlM_cons]
    refine (delPortRules_returns henv hnames hportName hfit hportFound hrules).bind ?_
    rintro w₁ ⟨hrules, hresets⟩
    have hsub' : ∀ name ∈ ports,
        name ∈ names.filter fun name => name = port → name ∈ sflowNames bundles := by
      intro name hmem
      refine Finset.mem_filter.mpr ⟨hsub name hmem, fun heq => ?_⟩
      exact absurd (heq ▸ hmem) hport
    refine (ih hports hsub' hfits hfound hrules).mono fun w' hw' => ⟨?_, fun netdev => ?_⟩
    · have hfilter : (names.filter fun name =>
            name ∈ port :: ports → name ∈ sflowNames bundles) =
          (names.filter fun name => name = port → name ∈ sflowNames bundles).filter
            fun name => name ∈ ports → name ∈ sflowNames bundles := by
        rw [Finset.filter_filter]
        refine Finset.filter_congr fun name _ => ?_
        rw [List.mem_cons, or_imp]
      rw [hfilter]
      exact hw'.1
    · rw [hw'.2, hresets]

/-- A name without a bundle. -/
theorem delPorts_missing {ports : List String} {port : String} (hport : port ∈ ports)
    (hmissing : ∀ bundle ∈ bundles, bundle.name ≠ port) :
    ports.foldlM (delPortRules env cfg bundles) w = .error .nullDeref := by
  induction ports generalizing w with
  | nil => cases hport
  | cons first ports ih =>
    rw [List.foldlM_cons, delPortRules]
    cases hfind : bundles.find? (·.name = first) with
    | none => rfl
    | some found =>
      have hrest : port ∈ ports := by
        rcases List.mem_cons.mp hport with rfl | hrest
        · refine absurd ?_ (hmissing found (List.mem_of_find?_eq_some hfind))
          simpa using List.find?_some hfind
        · exact hrest
      dsimp only
      split
      · rw [Except.ok_bind, ih hrest]
      · rw [Except.ok_bind, ih hrest]

end Rules

/-- With commands that succeed, a reconfiguration does what it should exactly if every remembered
name still has a bundle. -/
theorem sflow_reconfigured_iff {env : Env} (henv : env.Healthy) {w : World}
    {bundles : List SflowBundle} {cfg : SimSflowCfg} (h : Remembered env w bundles cfg) :
    (sflowIptablesReconfigure env w bundles cfg).Returns (Reconfigured w bundles cfg) ↔
      ∀ name ∈ cfg.ports, ∃ bundle ∈ bundles, bundle.name = name := by
  have hadded := addBundles_spec henv h.names h.netdevs
    (fun bundle hb => h.fits bundle.name (.inr (List.mem_map_of_mem hb)) true) h.rules
    fun bundle _ hnew => hnew
  obtain ⟨hrules, hresets⟩ := hadded
  rw [sflowIptablesReconfigure]
  generalize bundles.foldl (addBundleRules env cfg) w = w₁ at hrules hresets ⊢
  constructor
  · intro hreturns name hname
    by_contra hnone
    rw [delPorts_missing ((env.mem_order w₁.log cfg.ports name).mpr hname)
      fun bundle hb heq => hnone ⟨bundle, hb, heq⟩] at hreturns
    exact hreturns
  · intro hfound
    refine (delPorts_returns henv h.names (env.order_nodup w₁.log cfg.ports)
      (fun name hname => Finset.mem_union_left _ ((env.mem_order _ _ _).mp hname))
      (fun name hname => h.fits name (.inl ((env.mem_order _ _ _).mp hname)) false)
      (fun name hname => hfound name ((env.mem_order _ _ _).mp hname)) hrules).bind fun w' hw' => ?_
    refine ⟨rfl, ?_, fun netdev => (hw'.2 netdev).trans (hresets netdev)⟩
    have hnames : ((cfg.ports ∪ gainedNames cfg bundles).filter fun name =>
        name ∈ env.order w₁.log cfg.ports → name ∈ sflowNames bundles) = sflowNames bundles := by
      ext name
      rw [Finset.mem_filter, Finset.mem_union, mem_gainedNames, env.mem_order]
      by_cases hport : name ∈ cfg.ports
      · simp [hport]
      · simp [hport]
    rw [hnames] at hw'
    exact hw'.1

/-! ## Three ports -/

theorem RulesOf.flatMap_ruleSet {samplingRate : BitVec 32} {names : List String}
    (hnodup : names.Nodup) :
    RulesOf samplingRate names.toFinset (names.flatMap (ruleSet samplingRate)) := by
  induction names with
  | nil => exact fun rule => by simp
  | cons name names ih =>
    obtain ⟨hname, hnames⟩ := List.nodup_cons.mp hnodup
    rw [List.toFinset_cons]
    refine (ih hnames).insert (by simpa using hname) fun rule => ?_
    rw [List.flatMap_cons, List.count_append]

/-- A configuration that remembers the ports. -/
def rememberingCfg (ports : List String) : SimSflowCfg :=
  { SimSflowCfg.zero with ports := ports.toFinset, samplingRate := 1000, set := true }

def rememberedWorld (ports : List String) : World :=
  { emptyWorld with machine := ⟨fun _ => none, ports.flatMap (ruleSet 1000), true⟩ }

theorem remembered_of_short {bundles : List SflowBundle} {ports : List String}
    (hnames : (bundles.map (·.name)).Nodup) (hnetdevs : (bundles.flatMap (·.ports)).Nodup)
    (hports : ports.Nodup) (hshort : ∀ name, name ∈ ports ∨ name ∈ bundles.map (·.name) →
      ∀ insert, ∀ rule ∈ ruleSet 1000 name, (Cmd.iptables insert rule).Fits sortedEnv) :
    Remembered sortedEnv (rememberedWorld ports) bundles (rememberingCfg ports) where
  names := hnames
  netdevs := hnetdevs
  rules := RulesOf.flatMap_ruleSet hports
  fits name hname := hshort name (hname.imp_left List.mem_toFinset.mp)

def threeBundles : List SflowBundle := [⟨"1", true, ["1"]⟩, ⟨"2", true, ["2"]⟩, ⟨"3", false, ["3"]⟩]

/-- Port 1 keeps its rules, port 2 gets some and port 3 loses them. -/
theorem sflow_reconfigured_of_changes :
    (sflowIptablesReconfigure sortedEnv (rememberedWorld ["1", "3"]) threeBundles
      (rememberingCfg ["1", "3"])).Returns
        (Reconfigured (rememberedWorld ["1", "3"]) threeBundles (rememberingCfg ["1", "3"])) := by
  have hfits : ∀ name ∈ ["1", "3"] ++ threeBundles.map (·.name), ∀ insert,
      ∀ rule ∈ ruleSet 1000 name, (Cmd.iptables insert rule).Fits sortedEnv := by decide +kernel
  have hremembered : Remembered sortedEnv (rememberedWorld ["1", "3"]) threeBundles
      (rememberingCfg ["1", "3"]) :=
    remembered_of_short (by decide) (by decide) (by decide)
      fun name hname => hfits name (List.mem_append.mpr hname)
  refine (sflow_reconfigured_iff (fun _ _ => rfl) hremembered).mpr ?_
  decide +kernel

/-- The bundle of port 1 is gone, and its rules are still there. -/
theorem deleted_bundle_is_used : ¬ ∀ (env : Env) (w : World) (bundles : List SflowBundle)
    (cfg : SimSflowCfg), env.Healthy → Remembered env w bundles cfg →
    (sflowIptablesReconfigure env w bundles cfg).Returns (Reconfigured w bundles cfg) := by
  intro hall
  have hfits : ∀ insert, ∀ rule ∈ ruleSet 1000 "1",
      (Cmd.iptables insert rule).Fits sortedEnv := by decide +kernel
  have hremembered : Remembered sortedEnv (rememberedWorld ["1"]) [] (rememberingCfg ["1"]) := by
    refine remembered_of_short (by simp) (by simp) (by simp) fun name hname => ?_
    have hone : name = "1" := by simpa using hname
    rw [hone]
    exact hfits
  have hreturns := hall sortedEnv (rememberedWorld ["1"]) [] (rememberingCfg ["1"]) (fun _ _ => rfl)
    hremembered
  rw [sflowIptablesReconfigure, delPorts_missing ((sortedEnv.mem_order _ _ "1").mpr (by decide))
    fun _ hb => absurd hb List.not_mem_nil] at hreturns
  exact hreturns

end ContainerPlugin.Sflow
