import ContainerPlugin.Lib.Runs
import ContainerPlugin.Sflow.Stored

/-!
# sFlow on several VRFs

Every VRF keeps its own view of the installed rules, but the rules of all VRFs are deleted together.
A request that is not skipped therefore has to find no rules of another VRF.
-/

namespace ContainerPlugin.Sflow

open Ofproto Netdev Runs

/-! ## The rules after a reconfiguration -/

/-- No command fails that can be carried out. -/
def Env.Healthy (env : Env) : Prop := ∀ log c, env.fails log c = false

/-- The targets fit the buffer they are copied to, and the agent's configuration fits its own. -/
def ConfFits (env : Env) (options : OfprotoSflowOptions) : Prop :=
  (∀ target ∈ options.targets, strlen target < maxCmdLen) ∧
    ∀ log, strlen (printed "sflow \x7b\n"
      (hostSflowPieces env (env.order log options.targets) options)) < maxCmdLen

/-- The rules that a VRF with the bundles needs. -/
def BundleRule (bundles : List SflowBundle) (samplingRate : BitVec 32) (rule : SflowRule) : Prop :=
  ∃ bundle ∈ bundles, bundle.isSflowEnabled ∧ rule ∈ ruleSet samplingRate bundle.name

section Rules

variable {env : Env} {w : World} {cfg : SimSflowCfg} {bundles : List SflowBundle}

theorem World.system_eq {c : Cmd} {m : Machine} (henv : env.Healthy) (hfits : c.Fits env)
    (hexec : w.machine.exec c = some m) :
    w.system env c = ({ w with log := w.log ++ [(c, true)], machine := m }, true) := by
  simp [World.system, Machine.system, hfits, henv w.log c, hexec]

theorem fits_iptablesDelAll : Cmd.iptablesDelAll.Fits env :=
  have h : strlen (Cmd.iptablesDelAll.text fun _ => "") < maxCmdLen := by decide +kernel
  h

theorem fits_hostSflow (restart : Bool) : (Cmd.hostSflow restart).Fits env := by
  cases restart with
  | true =>
    have h : strlen "systemctl restart host-sflow" < maxCmdLen := by decide +kernel
    exact h
  | false =>
    have h : strlen "systemctl stop host-sflow" < maxCmdLen := by decide +kernel
    exact h

theorem rules_iptablesDelAll (henv : env.Healthy) :
    (w.system env .iptablesDelAll).1.machine.rules = [] := by
  rw [World.system_eq henv fits_iptablesDelAll rfl]

theorem rules_hostSflow (henv : env.Healthy) (restart : Bool) :
    (w.system env (.hostSflow restart)).1.machine.rules = w.machine.rules := by
  rw [World.system_eq henv (fits_hostSflow restart) rfl]

theorem mem_rules_systemAll (henv : env.Healthy) {rules : List SflowRule}
    (hfits : ∀ rule ∈ rules, (Cmd.iptables true rule).Fits env) (rule : SflowRule) :
    rule ∈ (w.systemAll env (rules.map (.iptables true))).machine.rules ↔
      rule ∈ rules ∨ rule ∈ w.machine.rules := by
  induction rules generalizing w with
  | nil => simp [World.systemAll]
  | cons first rules ih =>
    have hfirst := hfits first List.mem_cons_self
    rw [List.map_cons, World.systemAll, World.system_eq henv hfirst rfl]
    have hrest : ∀ rule ∈ rules, (Cmd.iptables true rule).Fits env :=
      fun rule hrule => hfits rule (List.mem_cons_of_mem _ hrule)
    refine (ih hrest).trans ?_
    simp only [List.mem_cons]
    exact or_left_comm.trans or_assoc.symm

theorem machine_modifyNetdevs (f : NetdevSim → NetdevSim) (ports : List String) :
    (ports.foldl (World.modifyNetdev · f) w).machine = w.machine := by
  induction ports generalizing w with
  | nil => rfl
  | cons port ports ih => exact ih

/-- The rules of the bundles with sFlow are inserted. -/
theorem mem_rules_addBundles (henv : env.Healthy) (hports : cfg.ports = ∅)
    (hfits : ∀ rule, BundleRule bundles cfg.samplingRate rule → (Cmd.iptables true rule).Fits env)
    (rule : SflowRule) :
    rule ∈ (bundles.foldl (addBundleRules env cfg) w).machine.rules ↔
      BundleRule bundles cfg.samplingRate rule ∨ rule ∈ w.machine.rules := by
  induction bundles generalizing w with
  | nil => simp [BundleRule]
  | cons bundle bundles ih =>
    have hcons : ∀ rule, BundleRule (bundle :: bundles) cfg.samplingRate rule ↔
        bundle.isSflowEnabled ∧ rule ∈ ruleSet cfg.samplingRate bundle.name ∨
          BundleRule bundles cfg.samplingRate rule := by
      intro rule
      simp [BundleRule]
    rw [List.foldl_cons, ih fun rule hrule => hfits rule ((hcons rule).mpr (.inr hrule)), hcons,
      addBundleRules, hports]
    cases henabled : bundle.isSflowEnabled with
    | false => simp
    | true =>
      have hrules : ∀ rule ∈ ruleSet cfg.samplingRate bundle.name,
          (Cmd.iptables true rule).Fits env :=
        fun rule hrule => hfits rule ((hcons rule).mpr (.inl ⟨henabled, hrule⟩))
      simp only [Finset.notMem_empty, not_false_eq_true, and_self, if_true, true_and]
      rw [sflowIptableAdd, mem_rules_systemAll henv hrules, sflowPortStatsEnable, sflowPortReset,
        machine_modifyNetdevs, machine_modifyNetdevs]
      exact or_left_comm.trans or_assoc.symm

/-- With no port recorded, exactly the rules of the bundles are inserted. -/
theorem sflowIptablesReconfigure_fresh (henv : env.Healthy) (hports : cfg.ports = ∅)
    (hfits : ∀ rule, BundleRule bundles cfg.samplingRate rule → (Cmd.iptables true rule).Fits env) :
    ∃ w', sflowIptablesReconfigure env w bundles cfg =
        .ok (w', { cfg with ports := sflowNames bundles }) ∧
      ∀ rule, rule ∈ w'.machine.rules ↔
        BundleRule bundles cfg.samplingRate rule ∨ rule ∈ w.machine.rules := by
  refine ⟨bundles.foldl (addBundleRules env cfg) w, ?_, mem_rules_addBundles henv hports hfits⟩
  have horder : ∀ log, env.order log ∅ = [] := by
    intro log
    apply List.eq_nil_iff_forall_not_mem.mpr
    intro port hport
    exact absurd ((env.mem_order _ _ _).mp hport) (Finset.notMem_empty port)
  simp only [sflowIptablesReconfigure, hports, horder, List.foldlM_nil]
  rfl

theorem mem_sflowNames {name : String} :
    name ∈ sflowNames bundles ↔ ∃ bundle ∈ bundles, bundle.isSflowEnabled ∧ bundle.name = name := by
  simp [sflowNames, and_assoc]

/-- If the recorded ports are those of the bundles, there is nothing to do. -/
theorem sflowIptablesReconfigure_same
    (hnames : ∀ b ∈ bundles, ∀ b' ∈ bundles, b.name = b'.name → b = b')
    (hports : cfg.ports = sflowNames bundles) :
    sflowIptablesReconfigure env w bundles cfg = .ok (w, cfg) := by
  have hadd : ∀ (l : List SflowBundle), l ⊆ bundles → l.foldl (addBundleRules env cfg) w = w := by
    intro l hl
    induction l with
    | nil => rfl
    | cons bundle l ih =>
      have hskip : addBundleRules env cfg w bundle = w := by
        apply if_neg
        rintro ⟨henabled, hnot⟩
        apply hnot
        rw [hports]
        exact mem_sflowNames.mpr ⟨bundle, hl List.mem_cons_self, henabled, rfl⟩
      rw [List.foldl_cons, hskip]
      exact ih fun b hb => hl (List.mem_cons_of_mem _ hb)
  have hdel : ∀ (l : List String), (∀ port ∈ l, port ∈ sflowNames bundles) →
      l.foldlM (delPortRules env cfg bundles) w = .ok w := by
    intro l hl
    induction l with
    | nil => rfl
    | cons port l ih =>
      obtain ⟨bundle, hbundle, henabled, hname⟩ := mem_sflowNames.mp (hl port List.mem_cons_self)
      have hkeep : delPortRules env cfg bundles w port = .ok w := by
        rw [delPortRules]
        cases hfind : bundles.find? (·.name = port) with
        | none => exact absurd hname (by simpa using List.find?_eq_none.mp hfind bundle hbundle)
        | some found =>
          have hfound : found = bundle := by
            apply hnames found (List.mem_of_find?_eq_some hfind) bundle hbundle
            rw [hname]
            simpa using List.find?_some hfind
          rw [hfound]
          exact if_pos henabled
      rw [List.foldlM_cons, hkeep]
      exact ih fun p hp => hl p (List.mem_cons_of_mem _ hp)
  have hmem : ∀ log, ∀ port ∈ env.order log cfg.ports, port ∈ sflowNames bundles := by
    intro log port hport
    rw [← hports]
    exact (env.mem_order _ _ _).mp hport
  simp only [sflowIptablesReconfigure]
  rw [hadd bundles (List.Subset.refl _), hdel _ (hmem w.log), ← hports]
  rfl

/-- The agent's configuration leaves the rules alone. -/
theorem sflowHostsflowAgentConfigure_rules {options : OfprotoSflowOptions} (henv : env.Healthy)
    (hconf : ConfFits env options) :
    ∃ w', sflowHostsflowAgentConfigure env w options = .ok w' ∧
      w'.machine.rules = w.machine.rules := by
  rw [sflowHostsflowAgentConfigure]
  split
  case isTrue =>
    have hcopied : targetsCopied (env.order w.log options.targets) = .ok () := by
      apply if_pos
      intro target htarget
      exact hconf.1 target ((env.mem_order _ _ _).mp htarget)
    simp only [hcopied, foldlM_appendText (hconf.2 w.log).le, Except.ok_bind]
    exact ⟨_, rfl, rules_hostSflow henv true⟩
  case isFalse => exact ⟨w, rfl, rfl⟩

end Rules

/-! ## Interleaved requests -/

/-- The ofprotos of the VRFs, and for each the options of its last request if they enabled sFlow. -/
structure Vrfs (ι : Type) where
  nodes : ι → Node
  world : World
  last : ι → Option OfprotoSflowOptions

/-- A VRF and the request for it. -/
abbrev VrfCall (ι : Type) := ι × Option OfprotoSflowOptions

/-- The VRF wants the rule for one of its bundles. -/
def Vrfs.Wants {ι : Type} (s : Vrfs ι) (v : ι) (rule : SflowRule) : Prop :=
  ∃ options, s.last v = some options ∧
    BundleRule (s.nodes v).bundles options.samplingRate rule

/-- The VRFs that asked for sFlow have the rules of their bundles, and know them. -/
structure Vrfs.Served {ι : Type} (s : Vrfs ι) : Prop where
  rules : ∀ v rule, s.Wants v rule → rule ∈ s.world.machine.rules
  ports : ∀ v, s.last v ≠ none → (s.nodes v).sflow.ports = sflowNames (s.nodes v).bundles

/-- The request of the call changes nothing: sFlow is switched off already, or the options are the
same as last time. -/
def Vrfs.Skips {ι : Type} (s : Vrfs ι) (c : VrfCall ι) : Prop :=
  match enabling c.2 with
  | none => (s.nodes c.1).sflow.disabled = true
  | some options => s.last c.1 = some options

/-- No other VRF that asked for sFlow has a bundle with sFlow. -/
def Vrfs.Alone {ι : Type} (s : Vrfs ι) (v : ι) : Prop :=
  ∀ u, u ≠ v → s.last u ≠ none → ∀ bundle ∈ (s.nodes u).bundles, bundle.isSflowEnabled = false

section Vrfs

variable {ι : Type} [DecidableEq ι] {env : Env} {s s' : Vrfs ι} {c : VrfCall ι}

def Vrfs.call (env : Env) (s : Vrfs ι) (c : VrfCall ι) : Except Fault (Vrfs ι) := do
  let (world, node) ← setSflow env s.world (s.nodes c.1) c.2
  .ok ⟨Function.update s.nodes c.1 node, world, Function.update s.last c.1 (enabling c.2)⟩

/-- A run ends with the first fault. -/
def vrfStep (env : Env) (s : Except Fault (Vrfs ι)) (c : VrfCall ι) : Except Fault (Vrfs ι) :=
  s >>= fun s => s.call env c

/-- The call leaves the rules for bundles of other VRFs. -/
def KeepsOthers (env : Env) (s : Except Fault (Vrfs ι)) (c : VrfCall ι) : Prop :=
  s.Returns fun s => (s.call env c).Returns fun s' =>
    ∀ u, u ≠ c.1 → ∀ bundle ∈ (s.nodes u).bundles, ∀ rule ∈ s.world.machine.rules,
      rule.port = bundle.name → rule ∈ s'.world.machine.rules

/-- A call that is not skipped is for a VRF that is alone. -/
def SkipsOrAlone (s : Except Fault (Vrfs ι)) (c : VrfCall ι) : Prop :=
  s.Returns fun s => s.Skips c ∨ s.Alone c.1

/-- VRFs whose bundles have distinct names, where all commands fit. -/
structure Vrfs.Named (env : Env) (nodes : ι → Node) : Prop where
  vrf : ∀ v, (nodes v).vrf = true
  names : ∀ u v, ∀ b ∈ (nodes u).bundles, ∀ b' ∈ (nodes v).bundles, b.name = b'.name →
    u = v ∧ b = b'
  fits : ∀ v samplingRate rule, BundleRule (nodes v).bundles samplingRate rule →
    (Cmd.iptables true rule).Fits env

/-- The stored configurations are those of the last requests, and every rule is wanted. -/
structure VrfsInv (env : Env) (s : Vrfs ι) : Prop where
  named : Vrfs.Named env s.nodes
  stored : ∀ v, Stored (s.nodes v).sflow (s.last v)
  wanted : ∀ rule ∈ s.world.machine.rules, ∃ v, s.Wants v rule

theorem port_of_bundleRule {bundles : List SflowBundle} {samplingRate : BitVec 32}
    {rule : SflowRule} (h : BundleRule bundles samplingRate rule) :
    ∃ bundle ∈ bundles, bundle.isSflowEnabled ∧ rule.port = bundle.name := by
  obtain ⟨bundle, hbundle, henabled, hrule⟩ := h
  refine ⟨bundle, hbundle, henabled, ?_⟩
  simp only [ruleSet, List.mem_cons, List.not_mem_nil, or_false] at hrule
  obtain rfl | rfl | rfl | rfl := hrule <;> rfl

omit [DecidableEq ι] in
/-- Rules of different VRFs differ. -/
theorem VrfsInv.eq_of_wants (h : VrfsInv env s) {u v : ι} {rule : SflowRule}
    (hu : s.Wants u rule) (hv : s.Wants v rule) : u = v := by
  obtain ⟨_, -, hu⟩ := hu
  obtain ⟨_, -, hv⟩ := hv
  obtain ⟨b, hb, -, hport⟩ := port_of_bundleRule hu
  obtain ⟨b', hb', -, hport'⟩ := port_of_bundleRule hv
  exact (h.named.names u v b hb b' hb' (hport.symm.trans hport')).1

/-- A request that is skipped changes nothing. -/
theorem VrfsInv.call_skips (h : VrfsInv env s) (hserved : s.Served) (hskips : s.Skips c) :
    s.call env c = .ok s := by
  obtain ⟨v, request⟩ := c
  have hsame : setSflow env s.world (s.nodes v) request = .ok (s.world, s.nodes v) ∧
      enabling request = s.last v := by
    rw [Vrfs.Skips] at hskips
    cases hrequest : enabling request with
    | none =>
      rw [hrequest] at hskips
      rw [setSflow_of_enabling_none hrequest, (h.stored v).eq_none_of_disabled hskips]
      exact ⟨if_pos hskips, rfl⟩
    | some options =>
      obtain ⟨hopt, henabling⟩ := of_enabling_eq_some hrequest
      rw [hrequest] at hskips
      replace hskips : s.last v = some options := hskips
      have hnames := fun b hb b' hb' hname => (h.named.names v v b hb b' hb' hname).2
      have hports := hserved.ports v (by simp [hskips])
      have hequal : sflowCfgEqual options (s.nodes v).sflow = .ok true := by
        rw [(h.stored v).equal henabling, hskips]
        simp
      rw [hopt]
      simp only [setSflow, if_pos henabling, hequal, Except.ok_bind, if_true,
        if_pos (h.named.vrf v), sflowIptablesReconfigure_same hnames hports, hskips, and_true]
  simp only [Vrfs.call, hsame.1, hsame.2, Except.ok_bind, Function.update_eq_self]

/-- What a request that is not skipped leaves: of all rules only those that its VRF wants. -/
structure Vrfs.Acted (s : Vrfs ι) (c : VrfCall ι) (s' : Vrfs ι) : Prop where
  last : s'.last = Function.update s.last c.1 (enabling c.2)
  others : ∀ u, u ≠ c.1 → s'.nodes u = s.nodes u
  vrf : (s'.nodes c.1).vrf = (s.nodes c.1).vrf
  bundles : ∀ u, (s'.nodes u).bundles = (s.nodes u).bundles
  stored : Stored (s'.nodes c.1).sflow (enabling c.2)
  ports : enabling c.2 ≠ none → (s'.nodes c.1).sflow.ports = sflowNames (s.nodes c.1).bundles
  rules : ∀ rule, rule ∈ s'.world.machine.rules ↔ ∃ options, enabling c.2 = some options ∧
    BundleRule (s.nodes c.1).bundles options.samplingRate rule

theorem Vrfs.Acted.of_update {node : Node} {world : World}
    (hvrf : node.vrf = (s.nodes c.1).vrf) (hbundles : node.bundles = (s.nodes c.1).bundles)
    (hstored : Stored node.sflow (enabling c.2))
    (hports : enabling c.2 ≠ none → node.sflow.ports = sflowNames (s.nodes c.1).bundles)
    (hrules : ∀ rule, rule ∈ world.machine.rules ↔ ∃ options, enabling c.2 = some options ∧
      BundleRule (s.nodes c.1).bundles options.samplingRate rule) :
    s.Acted c ⟨Function.update s.nodes c.1 node, world,
      Function.update s.last c.1 (enabling c.2)⟩ where
  last := rfl
  others u hu := Function.update_of_ne hu ..
  vrf := by simp [hvrf]
  bundles u := by
    by_cases hu : u = c.1
    · subst hu
      simp [hbundles]
    · simp [hu]
  stored := by simp [hstored]
  ports hc := by simp [hports hc]
  rules := hrules

theorem VrfsInv.call_acts (h : VrfsInv env s) (henv : env.Healthy) (hskips : ¬ s.Skips c)
    (hconf : ∀ options, enabling c.2 = some options → ConfFits env options) :
    ∃ s', s.call env c = .ok s' ∧ s.Acted c s' := by
  obtain ⟨v, request⟩ := c
  obtain ⟨cfg, hclear, hset, htargets⟩ := (h.stored v).clear
  rw [Vrfs.Skips] at hskips
  cases hrequest : enabling request with
  | none =>
    rw [hrequest] at hskips
    replace hskips : ¬ (s.nodes v).sflow.disabled = true := hskips
    rw [Vrfs.call, setSflow_of_enabling_none hrequest, sflowDisable, if_neg hskips, hclear]
    simp only [Except.ok_bind, if_pos (h.named.vrf v)]
    refine ⟨_, rfl, .of_update rfl rfl ?_ ?_ ?_⟩
    · rw [hrequest]
      exact ⟨hset, htargets⟩
    · intro hne
      exact absurd hrequest hne
    · intro rule
      rw [rules_hostSflow henv, rules_iptablesDelAll henv]
      simp [hrequest]
  | some options =>
    obtain ⟨hopt, henabling⟩ := of_enabling_eq_some hrequest
    rw [hrequest] at hskips
    replace hskips : s.last v ≠ some options := hskips
    have hequal : sflowCfgEqual options (s.nodes v).sflow = .ok false := by
      rw [(h.stored v).equal henabling]
      simp [hskips]
    let deleted := (s.world.system env .iptablesDelAll).1
    let fresh : SimSflowCfg := { sflowCfgSet options cfg with disabled := false, ports := ∅ }
    obtain ⟨reconfigured, hreconfigure, hrules⟩ : ∃ w',
        sflowIptablesReconfigure env deleted (s.nodes v).bundles fresh =
          .ok (w', { fresh with ports := sflowNames (s.nodes v).bundles }) ∧
        ∀ rule, rule ∈ w'.machine.rules ↔
          BundleRule (s.nodes v).bundles options.samplingRate rule ∨ rule ∈ deleted.machine.rules :=
      sflowIptablesReconfigure_fresh henv rfl fun rule hrule => h.named.fits v _ rule hrule
    obtain ⟨configured, hagent, hsame⟩ :=
      sflowHostsflowAgentConfigure_rules (w := reconfigured) henv (hconf options hrequest)
    have hrun : setSflow env s.world (s.nodes v) request = .ok (configured, { s.nodes v with
        sflow := { fresh with ports := sflowNames (s.nodes v).bundles } }) := by
      rw [hopt]
      simp only [setSflow, if_pos henabling, hequal, Except.ok_bind, sflowApply, hclear,
        if_pos (h.named.vrf v)]
      rw [if_neg Bool.false_ne_true, hreconfigure, Except.ok_bind, hagent]
      rfl
    rw [Vrfs.call, hrun]
    refine ⟨_, rfl, .of_update rfl rfl ?_ (fun _ => rfl) ?_⟩
    · rw [hrequest]
      exact ⟨henabling, _, rfl⟩
    · intro rule
      rw [hsame, hrules, rules_iptablesDelAll henv, hrequest]
      simp

theorem Vrfs.Acted.wants_self (h : s.Acted c s') {rule : SflowRule} :
    s'.Wants c.1 rule ↔ rule ∈ s'.world.machine.rules := by
  rw [h.rules, Vrfs.Wants, h.last, h.bundles, Function.update_self]

theorem Vrfs.Acted.wants_other (h : s.Acted c s') {u : ι} (hu : u ≠ c.1) {rule : SflowRule} :
    s'.Wants u rule ↔ s.Wants u rule := by
  rw [Vrfs.Wants, h.last, h.bundles, Function.update_of_ne hu, Vrfs.Wants]

theorem VrfsInv.of_acted (h : VrfsInv env s) (hacted : s.Acted c s') : VrfsInv env s' where
  named :=
    { vrf := by
        intro v
        by_cases hv : v = c.1
        · rw [hv, hacted.vrf, h.named.vrf]
        · rw [hacted.others v hv, h.named.vrf]
      names := by
        intro u v
        rw [hacted.bundles, hacted.bundles]
        exact h.named.names u v
      fits := by
        intro v
        rw [hacted.bundles]
        exact h.named.fits v }
  stored v := by
    by_cases hv : v = c.1
    · rw [hv, hacted.last, Function.update_self]
      exact hacted.stored
    · rw [hacted.others v hv, hacted.last, Function.update_of_ne hv]
      exact h.stored v
  wanted rule hrule := ⟨c.1, hacted.wants_self.mpr hrule⟩

/-- The rules of all VRFs are gone except those of the VRF that was called. -/
theorem VrfsInv.served_of_acted_iff (h : VrfsInv env s) (hserved : s.Served)
    (hacted : s.Acted c s') : s'.Served ↔ s.Alone c.1 := by
  have h' := h.of_acted hacted
  constructor
  · intro hserved' u hu hlast bundle hbundle
    by_contra henabled
    obtain ⟨options, hoptions⟩ := Option.ne_none_iff_exists'.mp hlast
    let rule : SflowRule := ⟨.input, .i, bundle.name, options.samplingRate⟩
    have hwants : s.Wants u rule :=
      ⟨options, hoptions, bundle, hbundle, by simpa using henabled, List.mem_cons_self⟩
    have hmem := hserved'.rules u rule ((hacted.wants_other hu).mpr hwants)
    exact hu (h'.eq_of_wants ((hacted.wants_other hu).mpr hwants) (hacted.wants_self.mpr hmem))
  · intro halone
    refine ⟨?_, ?_⟩
    · intro v rule hwants
      by_cases hv : v = c.1
      · subst hv
        exact hacted.wants_self.mp hwants
      · obtain ⟨options, hoptions, bundle, hbundle, henabled, -⟩ :=
          (hacted.wants_other hv).mp hwants
        have hoff := halone v hv (by simp [hoptions]) bundle hbundle
        rw [hoff] at henabled
        cases henabled
    · intro v hlast
      by_cases hv : v = c.1
      · subst hv
        rw [hacted.bundles]
        apply hacted.ports
        rwa [hacted.last, Function.update_self] at hlast
      · rw [hacted.others v hv]
        apply hserved.ports v
        rwa [hacted.last, Function.update_of_ne hv] at hlast

/-- A call returns, and it serves all VRFs exactly if it is skipped or its VRF is alone. -/
theorem VrfsInv.call (h : VrfsInv env s) (henv : env.Healthy) (hserved : s.Served)
    (hconf : ∀ options, enabling c.2 = some options → ConfFits env options) :
    ∃ s', s.call env c = .ok s' ∧ VrfsInv env s' ∧ (s'.Served ↔ s.Skips c ∨ s.Alone c.1) ∧
      (s' = s ∨ s.Acted c s') := by
  by_cases hskips : s.Skips c
  · exact ⟨s, h.call_skips hserved hskips, h, iff_of_true hserved (.inl hskips), .inl rfl⟩
  · obtain ⟨s', hcall, hacted⟩ := h.call_acts henv hskips hconf
    refine ⟨s', hcall, h.of_acted hacted, ?_, .inr hacted⟩
    rw [h.served_of_acted_iff hserved hacted]
    exact (or_iff_right hskips).symm

/-- A VRF that is alone is the only one whose rules are there to be deleted. -/
theorem VrfsInv.keepsOthers (h : VrfsInv env s) (henv : env.Healthy) (hserved : s.Served)
    (hconf : ∀ options, enabling c.2 = some options → ConfFits env options)
    (hc : s.Skips c ∨ s.Alone c.1) : KeepsOthers env (.ok s) c := by
  obtain ⟨s', hcall, -, hiff, hcases⟩ := h.call henv hserved hconf
  have hserved' : s'.Served := hiff.mpr hc
  simp only [KeepsOthers, Except.ensures_ok, hcall]
  intro u hu bundle hbundle rule hrule hport
  cases hcases with
  | inl hsame =>
    rw [hsame]
    exact hrule
  | inr hacted =>
    -- the rule is wanted, and by the VRF whose bundle has its port
    obtain ⟨v, options, hlast, hbundleRule⟩ := h.wanted rule hrule
    obtain ⟨bundle', hbundle', -, hport'⟩ := port_of_bundleRule hbundleRule
    have huv : u = v := by
      apply (h.named.names u v bundle hbundle bundle' hbundle' _).1
      exact hport.symm.trans hport'
    subst huv
    exact hserved'.rules u rule ((hacted.wants_other hu).mpr ⟨options, hlast, hbundleRule⟩)

theorem VrfsInv.vrfStep {r : Except Fault (Vrfs ι)} (h : r.Returns (VrfsInv env))
    (henv : env.Healthy) (hserved : r.Returns Vrfs.Served)
    (hconf : ∀ options, enabling c.2 = some options → ConfFits env options) :
    (Sflow.vrfStep env r c).Returns (VrfsInv env) ∧
      ((Sflow.vrfStep env r c).Returns Vrfs.Served ↔ SkipsOrAlone r c) := by
  cases r with
  | error => exact h.elim
  | ok s =>
    obtain ⟨s', hcall, hinv, hiff, -⟩ := VrfsInv.call h henv hserved hconf
    rw [Sflow.vrfStep, Except.ok_bind, hcall]
    exact ⟨hinv, hiff⟩

/-- VRFs without any request so far. -/
def Vrfs.fresh (nodes : ι → Node) (world : World) : Vrfs ι := ⟨nodes, world, fun _ => none⟩

omit [DecidableEq ι] in
theorem VrfsInv.fresh {nodes : ι → Node} {world : World} (hnamed : Vrfs.Named env nodes)
    (hnew : ∀ v, (nodes v).sflow = .zero) (hrules : world.machine.rules = []) :
    VrfsInv env (.fresh nodes world) := by
  refine ⟨hnamed, ?_, ?_⟩
  · intro v
    have hsflow : ((Vrfs.fresh nodes world).nodes v).sflow = .zero := hnew v
    rw [hsflow]
    exact .zero
  · intro rule hrule
    have hnone : (Vrfs.fresh nodes world).world.machine.rules = [] := hrules
    rw [hnone] at hrule
    cases hrule

omit [DecidableEq ι] in
theorem Vrfs.Served.fresh (nodes : ι → Node) (world : World) : (Vrfs.fresh nodes world).Served := by
  refine ⟨?_, ?_⟩
  · intro v rule hwants
    obtain ⟨options, hlast, -⟩ := hwants
    cases hlast
  · intro v hlast
    exact absurd rfl hlast

/-- Every call of a run from fresh VRFs returns and leaves all of them served, with the rules of
other VRFs kept, if and only if no call that changes something is made while another VRF has
rules. -/
theorem vrfs_sflow_isolated_iff (henv : env.Healthy) {nodes : ι → Node} {world : World}
    (hnamed : Vrfs.Named env nodes) (hnew : ∀ v, (nodes v).sflow = .zero)
    (hrules : world.machine.rules = []) {calls : List (VrfCall ι)}
    (hconf : ∀ c ∈ calls, ∀ options, enabling c.2 = some options → ConfFits env options) :
    (Always (vrfStep env) (·.Returns Vrfs.Served) (.ok (.fresh nodes world)) calls ∧
      Along (vrfStep env) (KeepsOthers env) (.ok (.fresh nodes world)) calls) ↔
      Along (vrfStep env) SkipsOrAlone (.ok (.fresh nodes world)) calls := by
  have hinv : VrfsInv env (.fresh nodes world) := .fresh hnamed hnew hrules
  have hserved : (Vrfs.fresh nodes world).Served := .fresh nodes world
  have hiff : Always (vrfStep env) (·.Returns Vrfs.Served) (.ok (.fresh nodes world)) calls ↔
      Along (vrfStep env) SkipsOrAlone (.ok (.fresh nodes world)) calls :=
    always_iff_along (I := fun r => r.Returns (VrfsInv env))
      (fun r c hc h hs => (VrfsInv.vrfStep h henv hs (hconf c hc)).1)
      (fun r c hc h hs => (VrfsInv.vrfStep h henv hs (hconf c hc)).2) hinv hserved
  constructor
  · intro h
    exact hiff.mp h.1
  · intro h
    have hboth : Always (vrfStep env) (fun r => r.Returns (VrfsInv env) ∧ r.Returns Vrfs.Served)
        (.ok (.fresh nodes world)) calls := by
      refine (always_iff_along (I := fun _ => True) (fun _ _ _ _ _ => trivial) ?_ trivial
        ⟨hinv, hserved⟩).mpr h
      intro r c hc _ hr
      have hstep := VrfsInv.vrfStep hr.1 henv hr.2 (hconf c hc)
      exact (and_iff_right hstep.1).trans hstep.2
    refine ⟨hiff.mpr h, Along.of_always ?_ hboth h⟩
    intro r c hc hr hcond
    cases r with
    | error => exact hr.1.elim
    | ok s => exact VrfsInv.keepsOthers hr.1 henv hr.2 (hconf c hc) hcond

instance (s : Vrfs ι) (c : VrfCall ι) : Decidable (s.Skips c) :=
  match h : enabling c.2 with
  | none => decidable_of_iff ((s.nodes c.1).sflow.disabled = true) (by rw [Vrfs.Skips, h])
  | some options => decidable_of_iff (s.last c.1 = some options) (by rw [Vrfs.Skips, h])

instance [Fintype ι] (s : Vrfs ι) (v : ι) : Decidable (s.Alone v) :=
  inferInstanceAs (Decidable (∀ u, u ≠ v → s.last u ≠ none →
    ∀ bundle ∈ (s.nodes u).bundles, bundle.isSflowEnabled = false))

instance [Fintype ι] : ∀ (r : Except Fault (Vrfs ι)) (c : VrfCall ι), Decidable (SkipsOrAlone r c)
  | .ok s, c => inferInstanceAs (Decidable (s.Skips c ∨ s.Alone c.1))
  | .error _, _ => inferInstanceAs (Decidable False)

/-- Two VRFs with one bundle each. -/
def twoVrfs : Bool → Node
  | false => ⟨"vrf_default", true, [⟨"1", true, ["1"]⟩], .zero⟩
  | true => ⟨"vrf_red", true, [⟨"2", true, ["2"]⟩], .zero⟩

def emptyWorld : World := ⟨[], ⟨fun _ => none, [], false⟩, "", fun _ => netdevSimConstruct⟩

def oneCollector : OfprotoSflowOptions :=
  ⟨{"10.0.0.1/6343"}, 1000, 30, 128, 1400, some "eth0", none⟩

theorem named_twoVrfs : Vrfs.Named sortedEnv twoVrfs where
  vrf v := by cases v <;> rfl
  names u v b hb b' hb' hname := by
    cases u <;> cases v <;> simp_all [twoVrfs]
  fits v samplingRate rule hrule := by
    obtain ⟨bundle, hbundle, -, hrule⟩ := hrule
    have hport : bundle.name ∈ ["1", "2"] := by
      cases v <;> simp_all [twoVrfs]
    have hzero : { rule with samplingRate := 0 } ∈ ruleSet 0 bundle.name := by
      simp only [ruleSet, List.mem_cons, List.not_mem_nil, or_false] at hrule ⊢
      obtain rfl | rfl | rfl | rfl := hrule <;> simp
    -- the text depends on the rate only through the way `1 / rate` is printed
    have hfits : ∀ port ∈ ["1", "2"], ∀ rule ∈ ruleSet 0 port,
        (Cmd.iptables true rule).Fits sortedEnv := by decide +kernel
    have h := hfits bundle.name hport _ hzero
    exact h

theorem confFits_oneCollector : ConfFits sortedEnv oneCollector := by
  have hconf : strlen (printed "sflow \x7b\n" (hostSflowPieces sortedEnv
      (sortedEnv.order [] oneCollector.targets) oneCollector)) < maxCmdLen := by decide +kernel
  exact ⟨by decide +kernel, fun _ => hconf⟩

theorem confFits_of_enabling {options : OfprotoSflowOptions} {calls : List (VrfCall Bool)}
    (hcalls : ∀ c ∈ calls, c.2 = none ∨ c.2 = some oneCollector) {c : VrfCall Bool}
    (hc : c ∈ calls) (h : enabling c.2 = some options) : ConfFits sortedEnv options := by
  have hrequest := (of_enabling_eq_some h).1
  obtain hnone | hsome := hcalls c hc
  · rw [hnone] at hrequest
    cases hrequest
  · rw [hsome] at hrequest
    cases hrequest
    exact confFits_oneCollector

/-- One VRF is switched off before the other is switched on. -/
theorem vrfs_sflow_isolated_in_turn :
    let calls : List (VrfCall Bool) :=
      [(false, some oneCollector), (false, none), (true, some oneCollector)]
    Always (vrfStep sortedEnv) (·.Returns Vrfs.Served) (.ok (.fresh twoVrfs emptyWorld)) calls ∧
      Along (vrfStep sortedEnv) (KeepsOthers sortedEnv) (.ok (.fresh twoVrfs emptyWorld))
        calls := by
  intro calls
  have hcalls : ∀ c ∈ calls, c.2 = none ∨ c.2 = some oneCollector := by decide +kernel
  have hnew : ∀ v, (twoVrfs v).sflow = .zero := by
    intro v
    cases v <;> rfl
  have hcond : Along (vrfStep sortedEnv) SkipsOrAlone (.ok (.fresh twoVrfs emptyWorld)) calls := by
    decide +kernel
  exact (vrfs_sflow_isolated_iff (fun _ _ => rfl) named_twoVrfs hnew rfl
    fun c hc options h => confFits_of_enabling hcalls hc h).mpr hcond

/-- The request for the second VRF deletes the rules of the first. -/
theorem second_vrf_deletes_rules :
    ¬ ∀ (env : Env) (nodes : Bool → Node) (world : World), env.Healthy → Vrfs.Named env nodes →
      (∀ v, (nodes v).sflow = .zero) → world.machine.rules = [] → ∀ calls : List (VrfCall Bool),
      (∀ c ∈ calls, ∀ options, enabling c.2 = some options → ConfFits env options) →
      Always (vrfStep env) (·.Returns Vrfs.Served) (.ok (.fresh nodes world)) calls := by
  intro h
  let calls : List (VrfCall Bool) := [(false, some oneCollector), (true, some oneCollector)]
  have hcalls : ∀ c ∈ calls, c.2 = none ∨ c.2 = some oneCollector := by decide +kernel
  have hnew : ∀ v, (twoVrfs v).sflow = .zero := by
    intro v
    cases v <;> rfl
  have hserved := (h sortedEnv twoVrfs emptyWorld (fun _ _ => rfl) named_twoVrfs hnew rfl calls
    fun c hc options h => confFits_of_enabling hcalls hc h).last
  have hlost : (calls.foldl (vrfStep sortedEnv) (.ok (.fresh twoVrfs emptyWorld))).toOption.map
      (fun s => (decide (s.last false = some oneCollector ∧
        ⟨"1", true, ["1"]⟩ ∈ (s.nodes false).bundles ∧
        ⟨.input, .i, "1", 1000⟩ ∉ s.world.machine.rules) : Bool)) = some true := by decide +kernel
  cases hrun : calls.foldl (vrfStep sortedEnv) (.ok (.fresh twoVrfs emptyWorld)) with
  | error =>
    rw [hrun] at hlost
    cases hlost
  | ok s =>
    rw [hrun] at hserved hlost
    obtain ⟨hlast, hbundle, hrule⟩ := of_decide_eq_true (Option.some.inj hlost)
    exact hrule (hserved.rules false _ ⟨_, hlast, _, hbundle, rfl, List.mem_cons_self⟩)

end Vrfs

end ContainerPlugin.Sflow
