import ContainerPlugin.Ofproto.Providers

/-!
# The rules of all providers

The `DROP` rules and the L3 statistics rules of all providers are in the same tables. A provider only
looks for rules of its own netdevs, and the calls on the others leave those alone.
-/

namespace ContainerPlugin.Ofproto

section Rules

variable {env : Env} {P : String → Prop} {s s₀ : State} {w₀ : World}

theorem dropCounts_congr {w w' : World} (h : w'.iptables = w.iptables) (dev : String) :
    w'.dropCounts dev = w.dropCounts dev := by
  rw [World.dropCounts, h, World.dropCounts]

theorem l3Requests_congr {w w' : World} (h : w'.l3stats = w.l3stats) (dev : String) :
    w'.l3Requests dev = w.l3Requests dev := by
  rw [World.l3Requests, h, World.l3Requests]

/-- Unlinking a port makes a request for its netdev only. -/
theorem l3Requests_detachPort (env : Env) {p : OfpPort} {dev : String} (hdev : dev ≠ (s.port p).name) :
    (detachPort env s p).world.l3Requests dev = s.world.l3Requests dev := by
  have hreqs := l3Requests_congr (l3stats_enablePortInIptables env s.world (s.port p).name) dev
  simp only [detachPort]
  split <;> split
  · exact (l3Requests_ne hdev).trans hreqs
  · exact l3Requests_ne hdev
  · exact hreqs
  · rfl

theorem l3Requests_attachPort {q : Ptr} {p : OfpPort} {dev : String} (hdev : dev ≠ (s.port p).name) :
    (attachPort s q p).world.l3Requests dev = s.world.l3Requests dev := by
  simp only [attachPort]
  split
  · exact l3Requests_ne hdev
  · rfl

theorem l3Requests_blockPort (env : Env) (s : State) (p : OfpPort) (dev : String) :
    (blockPort env s p).world.l3Requests dev = s.world.l3Requests dev := by
  rw [blockPort]
  split
  · rfl
  · exact l3Requests_congr (l3stats_disablePortInIptables ..) dev

/-- The netdevs of the ports have names with `P`, and fit the commands of `iptables`. -/
def State.Devices (P : String → Prop) (s : State) : Prop :=
  ∀ p ∈ s.ports, P (s.port p).name ∧ ∀ op chain, (Cmd.iptables op chain (s.port p).name).Fits

theorem portInvariant_devices (env : Env) (P : String → Prop) :
    PortInvariant env (fun _ => True) (State.Devices P) :=
  .of_port (R := fun _ port => P port.name ∧ ∀ op chain, (Cmd.iptables op chain port.name).Fits)
    (fun _ _ h => h) (fun _ _ _ _ h => h) fun _ _ _ h => h

/-- Nothing happens to the rules of the device. -/
structure World.Untouched (w w' : World) (dev : String) : Prop extends w.SameRules w' dev where
  l3Requests : w'.l3Requests dev = w.l3Requests dev

theorem World.Untouched.trans {w w₁ w₂ : World} {dev : String} (h : w.Untouched w₁ dev)
    (h' : w₁.Untouched w₂ dev) : w.Untouched w₂ dev where
  toSameRules := h.toSameRules.trans h'.toSameRules
  l3Requests := h'.l3Requests.trans h.l3Requests

/-- The rules of other netdevs stay. -/
theorem portInvariant_otherRules (henv : env.IptablesHealthy) (P : String → Prop) (w₀ : World) :
    PortInvariant env (fun _ => True) fun s => s.Devices P ∧ ∀ dev, ¬ P dev →
      w₀.Untouched s.world dev := by
  have hdevices := portInvariant_devices env P
  have hother : ∀ {s : State} {p : OfpPort}, s.Devices P → p ∈ s.ports → ∀ dev, ¬ P dev →
      dev ≠ (s.port p).name := by
    rintro s p hs hp _ hdev rfl
    exact hdev (hs p hp).1
  refine ⟨?_, ?_, ?_, ?_, ?_⟩
  · intro s s' h hports hport hvrf hworld
    refine ⟨hdevices.congr h.1 hports hport hvrf hworld, ?_⟩
    rw [hworld]
    exact h.2
  · intro s c hc h
    refine ⟨hdevices.system hc h.1, fun dev hdev => (h.2 dev hdev).trans ?_⟩
    exact ⟨World.sameRules_system hc dev, l3Requests_congr (l3stats_system env s.world c) dev⟩
  · intro s p hp hb h
    refine ⟨hdevices.detach hp hb h.1, fun dev hdev => (h.2 dev hdev).trans ?_⟩
    have hne := hother h.1 hp dev hdev
    exact ⟨sameRules_detachPort henv (h.1 p hp).2 hne, l3Requests_detachPort env hne⟩
  · intro s q p hT hp hb h
    refine ⟨hdevices.attach hT hp hb h.1, fun dev hdev => (h.2 dev hdev).trans ?_⟩
    exact ⟨sameRules_attachPort s q p dev, l3Requests_attachPort (hother h.1 hp dev hdev)⟩
  · intro s p hp hb hvrf h
    refine ⟨hdevices.block hp hb hvrf h.1, fun dev hdev => (h.2 dev hdev).trans ?_⟩
    exact ⟨sameRules_blockPort henv (h.1 p hp).2 (hother h.1 hp dev hdev),
      l3Requests_blockPort env s p dev⟩

/-- A VRF blocks no port and leaves the rules as they were found. -/
def VrfRules (left : String → ℕ × ℕ) (s : State) : Prop :=
  s.vrf = true → ∀ p ∈ s.ports, (s.port p).iptableRulesAdded = false ∧
    s.world.dropCounts (s.port p).name = left (s.port p).name

theorem portInvariant_vrfRules (env : Env) (left : String → ℕ × ℕ) :
    PortInvariant env (fun _ => True) (VrfRules left) := by
  -- one port changes, but neither its netdev nor the rules
  have hupdate : ∀ {s s' : State} {p : OfpPort} {port : SimProviderOfport}, p ∈ s.ports →
      s'.ports = s.ports → s'.port = Function.update s.port p port → s'.vrf = s.vrf →
      port.name = (s.port p).name → ((s.port p).iptableRulesAdded = false →
        port.iptableRulesAdded = false ∧ ∀ dev, s'.world.dropCounts dev = s.world.dropCounts dev) →
      VrfRules left s → VrfRules left s' := by
    intro s s' p port hp hports hport hvrf hname hkept h hv p' hp'
    have h := h (hvrf ▸ hv)
    obtain ⟨hflag, hcounts⟩ := hkept (h p hp).1
    rw [hcounts, hport]
    by_cases hpp : p' = p
    · rw [hpp, Function.update_self, hname]
      exact ⟨hflag, (h p hp).2⟩
    · rw [Function.update_of_ne hpp]
      exact h p' (hports ▸ hp')
  refine ⟨?_, ?_, ?_, ?_, ?_⟩
  · intro s s' h hports hport hvrf hworld
    rw [VrfRules, hports, hport, hvrf, hworld]
    exact h
  · intro s c hc h hv p hp
    refine (h hv p hp).imp_right fun hleft => ?_
    exact (dropCounts_congr (World.ovsOnly_system env s.world hc).iptables _).trans hleft
  · intro s p hp _ h
    refine hupdate hp rfl rfl rfl rfl (fun hflag => ⟨rfl, fun dev => ?_⟩) h
    simp only [detachPort, hflag, Bool.false_eq_true, if_false]
    split <;> rfl
  · intro s q p _ hp _ h
    refine hupdate hp rfl rfl rfl rfl (fun hflag => ⟨hflag, fun dev => ?_⟩) h
    simp only [attachPort]
    split <;> rfl
  · intro s p _ _ hvrf h hv
    rw [blockPort] at hv
    split at hv
    · simp [hvrf] at hv
    · simp [hvrf] at hv

end Rules

/-- A sound call that asks a bridge for no short bond. -/
def RulesCall (s : State) (op : Op) (s' : State) : Prop :=
  Sound s op s' ∧ (s.vrf = false → op.NoShortBond)

instance (s : State) (op : Op) (s' : State) : Decidable (RulesCall s op s') :=
  inferInstanceAs (Decidable (_ ∧ _))

/-- The rules of the netdevs of a provider that started in `s₀` and found those of `w₀`. -/
structure OwnRules (P : String → Prop) (w₀ : World) (s₀ s : State) : Prop where
  wf : s.WF
  devices : s.Devices P
  netdev : ∀ p ∈ s.ports, p ∈ s₀.ports ∧ (s.port p).name = (s₀.port p).name
  rules : LeftRules w₀ s
  member : ∀ p ∈ s.ports, (s.port p).bundle = none → (s.port p).iptableRulesAdded = false
  blocked : s.vrf = false → s.MembersBlocked
  vrf : VrfRules w₀.dropCounts s
  requests : L3Follows s

section OwnRules

variable {ι : Type*} {env : Env} {P : String → Prop} {w₀ : World} {s₀ s s' : State} {op : Op}

/-- The provider keeps its invariant. -/
theorem OwnRules.step (h : OwnRules P w₀ s₀ s) (henv : env.IptablesHealthy) (hcall : RulesCall s op s')
    (hstep : Ofproto.step env s op = .ok s') : OwnRules P w₀ s₀ s' := by
  obtain ⟨hsound, hlong⟩ := hcall
  have hvrf : s'.vrf = s.vrf := (portInvariant_vrf env s.vrf).step h.wf hsound rfl hstep
  refine ⟨(h.wf.step hsound.1 hsound.2 hstep).1, ?_, ?_, ?_, ?_, fun hv => ?_, ?_, ?_⟩
  · exact (portInvariant_devices env P).step h.wf hsound h.devices hstep
  · exact (portInvariant_netdev env s₀).step h.wf hsound h.netdev hstep
  · exact (leftRules_portInvariant henv w₀).step h.wf hsound h.rules hstep
  · exact (portInvariant_member env).step h.wf hsound h.member hstep
  · rw [hvrf] at hv
    exact (h.blocked hv).step h.wf hv hsound (hlong hv) hstep
  · exact (portInvariant_vrfRules env _).step h.wf hsound h.vrf hstep
  · exact (l3Follows_portInvariant env).step h.wf hsound h.requests hstep

/-- What the other providers guarantee is enough. -/
theorem OwnRules.inWorld {w : World} (h : OwnRules P w₀ s₀ s)
    (hrules : ∀ dev, P dev → s.world.Untouched w dev) : OwnRules P w₀ s₀ (s.inWorld w) := by
  have hrules : ∀ p ∈ s.ports, s.world.Untouched w (s.port p).name :=
    fun p hp => hrules _ (h.devices p hp).1
  have hreqs := fun p hp => (hrules p hp).l3Requests
  refine ⟨h.wf.inWorld w, h.devices, h.netdev, ⟨h.rules.distinct, h.rules.fits, fun p hp => ?_⟩,
    h.member, h.blocked, fun hv p hp => ?_,
    ⟨h.requests.distinct, fun hv p hp => ?_, fun p hp => ?_, fun hv p hp => ?_⟩⟩
  · exact (h.rules.counts p hp).same (hrules p hp).toSameRules
  · exact (h.vrf hv p hp).imp_right (hrules p hp).dropCounts.trans
  · exact (hreqs p hp).trans (h.requests.bridge hv p hp)
  · have halternate := h.requests.alternate p hp
    rw [← hreqs p hp] at halternate
    exact halternate
  · have hlast := h.requests.last hv p hp
    rw [← hreqs p hp] at hlast
    exact hlast

/-- Each provider has its own part of the tables. -/
theorem reliable_ownRules [DecidableEq ι] (henv : env.IptablesHealthy) (owner : String → ι)
    (w₀ : World) (s₀ : ι → State) :
    Interleave.Reliable (Called env fun _ => RulesCall)
      (fun j w w' => ∀ dev, owner dev ≠ j → w.Untouched w' dev)
      fun i x => OwnRules (owner · = i) w₀ (s₀ i) (x.2.inWorld x.1) where
  own := by
    rintro i ⟨w, s⟩ ⟨w', s'⟩ hown ⟨op, hstep, hworld, hcall⟩
    obtain rfl : w' = s'.world := hworld
    refine ⟨hown.step henv hcall hstep, ?_⟩
    exact ((portInvariant_otherRules henv (owner · = i) w).step hown.wf hcall.1
      ⟨hown.devices, fun _ _ => ⟨⟨rfl, rfl⟩, rfl⟩⟩ hstep).2
  other := by
    rintro i j w w' s hij hown hrules
    refine hown.inWorld fun dev hdev => hrules dev ?_
    exact fun hj => hij (hdev.symm.trans hj)

theorem Constructed.ownRules (h : Constructed s)
    (hdistinct : ∀ p ∈ s.ports, ∀ p' ∈ s.ports, (s.port p).name = (s.port p').name → p = p')
    (hdevices : s.Devices P) (hl3 : s.world.l3stats = []) :
    OwnRules P s.world s s where
  wf := h.wf
  devices := hdevices
  netdev p hp := ⟨hp, rfl⟩
  rules := h.leftRules hdistinct fun p hp => (hdevices p hp).2
  member p hp _ := h.iptableRulesAdded p hp
  blocked _ p hp q hb := by
    rw [h.bundle p hp] at hb
    cases hb
  vrf _ p hp := ⟨h.iptableRulesAdded p hp, rfl⟩
  requests := l3Follows_unlinked h.bundle hl3 hdistinct

end OwnRules

/-- Any number of bridges and VRFs find at most one `DROP` rule for a port, in both chains or in none,
and are called in any order. On a bridge every port of a bundle that is to be in the ASIC has exactly
one rule in each chain, and a port in no bundle has none but those that were found. A VRF leaves the
rules of its ports alone, and has the L3 statistics rules of just those created that are in a bundle. -/
theorem rules_of_all_providers {ι : Type*} [DecidableEq ι] (env : Env) (henv : env.IptablesHealthy)
    (owner : String → ι) {ps₀ ps : Providers ι} (h₀ : ∀ i, Constructed (ps₀.provider i))
    (hdistinct : ∀ i, ∀ p ∈ (ps₀.provider i).ports, ∀ p' ∈ (ps₀.provider i).ports,
      ((ps₀.provider i).port p).name = ((ps₀.provider i).port p').name → p = p')
    (hdevices : ∀ i, (ps₀.provider i).Devices (owner · = i)) (hl3 : ps₀.1.l3stats = [])
    (hleft : ∀ i, ∀ p ∈ (ps₀.provider i).ports,
      ps₀.1.dropCounts ((ps₀.provider i).port p).name = (0, 0) ∨
        ps₀.1.dropCounts ((ps₀.provider i).port p).name = (1, 1))
    (h : ps₀.Reaches env (fun _ => RulesCall) ps) : ∀ i, ∀ p ∈ (ps.provider i).ports,
      let port := (ps.provider i).port p
      let found := ps₀.1.dropCounts port.name
      ((ps.provider i).vrf = false →
        (∀ q, port.bundle = some q → (ps.provider i).IsReconfigured q →
          ps.1.dropCounts port.name = (1, 1)) ∧
        (port.bundle = none →
          ps.1.dropCounts port.name = (0, 0) ∨ ps.1.dropCounts port.name = found) ∧
        ps.1.l3Requests port.name = []) ∧
      ((ps.provider i).vrf = true → ps.1.dropCounts port.name = found ∧
        Alternate (ps.1.l3Requests port.name) ∧
        lastRequest (ps.1.l3Requests port.name) = port.bundle.isSome) := by
  have hinit : ∀ i, OwnRules (owner · = i) ps₀.1 (ps₀.provider i) (ps₀.provider i) :=
    fun i => (h₀ i).ownRules (hdistinct i) (hdevices i) hl3
  intro i p hp port found
  have hown : OwnRules (owner · = i) ps₀.1 (ps₀.provider i) (ps.provider i) :=
    (reliable_ownRules henv owner _ ps₀.provider).steps hinit h i
  obtain ⟨hp₀, hname⟩ := hown.netdev p hp
  have hfound := hleft i p hp₀
  rw [← hname] at hfound
  obtain ⟨hone, hfree⟩ := hown.rules.once hp hfound
  refine ⟨fun hv => ⟨fun q hb hre => ?_, fun hb => ?_, hown.requests.bridge hv p hp⟩, fun hv => ?_⟩
  · exact hone (hown.blocked hv p hp q hb hre)
  · exact hfree (hown.member p hp hb)
  · exact ⟨(hown.vrf hv p hp).2, hown.requests.alternate p hp, hown.requests.last hv p hp⟩

/-- A port of `br0` is blocked and a port of the VRF `br2` is linked; `eth10` has rules from before. -/
theorem rules_of_all_providers_of_three : ∃ ps,
    Providers.run sampleEnv ({ sampleProviders.1 with
        iptables := [(.input, "eth10"), (.forward, "eth10")] }, sampleProviders.2)
      [(0, .bundleSet 100 (some (sampleSettings "eth1" [1] false))),
        (2, .bundleSet 100 (some (sampleSettings "eth10" [2] false)))] = .ok ps ∧
    ps.1.dropCounts "eth1" = (1, 1) ∧ ps.1.dropCounts "eth10" = (1, 1) ∧
      lastRequest (ps.1.l3Requests "eth10") = true := by
  let ps₀ : Providers (Fin 3) := ({ sampleProviders.1 with
    iptables := [(.input, "eth10"), (.forward, "eth10")] }, sampleProviders.2)
  let calls : List (Fin 3 × Op) := [(0, .bundleSet 100 (some (sampleSettings "eth1" [1] false))),
    (2, .bundleSet 100 (some (sampleSettings "eth10" [2] false)))]
  have h₀ : ∀ i, Constructed (ps₀.provider i) :=
    fun i => ⟨rfl, rfl, rfl, rfl, fun _ _ => rfl, fun _ _ => rfl⟩
  have hdevices : ∀ i, (ps₀.provider i).Devices (sampleOwner · = i) := by
    intro i p hp
    refine ⟨sampleProviders_owner i p hp, fun op chain => ?_⟩
    revert i p
    cases op <;> cases chain <;> decide +kernel
  have hleft : ∀ i, ∀ p ∈ (ps₀.provider i).ports,
      ps₀.1.dropCounts ((ps₀.provider i).port p).name = (0, 0) ∨
        ps₀.1.dropCounts ((ps₀.provider i).port p).name = (1, 1) := by decide +kernel
  have hmeets : Providers.RunMeets sampleEnv (fun _ => RulesCall) ps₀ calls := by decide +kernel
  have hobs : (ps₀.run sampleEnv calls).toOption.map (fun ps => decide (
      (1 ∈ (ps.provider 0).ports ∧ ((ps.provider 0).port 1).name = "eth1" ∧
        (ps.provider 0).vrf = false ∧ ∃ q ∈ (ps.provider 0).bundles,
          ((ps.provider 0).port 1).bundle = some q ∧ (ps.provider 0).IsReconfigured q) ∧
      2 ∈ (ps.provider 2).ports ∧ ((ps.provider 2).port 2).name = "eth10" ∧
        (ps.provider 2).vrf = true ∧ ((ps.provider 2).port 2).bundle.isSome = true)) = some true := by
    decide +kernel
  obtain ⟨ps, hrun, hreaches, hps⟩ := Providers.Reaches.of_observed hmeets hobs
  rw [decide_eq_true_eq] at hps
  obtain ⟨⟨hp, hname, hv, q, -, hb, hre⟩, hp', hname', hv', hb'⟩ := hps
  have hrules := rules_of_all_providers sampleEnv (fun _ _ _ _ => rfl) sampleOwner h₀
    (by decide +kernel) hdevices rfl hleft hreaches
  have hblocked := ((hrules 0 1 hp).1 hv).1 q hb hre
  obtain ⟨hkept, -, hlast⟩ := (hrules 2 2 hp').2 hv'
  rw [hname] at hblocked
  rw [hname'] at hkept hlast
  refine ⟨ps, hrun, hblocked, hkept.trans ?_, hlast.trans hb'⟩
  decide +kernel

end ContainerPlugin.Ofproto
