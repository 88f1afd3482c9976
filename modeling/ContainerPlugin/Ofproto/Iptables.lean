import ContainerPlugin.Ofproto.Membership

/-!
# `DROP` rules follow membership

`iptable_rules_added` says whether the two `DROP` rules of a port are installed, and a port that has
them is in a bundle of a bridge. This is kept by each of the steps that a call takes at a port.
-/

namespace ContainerPlugin.Ofproto

/-- The flags of the ports match the rules. -/
structure DropRules (s : State) : Prop where
  distinct : ∀ p ∈ s.ports, ∀ p' ∈ s.ports, (s.port p).name = (s.port p').name → p = p'
  fits : ∀ p ∈ s.ports, ∀ op chain, (Cmd.iptables op chain (s.port p).name).Fits
  blocked : ∀ p ∈ s.ports, (s.port p).iptableRulesAdded = true →
    (∀ chain, s.world.iptables.count (chain, (s.port p).name) = 1) ∧ (s.port p).bundle ≠ none ∧
      s.vrf = false
  free : ∀ p ∈ s.ports, (s.port p).iptableRulesAdded = false →
    ∀ chain, (chain, (s.port p).name) ∉ s.world.iptables

section World

variable {env : Env} {w : World} {dev : String}

/-- Both rules are deleted. -/
theorem iptables_enablePortInIptables (henv : env.IptablesHealthy)
    (hfits : ∀ op chain, (Cmd.iptables op chain dev).Fits)
    (hmem : ∀ chain, (chain, dev) ∈ w.iptables) :
    (enablePortInIptables env w dev).iptables =
      (w.iptables.erase (.input, dev)).erase (.forward, dev) := by
  have hinput := (World.system_iptables (w := w) henv (hfits .delete .input)).1
  simp only [execIptables, if_pos (hmem .input), Option.getD_some] at hinput
  have hmem' : (Chain.forward, dev) ∈ w.iptables.erase (.input, dev) :=
    (List.mem_erase_of_ne (by simp)).mpr (hmem .forward)
  have hforward := (World.system_iptables (w := (w.system env (.iptables .delete .input dev)).1)
    henv (hfits .delete .forward)).1
  simp only [execIptables, hinput, if_pos hmem', Option.getD_some] at hforward
  exact hforward

/-- Both rules are installed. -/
theorem iptables_disablePortInIptables (henv : env.IptablesHealthy)
    (hfits : ∀ op chain, (Cmd.iptables op chain dev).Fits)
    (hmem : ∀ chain, (chain, dev) ∉ w.iptables) :
    (disablePortInIptables env w dev).iptables =
      w.iptables ++ [(.input, dev)] ++ [(.forward, dev)] := by
  obtain ⟨hrules, hfound⟩ := World.system_iptables (w := w) henv (hfits .check .input)
  simp only [execIptables, if_neg (hmem .input), Option.getD_none, Option.isSome_none] at hrules hfound
  simp only [disablePortInIptables, hfound, Bool.false_eq_true, if_false]
  rw [(World.system_iptables henv (hfits .append .forward)).1]
  simp only [execIptables, Option.getD_some, (World.system_iptables henv (hfits .append .input)).1,
    hrules]

end World

section PortStep

variable {env : Env} {s s' : State} {p : OfpPort} {q : Ptr}

theorem DropRules.ovs (h : DropRules s) (hframe : s.OvsFrame s') : DropRules s' := by
  obtain ⟨hports, hport, hvrf, hworld⟩ := hframe
  refine ⟨?_, ?_, ?_, ?_⟩ <;> rw [hports, hport]
  · exact h.distinct
  · exact h.fits
  · rw [hvrf, hworld.iptables]
    exact h.blocked
  · rw [hworld.iptables]
    exact h.free

/-- One port and its rules are changed: only they need to be looked at. -/
theorem DropRules.update {port : SimProviderOfport} (h : DropRules s) (hp : p ∈ s.ports)
    (hports : s'.ports = s.ports) (hvrf : s'.vrf = s.vrf)
    (hport : s'.port = Function.update s.port p port) (hname : port.name = (s.port p).name)
    (hothers : ∀ chain dev, dev ≠ (s.port p).name →
      s'.world.iptables.count (chain, dev) = s.world.iptables.count (chain, dev))
    (hblocked : port.iptableRulesAdded = true →
      (∀ chain, s'.world.iptables.count (chain, (s.port p).name) = 1) ∧ port.bundle ≠ none ∧
        s.vrf = false)
    (hfree : port.iptableRulesAdded = false →
      ∀ chain, (chain, (s.port p).name) ∉ s'.world.iptables) : DropRules s' := by
  have hnames : ∀ p', (s'.port p').name = (s.port p').name := by
    intro p'
    rw [hport]
    by_cases hpp : p' = p
    · subst hpp
      simp [hname]
    · simp [hpp]
  have hne : ∀ p' ∈ s.ports, p' ≠ p → (s.port p').name ≠ (s.port p).name :=
    fun p' hp' hpp heq => hpp (h.distinct p' hp' p hp heq)
  have hself : s'.port p = port := by rw [hport, Function.update_self]
  have hother : ∀ p', p' ≠ p → s'.port p' = s.port p' := fun p' hpp => by
    rw [hport, Function.update_of_ne hpp]
  refine ⟨?_, ?_, ?_, ?_⟩ <;> rw [hports]
  · intro p₁ h₁ p₂ h₂
    rw [hnames, hnames]
    exact h.distinct p₁ h₁ p₂ h₂
  · intro p' hp'
    rw [hnames]
    exact h.fits p' hp'
  · intro p' hp' hflag
    rw [hnames, hvrf]
    by_cases hpp : p' = p
    · subst hpp
      rw [hself] at hflag ⊢
      exact hblocked hflag
    · rw [hother p' hpp] at hflag ⊢
      simp only [hothers _ _ (hne p' hp' hpp)]
      exact h.blocked p' hp' hflag
  · intro p' hp' hflag chain
    rw [hnames]
    by_cases hpp : p' = p
    · subst hpp
      rw [hself] at hflag
      exact hfree hflag chain
    · rw [hother p' hpp] at hflag
      rw [← List.count_eq_zero, hothers _ _ (hne p' hp' hpp), List.count_eq_zero]
      exact h.free p' hp' hflag chain

theorem DropRules.detachPort (henv : env.IptablesHealthy) (h : DropRules s) (hp : p ∈ s.ports) :
    DropRules (Ofproto.detachPort env s p) := by
  have hl3 : (Ofproto.detachPort env s p).world.iptables =
      (if (s.port p).iptableRulesAdded then enablePortInIptables env s.world (s.port p).name
        else s.world).iptables := by
    simp only [Ofproto.detachPort]
    split <;> rfl
  by_cases hflag : (s.port p).iptableRulesAdded = true
  · have hcount := (h.blocked p hp hflag).1
    have hmem : ∀ chain, (chain, (s.port p).name) ∈ s.world.iptables := fun chain => by
      rw [← List.count_pos_iff, hcount chain]
      exact Nat.one_pos
    rw [if_pos hflag, iptables_enablePortInIptables henv (h.fits p hp) hmem] at hl3
    refine h.update hp rfl rfl rfl rfl (fun chain dev hdev => ?_) (by simp) fun _ chain => ?_
    · rw [hl3, List.count_erase_of_ne (by simp [hdev]), List.count_erase_of_ne (by simp [hdev])]
    · rw [hl3, ← List.count_eq_zero]
      cases chain with
      | input => rw [List.count_erase_of_ne (by simp), List.count_erase_self, hcount]
      | forward => rw [List.count_erase_self, List.count_erase_of_ne (by simp), hcount]
  · rw [if_neg hflag] at hl3
    refine h.update hp rfl rfl rfl rfl (fun chain dev _ => by rw [hl3]) (by simp) fun _ chain => ?_
    rw [hl3]
    exact h.free p hp (by simpa using hflag) chain

theorem DropRules.attachPort (h : DropRules s) (hp : p ∈ s.ports) :
    DropRules (Ofproto.attachPort s q p) := by
  have hl3 : (Ofproto.attachPort s q p).world.iptables = s.world.iptables := by
    simp only [Ofproto.attachPort]
    split <;> rfl
  refine h.update hp rfl rfl rfl rfl (fun chain dev _ => by rw [hl3]) ?_ ?_ <;> rw [hl3]
  · exact fun hflag => ⟨(h.blocked p hp hflag).1, by simp, (h.blocked p hp hflag).2.2⟩
  · exact h.free p hp

theorem DropRules.blockPort (henv : env.IptablesHealthy) (h : DropRules s) (hp : p ∈ s.ports)
    (hb : (s.port p).bundle ≠ none) (hvrf : s.vrf = false) :
    DropRules (Ofproto.blockPort env s p) := by
  rw [Ofproto.blockPort]
  split
  · exact h
  · rename_i hflag
    have hmem := h.free p hp (by simpa using hflag)
    have hrules := iptables_disablePortInIptables (w := s.world) henv (h.fits p hp) hmem
    have hzero : ∀ chain, s.world.iptables.count (chain, (s.port p).name) = 0 :=
      fun chain => List.count_eq_zero.mpr (hmem chain)
    refine h.update hp rfl rfl rfl rfl (fun chain dev hdev => ?_) (fun _ => ⟨fun chain => ?_, hb, hvrf⟩)
      (by simp)
    · simp [hrules, List.count_append, hdev.symm]
    · cases chain <;> simp [hrules, List.count_append, hzero]

theorem DropRules.step (henv : env.IptablesHealthy) (h : DropRules s) (hstep : PortStep env s s') :
    DropRules s' := by
  cases hstep with
  | ovs hframe => exact h.ovs hframe
  | detach hp => exact h.detachPort henv hp
  | attach hp _ => exact h.attachPort hp
  | block hp hb hvrf => exact h.blockPort henv hp hb hvrf

theorem DropRules.steps (henv : env.IptablesHealthy) (h : DropRules s) (hsteps : PortSteps env s s') :
    DropRules s' := by
  induction hsteps with
  | refl => exact h
  | tail _ hstep ih => exact ih.step henv hstep

end PortStep

theorem Initial.dropRules {s : State} (h : Initial s)
    (hdistinct : ∀ p ∈ s.ports, ∀ p' ∈ s.ports, (s.port p).name = (s.port p').name → p = p')
    (hfits : ∀ p ∈ s.ports, ∀ op chain, (Cmd.iptables op chain (s.port p).name).Fits) :
    DropRules s where
  distinct := hdistinct
  fits := hfits
  blocked p hp hflag := by simp [h.iptableRulesAdded p hp] at hflag
  free p hp _ chain := h.iptables p hp chain

/-- With `iptables` at work and distinct netdev names, the flag of a port says exactly whether its
traffic is kept from the kernel, and only a port in a bundle of a bridge is. -/
theorem dropRules_follow_membership (env : Env) {s₀ s : State} (h₀ : Initial s₀)
    (hdistinct : ∀ p ∈ s₀.ports, ∀ p' ∈ s₀.ports, (s₀.port p).name = (s₀.port p').name → p = p')
    (hfits : ∀ p ∈ s₀.ports, ∀ op chain, (Cmd.iptables op chain (s₀.port p).name).Fits)
    (henv : env.IptablesHealthy) (h : Reaches env Sound s₀ s) :
    ∀ p ∈ s.ports,
      ((s.port p).iptableRulesAdded = true ↔
        s.world.iptables.count (.input, (s.port p).name) = 1 ∧
          s.world.iptables.count (.forward, (s.port p).name) = 1) ∧
      ((s.port p).iptableRulesAdded = false ↔
        s.world.iptables.count (.input, (s.port p).name) = 0 ∧
          s.world.iptables.count (.forward, (s.port p).name) = 0) ∧
      ((s.port p).iptableRulesAdded = true →
        s.vrf = false ∧ ∃ q ∈ s.bundles, (s.port p).bundle = some q ∧ s.LinkedIn p q) := by
  obtain ⟨hwf, hrules⟩ : s.WF ∧ DropRules s := by
    refine h.invariant (I := fun s => s.WF ∧ DropRules s) ⟨h₀.wf, h₀.dropRules hdistinct hfits⟩ ?_
    intro s op s' ⟨hwf, hrules⟩ hsound hstep
    obtain ⟨hwf', heffect⟩ := hwf.step hsound.1 hsound.2 hstep
    exact ⟨hwf', hrules.steps henv heffect.steps⟩
  intro p hp
  have hmember : (s.port p).iptableRulesAdded = true →
      s.vrf = false ∧ ∃ q ∈ s.bundles, (s.port p).bundle = some q ∧ s.LinkedIn p q := by
    intro hflag
    obtain ⟨-, hb, hvrf⟩ := hrules.blocked p hp hflag
    obtain ⟨q, hq⟩ := Option.ne_none_iff_exists'.mp hb
    have hlive := hwf.owner p hp q hq
    exact ⟨hvrf, q, hlive, hq, (hwf.exclusiveMembership.linked_iff q hlive p hp).mpr hq⟩
  cases hflag : (s.port p).iptableRulesAdded with
  | true =>
    have hcount := (hrules.blocked p hp hflag).1
    simpa [hcount, hflag] using hmember
  | false =>
    have hcount := fun chain => List.count_eq_zero.mpr (hrules.free p hp hflag chain)
    simp [hcount]

/-- A bond takes port 1 over from its bundle, and then gives it back. -/
theorem dropRules_follow_membership_of_release : ∃ s,
    run sampleEnv (sampleState false) [.bundleSet 100 (some (sampleSettings "eth1" [1] false)),
      .bundleSet 101 (some (sampleSettings "bond0" [1, 2] false)),
      .bundleSet 101 (some (sampleSettings "bond0" [2] false))] = .ok s ∧
    ∀ p ∈ s.ports, (s.port p).iptableRulesAdded = false ↔
      s.world.iptables.count (.input, (s.port p).name) = 0 ∧
        s.world.iptables.count (.forward, (s.port p).name) = 0 := by
  have hmeets : RunMeets sampleEnv Sound (sampleState false)
      [.bundleSet 100 (some (sampleSettings "eth1" [1] false)),
        .bundleSet 101 (some (sampleSettings "bond0" [1, 2] false)),
        .bundleSet 101 (some (sampleSettings "bond0" [2] false))] := by decide +kernel
  have hfits : ∀ p ∈ (sampleState false).ports, ∀ op chain,
      (Cmd.iptables op chain ((sampleState false).port p).name).Fits := by
    intro p hp op chain
    revert p
    cases op <;> cases chain <;> decide +kernel
  obtain ⟨s, hrun, hreaches⟩ := Reaches.of_runMeets hmeets
  exact ⟨s, hrun, fun p hp => (dropRules_follow_membership sampleEnv (sampleState_initial false)
    (by decide +kernel) hfits (fun _ _ _ _ => rfl) hreaches p hp).2.1⟩

end ContainerPlugin.Ofproto
