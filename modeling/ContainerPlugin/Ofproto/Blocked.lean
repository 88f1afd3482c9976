import ContainerPlugin.Ofproto.AsicColumns
import ContainerPlugin.Ofproto.Iptables
import ContainerPlugin.Ofproto.ShortBonds

/-!
# Switched ports are kept from the kernel

A port that the ASIC switches must not be routed by the kernel as well. Its `DROP` rules survive the
provider, and `disable_port_in_iptables` only looks for the one in `INPUT`, so that what a new provider
makes of the rules that it finds depends on their numbers in both chains.
-/

namespace ContainerPlugin.Ofproto

/-- The ports of the bundles outside `T` are blocked. -/
def State.BlockedBut (s : State) (T : Ptr → Prop) : Prop :=
  ∀ p ∈ s.ports, ∀ q, (s.port p).bundle = some q → ¬ T q → (s.port p).iptableRulesAdded = true

/-- The ports of the bundles that are to be in the ASIC are blocked. -/
def State.MembersBlocked (s : State) : Prop :=
  ∀ p ∈ s.ports, ∀ q, (s.port p).bundle = some q → s.IsReconfigured q →
    (s.port p).iptableRulesAdded = true

/-- Settings for a bond, but with fewer than two of its slaves. -/
def OfprotoBundleSettings.ShortBond (settings : OfprotoBundleSettings) : Prop :=
  settings.slavesEntered > 1 ∧ settings.slaves.length ≤ 1

instance (settings : OfprotoBundleSettings) : Decidable settings.ShortBond :=
  inferInstanceAs (Decidable (_ ∧ _))

/-- A call after which the bundle that it is about is configured. -/
def Op.NoShortBond : Op → Prop
  | .bundleSet _ (some settings) => ¬ settings.ShortBond
  | _ => True

instance : ∀ op : Op, Decidable op.NoShortBond
  | .bundleSet _ (some _) => inferInstanceAs (Decidable (¬ _))
  | .bundleSet _ none | .bundleRemove _ | .setVlan .. | .mirrorSet .. => inferInstanceAs (Decidable True)

/-- A call that neither tears down a LAG nor claims a port of one, and asks for no short bond. -/
def BlockingCall (s : State) (op : Op) (s' : State) : Prop := Sound s op s' ∧ op.NoShortBond

instance (s : State) (op : Op) (s' : State) : Decidable (BlockingCall s op s') :=
  inferInstanceAs (Decidable (_ ∧ _))

section BlockedBut

variable {env : Env} {T : Ptr → Prop} {s s' : State} {p : OfpPort} {q : Ptr}

/-- Linking a port into a bundle of `T`, unlinking and blocking one keep the others blocked. -/
theorem portInvariant_blockedBut (env : Env) (T : Ptr → Prop) :
    PortInvariant env T fun s => s.BlockedBut T :=
  .of_port (R := fun _ port => ∀ q, port.bundle = some q → ¬ T q → port.iptableRulesAdded = true)
    (fun _ _ _ _ hb => by cases hb)
    (fun _ _ _ hT _ _ hb hq => absurd (Option.some.inj hb ▸ hT) hq) fun _ _ _ _ _ _ _ => rfl

/-! ## `bundle_configure` blocks the ports of the bundle -/

theorem blockPort_iptableRulesAdded (env : Env) (s : State) (p p' : OfpPort) :
    ((blockPort env s p).port p').iptableRulesAdded =
      (decide (p' = p) || (s.port p').iptableRulesAdded) := by
  rw [blockPort]
  by_cases hpp : p' = p
  · subst hpp
    split
    · simp [‹(s.port p').iptableRulesAdded = true›]
    · simp
  · split
    · simp [hpp]
    · simp [hpp]

theorem blockPorts_iptableRulesAdded (env : Env) (s : State) (ps : List OfpPort) (p : OfpPort) :
    ((ps.foldl (blockPort env) s).port p).iptableRulesAdded =
      (decide (p ∈ ps) || (s.port p).iptableRulesAdded) := by
  induction ps generalizing s with
  | nil => simp
  | cons p' ps ih =>
    rw [List.foldl_cons, ih, blockPort_iptableRulesAdded]
    by_cases hpp : p = p'
    · simp [hpp]
    · simp [hpp]

theorem State.WF.bundleConfigure_blocks (h : s.WF) (hq : q ∈ s.bundles) (hvrf : s.vrf = false) :
    (Ofproto.bundleConfigure env s q).Ensures (fun _ => True) fun s' =>
      ∀ p ∈ s.ports, (s.port p).bundle = some q → (s'.port p).iptableRulesAdded = true := by
  refine h.bundleConfigure_rule hq ?_ ?_
  · intro ps hps hout p hp hb
    have hmem := (hps.mem_iff p).mpr ⟨hp, hb⟩
    rw [hout.resolve_left (by simp [hvrf])] at hmem
    cases hmem
  · intro ps hps _ _
    refine (Except.ensures_true _).mono fun s₃ _ => ?_
    intro p hp hb
    have hmem := (hps.mem_iff p).mpr ⟨hp, hb⟩
    rw [blockPorts_iptableRulesAdded, decide_eq_true hmem, Bool.true_or]

/-- A bundle of the bridge's own port is marked as such. -/
theorem bundleApply_own {settings : OfprotoBundleSettings} (hq : q ∈ s.bundles)
    (hname : (s.bundle q).name = settings.name) (hvrf : s.vrf = false)
    (hown : s.isInternal settings.slaves ∧ settings.name = s.name) :
    (bundleApply env s q settings).Ensures (fun _ => True) fun s' => ¬ s'.IsReconfigured q := by
  have hderef : s.derefBundle q = .ok (s.bundle q) := if_pos hq
  simp only [bundleApply, hderef, Except.ok_bind, hname]
  split
  · intro hre
    simp_all [State.IsReconfigured]
  · rw [if_neg fun hroutes => hroutes.2.2.1 hown.2, if_pos ⟨hown.1, hown.2, hvrf⟩]
    simp [State.IsReconfigured, State.modifyBundle]

/-- Settings that are not for a short bond leave the bundle in no need of being configured, or with
its ports blocked. -/
theorem State.WF.bundleApply_blocks {settings : OfprotoBundleSettings} (h : s.WF) (hq : q ∈ s.bundles)
    (hname : (s.bundle q).name = settings.name) (hvrf : s.vrf = false) (hlong : ¬ settings.ShortBond) :
    (Ofproto.bundleApply env s q settings).Ensures (fun _ => True) fun s' => s'.IsReconfigured q →
      ∀ p ∈ s.ports, (s.port p).bundle = some q → (s'.port p).iptableRulesAdded = true := by
  by_cases hown : s.isInternal settings.slaves ∧ settings.name = s.name
  · exact (bundleApply_own hq hname hvrf hown).mono fun s' hs' hre => absurd hre hs'
  · refine bundleApply_rule hq hname ?_ ?_ ?_ ?_
    · intro hbridge hre
      rw [hre.2] at hbridge
      cases hbridge
    · intro sflow _ _
      refine (Except.ensures_true _).mono fun s' _ hre => ?_
      simp [State.IsReconfigured, State.modifyBundle] at hre
    · intro sflow bridge _ hroutes hnot
      exact absurd ⟨hroutes, hown, hvrf, hlong⟩ hnot
    · intro sflow _ _
      have hwf' := h.modifyBundle (q := q) (f := fun b =>
        ({ b with isSflowEnabled := sflow } : Ofbundle).withVlans settings) fun _ => rfl
      exact (hwf'.bundleConfigure_blocks hq hvrf).mono fun s' hs' _ => hs'

end BlockedBut

section MembersBlocked

variable {env : Env} {s s' s₀ : State} {q aux : Ptr} {settings : OfprotoBundleSettings} {op : Op}

theorem State.MembersBlocked.bundleSet (h : s.MembersBlocked) (hwf : s.WF) (hvrf : s.vrf = false)
    (hlong : ¬ settings.ShortBond) (hteardown : NoTeardown s (.bundleSet aux (some settings)))
    (hlag : NoLagClaimed s (.bundleSet aux (some settings))) :
    (Ofproto.bundleSet env s aux (some settings)).Ensures (fun _ => True)
      fun r => r.1.MembersBlocked := by
  refine hwf.bundleSet_rule
    (Q := fun q s₁ s₂ => s₂.BlockedBut fun q' => q' = q ∨ ¬ s₁.IsReconfigured q') hteardown hlag ?_ ?_ ?_
  · intro q s₁ hopened hwf₁ hq hnolag
    have hblocked : s₁.BlockedBut fun q' => q' = q ∨ ¬ s₁.IsReconfigured q' := by
      intro p hp q' hb hq'
      obtain ⟨hqq, hre⟩ := not_or.mp hq'
      replace hre := not_not.mp hre
      rw [State.IsReconfigured, hopened.bundle_ne q' hqq] at hre
      rw [hopened.frame.port] at hb ⊢
      exact h p (hopened.frame.ports ▸ hp) q' hb hre
    exact ((updatePorts_ensures hwf₁ hq hnolag).monoError fun _ _ => trivial).and
      ((portInvariant_blockedBut env _).updatePorts (.inl rfl) hwf₁ hq hnolag hblocked)
  · intro q s₁ s₂ _ _ hupdated hblocked _ _
    have hwf₂ := hupdated.wf
    refine (((hwf₂.bundleDestroy hupdated.live).monoError fun _ _ => trivial).and
      ((portInvariant_blockedBut env _).bundleDestroy hwf₂.toListsWF hupdated.live hblocked)).mono ?_
    rintro s' ⟨⟨hwf', hdestroyed⟩, hblocked'⟩ p hp q' hb hre
    refine hblocked' p hp q' hb ?_
    have hq' := hwf'.owner p hp q' hb
    rw [hdestroyed.bundles, hwf₂.nodup.mem_erase_iff] at hq'
    rw [State.IsReconfigured, hdestroyed.bundle q' hq'.1,
      (hupdated.claims.frame.sub q' hq'.2).2] at hre
    exact not_or.mpr ⟨hq'.1, not_not.mpr hre⟩
  · intro q s₁ s₂ ps hopened _ hupdated hblocked _ _ _ hname
    have hwf₂ := hupdated.wf
    have hvrf₂ : s₂.vrf = false :=
      (hupdated.claims.frame.vrf.trans hopened.frame.vrf).trans hvrf
    refine ((((hwf₂.bundleApply hupdated.live hname).monoError fun _ _ => trivial).and
      ((portInvariant_blockedBut env _).bundleApply hwf₂ hupdated.live hname hblocked)).and
      (hwf₂.bundleApply_blocks hupdated.live hname hvrf₂ hlong)).mono ?_
    rintro s' ⟨⟨⟨hwf', happlied⟩, hblocked'⟩, hown⟩ p hp q' hb hre
    obtain ⟨hports, hbundles, hbundle, -⟩ := happlied.frame
    by_cases hqq : q' = q
    · subst hqq
      exact hown hre p (hports ▸ hp) ((hbundle p).symm.trans hb)
    · refine hblocked' p hp q' hb ?_
      have hq' := hwf'.owner p hp q' hb
      rw [State.IsReconfigured, happlied.bundle_ne hqq,
        (hupdated.claims.frame.sub q' (hbundles ▸ hq')).2] at hre
      exact not_or.mpr ⟨hqq, not_not.mpr hre⟩

theorem Reconfigured.isReconfigured {qs : List Ptr} (h : Reconfigured env qs s s') (q : Ptr) :
    s'.IsReconfigured q ↔ s.IsReconfigured q := by
  induction h with
  | nil => exact .rfl
  | skip _ _ ih => exact ih
  | configure _ _ _ hconf _ ih => exact ih.trans (hconf.isReconfigured q)

theorem SetVlan.isReconfigured {vid : ℤ} {add : Bool} (h : SetVlan env vid add s s') (q : Ptr) :
    s'.IsReconfigured q ↔ s.IsReconfigured q := by
  cases h with
  | unchanged | vrf => exact .rfl
  | changed _ _ _ hre => exact hre.isReconfigured q

theorem State.MembersBlocked.destroyed (h : s.MembersBlocked) (hwf : s.WF) (hwf' : s'.WF)
    (hdestroyed : Destroyed env q s s') : s'.MembersBlocked := by
  intro p hp q' hb hre
  have hq' := hwf'.owner p hp q' hb
  rw [hdestroyed.bundles, hwf.nodup.mem_erase_iff] at hq'
  rw [State.IsReconfigured, hdestroyed.bundle q' hq'.1] at hre
  rw [hdestroyed.ports] at hp
  -- a port that is in another bundle afterwards was not in the one that is destroyed
  have hne : (s.port p).bundle ≠ some q := by
    intro hbq
    rw [hdestroyed.freed p hp hbq] at hb
    cases hb
  rw [hdestroyed.port p hne] at hb ⊢
  exact h p hp q' hb hre

/-- Every call keeps the ports blocked, but for one that asks for a short bond. -/
theorem State.MembersBlocked.step (h : s.MembersBlocked) (hwf : s.WF) (hvrf : s.vrf = false)
    (hsound : Sound s op s') (hlong : op.NoShortBond) (hstep : step env s op = .ok s') :
    s'.MembersBlocked := by
  obtain ⟨hwf', heffect⟩ := hwf.step hsound.1 hsound.2 hstep
  cases heffect with
  | absent | kept => exact h
  | deleted _ hdestroyed | removed _ _ _ hdestroyed => exact h.destroyed hwf hwf' hdestroyed
  | set =>
    obtain ⟨rc, hset⟩ := map_fst_eq_ok hstep
    exact (h.bundleSet hwf hvrf hlong hsound.1 hsound.2).of_ok hset
  | vlan hvlan =>
    have hblocked : s.BlockedBut fun q => ¬ s.IsReconfigured q :=
      fun p hp q hb hre => h p hp q hb (not_not.mp hre)
    have hblocked' := ((portInvariant_blockedBut env _).setVlan hwf _ _ hblocked).of_ok hstep
    intro p hp q hb hre
    exact hblocked' p hp q hb (not_not.mpr ((hvlan.isReconfigured q).mp hre))
  | mirror hmirror =>
    have hframe := hmirror.frame
    intro p hp q hb hre
    rw [hframe.ovs.port] at hb ⊢
    rw [State.IsReconfigured, hframe.bundle] at hre
    exact h p (hframe.ovs.ports ▸ hp) q hb hre

theorem Reaches.membersBlocked (h : Reaches env BlockingCall s₀ s) (h₀ : Constructed s₀)
    (hvrf : s₀.vrf = false) : s.MembersBlocked := by
  have hempty : s₀.MembersBlocked := by
    intro p hp q hb
    rw [h₀.bundle p hp] at hb
    cases hb
  suffices hinv : s.WF ∧ s.vrf = false ∧ s.MembersBlocked from hinv.2.2
  refine h.invariant (I := fun s => s.WF ∧ s.vrf = false ∧ s.MembersBlocked) ⟨h₀.wf, hvrf, hempty⟩ ?_
  rintro s op s' ⟨hwf, hvrf, hblocked⟩ hcall hstep
  exact ⟨(hwf.step hcall.1.1 hcall.1.2 hstep).1, (portInvariant_vrf env false).step hwf hcall.1 hvrf hstep,
    hblocked.step hwf hvrf hcall.1 hcall.2 hstep⟩

end MembersBlocked

/-! ## The rules that are found -/

/-- The numbers of `DROP` rules of a device in `INPUT` and in `FORWARD`. -/
def World.dropCounts (w : World) (dev : String) : ℕ × ℕ :=
  (w.iptables.count (.input, dev), w.iptables.count (.forward, dev))

/-- How often a device was freed. The rule of `INPUT` is to be deleted each time. -/
def World.freed (w : World) (dev : String) : ℕ := w.log.count (.iptables .delete .input dev)

/-- Both chains get a rule unless `INPUT` has one. -/
def blockedCounts (counts : ℕ × ℕ) : ℕ × ℕ :=
  if counts.1 = 0 then (1, counts.2 + 1) else counts

/-- What is left of the rules that were found for a device that was freed so many times. Each time takes
one rule of each chain, as long as there is one in `INPUT`. -/
def leftCounts (found : ℕ × ℕ) (freed : ℕ) : ℕ × ℕ :=
  (found.1 - min found.1 freed, found.2 - min found.1 freed)

/-- Blocking a device and freeing it once more takes the next rules, if there are any. -/
theorem leftCounts_succ (found : ℕ × ℕ) (freed : ℕ) :
    ((blockedCounts (leftCounts found freed)).1 - 1,
      (blockedCounts (leftCounts found freed)).2 - 1) = leftCounts found (freed + 1) := by
  have hnone : found.1 - min found.1 freed = 0 ↔ found.1 ≤ freed := by omega
  simp only [blockedCounts, leftCounts, hnone]
  by_cases hle : found.1 ≤ freed
  · rw [if_pos hle, Prod.mk.injEq]
    omega
  · rw [if_neg hle, Prod.mk.injEq]
    omega

/-- The rules of the device are as many, and it was not freed. -/
structure World.SameRules (w w' : World) (dev : String) : Prop where
  dropCounts : w'.dropCounts dev = w.dropCounts dev
  freed : w'.freed dev = w.freed dev

theorem World.SameRules.trans {w w₁ w₂ : World} {dev : String} (h : w.SameRules w₁ dev)
    (h' : w₁.SameRules w₂ dev) : w.SameRules w₂ dev where
  dropCounts := h'.dropCounts.trans h.dropCounts
  freed := h'.freed.trans h.freed

section World

variable {env : Env} {w : World} {dev : String}

theorem World.count_delete (henv : env.IptablesHealthy) {chain : Chain}
    (hfits : (Cmd.iptables .delete chain dev).Fits) (rule : DropRule) :
    (w.system env (.iptables .delete chain dev)).1.iptables.count rule =
      w.iptables.count rule - if (chain, dev) = rule then 1 else 0 := by
  rw [(World.system_iptables henv hfits).1, execIptables]
  split
  · rw [Option.getD_some, List.count_erase]
    simp only [beq_iff_eq]
  · rename_i hmem
    rw [Option.getD_none]
    split
    · rename_i hrule
      rw [← hrule, List.count_eq_zero.mpr hmem]
    · rw [Nat.sub_zero]

theorem World.count_append (henv : env.IptablesHealthy) {chain : Chain}
    (hfits : (Cmd.iptables .append chain dev).Fits) (rule : DropRule) :
    (w.system env (.iptables .append chain dev)).1.iptables.count rule =
      w.iptables.count rule + if (chain, dev) = rule then 1 else 0 := by
  rw [(World.system_iptables henv hfits).1, execIptables, Option.getD_some, List.count_append,
    List.count_singleton]
  simp only [beq_iff_eq]

theorem World.freed_system (env : Env) (w : World) (c : Cmd) (dev : String) :
    (w.system env c).1.freed dev =
      w.freed dev + if c = .iptables .delete .input dev then 1 else 0 := by
  rw [World.freed, World.log_system, List.count_append, List.count_singleton]
  simp only [beq_iff_eq]
  rfl

theorem World.sameRules_system {c : Cmd} (hc : c.IsOvs) (dev : String) :
    w.SameRules (w.system env c).1 dev where
  dropCounts := by
    rw [World.dropCounts, (World.ovsOnly_system env w hc).iptables]
    rfl
  freed := by
    rw [World.freed_system, if_neg]
    · rfl
    · rintro rfl
      exact hc

theorem freed_enablePortInIptables (env : Env) (w : World) (dev dev' : String) :
    (enablePortInIptables env w dev).freed dev' =
      w.freed dev' + if dev' = dev then 1 else 0 := by
  simp [enablePortInIptables, World.freed_system, eq_comm]

theorem freed_disablePortInIptables (env : Env) (w : World) (dev dev' : String) :
    (disablePortInIptables env w dev).freed dev' = w.freed dev' := by
  simp only [disablePortInIptables]
  split
  · simp [World.freed_system]
  · simp [World.freed_system]

theorem dropCounts_enablePortInIptables (henv : env.IptablesHealthy)
    (hfits : ∀ op chain, (Cmd.iptables op chain dev).Fits) (dev' : String) :
    (enablePortInIptables env w dev).dropCounts dev' = if dev' = dev then
      ((w.dropCounts dev).1 - 1, (w.dropCounts dev).2 - 1) else w.dropCounts dev' := by
  simp only [World.dropCounts, enablePortInIptables, World.count_delete henv (hfits _ _)]
  by_cases hdev : dev' = dev
  · simp [hdev]
  · simp [hdev, Ne.symm hdev]

theorem dropCounts_disablePortInIptables (henv : env.IptablesHealthy)
    (hfits : ∀ op chain, (Cmd.iptables op chain dev).Fits) (dev' : String) :
    (disablePortInIptables env w dev).dropCounts dev' =
      if dev' = dev then blockedCounts (w.dropCounts dev) else w.dropCounts dev' := by
  obtain ⟨hrules, hfound⟩ := World.system_iptables (w := w) henv (hfits .check .input)
  have hkept : (w.system env (.iptables .check .input dev)).1.iptables = w.iptables := by
    rw [hrules, execIptables]
    split
    · rfl
    · rfl
  have hcheck : (w.system env (.iptables .check .input dev)).2 =
      decide (w.iptables.count (.input, dev) ≠ 0) := by
    rw [hfound, execIptables]
    split
    · rename_i hmem
      exact (decide_eq_true (List.count_pos_iff.mpr hmem).ne').symm
    · rename_i hmem
      simpa using List.count_eq_zero.mpr hmem
  simp only [disablePortInIptables, hcheck, decide_eq_true_eq]
  by_cases hnone : w.iptables.count (.input, dev) = 0
  · rw [if_neg (not_not_intro hnone)]
    simp only [World.dropCounts, World.count_append henv (hfits _ _), hkept, blockedCounts, hnone]
    by_cases hdev : dev' = dev
    · simp [hdev, hnone]
    · simp [hdev, Ne.symm hdev]
  · rw [if_pos hnone, World.dropCounts, hkept, blockedCounts, World.dropCounts, if_neg hnone]
    by_cases hdev : dev' = dev
    · rw [if_pos hdev, hdev]
    · rw [if_neg hdev, World.dropCounts]

theorem sameRules_enablePortInIptables (henv : env.IptablesHealthy)
    (hfits : ∀ op chain, (Cmd.iptables op chain dev).Fits) {dev' : String} (hdev : dev' ≠ dev) :
    w.SameRules (enablePortInIptables env w dev) dev' := by
  refine ⟨?_, ?_⟩
  · rw [dropCounts_enablePortInIptables henv hfits, if_neg hdev]
  · rw [freed_enablePortInIptables, if_neg hdev, Nat.add_zero]

theorem sameRules_disablePortInIptables (henv : env.IptablesHealthy)
    (hfits : ∀ op chain, (Cmd.iptables op chain dev).Fits) {dev' : String} (hdev : dev' ≠ dev) :
    w.SameRules (disablePortInIptables env w dev) dev' := by
  refine ⟨?_, freed_disablePortInIptables env w dev dev'⟩
  rw [dropCounts_disablePortInIptables henv hfits, if_neg hdev]

end World

section PortMoves

variable {env : Env} {s : State} {p : OfpPort} {dev : String}

/-- Unlinking a port frees it if it is blocked, and does no more to the rules. -/
theorem sameRules_detachPort_freed (env : Env) (s : State) (p : OfpPort) (dev : String) :
    (if (s.port p).iptableRulesAdded then enablePortInIptables env s.world (s.port p).name
      else s.world).SameRules (detachPort env s p).world dev := by
  simp only [detachPort]
  split <;> split <;> exact ⟨rfl, rfl⟩

theorem sameRules_detachPort (henv : env.IptablesHealthy)
    (hfits : ∀ op chain, (Cmd.iptables op chain (s.port p).name).Fits) (hdev : dev ≠ (s.port p).name) :
    s.world.SameRules (detachPort env s p).world dev := by
  refine World.SameRules.trans ?_ (sameRules_detachPort_freed env s p dev)
  split
  · exact sameRules_enablePortInIptables henv hfits hdev
  · exact ⟨rfl, rfl⟩

theorem sameRules_attachPort (s : State) (q : Ptr) (p : OfpPort) (dev : String) :
    s.world.SameRules (attachPort s q p).world dev := by
  simp only [attachPort]
  split
  · exact ⟨rfl, rfl⟩
  · exact ⟨rfl, rfl⟩

theorem sameRules_blockPort (henv : env.IptablesHealthy)
    (hfits : ∀ op chain, (Cmd.iptables op chain (s.port p).name).Fits) (hdev : dev ≠ (s.port p).name) :
    s.world.SameRules (blockPort env s p).world dev := by
  rw [blockPort]
  split
  · exact ⟨rfl, rfl⟩
  · exact sameRules_disablePortInIptables henv hfits hdev

end PortMoves

/-- The rules of a device that were found in `w₀`, after it was freed some times, and blocked or not. -/
def World.LeftRules (w₀ w : World) (dev : String) (blocked : Bool) : Prop :=
  ∃ freed, w.freed dev = w₀.freed dev + freed ∧ w.dropCounts dev =
    if blocked then blockedCounts (leftCounts (w₀.dropCounts dev) freed)
    else leftCounts (w₀.dropCounts dev) freed

/-- Every port has the rules that were found in `w₀`, less those that it has used up, and another one in
both chains if it is blocked and none is left in `INPUT`. -/
structure LeftRules (w₀ : World) (s : State) : Prop where
  distinct : ∀ p ∈ s.ports, ∀ p' ∈ s.ports, (s.port p).name = (s.port p').name → p = p'
  fits : ∀ p ∈ s.ports, ∀ op chain, (Cmd.iptables op chain (s.port p).name).Fits
  counts : ∀ p ∈ s.ports, w₀.LeftRules s.world (s.port p).name (s.port p).iptableRulesAdded

section LeftRules

variable {env : Env} {w₀ w w' : World} {dev : String} {b : Bool} {s s' s₀ : State} {p : OfpPort}

theorem World.LeftRules.same (h : w₀.LeftRules w dev b) (hsame : w.SameRules w' dev) :
    w₀.LeftRules w' dev b := by
  rw [World.LeftRules, hsame.freed, hsame.dropCounts]
  exact h

theorem LeftRules.congr (h : LeftRules w₀ s) (hports : s'.ports = s.ports) (hport : s'.port = s.port)
    (hsame : ∀ dev, s.world.SameRules s'.world dev) : LeftRules w₀ s' := by
  refine ⟨?_, ?_, ?_⟩ <;> rw [hports, hport]
  · exact h.distinct
  · exact h.fits
  · exact fun p hp => (h.counts p hp).same (hsame _)

/-- One port and its rules are changed. -/
theorem LeftRules.update {port : SimProviderOfport} (h : LeftRules w₀ s) (hp : p ∈ s.ports)
    (hports : s'.ports = s.ports) (hport : s'.port = Function.update s.port p port)
    (hname : port.name = (s.port p).name)
    (hothers : ∀ dev ≠ (s.port p).name, s.world.SameRules s'.world dev)
    (hself : w₀.LeftRules s'.world (s.port p).name port.iptableRulesAdded) : LeftRules w₀ s' := by
  have hnames : ∀ p', (s'.port p').name = (s.port p').name := by
    intro p'
    rw [hport]
    by_cases hpp : p' = p
    · subst hpp
      rw [Function.update_self, hname]
    · rw [Function.update_of_ne hpp]
  refine ⟨?_, ?_, ?_⟩ <;> rw [hports]
  · intro p₁ h₁ p₂ h₂
    rw [hnames, hnames]
    exact h.distinct p₁ h₁ p₂ h₂
  · intro p' hp'
    rw [hnames]
    exact h.fits p' hp'
  · intro p' hp'
    rw [hnames, hport]
    by_cases hpp : p' = p
    · subst hpp
      rw [Function.update_self]
      exact hself
    · rw [Function.update_of_ne hpp]
      exact (h.counts p' hp').same (hothers _ fun heq => hpp (h.distinct p' hp' p hp heq))

/-- A blocked port that is freed uses up the next rules. -/
theorem LeftRules.detachPort (h : LeftRules w₀ s) (henv : env.IptablesHealthy) (hp : p ∈ s.ports) :
    LeftRules w₀ (detachPort env s p) := by
  refine h.update hp rfl rfl rfl (fun dev => sameRules_detachPort henv (h.fits p hp)) ?_
  refine World.LeftRules.same ?_ (sameRules_detachPort_freed env s p _)
  obtain ⟨freed, hfreed, hcounts⟩ := h.counts p hp
  cases hflag : (s.port p).iptableRulesAdded with
  | false =>
    rw [hflag, if_neg Bool.false_ne_true] at hcounts
    exact ⟨freed, hfreed, hcounts⟩
  | true =>
    rw [hflag, if_pos rfl] at hcounts
    refine ⟨freed + 1, ?_, ?_⟩
    · rw [if_pos rfl, freed_enablePortInIptables, if_pos rfl, hfreed, Nat.add_assoc]
    · rw [if_pos rfl, dropCounts_enablePortInIptables henv (h.fits p hp), if_pos rfl, hcounts,
        leftCounts_succ, if_neg Bool.false_ne_true]

theorem leftRules_portInvariant (henv : env.IptablesHealthy) (w₀ : World) :
    PortInvariant env (fun _ => True) (LeftRules w₀) where
  congr h hports hport _ hworld := h.congr hports hport fun dev => hworld ▸ ⟨rfl, rfl⟩
  system hc h := h.congr rfl rfl fun dev => World.sameRules_system hc dev
  detach hp _ h := h.detachPort henv hp
  attach {s q p} _ hp _ h := by
    have hsame := sameRules_attachPort s q p
    exact h.update hp rfl rfl rfl (fun dev _ => hsame dev) ((h.counts p hp).same (hsame _))
  block {s p} hp _ _ h := by
    rw [blockPort]
    split
    · exact h
    · rename_i hflag
      obtain ⟨freed, hfreed, hcounts⟩ := h.counts p hp
      rw [if_neg hflag] at hcounts
      refine h.update hp rfl rfl rfl
        (fun dev => sameRules_disablePortInIptables henv (h.fits p hp)) ⟨freed, ?_, ?_⟩
      · exact (freed_disablePortInIptables ..).trans hfreed
      · rw [dropCounts_disablePortInIptables henv (h.fits p hp), if_pos rfl, hcounts, if_pos rfl]

/-- Where at most one rule was found, and in both chains or in none. -/
theorem LeftRules.once (h : LeftRules w₀ s) (hp : p ∈ s.ports)
    (hfound : w₀.dropCounts (s.port p).name = (0, 0) ∨ w₀.dropCounts (s.port p).name = (1, 1)) :
    ((s.port p).iptableRulesAdded = true → s.world.dropCounts (s.port p).name = (1, 1)) ∧
      ((s.port p).iptableRulesAdded = false → s.world.dropCounts (s.port p).name = (0, 0) ∨
        s.world.dropCounts (s.port p).name = w₀.dropCounts (s.port p).name) := by
  obtain ⟨freed, -, hcounts⟩ := h.counts p hp
  have hleft : leftCounts (w₀.dropCounts (s.port p).name) freed = (0, 0) ∨
      leftCounts (w₀.dropCounts (s.port p).name) freed = (1, 1) ∧
        w₀.dropCounts (s.port p).name = (1, 1) := by
    rcases hfound with hnone | hone
    · exact .inl (by simp [leftCounts, hnone])
    · rw [hone]
      cases freed with
      | zero => exact .inr ⟨rfl, rfl⟩
      | succ freed => exact .inl (by simp [leftCounts])
  refine ⟨fun hflag => ?_, fun hflag => ?_⟩
  · rw [hcounts, hflag, if_pos rfl]
    rcases hleft with hnone | ⟨hone, -⟩
    · rw [hnone]
      rfl
    · rw [hone]
      rfl
  · rw [hcounts, hflag, if_neg Bool.false_ne_true]
    exact hleft.imp_right fun hone => hone.1.trans hone.2.symm

theorem Constructed.leftRules (h : Constructed s)
    (hdistinct : ∀ p ∈ s.ports, ∀ p' ∈ s.ports, (s.port p).name = (s.port p').name → p = p')
    (hfits : ∀ p ∈ s.ports, ∀ op chain, (Cmd.iptables op chain (s.port p).name).Fits) :
    LeftRules s.world s where
  distinct := hdistinct
  fits := hfits
  counts p hp := ⟨0, rfl, by rw [h.iptableRulesAdded p hp]; simp [leftCounts]⟩

end LeftRules

/-- Whatever rules a provider finds, it adds a rule to both chains only for a port that it blocks while
none is left in `INPUT`, and it uses up one rule of each chain every time that it frees the port, until
none is left in `INPUT`. -/
theorem drop_rules_after_restart (env : Env) {s₀ s : State} (h₀ : Constructed s₀)
    (hdistinct : ∀ p ∈ s₀.ports, ∀ p' ∈ s₀.ports, (s₀.port p).name = (s₀.port p').name → p = p')
    (hfits : ∀ p ∈ s₀.ports, ∀ op chain, (Cmd.iptables op chain (s₀.port p).name).Fits)
    (henv : env.IptablesHealthy) (h : Reaches env Sound s₀ s) : ∀ p ∈ s.ports,
      let name := (s.port p).name
      ∃ freed, s.world.freed name = s₀.world.freed name + freed ∧ s.world.dropCounts name =
        if (s.port p).iptableRulesAdded then
          blockedCounts (leftCounts (s₀.world.dropCounts name) freed)
        else leftCounts (s₀.world.dropCounts name) freed :=
  ((leftRules_portInvariant henv _).reaches h₀.wf (fun _ _ _ hsound => hsound)
    (h₀.leftRules hdistinct hfits) h).2.counts

/-- Two rules for port 1 were found in `INPUT` and none in `FORWARD`. Two bundles that have it come and
go, and the rules are used up; only the third one gets a rule in `FORWARD`. -/
theorem drop_rules_after_restart_of_input : ∃ s,
    run sampleEnv { sampleState false with
        world := ⟨[], ⟨fun _ => none, [0], []⟩, [(.input, "eth1"), (.input, "eth1")], []⟩ }
      [.bundleSet 100 (some (sampleSettings "eth1" [1] false)), .bundleSet 100 none,
        .bundleSet 101 (some (sampleSettings "eth1" [1] false)), .bundleSet 101 none,
        .bundleSet 102 (some (sampleSettings "eth1" [1] false))] = .ok s ∧
    s.world.freed "eth1" = 2 ∧ s.world.dropCounts "eth1" = (1, 1) := by
  let s₀ : State := { sampleState false with
    world := ⟨[], ⟨fun _ => none, [0], []⟩, [(.input, "eth1"), (.input, "eth1")], []⟩ }
  let ops : List Op := [.bundleSet 100 (some (sampleSettings "eth1" [1] false)), .bundleSet 100 none,
    .bundleSet 101 (some (sampleSettings "eth1" [1] false)), .bundleSet 101 none,
    .bundleSet 102 (some (sampleSettings "eth1" [1] false))]
  have h₀ : Constructed s₀ := ⟨rfl, rfl, rfl, rfl, fun _ _ => rfl, fun _ _ => rfl⟩
  have hfits : ∀ p ∈ s₀.ports, ∀ op chain, (Cmd.iptables op chain (s₀.port p).name).Fits := by
    intro p hp op chain
    revert p
    cases op <;> cases chain <;> decide +kernel
  have hmeets : RunMeets sampleEnv Sound s₀ ops := by decide +kernel
  have hobs : (run sampleEnv s₀ ops).toOption.map (fun s => (decide (1 ∈ s.ports), (s.port 1).name,
      (s.port 1).iptableRulesAdded, s.world.freed "eth1")) = some (true, "eth1", true, 2) := by
    decide +kernel
  obtain ⟨s, hrun, hreaches, hs⟩ := Reaches.of_observed hmeets hobs
  simp only [Prod.mk.injEq, decide_eq_true_eq] at hs
  obtain ⟨hp, hname, hflag, hfreed⟩ := hs
  obtain ⟨freed, hcount, hcounts⟩ := drop_rules_after_restart sampleEnv h₀ (by decide +kernel) hfits
    (fun _ _ _ _ => rfl) hreaches 1 hp
  rw [hname] at hcount hcounts
  obtain rfl : freed = 2 := by
    have hnone : s₀.world.freed "eth1" = 0 := rfl
    omega
  rw [hflag, if_pos rfl] at hcounts
  exact ⟨s, hrun, hfreed, hcounts⟩

section Switched

/-- The netdevs of the ports stay the same. -/
theorem portInvariant_netdev (env : Env) (s₀ : State) : PortInvariant env (fun _ => True)
    fun s => ∀ p ∈ s.ports, p ∈ s₀.ports ∧ (s.port p).name = (s₀.port p).name :=
  .of_port (R := fun p port => p ∈ s₀.ports ∧ port.name = (s₀.port p).name) (fun _ _ h => h)
    (fun _ _ _ _ h => h) fun _ _ _ h => h

/-- Only members are blocked. -/
theorem portInvariant_member (env : Env) : PortInvariant env (fun _ => True)
    fun s => ∀ p ∈ s.ports, (s.port p).bundle = none → (s.port p).iptableRulesAdded = false :=
  .of_port (R := fun _ port => port.bundle = none → port.iptableRulesAdded = false)
    (fun _ _ _ _ => rfl) (fun _ _ _ _ _ hb => by cases hb) fun _ _ hb _ hnone => absurd hnone hb

end Switched

/-- A provider that finds the rules as an earlier one has left them, at most one for a port and in both
chains or in none, has exactly one in each chain for every port of a bundle that is to be in the ASIC,
and none but those that it has found for a port in no bundle. -/
theorem switched_ports_dropped_once (env : Env) {s₀ s : State} (h₀ : Constructed s₀)
    (hvrf : s₀.vrf = false)
    (hdistinct : ∀ p ∈ s₀.ports, ∀ p' ∈ s₀.ports, (s₀.port p).name = (s₀.port p').name → p = p')
    (hfits : ∀ p ∈ s₀.ports, ∀ op chain, (Cmd.iptables op chain (s₀.port p).name).Fits)
    (henv : env.IptablesHealthy)
    (hleft : ∀ p ∈ s₀.ports, s₀.world.dropCounts (s₀.port p).name = (0, 0) ∨
      s₀.world.dropCounts (s₀.port p).name = (1, 1))
    (h : Reaches env BlockingCall s₀ s) : ∀ p ∈ s.ports,
      (∀ q, (s.port p).bundle = some q → s.IsReconfigured q →
        s.world.dropCounts (s.port p).name = (1, 1)) ∧
      ((s.port p).bundle = none → s.world.dropCounts (s.port p).name = (0, 0) ∨
        s.world.dropCounts (s.port p).name = s₀.world.dropCounts (s.port p).name) := by
  have hsound : ∀ s op s', BlockingCall s op s' → Sound s op s' := fun _ _ _ hcall => hcall.1
  have hrules := ((leftRules_portInvariant henv _).reaches h₀.wf hsound
    (h₀.leftRules hdistinct hfits) h).2
  have hnetdev := ((portInvariant_netdev env s₀).reaches h₀.wf hsound
    (fun p hp => ⟨hp, rfl⟩) h).2
  have hmember := ((portInvariant_member env).reaches h₀.wf hsound
    (fun p hp _ => h₀.iptableRulesAdded p hp) h).2
  have hblocked := h.membersBlocked h₀ hvrf
  intro p hp
  obtain ⟨hp₀, hname⟩ := hnetdev p hp
  have hfound := hleft p hp₀
  rw [← hname] at hfound
  obtain ⟨hone, hfree⟩ := hrules.once hp hfound
  exact ⟨fun q hb hre => hone (hblocked p hp q hb hre), fun hb => hfree (hmember p hp hb)⟩

/-- Port 1 was blocked before the provider starts over, and is then taken over by a bond. -/
theorem switched_ports_dropped_once_of_takeover : ∃ t s,
    run sampleEnv (sampleState false) [.bundleSet 100 (some (sampleSettings "eth1" [1] false))] = .ok t ∧
    run sampleEnv { sampleState false with world := t.world }
      [.bundleSet 100 (some (sampleSettings "eth1" [1] false)),
        .bundleSet 101 (some (sampleSettings "bond0" [1, 2] false))] = .ok s ∧
    s.world.dropCounts "eth1" = (1, 1) := by
  let first : List Op := [.bundleSet 100 (some (sampleSettings "eth1" [1] false))]
  let second : List Op := first ++ [.bundleSet 101 (some (sampleSettings "bond0" [1, 2] false))]
  let fresh : State → State := fun t => { sampleState false with world := t.world }
  have htobs : (run sampleEnv (sampleState false) first).toOption.map (fun t =>
      decide ((∀ p ∈ (fresh t).ports, (fresh t).world.dropCounts ((fresh t).port p).name = (0, 0) ∨
          (fresh t).world.dropCounts ((fresh t).port p).name = (1, 1)) ∧
        RunMeets sampleEnv BlockingCall (fresh t) second ∧
        (run sampleEnv (fresh t) second).toOption.map (fun s =>
          decide (1 ∈ s.ports ∧ (s.port 1).name = "eth1" ∧ ∃ q ∈ s.bundles, (s.port 1).bundle = some q ∧
            s.IsReconfigured q)) = some true)) = some true := by
    decide +kernel
  have htmeets : RunMeets sampleEnv BlockingCall (sampleState false) first := by decide +kernel
  obtain ⟨t, htrun, -, ht⟩ := Reaches.of_observed htmeets htobs
  rw [decide_eq_true_eq] at ht
  obtain ⟨hleft, hmeets, hobs⟩ := ht
  obtain ⟨s, hrun, hreaches, hs⟩ := Reaches.of_observed hmeets hobs
  rw [decide_eq_true_eq] at hs
  obtain ⟨hp, hname, q, -, hb, hre⟩ := hs
  have hconstructed : Constructed (fresh t) := ⟨rfl, rfl, rfl, rfl, fun _ _ => rfl, fun _ _ => rfl⟩
  have hfits : ∀ p ∈ (sampleState false).ports, ∀ op chain,
      (Cmd.iptables op chain ((sampleState false).port p).name).Fits := by
    intro p hp op chain
    revert p
    cases op <;> cases chain <;> decide +kernel
  have hdistinct : ∀ p ∈ (sampleState false).ports, ∀ p' ∈ (sampleState false).ports,
      ((sampleState false).port p).name = ((sampleState false).port p').name → p = p' := by
    decide +kernel
  have hdropped := (switched_ports_dropped_once sampleEnv hconstructed rfl hdistinct hfits
    (fun _ _ _ _ => rfl) hleft hreaches 1 hp).1 q hb hre
  rw [hname] at hdropped
  exact ⟨t, s, htrun, hrun, hdropped⟩

end ContainerPlugin.Ofproto
