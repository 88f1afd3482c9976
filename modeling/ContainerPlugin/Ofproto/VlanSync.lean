import ContainerPlugin.Ofproto.AsicPorts

/-!
# `set_vlan` resynchronises the ASIC

A call of `set_vlan` that changes a bit configures every bundle again. Afterwards the ASIC has exactly
the ports that the enabled VLANs allow, with the columns they ask for, whatever it had before; so the
order of the VLAN events does not matter.
-/

namespace ContainerPlugin.Ofproto

/-! ## `set_vlan` returns -/

/-- The commands that `bundle_configure` runs for a port of the bundle. -/
def memberCmds (dev : String) : List Cmd :=
  [.delPort dev, .iptables .check .input dev, .iptables .append .input dev,
    .iptables .append .forward dev]

/-- The texts that `bundle_configure` prints fit, for every bundle that `set_vlan` configures. -/
structure State.TextsFit (s : State) : Prop where
  bundle : ∀ q ∈ s.bundles, s.IsReconfigured q → (Cmd.delPort (s.bundle q).name).Fits
  columns : ∀ q ∈ s.bundles, s.IsReconfigured q → (∃ p ∈ s.ports, (s.port p).bundle = some q) →
    strlen (configureText s.name s.vlansBmp (s.bundle q)) < maxCmdLen
  port : ∀ p ∈ s.ports, ∀ c ∈ memberCmds (s.port p).name, c.Fits

/-- The VLANs that the bundles look up are indices of the bitmap. -/
def State.VlansInRange (s : State) : Prop :=
  ∀ q ∈ s.bundles, s.IsReconfigured q → (s.bundle q).vlan < vlanBitmapSize

section Returns

variable {env : Env} {s s' : State} {q : Ptr} {P : Cmd → Prop}

theorem delFromSimOvs_ran (env : Env) (hname : P (.delPort (s.bundle q).name)) :
    s.world.Ran P (delFromSimOvs env s q).world := by
  rw [delFromSimOvs]
  split
  · exact .of_system env s.world hname
  · exact .refl _

theorem delMembersFromSimOvs_ran (env : Env) (ps : List OfpPort)
    (hps : ∀ p ∈ ps, P (.delPort (s.port p).name)) :
    s.world.Ran P (delMembersFromSimOvs env s ps).world := by
  have hloop : ∀ (l : List OfpPort) (s : State), (∀ p ∈ l, P (.delPort (s.port p).name)) →
      s.world.Ran P (l.foldl (fun s p => s.system env (.delPort (s.port p).name)) s).world := by
    intro l
    induction l with
    | nil => exact fun s _ => .refl _
    | cons p l ih =>
      intro s hl
      refine (World.Ran.of_system env s.world (hl p (by simp))).trans (ih (s.system env _) ?_)
      exact fun p' hp' => hl p' (.tail _ hp')
  rw [delMembersFromSimOvs]
  split
  · exact hloop ps s hps
  · exact .refl _

theorem world_addToSimOvs (env : Env) (s : State) (q : Ptr) (columns : PortColumns) :
    (addToSimOvs env s q columns).world =
      (s.world.system env (.addPort s.name (s.bundle q).name columns)).1 := by
  simp only [addToSimOvs]
  split <;> rfl

theorem disablePortInIptables_ran {dev : String} (hdev : ∀ c ∈ memberCmds dev, P c)
    (w : World) : w.Ran P (disablePortInIptables env w dev) := by
  simp only [memberCmds, List.forall_mem_cons] at hdev
  obtain ⟨-, hcheck, hinput, hforward, -⟩ := hdev
  have hchecked : w.Ran P (w.system env (.iptables .check .input dev)).1 := .of_system env w hcheck
  simp only [disablePortInIptables]
  split
  · exact hchecked
  · exact (hchecked.trans (.of_system env _ hinput)).trans (.of_system env _ hforward)

theorem blockPorts_ran {ps : List OfpPort}
    (hps : ∀ p ∈ ps, ∀ c ∈ memberCmds (s.port p).name, P c) :
    s.world.Ran P (ps.foldl (blockPort env) s).world := by
  induction ps generalizing s with
  | nil => exact .refl _
  | cons p ps ih =>
    have hblock : s.world.Ran P (blockPort env s p).world ∧
        ∀ p', ((blockPort env s p).port p').name = (s.port p').name := by
      simp only [blockPort]
      split
      · exact ⟨.refl _, fun _ => rfl⟩
      · refine ⟨disablePortInIptables_ran (hps p (by simp)) s.world, fun p' => ?_⟩
        by_cases hpp : p' = p
        · subst hpp
          simp
        · simp [hpp]
    refine hblock.1.trans (ih fun p' hp' => ?_)
    rw [hblock.2 p']
    exact hps p' (.tail _ hp')

theorem configurePort_returns (env : Env) (hvlan : (s.bundle q).vlan < vlanBitmapSize)
    (htext : strlen (configureText s.name s.vlansBmp (s.bundle q)) < maxCmdLen) :
    (configurePort env s q).Ensures (fun _ => False) fun s' =>
      s.world.Ran Cmd.Fits s'.world ∧ s'.port = s.port := by
  rw [configurePort, configureColumns_eq htext.le fun _ => hvlan, Except.ok_bind]
  split
  · exact ⟨.refl _, rfl⟩
  · rename_i columns hwanted
    have hadd : (Cmd.addPort s.name (s.bundle q).name columns).Fits := by
      rw [Cmd.Fits, text_addPort hwanted]
      exact htext
    obtain ⟨added, w, hs', -, -⟩ := addToSimOvs_spec env s q columns
    refine ⟨?_, by rw [hs']⟩
    rw [world_addToSimOvs]
    exact .of_system env s.world hadd

/-- `bundle_configure` returns if there is room for the texts. -/
theorem State.WF.bundleConfigure_fits (env : Env) (h : s.WF) (hq : q ∈ s.bundles) (hfits : s.world.Fits)
    (hvlan : (s.bundle q).vlan < vlanBitmapSize) (hdel : (Cmd.delPort (s.bundle q).name).Fits)
    (hcolumns : (∃ p ∈ s.ports, (s.port p).bundle = some q) →
      strlen (configureText s.name s.vlansBmp (s.bundle q)) < maxCmdLen)
    (hport : ∀ p ∈ s.ports, ∀ c ∈ memberCmds (s.port p).name, c.Fits) :
    (Ofproto.bundleConfigure env s q).Ensures (fun _ => False) fun s' => s'.world.Fits := by
  obtain ⟨w₁, hs₁, -, -⟩ := delFromSimOvs_spec env s q
  have hwhole₁ := delFromSimOvs_ran env hdel
  rw [hs₁] at hwhole₁
  refine h.bundleConfigure_rule hq (fun ps _ _ => by rw [hs₁]; exact hwhole₁.fits hfits)
    fun ps hps _ hne => ?_
  rw [hs₁]
  have hmem : ∀ p ∈ ps, p ∈ s.ports ∧ (s.port p).bundle = some q := fun p hp => (hps.mem_iff p).mp hp
  have hmembers : ∀ p ∈ ps, ∀ c ∈ memberCmds (s.port p).name, c.Fits :=
    fun p hp => hport p (hmem p hp).1
  generalize hs₁' : ({ s with
    bundle := Function.update s.bundle q { s.bundle q with isAddedToSimOvs := false }
    world := w₁ } : State) = s₁ at hwhole₁ ⊢
  obtain ⟨p, hp⟩ := List.exists_mem_of_ne_nil ps hne
  obtain ⟨w₂, hs₂, -, -⟩ := delMembersFromSimOvs_spec env s₁ ps
  have hwhole₂ : s₁.world.Ran Cmd.Fits (delMembersFromSimOvs env s₁ ps).world := by
    refine delMembersFromSimOvs_ran env ps fun p hp => ?_
    rw [← hs₁']
    exact hmembers p hp _ (by simp [memberCmds])
  rw [hs₂] at hwhole₂ ⊢
  have htext := hcolumns ⟨p, hmem p hp⟩
  refine (configurePort_returns env ?_ ?_).mono fun s₃ ⟨hwhole₃, hport₃⟩ => ?_
  · rw [← hs₁']
    simpa using hvlan
  · rw [← hs₁']
    simpa [configureText] using htext
  · have hblocked : s₃.world.Ran Cmd.Fits (ps.foldl (blockPort env) s₃).world := by
      refine blockPorts_ran fun p hp => ?_
      rw [hport₃, ← hs₁']
      exact hmembers p hp
    exact (((hwhole₁.trans hwhole₂).trans hwhole₃).trans hblocked).fits hfits

theorem Configured.isReconfigured (h : Configured env q s s') (q' : Ptr) :
    s'.IsReconfigured q' ↔ s.IsReconfigured q' := by
  rw [State.IsReconfigured, h.bundle]
  rfl

theorem State.TextsFit.configured (h : s.TextsFit) (hconf : Configured env q s s') : s'.TextsFit := by
  refine ⟨fun q' hq' hre => ?_, fun q' hq' hre hsome => ?_, fun p hp => ?_⟩
  · rw [hconf.bundle]
    exact h.bundle q' (hconf.bundles ▸ hq') ((hconf.isReconfigured q').mp hre)
  · rw [hconf.ports] at hsome
    simp only [hconf.port] at hsome
    rw [hconf.bundle, hconf.name, hconf.vlansBmp]
    exact h.columns q' (hconf.bundles ▸ hq') ((hconf.isReconfigured q').mp hre) hsome
  · rw [(hconf.port p).2]
    exact h.port p (hconf.ports ▸ hp)

theorem State.VlansInRange.configured (h : s.VlansInRange) (hconf : Configured env q s s') :
    s'.VlansInRange := by
  intro q' hq' hre
  rw [hconf.bundle]
  exact h q' (hconf.bundles ▸ hq') ((hconf.isReconfigured q').mp hre)

theorem State.TextsFit.reconfigure (h : s.TextsFit) (hwf : s.WF) (hfits : s.world.Fits)
    (hvlans : s.VlansInRange) {qs : List Ptr} (hqs : ∀ q ∈ qs, q ∈ s.bundles) :
    (qs.foldlM (reconfigureBundle env) s).Ensures (fun _ => False) fun s' => s'.world.Fits := by
  induction qs generalizing s with
  | nil => exact hfits
  | cons q qs ih =>
    have hq := hqs q (by simp)
    have hqs' := fun q' hq' => hqs q' (List.mem_cons_of_mem q hq')
    rw [List.foldlM_cons, reconfigureBundle, hwf.deref hq, Except.ok_bind]
    by_cases hskip : (s.bundle q).isVlanRoutingEnabled = true ∨ (s.bundle q).isBridgeBundle = true
    · rw [if_pos hskip, Except.ok_bind]
      exact ih h hwf hfits hvlans hqs'
    · rw [if_neg hskip]
      have hre : s.IsReconfigured q := by simpa [State.IsReconfigured] using hskip
      have hreturns := hwf.bundleConfigure_fits env hq hfits (hvlans q hq hre)
        (h.bundle q hq hre) (h.columns q hq hre) h.port
      refine (hreturns.and (hwf.bundleConfigure hq)).bind fun s₁ hs₁ => ?_
      obtain ⟨hfits₁, hwf₁, hconf⟩ := hs₁
      exact ih (h.configured hconf) hwf₁ hfits₁ (hvlans.configured hconf) fun q' hq' =>
        hconf.bundles ▸ hqs' q' hq'

/-- With room for the texts `set_vlan` returns. -/
theorem State.WF.setVlan_returns (env : Env) {vid : ℤ} {add : Bool} (h : s.WF) (hfits : s.world.Fits)
    (hvlans : s.VlansInRange) (hvid : 0 ≤ vid ∧ vid < vlanBitmapSize)
    (htexts : { s with vlansBmp := bitmapSet s.vlansBmp vid add }.TextsFit) :
    ∃ s', Ofproto.setVlan env s vid add = .ok s' ∧ s'.world.Fits := by
  let s₁ : State := { s with vlansBmp := bitmapSet s.vlansBmp vid add }
  have hwf₁ : s₁.WF := ⟨h.toListsWF.congr rfl (fun _ _ => rfl) rfl (fun _ => rfl) rfl, h.mbridge⟩
  have hset : bitmapIsSet s.vlansBmp vid = .ok (decide (vid.toNat ∈ s.vlansBmp)) := if_pos hvid
  rw [Ofproto.setVlan, hset, Except.ok_bind]
  split
  · exact ⟨s, rfl, hfits⟩
  · dsimp only
    split
    · exact ⟨s₁, rfl, hfits⟩
    · have hloop : (bundleSetReconfigure env s₁).Ensures (fun _ => False) fun s' => s'.world.Fits :=
        htexts.reconfigure hwf₁ hfits hvlans fun q hq => (env.order_perm s₁).subset hq
      show ∃ s', bundleSetReconfigure env s₁ = .ok s' ∧ s'.world.Fits
      cases hreturn : bundleSetReconfigure env s₁ with
      | error e => exact (hreturn ▸ hloop : Except.Ensures (.error e) _ _).elim
      | ok s' => exact ⟨s', rfl, hloop.of_ok hreturn⟩

end Returns

/-! ## The VLANs of the bundles -/

section InRange

variable {env : Env} {s s' s₀ : State} {q : Ptr}

theorem State.VlansInRange.destroyed (h : s.VlansInRange) (hnd : s.bundles.Nodup)
    (hdestroyed : Destroyed env q s s') : s'.VlansInRange := by
  intro q' hq' hre
  rw [hdestroyed.bundles, hnd.mem_erase_iff] at hq'
  rw [State.IsReconfigured, hdestroyed.bundle q' hq'.1] at hre
  rw [hdestroyed.bundle q' hq'.1]
  exact h q' hq'.2 hre

theorem State.VlansInRange.applied {settings : OfprotoBundleSettings} (h : s.VlansInRange)
    (happlied : Applied env q settings s s') : s'.VlansInRange := by
  have hmodify : ∀ f : Ofbundle → Ofbundle, ((f (s.bundle q)).isVlanRoutingEnabled = false ∧
        (f (s.bundle q)).isBridgeBundle = false → q ∈ s.bundles →
        (f (s.bundle q)).vlan < vlanBitmapSize) →
      (s.modifyBundle q f).VlansInRange := by
    intro f hf q' hq' hre
    by_cases hqq : q' = q
    · subst hqq
      simp only [State.IsReconfigured, State.modifyBundle, Function.update_self] at hre ⊢
      exact hf hre hq'
    · simp only [State.IsReconfigured, State.modifyBundle, Function.update_of_ne hqq] at hre ⊢
      exact h q' hq' hre
  cases happlied with
  | bridge => exact h
  | routing sflow =>
    exact hmodify (fun b => { b with
      isSflowEnabled := sflow
      vlan := settings.vlan
      isVlanRoutingEnabled := true }) (by simp)
  | mark => exact hmodify _ fun hre hq => h q hq ⟨hre.1, by assumption⟩
  | configured sflow _ _ _ hconf =>
    refine (hmodify _ fun _ _ => ?_).configured hconf
    simp only [Ofbundle.withVlans]
    split
    · rename_i hvlan
      exact lt_trans hvlan.2 (by decide)
    · decide

theorem State.VlansInRange.bundleSet {aux : Ptr} {settings : OfprotoBundleSettings} {rc : Rc}
    (h : s.VlansInRange) (hset : BundleSet env aux settings s s' rc) : s'.VlansInRange := by
  have hopened : ∀ {q s₁}, Opened env aux settings q s s₁ → s₁.VlansInRange := by
    intro q s₁ hopened q' hq' hre
    by_cases hqq : q' = q
    · subst hqq
      rcases hopened.found with ⟨-, hbundles, -, hbundle⟩ | ⟨-, -, -, -, hbundle⟩
      · rw [State.IsReconfigured, hbundle] at hre
        rw [hbundle]
        exact h q' (hbundles ▸ hq') hre
      · rw [hbundle]
        exact (by decide : (-1 : ℤ) < vlanBitmapSize)
    · rw [State.IsReconfigured, hopened.bundle_ne q' hqq] at hre
      rw [hopened.bundle_ne q' hqq]
      exact h q' ((hopened.mem_iff hqq).mp hq') hre
  have hupdated : ∀ {q s₁ s₂}, Opened env aux settings q s s₁ → Updated env q settings.slaves s₁ s₂ →
      s₂.VlansInRange := by
    intro q s₁ s₂ hop hup q' hq' hre
    obtain ⟨hq₁, hsame⟩ := hup.claims.frame.sub q' hq'
    rw [State.IsReconfigured, hsame] at hre
    rw [hsame]
    exact hopened hop q' hq₁ hre
  cases hset with
  | destroyed hop _ hup _ hdestroyed => exact (hupdated hop hup).destroyed hup.wf.nodup hdestroyed
  | applied hop _ hup _ happlied => exact (hupdated hop hup).applied happlied

theorem State.VlansInRange.setVlan {vid : ℤ} {add : Bool} (h : s.VlansInRange)
    (hset : SetVlan env vid add s s') : s'.VlansInRange := by
  have hloop : ∀ {qs : List Ptr} {s s' : State}, Reconfigured env qs s s' → s.VlansInRange →
      s'.VlansInRange := by
    intro qs s s' hre
    induction hre with
    | nil => exact id
    | skip _ _ ih => exact ih
    | configure _ _ _ hconf _ ih => exact fun h => ih (h.configured hconf)
  cases hset with
  | unchanged => exact h
  | vrf => exact h
  | changed _ _ _ hrest => exact hloop hrest h

/-- The VLAN of a bundle that was configured is one that `bundle_set` let pass. -/
theorem Reaches.vlansInRange (h : Reaches env Sound s₀ s) (h₀ : Initial s₀) : s.VlansInRange := by
  suffices hinv : s.WF ∧ s.VlansInRange from hinv.2
  refine h.invariant (I := fun s => s.WF ∧ s.VlansInRange)
    ⟨h₀.wf, fun q hq => by simp [h₀.bundles] at hq⟩ ?_
  rintro s op s' ⟨hwf, hvlans⟩ ⟨hteardown, hlag⟩ hstep
  obtain ⟨hwf', heffect⟩ := hwf.step hteardown hlag hstep
  refine ⟨hwf', ?_⟩
  cases heffect with
  | absent | kept => exact hvlans
  | deleted _ hdestroyed | removed _ _ _ hdestroyed => exact hvlans.destroyed hwf.nodup hdestroyed
  | set hset => exact hvlans.bundleSet hset
  | vlan hvlan => exact hvlans.setVlan hvlan
  | mirror hmirror =>
    intro q hq hre
    rw [hmirror.frame.bundles] at hq
    rw [State.IsReconfigured, hmirror.frame.bundle] at hre
    rw [hmirror.frame.bundle]
    exact hvlans q hq hre

end InRange

/-! ## The ports the ASIC has to have -/

/-- The trunk of the bundle carries the VLAN `i`: it is enabled, and allowed if the bundle names its
trunks. -/
def State.Carries (s : State) (q : Ptr) (i : ℕ) : Prop :=
  1 ≤ i ∧ i ≤ 4094 ∧ i ∈ s.vlansBmp ∧ ∀ trunks ∈ (s.bundle q).trunks, i ∈ trunks

/-- The bundle has a port, its own VLAN is enabled unless it is a trunk, and a VLAN of its trunk is
unless it is an access port. -/
def State.VlansEnabled (s : State) (q : Ptr) : Prop :=
  (∃ p ∈ s.ports, (s.port p).bundle = some q) ∧
  ((s.bundle q).vlanMode ≠ .trunk →
    0 < (s.bundle q).vlan ∧ (s.bundle q).vlan.toNat ∈ s.vlansBmp) ∧
  ((s.bundle q).vlanMode ≠ .access → ∃ i, s.Carries q i)

/-- In `s` the bundle `q` is in the ASIC as its settings and the enabled VLANs of `conf` ask for. -/
structure InSync (conf s : State) (q : Ptr) : Prop where
  added_iff : (s.bundle q).isAddedToSimOvs = true ↔ conf.VlansEnabled q
  present_iff : (s.world.asic.ports (conf.bundle q).name).isSome = true ↔ conf.VlansEnabled q
  vlanMode : ∀ columns ∈ s.world.asic.ports (conf.bundle q).name,
    columns.vlanMode = (conf.bundle q).vlanMode
  tag : ∀ columns ∈ s.world.asic.ports (conf.bundle q).name,
    columns.tag = if (conf.bundle q).vlanMode = .trunk then none else some (conf.bundle q).vlan
  trunks : ∀ columns ∈ s.world.asic.ports (conf.bundle q).name, ∀ i,
    i ∈ columns.trunks ↔ (conf.bundle q).vlanMode ≠ .access ∧ conf.Carries q i

section InSync

variable {env : Env} {s s' s₀ conf : State} {q : Ptr}

theorem State.mem_trunkVids {i : ℕ} :
    i ∈ trunkVids s.vlansBmp (s.bundle q).trunks ↔ s.Carries q i := by
  rw [trunkVids, mem_vids, State.Carries]
  simp only [decide_eq_true_eq]

theorem State.wantedPort_isSome_iff : (s.wantedPort q).isSome = true ↔ s.VlansEnabled q := by
  have hempty : trunkVids s.vlansBmp (s.bundle q).trunks ≠ [] ↔ ∃ i, s.Carries q i := by
    constructor
    · intro hne
      obtain ⟨i, hi⟩ := List.exists_mem_of_ne_nil _ hne
      exact ⟨i, State.mem_trunkVids.mp hi⟩
    · rintro ⟨i, hi⟩
      exact List.ne_nil_of_mem (State.mem_trunkVids.mpr hi)
  rw [State.wantedPort, wantedColumns, State.VlansEnabled]
  by_cases hport : ∃ p ∈ s.ports, (s.port p).bundle = some q
  · rw [if_pos hport]
    split
    · rename_i hwanted
      simp only [Option.isSome_some, true_iff]
      exact ⟨hport, hwanted.1.resolve_left, fun hmode => hempty.mp (hwanted.2.resolve_left hmode)⟩
    · rename_i hwanted
      simp only [Option.isSome_none, Bool.false_eq_true, false_iff]
      rintro ⟨-, htag, htrunks⟩
      exact hwanted ⟨or_iff_not_imp_left.mpr htag,
        or_iff_not_imp_left.mpr fun hmode => hempty.mpr (htrunks hmode)⟩
  · rw [if_neg hport]
    simp [hport]

theorem InSync.of_wantedPort (hadded : (s.bundle q).isAddedToSimOvs = (conf.wantedPort q).isSome)
    (hport : s.world.asic.ports (conf.bundle q).name = conf.wantedPort q) : InSync conf s q := by
  have hcolumns : ∀ columns ∈ s.world.asic.ports (conf.bundle q).name, columns = {
      tag := if (conf.bundle q).vlanMode = .trunk then none else some (conf.bundle q).vlan
      trunks := if (conf.bundle q).vlanMode = .access then []
        else trunkVids conf.vlansBmp (conf.bundle q).trunks
      vlanMode := (conf.bundle q).vlanMode } := by
    intro columns hmem
    rw [hport, State.wantedPort] at hmem
    split at hmem
    · rw [wantedColumns] at hmem
      split at hmem
      · exact (Option.some.inj hmem).symm
      · cases hmem
    · cases hmem
  refine ⟨by rw [hadded, State.wantedPort_isSome_iff], by rw [hport, State.wantedPort_isSome_iff],
    fun columns hmem => by rw [hcolumns columns hmem],
    fun columns hmem => by rw [hcolumns columns hmem], fun columns hmem i => ?_⟩
  rw [hcolumns columns hmem]
  by_cases hmode : (conf.bundle q).vlanMode = .access
  · simp [hmode]
  · simp [hmode, State.mem_trunkVids]

end InSync

/-! ## Sequences of VLAN events -/

/-- No bundle has the name of a netdev that is a port of another bundle with more than one port. -/
def State.NamesApart (s : State) : Prop :=
  ∀ q ∈ s.bundles, ∀ p ∈ s.ports, s.SharesBundle q p →
    ∀ q' ∈ s.bundles, q' ≠ q → (s.bundle q').name ≠ (s.port p).name

instance (s : State) : Decidable s.NamesApart :=
  inferInstanceAs (Decidable (∀ q ∈ s.bundles, ∀ p ∈ s.ports, _ → ∀ q' ∈ s.bundles, _ → _))

/-- A bridge whose marks agree with the ASIC and whose names do not clash. -/
structure State.Consistent (s : State) : Prop where
  wf : s.WF
  vrf : s.vrf = false
  present_iff : ∀ n, (s.world.asic.ports n).isSome = true ↔
    ∃ q ∈ s.bundles, (s.bundle q).isAddedToSimOvs = true ∧ (s.bundle q).name = n
  names : NamesDistinct s
  apart : s.NamesApart

/-- The events of `set_vlan` change a bit on the way. -/
def ChangesVlans : VlanBitmap → List (ℤ × Bool) → Prop
  | _, [] => False
  | bmp, (vid, add) :: events =>
    decide (vid.toNat ∈ bmp) ≠ add ∨ ChangesVlans (bitmapSet bmp vid add) events

def setVlans (events : List (ℤ × Bool)) : List Op := events.map fun event => .setVlan event.1 event.2

section Events

variable {env : Env} {s s' s₀ : State} {vid : ℤ} {add : Bool} {bmp bmp' : VlanBitmap}
  {events : List (ℤ × Bool)}

theorem State.Consistent.asicMatches (h : s.Consistent) : AsicMatches s :=
  ⟨h.present_iff, fun q hq q' hq' _ _ => h.names q hq q' hq'⟩

theorem Resynced.isReconfigured {todo : List Ptr} (h : Resynced s₀ todo s) (q : Ptr) :
    s.IsReconfigured q ↔ s₀.IsReconfigured q := by
  rw [State.IsReconfigured, h.bundle]
  rfl

theorem Resynced.consistent (h : Resynced { s with vlansBmp := bmp } [] s') (hs : s.Consistent)
    (hwf : s'.WF) : s'.Consistent where
  wf := hwf
  vrf := h.vrf.trans hs.vrf
  present_iff := (h.asicMatches (hs.asicMatches.congr rfl fun _ _ => .rfl) hs.names).present_iff
  names q hq q' hq' heq := by
    rw [h.bundle q, h.bundle q'] at heq
    rw [h.bundles] at hq hq'
    exact hs.names q hq q' hq' heq
  apart q hq p hp hshares q' hq' hne := by
    rw [h.bundles] at hq hq'
    rw [h.ports] at hp
    simp only [State.SharesBundle, h.port, h.ports] at hshares
    rw [h.bundle q', (h.port p).2]
    exact hs.apart q hq p hp hshares q' hq' hne

/-- What a later event leaves does not depend on what the earlier ones did. -/
theorem Resynced.rebase (h : Resynced { s₀ with vlansBmp := bmp } [] s)
    (h' : Resynced { s with vlansBmp := bmp' } [] s') : Resynced { s₀ with vlansBmp := bmp' } [] s' := by
  have hre : ∀ q, State.IsReconfigured { s with vlansBmp := bmp' } q ↔ s₀.IsReconfigured q :=
    h.isReconfigured
  have hname : ∀ q, (s.bundle q).name = (s₀.bundle q).name := fun q => by rw [h.bundle]
  constructor
  case vrf => exact h'.vrf.trans h.vrf
  case ports => exact h'.ports.trans h.ports
  case port =>
    exact fun p => ⟨(h'.port p).1.trans (h.port p).1, (h'.port p).2.trans (h.port p).2⟩
  case bundles => exact h'.bundles.trans h.bundles
  case bundle =>
    intro q
    have hbundle := h'.bundle q
    rw [h.bundle q] at hbundle
    exact hbundle
  case vlansBmp => exact h'.vlansBmp
  case kept =>
    intro q hq
    have hskip := hq.resolve_left (by simp)
    exact (h'.kept q (.inr (mt (hre q).mp hskip))).trans (h.kept q (.inr hskip))
  case done =>
    intro q hq hnot hre'
    have hwanted : State.wantedPort { s with vlansBmp := bmp' } q =
        State.wantedPort { s₀ with vlansBmp := bmp' } q := by
      simp only [State.wantedPort, h.ports, h.port]
      rw [h.bundle q]
      rfl
    have hdone := h'.done q (h.bundles.symm ▸ hq) hnot ((hre q).mpr hre')
    rw [hwanted, hname] at hdone
    exact hdone
  case unadded => simp
  case other =>
    intro n hn
    refine (h'.other n fun q hq hre' => ?_).trans (h.other n hn)
    rw [hname]
    exact hn q (h.bundles ▸ hq) ((hre q).mp hre')

/-- One event. -/
theorem State.Consistent.setVlan (h : s.Consistent) (henv : env.Healthy)
    (hset : Ofproto.setVlan env s vid add = .ok s') (hfits : s'.world.Fits) :
    s'.Consistent ∧ s'.vlansBmp = bitmapSet s.vlansBmp vid add ∧
      (decide (vid.toNat ∈ s.vlansBmp) = add → s' = s) ∧
      (decide (vid.toNat ∈ s.vlansBmp) ≠ add →
        Resynced { s with vlansBmp := bitmapSet s.vlansBmp vid add } [] s') := by
  obtain ⟨hwf', heffect⟩ := (h.wf.setVlan vid add).of_ok hset
  by_cases hbit : decide (vid.toNat ∈ s.vlansBmp) = add
  · have hsame : s' = s := by
      cases heffect with
      | unchanged => rfl
      | vrf htrue => simp [h.vrf] at htrue
      | changed _ hchanged => exact absurd hbit hchanged
    subst hsame
    refine ⟨h, ?_, fun _ => rfl, fun hchanged => absurd hbit hchanged⟩
    cases add with
    | false => exact (Finset.erase_eq_of_notMem (of_decide_eq_false hbit)).symm
    | true => exact (Finset.insert_eq_of_mem (of_decide_eq_true hbit)).symm
  · have hresynced := heffect.resynced hbit h.vrf h.asicMatches h.wf h.names
      (fun q hq _ p hp hshares q' hq' hne _ => h.apart q hq p hp hshares q' hq' hne) henv hfits
    exact ⟨hresynced.consistent h hwf', hresynced.vlansBmp, fun hsame => absurd hsame hbit,
      fun _ => hresynced⟩

theorem run_setVlans_log (hwf : s.WF) (hrun : run env s (setVlans events) = .ok s') :
    s.world.log <+: s'.world.log := by
  induction events generalizing s with
  | nil =>
    cases hrun
    exact List.prefix_refl _
  | cons event events ih =>
    obtain ⟨s₁, hstep, hrest⟩ := run_cons_eq_ok hrun
    obtain ⟨hwf₁, heffect⟩ := (hwf.setVlan event.1 event.2).of_ok hstep
    exact heffect.steps.log.trans (ih hwf₁ hrest)

/-- Events that change no bit do nothing. -/
theorem State.Consistent.run_unchanged (h : s.Consistent) (henv : env.Healthy)
    (hrun : run env s (setVlans events) = .ok s') (hfits : s'.world.Fits)
    (hsame : ¬ ChangesVlans s.vlansBmp events) : s' = s := by
  induction events generalizing s with
  | nil =>
    cases hrun
    rfl
  | cons event events ih =>
    obtain ⟨s₁, hstep, hrest⟩ := run_cons_eq_ok hrun
    have hfits₁ := hfits.of_prefix (run_setVlans_log ((h.wf.setVlan _ _).of_ok hstep).1 hrest)
    obtain ⟨-, hbmp, hunchanged, -⟩ := h.setVlan henv hstep hfits₁
    rw [ChangesVlans, not_or, not_not, ← hbmp] at hsame
    rw [hunchanged hsame.1] at hrest hsame
    exact ih h hrest hsame.2

/-- After events that change a bit the ASIC is the one that the last bitmap asks for. -/
theorem State.Consistent.run_resynced (h : s.Consistent) (henv : env.Healthy)
    (hbase : s = s₀ ∨ ∃ bmp, Resynced { s₀ with vlansBmp := bmp } [] s)
    (hrun : run env s (setVlans events) = .ok s') (hfits : s'.world.Fits)
    (hchanges : ChangesVlans s.vlansBmp events) :
    Resynced { s₀ with vlansBmp := s'.vlansBmp } [] s' := by
  induction events generalizing s with
  | nil => exact hchanges.elim
  | cons event events ih =>
    obtain ⟨vid, add⟩ := event
    obtain ⟨s₁, hstep, hrest⟩ := run_cons_eq_ok hrun
    have hfits₁ := hfits.of_prefix (run_setVlans_log ((h.wf.setVlan _ _).of_ok hstep).1 hrest)
    obtain ⟨h₁, hbmp, hunchanged, hresynced⟩ := h.setVlan henv hstep hfits₁
    by_cases hbit : decide (vid.toNat ∈ s.vlansBmp) = add
    · obtain rfl := hunchanged hbit
      refine ih h hbase hrest ?_
      rw [hbmp]
      exact hchanges.resolve_left (not_not_intro hbit)
    · have hbase₁ : Resynced { s₀ with vlansBmp := bitmapSet s.vlansBmp vid add } [] s₁ := by
        rcases hbase with rfl | ⟨bmp, hbase⟩
        · exact hresynced hbit
        · exact hbase.rebase (hresynced hbit)
      by_cases hlater : ChangesVlans s₁.vlansBmp events
      · exact ih h₁ (.inr ⟨_, hbase₁⟩) hrest hlater
      · rw [h₁.run_unchanged henv hrest hfits hlater, hbmp]
        exact hbase₁

theorem Resynced.unique {s₁ s₂ : State} (h₁ : Resynced s₀ [] s₁) (h₂ : Resynced s₀ [] s₂) :
    s₁.world.asic.ports = s₂.world.asic.ports ∧ ∀ q ∈ s₀.bundles, s₁.bundle q = s₂.bundle q := by
  constructor
  · funext n
    by_cases hre : ∃ q ∈ s₀.bundles, s₀.IsReconfigured q ∧ (s₀.bundle q).name = n
    · obtain ⟨q, hq, hre, rfl⟩ := hre
      rw [(h₁.done q hq (by simp) hre).2, (h₂.done q hq (by simp) hre).2]
    · have hother : ∀ q ∈ s₀.bundles, s₀.IsReconfigured q → (s₀.bundle q).name ≠ n :=
        fun q hq hre' heq => hre ⟨q, hq, hre', heq⟩
      rw [h₁.other n hother, h₂.other n hother]
  · intro q hq
    have hadded : (s₁.bundle q).isAddedToSimOvs = (s₂.bundle q).isAddedToSimOvs := by
      by_cases hre : s₀.IsReconfigured q
      · rw [(h₁.done q hq (by simp) hre).1, (h₂.done q hq (by simp) hre).1]
      · rw [h₁.kept q (.inr hre), h₂.kept q (.inr hre)]
    rw [h₁.bundle q, h₂.bundle q, hadded]

end Events

/-- A call that changes a bit brings all bundles in line with the new bitmap, and what a sequence of
calls leaves in the ASIC depends on the last bitmap only. -/
theorem setVlan_resyncs (env : Env) {s : State} (henv : env.Healthy) (h : s.Consistent)
    (hvlans : s.VlansInRange) (hfits : s.world.Fits) :
    (∀ (vid : ℤ) (add : Bool), 0 ≤ vid → vid < vlanBitmapSize →
      decide (vid.toNat ∈ s.vlansBmp) ≠ add →
      { s with vlansBmp := bitmapSet s.vlansBmp vid add }.TextsFit →
      ∃ s', setVlan env s vid add = .ok s' ∧ s'.bundles = s.bundles ∧
        s'.vlansBmp = bitmapSet s.vlansBmp vid add ∧ ∀ q ∈ s.bundles,
          (s.bundle q).isBridgeBundle = false → (s.bundle q).isVlanRoutingEnabled = false →
          InSync { s with vlansBmp := bitmapSet s.vlansBmp vid add } s' q) ∧
    ∀ (events₁ events₂ : List (ℤ × Bool)) (s₁ s₂ : State), run env s (setVlans events₁) = .ok s₁ →
      run env s (setVlans events₂) = .ok s₂ → s₁.world.Fits → s₂.world.Fits →
      (ChangesVlans s.vlansBmp events₁ ↔ ChangesVlans s.vlansBmp events₂) →
      s₁.vlansBmp = s₂.vlansBmp →
      s₁.world.asic.ports = s₂.world.asic.ports ∧ ∀ q ∈ s.bundles, s₁.bundle q = s₂.bundle q := by
  constructor
  · intro vid add hpos hsize hbit htexts
    obtain ⟨s', hset, hfits'⟩ := h.wf.setVlan_returns env hfits hvlans ⟨hpos, hsize⟩ htexts
    obtain ⟨-, hbmp, -, hresynced⟩ := h.setVlan henv hset hfits'
    have hresynced := hresynced hbit
    refine ⟨s', hset, hresynced.bundles, hbmp, fun q hq hbridge hrouting => ?_⟩
    obtain ⟨hadded, hport⟩ := hresynced.done q hq (by simp) ⟨hrouting, hbridge⟩
    exact .of_wantedPort hadded hport
  · intro events₁ events₂ s₁ s₂ hrun₁ hrun₂ hfits₁ hfits₂ hchanges hbmp
    by_cases hchanges₁ : ChangesVlans s.vlansBmp events₁
    · have h₁ := h.run_resynced henv (.inl rfl) hrun₁ hfits₁ hchanges₁
      have h₂ := h.run_resynced henv (.inl rfl) hrun₂ hfits₂ (hchanges.mp hchanges₁)
      rw [← hbmp] at h₂
      exact h₁.unique h₂
    · rw [h.run_unchanged henv hrun₁ hfits₁ hchanges₁,
        h.run_unchanged henv hrun₂ hfits₂ (mt hchanges.mpr hchanges₁)]
      exact ⟨rfl, fun _ _ => rfl⟩

instance (s : State) : Decidable s.TextsFit :=
  decidable_of_iff ((∀ q ∈ s.bundles, s.IsReconfigured q → (Cmd.delPort (s.bundle q).name).Fits) ∧
      (∀ q ∈ s.bundles, s.IsReconfigured q → (∃ p ∈ s.ports, (s.port p).bundle = some q) →
        strlen (configureText s.name s.vlansBmp (s.bundle q)) < maxCmdLen) ∧
      ∀ p ∈ s.ports, ∀ c ∈ memberCmds (s.port p).name, c.Fits)
    ⟨fun h => ⟨h.1, h.2.1, h.2.2⟩, fun h => ⟨h.bundle, h.columns, h.port⟩⟩

/-- Calls that keep names apart lead from a clean ASIC to such a state. -/
theorem Reaches.consistent {env : Env} {s₀ s : State} (h : Reaches env KeepingCall s₀ s)
    (h₀ : Initial s₀) (henv : env.Healthy) (hfits : s.world.Fits) (hvrf : s.vrf = false)
    (hapart : s.NamesApart) : s.Consistent ∧ s.VlansInRange := by
  have hsound : Reaches env Sound s₀ s := h.mono fun _ _ _ hc => hc.2.1
  obtain ⟨hnames, hmatch⟩ := h.asicMatches h₀ henv hfits
  exact ⟨⟨hsound.wf (fun _ _ _ hc => hc) h₀, hvrf, hmatch.present_iff, hnames, hapart⟩,
    hsound.vlansInRange h₀⟩

/-- VLAN 10 is enabled for an access port and a bond, at once or while another VLAN comes and goes. -/
theorem setVlan_resyncs_of_enable : ∃ s s' s₁ s₂,
    run sampleEnv (sampleState false) [.bundleSet 100 (some (sampleSettings "eth1" [1] false)),
      .bundleSet 101 (some (sampleSettings "bond0" [2, 3] true))] = .ok s ∧ s.bundles = [2, 1] ∧
    (setVlan sampleEnv s 10 true = .ok s' ∧ ∀ q ∈ s.bundles, (s.bundle q).isBridgeBundle = false →
      (s.bundle q).isVlanRoutingEnabled = false →
      InSync { s with vlansBmp := bitmapSet s.vlansBmp 10 true } s' q) ∧
    run sampleEnv s (setVlans [(10, true)]) = .ok s₁ ∧
    run sampleEnv s (setVlans [(20, true), (10, true), (20, false)]) = .ok s₂ ∧
    s₁.world.asic.ports = s₂.world.asic.ports := by
  let ops : List Op := [.bundleSet 100 (some (sampleSettings "eth1" [1] false)),
    .bundleSet 101 (some (sampleSettings "bond0" [2, 3] true))]
  let events : List (ℤ × Bool) := [(20, true), (10, true), (20, false)]
  let ends : State → List (ℤ × Bool) → Option Bool := fun s events =>
    (run sampleEnv s (setVlans events)).toOption.map fun s' =>
      decide (s'.world.Fits ∧ s'.vlansBmp = {10})
  have hmeets : RunMeets sampleEnv KeepingCall (sampleState false) ops := by decide +kernel
  have hobs : (run sampleEnv (sampleState false) ops).toOption.map (fun s =>
      (decide (s.bundles = [2, 1] ∧ s.vrf = false ∧ s.vlansBmp = ∅ ∧ s.world.Fits ∧ s.NamesApart ∧
        State.TextsFit { s with vlansBmp := bitmapSet s.vlansBmp 10 true }),
        ends s [(10, true)], ends s events)) = some (true, some true, some true) := by decide +kernel
  obtain ⟨s, hrun, hreaches, hs⟩ := Reaches.of_observed hmeets hobs
  simp only [Prod.mk.injEq, decide_eq_true_eq, ends, Option.map_eq_some_iff] at hs
  obtain ⟨⟨hbundles, hvrf, hbmp, hfits, hapart, htexts⟩, ⟨s₁, hrun₁, hfits₁, hbmp₁⟩,
    s₂, hrun₂, hfits₂, hbmp₂⟩ := hs
  obtain ⟨hconsistent, hvlans⟩ := hreaches.consistent (sampleState_initial false)
    sampleEnv_healthy hfits hvrf hapart
  obtain ⟨hsyncs, hsame⟩ := setVlan_resyncs sampleEnv sampleEnv_healthy hconsistent hvlans hfits
  obtain ⟨s', hset, -, -, hsync⟩ :=
    hsyncs 10 true (by decide) (by decide) (by simp [hbmp]) htexts
  have hrun₁ := Except.eq_ok_of_toOption hrun₁
  have hrun₂ := Except.eq_ok_of_toOption hrun₂
  have hchanges : ChangesVlans s.vlansBmp [(10, true)] ↔ ChangesVlans s.vlansBmp events :=
    iff_of_true (.inl (by simp [hbmp])) (.inl (by simp [hbmp]))
  have hports := (hsame [(10, true)] events s₁ s₂ hrun₁ hrun₂ hfits₁ hfits₂ hchanges
    (hbmp₁.trans hbmp₂.symm)).1
  exact ⟨s, s', s₁, s₂, hrun, hbundles, ⟨hset, hsync⟩, hrun₁, hrun₂, hports⟩

/-- An access port is not in the ASIC although its VLAN is enabled. A VLAN that comes and goes puts it
there, and without any event it stays out. -/
theorem resync_needs_a_change : ¬ ∀ (env : Env) (s : State), env.Healthy → s.Consistent →
    s.VlansInRange → s.world.Fits →
    ∀ (events₁ events₂ : List (ℤ × Bool)) (s₁ s₂ : State), run env s (setVlans events₁) = .ok s₁ →
      run env s (setVlans events₂) = .ok s₂ → s₁.world.Fits → s₂.world.Fits →
      s₁.vlansBmp = s₂.vlansBmp → s₁.world.asic.ports = s₂.world.asic.ports := by
  intro hall
  let ops : List Op := [.bundleSet 100 (some (sampleSettings "eth1" [1] false))]
  let enabled : State → State := fun s => { s with vlansBmp := {10} }
  let events : List (ℤ × Bool) := [(20, true), (20, false)]
  have hmeets : RunMeets sampleEnv KeepingCall (sampleState false) ops := by decide +kernel
  have hobs : (run sampleEnv (sampleState false) ops).toOption.map (fun s =>
      (decide (s.vrf = false ∧ s.world.Fits ∧ s.NamesApart),
        (s.world.asic.ports "eth1").isSome,
        (run sampleEnv (enabled s) (setVlans events)).toOption.map fun s₂ =>
          (decide (s₂.world.Fits ∧ s₂.vlansBmp = {10}), (s₂.world.asic.ports "eth1").isSome))) =
      some (true, false, some (true, true)) := by decide +kernel
  obtain ⟨s, -, hreaches, hs⟩ := Reaches.of_observed hmeets hobs
  simp only [Prod.mk.injEq, decide_eq_true_eq, Option.map_eq_some_iff] at hs
  obtain ⟨⟨hvrf, hfits, hapart⟩, habsent, s₂, hrun, ⟨hfits₂, hbmp⟩, hpresent⟩ := hs
  obtain ⟨hconsistent, hvlans⟩ := hreaches.consistent (sampleState_initial false)
    sampleEnv_healthy hfits hvrf hapart
  have hwf : (enabled s).WF :=
    ⟨hconsistent.wf.toListsWF.congr rfl (fun _ _ => rfl) rfl (fun _ => rfl) rfl,
      hconsistent.wf.mbridge⟩
  have hports := hall sampleEnv (enabled s) sampleEnv_healthy
    ⟨hwf, hvrf, hconsistent.present_iff, hconsistent.names, hconsistent.apart⟩ hvlans hfits [] events
    (enabled s) s₂ rfl (Except.eq_ok_of_toOption hrun) hfits hfits₂ hbmp.symm
  have heth1 : s.world.asic.ports "eth1" = s₂.world.asic.ports "eth1" := congrFun hports "eth1"
  rw [heth1, hpresent] at habsent
  cases habsent

end ContainerPlugin.Ofproto
