import ContainerPlugin.Ofproto.MirrorBundles
import ContainerPlugin.Ofproto.Reconcile

/-!
# Runs without memory faults

The calls that corrupt memory are those that take a LAG away, claim a port of one, or change a mirror
to bundles that do not exist or to no output. A run without them reads and writes only objects that
are there, and what can stop it are the sizes of its arguments. No bundle is left without a port on the
way, so the bundles never outnumber the ports.
-/

namespace ContainerPlugin.Ofproto

/-- The bundles that a mirror is to be made of, its output among them, are there. -/
def State.CallResolves (s : State) : Op → Prop
  | .mirrorSet aux (some settings) => s.MirrorResolves aux settings
  | _ => True

/-- None of the calls that corrupt memory. -/
structure SafeCall (s : State) (op : Op) : Prop where
  teardown : NoTeardown s op
  lag : NoLagClaimed s op
  resolves : s.CallResolves op

/-- Every call that the run comes to is safe. -/
def RunSafe (env : Env) : State → List Op → Prop
  | _, [] => True
  | s, op :: ops => SafeCall s op ∧
    match step env s op with
    | .ok s' => RunSafe env s' ops
    | .error _ => True

section Safe

variable {env : Env} {s s' s₀ : State} {aux : Ptr} {op : Op} {settings : OfprotoMirrorSettings}
  {sel : MirrorSelection} {row : MirrorRow}

/-- What can go wrong once the names are known. -/
theorem State.MirrorNames.mirrorCreate_faults (hnames : s.MirrorNames sel row) :
    (mirrorCreate env s row.name sel).Ensures (fun e => e = .cmdOverflow ∨ e = .nullDeref)
      fun _ => True := by
  rw [hnames.mirrorCreate_eq]
  have hpieces : ((mirrorPieces row.name row.srcs row.dsts).foldlM appendPiece
      (createMirrorHead row.name)).Ensures _ _ := foldlM_appendPiece_ensures (strlen_mirrorPieces _ _ _)
  refine (hpieces.monoError fun _ he => .inl he.1).bind fun text _ => ?_
  cases row.out with
  | none => exact .inr rfl
  | some out =>
    dsimp only
    split
    · trivial
    · exact ((foldlM_appendText_overflow text _).monoError fun _ he => .inl he).bind fun _ _ => trivial

/-- A mirror that is made of bundles can only outgrow its command. -/
theorem mirrorInstall_faults {mirror : Mirror} (hsel : s.mirrorSelect settings = some sel)
    (hbundles : s.HasMirrorBundles settings) :
    (mirrorInstall env s mirror settings sel).Ensures Fault.OfInput fun _ => True := by
  have hfaults : (mirrorCreate env s settings.name sel).Ensures _ _ :=
    (State.mirrorNames_of_resolved hsel hbundles.1).mirrorCreate_faults
  cases hinstall : mirrorInstall env s mirror settings sel with
  | ok r => trivial
  | error e =>
    have hcreate := mirrorInstall_eq_error_iff.mp hinstall
    rcases hfaults.of_error hcreate with rfl | rfl
    · exact .inl rfl
    · exact absurd hcreate ((mirrorCreate_ne_nullDeref_iff hsel).mpr hbundles)

theorem mirrorSet_faults (h : s.MirrorResolves aux settings) :
    (mirrorSet env s aux (some settings)).Ensures Fault.OfInput fun _ => True := by
  rw [mirrorSet_eq]
  cases hslot : s.mirrorSlot aux settings.name with
  | none => trivial
  | some slot =>
    have hframe := (State.mirrorSlot_holds hslot).frame
    dsimp only
    rw [mirrorUpdate, hframe.mirrorSelect]
    cases hsel : s.mirrorSelect settings with
    | none => trivial
    | some sel =>
      dsimp only
      rw [hframe.unchanged]
      split
      · trivial
      · rename_i hchanged
        rw [Bool.not_eq_true] at hchanged
        have hprepared : s.MirrorFrame
            (mirrorPrepare env slot.state slot.idx slot.mirror slot.modify sel) :=
          hframe.trans (mirrorPrepare_frame ..)
        refine mirrorInstall_faults ((hprepared.mirrorSelect settings).trans hsel) ?_
        exact (hprepared.hasMirrorBundles_iff settings).mpr (h slot hslot sel hsel hchanged)

/-- A safe call does not fault, unless its arguments are too large. -/
theorem SafeCall.faults (h : SafeCall s op) (hwf : s.WF) :
    (step env s op).Ensures Fault.OfInput fun _ => True := by
  cases op with
  | bundleSet aux settings =>
    refine Except.Ensures.map ?_
    cases settings with
    | none =>
      rw [bundleSet]
      cases hfind : s.bundleLookup aux with
      | none => trivial
      | some q =>
        have hq := State.mem_of_bundleLookup hfind
        exact (hwf.bundleDestroy hq).bind fun _ _ => trivial
    | some settings => exact (hwf.bundleSet_some h.teardown h.lag).mono fun _ _ => trivial
  | bundleRemove p =>
    rw [step]
    split
    · exact (hwf.bundleRemove ‹_›).mono fun _ _ => trivial
    · trivial
  | setVlan vid add => exact (hwf.setVlan vid add).mono fun _ _ => trivial
  | mirrorSet aux settings =>
    refine Except.Ensures.map ?_
    cases settings with
    | none =>
      rw [mirrorSet]
      split
      · trivial
      · trivial
    | some settings => exact mirrorSet_faults h.resolves

theorem SafeCall.step (h : SafeCall s op) (hwf : s.WF) :
    (step env s op).Ensures Fault.OfInput State.WF := by
  have hfaults : (Ofproto.step env s op).Ensures _ _ := h.faults hwf
  cases hstep : Ofproto.step env s op with
  | ok s' => exact (hwf.step h.teardown h.lag hstep).1
  | error e => exact hfaults.of_error hstep

theorem RunSafe.run {ops : List Op} (h : RunSafe env s ops) (hwf : s.WF) :
    (run env s ops).Ensures Fault.OfInput State.WF := by
  induction ops generalizing s with
  | nil => exact hwf
  | cons op ops ih =>
    rw [Ofproto.run, List.foldlM_cons]
    obtain ⟨hsafe, hrest⟩ := h
    have hstep : (Ofproto.step env s op).Ensures _ _ := hsafe.step hwf
    cases hs' : Ofproto.step env s op with
    | ok s' =>
      rw [hs'] at hrest hstep
      exact ih hrest hstep
    | error e => exact hstep.of_error hs'

end Safe

instance : DecidablePred MirrorRow.Overruns := fun _ => inferInstanceAs (Decidable (_ ∧ _))

instance (s : State) : DecidablePred s.HasMirrorBundles :=
  fun _ => inferInstanceAs (Decidable (_ ∧ (_ ∨ _)))

instance (s : State) : DecidablePred s.CallResolves
  | .mirrorSet aux (some settings) => inferInstanceAs (Decidable (
      ∀ slot ∈ s.mirrorSlot aux settings.name, ∀ sel ∈ s.mirrorSelect settings,
        slot.mirror.unchanged s.mbridge sel = false → s.HasMirrorBundles settings))
  | .mirrorSet _ none | .bundleSet .. | .bundleRemove _ | .setVlan .. =>
    inferInstanceAs (Decidable True)

instance (s : State) (op : Op) : Decidable (SafeCall s op) :=
  decidable_of_iff (NoTeardown s op ∧ NoLagClaimed s op ∧ s.CallResolves op)
    ⟨fun h => ⟨h.1, h.2.1, h.2.2⟩, fun h => ⟨h.teardown, h.lag, h.resolves⟩⟩

instance RunSafe.decidable (env : Env) : ∀ s ops, Decidable (RunSafe env s ops)
  | _, [] => inferInstanceAs (Decidable True)
  | s, op :: ops =>
    match h : step env s op with
    | .ok s' =>
      have := RunSafe.decidable env s' ops
      decidable_of_iff (SafeCall s op ∧ RunSafe env s' ops) (by rw [RunSafe, h])
    | .error _ => decidable_of_iff (SafeCall s op) (by rw [RunSafe, h, and_iff_left trivial])

-- As with `RunMeets`, no tactic is to start a run by unfolding.
attribute [irreducible] RunSafe

/-- A run of safe calls never reads a bundle that is gone or missing, never follows a list out of its
bundle and never fails an assertion on the size of one: it returns, in a well-formed state, or it
stops because a VLAN is out of the range of a bitmap or a command outgrows its buffer. -/
theorem run_free_of_memory_faults (env : Env) {s₀ : State} (h₀ : Initial s₀) {ops : List Op}
    (h : RunSafe env s₀ ops) : (∃ s, run env s₀ ops = .ok s ∧ s.WF) ∨
      ∃ e, run env s₀ ops = .error e ∧ (e = .cmdOverflow ∨ e = .bitmapIndex) := by
  have hrun : (run env s₀ ops).Ensures _ _ := h.run h₀.wf
  cases hres : run env s₀ ops with
  | ok s => exact .inl ⟨s, rfl, hrun.of_ok hres⟩
  | error e => exact .inr ⟨e, rfl, hrun.of_error hres⟩

/-- A mirror is made of two bundles, one of them gives its port to the other and is destroyed, and
then a VLAN out of range is enabled. -/
theorem run_free_of_memory_faults_of_mirror : ∃ ops : List Op, ops.length = 6 ∧
    ((∃ s, run sampleEnv (sampleState false) ops = .ok s ∧ s.WF) ∨
      ∃ e, run sampleEnv (sampleState false) ops = .error e ∧
        (e = .cmdOverflow ∨ e = .bitmapIndex)) := by
  let ops : List Op := [.setVlan 10 true, .bundleSet 100 (some (sampleSettings "eth1" [1] false)),
    .bundleSet 101 (some (sampleSettings "bond0" [2, 3] true)),
    .mirrorSet 200 (some (sampleMirror "m" [100] [])),
    .bundleSet 101 (some (sampleSettings "bond0" [1, 2, 3] true)), .setVlan 4096 true]
  have hsafe : RunSafe sampleEnv (sampleState false) ops := by decide +kernel
  exact ⟨ops, rfl, run_free_of_memory_faults sampleEnv (sampleState_initial false) hsafe⟩

/-! ## Ports of the bundles -/

/-- Every bundle has a port. -/
def State.Occupied (s : State) : Prop := ∀ q ∈ s.bundles, ∃ p ∈ s.ports, (s.port p).bundle = some q

section Occupied

variable {env : Env} {s s₁ s₂ s' s₀ : State} {aux q : Ptr} {op : Op}
  {settings : OfprotoBundleSettings}

theorem State.Occupied.congr (h : s.Occupied) (hports : s'.ports = s.ports)
    (hbundle : ∀ p ∈ s.ports, (s'.port p).bundle = (s.port p).bundle)
    (hbundles : s'.bundles = s.bundles) : s'.Occupied := by
  intro q hq
  obtain ⟨p, hp, hb⟩ := h q (hbundles ▸ hq)
  exact ⟨p, hports.symm ▸ hp, (hbundle p hp).trans hb⟩

/-- The bundle that is destroyed takes none of the others' ports along. -/
theorem State.Occupied.destroyed (h : s.Occupied) (hnd : s.bundles.Nodup)
    (hdestroyed : Destroyed env q s s') : s'.Occupied := by
  intro q' hq'
  rw [hdestroyed.bundles, hnd.mem_erase_iff] at hq'
  obtain ⟨p, hp, hb⟩ := h q' hq'.2
  refine ⟨p, hdestroyed.ports.symm ▸ hp, ?_⟩
  rw [hdestroyed.port p (by simpa [hb] using hq'.1), hb]

/-- A bundle that has lost a port to another one is destroyed with it. -/
theorem State.Occupied.updated (h : s.Occupied) (hopened : Opened env aux settings q s s₁)
    (hclaimed : Claimed env q settings.slaves settings.slaves s₁ s₂)
    (hupdated : Updated env q settings.slaves s₁ s₂) {q' : Ptr} (hne : q' ≠ q)
    (hq' : q' ∈ s₂.bundles) : ∃ p ∈ s₂.ports, (s₂.port p).bundle = some q' := by
  have hframe := hclaimed.claims.frame
  have hq₁ := (hframe.sub q' hq').1
  obtain ⟨p, hp, hb⟩ := h q' ((hopened.mem_iff hne).mp hq₁)
  rw [← hopened.frame.port] at hb
  rw [← hopened.frame.ports] at hp
  have hkept := hclaimed.kept hq₁ hne fun p hp hmem hb =>
    hupdated.gone q' ⟨hne, p, hp, hmem, hb⟩ hq'
  exact ⟨p, hframe.ports.symm ▸ hp, (hkept.2 p hp).mpr hb⟩

theorem State.Occupied.bundleSet (h : s.Occupied) (hwf : s.WF)
    (hteardown : NoTeardown s (.bundleSet aux (some settings)))
    (hlag : NoLagClaimed s (.bundleSet aux (some settings))) :
    (bundleSet env s aux (some settings)).Ensures Fault.OfInput fun r => r.1.Occupied := by
  refine hwf.bundleSet_rule (Q := fun q s₁ s₂ => Claimed env q settings.slaves settings.slaves s₁ s₂)
    hteardown hlag ?_ ?_ ?_
  · intro q s₁ _ hwf₁ hq hnolag
    exact (updatePorts_claimed hwf₁ hq hnolag).mono fun s₂ hs₂ => hs₂.symm
  · intro q s₁ s₂ hopened _ hupdated hclaimed _ _
    refine (hupdated.wf.bundleDestroy hupdated.live).mono ?_
    rintro s' ⟨_, hdestroyed⟩
    intro q' hq'
    rw [hdestroyed.bundles, hupdated.wf.nodup.mem_erase_iff] at hq'
    obtain ⟨p, hp, hb⟩ := h.updated hopened hclaimed hupdated hq'.1 hq'.2
    exact ⟨p, hdestroyed.ports.symm ▸ hp, by rw [hdestroyed.port p (by simpa [hb] using hq'.1), hb]⟩
  · intro q s₁ s₂ ps hopened _ hupdated hclaimed hps hne _ hname
    have hoccupied : s₂.Occupied := by
      intro q' hq'
      by_cases hqq : q' = q
      · subst hqq
        obtain ⟨p, hp⟩ := List.exists_mem_of_ne_nil ps hne
        exact ⟨p, (hps.mem_iff p).mp hp⟩
      · exact h.updated hopened hclaimed hupdated hqq hq'
    refine (hupdated.wf.bundleApply hupdated.live hname).mono ?_
    rintro s' ⟨_, happlied⟩
    obtain ⟨hports, hbundles, hbundle, -⟩ := happlied.frame
    exact hoccupied.congr hports (fun p _ => hbundle p) hbundles

theorem Reconfigured.occupied {qs : List Ptr} (h : Reconfigured env qs s s') (hs : s.Occupied) :
    s'.Occupied := by
  induction h with
  | nil => exact hs
  | skip _ _ ih => exact ih hs
  | configure _ _ _ hconf _ ih =>
    exact ih (hs.congr hconf.ports (fun p _ => (hconf.port p).1) hconf.bundles)

theorem State.Occupied.step (h : s.Occupied) (hwf : s.WF) (hsound : Sound s op s')
    (hstep : step env s op = .ok s') : s'.Occupied := by
  obtain ⟨-, heffect⟩ := hwf.step hsound.1 hsound.2 hstep
  cases heffect with
  | absent | kept => exact h
  | deleted _ hdestroyed | removed _ _ _ hdestroyed => exact h.destroyed hwf.nodup hdestroyed
  | set =>
    obtain ⟨rc, hset⟩ := map_fst_eq_ok hstep
    exact (h.bundleSet hwf hsound.1 hsound.2).of_ok hset
  | vlan hvlan =>
    cases hvlan with
    | unchanged => exact h
    | vrf => exact h.congr rfl (fun _ _ => rfl) rfl
    | changed _ _ _ hrest => exact hrest.occupied (h.congr rfl (fun _ _ => rfl) rfl)
  | mirror hmirror =>
    have hframe := hmirror.frame
    exact h.congr hframe.ovs.ports (fun p _ => by rw [hframe.ovs.port]) hframe.bundles

/-- Each bundle has a port of its own. -/
theorem State.Occupied.length_le (h : s.Occupied) (hnd : s.bundles.Nodup) :
    s.bundles.length ≤ s.ports.length := by
  have hsub : s.bundles ⊆ s.ports.filterMap fun p => (s.port p).bundle := by
    intro q hq
    obtain ⟨p, hp, hb⟩ := h q hq
    exact List.mem_filterMap.mpr ⟨p, hp, hb⟩
  exact (List.subperm_of_subset hnd hsub).length_le.trans (List.length_filterMap_le _ _)

end Occupied

/-- In every state that is reached each bundle has a port, and so there are never more bundles, and
never more mirror bundles, than ports. -/
theorem bundles_never_outnumber_ports (env : Env) {s₀ s : State} (h₀ : Initial s₀)
    (h : Reaches env Sound s₀ s) : s.Occupied ∧ s.bundles.length ≤ s.ports.length ∧
      s.mbridge.mbundles.length ≤ s.ports.length := by
  have hempty : s₀.Occupied := by
    intro q hq
    rw [h₀.bundles] at hq
    cases hq
  obtain ⟨hwf, hoccupied⟩ := h.invariant (I := fun s => s.WF ∧ s.Occupied) ⟨h₀.wf, hempty⟩ <| by
    rintro s op s' ⟨hwf, hs⟩ hsound hstep
    exact ⟨(hwf.step hsound.1 hsound.2 hstep).1, hs.step hwf hsound hstep⟩
  have hlength := hoccupied.length_le hwf.nodup
  have hmbundles := hwf.mbridge.perm.length_eq
  rw [List.length_map] at hmbundles
  exact ⟨hoccupied, hlength, hmbundles.le.trans hlength⟩

/-- A bundle that gives its only port away is gone. -/
theorem bundles_never_outnumber_ports_of_takeover : ∃ s,
    run sampleEnv (sampleState false) [.bundleSet 100 (some (sampleSettings "eth1" [1] false)),
      .bundleSet 101 (some (sampleSettings "bond0" [1, 2] true))] = .ok s ∧
    s.bundles.length ≤ s.ports.length := by
  have hmeets : RunMeets sampleEnv Sound (sampleState false)
      [.bundleSet 100 (some (sampleSettings "eth1" [1] false)),
        .bundleSet 101 (some (sampleSettings "bond0" [1, 2] true))] := by decide +kernel
  obtain ⟨s, hrun, hreaches⟩ := Reaches.of_runMeets hmeets
  exact ⟨s, hrun, (bundles_never_outnumber_ports sampleEnv (sampleState_initial false) hreaches).2.1⟩

end ContainerPlugin.Ofproto
