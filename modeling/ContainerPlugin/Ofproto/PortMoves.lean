import ContainerPlugin.Ofproto.Removal

/-!
# Invariants of the ports

What the calls do to ports is done in four kinds of steps: `ovs-vsctl` runs, a member is unlinked, a
port that is in no bundle is linked, and a member of a bridge is blocked in `iptables`. What these
steps keep is kept by every call that neither tears a LAG down nor claims a port of one.
-/

namespace ContainerPlugin.Ofproto

/-- The commands of `mirror_set`. -/
def Cmd.OnMirrors : Cmd → Prop
  | .createMirror _ | .removeMirror _ => True
  | _ => False

theorem Cmd.OnMirrors.isOvs {c : Cmd} (h : c.OnMirrors) : c.IsOvs := by
  cases c with
  | createMirror | removeMirror => trivial
  | _ => exact h.elim

/-- What changes of the mirror table and commands on mirrors keep. -/
structure MirrorInvariant (env : Env) (I : State → Prop) : Prop where
  mbridge : ∀ {s : State} (m : Mbridge), I s → I { s with mbridge := m }
  system : ∀ {s : State} {c : Cmd}, c.OnMirrors → I s → I (s.system env c)

section MirrorInvariant

variable {env : Env} {I : State → Prop} {s s' : State} {aux : Ptr} {mirror : Mirror}
  {i : Fin maxMirrors}

theorem MirrorInvariant.prepare (h : MirrorInvariant env I) (hs : I s) (modify : Bool)
    (sel : MirrorSelection) : I (mirrorPrepare env s i mirror modify sel) := by
  have hmirrors : (Cmd.removeMirror mirror.name).OnMirrors := trivial
  have hstored := h.mbridge { s.mbridge with
    mirrors := Function.update s.mbridge.mirrors i (some (mirror.withSelection s.mbridge sel))
    hasMirrors := true } hs
  rw [mirrorPrepare]
  dsimp only
  split
  · exact h.system hmirrors hstored
  · exact hstored

theorem MirrorInvariant.created (h : MirrorInvariant env I) {name : String} {rc : Rc}
    (hcreated : MirrorCreated env name s s' rc) (hs : I s) : I s' := by
  cases hcreated with
  | exceeds => exact hs
  | run row =>
    have hmirrors : (Cmd.createMirror row).OnMirrors := trivial
    exact h.system hmirrors hs

theorem MirrorInvariant.updated (h : MirrorInvariant env I) {modify : Bool}
    {settings : OfprotoMirrorSettings} {rc : Rc}
    (hupdated : MirrorUpdated env i mirror modify settings s s' rc) (hs : I s) : I s' := by
  cases hupdated with
  | rejected => exact h.mbridge _ hs
  | unchanged => exact hs
  | created _ _ hcreated => exact h.created hcreated (h.prepare hs _ _)
  | failed _ _ _ hcreated => exact h.mbridge _ (h.created hcreated (h.prepare hs _ _))

/-- `mirror_set` runs commands on mirrors and changes the mirror table. -/
theorem MirrorInvariant.mirrorSet (h : MirrorInvariant env I)
    {settings : Option OfprotoMirrorSettings} {rc : Rc} (hset : MirrorSet env aux s settings s' rc)
    (hs : I s) : I s' := by
  cases hset with
  | full | absent => exact hs
  | create _ _ hupdated => exact h.updated hupdated (h.mbridge _ hs)
  | modify _ _ hupdated => exact h.updated hupdated hs
  | @delete i mirror =>
    have hmirrors : (Cmd.removeMirror mirror.name).OnMirrors := trivial
    exact h.mbridge _ (h.system hmirrors hs)

end MirrorInvariant

/-- What the steps of the ports keep, as long as ports are only linked into the bundles of `T`. Unlike
a `PortStep`, a port that is unlinked is in a bundle, and `ovs-vsctl` leaves the whole world alone but
for the ASIC. -/
structure PortInvariant (env : Env) (T : Ptr → Prop) (I : State → Prop) : Prop where
  congr : ∀ {s s' : State}, I s → s'.ports = s.ports → s'.port = s.port → s'.vrf = s.vrf →
    s'.world = s.world → I s'
  system : ∀ {s : State} {c : Cmd}, c.IsOvs → I s → I (s.system env c)
  detach : ∀ {s : State} {p : OfpPort}, p ∈ s.ports → (s.port p).bundle ≠ none → I s →
    I (detachPort env s p)
  attach : ∀ {s : State} {q : Ptr} {p : OfpPort}, T q → p ∈ s.ports → (s.port p).bundle = none →
    I s → I (attachPort s q p)
  block : ∀ {s : State} {p : OfpPort}, p ∈ s.ports → (s.port p).bundle ≠ none → s.vrf = false →
    I s → I (blockPort env s p)

section PortInvariant

variable {env : Env} {T : Ptr → Prop} {I : State → Prop} {s s' s₀ : State} {q aux : Ptr} {p : OfpPort}

theorem PortInvariant.modifyBundle (h : PortInvariant env T I) (hs : I s) (q : Ptr)
    (f : Ofbundle → Ofbundle) : I (s.modifyBundle q f) := h.congr hs rfl rfl rfl rfl

theorem PortInvariant.delFromSimOvs (h : PortInvariant env T I) (hs : I s) (q : Ptr) :
    I (delFromSimOvs env s q) := by
  have hovs : (Cmd.delPort (s.bundle q).name).IsOvs := trivial
  rw [Ofproto.delFromSimOvs]
  split
  · exact h.modifyBundle (h.system hovs hs) q _
  · exact hs

theorem PortInvariant.simBridgeVlanRoutingUpdate (h : PortInvariant env T I) (hs : I s) (vlan : ℤ)
    (add : Bool) : (simBridgeVlanRoutingUpdate env s vlan add).Ensures (fun _ => True) I := by
  refine (Except.ensures_true _).bind fun isSet _ => ?_
  split
  · exact hs
  · refine (Except.ensures_true _).bind fun text _ => ?_
    refine (Except.ensures_true _).bind fun _ _ => ?_
    have hbmp : I { s with vlanIntfBmp := bitmapSet s.vlanIntfBmp vlan add } :=
      h.congr hs rfl rfl rfl rfl
    have hovs : (Cmd.setPortTrunks s.name
      (bridgeTrunks (bitmapSet s.vlanIntfBmp vlan add))).IsOvs := trivial
    exact h.system hovs hbmp

theorem PortInvariant.stopVlanRouting (h : PortInvariant env T I) (hs : I s) (q : Ptr) :
    (stopVlanRouting env s q).Ensures (fun _ => True) I := by
  rw [Ofproto.stopVlanRouting]
  split
  · exact (h.simBridgeVlanRoutingUpdate hs _ _).bind fun s₁ hs₁ => h.modifyBundle hs₁ q _
  · exact hs

theorem PortInvariant.bundleDestroy (h : PortInvariant env T I) (hwf : s.ListsWF) (hq : q ∈ s.bundles)
    (hs : I s) : (bundleDestroy env s q).Ensures (fun _ => True) I := by
  simp only [Ofproto.bundleDestroy, hwf.deref hq, Except.ok_bind]
  have hunregistered : I { s with mbridge := s.mbridge.unregisterBundle q } :=
    h.congr hs rfl rfl rfl rfl
  have hstopped := (h.stopVlanRouting (h.delFromSimOvs hunregistered q) q).and
    ((stopped_ensures s q).monoError fun _ _ => trivial)
  have hdetach : ∀ s p, s.ListsWF → I s → p ∈ s.ports → (s.port p).bundle = some q →
      I (detachPort env s p) := fun s p _ hs hp hb => h.detach hp (by simp [hb]) hs
  refine hstopped.bind ?_
  rintro s₃ ⟨hs₃, hstopped⟩
  have hloop := (hstopped.listsWF hwf).forEachPortSafe_delAll (hstopped.bundles.symm ▸ hq) hdetach hs₃
  refine (hloop.monoError fun _ => False.elim).bind ?_
  rintro s₄ ⟨_, _, hs₄, _⟩
  exact h.congr hs₄ rfl rfl rfl rfl

theorem PortInvariant.bundleRemove (h : PortInvariant env T I) (hwf : s.WF) (hp : p ∈ s.ports)
    (hs : I s) : (bundleRemove env s p).Ensures (fun _ => True) I := by
  cases hb : (s.port p).bundle with
  | none =>
    rw [Ofproto.bundleRemove, hb]
    exact hs
  | some q =>
    have hq := hwf.owner p hp q hb
    by_cases hlag : (s.bundle q).bondHwHandle = -1
    · rw [bundleRemove_of_not_lag hq hb hlag]
      exact h.bundleDestroy (hwf.toListsWF.detachPort hp hb) hq (h.detach hp (by simp [hb]) hs)
    · rw [bundleRemove_of_lag hq hb hlag]
      exact hs

/-- A port that is claimed is in no bundle when it is linked. -/
theorem PortInvariant.bundleAddPort (h : PortInvariant env T I) {slaves claimed : List OfpPort}
    (hT : T q) (hclaimed : Claimed env q slaves claimed s₀ s) (hlag : NoLagClaim s₀ q slaves)
    (hp : p ∈ slaves) (hs : I s) : (bundleAddPort env s q p).Ensures (fun _ => True) fun r => I r.1 := by
  simp only [Ofproto.bundleAddPort, hclaimed.wf.deref hclaimed.live, Except.ok_bind, State.getOfpPort]
  by_cases hmem : p ∈ s.ports
  · rw [if_pos hmem]
    dsimp only
    split
    · exact hs
    · rename_i hown
      have hremoved := ((hclaimed.remove hlag hp hmem hown).monoError fun _ _ => trivial).and
        (h.bundleRemove hclaimed.wf hmem hs)
      refine hremoved.bind ?_
      rintro s₁ ⟨⟨hclaimed₁, hnone⟩, hs₁⟩
      have hports : s₁.ports = s.ports :=
        hclaimed₁.claims.frame.ports.trans hclaimed.claims.frame.ports.symm
      rw [hclaimed₁.wf.deref hclaimed₁.live, Except.ok_bind]
      exact h.attach hT (hports ▸ hmem) hnone hs₁
  · rw [if_neg hmem]
    exact hs

theorem PortInvariant.addSlaves (h : PortInvariant env T I) (hT : T q) {slaves : List OfpPort}
    (hwf : s.WF) (hq : q ∈ s.bundles) (hlag : NoLagClaim s q slaves) (hs : I s) :
    (addSlaves env s q slaves).Ensures (fun _ => True) fun r =>
      Claimed env q slaves slaves s r.1 ∧ I r.1 := by
  let J : List OfpPort → State × Bool → Prop := fun todo r => ∃ claimed, slaves = claimed ++ todo ∧
    Claimed env q slaves claimed s r.1 ∧ I r.1
  have hstep : ∀ p todo r, J (p :: todo) r → (Ofproto.bundleAddPort env r.1 q p).Ensures
      (fun _ => True) fun r' => J todo (r'.1, r.2 && r'.2) := by
    rintro p todo r ⟨claimed, hsplit, hclaimed, hr⟩
    have hp : p ∈ slaves := by simp [hsplit]
    have hadded := ((hclaimed.add hlag hp).monoError fun _ _ => trivial).and
      (h.bundleAddPort hT hclaimed hlag hp hr)
    refine hadded.mono ?_
    rintro r' ⟨⟨hclaimed', _⟩, hr'⟩
    exact ⟨claimed ++ [p], by simpa using hsplit, hclaimed', hr'⟩
  have hinit : J slaves (s, true) := ⟨[], rfl, ⟨hwf, hq, .refl s, .refl s, by simp,
    fun _ _ => .inl rfl, fun _ _ hchanged => absurd rfl hchanged⟩, hs⟩
  refine (addSlaves_rule hstep hinit).mono ?_
  rintro r ⟨claimed, hsplit, hclaimed, hr⟩
  obtain rfl : slaves = claimed := by simpa using hsplit
  exact ⟨hclaimed, hr⟩

theorem PortInvariant.updatePorts (h : PortInvariant env T I) (hT : T q) {slaves : List OfpPort}
    (hwf : s.WF) (hq : q ∈ s.bundles) (hlag : NoLagClaim s q slaves) (hs : I s) :
    (updatePorts env s q slaves).Ensures (fun _ => True) I := by
  refine (h.addSlaves hT hwf hq hlag hs).bind ?_
  rintro r ⟨hclaimed, hr⟩
  refine (Except.ensures_true _).bind fun same _ => ?_
  split
  · exact hr
  · have hdetach : ∀ s p, s.ListsWF → I s → p ∈ s.ports → p ∉ slaves → (s.port p).bundle = some q →
        I (detachPort env s p) := fun s p _ hs hp _ hb => h.detach hp (by simp [hb]) hs
    have hloop := hclaimed.wf.toListsWF.forEachPortSafe_del hclaimed.live slaves hdetach hr
    exact (hloop.monoError fun _ => False.elim).mono fun s' hs' => hs'.2.2.1

theorem PortInvariant.delMembersFromSimOvs (h : PortInvariant env T I) (hs : I s)
    (ps : List OfpPort) : I (delMembersFromSimOvs env s ps) := by
  have hloop : ∀ (l : List OfpPort) (s : State), I s →
      I (l.foldl (fun s p => s.system env (.delPort (s.port p).name)) s) := by
    intro l
    induction l with
    | nil => exact fun _ hs => hs
    | cons p l ih =>
      intro s hs
      have hovs : (Cmd.delPort (s.port p).name).IsOvs := trivial
      exact ih _ (h.system hovs hs)
  rw [Ofproto.delMembersFromSimOvs]
  split
  · exact hloop ps s hs
  · exact hs

theorem PortInvariant.configurePort (h : PortInvariant env T I) (hs : I s) (q : Ptr) :
    (configurePort env s q).Ensures (fun _ => True) I := by
  refine (Except.ensures_true _).bind fun columns _ => ?_
  split
  · exact hs
  · rename_i columns
    have hovs : (Cmd.addPort s.name (s.bundle q).name columns).IsOvs := trivial
    have hadded := h.system hovs hs
    simp only [addToSimOvs, Except.ensures_ok]
    split
    · exact h.modifyBundle hadded q _
    · exact hadded

theorem PortInvariant.blockPorts (h : PortInvariant env T I) {ps : List OfpPort}
    (hps : ∀ p ∈ ps, p ∈ s.ports ∧ (s.port p).bundle ≠ none) (hvrf : s.vrf = false) (hs : I s) :
    I (ps.foldl (blockPort env) s) := by
  induction ps generalizing s with
  | nil => exact hs
  | cons p ps ih =>
    obtain ⟨hp, hb⟩ := hps p (by simp)
    obtain ⟨port, w, hblock, hport, -⟩ := blockPorts_spec env (s := s) (l := [p]) hvrf
      (by simpa using ⟨hp, hb⟩)
    rw [List.foldl_cons, List.foldl_nil] at hblock
    refine ih (fun p' hp' => ?_) ?_ (h.block hp hb hvrf hs)
    · rw [hblock, (hport p').1]
      exact hps p' (List.mem_cons_of_mem p hp')
    · rw [hblock]
      exact hvrf

theorem PortInvariant.bundleConfigure (h : PortInvariant env T I) (hwf : s.WF) (hq : q ∈ s.bundles)
    (hs : I s) : (bundleConfigure env s q).Ensures (fun _ => True) I := by
  have hdeleted := h.delFromSimOvs hs q
  refine hwf.bundleConfigure_rule hq (fun _ _ _ => hdeleted) fun ps hps hvrf _ => ?_
  obtain ⟨w₁, hs₁, -, -⟩ := delFromSimOvs_spec env s q
  obtain ⟨w₂, hs₂, -, -⟩ := delMembersFromSimOvs_spec env (Ofproto.delFromSimOvs env s q) ps
  have hconfigured := ((configurePort_ensures _ q).monoError fun _ _ => trivial).and
    (h.configurePort (h.delMembersFromSimOvs hdeleted ps) q)
  refine hconfigured.mono ?_
  rintro s₃ ⟨⟨added, w₃, hs₃, _⟩, hkept⟩
  rw [hs₂, hs₁] at hs₃
  refine h.blockPorts (fun p hp => ?_) ?_ hkept
  · rw [hs₃]
    exact ⟨((hps.mem_iff p).mp hp).1, by simp [((hps.mem_iff p).mp hp).2]⟩
  · rw [hs₃]
    exact hvrf

theorem PortInvariant.bundleApply (h : PortInvariant env T I) {settings : OfprotoBundleSettings}
    (hwf : s.WF) (hq : q ∈ s.bundles) (hname : (s.bundle q).name = settings.name) (hs : I s) :
    (bundleApply env s q settings).Ensures (fun _ => True) I := by
  refine bundleApply_rule hq hname (fun _ => hs) ?_ ?_ ?_
  · intro sflow _ _
    exact (h.simBridgeVlanRoutingUpdate (h.modifyBundle hs q _) _ _).mono fun s' hs' =>
      h.modifyBundle hs' q _
  · exact fun _ _ _ _ _ => h.modifyBundle hs q _
  · intro sflow _ _
    exact h.bundleConfigure (hwf.modifyBundle fun _ => rfl) hq (h.modifyBundle hs q _)

theorem PortInvariant.bundleSet (h : PortInvariant env (fun _ => True) I)
    {settings : OfprotoBundleSettings}
    (hwf : s.WF) (hteardown : NoTeardown s (.bundleSet aux (some settings)))
    (hlag : NoLagClaimed s (.bundleSet aux (some settings))) (hs : I s) :
    (bundleSet env s aux (some settings)).Ensures (fun _ => True) fun r => I r.1 := by
  refine hwf.bundleSet_rule (Q := fun _ _ s₂ => I s₂) hteardown hlag ?_ ?_ ?_
  · intro q s₁ hopened hwf₁ hq hnolag
    have hs₁ : I s₁ := h.congr hs hopened.frame.ports hopened.frame.port
      hopened.frame.vrf hopened.world
    exact ((updatePorts_ensures hwf₁ hq hnolag).monoError fun _ _ => trivial).and
      (h.updatePorts trivial hwf₁ hq hnolag hs₁)
  · intro q s₁ s₂ _ _ hupdated hs₂ _ _
    exact h.bundleDestroy hupdated.wf.toListsWF hupdated.live hs₂
  · intro q s₁ s₂ ps _ _ hupdated hs₂ _ _ _ hname
    exact h.bundleApply hupdated.wf hupdated.live hname hs₂

theorem PortInvariant.reconfigure (h : PortInvariant env T I) {qs : List Ptr} (hwf : s.WF)
    (hqs : ∀ q ∈ qs, q ∈ s.bundles) (hs : I s) :
    (qs.foldlM (reconfigureBundle env) s).Ensures (fun _ => True) I := by
  induction qs generalizing s with
  | nil => exact hs
  | cons q qs ih =>
    have hq := hqs q (by simp)
    have hqs' := fun q' hq' => hqs q' (List.mem_cons_of_mem q hq')
    rw [List.foldlM_cons, reconfigureBundle, hwf.deref hq, Except.ok_bind]
    split
    · exact ih hwf hqs' hs
    · have hconfigured := (h.bundleConfigure hwf hq hs).and
        ((hwf.bundleConfigure hq).monoError fun _ _ => trivial)
      refine hconfigured.bind ?_
      rintro s₁ ⟨hs₁, hwf₁, hconf⟩
      exact ih hwf₁ (fun q' hq' => hconf.bundles ▸ hqs' q' hq') hs₁

theorem PortInvariant.setVlan (h : PortInvariant env T I) (hwf : s.WF) (vid : ℤ) (add : Bool)
    (hs : I s) : (setVlan env s vid add).Ensures (fun _ => True) I := by
  refine (Except.ensures_true _).bind fun isSet _ => ?_
  split
  · exact hs
  · have hbmp : I { s with vlansBmp := bitmapSet s.vlansBmp vid add } :=
      h.congr hs rfl rfl rfl rfl
    dsimp only
    split
    · exact hbmp
    · have hwf' : { s with vlansBmp := bitmapSet s.vlansBmp vid add }.WF :=
        ⟨hwf.toListsWF.congr rfl (fun _ _ => rfl) rfl (fun _ => rfl) rfl, hwf.mbridge⟩
      exact h.reconfigure hwf' (fun q hq => (env.order_perm _).subset hq) hbmp

theorem PortInvariant.mirrorInvariant (h : PortInvariant env T I) : MirrorInvariant env I where
  mbridge _ hs := h.congr hs rfl rfl rfl rfl
  system hc hs := h.system hc.isOvs hs

/-- Every call keeps it. -/
theorem PortInvariant.step {op : Op} (h : PortInvariant env (fun _ => True) I) (hwf : s.WF)
    (hsound : Sound s op s') (hs : I s) (hstep : step env s op = .ok s') : I s' := by
  cases op with
  | bundleSet aux settings =>
    obtain ⟨rc, hset⟩ := map_fst_eq_ok hstep
    cases settings with
    | none =>
      rw [Ofproto.bundleSet] at hset
      cases hfind : s.bundleLookup aux with
      | none =>
        simp only [hfind] at hset
        cases hset
        exact hs
      | some q =>
        simp only [hfind] at hset
        have hq := (hwf.bundleLookup_eq_some_iff.mp hfind).1
        obtain ⟨s₁, hdestroy, hret⟩ := Except.exists_of_bind_eq_ok hset
        cases hret
        exact (h.bundleDestroy hwf.toListsWF hq hs).of_ok hdestroy
    | some settings => exact (h.bundleSet hwf hsound.1 hsound.2 hs).of_ok hset
  | bundleRemove p =>
    rw [Ofproto.step] at hstep
    split at hstep
    · exact (h.bundleRemove hwf ‹_› hs).of_ok hstep
    · cases hstep
      exact hs
  | setVlan vid add => exact (h.setVlan hwf vid add hs).of_ok hstep
  | mirrorSet aux settings =>
    obtain ⟨rc, hset⟩ := map_fst_eq_ok hstep
    exact h.mirrorInvariant.mirrorSet ((mirrorSet_ensures settings).of_ok hset) hs

/-- Along a run of such calls. -/
theorem PortInvariant.reaches {C : State → Op → State → Prop}
    (h : PortInvariant env (fun _ => True) I) (hwf : s₀.WF) (hC : ∀ s op s', C s op s' → Sound s op s') (hs₀ : I s₀)
    (hreaches : Reaches env C s₀ s) : s.WF ∧ I s := by
  refine hreaches.invariant (I := fun s => s.WF ∧ I s) ⟨hwf, hs₀⟩ ?_
  rintro s op s' ⟨hwf, hs⟩ hc hstep
  have hsound := hC s op s' hc
  exact ⟨(hwf.step hsound.1 hsound.2 hstep).1, h.step hwf hsound hs hstep⟩

/-- A property of the ports one by one. -/
theorem PortInvariant.of_port {R : OfpPort → SimProviderOfport → Prop}
    (hdetach : ∀ p port, R p port → R p { port with bundle := none, iptableRulesAdded := false })
    (hattach : ∀ p port q, T q → R p port → R p { port with bundle := some q })
    (hblock : ∀ p port, port.bundle ≠ none → R p port → R p { port with iptableRulesAdded := true }) :
    PortInvariant env T fun s => ∀ p ∈ s.ports, R p (s.port p) := by
  have hupdate : ∀ (s s' : State) (p : OfpPort) (port : SimProviderOfport), p ∈ s.ports →
      s'.ports = s.ports → s'.port = Function.update s.port p port →
      (R p (s.port p) → R p port) → (∀ p ∈ s.ports, R p (s.port p)) → ∀ p ∈ s'.ports, R p (s'.port p) := by
    intro s s' p port hp hports hport hself h p' hp'
    rw [hport]
    by_cases hpp : p' = p
    · rw [hpp, Function.update_self]
      exact hself (h p hp)
    · rw [Function.update_of_ne hpp]
      exact h p' (hports ▸ hp')
  refine ⟨?_, fun _ h => h, ?_, ?_, ?_⟩
  · intro s s' h hports hport _ _
    rw [hports, hport]
    exact h
  · exact fun hp _ h => hupdate _ _ _ _ hp rfl rfl (hdetach _ _) h
  · exact fun hT hp _ h => hupdate _ _ _ _ hp rfl rfl (hattach _ _ _ hT) h
  · intro s p hp hb _ h
    rw [blockPort]
    split
    · exact h
    · exact hupdate _ _ _ _ hp rfl rfl (hblock _ _ hb) h

end PortInvariant

end ContainerPlugin.Ofproto
