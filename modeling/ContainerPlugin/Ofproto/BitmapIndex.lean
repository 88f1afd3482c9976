import ContainerPlugin.Ofproto.Teardown

/-!
# The indices of the bitmaps

`bundle->vlan` is `-1` for a bundle without a tag, and it is the index at which `vlan_intf_bmp` is
changed when a bundle that routes a VLAN is set or destroyed. The loops over trunks stay between 1
and 4094 by themselves. Nothing is assumed of the states here but what the calls did to the VLANs of
the bundles: lists may be corrupt and ports may point to bundles that are gone.
-/

namespace ContainerPlugin.Ofproto

/-- A call on bundles or VLANs whose VLAN is one that the client has: `-1` stands for no tag. -/
def Op.InRange : Op → Prop
  | .bundleSet _ none => True
  | .bundleSet _ (some settings) => -1 ≤ settings.vlan ∧ settings.vlan < vlanBitmapSize
  | .bundleRemove _ => True
  | .setVlan vid _ => 0 ≤ vid ∧ vid < vlanBitmapSize
  | .mirrorSet .. => False

instance (op : Op) : Decidable op.InRange :=
  match op with
  | .bundleSet _ none | .bundleRemove _ => inferInstanceAs (Decidable True)
  | .bundleSet _ (some settings) =>
    inferInstanceAs (Decidable (-1 ≤ settings.vlan ∧ settings.vlan < vlanBitmapSize))
  | .setVlan vid _ => inferInstanceAs (Decidable (0 ≤ vid ∧ vid < vlanBitmapSize))
  | .mirrorSet .. => inferInstanceAs (Decidable False)

/-- `bundle_set` comes to the settings of the bundle: it is not torn down, it has ports, and it is
not the bridge's own. -/
def State.Applies (s : State) (aux : Ptr) (settings : OfprotoBundleSettings) : Prop :=
  NoTeardown s (.bundleSet aux (some settings)) ∧
    ((∃ p ∈ settings.slaves, p ∈ s.ports) ∨ ¬ s.WF) ∧
    ∀ q ∈ s.bundleLookup aux, (s.bundle q).isBridgeBundle = false

/-- A bundle that begins to route, and one that keeps the mark of having done so, gets a VLAN that is
an index. -/
def State.StoresIndex (s : State) : Op → Prop
  | .bundleSet aux (some settings) => s.Applies aux settings →
      (s.Routes settings → settings.vlan ≠ -1) ∧
      (s.Configures settings → ∀ q ∈ s.bundleLookup aux, (s.bundle q).isVlanRoutingEnabled = true →
        0 < settings.vlan ∧ settings.vlan < 4095)
  | _ => True

/-- The VLAN of every bundle can be used as an index where it is. -/
def State.Indexed (s : State) : Prop :=
  ∀ q ∈ s.bundles, (s.bundle q).vlan < vlanBitmapSize ∧
    ((s.bundle q).isVlanRoutingEnabled = true → 0 ≤ (s.bundle q).vlan)

/-- From `s` to `s'` bundles are freed and others lose their marks. -/
structure State.Loses (s s' : State) : Prop where
  name : s'.name = s.name
  vrf : s'.vrf = s.vrf
  ports : s'.ports = s.ports
  type : ∀ p, (s'.port p).type = (s.port p).type
  sub : s'.bundles ⊆ s.bundles
  bundle : ∀ q, s'.bundle q = { s.bundle q with
    isAddedToSimOvs := (s'.bundle q).isAddedToSimOvs
    isVlanRoutingEnabled := (s'.bundle q).isVlanRoutingEnabled }
  routing : ∀ q, (s'.bundle q).isVlanRoutingEnabled = true →
    (s.bundle q).isVlanRoutingEnabled = true

section Loses

variable {env : Env} {s s' s'' : State} {q : Ptr} {p : OfpPort}

theorem State.Loses.refl (s : State) : s.Loses s :=
  ⟨rfl, rfl, rfl, fun _ => rfl, List.Subset.refl _, fun _ => rfl, fun _ => id⟩

theorem State.Loses.trans (h : s.Loses s') (h' : s'.Loses s'') : s.Loses s'' where
  name := h'.name.trans h.name
  vrf := h'.vrf.trans h.vrf
  ports := h'.ports.trans h.ports
  type p := (h'.type p).trans (h.type p)
  sub := List.Subset.trans h'.sub h.sub
  bundle q := by
    rw [h'.bundle q, h.bundle q]
  routing q hq := h.routing q (h'.routing q hq)

theorem State.Loses.vlan (h : s.Loses s') (q : Ptr) : (s'.bundle q).vlan = (s.bundle q).vlan := by
  rw [h.bundle q]

theorem State.Loses.indexed (h : s.Loses s') (hs : s.Indexed) : s'.Indexed := by
  intro q hq
  rw [h.vlan q]
  exact (hs q (h.sub hq)).imp_right fun hindex hrouting => hindex (h.routing q hrouting)

/-- Updating one bundle in its marks, and the world. -/
theorem State.Loses.of_update {b : Ofbundle} {bmp : VlanBitmap} {w : World}
    (hb : b = { s.bundle q with
      isAddedToSimOvs := b.isAddedToSimOvs
      isVlanRoutingEnabled := b.isVlanRoutingEnabled })
    (hrouting : b.isVlanRoutingEnabled = true → (s.bundle q).isVlanRoutingEnabled = true) :
    s.Loses { s with bundle := Function.update s.bundle q b, vlanIntfBmp := bmp, world := w } := by
  refine ⟨rfl, rfl, rfl, fun _ => rfl, List.Subset.refl _, fun q' => ?_, fun q' => ?_⟩
  · by_cases hqq : q' = q
    · subst hqq
      simpa using hb
    · simp [hqq]
  · by_cases hqq : q' = q
    · subst hqq
      simpa using hrouting
    · simp [hqq]

/-! ## Faults that have to do with texts and lists -/

theorem appendAsserted_overflow (text piece : String) :
    (appendAsserted text piece).Ensures (· = .cmdOverflow) fun _ => True := by
  simp only [appendAsserted, appendText]
  split
  · rw [Except.ok_bind]
    split
    · trivial
    · rfl
  · rfl

theorem foldlM_appendAsserted_overflow (text : String) (pieces : List String) :
    (pieces.foldlM appendAsserted text).Ensures (· = .cmdOverflow) fun _ => True :=
  Except.Ensures.foldlM (I := fun _ _ => True) (fun _ _ _ _ => appendAsserted_overflow _ _) trivial

theorem State.bundlePorts_ensures (s : State) (q : Ptr) :
    (s.bundlePorts q).Ensures (fun e => e = .useAfterFree ∨ e = .listCorrupt) fun ps =>
      q ∈ s.bundles ∧ ∀ p ∈ ps, p ∈ s.ports := by
  have hmap : ∀ nodes : List ListNode, (nodes.mapM s.portOfNode).Ensures
      (fun e => e = .useAfterFree ∨ e = .listCorrupt) fun ps => ∀ p ∈ ps, p ∈ s.ports := by
    intro nodes
    induction nodes with
    | nil => exact fun _ hp => (nomatch hp)
    | cons n nodes ih =>
      rw [List.mapM_cons]
      refine ((s.portOfNode_ensures n).monoError fun _ => .inr).bind fun p hp => ?_
      exact ih.bind fun ps hps => List.forall_mem_cons.mpr ⟨hp, hps⟩
  refine ((s.derefBundle_ensures q).monoError fun _ => .inl).bind fun _ hq => ?_
  split
  · exact (hmap _).mono fun _ hps => ⟨hq.1, hps⟩
  · exact .inr rfl

/-! ## `bundle_destroy` and `bundle_remove` -/

theorem simBridgeVlanRoutingUpdate_index (s : State) {vlan : ℤ} (add : Bool) (hlo : 0 ≤ vlan)
    (hhi : vlan < vlanBitmapSize) :
    (simBridgeVlanRoutingUpdate env s vlan add).Ensures (· ≠ .bitmapIndex) fun _ => True := by
  rw [simBridgeVlanRoutingUpdate, bitmapIsSet, if_pos ⟨hlo, hhi⟩, Except.ok_bind]
  split
  · trivial
  · refine ((foldlM_appendAsserted_overflow _ _).monoError fun _ he => by simp [he]).bind ?_
    intro text _
    refine Except.Ensures.bind (Q := fun _ => True) ?_ fun _ _ => trivial
    split
    · rw [appendText]
      split
      · trivial
      · exact Except.ensures_error.mpr (by simp)
    · trivial

theorem stopVlanRouting_loses (hq : (s.bundle q).vlan < vlanBitmapSize)
    (hrouting : (s.bundle q).isVlanRoutingEnabled = true → 0 ≤ (s.bundle q).vlan) :
    (stopVlanRouting env s q).Ensures (· ≠ .bitmapIndex) s.Loses := by
  have hindex : (stopVlanRouting env s q).Ensures (· ≠ .bitmapIndex) fun _ => True := by
    rw [stopVlanRouting]
    split
    · rename_i hrouted
      exact (simBridgeVlanRoutingUpdate_index s false (hrouting hrouted) hq).bind fun _ _ => trivial
    · trivial
  refine (hindex.and (stopVlanRouting_ensures s q)).mono ?_
  rintro _ ⟨-, w, rfl, -⟩
  exact .of_update rfl (absurd · Bool.false_ne_true)

theorem detachPort_loses (s : State) (p : OfpPort) : s.Loses (detachPort env s p) := by
  refine ⟨rfl, rfl, rfl, fun p' => ?_, List.Subset.refl _, fun _ => rfl, fun _ => id⟩
  by_cases hpp : p' = p
  · subst hpp
    simp [detachPort]
  · simp [detachPort, hpp]

theorem bundleDelPort_loses (s : State) (p : OfpPort) :
    (bundleDelPort env s p).Ensures (· ≠ .bitmapIndex) s.Loses := by
  rw [bundleDelPort]
  split
  · exact Except.ensures_error.mpr (by simp)
  · refine ((s.derefBundle_ensures _).monoError fun _ he => by simp [he]).bind fun _ _ => ?_
    exact detachPort_loses s p

/-- The VLAN of the bundle is only an index if it has the mark. -/
theorem bundleDestroy_loses (hs : s.Indexed) (q : Ptr) :
    (bundleDestroy env s q).Ensures (· ≠ .bitmapIndex) s.Loses := by
  refine ((s.derefBundle_ensures q).monoError fun _ he => by simp [he]).bind fun _ ⟨hq, _⟩ => ?_
  have hunregistered : s.Loses { s with mbridge := s.mbridge.unregisterBundle q } :=
    ⟨rfl, rfl, rfl, fun _ => rfl, List.Subset.refl _, fun _ => rfl, fun _ => id⟩
  obtain ⟨w, hdel, -⟩ :=
    delFromSimOvs_spec env { s with mbridge := s.mbridge.unregisterBundle q } q
  have hdeleted : s.Loses
      (delFromSimOvs env { s with mbridge := s.mbridge.unregisterBundle q } q) := by
    rw [hdel]
    exact hunregistered.trans (.of_update rfl id)
  obtain ⟨hvlan, hrouting⟩ := hdeleted.indexed hs q (by rw [hdel]; exact hq)
  refine (stopVlanRouting_loses hvlan hrouting).bind fun s₃ hs₃ => ?_
  have hstopped : s.Loses s₃ := hdeleted.trans hs₃
  refine (State.forEachPortSafe_keeps (I := s.Loses) (by simp) (by simp) ?_ hstopped).bind ?_
  · exact fun s' p hs' => (bundleDelPort_loses s' p).mono fun _ => hs'.trans
  · intro s₄ hs₄
    exact { hs₄ with sub := List.Subset.trans List.erase_subset hs₄.sub }

theorem bundleRemove_loses (hs : s.Indexed) (p : OfpPort) :
    (bundleRemove env s p).Ensures (· ≠ .bitmapIndex) s.Loses := by
  rw [bundleRemove]
  split
  · exact .refl s
  · rename_i q _
    refine ((s.derefBundle_ensures q).monoError fun _ he => by simp [he]).bind fun b _ => ?_
    split
    · refine (bundleDelPort_loses s p).bind fun s₁ hs₁ => ?_
      exact (bundleDestroy_loses (hs₁.indexed hs) q).mono fun _ => hs₁.trans
    · exact .refl s

/-! ## The ports of a bundle -/

theorem attachPort_loses (s : State) (q : Ptr) (p : OfpPort) : s.Loses (attachPort s q p) := by
  refine ⟨rfl, rfl, rfl, fun p' => ?_, List.Subset.refl _, fun _ => rfl, fun _ => id⟩
  by_cases hpp : p' = p
  · subst hpp
    simp [attachPort]
  · simp [attachPort, hpp]

theorem addSlaves_loses (hs : s.Indexed) (slaves : List OfpPort) :
    (addSlaves env s q slaves).Ensures (· ≠ .bitmapIndex) fun r => s.Loses r.1 := by
  let I : List OfpPort → State × Bool → Prop := fun _ r => s.Loses r.1
  refine addSlaves_rule (I := I) (fun p todo r hr => ?_) (State.Loses.refl s)
  refine ((r.1.derefBundle_ensures q).monoError fun _ he => by simp [he]).bind fun _ _ => ?_
  split
  · exact hr
  · split
    · exact hr
    · refine (bundleRemove_loses (hr.indexed hs) p).bind fun s₁ hs₁ => ?_
      refine ((s₁.derefBundle_ensures q).monoError fun _ he => by simp [he]).bind fun _ _ => ?_
      exact (hr.trans hs₁).trans (attachPort_loses s₁ q p)

theorem updatePorts_loses (hs : s.Indexed) (slaves : List OfpPort) :
    (updatePorts env s q slaves).Ensures (· ≠ .bitmapIndex) s.Loses := by
  refine (addSlaves_loses hs slaves).bind fun r hr => ?_
  refine Except.Ensures.bind (Q := fun _ => True) ?_ fun same _ => ?_
  · split
    · refine ((r.1.bundlePorts_ensures q).monoError ?_).bind fun _ _ => trivial
      exact fun _ he => by rcases he with rfl | rfl <;> simp
    · trivial
  split
  · exact hr
  · refine State.forEachPortSafe_keeps (I := s.Loses) (by simp) (by simp) (fun s' p hs' => ?_) hr
    split
    · exact hs'
    · exact (bundleDelPort_loses s' p).mono fun _ => hs'.trans

/-! ## `bundle_configure` -/

theorem configurePort_loses (hq : (s.bundle q).vlan < vlanBitmapSize) :
    (configurePort env s q).Ensures (· ≠ .bitmapIndex) s.Loses := by
  have hindex : (configurePort env s q).Ensures (· ≠ .bitmapIndex) fun _ => True := by
    rw [configurePort, configureColumns_eq_foldlM fun _ => hq, bind_assoc]
    refine ((foldlM_appendAsserted_overflow _ _).monoError fun _ he => by simp [he]).bind ?_
    intro text _
    rw [Except.ok_bind]
    split
    · trivial
    · trivial
  refine (hindex.and (configurePort_ensures s q)).mono ?_
  rintro _ ⟨-, added, w, rfl, -⟩
  exact .of_update rfl id

theorem blockPorts_loses (ps : List OfpPort) (s : State) :
    s.Loses (ps.foldl (blockPort env) s) := by
  induction ps generalizing s with
  | nil => exact .refl s
  | cons p ps ih =>
    refine State.Loses.trans ?_ (ih _)
    rw [blockPort]
    split
    · exact .refl s
    · refine ⟨rfl, rfl, rfl, fun p' => ?_, List.Subset.refl _, fun _ => rfl, fun _ => id⟩
      by_cases hpp : p' = p
      · subst hpp
        simp
      · simp [hpp]

theorem bundleConfigure_loses (hs : s.Indexed) (q : Ptr) :
    (bundleConfigure env s q).Ensures (· ≠ .bitmapIndex) s.Loses := by
  refine ((s.derefBundle_ensures q).monoError fun _ he => by simp [he]).bind fun _ ⟨hq, _⟩ => ?_
  obtain ⟨w₁, hs₁, -⟩ := delFromSimOvs_spec env s q
  have hdeleted : s.Loses (delFromSimOvs env s q) := by
    rw [hs₁]
    exact .of_update rfl id
  have hvlan : ((delFromSimOvs env s q).bundle q).vlan < vlanBitmapSize := by
    rw [hdeleted.vlan q]
    exact (hs q hq).1
  dsimp only
  split
  · exact hdeleted
  · refine ((State.bundlePorts_ensures _ q).monoError ?_).bind fun ps _ => ?_
    · exact fun _ he => by rcases he with rfl | rfl <;> simp
    split
    · exact hdeleted
    · obtain ⟨w₂, hs₂, -⟩ := delMembersFromSimOvs_spec env (delFromSimOvs env s q) ps
      have hmembers : s.Loses (delMembersFromSimOvs env (delFromSimOvs env s q) ps) := by
        rw [hs₂]
        exact hdeleted.trans ⟨rfl, rfl, rfl, fun _ => rfl, List.Subset.refl _, fun _ => rfl,
          fun _ => id⟩
      refine (configurePort_loses (by rw [hs₂]; exact hvlan)).bind fun s₃ hs₃ => ?_
      exact (hmembers.trans hs₃).trans (blockPorts_loses ps s₃)

theorem setVlan_loses (hs : s.Indexed) {vid : ℤ} (add : Bool) (hlo : 0 ≤ vid)
    (hhi : vid < vlanBitmapSize) :
    (setVlan env s vid add).Ensures (· ≠ .bitmapIndex) s.Loses := by
  rw [setVlan, bitmapIsSet, if_pos ⟨hlo, hhi⟩, Except.ok_bind]
  have hbmp : s.Loses { s with vlansBmp := bitmapSet s.vlansBmp vid add } :=
    ⟨rfl, rfl, rfl, fun _ => rfl, List.Subset.refl _, fun _ => rfl, fun _ => id⟩
  split
  · exact .refl s
  dsimp only
  split
  · exact hbmp
  · let I : List Ptr → State → Prop := fun _ s' => s.Loses s'
    refine Except.Ensures.foldlM (I := I) (fun q qs s' hs' => ?_) hbmp
    refine ((s'.derefBundle_ensures q).monoError fun _ he => by simp [he]).bind fun b _ => ?_
    split
    · exact hs'
    · exact (bundleConfigure_loses (hs'.indexed hs) q).mono fun _ => hs'.trans

end Loses

/-! ## `bundle_set` -/

section Set

variable {env : Env} {s s₁ s' : State} {aux q : Ptr} {settings : OfprotoBundleSettings}

theorem Opened.indexed (h : Opened env aux settings q s s₁) (hs : s.Indexed) : s₁.Indexed := by
  intro q' hq'
  by_cases hqq : q' = q
  · subst hqq
    rcases h.found with ⟨hfind, -, -, hbundle⟩ | ⟨-, -, -, -, hbundle⟩
    · rw [hbundle]
      exact hs q' (List.mem_of_find?_eq_some hfind)
    · rw [hbundle]
      exact ⟨show (-1 : ℤ) < 4096 by decide, fun hrouting => (nomatch hrouting)⟩
  · rw [h.bundle_ne q' hqq]
    exact hs q' ((h.mem_iff hqq).mp hq')

/-- A bundle with the mark has had it before. -/
theorem Opened.routed (h : Opened env aux settings q s s₁)
    (hrouting : (s₁.bundle q).isVlanRoutingEnabled = true) :
    s.bundleLookup aux = some q ∧ (s.bundle q).isVlanRoutingEnabled = true := by
  rcases h.found with ⟨hfind, -, -, hbundle⟩ | ⟨-, -, -, -, hbundle⟩
  · rw [hbundle] at hrouting
    exact ⟨hfind, hrouting⟩
  · rw [hbundle] at hrouting
    cases hrouting

/-- What the settings do to the bundle depends on the ports and the names. -/
theorem State.routes_congr (hname : s'.name = s.name) (hvrf : s'.vrf = s.vrf)
    (hports : s'.ports = s.ports) (htype : ∀ p, (s'.port p).type = (s.port p).type) :
    (s'.Routes settings ↔ s.Routes settings) ∧ (s'.Configures settings ↔ s.Configures settings) := by
  have hinternal := State.isInternal_congr settings.slaves hports htype
  simp only [State.Configures, State.Routes, hinternal, hname, hvrf, and_self]

theorem State.Indexed.modifyBundle (hs : s.Indexed) {f : Ofbundle → Ofbundle}
    (hf : (f (s.bundle q)).vlan < vlanBitmapSize ∧
      ((f (s.bundle q)).isVlanRoutingEnabled = true → 0 ≤ (f (s.bundle q)).vlan)) :
    (s.modifyBundle q f).Indexed := by
  intro q' hq'
  by_cases hqq : q' = q
  · subst hqq
    simpa [State.modifyBundle] using hf
  · simpa [State.modifyBundle, hqq] using hs q' hq'

/-- The settings are applied to a bundle that is named by them. -/
theorem bundleApply_indexed (hs : s.Indexed) (hq : q ∈ s.bundles)
    (hname : (s.bundle q).name = settings.name) (hlo : -1 ≤ settings.vlan)
    (hhi : settings.vlan < vlanBitmapSize)
    (hsafe : (s.bundle q).isBridgeBundle = false → (s.Routes settings → settings.vlan ≠ -1) ∧
      (s.Configures settings → (s.bundle q).isVlanRoutingEnabled = true →
        0 < settings.vlan ∧ settings.vlan < 4095)) :
    (bundleApply env s q settings).Ensures (· ≠ .bitmapIndex) State.Indexed := by
  refine bundleApply_rule hq hname ?_ ?_ ?_ ?_
  · exact fun _ => hs
  · intro sflow hbridge hroutes
    have hvlan : settings.vlan ≠ -1 := (hsafe hbridge).1 hroutes
    have hindex : (0 : ℤ) ≤ settings.vlan := by omega
    refine ((simBridgeVlanRoutingUpdate_index _ true hindex hhi).and
      (simBridgeVlanRoutingUpdate_ensures _ settings.vlan true)).mono ?_
    rintro _ ⟨-, bmp, w, rfl, -⟩
    have hsflow : (s.modifyBundle q fun b => { b with isSflowEnabled := sflow }).Indexed :=
      hs.modifyBundle (hs q hq)
    refine State.Indexed.modifyBundle ?_ ⟨hhi, fun _ => hindex⟩
    exact hsflow
  · intro sflow bridge _ _ _
    exact hs.modifyBundle (hs q hq)
  · -- the VLAN settings are stored, and the mark stays as it was
    intro sflow hbridge hconf
    have hstored : (s.modifyBundle q fun b =>
        ({ b with isSflowEnabled := sflow } : Ofbundle).withVlans settings).Indexed := by
      refine hs.modifyBundle ⟨Ofbundle.withVlans_vlan_lt _ settings, fun hrouted => ?_⟩
      have hvlan := (hsafe hbridge).2 hconf hrouted
      rw [Ofbundle.withVlans, if_pos hvlan]
      exact hvlan.1.le
    exact (bundleConfigure_loses hstored q).mono fun _ hloses => hloses.indexed hstored

/-- In a well-formed state a bundle has no port if none of its slaves exists. -/
theorem updatePorts_absent (h : s.WF) (hq : q ∈ s.bundles) {slaves : List OfpPort}
    (habsent : ∀ p ∈ slaves, p ∉ s.ports) :
    (updatePorts env s q slaves).Ensures (fun _ => True)
      fun s' => ∀ ps, s'.bundlePorts q = .ok ps → ps = [] := by
  have hlag : NoLagClaim s q slaves := fun p hp hmem => absurd hmem (habsent p hp)
  refine ((updatePorts_ensures h hq hlag).monoError fun _ _ => trivial).mono fun s' hs' ps hps => ?_
  obtain ⟨ps', hps', hmembers⟩ := hs'.wf.bundlePorts hs'.live
  rw [hps] at hps'
  obtain rfl := Except.ok.inj hps'
  refine Decidable.byContradiction fun hne => ?_
  obtain ⟨p, hp, hmem⟩ := hs'.nonempty ps hmembers hne
  exact habsent p hp hmem

/-- A bundle that is torn down is destroyed, and the next thing is to read it. -/
theorem bundleSet_teardown_index (hs : s.Indexed) (hnodup : s.bundles.Nodup)
    (hfind : s.bundleLookup aux = some q) (hhandle : (s.bundle q).bondHwHandle ≠ -1)
    (hexist : settings.hwBondShouldExist = false) :
    (bundleSet env s aux (some settings)).Ensures (· ≠ .bitmapIndex) fun _ => False := by
  rw [bundleSet_teardown hfind hhandle hexist]
  have hrenamed : (s.renamed q settings).Indexed :=
    hs.modifyBundle (hs q (List.mem_of_find?_eq_some hfind))
  refine ((bundleDestroy_loses hrenamed q).and (bundleDestroy_bundles _ q)).bind ?_
  rintro s₁ ⟨-, hbundles⟩
  have hgone : q ∉ s₁.bundles := by
    rw [hbundles]
    exact List.Nodup.not_mem_erase hnodup
  rw [updatePorts_of_freed hgone]
  exact Except.ensures_error.mpr (by simp)

/-- What the condition says of the bundle when its ports are updated. -/
theorem State.StoresIndex.applied (h : s.StoresIndex (.bundleSet aux (some settings)))
    (hteardown : NoTeardown s (.bundleSet aux (some settings)))
    (hslaves : (∃ p ∈ settings.slaves, p ∈ s.ports) ∨ ¬ s.WF)
    (hopened : Opened env aux settings q s s₁) (hloses : s₁.Loses s')
    (hbridge : (s'.bundle q).isBridgeBundle = false) :
    (s'.Routes settings → settings.vlan ≠ -1) ∧
      (s'.Configures settings → (s'.bundle q).isVlanRoutingEnabled = true →
        0 < settings.vlan ∧ settings.vlan < 4095) := by
  obtain ⟨hroutes, hconf⟩ : (s'.Routes settings ↔ s.Routes settings) ∧
      (s'.Configures settings ↔ s.Configures settings) := by
    refine State.routes_congr (hloses.name.trans hopened.name)
      (hloses.vrf.trans hopened.frame.vrf) (hloses.ports.trans hopened.frame.ports) ?_
    intro p
    rw [hloses.type p, hopened.frame.port]
  have hbridge₁ : (s₁.bundle q).isBridgeBundle = false := by
    rw [hloses.bundle q] at hbridge
    exact hbridge
  obtain ⟨hvlan, hkeeps⟩ := h ⟨hteardown, hslaves, hopened.isBridgeBundle.mp hbridge₁⟩
  refine ⟨fun hr => hvlan (hroutes.mp hr), fun hc hrouted => ?_⟩
  obtain ⟨hfind, hrouted'⟩ := hopened.routed (hloses.routing q hrouted)
  exact hkeeps (hconf.mp hc) q hfind hrouted'

theorem bundleSet_indexed (hs : s.Indexed) (hnodup : s.bundles.Nodup)
    (hrange : Op.InRange (.bundleSet aux (some settings)))
    (hstores : s.StoresIndex (.bundleSet aux (some settings))) :
    (bundleSet env s aux (some settings)).Ensures (· ≠ .bitmapIndex) fun r => r.1.Indexed := by
  by_cases hteardown : NoTeardown s (.bundleSet aux (some settings))
  case neg =>
    simp only [NoTeardown, not_forall] at hteardown
    obtain ⟨q, hfind, hhandle, hexist⟩ := hteardown
    exact (bundleSet_teardown_index hs hnodup hfind hhandle
      ((Bool.not_eq_true _).mp hexist)).mono fun _ => False.elim
  obtain ⟨hlive, hopened⟩ := findOrCreateBundle_spec env s aux settings
  have hwf : s.WF → _ := fun h => (findOrCreateBundle_opened env h aux settings).1
  simp only [bundleSet]
  generalize (findOrCreateBundle env s aux).2 = q at *
  generalize (findOrCreateBundle env s aux).1.modifyBundle q (·.withSettings settings) = s₁ at *
  have hs₁ : s₁.Indexed := hopened.indexed hs
  rw [hopened.destroyLag hteardown, Except.ok_bind]
  have hports : (updatePorts env s₁ q settings.slaves).Ensures (fun _ => True) fun s₂ =>
      s.WF ∧ (∀ p ∈ settings.slaves, p ∉ s.ports) → ∀ ps, s₂.bundlePorts q = .ok ps → ps = [] := by
    by_cases habsent : s.WF ∧ ∀ p ∈ settings.slaves, p ∉ s.ports
    · have habsent' : ∀ p ∈ settings.slaves, p ∉ s₁.ports := by
        rw [hopened.frame.ports]
        exact habsent.2
      exact (updatePorts_absent (hwf habsent.1) hlive habsent').mono fun _ h _ => h
    · exact (Except.ensures_true _).mono fun _ _ h => absurd h habsent
  refine ((updatePorts_loses hs₁ settings.slaves).and hports).bind fun s₂ h₂ => ?_
  obtain ⟨hloses, hempty⟩ := h₂
  have hs₂ : s₂.Indexed := hloses.indexed hs₁
  cases hlist : s₂.bundlePorts q with
  | error e =>
    have hfault := s₂.bundlePorts_ensures q
    rw [hlist] at hfault
    rcases hfault with rfl | rfl
    · exact Except.ensures_error.mpr (by simp)
    · exact Except.ensures_error.mpr (by simp)
  | ok ps =>
    rw [Except.ok_bind]
    split
    · split
      · refine (bundleDestroy_loses hs₂ q).bind fun s₃ hs₃ => ?_
        exact hs₃.indexed hs₂
      · rename_i hne
        refine Except.Ensures.bind (Q := State.Indexed) ?_ fun s₃ hs₃ => hs₃
        have hlive₂ : q ∈ s₂.bundles := ((s₂.bundlePorts_ensures q).of_ok hlist).1
        have hname : (s₂.bundle q).name = settings.name := by
          rw [hloses.bundle q, hopened.name_eq]
        have hslaves : (∃ p ∈ settings.slaves, p ∈ s.ports) ∨ ¬ s.WF := by
          by_cases habsent : ∀ p ∈ settings.slaves, p ∉ s.ports
          · exact .inr fun h => hne (hempty ⟨h, habsent⟩ ps hlist)
          · exact .inl (by simpa using habsent)
        exact bundleApply_indexed hs₂ hlive₂ hname hrange.1 hrange.2
          (hstores.applied hteardown hslaves hopened hloses)
    · exact Except.ensures_error.mpr (by simp)

/-- One call: no index is out of range, and the VLANs stay indices. -/
theorem step_indexed {op : Op} (hs : s.Indexed) (hnodup : s.bundles.Nodup) (hrange : op.InRange)
    (hstores : s.StoresIndex op) :
    (step env s op).Ensures (· ≠ .bitmapIndex) State.Indexed := by
  cases op with
  | bundleSet aux settings =>
    have hset : (bundleSet env s aux settings).Ensures (· ≠ .bitmapIndex) fun r => r.1.Indexed := by
      cases settings with
      | none =>
        rw [bundleSet]
        split
        · exact hs
        · exact (bundleDestroy_loses hs _).bind fun s₁ hs₁ => hs₁.indexed hs
      | some settings => exact bundleSet_indexed hs hnodup hrange hstores
    exact hset.map
  | bundleRemove p =>
    rw [step]
    split
    · exact (bundleRemove_loses hs p).mono fun _ hloses => hloses.indexed hs
    · exact hs
  | setVlan vid add =>
    exact (setVlan_loses hs add hrange.1 hrange.2).mono fun _ hloses => hloses.indexed hs
  | mirrorSet => exact hrange.elim

end Set

/-- The settings of `vlan10`, which routes VLAN 10, and of an access port that takes its place. -/
private def reusedOps (vlan : ℤ) : List Op :=
  [.bundleSet 100 (some (sampleSettings "vlan10" [4] false)),
    .bundleSet 100 (some { sampleSettings "vlan10" [1] false with vlan := vlan })]

/-- The VLAN of the settings is one that is stored as it is. -/
private def isTagged : Op → Bool
  | .bundleSet _ (some settings) => 0 < settings.vlan ∧ settings.vlan < 4095
  | _ => true

end ContainerPlugin.Ofproto
