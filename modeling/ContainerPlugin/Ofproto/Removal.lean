import ContainerPlugin.Ofproto.Reconcile

/-!
# Removing a port from its bundle

`bundle_remove` looks at the bond handle of the bundle, not at the number of its ports: a LAG is left
alone, and any other bundle is destroyed. The states are those that any calls reach, also calls that
corrupt the list of another bundle, so nothing is assumed here but that the list of the bundle itself
is intact.
-/

namespace ContainerPlugin.Ofproto

/-! ## The table of bundles -/

section Table

variable {env : Env} {s s' s₀ : State} {aux q : Ptr} {p : OfpPort}

/-- Reading a bundle goes wrong only if it is gone. -/
theorem State.derefBundle_ensures (s : State) (q : Ptr) :
    (s.derefBundle q).Ensures (· = .useAfterFree) fun b => q ∈ s.bundles ∧ b = s.bundle q := by
  rw [State.derefBundle]
  split
  · exact ⟨‹_›, rfl⟩
  · rfl

theorem State.portOfNode_ensures (s : State) (n : ListNode) :
    (s.portOfNode n).Ensures (· = .listCorrupt) fun p => p ∈ s.ports := by
  cases n with
  | ports q => rfl
  | bundleNode p =>
    rw [State.portOfNode]
    split
    · assumption
    · rfl

/-- What the body keeps, the loop keeps. -/
theorem State.forEachPortSafe_keeps {E : Fault → Prop} {I : State → Prop}
    {body : State → OfpPort → Except Fault State} (hfreed : E .useAfterFree)
    (hcorrupt : E .listCorrupt) (hbody : ∀ s p, I s → (body s p).Ensures E I) (h : I s) :
    (s.forEachPortSafe q body).Ensures E I := by
  refine ((s.derefBundle_ensures q).monoError fun _ he => he ▸ hfreed).bind fun _ _ => ?_
  refine Links.forEachSafe_invariant hcorrupt (fun s n hs => ?_) h
  refine ((s.portOfNode_ensures n).monoError fun _ he => he ▸ hcorrupt).bind fun p _ => ?_
  exact hbody s p hs

/-- The tables of bundles and of mirrors are the same. -/
def State.SameTables (s s' : State) : Prop := s'.bundles = s.bundles ∧ s'.mbridge = s.mbridge

theorem State.SameTables.trans {s s' s'' : State} (h : s.SameTables s') (h' : s'.SameTables s'') :
    s.SameTables s'' := ⟨h'.1.trans h.1, h'.2.trans h.2⟩

/-- What is a matter of the tables and outlives the creation and the destruction of a bundle. -/
structure TableInvariant (env : Env) (I : State → Prop) : Prop where
  congr : ∀ {s s'}, State.SameTables s s' → I s → I s'
  create : ∀ {s} aux, I s → I (createBundle env s aux).1
  destroy : ∀ {s s'} q, s'.bundles = s.bundles.erase q →
    s'.mbridge = s.mbridge.unregisterBundle q → I s → I s'

theorem bundleDelPort_tables (s : State) (p : OfpPort) :
    (bundleDelPort env s p).Ensures (fun _ => True) s.SameTables := by
  rw [bundleDelPort]
  split
  · trivial
  · exact (Except.ensures_true (s.derefBundle _)).bind fun _ _ => ⟨rfl, rfl⟩

theorem bundleDestroy_tables (s : State) (q : Ptr) : (bundleDestroy env s q).Ensures (fun _ => True)
    fun s' => s'.bundles = s.bundles.erase q ∧ s'.mbridge = s.mbridge.unregisterBundle q := by
  refine (Except.ensures_true (s.derefBundle q)).bind fun _ _ => ?_
  refine Except.Ensures.bind (Except.Ensures.monoError (stopped_ensures s q) fun _ _ => trivial) ?_
  intro s₃ hs₃
  refine Except.Ensures.bind (State.forEachPortSafe_keeps (I := s₃.SameTables) trivial trivial
    (fun s p hs => (bundleDelPort_tables s p).mono fun _ => hs.trans) ⟨rfl, rfl⟩) fun s₄ hs₄ => ?_
  exact ⟨congrArg (·.erase q) (hs₄.1.trans hs₃.bundles), hs₄.2.trans hs₃.mbridge⟩

theorem bundleDestroy_bundles (s : State) (q : Ptr) :
    (bundleDestroy env s q).Ensures (fun _ => True) (·.bundles = s.bundles.erase q) :=
  (bundleDestroy_tables s q).mono fun _ hs' => hs'.1

theorem bundleConfigure_tables (s : State) (q : Ptr) :
    (bundleConfigure env s q).Ensures (fun _ => True) s.SameTables := by
  obtain ⟨w₁, hs₁, -, -⟩ := delFromSimOvs_spec env s q
  have hdeleted : s.SameTables (delFromSimOvs env s q) := by
    rw [hs₁]
    exact ⟨rfl, rfl⟩
  refine (Except.ensures_true (s.derefBundle q)).bind fun _ _ => ?_
  dsimp only
  split
  · exact hdeleted
  · refine (Except.ensures_true _).bind fun ps _ => ?_
    split
    · exact hdeleted
    · obtain ⟨w₂, hs₂, -, -⟩ := delMembersFromSimOvs_spec env (delFromSimOvs env s q) ps
      rw [hs₂]
      refine Except.Ensures.bind (Except.Ensures.monoError (configurePort_ensures _ q)
        fun _ _ => trivial) ?_
      rintro _ ⟨added, w₃, rfl, -, -⟩
      have hblock : ∀ (ps : List OfpPort) (s₃ : State), s.SameTables s₃ →
          s.SameTables (ps.foldl (blockPort env) s₃) := by
        intro ps
        induction ps with
        | nil => exact fun _ hs₃ => hs₃
        | cons p ps ih =>
          intro s₃ hs₃
          refine ih _ ?_
          rw [blockPort]
          split
          · exact hs₃
          · exact hs₃
      exact hblock ps _ hdeleted

theorem bundleApply_tables (s : State) (q : Ptr) (settings : OfprotoBundleSettings) :
    (bundleApply env s q settings).Ensures (fun _ => True) s.SameTables := by
  refine (Except.ensures_true (s.derefBundle q)).bind fun b _ => ?_
  split
  · exact ⟨rfl, rfl⟩
  dsimp only
  split
  · refine Except.Ensures.bind (Except.Ensures.monoError (simBridgeVlanRoutingUpdate_ensures _ _ _)
      fun _ _ => trivial) ?_
    rintro _ ⟨_, _, rfl, -⟩
    exact ⟨rfl, rfl⟩
  split
  · exact ⟨rfl, rfl⟩
  split
  · exact ⟨rfl, rfl⟩
  split
  · exact ⟨rfl, rfl⟩
  · exact bundleConfigure_tables _ q

theorem setVlan_tables (s : State) (vid : ℤ) (add : Bool) :
    (setVlan env s vid add).Ensures (fun _ => True) s.SameTables := by
  refine (Except.ensures_true _).bind fun isSet _ => ?_
  split
  · exact ⟨rfl, rfl⟩
  dsimp only
  split
  · exact ⟨rfl, rfl⟩
  · let I : List Ptr → State → Prop := fun _ s' => s.SameTables s'
    refine Except.Ensures.foldlM (I := I) (fun q qs s' hs' => ?_) ⟨rfl, rfl⟩
    refine (Except.ensures_true (s'.derefBundle q)).bind fun b _ => ?_
    split
    · exact hs'
    · exact (bundleConfigure_tables s' q).mono fun _ => hs'.trans

section Invariant

variable {I : State → Prop}

theorem TableInvariant.bundleDestroy (h : TableInvariant env I) (hs : I s) (q : Ptr) :
    (bundleDestroy env s q).Ensures (fun _ => True) I :=
  (bundleDestroy_tables s q).mono fun _ hs' => h.destroy q hs'.1 hs'.2 hs

theorem TableInvariant.bundleRemove (h : TableInvariant env I) (hs : I s) (p : OfpPort) :
    (bundleRemove env s p).Ensures (fun _ => True) I := by
  rw [Ofproto.bundleRemove]
  split
  · exact hs
  · rename_i q hb
    refine (Except.ensures_true (s.derefBundle q)).bind fun b _ => ?_
    split
    · exact (bundleDelPort_tables s p).bind fun s₁ hs₁ => h.bundleDestroy (h.congr hs₁ hs) q
    · exact hs

theorem TableInvariant.addSlaves (h : TableInvariant env I) (hs : I s) (slaves : List OfpPort) :
    (addSlaves env s q slaves).Ensures (fun _ => True) fun r => I r.1 := by
  let J : List OfpPort → State × Bool → Prop := fun _ r => I r.1
  refine addSlaves_rule (I := J) (fun p todo r hr => ?_) hs
  refine (Except.ensures_true (r.1.derefBundle q)).bind fun _ _ => ?_
  split
  · exact hr
  · split
    · exact hr
    · refine (h.bundleRemove hr p).bind fun s' hs' => ?_
      refine (Except.ensures_true (s'.derefBundle q)).bind fun _ _ => ?_
      have hattach : s'.SameTables (attachPort s' q p) := ⟨rfl, rfl⟩
      exact h.congr hattach hs'

theorem TableInvariant.updatePorts (h : TableInvariant env I) (hs : I s) (slaves : List OfpPort) :
    (updatePorts env s q slaves).Ensures (fun _ => True) I := by
  refine (h.addSlaves hs slaves).bind fun r hr => ?_
  refine (Except.ensures_true _).bind fun same _ => ?_
  split
  · exact hr
  · refine State.forEachPortSafe_keeps trivial trivial (fun s p hs => ?_) hr
    split
    · exact hs
    · exact (bundleDelPort_tables s p).mono fun s' hs' => h.congr hs' hs

theorem TableInvariant.bundleSet (h : TableInvariant env I) (hs : I s)
    (settings : Option OfprotoBundleSettings) :
    (bundleSet env s aux settings).Ensures (fun _ => True) fun r => I r.1 := by
  cases settings with
  | none =>
    rw [Ofproto.bundleSet]
    split
    · exact hs
    · exact (h.bundleDestroy hs _).bind fun s' hs' => hs'
  | some settings =>
    have hopened : I (findOrCreateBundle env s aux).1 := by
      rw [findOrCreateBundle]
      split
      · exact hs
      · exact h.create aux hs
    simp only [Ofproto.bundleSet]
    generalize findOrCreateBundle env s aux = opened at hopened ⊢
    have hsame : opened.1.SameTables (opened.1.modifyBundle opened.2 (·.withSettings settings)) :=
      ⟨rfl, rfl⟩
    have hnamed := h.congr hsame hopened
    refine Except.Ensures.bind (Q := I) ?_ fun s₁ hs₁ => ?_
    · rw [destroyLag]
      split
      · exact h.bundleDestroy hnamed _
      · exact hnamed
    refine (h.updatePorts hs₁ settings.slaves).bind fun s₂ hs₂ => ?_
    refine (Except.ensures_true _).bind fun ps _ => ?_
    split
    · split
      · exact (h.bundleDestroy hs₂ _).bind fun s' hs' => hs'
      · exact (bundleApply_tables s₂ _ settings).bind fun s' hs' => h.congr hs' hs₂
    · trivial

/-- Every call keeps it if `mirror_set` does. -/
theorem TableInvariant.step {op : Op} (h : TableInvariant env I)
    (hmirror : ∀ aux settings rc, op = .mirrorSet aux settings →
      MirrorSet env aux s settings s' rc → I s') (hs : I s)
    (hstep : step env s op = .ok s') : I s' := by
  cases op with
  | bundleSet aux settings =>
    obtain ⟨rc, hset⟩ := map_fst_eq_ok hstep
    exact (h.bundleSet hs settings).of_ok hset
  | bundleRemove p =>
    rw [Ofproto.step] at hstep
    split at hstep
    · exact (h.bundleRemove hs p).of_ok hstep
    · cases hstep
      exact hs
  | setVlan vid add => exact h.congr ((setVlan_tables s vid add).of_ok hstep) hs
  | mirrorSet aux settings =>
    obtain ⟨rc, hset⟩ := map_fst_eq_ok hstep
    exact hmirror aux settings rc rfl ((mirrorSet_ensures settings).of_ok hset)

end Invariant

theorem nodup_tableInvariant (env : Env) : TableInvariant env fun s => s.bundles.Nodup where
  congr h hs := h.1 ▸ hs
  create _ hs := List.nodup_cons.mpr ⟨env.malloc_fresh _ _, hs⟩
  destroy q hbundles _ hs := hbundles ▸ hs.erase q

theorem step_nodup {op : Op} (hs : s.bundles.Nodup) (hstep : step env s op = .ok s') :
    s'.bundles.Nodup := by
  refine (nodup_tableInvariant env).step (fun _ _ _ _ hset => ?_) hs hstep
  rw [hset.frame.bundles]
  exact hs

/-- Every bundle is in the table once, whatever the calls. -/
theorem Reaches.nodup {C : State → Op → State → Prop} (h : Reaches env C s₀ s) (h₀ : Initial s₀) :
    s.bundles.Nodup :=
  h.invariant (I := fun s => s.bundles.Nodup) (by simp [h₀.bundles])
    fun _ _ _ hs _ hstep => step_nodup hs hstep

end Table

/-! ## `bundle_remove` -/

/-- The port is taken out of the bundle `q` with the ports `ps` and the others stay; the bundle goes
with its last port. -/
def RemovesOne (env : Env) (s : State) (p : OfpPort) (q : Ptr) (ps : List OfpPort) : Prop :=
  ∃ s', bundleRemove env s p = .ok s' ∧ (s'.port p).bundle = none ∧
    (∀ p' ∈ ps, p' ≠ p → (s'.port p').bundle = some q ∧ s'.LinkedIn p' q) ∧
    (q ∉ s'.bundles ↔ ps.length = 1)

section Remove

variable {env : Env} {s s' : State} {q : Ptr} {p : OfpPort} {ps : List OfpPort}

theorem takeOff_routedVlan_ne_none :
    takeOff s.name s.vlanIntfBmp (s.routedVlan q).toList ≠ none ↔
      ∀ vlan ∈ s.routedVlan q, UpdateFits s.name s.vlanIntfBmp vlan false := by
  cases hrouted : s.routedVlan q with
  | none => simp [takeOff]
  | some vlan => simp [takeOff]

/-- A LAG keeps its port. -/
theorem bundleRemove_of_lag (hq : q ∈ s.bundles) (hb : (s.port p).bundle = some q)
    (hlag : (s.bundle q).bondHwHandle ≠ -1) : bundleRemove env s p = .ok s := by
  have hderef : s.derefBundle q = .ok (s.bundle q) := if_pos hq
  simp only [bundleRemove, hb, hderef, Except.ok_bind, if_neg hlag]

/-- Any other bundle is destroyed, however many ports it has. -/
theorem bundleRemove_of_not_lag (hq : q ∈ s.bundles) (hb : (s.port p).bundle = some q)
    (hlag : (s.bundle q).bondHwHandle = -1) :
    bundleRemove env s p = bundleDestroy env (detachPort env s p) q := by
  have hderef : s.derefBundle q = .ok (s.bundle q) := if_pos hq
  simp only [bundleRemove, bundleDelPort, hb, hderef, Except.ok_bind, if_pos hlag]

/-- The only port of a bundle that is not a LAG. -/
theorem bundleRemove_last (hnd : s.bundles.Nodup) (hq : q ∈ s.bundles) (hps : s.Members q [p])
    (hlag : (s.bundle q).bondHwHandle = -1) :
    RemovesOne env s p q [p] ↔
      ∀ vlan ∈ s.routedVlan q, UpdateFits s.name s.vlanIntfBmp vlan false := by
  have hb : (s.port p).bundle = some q := ((hps.mem_iff p).mp (by simp)).2
  have hempty : (detachPort env s p).Members q [] :=
    State.Members.detach_self (show s.Members q ([] ++ [p]) from hps)
  have hreturns : (bundleDestroy env (detachPort env s p) q).Ensures
      (fun _ => takeOff s.name s.vlanIntfBmp (s.routedVlan q).toList = none) fun s' =>
        takeOff s.name s.vlanIntfBmp (s.routedVlan q).toList ≠ none ∧
          s'.port = (detachPort env s p).port ∧ s'.bundles = s.bundles.erase q :=
    bundleDestroy_returns_of_empty hq hempty
  rw [RemovesOne, bundleRemove_of_not_lag hq hb hlag, ← takeOff_routedVlan_ne_none]
  cases hdestroy : bundleDestroy env (detachPort env s p) q with
  | error e =>
    rw [hdestroy] at hreturns
    exact ⟨fun ⟨_, hok, _⟩ => (nomatch hok), fun hfits => absurd hreturns hfits⟩
  | ok s' =>
    rw [hdestroy] at hreturns
    obtain ⟨hfits, hport, hbundles⟩ := hreturns
    refine ⟨fun _ => hfits, fun _ => ⟨s', rfl, ?_, fun p' hp' hne => ?_, ?_⟩⟩
    · simp [hport, detachPort]
    · exact absurd (List.mem_singleton.mp hp') hne
    · rw [hbundles]
      exact iff_of_true hnd.not_mem_erase rfl

end Remove

/-- A port is removed from its bundle, and the bundle with its last port, exactly if it is the only
port of a bundle that is not a LAG and the VLAN that the bundle routes can be taken off the bridge's
trunks. -/
theorem bundle_remove_one_iff (env : Env) {s₀ s : State} (h₀ : Initial s₀)
    (h : Reaches env (fun _ _ _ => True) s₀ s) {p : OfpPort} {q : Ptr} {ps : List OfpPort}
    (hq : q ∈ s.bundles) (hps : s.Members q ps) (hp : p ∈ ps) :
    RemovesOne env s p q ps ↔ ps.length = 1 ∧ (s.bundle q).bondHwHandle = -1 ∧
      ∀ vlan ∈ s.routedVlan q, UpdateFits s.name s.vlanIntfBmp vlan false := by
  have hnd := h.nodup h₀
  have hb : (s.port p).bundle = some q := ((hps.mem_iff p).mp hp).2
  by_cases hlag : (s.bundle q).bondHwHandle = -1
  · by_cases hone : ps.length = 1
    · obtain ⟨p', rfl⟩ := List.length_eq_one_iff.mp hone
      obtain rfl := List.mem_singleton.mp hp
      simp only [hlag, List.length_singleton, true_and]
      exact bundleRemove_last hnd hq hps hlag
    · -- the bundle is destroyed with ports in it
      refine iff_of_false ?_ fun hcond => hone hcond.1
      rintro ⟨s', hok, -, -, hdestroyed⟩
      rw [bundleRemove_of_not_lag hq hb hlag] at hok
      have hbundles : s'.bundles = s.bundles.erase q :=
        (bundleDestroy_bundles (detachPort env s p) q).of_ok hok
      exact hone (hdestroyed.mp (hbundles ▸ hnd.not_mem_erase))
  · refine iff_of_false ?_ fun hcond => hlag hcond.2.1
    rintro ⟨s', hok, hnone, -⟩
    rw [bundleRemove_of_lag hq hb hlag] at hok
    obtain rfl := Except.ok.inj hok
    rw [hb] at hnone
    cases hnone

/-- A run whose calls are sound leaves the list of a bundle as it was observed. -/
theorem Reaches.members {env : Env} {s₀ s : State} (h : Reaches env Sound s₀ s) (h₀ : Initial s₀)
    {q : Ptr} {ps : List OfpPort} (hq : q ∈ s.bundles)
    (hps : (s.bundlePorts q).toOption = some ps) : s.Members q ps := by
  obtain ⟨ps', hports, hmem⟩ := (h.wf (fun _ _ _ hc => hc) h₀).bundlePorts hq
  rw [hports] at hps
  exact Option.some.inj hps ▸ hmem

/-- The only port of a bundle that routes a VLAN. -/
theorem bundle_remove_one_of_routing : ∃ s,
    run sampleEnv (sampleState false)
      [.bundleSet 100 (some (sampleSettings "vlan10" [4] false))] = .ok s ∧
    RemovesOne sampleEnv s 4 1 [4] := by
  let ops : List Op := [.bundleSet 100 (some (sampleSettings "vlan10" [4] false))]
  have hmeets : RunMeets sampleEnv Sound (sampleState false) ops := by decide +kernel
  have hobs : (run sampleEnv (sampleState false) ops).toOption.map (fun s =>
      (s.bundles, (s.bundlePorts 1).toOption, (s.bundle 1).bondHwHandle, s.routedVlan 1,
        decide (UpdateFits s.name s.vlanIntfBmp 10 false))) =
      some ([1], some [4], -1, some 10, true) := by decide +kernel
  obtain ⟨s, hrun, hreaches, hs⟩ := Reaches.of_observed hmeets hobs
  simp only [Prod.mk.injEq, decide_eq_true_eq] at hs
  obtain ⟨hbundles, hports, hhandle, hrouted, hfits⟩ := hs
  have hq : 1 ∈ s.bundles := by simp [hbundles]
  have hinit := sampleState_initial false
  have hps : s.Members 1 [4] := hreaches.members hinit hq hports
  have hany := hreaches.mono fun _ _ _ _ => trivial
  refine ⟨s, hrun, (bundle_remove_one_iff sampleEnv hinit hany hq hps (by simp)).mpr
    ⟨rfl, hhandle, ?_⟩⟩
  rw [hrouted]
  rintro vlan ⟨⟩
  exact hfits

/-- A port of a bond with two ports stays where it is. -/
theorem bundle_remove_keeps_lag_port : ¬ ∀ (env : Env) (s₀ s : State), Initial s₀ →
    Reaches env (fun _ _ _ => True) s₀ s → ∀ p q ps, q ∈ s.bundles → s.Members q ps → p ∈ ps →
      RemovesOne env s p q ps := by
  intro hall
  let ops : List Op := [.bundleSet 100 (some (sampleSettings "bond0" [1, 2] true))]
  have hmeets : RunMeets sampleEnv Sound (sampleState false) ops := by decide +kernel
  have hobs : (run sampleEnv (sampleState false) ops).toOption.map (fun s =>
      (s.bundles, (s.bundlePorts 1).toOption, (s.bundle 1).bondHwHandle)) =
      some ([1], some [1, 2], 123) := by decide +kernel
  obtain ⟨s, hrun, hreaches, hs⟩ := Reaches.of_observed hmeets hobs
  simp only [Prod.mk.injEq] at hs
  obtain ⟨hbundles, hports, hhandle⟩ := hs
  have hq : 1 ∈ s.bundles := by simp [hbundles]
  have hinit := sampleState_initial false
  have hps : s.Members 1 [1, 2] := hreaches.members hinit hq hports
  have hb : (s.port 1).bundle = some 1 := ((hps.mem_iff 1).mp (by simp)).2
  have hany := hreaches.mono fun _ _ _ _ => trivial
  obtain ⟨s', hok, hnone, -⟩ := hall sampleEnv _ s hinit hany 1 1 [1, 2] hq hps (by simp)
  rw [bundleRemove_of_lag hq hb (by simp [hhandle])] at hok
  obtain rfl := Except.ok.inj hok
  rw [hb] at hnone
  cases hnone

end ContainerPlugin.Ofproto
