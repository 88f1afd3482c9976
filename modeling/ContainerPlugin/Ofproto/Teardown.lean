import ContainerPlugin.Ofproto.Removal
import ContainerPlugin.Ofproto.Returns

/-!
# Tearing a bond down

`bundle_set` destroys a bundle that holds a bond handle when `hw_bond_should_exist` is no longer set,
and then goes on to update the ports of the bundle that it has freed. Whatever the slaves are, the
first thing it does is to read that bundle.
-/

namespace ContainerPlugin.Ofproto

variable {env : Env} {s s₀ : State} {aux q : Ptr} {settings : OfprotoBundleSettings}

/-- The bundle of `aux` with its new name, as `bundle_set` hands it to `bundle_destroy`. -/
def State.renamed (s : State) (q : Ptr) (settings : OfprotoBundleSettings) : State :=
  s.modifyBundle q (·.withSettings settings)

/-- Once `bundle_destroy` has removed the bundle, the call does not use it, and what it leaves when it
returns is that the bundles of all ports are in the table. -/
def TeardownSafe (env : Env) (s : State) (aux q : Ptr) (settings : OfprotoBundleSettings) : Prop :=
  ∀ s₁, bundleDestroy env (s.renamed q settings) q = .ok s₁ →
    bundleSet env s aux (some settings) ≠ .error .useAfterFree ∧
    ∀ s' rc, bundleSet env s aux (some settings) = .ok (s', rc) →
      ∀ p ∈ s'.ports, ∀ q', (s'.port p).bundle = some q' → q' ∈ s'.bundles

/-- The ports of a bundle cannot be updated once it is gone. -/
theorem updatePorts_of_freed (hq : q ∉ s.bundles) (slaves : List OfpPort) :
    updatePorts env s q slaves = .error .useAfterFree := by
  have hderef : s.derefBundle q = .error .useAfterFree := if_neg hq
  cases slaves with
  | nil =>
    -- nothing is added, and the size of the list is read
    have hports : s.bundlePorts q = .error .useAfterFree := by
      rw [State.bundlePorts, hderef]
      rfl
    show delOtherPorts env s q [] true = _
    rw [delOtherPorts, if_pos rfl, hports]
    rfl
  | cons p slaves =>
    simp only [updatePorts, addSlaves, List.foldlM_cons, bundleAddPort, hderef]
    rfl

theorem bundleSet_teardown (hlookup : s.bundleLookup aux = some q)
    (hhandle : (s.bundle q).bondHwHandle ≠ -1) (hexist : settings.hwBondShouldExist = false) :
    bundleSet env s aux (some settings) = bundleDestroy env (s.renamed q settings) q >>= fun s₁ =>
      updatePorts env s₁ q settings.slaves >>= fun s₂ =>
        s₂.bundlePorts q >>= fun members =>
          if members.length ≤ settings.slaves.length then
            if members = [] then bundleDestroy env s₂ q >>= fun s₃ => .ok (s₃, .einval)
            else bundleApply env s₂ q settings >>= fun s₃ => .ok (s₃, .ok)
          else .error .assertFailed := by
  have hdestroy : destroyLag env (s.renamed q settings) q settings =
      bundleDestroy env (s.renamed q settings) q := by
    refine if_pos ⟨?_, hexist⟩
    simp [State.renamed, State.modifyBundle, Ofbundle.withSettings, hhandle]
  simp only [bundleSet, findOrCreateBundle, hlookup]
  rw [← hdestroy]
  rfl

/-- If `bundle_destroy` gets to its end, the call uses the freed bundle. -/
theorem bundleSet_teardown_of_destroyed (hnodup : s.bundles.Nodup)
    (hlookup : s.bundleLookup aux = some q) (hhandle : (s.bundle q).bondHwHandle ≠ -1)
    (hexist : settings.hwBondShouldExist = false) {s₁ : State}
    (hdestroy : bundleDestroy env (s.renamed q settings) q = .ok s₁) :
    bundleSet env s aux (some settings) = .error .useAfterFree := by
  have hbundles : s₁.bundles = (s.renamed q settings).bundles.erase q :=
    (bundleDestroy_bundles (s.renamed q settings) q).of_ok hdestroy
  have hgone : q ∉ s₁.bundles := by
    rw [hbundles]
    exact List.Nodup.not_mem_erase hnodup
  rw [bundleSet_teardown hlookup hhandle hexist, hdestroy, Except.ok_bind,
    updatePorts_of_freed hgone]
  rfl

theorem State.WF.renamed (h : s.WF) (q : Ptr) (settings : OfprotoBundleSettings) :
    (s.renamed q settings).WF := h.modifyBundle fun _ => rfl

theorem routedVlan_renamed (s : State) (q : Ptr) (settings : OfprotoBundleSettings) :
    (s.renamed q settings).routedVlan q = s.routedVlan q := by
  simp [State.routedVlan, State.renamed, State.modifyBundle, Ofbundle.withSettings]

/-- In a well-formed state `bundle_destroy` gets to its end unless the VLAN of the bundle cannot be
taken off the trunks of the bridge. -/
theorem State.WF.bundleDestroy_renamed_iff (h : s.WF) (hq : q ∈ s.bundles) :
    (∀ s₁, Ofproto.bundleDestroy env (s.renamed q settings) q ≠ .ok s₁) ↔
      takeOff s.name s.vlanIntfBmp (s.routedVlan q).toList = none := by
  have hreturns : (Ofproto.bundleDestroy env (s.renamed q settings) q).Ensures _ _ :=
    (h.renamed q settings).toListsWF.bundleDestroy_returns hq
  rw [routedVlan_renamed] at hreturns
  constructor
  · intro hstops
    cases hdestroy : Ofproto.bundleDestroy env (s.renamed q settings) q with
    | ok s₁ => exact absurd hdestroy (hstops s₁)
    | error e =>
      rw [hdestroy] at hreturns
      exact hreturns
  · intro hnone s₁ hdestroy
    have htaken := hreturns.of_ok hdestroy
    rw [State.renamed, State.modifyBundle] at htaken
    rw [hnone] at htaken
    cases htaken

/-- In every reachable state and for all slaves, the teardown of a bond uses the bundle that it has
destroyed, unless `bundle_destroy` itself does not get to its end. -/
theorem bond_teardown_safe_iff (env : Env) (h₀ : Initial s₀)
    (h : Reaches env (fun _ _ _ => True) s₀ s) (hlookup : s.bundleLookup aux = some q)
    (hhandle : (s.bundle q).bondHwHandle ≠ -1) (hexist : settings.hwBondShouldExist = false) :
    (TeardownSafe env s aux q settings ↔
      ∀ s₁, bundleDestroy env (s.renamed q settings) q ≠ .ok s₁) ∧
    (Reaches env Sound s₀ s →
      (TeardownSafe env s aux q settings ↔
        takeOff s.name s.vlanIntfBmp (s.routedVlan q).toList = none)) := by
  have hsafe : TeardownSafe env s aux q settings ↔
      ∀ s₁, bundleDestroy env (s.renamed q settings) q ≠ .ok s₁ := by
    constructor
    · intro hsafe s₁ hdestroy
      exact (hsafe s₁ hdestroy).1
        (bundleSet_teardown_of_destroyed (h.nodup h₀) hlookup hhandle hexist hdestroy)
    · intro hstops s₁ hdestroy
      exact absurd hdestroy (hstops s₁)
  refine ⟨hsafe, fun hsound => hsafe.trans ?_⟩
  exact (hsound.wf (fun _ _ _ hc => hc) h₀).bundleDestroy_renamed_iff
    (List.mem_of_find?_eq_some hlookup)

/-! ## A bond of two ports -/

/-- The bond is set up and then torn down with its two ports as slaves. -/
theorem bond_teardown_not_safe : ∃ s,
    run sampleEnv (sampleState false) [.bundleSet 100 (some (sampleSettings "bond0" [1, 2] true))] =
      .ok s ∧
    s.bundleLookup 100 = some 1 ∧
    ¬ TeardownSafe sampleEnv s 100 1 (sampleSettings "bond0" [1, 2] false) := by
  let ops : List Op := [.bundleSet 100 (some (sampleSettings "bond0" [1, 2] true))]
  have hmeets : RunMeets sampleEnv Sound (sampleState false) ops := by decide +kernel
  have hobs : (run sampleEnv (sampleState false) ops).toOption.map (fun s =>
      (s.bundleLookup 100, (s.bundle 1).bondHwHandle, s.routedVlan 1)) =
      some (some 1, 123, none) := by decide +kernel
  obtain ⟨s, hrun, hreaches, hs⟩ := Reaches.of_observed hmeets hobs
  simp only [Prod.mk.injEq] at hs
  obtain ⟨hlookup, hhandle, hrouted⟩ := hs
  refine ⟨s, hrun, hlookup, fun hsafe => ?_⟩
  have hexist : (sampleSettings "bond0" [1, 2] false).hwBondShouldExist = false := rfl
  have hiff := (bond_teardown_safe_iff sampleEnv (sampleState_initial false)
    (hreaches.mono fun _ _ _ _ => trivial) hlookup (by rw [hhandle]; decide) hexist).2 hreaches
  have hnone := hiff.1 hsafe
  rw [hrouted] at hnone
  cases hnone

/-- The same bond is torn down without slaves: the size of its list is read after it was freed. -/
theorem bond_teardown_uses_freed : ¬ ∀ (env : Env) (s₀ s : State) (aux q : Ptr)
    (settings : OfprotoBundleSettings), Initial s₀ → Reaches env (fun _ _ _ => True) s₀ s →
    s.bundleLookup aux = some q → (s.bundle q).bondHwHandle ≠ -1 →
    settings.hwBondShouldExist = false → TeardownSafe env s aux q settings := by
  intro hall
  let ops : List Op := [.bundleSet 100 (some (sampleSettings "bond0" [1, 2] true))]
  let settings := sampleSettings "bond0" [] false
  have hmeets : RunMeets sampleEnv (fun _ _ _ => True) (sampleState false) ops := by
    decide +kernel
  have hobs : (run sampleEnv (sampleState false) ops).toOption.map (fun s =>
      (s.bundleLookup 100, (s.bundle 1).bondHwHandle,
        (bundleDestroy sampleEnv (s.renamed 1 settings) 1).toOption.isSome,
        (bundleSet sampleEnv s 100 (some settings)).map fun _ => ())) =
      some (some 1, 123, true, .error .useAfterFree) := by decide +kernel
  obtain ⟨s, -, hreaches, hs⟩ := Reaches.of_observed hmeets hobs
  simp only [Prod.mk.injEq] at hs
  obtain ⟨hlookup, hhandle, hdestroy, hset⟩ := hs
  have hsafe := hall sampleEnv _ s 100 1 settings (sampleState_initial false) hreaches hlookup
    (by rw [hhandle]; decide) rfl
  cases hd : bundleDestroy sampleEnv (s.renamed 1 settings) 1 with
  | error e =>
    rw [hd] at hdestroy
    cases hdestroy
  | ok s₁ =>
    refine (hsafe s₁ hd).1 ?_
    cases hb : bundleSet sampleEnv s 100 (some settings) with
    | error e =>
      rw [hb] at hset
      cases hset
      rfl
    | ok r =>
      rw [hb] at hset
      cases hset

end ContainerPlugin.Ofproto
