import ContainerPlugin.Ofproto.Configure
import ContainerPlugin.Ofproto.Run

/-!
# What a call does

The calls of a client, taken apart into the effects of the functions they are made of. Two of the
calls that the source does not guard against corrupt memory, and every result excludes them:
`bundle_set` that takes the LAG away from a bundle goes on with the bundle it has just freed, and
`bundle_set` that claims a port of a LAG links the port into a second list.
-/

namespace ContainerPlugin.Ofproto

/-- No `bundle_set` without `hw_bond_should_exist` on a bundle that holds a bond handle. -/
def NoTeardown (s : State) : Op → Prop
  | .bundleSet aux (some settings) => ∀ q ∈ s.bundleLookup aux, (s.bundle q).bondHwHandle ≠ -1 →
      settings.hwBondShouldExist = true
  | _ => True

/-- No `bundle_set` claims a port that is a member of another bundle with a bond handle. -/
def NoLagClaimed (s : State) : Op → Prop
  | .bundleSet aux (some settings) => ∀ p ∈ settings.slaves, p ∈ s.ports →
      ∀ q ∈ (s.port p).bundle, s.bundleLookup aux ≠ some q → (s.bundle q).bondHwHandle = -1
  | _ => True

instance (s : State) : ∀ op, Decidable (NoTeardown s op)
  | .bundleSet aux (some settings) => inferInstanceAs (Decidable (∀ q ∈ s.bundleLookup aux,
      (s.bundle q).bondHwHandle ≠ -1 → settings.hwBondShouldExist = true))
  | .bundleSet _ none | .bundleRemove _ | .setVlan .. | .mirrorSet .. =>
    inferInstanceAs (Decidable True)

instance (s : State) : ∀ op, Decidable (NoLagClaimed s op)
  | .bundleSet aux (some settings) => inferInstanceAs (Decidable (∀ p ∈ settings.slaves,
      p ∈ s.ports → ∀ q ∈ (s.port p).bundle, s.bundleLookup aux ≠ some q →
        (s.bundle q).bondHwHandle = -1))
  | .bundleSet _ none | .bundleRemove _ | .setVlan .. | .mirrorSet .. =>
    inferInstanceAs (Decidable True)

/-- `q` is the bundle of `aux`, found or created, with its name and its handle set. -/
structure Opened (env : Env) (aux : Ptr) (settings : OfprotoBundleSettings) (q : Ptr)
    (s s' : State) : Prop where
  up : s'.up = s.up
  name : s'.name = s.name
  vlansBmp : s'.vlansBmp = s.vlansBmp
  vlanIntfBmp : s'.vlanIntfBmp = s.vlanIntfBmp
  world : s'.world = s.world
  frame : s.OvsFrame s'
  found : s.bundleLookup aux = some q ∧ s'.bundles = s.bundles ∧ s'.mbridge = s.mbridge ∧
      s'.bundle q = (s.bundle q).withSettings settings ∨
    s.bundleLookup aux = none ∧ q ∉ s.bundles ∧ s'.bundles = q :: s.bundles ∧
      (∃ mbundle, s'.mbridge = s.mbridge.registerBundle mbundle q) ∧
      s'.bundle q = (Ofbundle.fresh aux).withSettings settings
  bundle_ne : ∀ q' ≠ q, s'.bundle q' = s.bundle q'

/-- The VLAN that `bundle_set` stores in a bundle that has ports and is not the bridge's own. -/
def State.storedVlan (s : State) (settings : OfprotoBundleSettings) : Option ℤ :=
  if s.isInternal settings.slaves ∧ settings.vlan ≠ 0 ∧ settings.name ≠ s.name ∧ s.vrf = false then
    some settings.vlan
  else if s.isInternal settings.slaves ∧ settings.name = s.name ∧ s.vrf = false then none
  else if s.vrf then none
  else if settings.slavesEntered > 1 ∧ settings.slaves.length ≤ 1 then none
  else some (if 0 < settings.vlan ∧ settings.vlan < 4095 then settings.vlan else -1)

/-- A bundle with these settings routes the VLAN they name. -/
def State.Routes (s : State) (settings : OfprotoBundleSettings) : Prop :=
  s.isInternal settings.slaves ∧ settings.vlan ≠ 0 ∧ settings.name ≠ s.name ∧ s.vrf = false

/-- A bundle with these settings is put into the ASIC, as far as its VLANs are enabled. -/
def State.Configures (s : State) (settings : OfprotoBundleSettings) : Prop :=
  ¬ s.Routes settings ∧ ¬ (s.isInternal settings.slaves ∧ settings.name = s.name) ∧ s.vrf = false ∧
    ¬ (settings.slavesEntered > 1 ∧ settings.slaves.length ≤ 1)

/-- What `bundle_set` makes of the settings once the ports are updated. -/
inductive Applied (env : Env) (q : Ptr) (settings : OfprotoBundleSettings) (s : State) :
    State → Prop where
  | bridge : (s.bundle q).isBridgeBundle = true → Applied env q settings s s
  | routing {w : World} (sflow : Bool) : (s.bundle q).isBridgeBundle = false →
      s.isInternal settings.slaves = true → settings.vlan ≠ 0 →
      s.storedVlan settings = some settings.vlan → s.world.OvsOnly w →
      (env.Healthy → w.Fits → w.asic = { s.world.asic with
        bridgeTrunks := if insert settings.vlan.toNat s.vlanIntfBmp = s.vlanIntfBmp
          then s.world.asic.bridgeTrunks
          else bridgeTrunks (insert settings.vlan.toNat s.vlanIntfBmp) }) →
      Applied env q settings s { s with
        bundle := Function.update s.bundle q { s.bundle q with
          isSflowEnabled := sflow
          vlan := settings.vlan
          isVlanRoutingEnabled := true }
        vlanIntfBmp := insert settings.vlan.toNat s.vlanIntfBmp
        world := w }
  | mark (sflow bridge : Bool) : (s.bundle q).isBridgeBundle = false →
      Applied env q settings s (s.modifyBundle q fun b =>
        { b with isSflowEnabled := sflow, isBridgeBundle := bridge })
  | configured {s' : State} (sflow : Bool) : (s.bundle q).isBridgeBundle = false → s.vrf = false →
      s.storedVlan settings = some ((s.bundle q).withVlans settings).vlan →
      Configured env q (s.modifyBundle q fun b =>
        ({ b with isSflowEnabled := sflow } : Ofbundle).withVlans settings) s' →
      Applied env q settings s s'

/-- What `bundle_set` with settings does: the bundle is opened, its ports are updated, and then it is
destroyed if it has none, or the settings are applied. -/
inductive BundleSet (env : Env) (aux : Ptr) (settings : OfprotoBundleSettings) (s : State) :
    State → Rc → Prop where
  | destroyed {q : Ptr} {s₁ s₂ s' : State} : Opened env aux settings q s s₁ → s₁.WF →
      Updated env q settings.slaves s₁ s₂ → (∀ p ∈ settings.slaves, p ∉ s.ports) →
      Destroyed env q s₂ s' → BundleSet env aux settings s s' .einval
  | applied {q : Ptr} {s₁ s₂ s' : State} : Opened env aux settings q s s₁ → s₁.WF →
      Updated env q settings.slaves s₁ s₂ → (∃ p ∈ settings.slaves, p ∈ s.ports) →
      Applied env q settings s₂ s' → BundleSet env aux settings s s' .ok

section Opened

variable {env : Env} {s s' : State} {aux q : Ptr} {settings : OfprotoBundleSettings}

theorem State.WF.modifyBundle (h : s.WF) {f : Ofbundle → Ofbundle} (hf : ∀ b, (f b).aux = b.aux) :
    (s.modifyBundle q f).WF := by
  refine ⟨h.toListsWF.congr rfl (fun _ _ => rfl) rfl (fun q' => ?_) rfl, h.mbridge⟩
  by_cases hqq : q' = q
  · subst hqq
    simp [State.modifyBundle, hf]
  · simp [State.modifyBundle, hqq]

theorem State.WF.createBundle (h : s.WF) (haux : s.bundleLookup aux = none) :
    (Ofproto.createBundle env s aux).1.WF := by
  have hfresh : env.malloc s s.bundles ∉ s.bundles := env.malloc_fresh s s.bundles
  have haux' : ∀ q ∈ s.bundles, (s.bundle q).aux ≠ aux := fun q hq => by
    simpa using List.find?_eq_none.mp haux q hq
  have hold : ∀ q ∈ s.bundles, (Ofproto.createBundle env s aux).1.bundle q = s.bundle q :=
    fun q hq => Function.update_of_ne (ne_of_mem_of_not_mem hq hfresh) _ _
  have hnew : (Ofproto.createBundle env s aux).1.bundle (env.malloc s s.bundles) = .fresh aux :=
    Function.update_self ..
  refine ⟨⟨List.nodup_cons.mpr ⟨hfresh, h.nodup⟩, ?_, ?_, ?_⟩, ?_⟩
  · intro q₁ h₁ q₂ h₂ heq
    rcases List.mem_cons.mp h₁ with rfl | h₁
    · rcases List.mem_cons.mp h₂ with rfl | h₂
      · rfl
      · rw [hnew, hold q₂ h₂] at heq
        exact absurd heq.symm (haux' q₂ h₂)
    · rcases List.mem_cons.mp h₂ with rfl | h₂
      · rw [hnew, hold q₁ h₁] at heq
        exact absurd heq (haux' q₁ h₁)
      · rw [hold q₁ h₁, hold q₂ h₂] at heq
        exact h.aux q₁ h₁ q₂ h₂ heq
  · intro p hp q hq
    exact List.mem_cons_of_mem _ (h.owner p hp q hq)
  · intro q hq
    rcases List.mem_cons.mp hq with rfl | hq
    · refine ⟨[], .init _ _, fun p => ?_⟩
      simp only [List.not_mem_nil, false_iff, not_and]
      exact fun hp hb => hfresh (h.owner p hp _ hb)
    · obtain ⟨ps, hps⟩ := h.members q hq
      refine ⟨ps, hps.ring.frame_init ?_, hps.mem_iff⟩
      simpa using (ne_of_mem_of_not_mem hq hfresh).symm
  · exact h.mbridge.registerBundle (env.malloc_fresh s _)

/-- Whatever the state, the bundle of `aux` is there with its new name. -/
theorem findOrCreateBundle_spec (env : Env) (s : State) (aux : Ptr)
    (settings : OfprotoBundleSettings) :
    let s' := (findOrCreateBundle env s aux).1.modifyBundle (findOrCreateBundle env s aux).2
      (·.withSettings settings)
    (findOrCreateBundle env s aux).2 ∈ s'.bundles ∧
      Opened env aux settings (findOrCreateBundle env s aux).2 s s' := by
  rw [findOrCreateBundle]
  cases hfind : s.bundleLookup aux with
  | some q =>
    refine ⟨List.mem_of_find?_eq_some hfind, rfl, rfl, rfl, rfl,
      rfl, ⟨rfl, rfl, rfl, .refl _⟩, .inl ⟨hfind, rfl, rfl, by simp [State.modifyBundle]⟩,
      fun q' hqq => by simp [State.modifyBundle, hqq]⟩
  | none =>
    refine ⟨List.mem_cons_self, rfl, rfl, rfl, rfl,
      rfl, ⟨rfl, rfl, rfl, .refl _⟩, .inr ⟨hfind, env.malloc_fresh s _, rfl, ⟨_, rfl⟩,
      by simp [State.modifyBundle, createBundle]⟩,
      fun q' hqq => ?_⟩
    have hqq' : q' ≠ env.malloc s s.bundles := hqq
    simp [State.modifyBundle, createBundle, hqq']

theorem findOrCreateBundle_opened (env : Env) (h : s.WF) (aux : Ptr) (settings : OfprotoBundleSettings) :
    let s' := (findOrCreateBundle env s aux).1.modifyBundle (findOrCreateBundle env s aux).2
      (·.withSettings settings)
    s'.WF ∧ (findOrCreateBundle env s aux).2 ∈ s'.bundles ∧
      Opened env aux settings (findOrCreateBundle env s aux).2 s s' := by
  refine ⟨State.WF.modifyBundle ?_ fun _ => rfl, findOrCreateBundle_spec env s aux settings⟩
  rw [findOrCreateBundle]
  cases hfind : s.bundleLookup aux with
  | some q => exact h
  | none => exact h.createBundle hfind

theorem Opened.aux_eq (h : Opened env aux settings q s s') : (s'.bundle q).aux = aux := by
  rcases h.found with ⟨hfind, -, -, hbundle⟩ | ⟨-, -, -, -, hbundle⟩
  · have haux : (s.bundle q).aux = aux := by simpa using List.find?_some hfind
    rw [hbundle, ← haux]
    rfl
  · rw [hbundle]
    rfl

theorem Opened.name_eq (h : Opened env aux settings q s s') :
    (s'.bundle q).name = settings.name := by
  rcases h.found with ⟨-, -, -, hbundle⟩ | ⟨-, -, -, -, hbundle⟩
  · rw [hbundle, Ofbundle.withSettings]
  · rw [hbundle, Ofbundle.withSettings]

/-- Another bundle is there before and after the bundle of `aux` is opened. -/
theorem Opened.mem_iff (h : Opened env aux settings q s s') {q' : Ptr} (hne : q' ≠ q) :
    q' ∈ s'.bundles ↔ q' ∈ s.bundles := by
  rcases h.found with ⟨-, hbundles, -⟩ | ⟨-, -, hbundles, -⟩
  · rw [hbundles]
  · simp [hbundles, hne]

theorem Opened.isBridgeBundle (h : Opened env aux settings q s s') :
    (s'.bundle q).isBridgeBundle = false ↔
      ∀ q' ∈ s.bundleLookup aux, (s.bundle q').isBridgeBundle = false := by
  rcases h.found with ⟨hfind, -, -, hbundle⟩ | ⟨hfind, -, -, -, hbundle⟩
  · simp [hfind, hbundle, Ofbundle.withSettings]
  · simp [hfind, hbundle, Ofbundle.withSettings, Ofbundle.fresh]

theorem Opened.lookup_ne (h : Opened env aux settings q s s') {q' : Ptr} (hne : q' ≠ q) :
    s.bundleLookup aux ≠ some q' := by
  intro hfind'
  rcases h.found with ⟨hfind, -⟩ | ⟨hfind, -⟩
  · exact hne (Option.some.inj (hfind'.symm.trans hfind))
  · rw [hfind] at hfind'
    cases hfind'

/-- A bundle that was there is not a new one. -/
theorem Opened.lookup_eq (h : Opened env aux settings q s s') (hq : q ∈ s.bundles) :
    s.bundleLookup aux = some q := by
  rcases h.found with ⟨hfind, -⟩ | ⟨-, hfresh, -⟩
  · exact hfind
  · exact absurd hq hfresh

/-- The handle that `bundle_set` gives to the bundle is taken away again only by a teardown. -/
theorem Opened.destroyLag (h : Opened env aux settings q s s')
    (hteardown : NoTeardown s (.bundleSet aux (some settings))) :
    destroyLag env s' q settings = .ok s' := by
  refine if_neg fun ⟨hhandle, hexist⟩ => ?_
  rcases h.found with ⟨hfind, -, -, hbundle⟩ | ⟨-, -, -, -, hbundle⟩
  · rw [hbundle] at hhandle
    by_cases hold : (s.bundle q).bondHwHandle = -1
    · simp [Ofbundle.withSettings, hold, hexist] at hhandle
    · exact absurd (hteardown q hfind hold) (by simp [hexist])
  · rw [hbundle] at hhandle
    simp [Ofbundle.withSettings, Ofbundle.fresh, hexist] at hhandle

theorem Opened.noLagClaim (h : Opened env aux settings q s s')
    (hlag : NoLagClaimed s (.bundleSet aux (some settings))) :
    NoLagClaim s' q settings.slaves := by
  intro p hp hmem q' hb hne
  rw [h.frame.ports] at hmem
  rw [h.frame.port] at hb
  rw [h.bundle_ne q' hne]
  exact hlag p hp hmem q' hb (h.lookup_ne hne)

end Opened

section Apply

variable {env : Env} {s s' : State} {aux q : Ptr} {settings : OfprotoBundleSettings}

/-- Whether the only slave is internal does not depend on the bundles. -/
theorem State.isInternal_congr (slaves : List OfpPort) (hports : s'.ports = s.ports)
    (htype : ∀ p, (s'.port p).type = (s.port p).type) :
    s'.isInternal slaves = s.isInternal slaves := by
  have hget : ∀ p, (s'.getOfpPort p).any (fun port => port.type = .internal) =
      (s.getOfpPort p).any fun port => port.type = .internal := by
    intro p
    simp only [State.getOfpPort, hports]
    split
    · simp [htype]
    · rfl
  simp only [State.isInternal, hget]

theorem State.storedVlan_of_routes (h : s.Routes settings) :
    s.storedVlan settings = some settings.vlan := if_pos h

theorem State.storedVlan_of_configures (h : s.Configures settings) (b : Ofbundle) :
    s.storedVlan settings = some (b.withVlans settings).vlan := by
  obtain ⟨hroutes, hown, hvrf, hentered⟩ := h
  have hown' : ¬ (s.isInternal settings.slaves ∧ settings.name = s.name ∧ s.vrf = false) :=
    fun h => hown ⟨h.1, h.2.1⟩
  have hvrf' : ¬ s.vrf = true := by simp [hvrf]
  exact (if_neg hroutes).trans ((if_neg hown').trans ((if_neg hvrf').trans (if_neg hentered)))

/-- The rule for the settings of a bundle that has their name: it is the bridge's own, or it routes
the VLAN, or it is configured, or only its marks change. -/
theorem bundleApply_rule {E : Fault → Prop} {R : State → Prop} (hq : q ∈ s.bundles)
    (hname : (s.bundle q).name = settings.name)
    (hbridge : (s.bundle q).isBridgeBundle = true → R s)
    (hroutes : ∀ sflow, (s.bundle q).isBridgeBundle = false → s.Routes settings →
      (simBridgeVlanRoutingUpdate env (s.modifyBundle q fun b => { b with isSflowEnabled := sflow })
        settings.vlan true).Ensures E fun s' => R (s'.modifyBundle q fun b =>
          { b with vlan := settings.vlan, isVlanRoutingEnabled := true }))
    (hmark : ∀ sflow bridge, (s.bundle q).isBridgeBundle = false → ¬ s.Routes settings →
      ¬ s.Configures settings → R (s.modifyBundle q fun b =>
        { b with isSflowEnabled := sflow, isBridgeBundle := bridge }))
    (hconf : ∀ sflow, (s.bundle q).isBridgeBundle = false → s.Configures settings →
      (bundleConfigure env (s.modifyBundle q fun b =>
        ({ b with isSflowEnabled := sflow } : Ofbundle).withVlans settings) q).Ensures E R) :
    (bundleApply env s q settings).Ensures E R := by
  have hderef : s.derefBundle q = .ok (s.bundle q) := if_pos hq
  simp only [bundleApply, hderef, Except.ok_bind, hname]
  by_cases hown : (s.bundle q).isBridgeBundle = true
  · rw [if_pos hown]
    exact hbridge hown
  rw [if_neg hown]
  rw [Bool.not_eq_true] at hown
  generalize env.smapGetBool settings.otherConfig "sflow-enabled" true = sflow
  have hplain : s.modifyBundle q (fun b => { b with isSflowEnabled := sflow }) =
      s.modifyBundle q fun b => { b with isSflowEnabled := sflow, isBridgeBundle := false } := by
    simp only [State.modifyBundle, ← hown]
  split
  · rename_i hrouting
    refine (hroutes sflow hown hrouting).bind fun _ hs' => hs'
  rename_i hrouting
  split
  · rename_i hinternal
    have hnot : ¬ s.Configures settings := fun h => h.2.1 ⟨hinternal.1, hinternal.2.1⟩
    simpa [State.modifyBundle] using hmark sflow true hown hrouting hnot
  rename_i hinternal
  split
  · rename_i hvrf
    rw [Except.ensures_ok, hplain]
    exact hmark sflow false hown hrouting fun h => absurd (hvrf.symm.trans h.2.2.1) (by simp)
  rename_i hvrf
  have hvrf' : s.vrf = false := (Bool.not_eq_true _).mp hvrf
  split
  · rename_i hentered
    rw [Except.ensures_ok, hplain]
    exact hmark sflow false hown hrouting fun h => h.2.2.2 hentered
  · rename_i hentered
    have hstore : (s.modifyBundle q fun b => { b with isSflowEnabled := sflow }).modifyBundle q
        (·.withVlans settings) = s.modifyBundle q fun b =>
          ({ b with isSflowEnabled := sflow } : Ofbundle).withVlans settings := by
      simp [State.modifyBundle]
    rw [hstore]
    exact hconf sflow hown ⟨hrouting, fun h => hinternal ⟨h.1, h.2, hvrf'⟩, hvrf', hentered⟩

theorem State.WF.bundleApply (h : s.WF) (hq : q ∈ s.bundles)
    (hname : (s.bundle q).name = settings.name) :
    (bundleApply env s q settings).Ensures Fault.OfInput
      fun s' => s'.WF ∧ Applied env q settings s s' := by
  refine bundleApply_rule hq hname ?_ ?_ ?_ ?_
  · exact fun hbridge => ⟨h, .bridge hbridge⟩
  · intro sflow hbridge hroutes
    refine (simBridgeVlanRoutingUpdate_ensures _ settings.vlan true).mono ?_
    rintro s' ⟨bmp, w, rfl, rfl, hw, hasic⟩
    refine ⟨?_, ?_⟩
    · refine State.WF.modifyBundle ?_ fun _ => rfl
      have hwf := h.modifyBundle (q := q) (f := fun b => { b with isSflowEnabled := sflow }) fun _ => rfl
      exact ⟨hwf.toListsWF.congr rfl (fun _ _ => rfl) rfl (fun _ => rfl) rfl, hwf.mbridge⟩
    · have happlied := Applied.routing (q := q) sflow hbridge hroutes.1 hroutes.2.1
        (State.storedVlan_of_routes hroutes) hw hasic
      simpa [State.modifyBundle, bitmapSet] using happlied
  · exact fun sflow bridge hbridge _ _ => ⟨h.modifyBundle fun _ => rfl, .mark sflow bridge hbridge⟩
  · intro sflow hbridge hconf
    have hwf := h.modifyBundle (q := q) (f := fun b =>
      ({ b with isSflowEnabled := sflow } : Ofbundle).withVlans settings) fun _ => rfl
    exact (hwf.bundleConfigure hq).mono fun s' hs' => ⟨hs'.1,
      .configured sflow hbridge hconf.2.2.1 (State.storedVlan_of_configures hconf _) hs'.2⟩

/-- The rule for `bundle_set` with settings, from a well-formed state: `Q` is what is known when the
ports are updated, and then the bundle is destroyed or the settings are applied. -/
theorem State.WF.bundleSet_rule {E : Fault → Prop} {Q : Ptr → State → State → Prop}
    {R : State × Rc → Prop} (h : s.WF) (hteardown : NoTeardown s (.bundleSet aux (some settings)))
    (hlag : NoLagClaimed s (.bundleSet aux (some settings)))
    (hupdate : ∀ q s₁, Opened env aux settings q s s₁ → s₁.WF → q ∈ s₁.bundles →
      NoLagClaim s₁ q settings.slaves → (updatePorts env s₁ q settings.slaves).Ensures E
        fun s₂ => Updated env q settings.slaves s₁ s₂ ∧ Q q s₁ s₂)
    (hdestroy : ∀ q s₁ s₂, Opened env aux settings q s s₁ → s₁.WF →
      Updated env q settings.slaves s₁ s₂ → Q q s₁ s₂ → s₂.Members q [] →
      (∀ p ∈ settings.slaves, p ∉ s.ports) →
      (Ofproto.bundleDestroy env s₂ q).Ensures E fun s' => R (s', .einval))
    (happly : ∀ q s₁ s₂ ps, Opened env aux settings q s s₁ → s₁.WF →
      Updated env q settings.slaves s₁ s₂ → Q q s₁ s₂ → s₂.Members q ps → ps ≠ [] →
      (∃ p ∈ settings.slaves, p ∈ s.ports) → (s₂.bundle q).name = settings.name →
      (Ofproto.bundleApply env s₂ q settings).Ensures E fun s' => R (s', .ok)) :
    (bundleSet env s aux (some settings)).Ensures E R := by
  obtain ⟨hwf₁, hq, hopened⟩ := findOrCreateBundle_opened env h aux settings
  simp only [bundleSet]
  generalize (findOrCreateBundle env s aux).2 = q at *
  generalize (findOrCreateBundle env s aux).1.modifyBundle q (·.withSettings settings) = s₁ at *
  rw [hopened.destroyLag hteardown, Except.ok_bind]
  refine (hupdate q s₁ hopened hwf₁ hq (hopened.noLagClaim hlag)).bind fun s₂ ⟨hupdated, hQ⟩ => ?_
  have hports : s₂.ports = s.ports := hupdated.claims.frame.ports.trans hopened.frame.ports
  obtain ⟨ps, hbundlePorts, hps⟩ := hupdated.wf.bundlePorts hupdated.live
  rw [hbundlePorts, Except.ok_bind, if_pos (hupdated.size ps hps)]
  split
  · rename_i hnil
    subst hnil
    have hnone : ∀ p ∈ settings.slaves, p ∉ s.ports := by
      intro p hp hmem
      have hp₂ : p ∈ s₂.ports := hports.symm ▸ hmem
      have hin := (hps.mem_iff p).mpr ⟨hp₂, hupdated.owned p hp hp₂⟩
      cases hin
    exact (hdestroy q s₁ s₂ hopened hwf₁ hupdated hQ hps hnone).bind fun s' hs' => hs'
  · rename_i hne
    obtain ⟨p, hp, hmem⟩ := hupdated.nonempty ps hps hne
    have hname : (s₂.bundle q).name = settings.name := by
      rw [(hupdated.claims.frame.sub q hupdated.live).2, hopened.name_eq]
    exact (happly q s₁ s₂ ps hopened hwf₁ hupdated hQ hps hne
      ⟨p, hp, hopened.frame.ports ▸ hmem⟩ hname).bind fun s' hs' => hs'

/-- `bundle_set` with settings, from a well-formed state. -/
theorem State.WF.bundleSet_some (h : s.WF) (hteardown : NoTeardown s (.bundleSet aux (some settings)))
    (hlag : NoLagClaimed s (.bundleSet aux (some settings))) :
    (bundleSet env s aux (some settings)).Ensures Fault.OfInput
      fun r => r.1.WF ∧ BundleSet env aux settings s r.1 r.2 := by
  refine h.bundleSet_rule (Q := fun _ _ _ => True) hteardown hlag ?_ ?_ ?_
  · intro q s₁ _ hwf₁ hq hnolag
    exact (updatePorts_ensures hwf₁ hq hnolag).mono fun s₂ hupdated => ⟨hupdated, trivial⟩
  · intro q s₁ s₂ hopened hwf₁ hupdated _ _ hnone
    exact (hupdated.wf.bundleDestroy hupdated.live).mono fun s' ⟨hwf', hdestroyed⟩ =>
      ⟨hwf', .destroyed hopened hwf₁ hupdated hnone hdestroyed⟩
  · intro q s₁ s₂ ps hopened hwf₁ hupdated _ _ _ hsome hname
    exact (hupdated.wf.bundleApply hupdated.live hname).mono fun s' ⟨hwf', happlied⟩ =>
      ⟨hwf', .applied hopened hwf₁ hupdated hsome happlied⟩

theorem State.modifyBundle_frame (s : State) (q : Ptr) (f : Ofbundle → Ofbundle) :
    s.OvsFrame (s.modifyBundle q f) := ⟨rfl, rfl, rfl, .refl _⟩

theorem Applied.steps (h : Applied env q settings s s') : PortSteps env s s' := by
  cases h with
  | bridge => exact .refl s
  | routing _ _ _ _ _ hw => exact State.OvsFrame.steps ⟨rfl, rfl, rfl, hw⟩
  | mark => exact (s.modifyBundle_frame q _).steps
  | configured _ _ _ _ hconf => exact (s.modifyBundle_frame q _).steps.trans hconf.steps

theorem BundleSet.steps {rc : Rc} (h : BundleSet env aux settings s s' rc) : PortSteps env s s' := by
  cases h with
  | destroyed hopened _ hupdated _ hdestroyed =>
    exact (hopened.frame.steps.trans hupdated.steps).trans hdestroyed.steps
  | applied hopened _ hupdated _ happlied =>
    exact (hopened.frame.steps.trans hupdated.steps).trans happlied.steps

end Apply

/-! ## `set_vlan` -/

/-- The loop of `bundle_set_reconfigure`. -/
inductive Reconfigured (env : Env) : List Ptr → State → State → Prop where
  | nil {s : State} : Reconfigured env [] s s
  | skip {q : Ptr} {qs : List Ptr} {s s' : State} :
      (s.bundle q).isVlanRoutingEnabled = true ∨ (s.bundle q).isBridgeBundle = true →
      Reconfigured env qs s s' → Reconfigured env (q :: qs) s s'
  | configure {q : Ptr} {qs : List Ptr} {s s₁ s' : State} : s.WF → q ∈ s.bundles →
      ¬ ((s.bundle q).isVlanRoutingEnabled = true ∨ (s.bundle q).isBridgeBundle = true) →
      Configured env q s s₁ → Reconfigured env qs s₁ s' → Reconfigured env (q :: qs) s s'

/-- What `set_vlan` does. -/
inductive SetVlan (env : Env) (vid : ℤ) (add : Bool) (s : State) : State → Prop where
  | unchanged : decide (vid.toNat ∈ s.vlansBmp) = add → SetVlan env vid add s s
  | vrf {bmp : VlanBitmap} : s.vrf = true → SetVlan env vid add s { s with vlansBmp := bmp }
  | changed {bmp : VlanBitmap} {s' : State} : s.vrf = false → decide (vid.toNat ∈ s.vlansBmp) ≠ add →
      bmp = bitmapSet s.vlansBmp vid add →
      Reconfigured env (env.order { s with vlansBmp := bmp }) { s with vlansBmp := bmp } s' →
      SetVlan env vid add s s'

section SetVlan

variable {env : Env} {s s' : State}

theorem State.WF.reconfigure (h : s.WF) {qs : List Ptr} (hqs : ∀ q ∈ qs, q ∈ s.bundles) :
    (qs.foldlM (reconfigureBundle env) s).Ensures Fault.OfInput
      fun s' => s'.WF ∧ Reconfigured env qs s s' := by
  induction qs generalizing s with
  | nil => exact ⟨h, .nil⟩
  | cons q qs ih =>
    have hq := hqs q (by simp)
    have hqs' := fun q' hq' => hqs q' (List.mem_cons_of_mem q hq')
    rw [List.foldlM_cons, reconfigureBundle, h.deref hq, Except.ok_bind]
    by_cases hskip : (s.bundle q).isVlanRoutingEnabled = true ∨ (s.bundle q).isBridgeBundle = true
    · rw [if_pos hskip, Except.ok_bind]
      exact (ih h hqs').mono fun s' ⟨hwf', hrest⟩ => ⟨hwf', .skip hskip hrest⟩
    · rw [if_neg hskip]
      refine (h.bundleConfigure hq).bind fun s₁ ⟨hwf₁, hconf⟩ => ?_
      refine (ih hwf₁ fun q' hq' => hconf.bundles ▸ hqs' q' hq').mono fun s' ⟨hwf', hrest⟩ => ?_
      exact ⟨hwf', .configure h hq hskip hconf hrest⟩

theorem State.WF.setVlan (h : s.WF) (vid : ℤ) (add : Bool) :
    (setVlan env s vid add).Ensures Fault.OfInput
      fun s' => s'.WF ∧ SetVlan env vid add s s' := by
  refine (bitmapIsSet_ensures s.vlansBmp vid).bind fun isSet hset => ?_
  obtain ⟨rfl, -⟩ := hset
  have hwf : ∀ bmp, { s with vlansBmp := bmp }.WF := fun bmp =>
    ⟨h.toListsWF.congr rfl (fun _ _ => rfl) rfl (fun _ => rfl) rfl, h.mbridge⟩
  split
  · exact ⟨h, .unchanged ‹_›⟩
  · rename_i hbit
    dsimp only
    split
    · exact ⟨hwf _, .vrf ‹_›⟩
    · rename_i hvrf
      refine ((hwf _).reconfigure fun q hq => (env.order_perm _).subset hq).mono ?_
      intro s' ⟨hwf', hrest⟩
      exact ⟨hwf', .changed ((Bool.not_eq_true _).mp hvrf) hbit rfl hrest⟩

theorem Reconfigured.steps {qs : List Ptr} (h : Reconfigured env qs s s') : PortSteps env s s' := by
  induction h with
  | nil => exact .refl _
  | skip _ _ ih => exact ih
  | configure _ _ _ hconf _ ih => exact hconf.steps.trans ih

theorem SetVlan.steps {vid : ℤ} {add : Bool} (h : SetVlan env vid add s s') :
    PortSteps env s s' := by
  have hbmp : ∀ bmp, PortSteps env s { s with vlansBmp := bmp } := fun bmp =>
    State.OvsFrame.steps ⟨rfl, rfl, rfl, .refl _⟩
  cases h with
  | unchanged => exact .refl s
  | vrf => exact hbmp _
  | changed _ _ _ hrest => exact (hbmp _).trans hrest.steps

end SetVlan

end ContainerPlugin.Ofproto
