import ContainerPlugin.Ofproto.Membership

/-!
# VLAN routing

A bit of `vlan_intf_bmp` is set when a bundle comes to route its VLAN and cleared when such a bundle is
destroyed. The bits are the VLANs of the routing bundles as long as no routing bundle gets another VLAN
and none is destroyed while a bundle that stays routes the same VLAN.
-/

namespace ContainerPlugin.Ofproto

/-- Every bit is the VLAN of a routing bundle, the VLAN of every routing bundle is a bit unless the
bundle is in `V`, and the bridge's trunks follow the bits. -/
structure RoutingBits (V : Ptr → Prop) (s : State) : Prop where
  sub : ∀ i ∈ s.vlanIntfBmp, ∃ q ∈ s.bundles, (s.bundle q).isVlanRoutingEnabled = true ∧
    (s.bundle q).vlan.toNat = i
  sup : ∀ q ∈ s.bundles, ¬ V q → (s.bundle q).isVlanRoutingEnabled = true →
    (s.bundle q).vlan.toNat ∈ s.vlanIntfBmp
  range : ∀ q ∈ s.bundles, (s.bundle q).isVlanRoutingEnabled = true →
    1 ≤ (s.bundle q).vlan ∧ (s.bundle q).vlan ≤ 4094
  trunks : s.world.asic.bridgeTrunks = bridgeTrunks s.vlanIntfBmp

/-- No bundle of `V` routes the VLAN of a bundle that is not in `V`. -/
def State.RoutesAlone (s : State) (V : Ptr → Prop) : Prop :=
  ∀ q ∈ s.bundles, V q → (s.bundle q).isVlanRoutingEnabled = true →
    ∀ q' ∈ s.bundles, ¬ V q' → (s.bundle q').isVlanRoutingEnabled = true →
      (s.bundle q').vlan ≠ (s.bundle q).vlan

section RoutingBits

variable {env : Env} {s s' : State} {q : Ptr} {V V' : Ptr → Prop}

theorem RoutingBits.mono (h : RoutingBits V s) (hV : ∀ q ∈ s.bundles, V q → V' q) :
    RoutingBits V' s :=
  { h with sup := fun q hq hq' => h.sup q hq fun hVq => hq' (hV q hq hVq) }

/-- The routing bundles with their VLANs and the bits are what counts. -/
theorem RoutingBits.congr (h : RoutingBits V s)
    (hrouting : ∀ q, q ∈ s'.bundles ∧ (s'.bundle q).isVlanRoutingEnabled = true ↔
      q ∈ s.bundles ∧ (s.bundle q).isVlanRoutingEnabled = true)
    (hvlan : ∀ q ∈ s.bundles, (s.bundle q).isVlanRoutingEnabled = true →
      (s'.bundle q).vlan = (s.bundle q).vlan)
    (hbmp : s'.vlanIntfBmp = s.vlanIntfBmp)
    (htrunks : s'.world.asic.bridgeTrunks = s.world.asic.bridgeTrunks) : RoutingBits V s' := by
  constructor
  · intro i hi
    obtain ⟨q, hq, hr, hv⟩ := h.sub i (hbmp ▸ hi)
    obtain ⟨hq', hr'⟩ := (hrouting q).mpr ⟨hq, hr⟩
    exact ⟨q, hq', hr', by rw [hvlan q hq hr, hv]⟩
  · intro q hq hVq hr
    obtain ⟨hq, hr⟩ := (hrouting q).mp ⟨hq, hr⟩
    rw [hvlan q hq hr, hbmp]
    exact h.sup q hq hVq hr
  · intro q hq hr
    obtain ⟨hq, hr⟩ := (hrouting q).mp ⟨hq, hr⟩
    rw [hvlan q hq hr]
    exact h.range q hq hr
  · rw [htrunks, hbmp, h.trunks]

theorem RoutingBits.portFrame (h : RoutingBits V s) (hframe : s.PortFrame s') : RoutingBits V s' :=
  h.congr (fun q => by rw [hframe.bundles, hframe.bundle]) (fun q _ _ => by rw [hframe.bundle])
    hframe.vlanIntfBmp (by rw [hframe.world.asic])

theorem RoutingBits.destroyed (h : RoutingBits V s) (hnd : s.bundles.Nodup) (henv : env.Healthy)
    (hdestroyed : Destroyed env q s s') (hfits : s'.world.Fits) (hq : q ∈ s.bundles) (hVq : V q)
    (halone : s.RoutesAlone V) : RoutingBits V s' := by
  have hmem : ∀ q', q' ∈ s'.bundles ↔ q' ≠ q ∧ q' ∈ s.bundles := fun q' => by
    rw [hdestroyed.bundles, hnd.mem_erase_iff]
  constructor
  · intro i hi
    rw [hdestroyed.vlanIntfBmp, State.bmpDel] at hi
    have hold : i ∈ s.vlanIntfBmp ∧
        ((s.bundle q).isVlanRoutingEnabled = true → i ≠ (s.bundle q).vlan.toNat) := by
      split at hi
      · rw [Finset.mem_erase] at hi
        exact ⟨hi.2, fun _ => hi.1⟩
      · rename_i hr
        exact ⟨hi, fun hr' => absurd hr' hr⟩
    obtain ⟨q', hq', hr, hv⟩ := h.sub i hold.1
    have hne : q' ≠ q := by
      rintro rfl
      exact hold.2 hr hv.symm
    refine ⟨q', (hmem q').mpr ⟨hne, hq'⟩, ?_, ?_⟩
    · rw [hdestroyed.bundle q' hne, hr]
    · rw [hdestroyed.bundle q' hne, hv]
  · intro q' hq' hV' hr'
    obtain ⟨hne, hq'⟩ := (hmem q').mp hq'
    rw [hdestroyed.bundle q' hne] at hr' ⊢
    have hold := h.sup q' hq' hV' hr'
    rw [hdestroyed.vlanIntfBmp, State.bmpDel]
    split
    · rename_i hr
      have hvlan := halone q hq hVq hr q' hq' hV' hr'
      have hrange := h.range q hq hr
      have hrange' := h.range q' hq' hr'
      exact Finset.mem_erase.mpr ⟨by omega, hold⟩
    · exact hold
  · intro q' hq' hr'
    obtain ⟨hne, hq'⟩ := (hmem q').mp hq'
    rw [hdestroyed.bundle q' hne] at hr' ⊢
    exact h.range q' hq' hr'
  · rw [hdestroyed.asic henv hfits, hdestroyed.vlanIntfBmp]
    dsimp only
    split
    · rename_i hsame
      rw [hsame, h.trunks]
    · rfl

theorem RoutingBits.claimSteps (h : RoutingBits V s) (henv : env.Healthy)
    (hclaims : ClaimSteps env V s s') (hfits : s'.world.Fits) (halone : s.RoutesAlone V) :
    RoutingBits V s' := by
  induction hclaims with
  | refl => exact h
  | tail hbefore hstep ih =>
    cases hstep with
    | ports hframe => exact (ih (hfits.of_prefix hframe.world.log)).portFrame hframe
    | destroy hwf hq hVq hdestroyed =>
      refine (ih (hfits.of_prefix hdestroyed.steps.log)).destroyed hwf.nodup henv hdestroyed hfits hq
        hVq ?_
      -- the bundles that are left are as they were before the loop
      intro q₁ h₁ hV₁ hr₁ q₂ h₂ hV₂ hr₂
      obtain ⟨h₁, hb₁⟩ := (ClaimSteps.frame hbefore).sub q₁ h₁
      obtain ⟨h₂, hb₂⟩ := (ClaimSteps.frame hbefore).sub q₂ h₂
      rw [hb₁] at hr₁ ⊢
      rw [hb₂] at hr₂ ⊢
      exact halone q₁ h₁ hV₁ hr₁ q₂ h₂ hV₂ hr₂

theorem RoutingBits.configured (h : RoutingBits V s) (hwf : s.WF) (hq : q ∈ s.bundles)
    (henv : env.Healthy) (hconf : Configured env q s s') (hfits : s'.world.Fits) :
    RoutingBits V s' := by
  obtain ⟨ps, hps⟩ := hwf.members q hq
  refine h.congr (fun q' => by rw [hconf.bundles, hconf.bundle]) (fun q' _ _ => by rw [hconf.bundle])
    hconf.vlanIntfBmp ?_
  rw [(hconf.asic henv hfits ps hps).2, s.asicConfigured_ports_only]

theorem RoutingBits.reconfigured {qs : List Ptr} (h : RoutingBits V s) (henv : env.Healthy)
    (hre : Reconfigured env qs s s') (hfits : s'.world.Fits) : RoutingBits V s' := by
  induction hre with
  | nil => exact h
  | skip _ _ ih => exact ih h hfits
  | configure hwf hq _ hconf hrest ih =>
    exact ih (h.configured hwf hq henv hconf (hrest.steps.fits hfits)) hfits

theorem RoutingBits.setVlan {vid : ℤ} {add : Bool} (h : RoutingBits V s) (henv : env.Healthy)
    (hset : SetVlan env vid add s s') (hfits : s'.world.Fits) : RoutingBits V s' := by
  have hbmp : ∀ bmp, RoutingBits V { s with vlansBmp := bmp } := fun bmp =>
    h.congr (fun _ => .rfl) (fun _ _ _ => rfl) rfl rfl
  cases hset with
  | unchanged => exact h
  | vrf => exact hbmp _
  | changed _ _ _ hrest => exact (hbmp _).reconfigured henv hrest hfits

end RoutingBits

/-! ## Calls that keep the bits -/

/-- The VLANs that the bridge is to route are VLAN ids. -/
def ValidVlans (s : State) : Op → Prop
  | .bundleSet _ (some settings) => s.isInternal settings.slaves = true → settings.vlan ≠ 0 →
    1 ≤ settings.vlan ∧ settings.vlan ≤ 4094
  | _ => True

/-- `bundle_set` stores no other VLAN in a routing bundle. -/
def KeepsVlan (s : State) : Op → Prop
  | .bundleSet aux (some settings) => (∃ p ∈ settings.slaves, p ∈ s.ports) →
    ∀ q ∈ s.bundleLookup aux, (s.bundle q).isBridgeBundle = false →
      (s.bundle q).isVlanRoutingEnabled = true → ∀ vlan ∈ s.storedVlan settings,
        vlan = (s.bundle q).vlan
  | _ => True

section Calls

variable {env : Env} {s s' : State} {aux q : Ptr} {V : Ptr → Prop} {settings : OfprotoBundleSettings}

theorem State.storedVlan_congr (settings : OfprotoBundleSettings) (hports : s'.ports = s.ports)
    (hport : ∀ p, (s'.port p).type = (s.port p).type) (hname : s'.name = s.name)
    (hvrf : s'.vrf = s.vrf) : s'.isInternal settings.slaves = s.isInternal settings.slaves ∧
      s'.storedVlan settings = s.storedVlan settings := by
  have hinternal := State.isInternal_congr settings.slaves hports hport
  exact ⟨hinternal, by simp only [State.storedVlan, hinternal, hname, hvrf]⟩

/-- The bundle is found with its VLAN, or it is new and routes none. -/
theorem Opened.routing (h : Opened env aux settings q s s') (q' : Ptr) :
    (q' ∈ s'.bundles ∧ (s'.bundle q').isVlanRoutingEnabled = true ↔
      q' ∈ s.bundles ∧ (s.bundle q').isVlanRoutingEnabled = true) ∧
    (q' ∈ s.bundles → (s'.bundle q').vlan = (s.bundle q').vlan) := by
  by_cases hqq : q' = q
  · subst hqq
    rcases h.found with ⟨-, hbundles, -, hbundle⟩ | ⟨-, hfresh, -, -, hbundle⟩
    · rw [hbundles, hbundle]
      exact ⟨.rfl, fun _ => rfl⟩
    · refine ⟨?_, fun hq => absurd hq hfresh⟩
      simp [hbundle, hfresh, Ofbundle.withSettings, Ofbundle.fresh]
  · rw [h.bundle_ne q' hqq]
    exact ⟨and_congr_left fun _ => h.mem_iff hqq, fun _ => rfl⟩

theorem RoutingBits.opened (h : RoutingBits V s) (hopened : Opened env aux settings q s s') :
    RoutingBits V s' :=
  h.congr (fun q' => (hopened.routing q').1) (fun q' hq' _ => (hopened.routing q').2 hq')
    hopened.vlanIntfBmp (by rw [hopened.world])

theorem RoutingBits.applied (h : RoutingBits V s) (hwf : s.WF) (hq : q ∈ s.bundles)
    (henv : env.Healthy) (happlied : Applied env q settings s s') (hfits : s'.world.Fits)
    (hvalid : s.isInternal settings.slaves = true → settings.vlan ≠ 0 →
      1 ≤ settings.vlan ∧ settings.vlan ≤ 4094)
    (hkeeps : (s.bundle q).isBridgeBundle = false → (s.bundle q).isVlanRoutingEnabled = true →
      ∀ vlan ∈ s.storedVlan settings, vlan = (s.bundle q).vlan) : RoutingBits V s' := by
  have hmodify : ∀ f : Ofbundle → Ofbundle,
      (f (s.bundle q)).isVlanRoutingEnabled = (s.bundle q).isVlanRoutingEnabled →
      ((s.bundle q).isVlanRoutingEnabled = true → (f (s.bundle q)).vlan = (s.bundle q).vlan) →
      RoutingBits V (s.modifyBundle q f) := by
    intro f hf hvlan
    refine h.congr (fun q' => ?_) (fun q' _ hr => ?_) rfl rfl
    · by_cases hqq : q' = q
      · subst hqq
        simp [State.modifyBundle, hf]
      · simp [State.modifyBundle, hqq]
    · by_cases hqq : q' = q
      · subst hqq
        simpa [State.modifyBundle] using hvlan hr
      · simp [State.modifyBundle, hqq]
  cases happlied with
  | bridge => exact h
  | mark => exact hmodify _ rfl fun _ => rfl
  | configured sflow hbridge _ hstored hconf =>
    let f : Ofbundle → Ofbundle := fun b =>
      ({ b with isSflowEnabled := sflow } : Ofbundle).withVlans settings
    have hbits : RoutingBits V (s.modifyBundle q f) :=
      hmodify f rfl fun hr => hkeeps hbridge hr _ hstored
    exact hbits.configured (hwf.modifyBundle fun _ => rfl) hq henv hconf hfits
  | routing sflow hbridge hinternal hvlan hstored _ hasic =>
    have hretag : (s.bundle q).isVlanRoutingEnabled = true → settings.vlan = (s.bundle q).vlan :=
      fun hr => hkeeps hbridge hr _ hstored
    constructor
    · intro i hi
      rcases Finset.mem_insert.mp hi with rfl | hi
      · exact ⟨q, hq, by simp, by simp⟩
      · obtain ⟨q', hq', hr, hv⟩ := h.sub i hi
        by_cases hqq : q' = q
        · subst hqq
          exact ⟨q', hq, by simp, by simpa [hretag hr] using hv⟩
        · exact ⟨q', hq', by simpa [hqq] using hr, by simpa [hqq] using hv⟩
    · intro q' hq' hV hr
      by_cases hqq : q' = q
      · subst hqq
        simp
      · simp only [Function.update_of_ne hqq] at hr ⊢
        exact Finset.mem_insert_of_mem (h.sup q' hq' hV hr)
    · intro q' hq' hr
      by_cases hqq : q' = q
      · subst hqq
        simpa using hvalid hinternal hvlan
      · simp only [Function.update_of_ne hqq] at hr ⊢
        exact h.range q' hq' hr
    · rw [hasic henv hfits]
      dsimp only
      split
      · rename_i hsame
        rw [hsame, h.trunks]
      · rfl

/-- A bundle alone in its VLAN is destroyed. -/
theorem RoutingBits.destroy (h : RoutingBits (fun _ => False) s) (hnd : s.bundles.Nodup)
    (henv : env.Healthy) (hdestroyed : Destroyed env q s s') (hfits : s'.world.Fits)
    (hq : q ∈ s.bundles) (halone : (s.bundle q).isVlanRoutingEnabled = true → ∀ q' ∈ s.bundles,
      q' ≠ q → (s.bundle q').isVlanRoutingEnabled = true →
      (s.bundle q').vlan ≠ (s.bundle q).vlan) : RoutingBits (fun _ => False) s' := by
  have hexcept : RoutingBits (· = q) s := h.mono fun _ _ => False.elim
  have halone' : s.RoutesAlone (· = q) := by
    rintro q₁ - rfl hr q' hq' hne hr'
    exact halone hr q' hq' hne hr'
  refine (hexcept.destroyed hnd henv hdestroyed hfits hq rfl halone').mono ?_
  rintro q' hq' rfl
  rw [hdestroyed.bundles, hnd.mem_erase_iff] at hq'
  exact hq'.1 rfl

/-- The bundles that lose their port to the slaves are gone after the loop, with their bits. -/
theorem RoutingBits.updated {s₁ s₂ : State} (h : RoutingBits (fun _ => False) s)
    (henv : env.Healthy) (hopened : Opened env aux settings q s s₁)
    (hupdated : Updated env q settings.slaves s₁ s₂) (hfits : s₂.world.Fits)
    (halone : s.RoutesAlone (s.Destroys (.bundleSet aux (some settings)))) :
    RoutingBits (fun _ => False) s₂ := by
  refine (((h.opened hopened).mono fun _ _ => False.elim).claimSteps henv hupdated.claims hfits
    ?_).mono fun q' hq' hV => hupdated.gone q' hV hq'
  rintro q₁ h₁ ⟨hne, p, hp, hmem, hb⟩ hr₁ q₂ h₂ hV₂ hr₂
  rw [hopened.frame.ports] at hmem
  rw [hopened.frame.port] at hb
  obtain ⟨h₁, hr₁⟩ := (hopened.routing q₁).1.mp ⟨h₁, hr₁⟩
  obtain ⟨h₂, hr₂⟩ := (hopened.routing q₂).1.mp ⟨h₂, hr₂⟩
  rw [(hopened.routing q₁).2 h₁, (hopened.routing q₂).2 h₂]
  refine halone q₁ h₁ ?_ hr₁ q₂ h₂ ?_ hr₂
  · rw [State.Destroys, if_neg (hopened.lookup_ne hne)]
    exact ⟨p, hp, hmem, hb⟩
  · rw [State.Destroys]
    split
    · exact fun hnone => hnone p hp hmem
    · rename_i hfind
      rintro ⟨p', hp', hmem', hb'⟩
      refine hV₂ ⟨?_, p', hp', ?_, ?_⟩
      · rintro rfl
        exact hfind (hopened.lookup_eq h₂)
      · rw [hopened.frame.ports]
        exact hmem'
      · rw [hopened.frame.port]
        exact hb'

theorem RoutingBits.bundleSet {rc : Rc} (h : RoutingBits (fun _ => False) s) (henv : env.Healthy)
    (hset : BundleSet env aux settings s s' rc) (hfits : s'.world.Fits)
    (hvalid : ValidVlans s (.bundleSet aux (some settings)))
    (halone : s.RoutesAlone (s.Destroys (.bundleSet aux (some settings))))
    (hkeeps : KeepsVlan s (.bundleSet aux (some settings))) : RoutingBits (fun _ => False) s' := by
  cases hset with
  | @destroyed q s₁ s₂ s' hopened _ hup hnone hdestroyed =>
    have hbits := h.updated henv hopened hup (hdestroyed.steps.fits hfits) halone
    refine hbits.destroy hup.wf.nodup henv hdestroyed hfits hup.live fun hr q' hq' hqq hr' => ?_
    obtain ⟨h₁, hb₁⟩ := hup.claims.frame.sub q hup.live
    obtain ⟨h₁', hb₁'⟩ := hup.claims.frame.sub q' hq'
    rw [hb₁] at hr ⊢
    rw [hb₁'] at hr' ⊢
    obtain ⟨h₀, hr⟩ := (hopened.routing q).1.mp ⟨h₁, hr⟩
    obtain ⟨h₀', hr'⟩ := (hopened.routing q').1.mp ⟨h₁', hr'⟩
    rw [(hopened.routing q).2 h₀, (hopened.routing q').2 h₀']
    refine halone q h₀ ?_ hr q' h₀' ?_ hr'
    · rw [State.Destroys, if_pos (hopened.lookup_eq h₀)]
      exact hnone
    · rw [State.Destroys, if_neg (hopened.lookup_ne hqq)]
      rintro ⟨p, hp, hmem, -⟩
      exact hnone p hp hmem
  | @applied q s₁ s₂ s' hopened _ hup hsome happlied =>
    have hframe := hup.claims.frame
    obtain ⟨hinternal, hstored⟩ := State.storedVlan_congr settings
      (hframe.ports.trans hopened.frame.ports)
      (fun p => by rw [(hframe.netdev p).2, hopened.frame.port]) (hframe.name.trans hopened.name)
      (hframe.vrf.trans hopened.frame.vrf)
    have hbits := h.updated henv hopened hup (happlied.steps.fits hfits) halone
    refine hbits.applied hup.wf hup.live henv happlied hfits (by rwa [hinternal]) fun hbridge hr => ?_
    obtain ⟨h₁, hb₁⟩ := hframe.sub q hup.live
    rw [hb₁] at hbridge hr ⊢
    obtain ⟨h₀, hr⟩ := (hopened.routing q).1.mp ⟨h₁, hr⟩
    rw [(hopened.routing q).2 h₀, hstored]
    have hfind := hopened.lookup_eq h₀
    exact hkeeps hsome q hfind (hopened.isBridgeBundle.mp hbridge q hfind) hr

end Calls

instance (s : State) : ∀ op, Decidable (ValidVlans s op)
  | .bundleSet _ (some settings) => inferInstanceAs (Decidable (
    s.isInternal settings.slaves = true → settings.vlan ≠ 0 →
      1 ≤ settings.vlan ∧ settings.vlan ≤ 4094))
  | .bundleSet _ none | .bundleRemove _ | .setVlan .. | .mirrorSet .. =>
    inferInstanceAs (Decidable True)

instance (s : State) : ∀ op, Decidable (KeepsVlan s op)
  | .bundleSet aux (some settings) => inferInstanceAs (Decidable (
    (∃ p ∈ settings.slaves, p ∈ s.ports) → ∀ q ∈ s.bundleLookup aux,
      (s.bundle q).isBridgeBundle = false → (s.bundle q).isVlanRoutingEnabled = true →
        ∀ vlan ∈ s.storedVlan settings, vlan = (s.bundle q).vlan))
  | .bundleSet _ none | .bundleRemove _ | .setVlan .. | .mirrorSet .. =>
    inferInstanceAs (Decidable True)

/-- The calls on bundles that leave a routing bundle its VLAN and destroy none that shares it. -/
def RoutingCall (s : State) (op : Op) (s' : State) : Prop :=
  op.OnBundles ∧ Sound s op s' ∧ ValidVlans s op ∧ s.RoutesAlone (s.Destroys op) ∧ KeepsVlan s op

instance (s : State) (op : Op) (s' : State) : Decidable (RoutingCall s op s') :=
  have : Decidable (s.RoutesAlone (s.Destroys op)) :=
    inferInstanceAs (Decidable (∀ q ∈ s.bundles, _ → _ → ∀ q' ∈ s.bundles, _ → _ → _))
  inferInstanceAs (Decidable (_ ∧ _))

theorem Initial.routingBits {s : State} (h : Initial s) : RoutingBits (fun _ => False) s where
  sub i hi := by simp [h.vlanIntfBmp] at hi
  sup q hq := by simp [h.bundles] at hq
  range q hq := by simp [h.bundles] at hq
  trunks := by
    have hvids : vids (· ∈ (∅ : VlanBitmap)) = [] := by simp [vids]
    rw [h.bridgeTrunks, h.vlanIntfBmp, Ofproto.bridgeTrunks, if_pos hvids]

theorem Reaches.routingBits {env : Env} {s₀ s : State} (h : Reaches env RoutingCall s₀ s)
    (h₀ : Initial s₀) (henv : env.Healthy) (hfits : s.world.Fits) :
    RoutingBits (fun _ => False) s := by
  suffices hinv : s.WF ∧ (s.world.Fits → RoutingBits (fun _ => False) s) from hinv.2 hfits
  refine h.invariant (I := fun s => s.WF ∧ (s.world.Fits → RoutingBits (fun _ => False) s))
    ⟨h₀.wf, fun _ => h₀.routingBits⟩ ?_
  rintro s op s' ⟨hwf, hbits⟩ ⟨hcall, hsound, hvalid, halone, hkeeps⟩ hstep
  obtain ⟨hwf', heffect⟩ := hwf.step hsound.1 hsound.2 hstep
  refine ⟨hwf', fun hfits' => ?_⟩
  have hbits := hbits (heffect.steps.fits hfits')
  cases heffect with
  | absent | kept => exact hbits
  | @deleted aux q _ hfind hdestroyed =>
    have hq := (hwf.bundleLookup_eq_some_iff.mp hfind).1
    refine hbits.destroy hwf.nodup henv hdestroyed hfits' hq fun hr q' hq' hqq =>
      halone q hq hfind hr q' hq' fun hfind' => ?_
    exact hqq (Option.some.inj (Eq.trans hfind'.symm hfind))
  | @removed p q _ hp hb hlag hdestroyed =>
    have hq := hwf.owner p hp q hb
    refine hbits.destroy hwf.nodup henv hdestroyed hfits' hq fun hr q' hq' hqq =>
      halone q hq ⟨hp, hb, hlag⟩ hr q' hq' ?_
    rintro ⟨-, hb', -⟩
    exact hqq (Option.some.inj (hb'.symm.trans hb))
  | set hset => exact hbits.bundleSet henv hset hfits' hvalid halone hkeeps
  | vlan hvlan => exact hbits.setVlan henv hvlan hfits'
  | mirror => exact hcall.elim

theorem mem_bridgeTrunks {bmp : VlanBitmap} (hrange : ∀ i ∈ bmp, 1 ≤ i ∧ i ≤ 4094) (i : ℕ) :
    i ∈ bridgeTrunks bmp ↔ i ∈ bmp ∨ bmp = ∅ ∧ i = 0 := by
  have hmem : ∀ i, i ∈ vids (· ∈ bmp) ↔ i ∈ bmp := by
    intro i
    rw [mem_vids]
    simp only [decide_eq_true_eq]
    exact ⟨fun h => h.2.2, fun h => ⟨(hrange i h).1, (hrange i h).2, h⟩⟩
  have hempty : vids (· ∈ bmp) = [] ↔ bmp = ∅ := by
    rw [List.eq_nil_iff_forall_not_mem, Finset.eq_empty_iff_forall_notMem]
    exact forall_congr' fun i => not_congr (hmem i)
  rw [bridgeTrunks]
  by_cases hbmp : bmp = ∅
  · rw [if_pos (hempty.mpr hbmp)]
    simp [hbmp]
  · rw [if_neg (mt hempty.mp hbmp), hmem]
    simp [hbmp]

/-- All VLANs of the call are VLAN ids. -/
def Op.VlanIds : Op → Prop
  | .bundleSet _ settings => ∀ b ∈ settings, 1 ≤ b.vlan ∧ b.vlan ≤ 4094
  | .setVlan vid _ => 1 ≤ vid ∧ vid ≤ 4094
  | .bundleRemove _ | .mirrorSet .. => True

instance : ∀ op : Op, Decidable op.VlanIds
  | .bundleSet _ settings => inferInstanceAs (Decidable (∀ b ∈ settings, 1 ≤ b.vlan ∧ b.vlan ≤ 4094))
  | .setVlan vid _ => inferInstanceAs (Decidable (1 ≤ vid ∧ vid ≤ 4094))
  | .bundleRemove _ | .mirrorSet .. => inferInstanceAs (Decidable True)

end ContainerPlugin.Ofproto
