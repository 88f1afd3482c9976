import ContainerPlugin.Ofproto.AsicPorts
import ContainerPlugin.Ofproto.Reconcile

/-!
# Bonds short of members

`bundle_set` postpones a bond with fewer than two of its members: it leaves the ports updated and
returns before the settings are stored. What the ASIC and the bundle hold from an earlier call stays,
and `set_vlan` configures the bundle with it, so the bond is out of the ASIC exactly as long as the
bundle has nothing to be configured with.
-/

namespace ContainerPlugin.Ofproto

/-- The bond is to have several members and is given fewer than two. -/
def OfprotoBundleSettings.Short (settings : OfprotoBundleSettings) : Prop :=
  settings.slavesEntered > 1 ∧ settings.slaves.length ≤ 1

instance (settings : OfprotoBundleSettings) : Decidable settings.Short :=
  inferInstanceAs (Decidable (_ ∧ _))

/-- The bundle is not in the ASIC, and its VLANs keep it out of it whatever VLANs are enabled: it has
neither a VLAN of its own nor a trunk, or it names no VLAN for its trunk. -/
def Ofbundle.Blank (b : Ofbundle) : Prop :=
  b.isAddedToSimOvs = false ∧
    (b.vlanMode ≠ .trunk ∧ b.vlan ≤ 0 ∨
      b.vlanMode ≠ .access ∧ ∃ trunks ∈ b.trunks, vids (· ∈ trunks) = [])

instance (b : Ofbundle) : Decidable b.Blank :=
  inferInstanceAs (Decidable (_ ∧ (_ ∨ _ ∧ ∃ trunks ∈ _, _)))

/-- The settings of the latest `bundle_set` for `aux`. -/
def latestSettings (aux : Ptr) (ops : List Op) : Option OfprotoBundleSettings :=
  ops.foldl
    (fun latest op =>
      match op with
      | .bundleSet aux' settings => if aux' = aux then settings else latest
      | _ => latest)
    none

/-- The bundle is not marked as added, and a port with its name is that of another bundle. -/
def State.NotInAsic (s : State) (q : Ptr) : Prop :=
  (s.bundle q).isAddedToSimOvs = false ∧
    ((s.world.asic.ports (s.bundle q).name).isSome = true →
      ∃ q' ∈ s.bundles, q' ≠ q ∧ (s.bundle q').isAddedToSimOvs = true ∧
        (s.bundle q').name = (s.bundle q).name)

/-- A call of `bundle_set` or `set_vlan` that renames no bundle in the ASIC, and that leaves a bond
short of members only if its bundle is blank. -/
def State.LeavesBlank (s : State) : Op → Prop
  | .bundleSet aux (some settings) =>
    (∀ q ∈ s.bundleLookup aux, (s.bundle q).isAddedToSimOvs = true →
      settings.name = (s.bundle q).name) ∧
    (settings.Short → ∀ q ∈ s.bundleLookup aux, s.IsReconfigured q → (s.bundle q).Blank)
  | .bundleSet _ none | .setVlan .. => True
  | .bundleRemove _ | .mirrorSet .. => False

instance (s : State) : ∀ op, Decidable (s.LeavesBlank op)
  | .bundleSet aux (some settings) => inferInstanceAs (Decidable (
    (∀ q ∈ s.bundleLookup aux, (s.bundle q).isAddedToSimOvs = true →
      settings.name = (s.bundle q).name) ∧
    (settings.Short → ∀ q ∈ s.bundleLookup aux, s.IsReconfigured q → (s.bundle q).Blank)))
  | .bundleSet _ none | .setVlan .. => inferInstanceAs (Decidable True)
  | .bundleRemove _ | .mirrorSet .. => inferInstanceAs (Decidable False)

def BondCall (s : State) (op : Op) (s' : State) : Prop := Sound s op s' ∧ s.LeavesBlank op

instance (s : State) (op : Op) (s' : State) : Decidable (BondCall s op s') :=
  inferInstanceAs (Decidable (_ ∧ _))

/-! ## Every port of the ASIC is that of a bundle -/

/-- Every port of the ASIC has the name of a bundle marked as added. -/
def AsicOwned (s : State) : Prop :=
  ∀ n, (s.world.asic.ports n).isSome = true →
    ∃ q ∈ s.bundles, (s.bundle q).isAddedToSimOvs = true ∧ (s.bundle q).name = n

section AsicOwned

variable {env : Env} {s s' : State} {aux q : Ptr} {settings : OfprotoBundleSettings}

theorem State.NotInAsic.of_owned (h : AsicOwned s) (hadded : (s.bundle q).isAddedToSimOvs = false) :
    s.NotInAsic q := by
  refine ⟨hadded, fun hport => ?_⟩
  obtain ⟨q', hq', hadded', hname⟩ := h _ hport
  refine ⟨q', hq', ?_, hadded', hname⟩
  rintro rfl
  rw [hadded] at hadded'
  cases hadded'

theorem AsicOwned.congr (h : AsicOwned s) (hports : s'.world.asic.ports = s.world.asic.ports)
    (hmarked : ∀ q ∈ s.bundles, (s.bundle q).isAddedToSimOvs = true →
      q ∈ s'.bundles ∧ (s'.bundle q).isAddedToSimOvs = true ∧ (s'.bundle q).name = (s.bundle q).name) :
    AsicOwned s' := by
  intro n hport
  rw [hports] at hport
  obtain ⟨q, hq, hadded, rfl⟩ := h n hport
  exact ⟨q, hmarked q hq hadded⟩

theorem isSome_asicDel {n : String} (h : ((s.asicDel q).ports n).isSome = true) :
    (s.world.asic.ports n).isSome = true ∧
      ¬ ((s.bundle q).isAddedToSimOvs = true ∧ (s.bundle q).name = n) := by
  rw [State.asicDel] at h
  split at h
  · by_cases hn : n = (s.bundle q).name
    · subst hn
      simp at h
    · simp only [Function.update_of_ne hn] at h
      exact ⟨h, fun hname => hn hname.2.symm⟩
  · rename_i hadded
    exact ⟨h, fun hname => hadded hname.1⟩

theorem AsicOwned.destroyed (h : AsicOwned s) (hnd : s.bundles.Nodup) (henv : env.Healthy)
    (hdestroyed : Destroyed env q s s') (hfits : s'.world.Fits) : AsicOwned s' := by
  intro n hport
  rw [hdestroyed.asic henv hfits] at hport
  obtain ⟨hport, hother⟩ := isSome_asicDel hport
  obtain ⟨q', hq', hadded, hname⟩ := h n hport
  have hne : q' ≠ q := by
    rintro rfl
    exact hother ⟨hadded, hname⟩
  refine ⟨q', ?_, ?_⟩
  · rw [hdestroyed.bundles, hnd.mem_erase_iff]
    exact ⟨hne, hq'⟩
  · rw [hdestroyed.bundle q' hne]
    exact ⟨hadded, hname⟩

/-- A port that is there after `bundle_configure` is the one of the bundle or was there before. -/
theorem isSome_asicConfigured {ps : List OfpPort} {n : String}
    (h : ((s.asicConfigured q ps).ports n).isSome = true) :
    (s.toBeAdded q ps).isSome = true ∧ (s.bundle q).name = n ∨
      ((s.asicDel q).ports n).isSome = true := by
  have hcleared : ((s.asicCleared q ps).ports n).isSome = true →
      ((s.asicDel q).ports n).isSome = true := by
    rw [State.asicCleared]
    split
    · rw [Asic.delNames]
      dsimp only
      split
      · exact fun h => absurd h Bool.false_ne_true
      · exact id
    · exact id
  rw [State.asicConfigured] at h
  split at h
  · rename_i columns hadd
    rw [Asic.mayAdd] at h
    split at h
    · exact .inr (hcleared h)
    · by_cases hn : n = (s.bundle q).name
      · exact .inl ⟨by rw [hadd]; rfl, hn.symm⟩
      · simp only [Function.update_of_ne hn] at h
        exact .inr (hcleared h)
  · split at h
    · exact .inr h
    · exact .inr (hcleared h)

theorem AsicOwned.configured (h : AsicOwned s) (hwf : s.WF) (hq : q ∈ s.bundles)
    (henv : env.Healthy) (hconf : Configured env q s s') (hfits : s'.world.Fits) : AsicOwned s' := by
  obtain ⟨ps, hps⟩ := hwf.members q hq
  obtain ⟨hadded, hasic⟩ := hconf.asic henv hfits ps hps
  intro n hport
  rw [hasic] at hport
  rcases isSome_asicConfigured hport with ⟨hsome, hname⟩ | hport
  · refine ⟨q, hconf.bundles ▸ hq, hadded.trans hsome, ?_⟩
    rw [hconf.bundle_self]
    exact hname
  · obtain ⟨hport, hother⟩ := isSome_asicDel hport
    obtain ⟨q', hq', hadded', hname⟩ := h n hport
    have hne : q' ≠ q := by
      rintro rfl
      exact hother ⟨hadded', hname⟩
    refine ⟨q', hconf.bundles ▸ hq', ?_⟩
    rw [hconf.bundle_ne q' hne]
    exact ⟨hadded', hname⟩

theorem AsicOwned.claimSteps {V : Ptr → Prop} (h : AsicOwned s) (henv : env.Healthy)
    (hclaims : ClaimSteps env V s s') (hfits : s'.world.Fits) : AsicOwned s' := by
  induction hclaims with
  | refl => exact h
  | tail _ hstep ih =>
    cases hstep with
    | ports hframe =>
      refine (ih (hfits.of_prefix hframe.world.log)).congr (by rw [hframe.world.asic]) ?_
      rw [hframe.bundles, hframe.bundle]
      exact fun q hq hadded => ⟨hq, hadded, rfl⟩
    | destroy hwf hq _ hdestroyed =>
      exact (ih (hfits.of_prefix hdestroyed.steps.log)).destroyed hwf.nodup henv hdestroyed hfits

theorem AsicOwned.opened (h : AsicOwned s) (hopened : Opened env aux settings q s s')
    (hrename : ∀ q ∈ s.bundleLookup aux, (s.bundle q).isAddedToSimOvs = true →
      settings.name = (s.bundle q).name) : AsicOwned s' := by
  refine h.congr (by rw [hopened.world]) fun q' hq' hadded => ?_
  by_cases hqq : q' = q
  · subst hqq
    have hfind := hopened.lookup_eq hq'
    rcases hopened.found with ⟨-, hbundles, -, hbundle⟩ | ⟨-, hfresh, -⟩
    · rw [hbundle, Ofbundle.withSettings]
      exact ⟨hbundles ▸ hq', hadded, hrename q' hfind hadded⟩
    · exact absurd hq' hfresh
  · rw [hopened.bundle_ne q' hqq]
    exact ⟨(hopened.mem_iff hqq).mpr hq', hadded, rfl⟩

theorem AsicOwned.modifyBundle (h : AsicOwned s) {f : Ofbundle → Ofbundle}
    (hf : ∀ b, (f b).isAddedToSimOvs = b.isAddedToSimOvs ∧ (f b).name = b.name) :
    AsicOwned (s.modifyBundle q f) := by
  refine h.congr rfl fun q' hq' hadded => ⟨hq', ?_⟩
  by_cases hqq : q' = q
  · subst hqq
    simp [State.modifyBundle, hf, hadded]
  · simp [State.modifyBundle, hqq, hadded]

theorem AsicOwned.applied (h : AsicOwned s) (hwf : s.WF) (hq : q ∈ s.bundles) (henv : env.Healthy)
    (happlied : Applied env q settings s s') (hfits : s'.world.Fits) : AsicOwned s' := by
  cases happlied with
  | bridge => exact h
  | routing sflow _ _ _ _ _ hasic =>
    refine h.congr (by rw [hasic henv hfits]) fun q' hq' hadded => ⟨hq', ?_⟩
    by_cases hqq : q' = q
    · subst hqq
      simpa using hadded
    · simpa [hqq] using hadded
  | mark => exact h.modifyBundle fun _ => ⟨rfl, rfl⟩
  | configured sflow _ _ _ hconf =>
    have hstored := h.modifyBundle (q := q) (f := fun b =>
      ({ b with isSflowEnabled := sflow } : Ofbundle).withVlans settings) fun _ => ⟨rfl, rfl⟩
    exact hstored.configured (hwf.modifyBundle fun _ => rfl) hq henv hconf hfits

theorem AsicOwned.bundleSet {rc : Rc} (h : AsicOwned s) (henv : env.Healthy)
    (hset : BundleSet env aux settings s s' rc) (hfits : s'.world.Fits)
    (hrename : ∀ q ∈ s.bundleLookup aux, (s.bundle q).isAddedToSimOvs = true →
      settings.name = (s.bundle q).name) : AsicOwned s' := by
  cases hset with
  | destroyed hopened _ hupdated _ hdestroyed =>
    have hclaimed := (h.opened hopened hrename).claimSteps henv hupdated.claims
      (hdestroyed.steps.fits hfits)
    exact hclaimed.destroyed hupdated.wf.nodup henv hdestroyed hfits
  | applied hopened _ hupdated _ happlied =>
    have hclaimed := (h.opened hopened hrename).claimSteps henv hupdated.claims
      (happlied.steps.fits hfits)
    exact hclaimed.applied hupdated.wf hupdated.live henv happlied hfits

end AsicOwned

/-! ## Blank bundles stay blank -/

/-- The bundle was there before, and unless it is of a kind that `set_vlan` passes over it is blank if
it was. -/
structure StaysBlank (s s' : State) (q : Ptr) : Prop where
  live : q ∈ s.bundles
  aux : (s'.bundle q).aux = (s.bundle q).aux
  blank : s'.IsReconfigured q →
    s.IsReconfigured q ∧ ((s.bundle q).Blank → (s'.bundle q).Blank)

section Blank

variable {env : Env} {s s₁ s' : State} {aux q : Ptr} {settings : OfprotoBundleSettings} {b : Ofbundle}

/-- No VLANs that are enabled bring a blank bundle into the ASIC. -/
theorem Ofbundle.Blank.wantedColumns_eq_none (h : b.Blank) (vlansBmp : VlanBitmap) :
    wantedColumns vlansBmp b = none := by
  refine if_neg fun ⟨htag, htrunks⟩ => ?_
  rcases h.2 with ⟨hmode, hvlan⟩ | ⟨hmode, trunks, hmem, hnone⟩
  · have hpos := (htag.resolve_left hmode).1
    omega
  · refine htrunks.resolve_left hmode (List.eq_nil_iff_forall_not_mem.mpr fun i hi => ?_)
    obtain ⟨hge, hle, htest⟩ := mem_vids.mp hi
    have hin : i ∈ vids (· ∈ trunks) :=
      mem_vids.mpr ⟨hge, hle, decide_eq_true ((of_decide_eq_true htest).2 trunks hmem)⟩
    rw [hnone] at hin
    cases hin

theorem blank_fresh (aux : Ptr) : (Ofbundle.fresh aux).Blank :=
  ⟨rfl, .inl ⟨by simp [Ofbundle.fresh], by simp [Ofbundle.fresh]⟩⟩

theorem StaysBlank.of_eq (hq : q ∈ s.bundles) (heq : s'.bundle q = s.bundle q) : StaysBlank s s' q where
  live := hq
  aux := by rw [heq]
  blank hkind := by
    rw [State.IsReconfigured, heq] at hkind
    exact ⟨hkind, fun hblank => heq.symm ▸ hblank⟩

theorem StaysBlank.trans (h₁ : StaysBlank s s₁ q) (h₂ : StaysBlank s₁ s' q) : StaysBlank s s' q where
  live := h₁.live
  aux := h₂.aux.trans h₁.aux
  blank hkind := by
    obtain ⟨hkind₁, hblank₂⟩ := h₂.blank hkind
    obtain ⟨hkind₀, hblank₁⟩ := h₁.blank hkind₁
    exact ⟨hkind₀, fun hblank => hblank₂ (hblank₁ hblank)⟩

theorem StaysBlank.congr (h : StaysBlank s s₁ q) (heq : s'.bundle q = s₁.bundle q) :
    StaysBlank s s' q where
  live := h.live
  aux := heq.symm ▸ h.aux
  blank hkind := by
    rw [State.IsReconfigured, heq] at hkind
    rw [heq]
    exact h.blank hkind

theorem Destroyed.staysBlank (h : Destroyed env q s s') (hnd : s.bundles.Nodup) {q' : Ptr}
    (hq' : q' ∈ s'.bundles) : StaysBlank s s' q' := by
  rw [h.bundles, hnd.mem_erase_iff] at hq'
  exact .of_eq hq'.2 (h.bundle q' hq'.1)

theorem Configured.staysBlank (h : Configured env q s s') (hwf : s.WF) (hq : q ∈ s.bundles)
    (henv : env.Healthy) (hfits : s'.world.Fits) {q' : Ptr} (hq' : q' ∈ s'.bundles) :
    StaysBlank s s' q' := by
  have hlive : q' ∈ s.bundles := h.bundles ▸ hq'
  by_cases hqq : q' = q
  · subst hqq
    refine ⟨hlive, by rw [h.bundle_self], fun hkind => ⟨?_, fun hblank => ?_⟩⟩
    · rwa [State.IsReconfigured, h.bundle_self] at hkind
    · obtain ⟨ps, hps⟩ := hwf.members q' hq
      obtain ⟨hadded, -⟩ := h.asic henv hfits ps hps
      have hnone : s.toBeAdded q' ps = none := by
        rw [State.toBeAdded, hblank.wantedColumns_eq_none, ite_self]
      rw [hnone] at hadded
      refine ⟨hadded, ?_⟩
      rw [h.bundle_self]
      exact hblank.2
  · exact .of_eq hlive (h.bundle_ne q' hqq)

/-- The loop of `bundle_set_reconfigure` brings no blank bundle into the ASIC. -/
theorem Reconfigured.asicOwned {qs : List Ptr} (h : Reconfigured env qs s s') (henv : env.Healthy)
    (hfits : s'.world.Fits) (hs : AsicOwned s) :
    AsicOwned s' ∧ ∀ q ∈ s'.bundles, StaysBlank s s' q := by
  induction h with
  | nil => exact ⟨hs, fun q hq => .of_eq hq rfl⟩
  | skip _ _ ih => exact ih hfits hs
  | configure hwf hq _ hconf hrest ih =>
    have hfits₁ := hrest.steps.fits hfits
    obtain ⟨hs', hstays⟩ := ih hfits (hs.configured hwf hq henv hconf hfits₁)
    refine ⟨hs', fun q' hq' => ?_⟩
    have hlater := hstays q' hq'
    exact (hconf.staysBlank hwf hq henv hfits₁ hlater.live).trans hlater

theorem SetVlan.asicOwned {vid : ℤ} {add : Bool} (h : SetVlan env vid add s s') (henv : env.Healthy)
    (hfits : s'.world.Fits) (hs : AsicOwned s) :
    AsicOwned s' ∧ ∀ q ∈ s'.bundles, StaysBlank s s' q := by
  cases h with
  | unchanged => exact ⟨hs, fun q hq => .of_eq hq rfl⟩
  | vrf => exact ⟨hs, fun q hq => .of_eq hq rfl⟩
  | changed _ _ _ hrest =>
    obtain ⟨hs', hstays⟩ := hrest.asicOwned henv hfits hs
    exact ⟨hs', fun q hq => ⟨(hstays q hq).live, (hstays q hq).aux, (hstays q hq).blank⟩⟩

theorem Applied.bundle_ne (h : Applied env q settings s s') {q' : Ptr} (hne : q' ≠ q) :
    s'.bundle q' = s.bundle q' := by
  cases h with
  | bridge => rfl
  | routing => exact Function.update_of_ne hne _ _
  | mark => exact Function.update_of_ne hne _ _
  | configured _ _ _ _ hconf =>
    exact (hconf.bundle_ne q' hne).trans (Function.update_of_ne hne _ _)

/-- A bundle of another key is left as it is or destroyed. -/
theorem BundleSet.staysBlank {rc : Rc} (h : BundleSet env aux settings s s' rc) {q' : Ptr}
    (hq' : q' ∈ s'.bundles) (haux : (s'.bundle q').aux ≠ aux) : StaysBlank s s' q' := by
  have hback : ∀ {q s₁ s₂}, Opened env aux settings q s s₁ → Updated env q settings.slaves s₁ s₂ →
      q' ≠ q → q' ∈ s₂.bundles → q' ∈ s.bundles ∧ s₂.bundle q' = s.bundle q' := by
    intro q s₁ s₂ hopened hupdated hne hq₂
    obtain ⟨hq₁, hsame⟩ := hupdated.claims.frame.sub q' hq₂
    exact ⟨(hopened.mem_iff hne).mp hq₁, hsame.trans (hopened.bundle_ne q' hne)⟩
  cases h with
  | destroyed hopened _ hupdated _ hdestroyed =>
    rw [hdestroyed.bundles, hupdated.wf.nodup.mem_erase_iff] at hq'
    obtain ⟨hlive, hsame⟩ := hback hopened hupdated hq'.1 hq'.2
    exact .of_eq hlive ((hdestroyed.bundle q' hq'.1).trans hsame)
  | @applied q s₁ s₂ _ hopened _ hupdated _ happlied =>
    obtain ⟨-, hbundles, -, hkeys⟩ := happlied.frame
    have hne : q' ≠ q := by
      rintro rfl
      rw [hkeys, (hupdated.claims.frame.sub q' hupdated.live).2] at haux
      exact haux hopened.aux_eq
    obtain ⟨hlive, hsame⟩ := hback hopened hupdated hne (hbundles ▸ hq')
    exact .of_eq hlive ((happlied.bundle_ne hne).trans hsame)

end Blank

/-! ## `bundle_set` for a bond short of members -/

section Short

variable {env : Env} {s s' : State} {aux q : Ptr} {settings : OfprotoBundleSettings}

/-- The settings are not stored, unless the bundle becomes one that `set_vlan` passes over. -/
theorem bundleApply_short (hq : q ∈ s.bundles) (hname : (s.bundle q).name = settings.name)
    (hshort : settings.Short) :
    (bundleApply env s q settings).Ensures Fault.OfInput fun s' =>
      s'.bundles = s.bundles ∧ ∀ q' ∈ s.bundles, StaysBlank s s' q' := by
  have hmodify : ∀ (f : Ofbundle → Ofbundle), (f (s.bundle q)).aux = (s.bundle q).aux →
      ((f (s.bundle q)).isVlanRoutingEnabled = false ∧ (f (s.bundle q)).isBridgeBundle = false →
        s.IsReconfigured q ∧ ((s.bundle q).Blank → (f (s.bundle q)).Blank)) →
      ∀ q' ∈ s.bundles, StaysBlank s (s.modifyBundle q f) q' := by
    intro f haux hf q' hq'
    by_cases hqq : q' = q
    · subst hqq
      refine ⟨hq', ?_, ?_⟩
      · simpa [State.modifyBundle] using haux
      · simpa [State.IsReconfigured, State.modifyBundle] using hf
    · exact .of_eq hq' (Function.update_of_ne hqq _ _)
  refine bundleApply_rule hq hname ?_ ?_ ?_ ?_
  · exact fun _ => ⟨rfl, fun q' hq' => .of_eq hq' rfl⟩
  · intro sflow _ _
    refine (simBridgeVlanRoutingUpdate_ensures _ settings.vlan true).mono ?_
    rintro s' ⟨bmp, w, rfl, -⟩
    refine ⟨rfl, fun q' hq' => ?_⟩
    have hrouting := hmodify (fun b => { b with
      isSflowEnabled := sflow
      vlan := settings.vlan
      isVlanRoutingEnabled := true }) rfl (fun hkind => absurd hkind.1 (by simp)) q' hq'
    exact hrouting.congr (by simp [State.modifyBundle])
  · intro sflow bridge hbridge _ _
    exact ⟨rfl, hmodify _ rfl fun hkind => ⟨⟨hkind.1, hbridge⟩, id⟩⟩
  · exact fun _ _ hconf => absurd hshort hconf.2.2.2

/-- The bundle of a bond short of members is new or was blank before. -/
theorem State.WF.bundleSet_short (h : s.WF) (hsound : Sound s (.bundleSet aux (some settings)) s')
    (hshort : settings.Short)
    (hblank : ∀ q ∈ s.bundleLookup aux, s.IsReconfigured q → (s.bundle q).Blank) :
    (bundleSet env s aux (some settings)).Ensures Fault.OfInput fun r => ∀ q ∈ r.1.bundles,
      (r.1.bundle q).aux = aux → r.1.IsReconfigured q → (r.1.bundle q).Blank := by
  have hkey : ∀ {q s₁ s₂}, Opened env aux settings q s s₁ → Updated env q settings.slaves s₁ s₂ →
      ∀ q' ∈ s₂.bundles, (s₂.bundle q').aux = aux → q' = q := by
    intro q s₁ s₂ hopened hupdated q' hq' haux
    refine hupdated.wf.aux q' hq' q hupdated.live (haux.trans ?_)
    rw [(hupdated.claims.frame.sub q hupdated.live).2]
    exact hopened.aux_eq.symm
  refine h.bundleSet_rule (Q := fun _ _ _ => True) hsound.1 hsound.2 ?_ ?_ ?_
  · intro q s₁ _ hwf₁ hq hnolag
    exact (updatePorts_ensures hwf₁ hq hnolag).mono fun s₂ hupdated => ⟨hupdated, trivial⟩
  · intro q s₁ s₂ hopened _ hupdated _ _ _
    refine (hupdated.wf.bundleDestroy hupdated.live).mono fun s' ⟨_, hdestroyed⟩ q' hq' haux => ?_
    rw [hdestroyed.bundles, hupdated.wf.nodup.mem_erase_iff] at hq'
    rw [hdestroyed.bundle q' hq'.1] at haux
    exact absurd (hkey hopened hupdated q' hq'.2 haux) hq'.1
  · intro q s₁ s₂ ps hopened _ hupdated _ _ _ _ hname
    refine (bundleApply_short hupdated.live hname hshort).mono ?_
    intro s' ⟨hbundles, hstays⟩ q' hq' haux hkind
    have hq₂ : q' ∈ s₂.bundles := hbundles ▸ hq'
    obtain ⟨hkind₂, hkept⟩ := (hstays q' hq₂).blank hkind
    obtain rfl := hkey hopened hupdated q' hq₂ ((hstays q' hq₂).aux ▸ haux)
    refine hkept ?_
    -- the ports were updated, and the bundle is as it was opened
    rw [State.IsReconfigured, (hupdated.claims.frame.sub q' hq₂).2] at hkind₂
    rw [(hupdated.claims.frame.sub q' hq₂).2]
    rcases hopened.found with ⟨hfind, -, -, hbundle⟩ | ⟨-, -, -, -, hbundle⟩
    · rw [hbundle] at hkind₂ ⊢
      exact hblank q' hfind hkind₂
    · rw [hbundle]
      exact blank_fresh aux

end Short

/-! ## Runs -/

/-- The bundles whose latest `bundle_set` was for a bond short of members are blank. -/
def ShortBlank (ops : List Op) (s : State) : Prop :=
  ∀ aux settings, latestSettings aux ops = some settings → settings.Short →
    ∀ q ∈ s.bundles, (s.bundle q).aux = aux → s.IsReconfigured q → (s.bundle q).Blank

section Run

variable {env : Env} {s s' : State} {ops : List Op} {op : Op}

theorem latestSettings_bundleSet (ops : List Op) (aux aux' : Ptr)
    (settings : Option OfprotoBundleSettings) :
    latestSettings aux (ops ++ [.bundleSet aux' settings]) =
      if aux' = aux then settings else latestSettings aux ops := by
  rw [latestSettings, List.foldl_append]
  rfl

theorem latestSettings_setVlan (ops : List Op) (aux : Ptr) (vid : ℤ) (add : Bool) :
    latestSettings aux (ops ++ [.setVlan vid add]) = latestSettings aux ops := by
  rw [latestSettings, List.foldl_append]
  rfl

/-- One call. -/
theorem ShortBlank.step (h : ShortBlank ops s) (hwf : s.WF) (hs : AsicOwned s) (henv : env.Healthy)
    (hcall : BondCall s op s') (hstep : step env s op = .ok s') (hfits : s'.world.Fits) :
    AsicOwned s' ∧ ShortBlank (ops ++ [op]) s' := by
  obtain ⟨hsound, hleaves⟩ := hcall
  -- a bundle with another latest call
  have hkeep : ∀ {aux settings q}, latestSettings aux ops = some settings → settings.Short →
      StaysBlank s s' q → (s'.bundle q).aux = aux → s'.IsReconfigured q → (s'.bundle q).Blank := by
    intro aux settings q hlatest hshort hstays haux hkind
    obtain ⟨hkind₀, hblank⟩ := hstays.blank hkind
    exact hblank (h aux settings hlatest hshort q hstays.live (hstays.aux ▸ haux) hkind₀)
  obtain ⟨-, heffect⟩ := hwf.step hsound.1 hsound.2 hstep
  cases heffect with
  | absent =>
    refine ⟨hs, fun aux settings hlatest hshort q hq haux hkind => ?_⟩
    rw [latestSettings_bundleSet] at hlatest
    split at hlatest
    · cases hlatest
    · exact h aux settings hlatest hshort q hq haux hkind
  | deleted hfind hdestroyed =>
    refine ⟨hs.destroyed hwf.nodup henv hdestroyed hfits,
      fun aux settings hlatest hshort q hq haux hkind => ?_⟩
    rw [latestSettings_bundleSet] at hlatest
    split at hlatest
    · cases hlatest
    · exact hkeep hlatest hshort (hdestroyed.staysBlank hwf.nodup hq) haux hkind
  | @set aux' settings' _ _ hset =>
    refine ⟨hs.bundleSet henv hset hfits hleaves.1,
      fun aux settings hlatest hshort q hq haux hkind => ?_⟩
    rw [latestSettings_bundleSet] at hlatest
    split at hlatest
    · rename_i heq
      subst heq
      obtain rfl := Option.some.inj hlatest
      obtain ⟨rc, hok⟩ := map_fst_eq_ok hstep
      exact (hwf.bundleSet_short hsound hshort (hleaves.2 hshort)).of_ok hok q hq haux hkind
    · rename_i hne
      have hother : (s'.bundle q).aux ≠ aux' := fun heq => hne (heq.symm.trans haux)
      exact hkeep hlatest hshort (hset.staysBlank hq hother) haux hkind
  | vlan hvlan =>
    obtain ⟨hs', hstays⟩ := hvlan.asicOwned henv hfits hs
    refine ⟨hs', fun aux settings hlatest hshort q hq haux hkind => ?_⟩
    rw [latestSettings_setVlan] at hlatest
    exact hkeep hlatest hshort (hstays q hq) haux hkind
  | kept | removed | mirror => exact hleaves.elim

end Run

/-- In every run of such calls, a bundle whose latest `bundle_set` was for a bond short of members has
no port in the ASIC. -/
theorem short_bond_not_in_asic (env : Env) (henv : env.Healthy) {s₀ s : State} (h₀ : Initial s₀)
    {ops : List Op} (hmeets : RunMeets env BondCall s₀ ops) (hrun : run env s₀ ops = .ok s)
    (hfits : s.world.Fits) {aux q : Ptr} {settings : OfprotoBundleSettings}
    (hlatest : latestSettings aux ops = some settings) (hshort : settings.Short)
    (hlookup : s.bundleLookup aux = some q) (hkind : s.IsReconfigured q) : s.NotInAsic q := by
  have hinv : ∃ s, run env s₀ ops = .ok s ∧
      s.WF ∧ (s.world.Fits → AsicOwned s ∧ ShortBlank ops s) := by
    refine hmeets.invariant (I := fun ops s => s.WF ∧ (s.world.Fits → AsicOwned s ∧ ShortBlank ops s))
      ⟨h₀.wf, fun _ => ⟨fun n hn => ?_, fun aux settings hlatest => ?_⟩⟩ ?_
    · rw [h₀.asicPorts] at hn
      cases hn
    · cases hlatest
    · intro ops s op s' ⟨hwf, hs⟩ hcall hstep
      obtain ⟨hwf', heffect⟩ := hwf.step hcall.1.1 hcall.1.2 hstep
      refine ⟨hwf', fun hfits' => ?_⟩
      obtain ⟨howned, hblank⟩ := hs (heffect.steps.fits hfits')
      exact hblank.step hwf howned henv hcall hstep hfits'
  obtain ⟨s', hrun', hwf, hs⟩ := hinv
  obtain rfl : s = s' := Except.ok.inj (hrun.symm.trans hrun')
  obtain ⟨howned, hblank⟩ := hs hfits
  obtain ⟨hq, haux⟩ := hwf.bundleLookup_eq_some_iff.mp hlookup
  exact .of_owned howned (hblank aux settings hlatest hshort q hq haux hkind).1

/-- A bond of the ports 1 and 2 that is given `slaves`. -/
private def bondSettings (slaves : List OfpPort) : OfprotoBundleSettings :=
  { sampleSettings "bond0" slaves true with slavesEntered := 2 }

/-- A bond that never had two members, with a change of its VLAN in between. -/
theorem short_bond_not_in_asic_of_new : ∃ s q,
    run sampleEnv (sampleState false) [.bundleSet 100 (some (bondSettings [1])), .setVlan 10 true] =
      .ok s ∧ s.bundleLookup 100 = some q ∧ s.NotInAsic q := by
  let ops : List Op := [.bundleSet 100 (some (bondSettings [1])), .setVlan 10 true]
  have hmeets : RunMeets sampleEnv BondCall (sampleState false) ops := by decide +kernel
  have hobs : (run sampleEnv (sampleState false) ops).toOption.map (fun s =>
      decide (s.world.Fits ∧ s.bundleLookup 100 = some 1 ∧ s.IsReconfigured 1)) = some true := by
    decide +kernel
  obtain ⟨s, hrun, -, hs⟩ := Reaches.of_observed hmeets hobs
  obtain ⟨hfits, hlookup, hkind⟩ := of_decide_eq_true hs
  have hlatest : latestSettings 100 ops = some (bondSettings [1]) := rfl
  have hshort : (bondSettings [1]).Short := by decide
  exact ⟨s, 1, hrun, hlookup, short_bond_not_in_asic sampleEnv sampleEnv_healthy
    (sampleState_initial false) hmeets hrun hfits hlatest hshort hlookup hkind⟩

/-- A bond that shrinks from two members to one keeps its port. -/
theorem short_bond_left_in_asic : ¬ ∀ (env : Env) (s₀ s : State) (ops : List Op), env.Healthy →
    Initial s₀ → s₀.vrf = false → RunMeets env Sound s₀ ops →
    (∀ op ∈ ops, (∃ aux settings, op = .bundleSet aux settings) ∨ ∃ vid add, op = .setVlan vid add) →
    run env s₀ ops = .ok s → s.world.Fits → ∀ aux q settings,
    latestSettings aux ops = some settings → settings.Short → s.bundleLookup aux = some q →
    s.IsReconfigured q → s.NotInAsic q := by
  intro hall
  let ops : List Op := [.setVlan 10 true, .bundleSet 100 (some (bondSettings [1, 2])),
    .bundleSet 100 (some (bondSettings [1]))]
  have hmeets : RunMeets sampleEnv Sound (sampleState false) ops := by decide +kernel
  have hobs : (run sampleEnv (sampleState false) ops).toOption.map (fun s =>
      decide (s.world.Fits ∧ s.bundleLookup 100 = some 1 ∧ s.IsReconfigured 1 ∧
        (s.world.asic.ports (s.bundle 1).name).isSome ∧ s.bundles = [1])) = some true := by
    decide +kernel
  obtain ⟨s, hrun, -, hs⟩ := Reaches.of_observed hmeets hobs
  obtain ⟨hfits, hlookup, hkind, hport, hbundles⟩ := of_decide_eq_true hs
  have hkinds : ∀ op ∈ ops, (∃ aux settings, op = .bundleSet aux settings) ∨
      ∃ vid add, op = .setVlan vid add := by
    simp [ops]
  have hlatest : latestSettings 100 ops = some (bondSettings [1]) := rfl
  have hshort : (bondSettings [1]).Short := by decide
  have hnot := hall sampleEnv _ s ops sampleEnv_healthy (sampleState_initial false) rfl hmeets hkinds
    hrun hfits 100 1 _ hlatest hshort hlookup hkind
  obtain ⟨q', hq', hne, -⟩ := hnot.2 hport
  rw [hbundles, List.mem_singleton] at hq'
  exact hne hq'

end ContainerPlugin.Ofproto
