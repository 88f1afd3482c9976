import ContainerPlugin.Lib.Interleave
import ContainerPlugin.Ofproto.Blocked
import ContainerPlugin.Ofproto.L3Requests

/-!
# All providers

The bridges and the VRFs of `all_sim_provider_nodes` are called in any order and act on the same
machine. None of them looks for the others: what keeps them apart is that every name of a netdev or of
a bundle is used by one of them only. Then each of them guarantees to leave alone what the others
have set up, and has its own part of the machine to itself.
-/

namespace ContainerPlugin.Ofproto

/-- The netdevs of the ports and the bundles have names with `P`. -/
structure State.Within (P : String → Prop) (s : State) : Prop where
  ports : ∀ p ∈ s.ports, P (s.port p).name
  bundles : ∀ q ∈ s.bundles, P (s.bundle q).name

/-- A call that gives no other name to a bundle. -/
def Op.Within (P : String → Prop) : Op → Prop
  | .bundleSet _ (some settings) => P settings.name
  | .bundleSet _ none | .bundleRemove _ | .setVlan .. | .mirrorSet .. => True

instance (P : String → Prop) [DecidablePred P] : ∀ op : Op, Decidable (op.Within P)
  | .bundleSet _ (some settings) => inferInstanceAs (Decidable (P settings.name))
  | .bundleSet _ none | .bundleRemove _ | .setVlan .. | .mirrorSet .. =>
    inferInstanceAs (Decidable True)

/-! ## What a provider guarantees of the ASIC -/

/-- The names stay among those with `P`, and the ASIC keeps the ports with other names. -/
structure Confined (P : String → Prop) (s s' : State) : Prop where
  within : s'.Within P
  asicPorts : ∀ n, ¬ P n → s'.world.asic.ports n = s.world.asic.ports n

section Confined

variable {env : Env} {P : String → Prop} {s s₁ s₂ s' : State} {q aux : Ptr}
  {settings : OfprotoBundleSettings} {op : Op}

theorem Confined.trans (h : Confined P s s₁) (h' : Confined P s₁ s') : Confined P s s' :=
  ⟨h'.within, fun n hn => (h'.asicPorts n hn).trans (h.asicPorts n hn)⟩

/-- Where the ports of the ASIC stay as they are. -/
theorem State.Within.confined (h : s.Within P) (hports : s'.ports = s.ports)
    (hnetdev : ∀ p, (s'.port p).name = (s.port p).name)
    (hbundles : ∀ q ∈ s'.bundles, q ∈ s.bundles ∧ (s'.bundle q).name = (s.bundle q).name)
    (hasic : ∀ n, ¬ P n → s'.world.asic.ports n = s.world.asic.ports n) : Confined P s s' := by
  refine ⟨⟨fun p hp => ?_, fun q hq => ?_⟩, hasic⟩
  · rw [hnetdev]
    exact h.ports p (hports ▸ hp)
  · rw [(hbundles q hq).2]
    exact h.bundles q (hbundles q hq).1

theorem ports_asicDel {n : String} (hn : (s.bundle q).name ≠ n) :
    (s.asicDel q).ports n = s.world.asic.ports n := by
  rw [State.asicDel]
  split
  · exact Function.update_of_ne hn.symm ..
  · rfl

theorem State.Within.destroyed (h : s.Within P) (hnd : s.bundles.Nodup) (hq : q ∈ s.bundles)
    (henv : env.Healthy) (hdestroyed : Destroyed env q s s') (hfits : s'.world.Fits) :
    Confined P s s' := by
  refine h.confined hdestroyed.ports (fun p => (hdestroyed.netdev p).1) (fun q' hq' => ?_) fun n hn => ?_
  · rw [hdestroyed.bundles, hnd.mem_erase_iff] at hq'
    rw [hdestroyed.bundle q' hq'.1]
    exact ⟨hq'.2, rfl⟩
  · rw [hdestroyed.asic henv hfits]
    refine ports_asicDel ?_
    rintro rfl
    exact hn (h.bundles q hq)

theorem State.Within.configured (h : s.Within P) (hwf : s.WF) (hq : q ∈ s.bundles)
    (henv : env.Healthy) (hconf : Configured env q s s') (hvrf : s.vrf = false)
    (hfits : s'.world.Fits) : Confined P s s' := by
  obtain ⟨ps, hps⟩ := hwf.members q hq
  refine h.confined hconf.ports (fun p => (hconf.port p).2) (fun q' hq' => ?_) fun n hn => ?_
  · rw [hconf.bundle q', ← hconf.bundles]
    exact ⟨hq', rfl⟩
  · have hself : n ≠ (s.bundle q).name := by
      rintro rfl
      exact hn (h.bundles q hq)
    rw [(hconf.asic henv hfits ps hps).2, State.ports_asicConfigured_ne ps hvrf hself, if_neg]
    rintro ⟨-, hmem⟩
    obtain ⟨p, hp, rfl⟩ := List.mem_map.mp hmem
    exact hn (h.ports p ((hps.mem_iff p).mp hp).1)

theorem State.Within.opened (h : s.Within P) (hopened : Opened env aux settings q s s₁)
    (hname : P settings.name) : Confined P s s₁ := by
  refine ⟨⟨fun p hp => ?_, fun q' hq' => ?_⟩, fun n _ => by rw [hopened.world]⟩
  · rw [hopened.frame.port]
    exact h.ports p (hopened.frame.ports ▸ hp)
  · by_cases hqq : q' = q
    · rw [hqq, hopened.name_eq]
      exact hname
    · rw [hopened.bundle_ne q' hqq]
      exact h.bundles q' ((hopened.mem_iff hqq).mp hq')

theorem State.Within.updated (h : s₁.Within P) (henv : env.Healthy)
    (hupdated : Updated env q settings.slaves s₁ s₂) (hfits : s₂.world.Fits) : Confined P s₁ s₂ := by
  have hframe := hupdated.claims.frame
  refine h.confined hframe.ports (fun p => (hframe.netdev p).1) (fun q' hq' => ?_) fun n hn => ?_
  · obtain ⟨hq₁, hbundle⟩ := hframe.sub q' hq'
    rw [hbundle]
    exact ⟨hq₁, rfl⟩
  · rw [ClaimSteps.asicPorts hupdated.claims henv hfits, if_neg]
    rintro ⟨q', hq', -, -, rfl⟩
    exact hn (h.bundles q' hq')

theorem State.Within.applied (h : s.Within P) (hwf : s.WF) (hq : q ∈ s.bundles) (henv : env.Healthy)
    (happlied : Applied env q settings s s') (hfits : s'.world.Fits) : Confined P s s' := by
  have hmodified : ∀ f : Ofbundle → Ofbundle, (∀ b, (f b).name = b.name) →
      Confined P s (s.modifyBundle q f) := by
    intro f hf
    refine h.confined rfl (fun _ => rfl) (fun q' hq' => ⟨hq', ?_⟩) fun _ _ => rfl
    by_cases hqq : q' = q
    · simp [State.modifyBundle, hqq, hf]
    · simp [State.modifyBundle, hqq]
  cases happlied with
  | bridge => exact ⟨h, fun _ _ => rfl⟩
  | routing sflow _ _ _ _ _ hasic =>
    refine h.confined rfl (fun _ => rfl) (fun q' hq' => ⟨hq', ?_⟩) fun n _ => by rw [hasic henv hfits]
    by_cases hqq : q' = q
    · simp [hqq]
    · simp [hqq]
  | mark sflow bridge => exact hmodified _ fun _ => rfl
  | configured sflow _ hvrf _ hconf =>
    have hset := hmodified (fun b => ({ b with isSflowEnabled := sflow } : Ofbundle).withVlans settings)
      fun _ => rfl
    exact hset.trans (hset.within.configured (hwf.modifyBundle fun _ => rfl) hq henv hconf hvrf hfits)

theorem State.Within.reconfigured {qs : List Ptr} (h : s.Within P) (hvrf : s.vrf = false)
    (henv : env.Healthy) (hre : Reconfigured env qs s s') (hfits : s'.world.Fits) :
    Confined P s s' := by
  induction hre with
  | nil => exact ⟨h, fun _ _ => rfl⟩
  | skip _ _ ih => exact ih h hvrf hfits
  | configure hwf hq _ hconf hrest ih =>
    have hfirst := h.configured hwf hq henv hconf hvrf (hrest.steps.fits hfits)
    exact hfirst.trans (ih hfirst.within (hconf.vrf.trans hvrf) hfits)

/-- A call leaves the ports of the ASIC alone that have other names. -/
theorem State.Within.step (h : s.Within P) (hwf : s.WF) (henv : env.Healthy) (hsound : Sound s op s')
    (hop : op.Within P) (hstep : step env s op = .ok s') (hfits : s'.world.Fits) : Confined P s s' := by
  obtain ⟨-, heffect⟩ := hwf.step hsound.1 hsound.2 hstep
  cases heffect with
  | absent | kept => exact ⟨h, fun _ _ => rfl⟩
  | deleted hfind hdestroyed =>
    have hq := (hwf.bundleLookup_eq_some_iff.mp hfind).1
    exact h.destroyed hwf.nodup hq henv hdestroyed hfits
  | removed hp hb _ hdestroyed =>
    exact h.destroyed hwf.nodup (hwf.owner _ hp _ hb) henv hdestroyed hfits
  | set hset =>
    cases hset with
    | destroyed hopened _ hupdated _ hdestroyed =>
      have hfits₂ := hdestroyed.steps.fits hfits
      have h₁ := h.opened hopened hop
      have h₂ := h₁.trans (h₁.within.updated henv hupdated hfits₂)
      exact h₂.trans (h₂.within.destroyed hupdated.wf.nodup hupdated.live henv hdestroyed hfits)
    | applied hopened _ hupdated _ happlied =>
      have hfits₂ := happlied.steps.fits hfits
      have h₁ := h.opened hopened hop
      have h₂ := h₁.trans (h₁.within.updated henv hupdated hfits₂)
      exact h₂.trans (h₂.within.applied hupdated.wf hupdated.live henv happlied hfits)
  | vlan hvlan =>
    cases hvlan with
    | unchanged => exact ⟨h, fun _ _ => rfl⟩
    | vrf => exact h.confined rfl (fun _ => rfl) (fun q hq => ⟨hq, rfl⟩) fun _ _ => rfl
    | @changed bmp _ hvrf _ _ hre =>
      have hset : Confined P s { s with vlansBmp := bmp } :=
        h.confined rfl (fun _ => rfl) (fun q hq => ⟨hq, rfl⟩) fun _ _ => rfl
      exact hset.trans (hset.within.reconfigured hvrf henv hre hfits)
  | mirror hmirror =>
    have hframe := hmirror.frame
    refine h.confined hframe.ovs.ports (fun p => by rw [hframe.ovs.port]) (fun q hq => ?_) fun n _ => ?_
    · rw [hframe.bundle]
      exact ⟨hframe.bundles ▸ hq, rfl⟩
    · rw [(mirrorInvariant_asicPorts henv s).mirrorSet hmirror (fun _ => rfl) hfits]

end Confined

/-! ## Providers on one machine -/

/-- A provider as it finds the world. -/
def State.inWorld (s : State) (w : World) : State := { s with world := w }

/-- The world and the providers of `all_sim_provider_nodes`, each with the world as it last left it. -/
abbrev Providers (ι : Type*) := World × (ι → State)

def Providers.provider {ι : Type*} (ps : Providers ι) (i : ι) : State := (ps.2 i).inWorld ps.1

/-- A call is made on the provider `i`. -/
def Called {ι : Type*} (env : Env) (C : ι → State → Op → State → Prop) (i : ι)
    (x y : World × State) : Prop :=
  ∃ op, Ofproto.step env (x.2.inWorld x.1) op = .ok y.2 ∧ y.1 = y.2.world ∧
    C i (x.2.inWorld x.1) op y.2

section Providers

variable {ι : Type*} [DecidableEq ι]

/-- `ps'` is reached from `ps` by calls on any of the providers that all meet `C`. -/
def Providers.Reaches (env : Env) (C : ι → State → Op → State → Prop) :
    Providers ι → Providers ι → Prop :=
  Relation.ReflTransGen (Interleave.Step (Called env C))

def Providers.call (env : Env) (ps : Providers ι) (i : ι) (op : Op) : Except Fault (Providers ι) :=
  (Ofproto.step env (ps.provider i) op).map fun s => (s.world, Function.update ps.2 i s)

def Providers.run (env : Env) (ps : Providers ι) (calls : List (ι × Op)) :
    Except Fault (Providers ι) :=
  calls.foldlM (fun ps c => ps.call env c.1 c.2) ps

/-- The calls return, and all of them meet `C`. -/
def Providers.RunMeets (env : Env) (C : ι → State → Op → State → Prop) :
    Providers ι → List (ι × Op) → Prop
  | _, [] => True
  | ps, c :: calls =>
    match Ofproto.step env (ps.provider c.1) c.2 with
    | .ok s => C c.1 (ps.provider c.1) c.2 s ∧
        RunMeets env C (s.world, Function.update ps.2 c.1 s) calls
    | .error _ => False

instance Providers.RunMeets.decidable (env : Env) (C : ι → State → Op → State → Prop)
    [∀ i s op s', Decidable (C i s op s')] : ∀ ps calls, Decidable (RunMeets env C ps calls)
  | _, [] => inferInstanceAs (Decidable True)
  | ps, c :: calls =>
    match h : Ofproto.step env (ps.provider c.1) c.2 with
    | .ok s =>
      have := RunMeets.decidable env C (s.world, Function.update ps.2 c.1 s) calls
      decidable_of_iff (C c.1 (ps.provider c.1) c.2 s ∧
        RunMeets env C (s.world, Function.update ps.2 c.1 s) calls) (by rw [RunMeets, h])
    | .error _ => .isFalse (by rw [RunMeets, h]; exact id)

variable {env : Env} {C : ι → State → Op → State → Prop} {ps₀ ps : Providers ι}

/-- A run whose calls meet `C` reaches its last state, of which something is observed. -/
theorem Providers.Reaches.of_observed {β : Type} {calls : List (ι × Op)} {observe : Providers ι → β}
    {b : β} (h : RunMeets env C ps₀ calls)
    (hobs : (ps₀.run env calls).toOption.map observe = some b) :
    ∃ ps, ps₀.run env calls = .ok ps ∧ Reaches env C ps₀ ps ∧ observe ps = b := by
  suffices hgen : ∀ ps₁, RunMeets env C ps₁ calls →
      ∃ ps, ps₁.run env calls = .ok ps ∧ Reaches env C ps₁ ps by
    obtain ⟨ps, hrun, hreaches⟩ := hgen ps₀ h
    rw [hrun] at hobs
    exact ⟨ps, hrun, hreaches, Option.some.inj hobs⟩
  clear h hobs
  induction calls with
  | nil => exact fun ps₁ _ => ⟨ps₁, rfl, .refl⟩
  | cons c calls ih =>
    intro ps₁ h
    rw [RunMeets] at h
    split at h
    · rename_i s hs
      obtain ⟨ps, hrun, hreaches⟩ := ih _ h.2
      refine ⟨ps, ?_, .head ⟨c.1, (s.world, s), ⟨c.2, hs, rfl, h.1⟩, rfl⟩ hreaches⟩
      rw [Providers.run, List.foldlM_cons, Providers.call, hs]
      exact hrun
    · exact h.elim

end Providers

/-- The bridges `br0` and `br1` and the VRF `br2`, with four ports each: `eth1` to `eth4`, `eth5` to
`eth8`, and so on. -/
def sampleProviders : Providers (Fin 3) :=
  (⟨[], ⟨fun _ => none, [0], []⟩, [], []⟩, fun i =>
    { sampleState (i = 2) with
      name := "br" ++ toString i
      port := fun p => ⟨"eth" ++ toString (4 * i.val + p), .system, none, false⟩ })

def sampleOwner (n : String) : Fin 3 :=
  if n ∈ ["eth1", "eth2", "eth3", "eth4"] then 0
  else if n ∈ ["eth5", "eth6", "eth7", "eth8"] then 1
  else 2

theorem sampleProviders_constructed (i : Fin 3) : Constructed (sampleProviders.provider i) :=
  ⟨rfl, rfl, rfl, rfl, fun _ _ => rfl, fun _ _ => rfl⟩

theorem sampleProviders_owner : ∀ i, ∀ p ∈ (sampleProviders.provider i).ports,
    sampleOwner ((sampleProviders.provider i).port p).name = i := by
  decide +kernel

/-! ## The ASIC -/

/-- No bundle has a port in the ASIC. -/
def State.Unmarked (s : State) : Prop := ∀ q ∈ s.bundles, (s.bundle q).isAddedToSimOvs = false

section Unmarked

variable {env : Env} {s s₁ s₂ s' : State} {q aux : Ptr} {settings : OfprotoBundleSettings} {op : Op}

theorem State.Unmarked.destroyed (h : s.Unmarked) (hnd : s.bundles.Nodup) (hq : q ∈ s.bundles)
    (henv : env.Healthy) (hdestroyed : Destroyed env q s s') : s'.Unmarked ∧
      (s'.world.Fits → s'.world.asic.ports = s.world.asic.ports) := by
  refine ⟨fun q' hq' => ?_, fun hfits => ?_⟩
  · rw [hdestroyed.bundles, hnd.mem_erase_iff] at hq'
    rw [hdestroyed.bundle q' hq'.1]
    exact h q' hq'.2
  · rw [hdestroyed.asic henv hfits, State.asicDel, h q hq]
    rfl

theorem State.Unmarked.opened (h : s.Unmarked) (hopened : Opened env aux settings q s s₁) :
    s₁.Unmarked := by
  intro q' hq'
  by_cases hqq : q' = q
  · subst hqq
    rcases hopened.found with ⟨-, hbundles, -, hbundle⟩ | ⟨-, -, -, -, hbundle⟩
    · rw [hbundle]
      exact h q' (hbundles ▸ hq')
    · rw [hbundle]
      rfl
  · rw [hopened.bundle_ne q' hqq]
    exact h q' ((hopened.mem_iff hqq).mp hq')

theorem State.Unmarked.updated (h : s₁.Unmarked) (henv : env.Healthy)
    (hupdated : Updated env q settings.slaves s₁ s₂) : s₂.Unmarked ∧
      (s₂.world.Fits → s₂.world.asic.ports = s₁.world.asic.ports) := by
  refine ⟨fun q' hq' => ?_, fun hfits => funext fun n => ?_⟩
  · obtain ⟨hq₁, hbundle⟩ := hupdated.claims.frame.sub q' hq'
    rw [hbundle]
    exact h q' hq₁
  · rw [ClaimSteps.asicPorts hupdated.claims henv hfits, if_neg]
    rintro ⟨q', hq', -, hmark, -⟩
    rw [h q' hq'] at hmark
    cases hmark

/-- `bundle_set` configures no bundle of a VRF. -/
theorem State.Unmarked.applied (h : s.Unmarked) (hvrf : s.vrf = true)
    (happlied : Applied env q settings s s') : s'.Unmarked ∧
      s'.world.asic.ports = s.world.asic.ports := by
  cases happlied with
  | bridge => exact ⟨h, rfl⟩
  | routing sflow _ _ _ hstored => simp [State.storedVlan, hvrf] at hstored
  | mark sflow bridge =>
    refine ⟨fun q' hq' => ?_, rfl⟩
    by_cases hqq : q' = q
    · subst hqq
      simpa [State.modifyBundle] using h q' hq'
    · simpa [State.modifyBundle, hqq] using h q' hq'
  | configured _ _ hbridge => simp [hvrf] at hbridge

/-- A call on a VRF leaves the ports of the ASIC alone. -/
theorem State.Unmarked.step (h : s.Unmarked) (hwf : s.WF) (hvrf : s.vrf = true) (henv : env.Healthy)
    (hsound : Sound s op s') (hstep : step env s op = .ok s') : s'.Unmarked ∧
      (s'.world.Fits → s'.world.asic.ports = s.world.asic.ports) := by
  obtain ⟨-, heffect⟩ := hwf.step hsound.1 hsound.2 hstep
  cases heffect with
  | absent | kept => exact ⟨h, fun _ => rfl⟩
  | deleted hfind hdestroyed =>
    exact h.destroyed hwf.nodup (hwf.bundleLookup_eq_some_iff.mp hfind).1 henv hdestroyed
  | removed hp hb _ hdestroyed =>
    exact h.destroyed hwf.nodup (hwf.owner _ hp _ hb) henv hdestroyed
  | set hset =>
    cases hset with
    | destroyed hopened _ hupdated _ hdestroyed =>
      obtain ⟨h₂, hports₂⟩ := (h.opened hopened).updated henv hupdated
      obtain ⟨h', hports⟩ := h₂.destroyed hupdated.wf.nodup hupdated.live henv hdestroyed
      refine ⟨h', fun hfits => ?_⟩
      rw [hports hfits, hports₂ (hdestroyed.steps.fits hfits), hopened.world]
    | applied hopened _ hupdated _ happlied =>
      obtain ⟨h₂, hports₂⟩ := (h.opened hopened).updated henv hupdated
      have hvrf₂ : _ = true := (hupdated.claims.frame.vrf.trans hopened.frame.vrf).trans hvrf
      obtain ⟨h', hports⟩ := h₂.applied hvrf₂ happlied
      refine ⟨h', fun hfits => ?_⟩
      rw [hports, hports₂ (happlied.steps.fits hfits), hopened.world]
  | vlan hvlan =>
    cases hvlan with
    | unchanged => exact ⟨h, fun _ => rfl⟩
    | vrf => exact ⟨h, fun _ => rfl⟩
    | changed hbridge => simp [hvrf] at hbridge
  | mirror hmirror =>
    have hframe := hmirror.frame
    refine ⟨fun q hq => ?_, (mirrorInvariant_asicPorts henv s).mirrorSet hmirror fun _ => rfl⟩
    rw [hframe.bundle]
    exact h q (hframe.bundles ▸ hq)

end Unmarked

/-- A sound call on the provider `i` that uses its own names, and on a bridge is a `PortCall`. -/
def OwnCall {ι : Type*} (owner : String → ι) (i : ι) (s : State) (op : Op) (s' : State) : Prop :=
  Sound s op s' ∧ op.Within (owner · = i) ∧ (s.vrf = false → NamesDistinct s' ∧ KeepsPorts s op)

instance {ι : Type*} [DecidableEq ι] (owner : String → ι) (i : ι) (s : State) (op : Op) (s' : State) :
    Decidable (OwnCall owner i s op s') :=
  inferInstanceAs (Decidable (_ ∧ _ ∧ _))

/-- Among the names with `P`, the ASIC has the ports that were found there and those that the provider
wants. -/
structure OwnPorts (found : String → Option PortColumns) (P : String → Prop) (s : State) : Prop where
  wf : s.WF
  within : s.Within P
  bridge : s.vrf = false → s.Occupied ∧ NamesDistinct s ∧
    (s.world.Fits → ∃ left, (∀ n, P n → left n = found n) ∧ AsicColumns left s)
  vrf : s.vrf = true → s.Unmarked ∧
    (s.world.Fits → ∀ n, P n → s.world.asic.ports n = found n)

section OwnPorts

variable {ι : Type*} {env : Env} {found : String → Option PortColumns} {P : String → Prop}
  {owner : String → ι} {i : ι} {s s' : State} {op : Op}

theorem State.WF.inWorld (h : s.WF) (w : World) : (s.inWorld w).WF :=
  ⟨h.toListsWF.congr rfl (fun _ _ => rfl) rfl (fun _ => rfl) rfl, h.mbridge⟩

/-- The provider keeps its invariant. -/
theorem OwnPorts.step (h : OwnPorts found (owner · = i) s) (henv : env.Healthy)
    (hcall : OwnCall owner i s op s') (hstep : Ofproto.step env s op = .ok s') (hfits : s'.world.Fits) :
    OwnPorts found (owner · = i) s' := by
  obtain ⟨hsound, hop, hbridge⟩ := hcall
  obtain ⟨hwf', heffect⟩ := h.wf.step hsound.1 hsound.2 hstep
  have hvrf : s'.vrf = s.vrf :=
    (portInvariant_vrf env s.vrf).step h.wf hsound rfl hstep
  refine ⟨hwf', (h.within.step h.wf henv hsound hop hstep hfits).within, fun hv => ?_, fun hv => ?_⟩
  · rw [hvrf] at hv
    obtain ⟨hnames', hkeeps⟩ := hbridge hv
    obtain ⟨hoccupied, hnames, hcolumns⟩ := h.bridge hv
    refine ⟨hoccupied.step h.wf hsound hstep, hnames', fun _ => ?_⟩
    obtain ⟨left, hleft, hcolumns⟩ := hcolumns (heffect.steps.fits hfits)
    exact ⟨left, hleft, hcolumns.step h.wf hoccupied hnames hv henv ⟨hsound, hnames', hkeeps⟩ hstep hfits⟩
  · rw [hvrf] at hv
    obtain ⟨hunmarked, hports⟩ := h.vrf hv
    obtain ⟨hunmarked', hsame⟩ := hunmarked.step h.wf hv henv hsound hstep
    refine ⟨hunmarked', fun _ n hn => ?_⟩
    rw [hsame hfits]
    exact hports (heffect.steps.fits hfits) n hn

/-- Ports with names that are not the provider's may change in any way. -/
theorem AsicColumns.inWorld {w : World} {left : String → Option PortColumns} (h : AsicColumns left s)
    (hwithin : s.Within P) (hleft : ∀ n, P n → left n = found n)
    (hports : ∀ n, P n → w.asic.ports n = s.world.asic.ports n) :
    ∃ left', (∀ n, P n → left' n = found n) ∧ AsicColumns left' (s.inWorld w) := by
  classical
  let left' : String → Option PortColumns := fun n => if P n then left n else w.asic.ports n
  have hown : ∀ n, P n → left' n = left n := fun n hn => if_pos hn
  refine ⟨left', fun n hn => (hown n hn).trans (hleft n hn), fun q hq hre => ?_, fun n hn => ?_⟩
  · have hname := hwithin.bundles q hq
    obtain ⟨hmarked, hcolumns⟩ := h.columns q hq hre
    refine ⟨hmarked, fun hmark => ?_⟩
    change w.asic.ports (s.bundle q).name = s.wantedPort q ∨ left' (s.bundle q).name ≠ none ∧
      w.asic.ports (s.bundle q).name = left' (s.bundle q).name
    rw [hown _ hname, hports _ hname]
    exact hcolumns hmark
  · change w.asic.ports n = none ∨ w.asic.ports n = left' n
    by_cases hn' : P n
    · rw [hown n hn', hports n hn']
      exact h.undisturbed n hn
    · exact .inr (if_neg hn').symm

/-- What the other providers guarantee is enough. -/
theorem OwnPorts.inWorld {w : World} (h : OwnPorts found P s) (hlog : s.world.log <+: w.log)
    (hports : w.Fits → ∀ n, P n → w.asic.ports n = s.world.asic.ports n) :
    OwnPorts found P (s.inWorld w) where
  wf := h.wf.inWorld w
  within := ⟨h.within.ports, h.within.bundles⟩
  bridge hv := by
    obtain ⟨hoccupied, hnames, hcolumns⟩ := h.bridge hv
    refine ⟨hoccupied, hnames, fun hfits => ?_⟩
    obtain ⟨left, hleft, hcolumns⟩ := hcolumns (hfits.of_prefix hlog)
    exact hcolumns.inWorld h.within hleft (hports hfits)
  vrf hv := by
    obtain ⟨hunmarked, hfound⟩ := h.vrf hv
    refine ⟨hunmarked, fun hfits n hn => ?_⟩
    exact (hports hfits n hn).trans (hfound (hfits.of_prefix hlog) n hn)

theorem Constructed.ownPorts (h : Constructed s) (hports : ∀ p ∈ s.ports, P (s.port p).name) :
    OwnPorts s.world.asic.ports P s where
  wf := h.wf
  within := ⟨hports, by simp [h.bundles]⟩
  bridge _ := by
    refine ⟨by simp [State.Occupied, h.bundles], by simp [NamesDistinct, h.bundles], fun _ => ?_⟩
    exact ⟨_, fun _ _ => rfl, h.asicColumns⟩
  vrf _ := ⟨by simp [State.Unmarked, h.bundles], fun _ _ _ => rfl⟩

/-- Each provider has its own part of the ASIC. -/
theorem reliable_ownPorts [DecidableEq ι] (henv : env.Healthy) (owner : String → ι)
    (found : String → Option PortColumns) :
    Interleave.Reliable (Called env (OwnCall owner))
      (fun j w w' => w.log <+: w'.log ∧
        (w'.Fits → ∀ n, owner n ≠ j → w'.asic.ports n = w.asic.ports n))
      fun i x => (x.2.inWorld x.1).WF ∧ (x.1.Fits → OwnPorts found (owner · = i) (x.2.inWorld x.1)) where
  own := by
    rintro i ⟨w, s⟩ ⟨w', s'⟩ ⟨hwf, hown⟩ ⟨op, hstep, hworld, hcall⟩
    obtain rfl : w' = s'.world := hworld
    obtain ⟨hwf', heffect⟩ := hwf.step hcall.1.1 hcall.1.2 hstep
    have hbefore : s'.world.Fits → OwnPorts found (owner · = i) (s.inWorld w) :=
      fun hfits => hown (heffect.steps.fits hfits)
    refine ⟨⟨hwf', fun hfits => (hbefore hfits).step henv hcall hstep hfits⟩, heffect.steps.log, ?_⟩
    exact fun hfits n hn =>
      ((hbefore hfits).within.step hwf henv hcall.1 hcall.2.1 hstep hfits).asicPorts n hn
  other := by
    rintro i j w w' s hij ⟨hwf, hown⟩ ⟨hlog, hports⟩
    refine ⟨hwf.inWorld w', fun hfits => ?_⟩
    refine (hown (hfits.of_prefix hlog)).inWorld hlog fun _ n hn => hports hfits n ?_
    exact fun hj => hij (hn.symm.trans hj)

end OwnPorts

/-- Any number of bridges and VRFs start on a clean ASIC and are called in any order, each with names
that no other one uses. The port of every bundle of every bridge that is neither the bridge's own nor
routing a VLAN is in the ASIC with the columns that the bundle's settings and the VLANs of its bridge
ask for, and a port that no bundle has put there is not in the ASIC. -/
theorem asic_of_all_providers {ι : Type*} [DecidableEq ι] (env : Env) (henv : env.Healthy)
    (owner : String → ι) {ps₀ ps : Providers ι} (h₀ : ∀ i, Constructed (ps₀.provider i))
    (hports : ∀ i, ∀ p ∈ (ps₀.provider i).ports, owner ((ps₀.provider i).port p).name = i)
    (hclean : ∀ n, ps₀.1.asic.ports n = none) (h : ps₀.Reaches env (OwnCall owner) ps)
    (hfits : ps.1.Fits) :
    (∀ i, (ps.provider i).vrf = false → ∀ q ∈ (ps.provider i).bundles,
      (ps.provider i).IsReconfigured q →
        ps.1.asic.ports ((ps.provider i).bundle q).name = (ps.provider i).wantedPort q) ∧
      ∀ n, (∀ i, ∀ q ∈ (ps.provider i).bundles, ((ps.provider i).bundle q).isAddedToSimOvs = true →
        ((ps.provider i).bundle q).name ≠ n) → ps.1.asic.ports n = none := by
  have hinit : ∀ i, (ps₀.provider i).WF ∧
      (ps₀.1.Fits → OwnPorts ps₀.1.asic.ports (owner · = i) (ps₀.provider i)) :=
    fun i => ⟨(h₀ i).wf, fun _ => (h₀ i).ownPorts (hports i)⟩
  have hown : ∀ i, OwnPorts ps₀.1.asic.ports (owner · = i) (ps.provider i) := fun i =>
    ((reliable_ownPorts henv owner ps₀.1.asic.ports).steps hinit h i).2 hfits
  refine ⟨fun i hvrf q hq hre => ?_, fun n hn => ?_⟩
  · obtain ⟨-, hnames, hcolumns⟩ := (hown i).bridge hvrf
    obtain ⟨left, hleft, hcolumns⟩ := hcolumns hfits
    refine hcolumns.port_eq hnames hq hre (.inl ?_)
    rw [hleft _ ((hown i).within.bundles q hq), hclean]
  · cases hvrf : (ps.provider (owner n)).vrf with
    | false =>
      obtain ⟨left, hleft, hcolumns⟩ := ((hown (owner n)).bridge hvrf).2.2 hfits
      refine (hcolumns.undisturbed n (hn (owner n))).elim id fun hfound => ?_
      rw [hleft n rfl, hclean] at hfound
      exact hfound
    | true => exact (((hown (owner n)).vrf hvrf).2 hfits n rfl).trans (hclean n)

/-- All three providers have a bundle; VLAN 10 is enabled on `br1` only, and VLAN 20 on `br0`. -/
theorem asic_of_all_providers_of_three : ∃ ps, sampleProviders.run sampleEnv
      [(0, .bundleSet 100 (some (sampleSettings "eth1" [1] false))),
        (1, .bundleSet 100 (some (sampleSettings "eth5" [1] false))),
        (2, .bundleSet 100 (some (sampleSettings "eth9" [1] false))),
        (1, .setVlan 10 true), (0, .setVlan 20 true)] = .ok ps ∧
    ps.1.asic.ports "eth5" = some ⟨some 10, [], .access⟩ ∧ ps.1.asic.ports "eth1" = none := by
  let calls : List (Fin 3 × Op) := [(0, .bundleSet 100 (some (sampleSettings "eth1" [1] false))),
    (1, .bundleSet 100 (some (sampleSettings "eth5" [1] false))),
    (2, .bundleSet 100 (some (sampleSettings "eth9" [1] false))),
    (1, .setVlan 10 true), (0, .setVlan 20 true)]
  have hmeets : Providers.RunMeets sampleEnv (OwnCall sampleOwner) sampleProviders calls := by
    decide +kernel
  have hobs : (sampleProviders.run sampleEnv calls).toOption.map (fun ps =>
      decide (ps.1.Fits ∧ (ps.provider 1).vrf = false ∧ (∃ q ∈ (ps.provider 1).bundles,
        (ps.provider 1).IsReconfigured q ∧ ((ps.provider 1).bundle q).name = "eth5" ∧
          (ps.provider 1).wantedPort q = some ⟨some 10, [], .access⟩) ∧
        ∀ i, ∀ q ∈ (ps.provider i).bundles, ((ps.provider i).bundle q).isAddedToSimOvs = true →
          ((ps.provider i).bundle q).name ≠ "eth1")) = some true := by decide +kernel
  obtain ⟨ps, hrun, hreaches, hps⟩ := Providers.Reaches.of_observed hmeets hobs
  rw [decide_eq_true_eq] at hps
  obtain ⟨hfits, hvrf, ⟨q, hq, hre, hname, hwanted⟩, hunmarked⟩ := hps
  have hasic := asic_of_all_providers sampleEnv sampleEnv_healthy sampleOwner
    sampleProviders_constructed sampleProviders_owner (fun _ => rfl) hreaches hfits
  refine ⟨ps, hrun, ?_, hasic.2 "eth1" hunmarked⟩
  rw [← hname, hasic.1 1 hvrf q hq hre, hwanted]

end ContainerPlugin.Ofproto
