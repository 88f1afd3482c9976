import ContainerPlugin.Ofproto.Membership
import ContainerPlugin.Ofproto.Returns

/-!
# Reconciling the slaves of a bundle

What `bundle_set` makes of the members of all the bundles: the bundle gets the slaves that exist, the
ports that leave are in no bundle, and a bundle that loses no slave keeps its ports.
-/

namespace ContainerPlugin.Ofproto

/-- The members after `bundle_set` of `aux` with these slaves has returned `rc`. -/
structure Reconciled (s : State) (aux : Ptr) (slaves : List OfpPort) (s' : State) (rc : Rc) :
    Prop where
  /-- The list of the bundle has the slaves that exist, each once. -/
  members : (∃ p ∈ slaves, p ∈ s.ports) → rc = .ok ∧ ∃ q ps, s'.bundleLookup aux = some q ∧
    s'.bundlePorts q = .ok ps ∧ ps.Nodup ∧
      ∀ p, (p ∈ ps ↔ p ∈ slaves ∧ p ∈ s.ports) ∧ (p ∈ ps → (s'.port p).bundle = some q)
  /-- Without any, there is no bundle. -/
  absent : (∀ p ∈ slaves, p ∉ s.ports) → rc = .einval ∧ ∀ q ∈ s'.bundles, (s'.bundle q).aux ≠ aux
  /-- A port that was in a list and is in it no longer, and is not one of the slaves. -/
  left : ∀ p ∈ s.ports, p ∉ slaves → ∀ q, (s.port p).bundle = some q →
    ¬ (q ∈ s'.bundles ∧ s'.LinkedIn p q) → (s'.port p).bundle = none
  others : ∀ q ∈ s.bundles, s.bundleLookup aux ≠ some q →
    (∀ p ∈ slaves, p ∈ s.ports → (s.port p).bundle ≠ some q) → ∀ ps, s.bundlePorts q = .ok ps →
      q ∈ s'.bundles ∧ ∃ ps', s'.bundlePorts q = .ok ps' ∧ ps'.Perm ps

section Claimed

variable {env : Env} {s s₁ s₂ s' : State} {aux q : Ptr} {settings : OfprotoBundleSettings}

/-- The slaves that exist are exactly the ports of the bundle. -/
theorem Updated.owner_iff {slaves : List OfpPort} (h : Updated env q slaves s₁ s₂)
    (hnd : slaves.Nodup) {p : OfpPort} (hp : p ∈ s₂.ports) :
    (s₂.port p).bundle = some q ↔ p ∈ slaves := by
  obtain ⟨ps, hps⟩ := h.wf.members q h.live
  constructor
  · intro hb
    exact (h.member ps hps p ((hps.mem_iff p).mpr ⟨hp, hb⟩)).resolve_right fun h' => h'.1 hnd
  · exact fun hslave => h.owned p hslave hp

/-- A bundle without a slave keeps its ports. -/
theorem Claimed.kept {slaves : List OfpPort} (h : Claimed env q slaves slaves s₁ s₂) {q' : Ptr}
    (hq' : q' ∈ s₁.bundles) (hne : q' ≠ q)
    (hslave : ∀ p ∈ slaves, p ∈ s₁.ports → (s₁.port p).bundle ≠ some q') :
    q' ∈ s₂.bundles ∧
      ∀ p ∈ s₁.ports, (s₂.port p).bundle = some q' ↔ (s₁.port p).bundle = some q' := by
  have hlive : q' ∈ s₂.bundles := h.claims.frame.survive q' hq' fun ⟨_, p, hp, hmem, hb⟩ =>
    hslave p hp hmem hb
  refine ⟨hlive, fun p hp => ⟨fun hb => ?_, fun hb => ?_⟩⟩
  · rcases h.port p hp with hsame | hnone | ⟨hown, -⟩
    · rw [← hsame, hb]
    · rw [hnone] at hb
      cases hb
    · rw [hown] at hb
      exact absurd (Option.some.inj hb).symm hne
  · refine Decidable.byContradiction fun hchanged => ?_
    exact h.gone p hp (fun hsame => hchanged (hsame.trans hb)) q' hb hne hlive

theorem Applied.frame (h : Applied env q settings s₂ s') :
    s'.ports = s₂.ports ∧ s'.bundles = s₂.bundles ∧
      (∀ p, (s'.port p).bundle = (s₂.port p).bundle) ∧
        ∀ q', (s'.bundle q').aux = (s₂.bundle q').aux := by
  have haux : ∀ (f : Ofbundle → Ofbundle), (∀ b, (f b).aux = b.aux) → ∀ q',
      ((s₂.modifyBundle q f).bundle q').aux = (s₂.bundle q').aux := by
    intro f hf q'
    by_cases hqq : q' = q
    · subst hqq
      simp [State.modifyBundle, hf]
    · simp [State.modifyBundle, hqq]
  cases h with
  | bridge => exact ⟨rfl, rfl, fun _ => rfl, fun _ => rfl⟩
  | routing => exact ⟨rfl, rfl, fun _ => rfl, haux (fun b => { b with
      isSflowEnabled := _, vlan := settings.vlan, isVlanRoutingEnabled := true }) fun _ => rfl⟩
  | mark => exact ⟨rfl, rfl, fun _ => rfl, haux _ fun _ => rfl⟩
  | configured sflow _ _ _ hconf =>
    refine ⟨hconf.ports, hconf.bundles, fun p => (hconf.port p).1, fun q' => ?_⟩
    exact (congrArg Ofbundle.aux (hconf.bundle q')).trans (haux (fun b =>
      ({ b with isSflowEnabled := sflow } : Ofbundle).withVlans settings) (fun _ => rfl) q')

end Claimed

section Reconcile

variable {env : Env} {s s₁ s₂ s' : State} {aux q : Ptr} {settings : OfprotoBundleSettings} {rc : Rc}

/-- The ports of the bundle are updated, and then no port changes its bundle any more. -/
structure Settled (env : Env) (aux : Ptr) (settings : OfprotoBundleSettings) (q : Ptr)
    (s s₁ s₂ s' : State) : Prop where
  wf : s.WF
  opened : Opened env aux settings q s s₁
  claimed : Claimed env q settings.slaves settings.slaves s₁ s₂
  updated : Updated env q settings.slaves s₁ s₂
  wf' : s'.WF
  ports : s'.ports = s₂.ports
  port : ∀ p ∈ s₂.ports, (s'.port p).bundle = (s₂.port p).bundle
  bundles : ∀ q' ≠ q, q' ∈ s₂.bundles → q' ∈ s'.bundles

theorem Settled.ports_eq (h : Settled env aux settings q s s₁ s₂ s') : s₂.ports = s.ports :=
  h.claimed.claims.frame.ports.trans h.opened.frame.ports

theorem Settled.aux_eq (h : Settled env aux settings q s s₁ s₂ s') : (s₂.bundle q).aux = aux := by
  rw [(h.claimed.claims.frame.sub q h.updated.live).2, h.opened.aux_eq]

theorem Settled.left (h : Settled env aux settings q s s₁ s₂ s') {p : OfpPort} (hp : p ∈ s.ports)
    (hslave : p ∉ settings.slaves) {q₀ : Ptr} (hb : (s.port p).bundle = some q₀)
    (hout : ¬ (q₀ ∈ s'.bundles ∧ s'.LinkedIn p q₀)) : (s'.port p).bundle = none := by
  have hp₁ : p ∈ s₁.ports := h.opened.frame.ports.symm ▸ hp
  have hp₂ : p ∈ s₂.ports := h.ports_eq.symm ▸ hp
  rcases h.claimed.port p hp₁ with hsame | hnone | ⟨-, hslave'⟩
  · -- a port that still names the bundle is still linked in its list
    have hb' : (s'.port p).bundle = some q₀ := by
      rw [h.port p hp₂, hsame, h.opened.frame.port, hb]
    have hp' : p ∈ s'.ports := h.ports.symm ▸ hp₂
    have hq₀ := h.wf'.owner p hp' q₀ hb'
    exact absurd ⟨hq₀, (h.wf'.exclusiveMembership.linked_iff q₀ hq₀ p hp').mpr hb'⟩ hout
  · rw [h.port p hp₂, hnone]
  · exact absurd hslave' hslave

theorem Settled.others (h : Settled env aux settings q s s₁ s₂ s') {q' : Ptr} (hq' : q' ∈ s.bundles)
    (hown : s.bundleLookup aux ≠ some q')
    (hslave : ∀ p ∈ settings.slaves, p ∈ s.ports → (s.port p).bundle ≠ some q') {ps : List OfpPort}
    (hps : s.bundlePorts q' = .ok ps) :
    q' ∈ s'.bundles ∧ ∃ ps', s'.bundlePorts q' = .ok ps' ∧ ps'.Perm ps := by
  have hne : q' ≠ q := by
    rintro rfl
    exact hown (h.opened.lookup_eq hq')
  have hports₁ := h.opened.frame.ports
  obtain ⟨hlive, howner⟩ := h.claimed.kept ((h.opened.mem_iff hne).mpr hq') hne (by
    rw [hports₁, h.opened.frame.port]
    exact hslave)
  have hq'' := h.bundles q' hne hlive
  obtain ⟨ps₀, hps₀, hmem₀⟩ := h.wf.bundlePorts hq'
  obtain rfl : ps₀ = ps := Except.ok.inj (hps₀.symm.trans hps)
  obtain ⟨ps', hps', hmem'⟩ := h.wf'.bundlePorts hq''
  refine ⟨hq'', ps', hps', (List.perm_ext_iff_of_nodup hmem'.nodup hmem₀.nodup).mpr fun p => ?_⟩
  rw [hmem'.mem_iff, hmem₀.mem_iff, h.ports, h.ports_eq]
  refine and_congr_right fun hp => ?_
  rw [h.port p (h.ports_eq.symm ▸ hp), howner p (hports₁.symm ▸ hp), h.opened.frame.port]

theorem Settled.members (h : Settled env aux settings q s s₁ s₂ s') (hnd : settings.slaves.Nodup)
    (hq : q ∈ s'.bundles) : ∃ ps, s'.bundlePorts q = .ok ps ∧ ps.Nodup ∧
      ∀ p, (p ∈ ps ↔ p ∈ settings.slaves ∧ p ∈ s.ports) ∧ (p ∈ ps → (s'.port p).bundle = some q) := by
  obtain ⟨ps, hps, hmem⟩ := h.wf'.bundlePorts hq
  refine ⟨ps, hps, hmem.nodup, fun p => ⟨?_, fun hp => ((hmem.mem_iff p).mp hp).2⟩⟩
  rw [hmem.mem_iff, h.ports, h.ports_eq, and_comm]
  refine and_congr_left fun hp => ?_
  have hp₂ : p ∈ s₂.ports := h.ports_eq.symm ▸ hp
  rw [h.port p hp₂, h.updated.owner_iff hnd hp₂]

/-- A slave exists: the settings were applied. -/
theorem Settled.of_applied (hwf : s.WF) (hopened : Opened env aux settings q s s₁)
    (hclaimed : Claimed env q settings.slaves settings.slaves s₁ s₂)
    (hupdated : Updated env q settings.slaves s₁ s₂) (hwf' : s'.WF)
    (happlied : Applied env q settings s₂ s') : Settled env aux settings q s s₁ s₂ s' :=
  ⟨hwf, hopened, hclaimed, hupdated, hwf', happlied.frame.1, fun p _ => happlied.frame.2.2.1 p,
    fun _ _ hq' => happlied.frame.2.1.symm ▸ hq'⟩

/-- None exists: the bundle has no port when it is destroyed. -/
theorem Settled.of_destroyed (hwf : s.WF) (hopened : Opened env aux settings q s s₁)
    (hclaimed : Claimed env q settings.slaves settings.slaves s₁ s₂)
    (hupdated : Updated env q settings.slaves s₁ s₂) (hempty : s₂.Members q []) (hwf' : s'.WF)
    (hdestroyed : Destroyed env q s₂ s') : Settled env aux settings q s s₁ s₂ s' := by
  refine ⟨hwf, hopened, hclaimed, hupdated, hwf', hdestroyed.ports, fun p hp => ?_, ?_⟩
  · have hb : (s₂.port p).bundle ≠ some q := fun hb => by
      have hmem := (hempty.mem_iff p).mpr ⟨hp, hb⟩
      cases hmem
    rw [hdestroyed.port p hb]
  · intro q' hne hq'
    rw [hdestroyed.bundles, hupdated.wf.nodup.mem_erase_iff]
    exact ⟨hne, hq'⟩

/-- When the call returns, the slaves have been reconciled. -/
theorem State.WF.bundleSet_reconciled (h : s.WF) (hnd : settings.slaves.Nodup)
    (hteardown : NoTeardown s (.bundleSet aux (some settings)))
    (hlag : NoLagClaimed s (.bundleSet aux (some settings))) :
    (bundleSet env s aux (some settings)).Ensures Fault.OfInput
      fun r => Reconciled s aux settings.slaves r.1 r.2 := by
  refine h.bundleSet_rule (Q := fun q s₁ s₂ => Claimed env q settings.slaves settings.slaves s₁ s₂)
    hteardown hlag ?_ ?_ ?_
  · intro q s₁ _ hwf₁ hq hnolag
    exact (updatePorts_claimed hwf₁ hq hnolag).mono fun s₂ hs₂ => hs₂.symm
  · intro q s₁ s₂ hopened _ hupdated hclaimed hps hnone
    refine (hupdated.wf.bundleDestroy hupdated.live).mono fun s' ⟨hwf', hdestroyed⟩ => ?_
    have hsettled := Settled.of_destroyed h hopened hclaimed hupdated hps hwf' hdestroyed
    refine ⟨?_, fun _ => ⟨rfl, ?_⟩, fun p hp hs q' => hsettled.left hp hs,
      fun q' hq' hown hslave ps => hsettled.others hq' hown hslave⟩
    · exact fun ⟨p, hp, hmem⟩ => absurd hmem (hnone p hp)
    · intro q' hq' haux'
      rw [hdestroyed.bundles, hupdated.wf.nodup.mem_erase_iff] at hq'
      rw [hdestroyed.bundle q' hq'.1] at haux'
      exact hq'.1 (hupdated.wf.aux q' hq'.2 q hupdated.live (haux'.trans hsettled.aux_eq.symm))
  · intro q s₁ s₂ ps hopened _ hupdated hclaimed hps _ hsome hname
    refine (hupdated.wf.bundleApply hupdated.live hname).mono fun s' ⟨hwf', happlied⟩ => ?_
    have hsettled := Settled.of_applied h hopened hclaimed hupdated hwf' happlied
    have hq' : q ∈ s'.bundles := happlied.frame.2.1.symm ▸ hupdated.live
    have hfind : s'.bundleLookup aux = some q :=
      hwf'.bundleLookup_eq_some_iff.mpr ⟨hq', (happlied.frame.2.2.2 q).trans hsettled.aux_eq⟩
    refine ⟨fun _ => ⟨rfl, ?_⟩, fun hnone => ?_, fun p hp hs q' => hsettled.left hp hs,
      fun q' hq' hown hslave ps => hsettled.others hq' hown hslave⟩
    · obtain ⟨ps', hps'⟩ := hsettled.members hnd hq'
      exact ⟨q, ps', hfind, hps'⟩
    · obtain ⟨p, hp, hmem⟩ := hsome
      exact absurd hmem (hnone p hp)

end Reconcile

/-! ## Every call -/

/-- The call returns, and the slaves are reconciled. -/
def Reconciles (env : Env) (s : State) (aux : Ptr) (settings : OfprotoBundleSettings) : Prop :=
  ∃ s' rc, bundleSet env s aux (some settings) = .ok (s', rc) ∧
    Reconciled s aux settings.slaves s' rc

/-- The slaves are reconciled exactly if no VLAN on the way is out of the range of a bitmap and no
command outgrows its buffer. The size of the list never exceeds the number of slaves. -/
theorem slaves_reconciled_iff (env : Env) {s : State} {aux : Ptr} {settings : OfprotoBundleSettings}
    (h : s.WF) (hnd : settings.slaves.Nodup)
    (hteardown : NoTeardown s (.bundleSet aux (some settings)))
    (hlag : NoLagClaimed s (.bundleSet aux (some settings))) :
    (Reconciles env s aux settings ↔ s.SetFits aux settings) ∧
      bundleSet env s aux (some settings) ≠ .error .assertFailed := by
  have hreturns : (bundleSet env s aux (some settings)).Ensures _ _ :=
    h.bundleSet_returns hteardown hlag
  have hreconciled : (bundleSet env s aux (some settings)).Ensures _ _ :=
    h.bundleSet_reconciled hnd hteardown hlag
  rw [Reconciles]
  cases hset : bundleSet env s aux (some settings) with
  | ok r =>
    rw [hset] at hreturns hreconciled
    exact ⟨⟨fun _ => hreturns, fun _ => ⟨r.1, r.2, rfl, hreconciled⟩⟩, nofun⟩
  | error e =>
    rw [hset] at hreturns hreconciled
    refine ⟨⟨fun ⟨_, _, hok, _⟩ => (nomatch hok), fun hfits => absurd hfits hreturns⟩, ?_⟩
    rintro ⟨⟩
    rcases hreconciled with he | he
    · cases he
    · cases he

/-- A bond takes a port over, loses another and names one that does not exist. -/
theorem slaves_reconciled_after_takeover : ∃ s,
    run sampleEnv (sampleState false) [.bundleSet 100 (some (sampleSettings "eth1" [1] false)),
      .bundleSet 101 (some (sampleSettings "bond0" [2, 3] true))] = .ok s ∧
    Reconciles sampleEnv s 101 (sampleSettings "bond0" [1, 3, 9] true) := by
  let ops : List Op := [.bundleSet 100 (some (sampleSettings "eth1" [1] false)),
    .bundleSet 101 (some (sampleSettings "bond0" [2, 3] true))]
  have hmeets : RunMeets sampleEnv Sound (sampleState false) ops := by decide +kernel
  have hobs : (run sampleEnv (sampleState false) ops).toOption.map (fun s =>
      (decide (NoTeardown s (.bundleSet 101 (some (sampleSettings "bond0" [1, 3, 9] true)))),
        decide (NoLagClaimed s (.bundleSet 101 (some (sampleSettings "bond0" [1, 3, 9] true)))),
        decide (s.SetFits 101 (sampleSettings "bond0" [1, 3, 9] true)))) =
      some (true, true, true) := by decide +kernel
  obtain ⟨s, hrun, hreaches, hs⟩ := Reaches.of_observed hmeets hobs
  simp only [Prod.mk.injEq, decide_eq_true_eq] at hs
  obtain ⟨hteardown, hlag, hfits⟩ := hs
  have hwf : s.WF := hreaches.wf (fun _ _ _ hc => hc) (sampleState_initial false)
  have hnd : (sampleSettings "bond0" [1, 3, 9] true).slaves.Nodup := by decide
  exact ⟨s, hrun, (slaves_reconciled_iff sampleEnv hwf hnd hteardown hlag).1.mpr hfits⟩

/-- An internal port without a VLAN tag: -1 is used as an index of the bitmap. -/
theorem slaves_lost_without_tag : ¬ ∀ (env : Env) (s : State) (aux : Ptr)
    (settings : OfprotoBundleSettings), s.WF → settings.slaves.Nodup →
    NoTeardown s (.bundleSet aux (some settings)) →
    NoLagClaimed s (.bundleSet aux (some settings)) → Reconciles env s aux settings := by
  intro hall
  let settings : OfprotoBundleSettings := { sampleSettings "vlan10" [4] false with vlan := -1 }
  obtain ⟨s', rc, hok, -⟩ := hall sampleEnv (sampleState false) 100 settings
    (sampleState_initial false).wf (by decide) (by decide +kernel) (by decide +kernel)
  have hfails : (bundleSet sampleEnv (sampleState false) 100 (some settings)).toOption.isNone =
      true := by decide +kernel
  rw [hok] at hfails
  cases hfails

end ContainerPlugin.Ofproto
