import ContainerPlugin.Ofproto.MirrorCalls

/-!
# Membership is exclusive

A call that neither tears a LAG down nor claims a port of one keeps the state well formed, so in every
state that such calls reach a port is linked in the list of its own bundle and in no other.
-/

namespace ContainerPlugin.Ofproto

/-- What a call did. -/
inductive StepEffect (env : Env) (s : State) : Op → State → Prop where
  | absent {aux : Ptr} : s.bundleLookup aux = none → StepEffect env s (.bundleSet aux none) s
  | deleted {aux q : Ptr} {s' : State} : s.bundleLookup aux = some q → Destroyed env q s s' →
      StepEffect env s (.bundleSet aux none) s'
  | set {aux : Ptr} {settings : OfprotoBundleSettings} {s' : State} {rc : Rc} :
      BundleSet env aux settings s s' rc → StepEffect env s (.bundleSet aux (some settings)) s'
  | kept {p : OfpPort} : StepEffect env s (.bundleRemove p) s
  | removed {p : OfpPort} {q : Ptr} {s' : State} : p ∈ s.ports → (s.port p).bundle = some q →
      (s.bundle q).bondHwHandle = -1 → Destroyed env q s s' → StepEffect env s (.bundleRemove p) s'
  | vlan {vid : ℤ} {add : Bool} {s' : State} : SetVlan env vid add s s' →
      StepEffect env s (.setVlan vid add) s'
  | mirror {aux : Ptr} {settings : Option OfprotoMirrorSettings} {s' : State} {rc : Rc} :
      MirrorSet env aux s settings s' rc → StepEffect env s (.mirrorSet aux settings) s'

/-- The bundles that a call destroys. -/
def State.Destroys (s : State) : Op → Ptr → Prop
  | .bundleSet aux none, q => s.bundleLookup aux = some q
  | .bundleSet aux (some settings), q =>
    if s.bundleLookup aux = some q then ∀ p ∈ settings.slaves, p ∉ s.ports
    else ∃ p ∈ settings.slaves, p ∈ s.ports ∧ (s.port p).bundle = some q
  | .bundleRemove p, q =>
    p ∈ s.ports ∧ (s.port p).bundle = some q ∧ (s.bundle q).bondHwHandle = -1
  | .setVlan .., _ | .mirrorSet .., _ => False

instance (s : State) : ∀ op q, Decidable (s.Destroys op q)
  | .bundleSet aux none, q => inferInstanceAs (Decidable (s.bundleLookup aux = some q))
  | .bundleSet aux (some settings), q => inferInstanceAs (Decidable (
    if s.bundleLookup aux = some q then ∀ p ∈ settings.slaves, p ∉ s.ports
    else ∃ p ∈ settings.slaves, p ∈ s.ports ∧ (s.port p).bundle = some q))
  | .bundleRemove p, q => inferInstanceAs (Decidable (
    p ∈ s.ports ∧ (s.port p).bundle = some q ∧ (s.bundle q).bondHwHandle = -1))
  | .setVlan .., _ | .mirrorSet .., _ => inferInstanceAs (Decidable False)

section Step

variable {env : Env} {s s' s₀ : State} {op : Op}

theorem map_fst_eq_ok {α β ε : Type} {r : Except ε (α × β)} {a : α} (h : r.map Prod.fst = .ok a) :
    ∃ b, r = .ok (a, b) := by
  cases r with
  | error e => cases h
  | ok r => exact ⟨r.2, congrArg Except.ok (Prod.ext (Except.ok.inj h) rfl)⟩

/-- One call from a well-formed state. -/
theorem State.WF.step (h : s.WF) (hteardown : NoTeardown s op) (hlag : NoLagClaimed s op)
    (hstep : step env s op = .ok s') : s'.WF ∧ StepEffect env s op s' := by
  cases op with
  | bundleSet aux settings =>
    obtain ⟨rc, hset⟩ := map_fst_eq_ok hstep
    cases settings with
    | none =>
      rw [bundleSet] at hset
      cases hfind : s.bundleLookup aux with
      | none =>
        simp only [hfind] at hset
        cases hset
        exact ⟨h, .absent hfind⟩
      | some q =>
        simp only [hfind] at hset
        have hq := (h.bundleLookup_eq_some_iff.mp hfind).1
        have hdestroy : (Ofproto.bundleDestroy env s q).Ensures Fault.OfInput
          fun s' => s'.WF ∧ Destroyed env q s s' := h.bundleDestroy hq
        have hensures := hdestroy.bind (f := fun s => Except.ok (s, Rc.ok))
          (R := fun r => r.1.WF ∧ StepEffect env s (.bundleSet aux none) r.1)
          fun s' hs' => ⟨hs'.1, .deleted hfind hs'.2⟩
        exact hensures.of_ok hset
    | some settings =>
      obtain ⟨hwf', heffect⟩ := (h.bundleSet_some hteardown hlag).of_ok hset
      exact ⟨hwf', .set heffect⟩
  | bundleRemove p =>
    by_cases hp : p ∈ s.ports
    · rw [Ofproto.step, if_pos hp] at hstep
      obtain ⟨hwf', ⟨rfl, -⟩ | ⟨q, -, hb, hlag, hdestroyed⟩⟩ := (h.bundleRemove hp).of_ok hstep
      · exact ⟨h, .kept⟩
      · exact ⟨hwf', .removed hp hb hlag hdestroyed⟩
    · rw [Ofproto.step, if_neg hp] at hstep
      cases hstep
      exact ⟨h, .kept⟩
  | setVlan vid add =>
    obtain ⟨hwf', hvlan⟩ := (h.setVlan vid add).of_ok hstep
    exact ⟨hwf', .vlan hvlan⟩
  | mirrorSet aux settings =>
    obtain ⟨rc, hset⟩ := map_fst_eq_ok hstep
    have hmirror := (mirrorSet_ensures settings).of_ok hset
    exact ⟨hmirror.wf h, .mirror hmirror⟩

/-- To the ports a call does one thing after the other. -/
theorem StepEffect.steps (h : StepEffect env s op s') : PortSteps env s s' := by
  cases h with
  | absent | kept => exact .refl s
  | deleted _ hdestroyed | removed _ _ _ hdestroyed => exact hdestroyed.steps
  | set hset => exact hset.steps
  | vlan hvlan => exact hvlan.steps
  | mirror hmirror => exact hmirror.frame.ovs.steps

theorem Initial.wf (h : Initial s) : s.WF := by
  have hnone : ∀ q, q ∉ s.bundles := fun q => by simp [h.bundles]
  refine ⟨⟨by simp [h.bundles], fun q hq => absurd hq (hnone q), fun p hp q hq => ?_,
    fun q hq => absurd hq (hnone q)⟩, ?_⟩
  · rw [h.bundle p hp] at hq
    cases hq
  · rw [h.mbridge, h.bundles]
    exact ⟨List.nodup_nil, .refl _, fun _ _ hi => (nomatch hi), fun _ _ _ _ hi => (nomatch hi)⟩

/-- No call tears a LAG down or claims a port of one. -/
def Sound (s : State) (op : Op) (_ : State) : Prop := NoTeardown s op ∧ NoLagClaimed s op

instance (s : State) (op : Op) (s' : State) : Decidable (Sound s op s') :=
  inferInstanceAs (Decidable (_ ∧ _))

theorem Reaches.wf {C : State → Op → State → Prop} (h : Reaches env C s₀ s)
    (hC : ∀ s op s', C s op s' → Sound s op s') (h₀ : Initial s₀) : s.WF :=
  h.invariant h₀.wf fun s op s' hwf hc hstep => (hwf.step (hC s op s' hc).1 (hC s op s' hc).2 hstep).1

end Step

/-! ## The lists -/

/-- A walk along the list of the bundle `q` meets the port `p`. -/
def State.LinkedIn (s : State) (p : OfpPort) (q : Ptr) : Prop :=
  s.links.Linked (.ports q) (.bundleNode p)

/-- A port is linked in the list of its bundle, and in no other. -/
structure ExclusiveMembership (s : State) : Prop where
  linked_iff : ∀ q ∈ s.bundles, ∀ p ∈ s.ports, s.LinkedIn p q ↔ (s.port p).bundle = some q
  unique : ∀ p ∈ s.ports, ∀ q ∈ s.bundles, ∀ q' ∈ s.bundles, s.LinkedIn p q → s.LinkedIn p q' → q = q'

theorem State.WF.exclusiveMembership {s : State} (h : s.WF) : ExclusiveMembership s := by
  have hlinked : ∀ q ∈ s.bundles, ∀ p ∈ s.ports, s.LinkedIn p q ↔ (s.port p).bundle = some q := by
    intro q hq p hp
    obtain ⟨ps, hps⟩ := h.members q hq
    rw [State.LinkedIn, hps.ring.linked_iff]
    simp [hps.mem_iff, hp]
  refine ⟨hlinked, fun p hp q hq q' hq' h₁ h₂ => ?_⟩
  rw [hlinked q hq p hp] at h₁
  rw [hlinked q' hq' p hp, h₁] at h₂
  exact Option.some.inj h₂

/-- The calls on bundles, with duplicate-free slaves. -/
def Op.IsBundleCall : Op → Prop
  | .bundleSet _ settings => ∀ b ∈ settings, b.slaves.Nodup
  | .bundleRemove _ | .setVlan .. => True
  | .mirrorSet .. => False

instance : ∀ op : Op, Decidable op.IsBundleCall
  | .bundleSet _ settings => inferInstanceAs (Decidable (∀ b ∈ settings, b.slaves.Nodup))
  | .bundleRemove _ | .setVlan .. => inferInstanceAs (Decidable True)
  | .mirrorSet .. => inferInstanceAs (Decidable False)

/-- Along every run that claims no port of a LAG, membership stays exclusive. -/
theorem membership_exclusive (env : Env) {s₀ s : State} (h₀ : Initial s₀)
    (h : Reaches env Sound s₀ s) : ExclusiveMembership s :=
  (h.wf (fun _ _ _ hc => hc) h₀).exclusiveMembership

/-- A bond takes the port of another bundle over. -/
theorem membership_exclusive_of_takeover : ∃ s,
    run sampleEnv (sampleState true) [.bundleSet 100 (some (sampleSettings "eth1" [1] false)),
      .bundleSet 101 (some (sampleSettings "bond0" [1, 2] true))] = .ok s ∧
    ExclusiveMembership s := by
  have hmeets : RunMeets sampleEnv Sound (sampleState true)
      [.bundleSet 100 (some (sampleSettings "eth1" [1] false)),
        .bundleSet 101 (some (sampleSettings "bond0" [1, 2] true))] := by decide +kernel
  obtain ⟨s, hrun, hreaches⟩ := Reaches.of_runMeets hmeets
  exact ⟨s, hrun, membership_exclusive sampleEnv (sampleState_initial true) hreaches⟩

/-- The other way round the port of a bond is claimed: it stays linked in the list of the bond. -/
theorem membership_shared_by_lag_claim : ¬ ∀ (env : Env) (s₀ s : State), Initial s₀ →
    Reaches env (fun s op _ => op.IsBundleCall ∧ NoTeardown s op) s₀ s → ExclusiveMembership s := by
  intro hall
  let ops : List Op := [.bundleSet 100 (some (sampleSettings "bond0" [1, 2] true)),
    .bundleSet 101 (some (sampleSettings "eth1" [1] false))]
  have hmeets : RunMeets sampleEnv (fun s op _ => op.IsBundleCall ∧ NoTeardown s op)
      (sampleState true) ops := by decide +kernel
  have hobs : (run sampleEnv (sampleState true) ops).toOption.map (fun s => (s.bundles, s.ports,
      s.links.next (.ports 1), (s.port 1).bundle)) =
      some ([2, 1], [1, 2, 3, 4], .bundleNode 1, some 2) := by decide +kernel
  obtain ⟨s, hrun, hreaches, hs⟩ := Reaches.of_observed hmeets hobs
  simp only [Prod.mk.injEq] at hs
  obtain ⟨hbundles, hports, hnext, hbundle⟩ := hs
  have hfirst : s.links.Linked (.ports 1) (s.links.next (.ports 1)) := .first (by simp [hnext])
  have hlinked : s.LinkedIn 1 1 := by rwa [hnext] at hfirst
  have hexcl := (hall sampleEnv _ s (sampleState_initial true) hreaches).linked_iff 1
    (by simp [hbundles]) 1 (by simp [hports])
  rw [hexcl.mp hlinked] at hbundle
  cases hbundle

end ContainerPlugin.Ofproto
