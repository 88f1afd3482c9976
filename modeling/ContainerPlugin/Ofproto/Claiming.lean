import ContainerPlugin.Ofproto.Destroy

/-!
# Claiming ports

`bundle_remove`, `bundle_add_port` and the loops of `bundle_set` over the slaves. When a bundle claims
the port of another bundle that is not a LAG, the other bundle is destroyed; `ClaimSteps` is what the
whole loop does: it links and unlinks ports and destroys bundles that had one of the slaves.
-/

namespace ContainerPlugin.Ofproto

/-- One step of a loop that may destroy the bundles of `V`. -/
inductive ClaimStep (env : Env) (V : Ptr → Prop) : State → State → Prop where
  | ports {s s' : State} : s.PortFrame s' → ClaimStep env V s s'
  | destroy {s s' : State} {q : Ptr} : s.WF → q ∈ s.bundles → V q → Destroyed env q s s' →
      ClaimStep env V s s'

def ClaimSteps (env : Env) (V : Ptr → Prop) : State → State → Prop :=
  Relation.ReflTransGen (ClaimStep env V)

section ClaimSteps

variable {env : Env} {V V' : Ptr → Prop} {s s' s'' : State} {q : Ptr}

theorem ClaimSteps.refl (s : State) : ClaimSteps env V s s := Relation.ReflTransGen.refl

theorem ClaimSteps.trans (h : ClaimSteps env V s s') (h' : ClaimSteps env V s' s'') :
    ClaimSteps env V s s'' := Relation.ReflTransGen.trans h h'

theorem ClaimSteps.single (h : ClaimStep env V s s') : ClaimSteps env V s s' :=
  Relation.ReflTransGen.single h

/-- What stays as it is while ports are claimed. -/
structure ClaimFrame (V : Ptr → Prop) (s s' : State) : Prop where
  up : s'.up = s.up
  name : s'.name = s.name
  vrf : s'.vrf = s.vrf
  ports : s'.ports = s.ports
  netdev : ∀ p, (s'.port p).name = (s.port p).name ∧ (s'.port p).type = (s.port p).type
  vlansBmp : s'.vlansBmp = s.vlansBmp
  sub : ∀ q ∈ s'.bundles, q ∈ s.bundles ∧ s'.bundle q = s.bundle q
  survive : ∀ q ∈ s.bundles, ¬ V q → q ∈ s'.bundles
  log : s.world.log <+: s'.world.log

theorem ClaimFrame.refl (s : State) : ClaimFrame V s s :=
  ⟨rfl, rfl, rfl, rfl, fun _ => ⟨rfl, rfl⟩, rfl, fun _ hq => ⟨hq, rfl⟩, fun _ hq _ => hq,
    List.prefix_refl _⟩

theorem ClaimFrame.trans (h : ClaimFrame V s s') (h' : ClaimFrame V s' s'') :
    ClaimFrame V s s'' where
  up := h'.up.trans h.up
  name := h'.name.trans h.name
  vrf := h'.vrf.trans h.vrf
  ports := h'.ports.trans h.ports
  netdev p := ⟨(h'.netdev p).1.trans (h.netdev p).1, (h'.netdev p).2.trans (h.netdev p).2⟩
  vlansBmp := h'.vlansBmp.trans h.vlansBmp
  sub q hq := ⟨(h.sub q (h'.sub q hq).1).1, (h'.sub q hq).2.trans (h.sub q (h'.sub q hq).1).2⟩
  survive q hq hV := h'.survive q (h.survive q hq hV) hV
  log := h.log.trans h'.log

theorem State.PortFrame.claimFrame (h : s.PortFrame s') : ClaimFrame V s s' where
  up := h.up
  name := h.name
  vrf := h.vrf
  ports := h.ports
  netdev := h.netdev
  vlansBmp := h.vlansBmp
  sub q hq := ⟨h.bundles ▸ hq, by rw [h.bundle]⟩
  survive q hq _ := h.bundles.symm ▸ hq
  log := h.world.log

theorem Destroyed.claimFrame (h : Destroyed env q s s') (hnd : s.bundles.Nodup) (hV : V q) :
    ClaimFrame V s s' where
  up := h.up
  name := h.name
  vrf := h.vrf
  ports := h.ports
  netdev := h.netdev
  vlansBmp := h.vlansBmp
  sub q' hq' := by
    rw [h.bundles, hnd.mem_erase_iff] at hq'
    exact ⟨hq'.2, h.bundle q' hq'.1⟩
  survive q' hq' hV' := by
    rw [h.bundles, hnd.mem_erase_iff]
    exact ⟨fun hqq => hV' (hqq ▸ hV), hq'⟩
  log := h.steps.log

theorem ClaimSteps.frame (h : ClaimSteps env V s s') : ClaimFrame V s s' := by
  induction h with
  | refl => exact .refl s
  | tail _ hstep ih =>
    cases hstep with
    | ports hframe => exact ih.trans hframe.claimFrame
    | destroy hwf _ hV hdestroyed => exact ih.trans (hdestroyed.claimFrame hwf.nodup hV)

end ClaimSteps

/-! ## `bundle_remove` -/

section Remove

variable {env : Env} {s s' : State} {q : Ptr} {p : OfpPort}

/-- A port of the bundle that is unlinked first makes no difference. -/
theorem Destroyed.of_detachPort (hb : (s.port p).bundle = some q) (hp : p ∈ s.ports)
    (h : Destroyed env q (detachPort env s p) s') : Destroyed env q s s' := by
  have hframe := detachPort_portFrame env s p
  have hbmp : (detachPort env s p).bmpDel q = s.bmpDel q := rfl
  have hother : ∀ p', p' ≠ p → (detachPort env s p).port p' = s.port p' := fun p' hne => by
    simp [detachPort, hne]
  have hport : ∀ p', (s.port p').bundle ≠ some q → s'.port p' = s.port p' := by
    intro p' hp'
    have hne : p' ≠ p := fun hpp => hp' (hpp ▸ hb)
    rw [h.port p' (by rwa [hother p' hne]), hother p' hne]
  constructor
  case freed =>
    intro p' hp' hb'
    by_cases hpp : p' = p
    · subst hpp
      have hnone : ((detachPort env s p').port p').bundle = none := by simp [detachPort]
      rw [h.port p' (by simp [hnone]), hnone]
    · exact h.freed p' hp' (by rwa [hother p' hpp])
  case netdev =>
    exact fun p' => ⟨(h.netdev p').1.trans (hframe.netdev p').1,
      (h.netdev p').2.trans (hframe.netdev p').2⟩
  case port => exact hport
  case steps => exact (PortSteps.single (.detach hp)).trans h.steps
  case asic =>
    intro henv hfits
    have hasic : (detachPort env s p).world.asic = s.world.asic := hframe.world.asic
    have hdel : (detachPort env s p).asicDel q = s.asicDel q := by
      simp only [State.asicDel, hasic]
      rfl
    rw [h.asic henv hfits, hdel, hasic, hbmp]
    rfl
  case up => exact h.up
  case name => exact h.name
  case vrf => exact h.vrf
  case ports => exact h.ports
  case bundles => exact h.bundles
  case bundle => exact h.bundle
  case mbridge => exact h.mbridge
  case vlansBmp => exact h.vlansBmp
  case vlanIntfBmp => exact h.vlanIntfBmp

/-- Either nothing happens, or the bundle of the port is not a LAG and is destroyed. -/
theorem State.WF.bundleRemove (h : s.WF) (hp : p ∈ s.ports) :
    (Ofproto.bundleRemove env s p).Ensures Fault.OfInput fun s' => s'.WF ∧
      (s' = s ∧ (∀ q, (s.port p).bundle = some q → (s.bundle q).bondHwHandle ≠ -1) ∨
        ∃ q ∈ s.bundles, (s.port p).bundle = some q ∧ (s.bundle q).bondHwHandle = -1 ∧
          Destroyed env q s s') := by
  rw [Ofproto.bundleRemove]
  cases hb : (s.port p).bundle with
  | none => exact ⟨h, .inl ⟨rfl, by simp⟩⟩
  | some q =>
    have hq := h.owner p hp q hb
    simp only [h.deref hq]
    by_cases hlag : (s.bundle q).bondHwHandle = -1
    · simp only [bind, Except.bind, if_pos hlag, h.bundleDelPort hp hb]
      have hwf : (Ofproto.detachPort env s p).WF := ⟨h.toListsWF.detachPort hp hb, h.mbridge⟩
      refine (hwf.bundleDestroy hq).mono fun s' ⟨hwf', hdestroyed⟩ => ⟨hwf', .inr ?_⟩
      exact ⟨q, hq, rfl, hlag, hdestroyed.of_detachPort hb hp⟩
    · simp only [bind, Except.bind, if_neg hlag]
      exact ⟨h, .inl ⟨rfl, by simpa using hlag⟩⟩

end Remove

/-! ## The loop over the slaves -/

section Slaves

variable {env : Env} {s s₀ s' : State} {q : Ptr} {p : OfpPort} {slaves : List OfpPort}

/-- No slave is a port of another bundle that is a LAG. -/
def NoLagClaim (s : State) (q : Ptr) (slaves : List OfpPort) : Prop :=
  ∀ p ∈ slaves, p ∈ s.ports → ∀ q', (s.port p).bundle = some q' → q' ≠ q →
    (s.bundle q').bondHwHandle = -1

/-- Another bundle that has one of the slaves. -/
def HasSlave (s : State) (q : Ptr) (slaves : List OfpPort) (q' : Ptr) : Prop :=
  q' ≠ q ∧ ∃ p ∈ slaves, p ∈ s.ports ∧ (s.port p).bundle = some q'

/-- The state of the loop: `claimed` are the slaves seen so far. -/
structure Claimed (env : Env) (q : Ptr) (slaves claimed : List OfpPort) (s₀ s : State) : Prop where
  wf : s.WF
  live : q ∈ s.bundles
  steps : PortSteps env s₀ s
  claims : ClaimSteps env (HasSlave s₀ q slaves) s₀ s
  owned : ∀ p ∈ claimed, p ∈ s.ports → (s.port p).bundle = some q
  port : ∀ p ∈ s₀.ports, (s.port p).bundle = (s₀.port p).bundle ∨ (s.port p).bundle = none ∨
    (s.port p).bundle = some q ∧ p ∈ slaves
  gone : ∀ p ∈ s₀.ports, (s.port p).bundle ≠ (s₀.port p).bundle →
    ∀ q', (s₀.port p).bundle = some q' → q' ≠ q → q' ∉ s.bundles

/-- Before a slave is linked it is in no bundle: its bundle is not a LAG and has been destroyed. -/
theorem Claimed.remove {claimed : List OfpPort} (h : Claimed env q slaves claimed s₀ s)
    (hlag : NoLagClaim s₀ q slaves) (hp : p ∈ slaves) (hmem : p ∈ s.ports)
    (hown : (s.port p).bundle ≠ some q) :
    (Ofproto.bundleRemove env s p).Ensures Fault.OfInput fun s' =>
      Claimed env q slaves claimed s₀ s' ∧ (s'.port p).bundle = none := by
  have hframe := h.claims.frame
  have hmem₀ : p ∈ s₀.ports := hframe.ports ▸ hmem
  -- the bundle of a slave is the one it had before the loop
  have hold : ∀ q', (s.port p).bundle = some q' → q' ≠ q ∧ (s₀.port p).bundle = some q' := by
    intro q' hb
    refine ⟨fun hqq => hown (hqq ▸ hb), ?_⟩
    rcases h.port p hmem₀ with hsame | hnone | ⟨hq, -⟩
    · rw [← hsame, hb]
    · rw [hnone] at hb
      cases hb
    · exact absurd hq hown
  refine (h.wf.bundleRemove hmem).mono ?_
  rintro s' ⟨hwf', ⟨rfl, hlag'⟩ | ⟨q', hq', hb, -, hdestroyed⟩⟩
  · refine ⟨h, ?_⟩
    cases hb : (s'.port p).bundle with
    | none => rfl
    | some q' =>
      obtain ⟨hne, hb₀⟩ := hold q' hb
      have hsame := (hframe.sub q' (h.wf.owner p hmem q' hb)).2
      exact absurd (hsame ▸ hlag p hp hmem₀ q' hb₀ hne) (hlag' q' hb)
  · obtain ⟨hne, hb₀⟩ := hold q' hb
    have hV : HasSlave s₀ q slaves q' := ⟨hne, p, hp, hmem₀, hb₀⟩
    refine ⟨⟨hwf', ?_, h.steps.trans hdestroyed.steps,
      h.claims.trans (.single (.destroy h.wf hq' hV hdestroyed)), ?_, ?_, ?_⟩,
      hdestroyed.freed p hmem hb⟩
    · rw [hdestroyed.bundles, h.wf.nodup.mem_erase_iff]
      exact ⟨hne.symm, h.live⟩
    · intro p' hp' hmem'
      have hq := h.owned p' hp' (hdestroyed.ports ▸ hmem')
      rw [hdestroyed.port p' (by rw [hq]; simpa using hne.symm), hq]
    · intro p' hp'
      by_cases hb' : (s.port p').bundle = some q'
      · exact .inr (.inl (hdestroyed.freed p' (hframe.ports ▸ hp') hb'))
      · rw [hdestroyed.port p' hb']
        exact h.port p' hp'
    · intro p' hp' hchanged q₁ hq₁ hne₁ hmem₁
      rw [hdestroyed.bundles, h.wf.nodup.mem_erase_iff] at hmem₁
      by_cases hb' : (s.port p').bundle = some q'
      · refine h.gone p' hp' (fun hsame => ?_) q₁ hq₁ hne₁ hmem₁.2
        rw [hsame, hq₁] at hb'
        exact hmem₁.1 (Option.some.inj hb')
      · rw [hdestroyed.port p' hb'] at hchanged
        exact h.gone p' hp' hchanged q₁ hq₁ hne₁ hmem₁.2

theorem Claimed.attach {claimed : List OfpPort} (h : Claimed env q slaves claimed s₀ s)
    (hp : p ∈ slaves) (hmem : p ∈ s.ports) (hnone : (s.port p).bundle = none) :
    Claimed env q slaves (claimed ++ [p]) s₀ (attachPort s q p) := by
  have hself : ((attachPort s q p).port p).bundle = some q := by simp [attachPort]
  have hother : ∀ p', p' ≠ p → (attachPort s q p).port p' = s.port p' := fun p' hne => by
    simp [attachPort, hne]
  refine ⟨⟨h.wf.toListsWF.attachPort h.live hmem hnone, h.wf.mbridge⟩, h.live,
    h.steps.trans (.single (.attach hmem hnone)),
    h.claims.trans (.single (.ports (attachPort_portFrame s q p))), ?_, ?_, ?_⟩
  · intro p' hp' hmem'
    by_cases hpp : p' = p
    · exact hpp ▸ hself
    · rw [hother p' hpp]
      exact h.owned p' (by simpa [hpp] using hp') hmem'
  · intro p' hp'
    by_cases hpp : p' = p
    · exact .inr (.inr ⟨hpp ▸ hself, hpp ▸ hp⟩)
    · rw [hother p' hpp]
      exact h.port p' hp'
  · intro p' hp' hchanged q' hq'
    by_cases hpp : p' = p
    · subst hpp
      exact h.gone p' hp' (by simp [hnone, hq']) q' hq'
    · rw [hother p' hpp] at hchanged
      exact h.gone p' hp' hchanged q' hq'

theorem Claimed.add {claimed : List OfpPort} (h : Claimed env q slaves claimed s₀ s)
    (hlag : NoLagClaim s₀ q slaves) (hp : p ∈ slaves) :
    (bundleAddPort env s q p).Ensures Fault.OfInput fun r =>
      Claimed env q slaves (claimed ++ [p]) s₀ r.1 ∧ (r.2 = true → p ∈ s₀.ports) := by
  have hports : s.ports = s₀.ports := h.claims.frame.ports
  simp only [bundleAddPort, h.wf.deref h.live, State.getOfpPort]
  by_cases hmem : p ∈ s.ports
  · simp only [bind, Except.bind, if_pos hmem]
    by_cases hown : (s.port p).bundle = some q
    · rw [if_pos hown]
      exact ⟨{ h with owned := by simpa [or_imp, forall_and, hown] using h.owned },
        fun _ => hports ▸ hmem⟩
    · rw [if_neg hown]
      refine (h.remove hlag hp hmem hown).bind fun s' ⟨h', hnone⟩ => ?_
      have hports' : s'.ports = s₀.ports := h'.claims.frame.ports
      rw [h'.wf.deref h'.live]
      exact ⟨h'.attach hp (by rwa [hports', ← hports]) hnone, fun _ => hports ▸ hmem⟩
  · simp only [bind, Except.bind, if_neg hmem]
    exact ⟨{ h with owned := by simpa [or_imp, forall_and, hmem] using h.owned }, by simp⟩

/-- The loop rule; `I` speaks of the slaves still to come. -/
theorem addSlaves_rule {E : Fault → Prop} {I : List OfpPort → State × Bool → Prop}
    (hstep : ∀ p todo r, I (p :: todo) r → (bundleAddPort env r.1 q p).Ensures E
      fun r' => I todo (r'.1, r.2 && r'.2)) (h : I slaves (s, true)) :
    (addSlaves env s q slaves).Ensures E (I []) := by
  refine Except.Ensures.foldlM (fun p todo r hr => ?_) h
  exact (hstep p todo r hr).bind fun r' hr' => hr'

/-- After the loop every slave that is a port is one of the bundle's. -/
theorem addSlaves_ensures (h : s.WF) (hq : q ∈ s.bundles) (hlag : NoLagClaim s q slaves) :
    (addSlaves env s q slaves).Ensures Fault.OfInput fun r =>
      Claimed env q slaves slaves s r.1 ∧ (r.2 = true → ∀ p ∈ slaves, p ∈ s.ports) := by
  let I : List OfpPort → State × Bool → Prop := fun todo r => ∃ claimed, slaves = claimed ++ todo ∧
    Claimed env q slaves claimed s r.1 ∧ (r.2 = true → ∀ p ∈ claimed, p ∈ s.ports)
  have hstep : ∀ p todo r, I (p :: todo) r → (bundleAddPort env r.1 q p).Ensures Fault.OfInput
      fun r' => I todo (r'.1, r.2 && r'.2) := by
    rintro p todo r ⟨claimed, hsplit, hclaimed, hall⟩
    refine (hclaimed.add hlag (by simp [hsplit])).mono fun r' ⟨hclaimed', hp⟩ => ?_
    refine ⟨claimed ++ [p], by simpa using hsplit, hclaimed', fun hok p' hp' => ?_⟩
    obtain ⟨hr, hr'⟩ : r.2 = true ∧ r'.2 = true := by simpa using hok
    rcases List.mem_append.mp hp' with hp' | hp'
    · exact hall hr p' hp'
    · obtain rfl : p' = p := by simpa using hp'
      exact hp hr'
  have hinit : I slaves (s, true) := ⟨[], rfl, ⟨h, hq, .refl s, .refl s, by simp,
    fun _ _ => .inl rfl, fun _ _ hchanged => absurd rfl hchanged⟩, by simp⟩
  refine (addSlaves_rule hstep hinit).mono fun r ⟨claimed, hsplit, hclaimed, hall⟩ => ?_
  obtain rfl : slaves = claimed := by simpa using hsplit
  exact ⟨hclaimed, hall⟩

/-- The ports of the bundle after both loops. -/
structure Updated (env : Env) (q : Ptr) (slaves : List OfpPort) (s₀ s : State) : Prop where
  wf : s.WF
  live : q ∈ s.bundles
  steps : PortSteps env s₀ s
  claims : ClaimSteps env (HasSlave s₀ q slaves) s₀ s
  owned : ∀ p ∈ slaves, p ∈ s.ports → (s.port p).bundle = some q
  gone : ∀ q', HasSlave s₀ q slaves q' → q' ∉ s.bundles
  member : ∀ ps, s.Members q ps → ∀ p ∈ ps,
    p ∈ slaves ∨ ¬ slaves.Nodup ∧ (s₀.port p).bundle = some q
  nonempty : ∀ ps, s.Members q ps → ps ≠ [] → ∃ p ∈ slaves, p ∈ s₀.ports
  size : ∀ ps, s.Members q ps → ps.length ≤ slaves.length

theorem Claimed.updated (h : Claimed env q slaves slaves s₀ s)
    (hmember : ∀ ps, s.Members q ps → ∀ p ∈ ps,
      p ∈ slaves ∨ ¬ slaves.Nodup ∧ (s₀.port p).bundle = some q)
    (hnonempty : ∀ ps, s.Members q ps → ps ≠ [] → ∃ p ∈ slaves, p ∈ s₀.ports)
    (hsize : ∀ ps, s.Members q ps → ps.length ≤ slaves.length) : Updated env q slaves s₀ s where
  wf := h.wf
  live := h.live
  steps := h.steps
  claims := h.claims
  owned := h.owned
  gone q' := by
    rintro ⟨hne, p, hp, hmem, hb⟩
    refine h.gone p hmem ?_ q' hb hne
    rw [h.owned p hp (h.claims.frame.ports ▸ hmem), hb]
    simpa using hne.symm
  member := hmember
  nonempty := hnonempty
  size := hsize

/-- The ports that are not slaves are unlinked. -/
theorem Claimed.delOthers (h : Claimed env q slaves slaves s₀ s) :
    (s.forEachPortSafe q fun s p => if p ∈ slaves then .ok s else bundleDelPort env s p).Ensures
      Fault.OfInput fun s' => Claimed env q slaves slaves s₀ s' ∧ Updated env q slaves s₀ s' := by
  let I : State → Prop := fun s' => PortSteps env s s' ∧
    ∀ p, s'.port p = s.port p ∨
      p ∉ slaves ∧ (s'.port p).bundle = none ∧ (s.port p).bundle = some q
  refine Except.Ensures.mono (Except.Ensures.monoError
    (h.wf.toListsWF.forEachPortSafe_del (I := I) h.live slaves ?_ ?_) fun _ => False.elim) ?_
  rotate_left 2
  · rintro s' ⟨hwf', hframe, ⟨hsteps, hport⟩, ps, hps, hkeep⟩
    have hclaimed : Claimed env q slaves slaves s₀ s' := by
      refine ⟨⟨hwf', ?_⟩, ?_, h.steps.trans hsteps, h.claims.trans (.single (.ports hframe)), ?_, ?_,
        ?_⟩
      · rw [hframe.mbridge, hframe.bundles]
        exact h.wf.mbridge
      · rw [hframe.bundles]
        exact h.live
      · intro p hp hmem
        rw [(hport p).resolve_right fun hp' => hp'.1 hp]
        exact h.owned p hp (hframe.ports ▸ hmem)
      · intro p hp
        rcases hport p with hsame | ⟨-, hnone, -⟩
        · rw [hsame]
          exact h.port p hp
        · exact .inr (.inl hnone)
      · intro p hp hchanged q' hq' hne
        rw [hframe.bundles]
        rcases hport p with hsame | ⟨-, -, hown⟩
        · rw [hsame] at hchanged
          exact h.gone p hp hchanged q' hq' hne
        · exact h.gone p hp (by rw [hown, hq']; simpa using hne.symm) q' hq' hne
    refine ⟨hclaimed, hclaimed.updated
      (fun ps' hps' p hp => .inl (hkeep p ((hps'.perm hps).subset hp)))
      (fun ps' hps' hne => ?_) fun ps' hps' => ?_⟩
    · obtain ⟨p, hp⟩ := List.exists_mem_of_ne_nil ps' hne
      exact ⟨p, hkeep p ((hps'.perm hps).subset hp),
        hclaimed.claims.frame.ports ▸ ((hps'.mem_iff p).mp hp).1⟩
    · rw [(hps'.perm hps).length_eq]
      exact (List.subperm_of_subset hps.nodup hkeep).length_le
  · rintro s' p - ⟨hsteps, hport⟩ hp hkeep hb
    refine ⟨hsteps.trans (.single (.detach hp)), fun p' => ?_⟩
    by_cases hpp : p' = p
    · subst hpp
      refine .inr ⟨hkeep, by simp [detachPort], ?_⟩
      rcases hport p' with hsame | ⟨-, hnone, -⟩
      · rw [← hsame, hb]
      · rw [hnone] at hb
        cases hb
    · simp only [detachPort, Function.update_of_ne hpp]
      exact hport p'
  · exact ⟨.refl s, fun p => .inl rfl⟩

theorem updatePorts_claimed (h : s.WF) (hq : q ∈ s.bundles) (hlag : NoLagClaim s q slaves) :
    (updatePorts env s q slaves).Ensures Fault.OfInput
      fun s' => Claimed env q slaves slaves s s' ∧ Updated env q slaves s s' := by
  refine (addSlaves_ensures h hq hlag).bind fun r ⟨hclaimed, hall⟩ => ?_
  obtain ⟨s', ok⟩ := r
  obtain ⟨ps, hps, hmem⟩ := hclaimed.wf.bundlePorts hclaimed.live
  cases ok with
  | false =>
    show (delOtherPorts env s' q slaves false).Ensures _ _
    exact hclaimed.delOthers
  | true =>
    show (delOtherPorts env s' q slaves true).Ensures _ _
    simp only [delOtherPorts, hps, if_true]
    by_cases hlen : ps.length = slaves.length
    · simp only [bind, Except.bind, hlen, decide_true, if_true, Except.ensures_ok]
      have hsub : slaves ⊆ ps := fun p hp => (hmem.mem_iff p).mpr
        (have hp' := hclaimed.claims.frame.ports.symm ▸ hall rfl p hp; ⟨hp', hclaimed.owned p hp hp'⟩)
      refine ⟨hclaimed, hclaimed.updated (fun ps' hps' p hp => ?_) (fun ps' hps' hne => ?_)
        fun ps' hps' => ((hps'.perm hmem).length_eq.trans hlen).le⟩
      · have hp' := (hps'.perm hmem).subset hp
        by_cases hnd : slaves.Nodup
        · have hperm := (List.subperm_of_subset hnd hsub).perm_of_length_le hlen.le
          exact .inl (hperm.mem_iff.mpr hp')
        · obtain ⟨hport, hb⟩ := (hmem.mem_iff p).mp hp'
          rcases hclaimed.port p (hclaimed.claims.frame.ports ▸ hport) with hsame | hnone | ⟨-, hslave⟩
          · exact .inr ⟨hnd, hsame ▸ hb⟩
          · rw [hnone] at hb
            cases hb
          · exact .inl hslave
      · have hpos : 0 < slaves.length := by
          rw [← hlen, ← (hps'.perm hmem).length_eq]
          exact List.length_pos_of_ne_nil hne
        obtain ⟨p, hp⟩ := List.exists_mem_of_length_pos hpos
        exact ⟨p, hp, hall rfl p hp⟩
    · simp only [bind, Except.bind, hlen, decide_false, Bool.false_eq_true, if_false]
      exact hclaimed.delOthers

theorem updatePorts_ensures (h : s.WF) (hq : q ∈ s.bundles) (hlag : NoLagClaim s q slaves) :
    (updatePorts env s q slaves).Ensures Fault.OfInput (Updated env q slaves s) :=
  (updatePorts_claimed h hq hlag).mono fun _ hs' => hs'.2

end Slaves

end ContainerPlugin.Ofproto
