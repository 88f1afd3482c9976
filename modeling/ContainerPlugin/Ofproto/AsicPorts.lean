import ContainerPlugin.Ofproto.Membership

/-!
# Ports of the ASIC

The ports that the provider has in the ASIC are those of the bundles marked as added, as long as no
bundle that is marked is renamed and no bond deletes the port of another bundle along with those of its
members.
-/

namespace ContainerPlugin.Ofproto

/-- The ports of the ASIC are the names of the bundles marked as added, which have names of their
own. -/
structure AsicMatches (s : State) : Prop where
  present_iff : ∀ n, (s.world.asic.ports n).isSome = true ↔
    ∃ q ∈ s.bundles, (s.bundle q).isAddedToSimOvs = true ∧ (s.bundle q).name = n
  distinct : ∀ q ∈ s.bundles, ∀ q' ∈ s.bundles, (s.bundle q).isAddedToSimOvs = true →
    (s.bundle q').isAddedToSimOvs = true → (s.bundle q).name = (s.bundle q').name → q = q'

section AsicMatches

variable {env : Env} {s s' : State} {q : Ptr}

/-- Only the marks, and the names of marked bundles, matter. -/
theorem AsicMatches.congr (h : AsicMatches s) (hports : s'.world.asic.ports = s.world.asic.ports)
    (hmarked : ∀ q n, (q ∈ s'.bundles ∧ (s'.bundle q).isAddedToSimOvs = true ∧
      (s'.bundle q).name = n) ↔
        (q ∈ s.bundles ∧ (s.bundle q).isAddedToSimOvs = true ∧ (s.bundle q).name = n)) :
    AsicMatches s' where
  present_iff n := by
    rw [hports, h.present_iff n]
    exact exists_congr fun q => (hmarked q n).symm
  distinct q hq q' hq' hadded hadded' hname := by
    obtain ⟨h₁, h₂, h₃⟩ := (hmarked q _).mp ⟨hq, hadded, rfl⟩
    obtain ⟨h₁', h₂', h₃'⟩ := (hmarked q' _).mp ⟨hq', hadded', rfl⟩
    exact h.distinct q h₁ q' h₁' h₂ h₂' (h₃.trans (hname.trans h₃'.symm))

theorem AsicMatches.portFrame (h : AsicMatches s) (hframe : s.PortFrame s') : AsicMatches s' :=
  h.congr (by rw [hframe.world.asic]) fun q n => by rw [hframe.bundles, hframe.bundle]

/-- The port goes with the bundle, the others stay. -/
theorem AsicMatches.destroyed (h : AsicMatches s) (hnd : s.bundles.Nodup) (hq : q ∈ s.bundles)
    (henv : env.Healthy) (hdestroyed : Destroyed env q s s') (hfits : s'.world.Fits) :
    AsicMatches s' := by
  have hmem : ∀ q', q' ∈ s'.bundles ↔ q' ≠ q ∧ q' ∈ s.bundles := fun q' => by
    rw [hdestroyed.bundles, hnd.mem_erase_iff]
  have hports : s'.world.asic.ports = (s.asicDel q).ports := by rw [hdestroyed.asic henv hfits]
  constructor
  · intro n
    have hold : (∃ q' ∈ s'.bundles, (s'.bundle q').isAddedToSimOvs = true ∧ (s'.bundle q').name = n) ↔
        ∃ q' ∈ s.bundles, q' ≠ q ∧ (s.bundle q').isAddedToSimOvs = true ∧ (s.bundle q').name = n := by
      refine exists_congr fun q' => ?_
      rw [hmem]
      constructor
      · rintro ⟨⟨hne, hq'⟩, hrest⟩
        exact ⟨hq', hne, hdestroyed.bundle q' hne ▸ hrest⟩
      · rintro ⟨hq', hne, hrest⟩
        exact ⟨⟨hne, hq'⟩, (hdestroyed.bundle q' hne).symm ▸ hrest⟩
    rw [hold, hports, State.asicDel]
    by_cases hadded : (s.bundle q).isAddedToSimOvs = true
    · rw [if_pos hadded]
      by_cases hn : n = (s.bundle q).name
      · subst hn
        simp only [Function.update_self, Option.isSome_none, Bool.false_eq_true, false_iff]
        rintro ⟨q', hq', hne, hadded', hname⟩
        exact hne (h.distinct q' hq' q hq hadded' hadded hname)
      · simp only [Function.update_of_ne hn, h.present_iff n]
        refine exists_congr fun q' => and_congr_right fun _ => ?_
        refine ⟨fun hrest => ⟨?_, hrest⟩, And.right⟩
        rintro rfl
        exact hn hrest.2.symm
    · rw [if_neg hadded, h.present_iff n]
      refine exists_congr fun q' => and_congr_right fun _ => ?_
      refine ⟨fun hrest => ⟨?_, hrest⟩, And.right⟩
      rintro rfl
      exact hadded hrest.1
  · intro q₁ h₁ q₂ h₂
    obtain ⟨hne₁, h₁⟩ := (hmem q₁).mp h₁
    obtain ⟨hne₂, h₂⟩ := (hmem q₂).mp h₂
    rw [hdestroyed.bundle q₁ hne₁, hdestroyed.bundle q₂ hne₂]
    exact h.distinct q₁ h₁ q₂ h₂

/-- What `bundle_configure` makes of the ports: the bundle's own port is the one it is to have, also
when it was there before, and the ports named like its members are gone if it has more than one. -/
theorem State.ports_asicConfigured (ps : List OfpPort) (hvrf : s.vrf = false)
    (hown : (s.bundle q).isAddedToSimOvs = false → s.world.asic.ports (s.bundle q).name = none)
    (n : String) : (s.asicConfigured q ps).ports n =
      if n = (s.bundle q).name then s.toBeAdded q ps
      else if 1 < ps.length ∧ n ∈ ps.map (fun p => (s.port p).name) then none
      else s.world.asic.ports n := by
  have hdel : (s.asicDel q).ports n =
      if n = (s.bundle q).name then none else s.world.asic.ports n := by
    rw [State.asicDel]
    split
    · simp only [Function.update_apply]
    · rename_i hadded
      split
      · rename_i hn
        rw [hn, hown ((Bool.not_eq_true _).mp hadded)]
      · rfl
  have hcleared : (s.asicCleared q ps).ports n = if n = (s.bundle q).name then none
      else if 1 < ps.length ∧ n ∈ ps.map (fun p => (s.port p).name) then none
      else s.world.asic.ports n := by
    rw [State.asicCleared]
    split
    · rename_i hlen
      simp only [Asic.delNames, hdel, gt_iff_lt.mp hlen, true_and]
      split
      · rw [ite_self]
      · rfl
    · rename_i hlen
      simp only [hdel, hlen, false_and, if_false]
  rw [State.asicConfigured]
  split
  · rename_i columns hadd
    by_cases hn : n = (s.bundle q).name
    · rw [if_pos hn] at hcleared ⊢
      subst hn
      simp [Asic.mayAdd, hcleared, hadd]
    · rw [if_neg hn] at hcleared ⊢
      rw [← hcleared, Asic.mayAdd]
      split
      · rfl
      · simp only [Function.update_of_ne hn]
  · rename_i hadd
    rw [if_neg (by simp [hvrf]), hcleared, hadd]

/-- A bundle that is not marked has no port in the ASIC, if no marked one has its name. -/
theorem AsicMatches.ports_eq_none (h : AsicMatches s)
    (hname : ∀ q' ∈ s.bundles, q' ≠ q → (s.bundle q').isAddedToSimOvs = true →
      (s.bundle q').name ≠ (s.bundle q).name)
    (hmark : (s.bundle q).isAddedToSimOvs = false) :
    s.world.asic.ports (s.bundle q).name = none := by
  rw [← Option.not_isSome_iff_eq_none, h.present_iff]
  rintro ⟨q', hq', hadded', heq⟩
  refine hname q' hq' (fun hqq => ?_) hadded' heq
  rw [hqq, hmark] at hadded'
  cases hadded'

/-- The names of marked bundles stay distinct if no marked one has the name of the bundle. -/
theorem AsicMatches.distinct_configured (h : AsicMatches s) (hconf : Configured env q s s')
    (hname : ∀ q' ∈ s.bundles, q' ≠ q → (s.bundle q').isAddedToSimOvs = true →
      (s.bundle q').name ≠ (s.bundle q).name) :
    ∀ q₁ ∈ s'.bundles, ∀ q₂ ∈ s'.bundles, (s'.bundle q₁).isAddedToSimOvs = true →
      (s'.bundle q₂).isAddedToSimOvs = true → (s'.bundle q₁).name = (s'.bundle q₂).name →
      q₁ = q₂ := by
  rw [hconf.bundles]
  have hne : ∀ q' ∈ s.bundles, q' ≠ q → (s'.bundle q').isAddedToSimOvs = true →
      (s'.bundle q').name ≠ (s'.bundle q).name := by
    intro q' hq' hqq
    rw [hconf.bundle_ne q' hqq, hconf.bundle_self]
    exact hname q' hq' hqq
  intro q₁ h₁ q₂ h₂ ha₁ ha₂ heq
  by_cases hq₁ : q₁ = q
  · by_cases hq₂ : q₂ = q
    · rw [hq₁, hq₂]
    · exact absurd (hq₁ ▸ heq.symm) (hne q₂ h₂ hq₂ ha₂)
  · by_cases hq₂ : q₂ = q
    · exact absurd (hq₂ ▸ heq) (hne q₁ h₁ hq₁ ha₁)
    · rw [hconf.bundle_ne q₁ hq₁] at ha₁ heq
      rw [hconf.bundle_ne q₂ hq₂] at ha₂ heq
      exact h.distinct q₁ h₁ q₂ h₂ ha₁ ha₂ heq

/-- The bundle is in the ASIC with its new columns, or it is not marked; the others stay. -/
theorem AsicMatches.configured (h : AsicMatches s) (hwf : s.WF) (hq : q ∈ s.bundles)
    (hvrf : s.vrf = false) (henv : env.Healthy) (hconf : Configured env q s s')
    (hfits : s'.world.Fits) (hname : ∀ q' ∈ s.bundles, q' ≠ q → (s.bundle q').isAddedToSimOvs = true →
      (s.bundle q').name ≠ (s.bundle q).name)
    (hmember : ∀ ps, s.Members q ps → 1 < ps.length → ∀ q' ∈ s.bundles, q' ≠ q →
      (s.bundle q').isAddedToSimOvs = true →
      (s.bundle q').name ∉ ps.map fun p => (s.port p).name) : AsicMatches s' := by
  obtain ⟨ps, hps⟩ := hwf.members q hq
  obtain ⟨hadded, hasic⟩ := hconf.asic henv hfits ps hps
  have hports := State.ports_asicConfigured ps hvrf (h.ports_eq_none hname)
  have hself : (s'.bundle q).name = (s.bundle q).name := by rw [hconf.bundle_self]
  have hother : ∀ q' ∈ s.bundles, q' ≠ q → (s.bundle q').isAddedToSimOvs = true →
      (s.asicConfigured q ps).ports (s.bundle q').name = s.world.asic.ports (s.bundle q').name := by
    intro q' hq' hqq hadded'
    rw [hports, if_neg (hname q' hq' hqq hadded'), if_neg]
    exact fun hmem => hmember ps hps hmem.1 q' hq' hqq hadded' hmem.2
  constructor
  · intro n
    rw [hasic, hconf.bundles]
    constructor
    · intro hsome
      rw [hports] at hsome
      split at hsome
      · rename_i hn
        exact ⟨q, hq, hadded.trans hsome, hself.trans hn.symm⟩
      · rename_i hn
        split at hsome
        · cases hsome
        · obtain ⟨q', hq', hadded', rfl⟩ := (h.present_iff n).mp hsome
          have hne : q' ≠ q := fun hqq => hn (by rw [hqq])
          exact ⟨q', hq', by rwa [hconf.bundle_ne q' hne], by rw [hconf.bundle_ne q' hne]⟩
    · rintro ⟨q', hq', hadded', rfl⟩
      by_cases hqq : q' = q
      · subst hqq
        rw [hports, hself, if_pos rfl, ← hadded, hadded']
      · rw [hconf.bundle_ne q' hqq] at hadded' ⊢
        rw [hother q' hq' hqq hadded', h.present_iff]
        exact ⟨q', hq', hadded', rfl⟩
  · exact h.distinct_configured hconf hname

theorem AsicMatches.claimSteps {V : Ptr → Prop} (h : AsicMatches s) (henv : env.Healthy)
    (hclaims : ClaimSteps env V s s') (hfits : s'.world.Fits) : AsicMatches s' := by
  induction hclaims with
  | refl => exact h
  | tail _ hstep ih =>
    cases hstep with
    | ports hframe => exact (ih (hfits.of_prefix hframe.world.log)).portFrame hframe
    | destroy hwf hq _ hdestroyed =>
      exact (ih (hfits.of_prefix hdestroyed.steps.log)).destroyed hwf.nodup hq henv hdestroyed hfits

end AsicMatches

/-! ## Resynchronising the bundles -/

def NamesDistinct (s : State) : Prop :=
  ∀ q ∈ s.bundles, ∀ q' ∈ s.bundles, (s.bundle q).name = (s.bundle q').name → q = q'

/-- `set_vlan` configures the bundle again. -/
def State.IsReconfigured (s : State) (q : Ptr) : Prop :=
  (s.bundle q).isVlanRoutingEnabled = false ∧ (s.bundle q).isBridgeBundle = false

instance (s : State) (q : Ptr) : Decidable (s.IsReconfigured q) := inferInstanceAs (Decidable (_ ∧ _))

/-- The port that a bundle, once it is configured, has in the ASIC. -/
def State.wantedPort (s : State) (q : Ptr) : Option PortColumns :=
  if ∃ p ∈ s.ports, (s.port p).bundle = some q then wantedColumns s.vlansBmp (s.bundle q) else none

/-- The bundle has a port in the ASIC once all bundles are configured. -/
def State.endsAdded (s : State) (q : Ptr) : Bool :=
  if s.IsReconfigured q then (s.wantedPort q).isSome else (s.bundle q).isAddedToSimOvs

/-- A port of a bundle that has another port too. -/
def State.SharesBundle (s : State) (q : Ptr) (p : OfpPort) : Prop :=
  (s.port p).bundle = some q ∧ ∃ p' ∈ s.ports, (s.port p').bundle = some q ∧ p' ≠ p

instance (s : State) (q : Ptr) (p : OfpPort) : Decidable (s.SharesBundle q p) :=
  inferInstanceAs (Decidable (_ ∧ _))

/-- No bundle that ends up in the ASIC has the name of a netdev that another bundle, when it is
configured, takes out of the ASIC. -/
def State.MembersApart (s : State) : Prop :=
  ∀ q ∈ s.bundles, s.IsReconfigured q → ∀ p ∈ s.ports, s.SharesBundle q p →
    ∀ q' ∈ s.bundles, q' ≠ q → s.endsAdded q' = true → (s.bundle q').name ≠ (s.port p).name

instance (s : State) : Decidable (NamesDistinct s) :=
  inferInstanceAs (Decidable (∀ q ∈ s.bundles, ∀ q' ∈ s.bundles, _ → _))

instance (s : State) : Decidable s.MembersApart :=
  inferInstanceAs (Decidable (∀ q ∈ s.bundles, _ → ∀ p ∈ s.ports, _ → ∀ q' ∈ s.bundles, _ → _))

/-- The state of the loop over the bundles that started in `s₀`; `todo` are the bundles to come. What
they have in the ASIC does not matter, as long as it goes when they are configured. -/
structure Resynced (s₀ : State) (todo : List Ptr) (s : State) : Prop where
  vrf : s.vrf = s₀.vrf
  ports : s.ports = s₀.ports
  port : ∀ p, (s.port p).bundle = (s₀.port p).bundle ∧ (s.port p).name = (s₀.port p).name
  bundles : s.bundles = s₀.bundles
  bundle : ∀ q, s.bundle q = { s₀.bundle q with isAddedToSimOvs := (s.bundle q).isAddedToSimOvs }
  vlansBmp : s.vlansBmp = s₀.vlansBmp
  kept : ∀ q, q ∈ todo ∨ ¬ s₀.IsReconfigured q →
    (s.bundle q).isAddedToSimOvs = (s₀.bundle q).isAddedToSimOvs
  done : ∀ q ∈ s₀.bundles, q ∉ todo → s₀.IsReconfigured q →
    (s.bundle q).isAddedToSimOvs = (s₀.wantedPort q).isSome ∧
      s.world.asic.ports (s₀.bundle q).name = s₀.wantedPort q
  unadded : ∀ q ∈ todo, (s₀.bundle q).isAddedToSimOvs = false →
    s.world.asic.ports (s₀.bundle q).name = none
  other : ∀ n, (∀ q ∈ s₀.bundles, s₀.IsReconfigured q → (s₀.bundle q).name ≠ n) →
    s.world.asic.ports n = s₀.world.asic.ports n

section Resynced

variable {env : Env} {s s' s₀ : State} {q : Ptr} {todo : List Ptr}

theorem exists_ne_of_one_lt_length {ps : List OfpPort} (hnd : ps.Nodup) (hlen : 1 < ps.length)
    (p : OfpPort) : ∃ p' ∈ ps, p' ≠ p := by
  by_contra hall
  push Not at hall
  have hsub : ps ⊆ [p] := fun p' hp' => by simp [hall p' hp']
  have hle := (List.subperm_of_subset hnd hsub).length_le
  simp only [List.length_singleton] at hle
  omega

theorem State.Members.sharesBundle {ps : List OfpPort} {p : OfpPort} (h : s.Members q ps)
    (hlen : 1 < ps.length) (hp : p ∈ ps) : p ∈ s.ports ∧ s.SharesBundle q p := by
  obtain ⟨p', hp', hne⟩ := exists_ne_of_one_lt_length h.nodup hlen p
  obtain ⟨hmem, hb⟩ := (h.mem_iff p).mp hp
  obtain ⟨hmem', hb'⟩ := (h.mem_iff p').mp hp'
  exact ⟨hmem, hb, p', hmem', hb', hne⟩

theorem State.Members.toBeAdded {ps : List OfpPort} (h : s.Members q ps) (hvrf : s.vrf = false) :
    s.toBeAdded q ps = s.wantedPort q := by
  have hempty : ps = [] ↔ ¬ ∃ p ∈ s.ports, (s.port p).bundle = some q := by
    rw [List.eq_nil_iff_forall_not_mem]
    simp [h.mem_iff]
  rw [State.toBeAdded, State.wantedPort]
  split
  · rename_i hnone
    rw [if_neg (hempty.mp (by simpa [hvrf] using hnone))]
  · rename_i hsome
    rw [if_pos]
    by_contra hnone
    exact hsome (.inr (hempty.mpr hnone))

theorem Resynced.wantedPort (h : Resynced s₀ todo s) (q : Ptr) : s.wantedPort q = s₀.wantedPort q := by
  simp only [State.wantedPort, h.ports, h.port, h.vlansBmp]
  rw [h.bundle q]
  rfl

theorem AsicMatches.resynced (h : AsicMatches s) (hnames : NamesDistinct s)
    (htodo : todo.Perm s.bundles) : Resynced s todo s where
  vrf := rfl
  ports := rfl
  port _ := ⟨rfl, rfl⟩
  bundles := rfl
  bundle _ := rfl
  vlansBmp := rfl
  kept _ _ := rfl
  done _ hq hnot := absurd (htodo.mem_iff.mpr hq) hnot
  unadded q hq hadded := h.ports_eq_none
    (fun q' hq' hne _ heq => hne (hnames q' hq' q (htodo.mem_iff.mp hq) heq)) hadded
  other _ _ := rfl

theorem Resynced.skip (h : Resynced s₀ (q :: todo) s) (hskip : ¬ s₀.IsReconfigured q) :
    Resynced s₀ todo s where
  vrf := h.vrf
  ports := h.ports
  port := h.port
  bundles := h.bundles
  bundle := h.bundle
  vlansBmp := h.vlansBmp
  kept q' hq' := h.kept q' (hq'.imp_left (List.mem_cons_of_mem q))
  done q' hq' hnot hre := by
    refine h.done q' hq' (fun hmem => ?_) hre
    rcases List.mem_cons.mp hmem with rfl | hmem
    · exact hskip hre
    · exact hnot hmem
  unadded q' hq' := h.unadded q' (List.mem_cons_of_mem q hq')
  other := h.other

/-- One turn of the loop. -/
theorem Resynced.configured (h : Resynced s₀ (q :: todo) s) (hmatch : AsicMatches s₀)
    (hnames : NamesDistinct s₀) (hapart : s₀.MembersApart) (hvrf : s₀.vrf = false)
    (htodo : ∀ q' ∈ q :: todo, q' ∈ s₀.bundles) (hq : q ∉ todo) (hre : s₀.IsReconfigured q)
    (hwf : s.WF) (henv : env.Healthy) (hconf : Configured env q s s') (hfits : s'.world.Fits) :
    Resynced s₀ todo s' := by
  have hlive : q ∈ s₀.bundles := htodo q (by simp)
  obtain ⟨ps, hps⟩ := hwf.members q (h.bundles ▸ hlive)
  obtain ⟨hadded, hasic⟩ := hconf.asic henv hfits ps hps
  have hname : ∀ q', (s.bundle q').name = (s₀.bundle q').name := fun q' => by rw [h.bundle]
  have hown : (s.bundle q).isAddedToSimOvs = false →
      s.world.asic.ports (s.bundle q).name = none := by
    rw [h.kept q (.inl (by simp)), hname]
    exact h.unadded q (by simp)
  have hports := State.ports_asicConfigured ps (h.vrf.trans hvrf) hown
  rw [hps.toBeAdded (h.vrf.trans hvrf), h.wantedPort] at hadded hports
  -- a bundle that ends up in the ASIC does not lose its port here
  have hmember : ∀ q' ∈ s₀.bundles, q' ≠ q → s₀.endsAdded q' = true →
      ¬ (1 < ps.length ∧ (s₀.bundle q').name ∈ ps.map fun p => (s.port p).name) := by
    rintro q' hq' hne hends ⟨hlen, hmem⟩
    obtain ⟨p, hp, heq⟩ := List.mem_map.mp hmem
    have hshares := hps.sharesBundle hlen hp
    simp only [State.SharesBundle, h.ports, h.port] at hshares
    exact hapart q hlive hre p hshares.1 hshares.2 q' hq' hne hends (by rw [← heq, (h.port p).2])
  have hdistinct : ∀ q' ∈ s₀.bundles, q' ≠ q → (s₀.bundle q').name ≠ (s₀.bundle q).name :=
    fun q' hq' hne heq => hne (hnames q' hq' q hlive heq)
  constructor
  case vrf => exact hconf.vrf.trans h.vrf
  case ports => exact hconf.ports.trans h.ports
  case port =>
    exact fun p => ⟨(hconf.port p).1.trans (h.port p).1, (hconf.port p).2.trans (h.port p).2⟩
  case bundles => exact hconf.bundles.trans h.bundles
  case bundle =>
    intro q'
    by_cases hqq : q' = q
    · subst hqq
      rw [hconf.bundle_self, h.bundle q']
    · rw [hconf.bundle_ne q' hqq]
      exact h.bundle q'
  case vlansBmp => exact hconf.vlansBmp.trans h.vlansBmp
  case kept =>
    intro q' hq'
    have hqq : q' ≠ q := by
      rintro rfl
      exact hq'.elim hq fun hskip => hskip hre
    rw [hconf.bundle_ne q' hqq]
    exact h.kept q' (hq'.imp_left (List.mem_cons_of_mem q))
  case done =>
    intro q' hq' hnot hre'
    by_cases hqq : q' = q
    · subst hqq
      exact ⟨hadded, by rw [hasic, hports, hname, if_pos rfl]⟩
    · obtain ⟨hadded', hport'⟩ := h.done q' hq' (by simp [hqq, hnot]) hre'
      refine ⟨by rw [hconf.bundle_ne q' hqq, hadded'], ?_⟩
      rw [hasic, hports, hname, if_neg (hdistinct q' hq' hqq)]
      split
      · rename_i hmem
        rw [eq_comm, ← Option.not_isSome_iff_eq_none]
        intro hsome
        exact hmember q' hq' hqq (by rwa [State.endsAdded, if_pos hre']) hmem
      · exact hport'
  case unadded =>
    intro q' hq' hadded'
    have hqq : q' ≠ q := ne_of_mem_of_not_mem hq' hq
    rw [hasic, hports, hname, if_neg (hdistinct q' (htodo q' (.tail _ hq')) hqq)]
    split
    · rfl
    · exact h.unadded q' (.tail _ hq') hadded'
  case other =>
    intro n hn
    rw [hasic, hports, hname, if_neg fun heq => hn q hlive hre heq.symm]
    split
    · rename_i hmem
      rw [eq_comm, ← Option.not_isSome_iff_eq_none, hmatch.present_iff]
      rintro ⟨q', hq', hadded', rfl⟩
      have hre' : ¬ s₀.IsReconfigured q' := fun hre' => hn q' hq' hre' rfl
      have hqq : q' ≠ q := fun hqq => hre' (hqq ▸ hre)
      exact hmember q' hq' hqq (by rwa [State.endsAdded, if_neg hre']) hmem
    · exact h.other n hn

/-- The whole loop. -/
theorem Reconfigured.resynced (h : Reconfigured env todo s s') (hinv : Resynced s₀ todo s)
    (hmatch : AsicMatches s₀) (hnames : NamesDistinct s₀) (hapart : s₀.MembersApart)
    (hvrf : s₀.vrf = false) (htodo : ∀ q ∈ todo, q ∈ s₀.bundles) (hnd : todo.Nodup)
    (henv : env.Healthy) (hfits : s'.world.Fits) : Resynced s₀ [] s' := by
  induction h with
  | nil => exact hinv
  | @skip q todo s s' hskip _ ih =>
    rw [hinv.bundle q] at hskip
    have hskip' : ¬ s₀.IsReconfigured q := by
      rintro ⟨hrouting, hbridge⟩
      simp [hrouting, hbridge] at hskip
    exact ih (hinv.skip hskip') (fun q' hq' => htodo q' (.tail _ hq')) hnd.of_cons hfits
  | @configure q todo s s₁ s' hwf hq hre hconf hrest ih =>
    rw [hinv.bundle q] at hre
    have hre' : s₀.IsReconfigured q := by simpa [State.IsReconfigured] using hre
    refine ih ?_ (fun q' hq' => htodo q' (.tail _ hq')) hnd.of_cons hfits
    exact hinv.configured hmatch hnames hapart hvrf htodo (List.nodup_cons.mp hnd).1 hre' hwf henv
      hconf (hrest.steps.fits hfits)

theorem Resynced.asicMatches (h : Resynced s₀ [] s) (hmatch : AsicMatches s₀)
    (hnames : NamesDistinct s₀) : AsicMatches s := by
  have hname : ∀ q, (s.bundle q).name = (s₀.bundle q).name := fun q => by rw [h.bundle]
  constructor
  · intro n
    simp only [h.bundles, hname]
    by_cases hre : ∃ q ∈ s₀.bundles, s₀.IsReconfigured q ∧ (s₀.bundle q).name = n
    · obtain ⟨q, hq, hre, rfl⟩ := hre
      obtain ⟨hadded, hport⟩ := h.done q hq (by simp) hre
      rw [hport, ← hadded]
      constructor
      · exact fun hmark => ⟨q, hq, hmark, rfl⟩
      · rintro ⟨q', hq', hmark, heq⟩
        rwa [hnames q' hq' q hq heq] at hmark
    · have hother : ∀ q ∈ s₀.bundles, s₀.IsReconfigured q → (s₀.bundle q).name ≠ n :=
        fun q hq hre' heq => hre ⟨q, hq, hre', heq⟩
      rw [h.other n hother, hmatch.present_iff]
      refine exists_congr fun q => and_congr_right fun hq => and_congr_left fun heq => ?_
      rw [h.kept q (.inr fun hre' => hother q hq hre' heq)]
  · intro q hq q' hq' _ _ heq
    rw [hname, hname] at heq
    rw [h.bundles] at hq hq'
    exact hnames q hq q' hq' heq

end Resynced

/-! ## Calls that keep the ports of the ASIC -/

/-- The port is in the bundle of `aux` once `bundle_set` has updated the ports: it is a slave, or it
was there before and duplicates among the slaves hide that it is not. -/
def State.GetsMember (s : State) (aux : Ptr) (slaves : List OfpPort) (p : OfpPort) : Prop :=
  p ∈ slaves ∨ ¬ slaves.Nodup ∧ ∃ q ∈ s.bundleLookup aux, (s.port p).bundle = some q

instance (s : State) (aux : Ptr) (slaves : List OfpPort) (p : OfpPort) :
    Decidable (s.GetsMember aux slaves p) := inferInstanceAs (Decidable (_ ∨ _ ∧ ∃ q ∈ _, _))

/-- `bundle_set` does not rename a bundle that is in the ASIC, and neither it nor `set_vlan` configures
a bundle with two ports while another bundle that stays in the ASIC has the name of one of their
netdevs. -/
def KeepsPorts (s : State) : Op → Prop
  | .bundleSet aux (some b) =>
    (∀ q ∈ s.bundleLookup aux, (s.bundle q).isAddedToSimOvs = true → b.name = (s.bundle q).name) ∧
    ((∀ q ∈ s.bundleLookup aux, (s.bundle q).isBridgeBundle = false) →
      ∀ p ∈ s.ports, s.GetsMember aux b.slaves p →
        (∃ p' ∈ s.ports, s.GetsMember aux b.slaves p' ∧ p' ≠ p) →
        ∀ q' ∈ s.bundles, s.bundleLookup aux ≠ some q' → (s.bundle q').isAddedToSimOvs = true →
          (∀ p ∈ b.slaves, p ∈ s.ports → (s.port p).bundle ≠ some q') →
          (s.bundle q').name ≠ (s.port p).name)
  | .setVlan vid add => decide (vid.toNat ∈ s.vlansBmp) ≠ add →
    { s with vlansBmp := bitmapSet s.vlansBmp vid add }.MembersApart
  | _ => True

section Calls

variable {env : Env} {s s' s₀ : State} {q aux : Ptr} {settings : OfprotoBundleSettings}

theorem AsicMatches.opened (h : AsicMatches s) (hopened : Opened env aux settings q s s')
    (hrename : ∀ q ∈ s.bundleLookup aux, (s.bundle q).isAddedToSimOvs = true →
      settings.name = (s.bundle q).name) : AsicMatches s' := by
  refine h.congr (by rw [hopened.world]) fun q' n => ?_
  by_cases hqq : q' = q
  · subst hqq
    rcases hopened.found with ⟨hfind, hbundles, -, hbundle⟩ | ⟨-, hfresh, -, -, hbundle⟩
    · rw [hbundles, hbundle]
      refine and_congr_right fun _ => and_congr_right fun hadded => ?_
      rw [Ofbundle.withSettings, hrename q' hfind hadded]
    · simp [hbundle, hfresh, Ofbundle.withSettings, Ofbundle.fresh]
  · rw [hopened.bundle_ne q' hqq]
    exact and_congr_left fun _ => hopened.mem_iff hqq

theorem AsicMatches.modifyBundle (h : AsicMatches s) {f : Ofbundle → Ofbundle}
    (hf : ∀ b, (f b).isAddedToSimOvs = b.isAddedToSimOvs ∧ (f b).name = b.name) :
    AsicMatches (s.modifyBundle q f) := by
  refine h.congr rfl fun q' n => ?_
  by_cases hqq : q' = q
  · subst hqq
    simp [State.modifyBundle, hf]
  · simp [State.modifyBundle, hqq]

theorem AsicMatches.applied (h : AsicMatches s) (hwf : s.WF) (hq : q ∈ s.bundles)
    (henv : env.Healthy) (happlied : Applied env q settings s s') (hfits : s'.world.Fits)
    (hnames : NamesDistinct s')
    (hmember : (s.bundle q).isBridgeBundle = false → ∀ ps, s.Members q ps → 1 < ps.length →
      ∀ q' ∈ s.bundles, q' ≠ q → (s.bundle q').isAddedToSimOvs = true →
      (s.bundle q').name ∉ ps.map fun p => (s.port p).name) : AsicMatches s' := by
  cases happlied with
  | bridge => exact h
  | routing sflow _ _ _ _ _ hasic =>
    refine h.congr (by rw [hasic henv hfits]) fun q' n => ?_
    by_cases hqq : q' = q
    · subst hqq
      simp
    · simp [hqq]
  | mark => exact h.modifyBundle fun _ => ⟨rfl, rfl⟩
  | configured sflow hbridge hvrf _ hconf =>
    let f : Ofbundle → Ofbundle := fun b =>
      ({ b with isSflowEnabled := sflow } : Ofbundle).withVlans settings
    have hbundle : ∀ q' ≠ q, (s.modifyBundle q f).bundle q' = s.bundle q' :=
      fun q' hqq => by simp [State.modifyBundle, hqq]
    have hmatch : AsicMatches (s.modifyBundle q f) := h.modifyBundle fun _ => ⟨rfl, rfl⟩
    have hwf' : (s.modifyBundle q f).WF := hwf.modifyBundle fun _ => rfl
    refine hmatch.configured hwf' hq hvrf henv hconf hfits (fun q' hq' hqq _ heq => hqq ?_)
      fun ps hps hlen q' hq' hqq => ?_
    · refine hnames q' (hconf.bundles.symm ▸ hq') q (hconf.bundles.symm ▸ hq) ?_
      rw [hconf.bundle_ne q' hqq, hconf.bundle_self]
      exact heq
    · rw [hbundle q' hqq]
      exact hmember hbridge ps (hps.congr rfl (fun _ _ => rfl) rfl) hlen q' hq' hqq

/-- The ports of the bundle are slaves, and the bundles that are left had none of them. -/
theorem AsicMatches.bundleSet {rc : Rc} (h : AsicMatches s) (hwf : s.WF) (henv : env.Healthy)
    (hset : BundleSet env aux settings s s' rc) (hfits : s'.world.Fits)
    (hnames : NamesDistinct s')
    (hkeeps : KeepsPorts s (.bundleSet aux (some settings))) : AsicMatches s' := by
  cases hset with
  | destroyed hopened hwf₁ hupdated _ hdestroyed =>
    have hfits₂ := hdestroyed.steps.fits hfits
    exact ((h.opened hopened hkeeps.1).claimSteps henv hupdated.claims hfits₂).destroyed
      hupdated.wf.nodup hupdated.live henv hdestroyed hfits
  | @applied q s₁ s₂ _ hopened hwf₁ hupdated _ happlied =>
    have hfits₂ := happlied.steps.fits hfits
    refine ((h.opened hopened hkeeps.1).claimSteps henv hupdated.claims hfits₂).applied hupdated.wf
      hupdated.live henv happlied hfits hnames fun hbridge ps hps hlen q' hq' hqq hadded hmem => ?_
    obtain ⟨p, hp, hname⟩ := List.mem_map.mp hmem
    obtain ⟨p', hp', hne⟩ := exists_ne_of_one_lt_length hps.nodup hlen p
    have hframe := hupdated.claims.frame
    have hports : s₂.ports = s.ports := hframe.ports.trans hopened.frame.ports
    have hport : ∀ p ∈ ps, p ∈ s.ports ∧ s.GetsMember aux settings.slaves p := by
      intro p hp
      refine ⟨hports ▸ ((hps.mem_iff p).mp hp).1, ?_⟩
      rcases hupdated.member ps hps p hp with hslave | ⟨hdup, hb⟩
      · exact .inl hslave
      · rw [hopened.frame.port] at hb
        have hq := hwf.owner p (hports ▸ ((hps.mem_iff p).mp hp).1) q hb
        exact .inr ⟨hdup, q, hopened.lookup_eq hq, hb⟩
    have hbridge' : ∀ q ∈ s.bundleLookup aux, (s.bundle q).isBridgeBundle = false := by
      rw [(hframe.sub q hupdated.live).2] at hbridge
      exact hopened.isBridgeBundle.mp hbridge
    -- the bundle `q'` was there before the call, with the same contents
    obtain ⟨hq₁, hsame⟩ := hframe.sub q' hq'
    rw [hopened.bundle_ne q' hqq] at hsame
    have hq₀ : q' ∈ s.bundles := (hopened.mem_iff hqq).mp hq₁
    have hother : s.bundleLookup aux ≠ some q' := hopened.lookup_ne hqq
    have hfree : ∀ p ∈ settings.slaves, p ∈ s.ports → (s.port p).bundle ≠ some q' := by
      intro p hp hmem hb
      refine hupdated.gone q' ⟨hqq, p, hp, ?_, ?_⟩ hq'
      · rw [hopened.frame.ports]
        exact hmem
      · rw [hopened.frame.port, hb]
    refine hkeeps.2 hbridge' p (hport p hp).1 (hport p hp).2 ⟨p', (hport p' hp').1, (hport p' hp').2,
      hne⟩ q' hq₀ hother (hsame ▸ hadded) hfree ?_
    rw [← hsame, ← hname, (hframe.netdev p).1, hopened.frame.port]

/-- A call of `set_vlan` that changes a bit configures all bundles with the new bitmap. -/
theorem SetVlan.resynced {vid : ℤ} {add : Bool} (hset : SetVlan env vid add s s')
    (hbit : decide (vid.toNat ∈ s.vlansBmp) ≠ add) (hvrf : s.vrf = false) (h : AsicMatches s)
    (hwf : s.WF) (hnames : NamesDistinct s)
    (hapart : { s with vlansBmp := bitmapSet s.vlansBmp vid add }.MembersApart) (henv : env.Healthy)
    (hfits : s'.world.Fits) : Resynced { s with vlansBmp := bitmapSet s.vlansBmp vid add } [] s' := by
  cases hset with
  | unchanged hsame => exact absurd hsame hbit
  | vrf htrue => simp [hvrf] at htrue
  | changed _ _ hbmp hrest =>
    subst hbmp
    let s₁ : State := { s with vlansBmp := bitmapSet s.vlansBmp vid add }
    have hmatch : AsicMatches s₁ := h.congr rfl fun _ _ => .rfl
    have hperm : (env.order s₁).Perm s₁.bundles := env.order_perm s₁
    exact hrest.resynced (hmatch.resynced hnames hperm) hmatch hnames hapart hvrf
      (fun q hq => hperm.mem_iff.mp hq) (hperm.nodup_iff.mpr hwf.nodup) henv hfits

theorem AsicMatches.setVlan {vid : ℤ} {add : Bool} (h : AsicMatches s) (hwf : s.WF)
    (henv : env.Healthy) (hset : SetVlan env vid add s s') (hfits : s'.world.Fits)
    (hnames : NamesDistinct s) (hkeeps : KeepsPorts s (.setVlan vid add)) : AsicMatches s' := by
  cases hset with
  | unchanged => exact h
  | vrf => exact h.congr rfl fun _ _ => .rfl
  | changed hvrf hbit hbmp hrest =>
    have hresynced := SetVlan.resynced (.changed hvrf hbit hbmp hrest) hbit hvrf h hwf hnames
      (hkeeps hbit) henv hfits
    exact hresynced.asicMatches (h.congr rfl fun _ _ => .rfl) hnames

end Calls

instance (s : State) : ∀ op, Decidable (KeepsPorts s op)
  | .bundleSet aux (some b) => inferInstanceAs (Decidable (
    (∀ q ∈ s.bundleLookup aux, (s.bundle q).isAddedToSimOvs = true → b.name = (s.bundle q).name) ∧
    ((∀ q ∈ s.bundleLookup aux, (s.bundle q).isBridgeBundle = false) →
      ∀ p ∈ s.ports, s.GetsMember aux b.slaves p →
        (∃ p' ∈ s.ports, s.GetsMember aux b.slaves p' ∧ p' ≠ p) →
        ∀ q' ∈ s.bundles, s.bundleLookup aux ≠ some q' → (s.bundle q').isAddedToSimOvs = true →
          (∀ p ∈ b.slaves, p ∈ s.ports → (s.port p).bundle ≠ some q') →
          (s.bundle q').name ≠ (s.port p).name)))
  | .setVlan _ _ => inferInstanceAs (Decidable (_ → State.MembersApart _))
  | .bundleSet _ none | .bundleRemove _ | .mirrorSet .. => inferInstanceAs (Decidable True)

/-- The calls on bundles that keep the names distinct, rename no bundle that is in the ASIC and delete
the port of no other. -/
def KeepingCall (s : State) (op : Op) (s' : State) : Prop :=
  op.OnBundles ∧ Sound s op s' ∧ NamesDistinct s' ∧ KeepsPorts s op

instance (s : State) (op : Op) (s' : State) : Decidable (KeepingCall s op s') :=
  inferInstanceAs (Decidable (_ ∧ _))

theorem Initial.asicMatches {s : State} (h : Initial s) : AsicMatches s where
  present_iff n := by simp [h.asicPorts, h.bundles]
  distinct q hq := by simp [h.bundles] at hq

theorem Reaches.asicMatches {env : Env} {s₀ s : State} (h : Reaches env KeepingCall s₀ s)
    (h₀ : Initial s₀) (henv : env.Healthy) (hfits : s.world.Fits) : NamesDistinct s ∧ AsicMatches s := by
  suffices hinv : s.WF ∧ NamesDistinct s ∧ (s.world.Fits → AsicMatches s) from
    ⟨hinv.2.1, hinv.2.2 hfits⟩
  refine h.invariant (I := fun s => s.WF ∧ NamesDistinct s ∧ (s.world.Fits → AsicMatches s))
    ⟨h₀.wf, by simp [NamesDistinct, h₀.bundles], fun _ => h₀.asicMatches⟩ ?_
  rintro s op s' ⟨hwf, hnames, hmatch⟩ ⟨hcall, hsound, hnames', hkeeps⟩ hstep
  obtain ⟨hwf', heffect⟩ := hwf.step hsound.1 hsound.2 hstep
  refine ⟨hwf', hnames', fun hfits' => ?_⟩
  have hmatch := hmatch (heffect.steps.fits hfits')
  cases heffect with
  | absent | kept => exact hmatch
  | deleted hfind hdestroyed =>
    exact hmatch.destroyed hwf.nodup (hwf.bundleLookup_eq_some_iff.mp hfind).1 henv hdestroyed hfits'
  | removed hp hb _ hdestroyed =>
    exact hmatch.destroyed hwf.nodup (hwf.owner _ hp _ hb) henv hdestroyed hfits'
  | set hset => exact hmatch.bundleSet hwf henv hset hfits' hnames' hkeeps
  | vlan hvlan => exact hmatch.setVlan hwf henv hvlan hfits' hnames hkeeps
  | mirror => exact hcall.elim

/-- Along every run of such calls the ports of the ASIC are those of the bundles marked as added. -/
theorem asicPorts_follow_bundles (env : Env) {s₀ s : State} (henv : env.Healthy) (h₀ : Initial s₀)
    (h : Reaches env KeepingCall s₀ s) (hfits : s.world.Fits) (n : String) :
    (s.world.asic.ports n).isSome = true ↔
      ∃ q ∈ s.bundles, (s.bundle q).isAddedToSimOvs = true ∧ (s.bundle q).name = n :=
  (h.asicMatches h₀ henv hfits).2.present_iff n

theorem sampleEnv_healthy : sampleEnv.Healthy := fun _ _ => rfl

/-- An access port and a bond come into the ASIC with their VLAN, and the access port goes again. -/
theorem asicPorts_follow_bundles_of_vlan : ∃ s,
    run sampleEnv (sampleState false) [.bundleSet 100 (some (sampleSettings "eth1" [1] false)),
      .bundleSet 101 (some (sampleSettings "bond0" [2, 3] true)), .setVlan 10 true,
      .bundleRemove 1] = .ok s ∧
    ∀ n, (s.world.asic.ports n).isSome = true ↔
      ∃ q ∈ s.bundles, (s.bundle q).isAddedToSimOvs = true ∧ (s.bundle q).name = n := by
  let ops : List Op := [.bundleSet 100 (some (sampleSettings "eth1" [1] false)),
    .bundleSet 101 (some (sampleSettings "bond0" [2, 3] true)), .setVlan 10 true, .bundleRemove 1]
  have hmeets : RunMeets sampleEnv KeepingCall (sampleState false) ops := by decide +kernel
  have hobs : (run sampleEnv (sampleState false) ops).toOption.map
      (fun s => decide s.world.Fits) = some true := by decide +kernel
  obtain ⟨s, hrun, hreaches, hfits⟩ := Reaches.of_observed hmeets hobs
  rw [decide_eq_true_eq] at hfits
  exact ⟨s, hrun, asicPorts_follow_bundles sampleEnv sampleEnv_healthy (sampleState_initial false)
    hreaches hfits⟩

/-- A bundle that is renamed while it is in the ASIC leaves the port of its old name there. -/
theorem asicPort_left_by_rename : ¬ ∀ (env : Env) (s₀ s : State), env.Healthy → Initial s₀ →
    s₀.vrf = false →
    Reaches env (fun s op s' => op.IsBundleCall ∧ NoTeardown s op ∧ NamesDistinct s') s₀ s →
    s.world.Fits → ∀ n, (s.world.asic.ports n).isSome = true ↔
      ∃ q ∈ s.bundles, (s.bundle q).isAddedToSimOvs = true ∧ (s.bundle q).name = n := by
  intro hall
  let ops : List Op := [.setVlan 10 true,
    .bundleSet 100 (some (sampleSettings "eth1" [1] false)),
    .bundleSet 100 (some (sampleSettings "uplink" [1] false))]
  have hmeets : RunMeets sampleEnv (fun s op s' => op.IsBundleCall ∧ NoTeardown s op ∧
      NamesDistinct s') (sampleState false) ops := by decide +kernel
  have hobs : (run sampleEnv (sampleState false) ops).toOption.map (fun s =>
      (decide s.world.Fits, (s.world.asic.ports "eth1").isSome,
        s.bundles.map fun q => (s.bundle q).name)) = some (true, true, ["uplink"]) := by
    decide +kernel
  obtain ⟨s, hrun, hreaches, hs⟩ := Reaches.of_observed hmeets hobs
  simp only [Prod.mk.injEq, decide_eq_true_eq] at hs
  obtain ⟨hfits, hport, hnames⟩ := hs
  obtain ⟨q, hq, -, hname⟩ := (hall sampleEnv _ s sampleEnv_healthy (sampleState_initial false) rfl
    hreaches hfits "eth1").mp hport
  have hmem : "eth1" ∈ s.bundles.map fun q => (s.bundle q).name := List.mem_map.mpr ⟨q, hq, hname⟩
  rw [hnames] at hmem
  exact absurd hmem (by decide)

end ContainerPlugin.Ofproto
