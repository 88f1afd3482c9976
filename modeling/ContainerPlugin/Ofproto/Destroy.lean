import Mathlib.Logic.Relation
import ContainerPlugin.Ofproto.WellFormed

/-!
# Destroying a bundle

What `bundle_destroy` and `bundle_remove` leave of a well-formed state. They can only stop for a
command text or a VLAN number that is out of bounds, never for the state of memory.
-/

namespace ContainerPlugin.Ofproto

/-- From `s` to `s'` ports were linked and unlinked, with what goes along in `iptables`. -/
structure State.PortFrame (s s' : State) : Prop where
  up : s'.up = s.up
  name : s'.name = s.name
  vrf : s'.vrf = s.vrf
  ports : s'.ports = s.ports
  netdev : ∀ p, (s'.port p).name = (s.port p).name ∧ (s'.port p).type = (s.port p).type
  bundles : s'.bundles = s.bundles
  bundle : s'.bundle = s.bundle
  mbridge : s'.mbridge = s.mbridge
  vlansBmp : s'.vlansBmp = s.vlansBmp
  vlanIntfBmp : s'.vlanIntfBmp = s.vlanIntfBmp
  world : s.world.IptablesOnly s'.world

section PortFrame

variable {env : Env} {s s' s'' : State} {q : Ptr} {p : OfpPort}

theorem State.PortFrame.refl (s : State) : s.PortFrame s :=
  ⟨rfl, rfl, rfl, rfl, fun _ => ⟨rfl, rfl⟩, rfl, rfl, rfl, rfl, rfl, .refl _⟩

theorem State.PortFrame.trans (h : s.PortFrame s') (h' : s'.PortFrame s'') : s.PortFrame s'' where
  up := h'.up.trans h.up
  name := h'.name.trans h.name
  vrf := h'.vrf.trans h.vrf
  ports := h'.ports.trans h.ports
  netdev p := ⟨(h'.netdev p).1.trans (h.netdev p).1, (h'.netdev p).2.trans (h.netdev p).2⟩
  bundles := h'.bundles.trans h.bundles
  bundle := h'.bundle.trans h.bundle
  mbridge := h'.mbridge.trans h.mbridge
  vlansBmp := h'.vlansBmp.trans h.vlansBmp
  vlanIntfBmp := h'.vlanIntfBmp.trans h.vlanIntfBmp
  world := h.world.trans h'.world

theorem detachPort_portFrame (env : Env) (s : State) (p : OfpPort) :
    s.PortFrame (detachPort env s p) := by
  refine ⟨rfl, rfl, rfl, rfl, fun p' => ?_, rfl, rfl, rfl, rfl, rfl, ?_⟩
  · by_cases hpp : p' = p
    · subst hpp
      simp [detachPort]
    · simp [detachPort, hpp]
  · have hipt : s.world.IptablesOnly (if (s.port p).iptableRulesAdded then
        enablePortInIptables env s.world (s.port p).name else s.world) := by
      split
      · exact enablePortInIptables_iptablesOnly _ _
      · exact .refl _
    simp only [detachPort]
    split
    · exact hipt.trans (l3statsXtablesRules_iptablesOnly _ _ _)
    · exact hipt

theorem attachPort_portFrame (s : State) (q : Ptr) (p : OfpPort) :
    s.PortFrame (attachPort s q p) := by
  refine ⟨rfl, rfl, rfl, rfl, fun p' => ?_, rfl, rfl, rfl, rfl, rfl, ?_⟩
  · by_cases hpp : p' = p
    · subst hpp
      simp [attachPort]
    · simp [attachPort, hpp]
  · simp only [attachPort]
    split
    · exact l3statsXtablesRules_iptablesOnly _ _ _
    · exact .refl _

/-- The loops that delete ports from a bundle: all but those of `keep`. Any `I` that unlinking one
port keeps is kept by the loop. -/
theorem State.ListsWF.forEachPortSafe_del {I : State → Prop} (h : s.ListsWF) (hq : q ∈ s.bundles)
    (keep : List OfpPort) (hI : ∀ s p, s.ListsWF → I s → p ∈ s.ports → p ∉ keep →
      (s.port p).bundle = some q → I (Ofproto.detachPort env s p)) (h₀ : I s) :
    (s.forEachPortSafe q fun s p => if p ∈ keep then .ok s else Ofproto.bundleDelPort env s p).Ensures
      (fun _ => False)
      fun s' => s'.ListsWF ∧ s.PortFrame s' ∧ I s' ∧ ∃ ps, s'.Members q ps ∧ ∀ p ∈ ps, p ∈ keep := by
  obtain ⟨ps, hps⟩ := h.members q hq
  -- the ports already visited are those of `keep`, the ports to come end the list
  let J : List ListNode → State → Prop := fun rest s₁ => s₁.ListsWF ∧ s.PortFrame s₁ ∧ I s₁ ∧
    ∃ kept todo, rest = todo.map .bundleNode ∧ s₁.Members q (kept ++ todo) ∧ ∀ p ∈ kept, p ∈ keep
  have hfirst : s.links.next (.ports q) = (ps.map ListNode.bundleNode).headD (.ports q) :=
    hps.ring.next_head
  simp only [State.forEachPortSafe, h.deref hq, hfirst]
  refine Except.Ensures.mono (Q := J []) (Links.forEachSafe_ensures ?_ ?_ ?_ ?_) ?_
  · rintro rest s₁ ⟨-, -, -, kept, todo, rfl, hmem, -⟩
    exact ⟨kept.map .bundleNode, by simpa using hmem.ring⟩
  · rintro n rest s₁ ⟨hwf, hframe, hi, kept, todo, htodo, hmem, hkeep⟩
    obtain ⟨p, todo, rfl, rfl, rfl⟩ : ∃ p todo', todo = p :: todo' ∧ n = .bundleNode p ∧
        rest = todo'.map .bundleNode := by
      cases todo with
      | nil => simp at htodo
      | cons p todo => exact ⟨p, todo, rfl, by simpa using htodo⟩
    obtain ⟨hp, hb⟩ := (hmem.mem_iff p).mp (by simp)
    have hnode : s₁.portOfNode (.bundleNode p) = .ok p := if_pos hp
    simp only [hnode]
    by_cases hkp : p ∈ keep
    · simp only [bind, Except.bind, if_pos hkp, Except.ensures_ok]
      exact ⟨hwf, hframe, hi, kept ++ [p], todo, rfl, by simpa using hmem, by
        simpa [or_imp, forall_and, hkp] using hkeep⟩
    · simp only [bind, Except.bind, if_neg hkp, hwf.bundleDelPort hp hb, Except.ensures_ok]
      exact ⟨hwf.detachPort hp hb, hframe.trans (detachPort_portFrame _ _ _), hI s₁ p hwf hi hp hkp hb,
        kept, todo, rfl, State.Members.detach_self hmem, hkeep⟩
  · simpa using hps.length_lt
  · exact ⟨h, .refl s, h₀, [], ps, rfl, by simpa using hps, by simp⟩
  · rintro s' ⟨hwf, hframe, hi, kept, todo, htodo, hmem, hkeep⟩
    obtain rfl : todo = [] := by simpa using htodo.symm
    exact ⟨hwf, hframe, hi, kept, by simpa using hmem, hkeep⟩

theorem State.ListsWF.forEachPortSafe_delAll {I : State → Prop} (h : s.ListsWF) (hq : q ∈ s.bundles)
    (hI : ∀ s p, s.ListsWF → I s → p ∈ s.ports → (s.port p).bundle = some q →
      I (Ofproto.detachPort env s p)) (h₀ : I s) :
    (s.forEachPortSafe q (Ofproto.bundleDelPort env)).Ensures (fun _ => False)
      fun s' => s'.ListsWF ∧ s.PortFrame s' ∧ I s' ∧ s'.Members q [] := by
  have hbody : (fun s p => if p ∈ ([] : List OfpPort) then .ok s
      else Ofproto.bundleDelPort env s p) = Ofproto.bundleDelPort env := by
    funext s p
    simp
  have hloop := h.forEachPortSafe_del hq [] (fun s p hwf hi hp _ => hI s p hwf hi hp) h₀
  rw [hbody] at hloop
  refine hloop.mono fun s' ⟨hwf, hframe, hi, ps, hps, hkeep⟩ => ⟨hwf, hframe, hi, ?_⟩
  obtain rfl : ps = [] := List.eq_nil_iff_forall_not_mem.mpr fun p hp => by simpa using hkeep p hp
  exact hps

end PortFrame

/-! ## Steps of the ports -/

/-- From `s` to `s'` the ports and the `DROP` rules are left alone. -/
structure State.OvsFrame (s s' : State) : Prop where
  ports : s'.ports = s.ports
  port : s'.port = s.port
  vrf : s'.vrf = s.vrf
  world : s.world.OvsOnly s'.world

/-- What a call does to a port at a time. -/
inductive PortStep (env : Env) : State → State → Prop where
  | ovs {s s' : State} : s.OvsFrame s' → PortStep env s s'
  | detach {s : State} {p : OfpPort} : p ∈ s.ports → PortStep env s (detachPort env s p)
  | attach {s : State} {q : Ptr} {p : OfpPort} : p ∈ s.ports → (s.port p).bundle = none →
      PortStep env s (attachPort s q p)
  | block {s : State} {p : OfpPort} : p ∈ s.ports → (s.port p).bundle ≠ none → s.vrf = false →
      PortStep env s (blockPort env s p)

def PortSteps (env : Env) : State → State → Prop := Relation.ReflTransGen (PortStep env)

section PortSteps

variable {env : Env} {s s' s'' : State}

theorem PortSteps.refl (s : State) : PortSteps env s s := Relation.ReflTransGen.refl

theorem PortSteps.trans (h : PortSteps env s s') (h' : PortSteps env s' s'') :
    PortSteps env s s'' := Relation.ReflTransGen.trans h h'

theorem PortSteps.single (h : PortStep env s s') : PortSteps env s s' :=
  Relation.ReflTransGen.single h

theorem State.OvsFrame.steps (h : s.OvsFrame s') : PortSteps env s s' := .single (.ovs h)

theorem PortStep.log (h : PortStep env s s') : s.world.log <+: s'.world.log := by
  cases h with
  | ovs h => exact h.world.log
  | detach => exact (detachPort_portFrame _ _ _).world.log
  | attach => exact (attachPort_portFrame _ _ _).world.log
  | block =>
    simp only [blockPort]
    split
    · exact List.prefix_refl _
    · exact (disablePortInIptables_iptablesOnly _ _).log

/-- The history only grows. -/
theorem PortSteps.log (h : PortSteps env s s') : s.world.log <+: s'.world.log := by
  induction h with
  | refl => exact List.prefix_refl _
  | tail _ hstep ih => exact ih.trans hstep.log

theorem PortSteps.fits (h : PortSteps env s s') (hfits : s'.world.Fits) : s.world.Fits :=
  hfits.of_prefix h.log

theorem State.ovsFrame_system (s : State) {c : Cmd} (hc : c.IsOvs) : s.OvsFrame (s.system env c) :=
  ⟨rfl, rfl, rfl, World.ovsOnly_system env s.world hc⟩

end PortSteps

/-! ## The bridge's trunks -/

section Routing

variable {env : Env} {s : State} {q : Ptr}

theorem asic_setPortTrunks {w : World} {bridge : String} {trunks : List ℕ} (henv : env.Healthy)
    (hfits : (Cmd.setPortTrunks bridge trunks).Fits) :
    (w.system env (.setPortTrunks bridge trunks)).1.asic =
      { w.asic with bridgeTrunks := trunks } := by
  have hovs : (Cmd.setPortTrunks bridge trunks).IsOvs := trivial
  rw [(World.system_ovs henv hovs hfits).1]
  rfl

theorem bridgeTrunksUpdate_ensures (s : State) :
    (bridgeTrunksUpdate env s).Ensures Fault.OfInput fun s' => ∃ w, s' = { s with world := w } ∧
      s.world.OvsOnly w ∧ (env.Healthy → w.Fits →
        w.asic = { s.world.asic with bridgeTrunks := bridgeTrunks s.vlanIntfBmp }) := by
  refine (foldlM_appendAsserted_ensures _ _).bind fun text _ => ?_
  have hlast : (if vids (· ∈ s.vlanIntfBmp) = [] then appendText text " trunks=0"
      else Except.ok text).Ensures Fault.OfInput fun _ => True := by
    split
    · rw [appendText]
      split
      · trivial
      · exact .inl rfl
    · trivial
  refine hlast.bind fun _ _ => Except.ensures_ok.mpr ?_
  have hovs : (Cmd.setPortTrunks s.name (bridgeTrunks s.vlanIntfBmp)).IsOvs := trivial
  refine ⟨_, rfl, World.ovsOnly_system env _ hovs, fun henv hfits => ?_⟩
  exact asic_setPortTrunks henv hfits.of_system

/-- The bit of the VLAN is set or cleared, and the trunks follow if that changes it. -/
theorem simBridgeVlanRoutingUpdate_ensures (s : State) (vlan : ℤ) (add : Bool) :
    (simBridgeVlanRoutingUpdate env s vlan add).Ensures Fault.OfInput fun s' => ∃ bmp w,
      s' = { s with vlanIntfBmp := bmp, world := w } ∧ bmp = bitmapSet s.vlanIntfBmp vlan add ∧
      s.world.OvsOnly w ∧ (env.Healthy → w.Fits → w.asic = { s.world.asic with
        bridgeTrunks := if bmp = s.vlanIntfBmp then s.world.asic.bridgeTrunks
          else bridgeTrunks bmp }) := by
  refine (bitmapIsSet_ensures s.vlanIntfBmp vlan).bind fun isSet hset => ?_
  obtain ⟨rfl, -⟩ := hset
  have hsame : bitmapSet s.vlanIntfBmp vlan add = s.vlanIntfBmp ↔
      decide (vlan.toNat ∈ s.vlanIntfBmp) = add := by
    cases add <;> simp [bitmapSet]
  split
  · rename_i hadd
    have hbmp := hsame.mpr hadd
    exact ⟨_, s.world, by rw [hbmp], rfl, .refl _, fun _ _ => by rw [if_pos hbmp]⟩
  · rename_i hadd
    refine (bridgeTrunksUpdate_ensures _).mono fun s' ⟨w, hs', hw, hasic⟩ => ?_
    refine ⟨_, w, hs', rfl, hw, fun henv hfits => ?_⟩
    rw [if_neg (mt hsame.mp hadd)]
    exact hasic henv hfits

end Routing

/-! ## `bundle_destroy` -/

/-- The ASIC without the port of the bundle `q`. -/
def State.asicDel (s : State) (q : Ptr) : Asic :=
  if (s.bundle q).isAddedToSimOvs then
    { s.world.asic with ports := Function.update s.world.asic.ports (s.bundle q).name none }
  else s.world.asic

/-- The VLANs of routing bundles without that of the bundle `q`. -/
def State.bmpDel (s : State) (q : Ptr) : VlanBitmap :=
  if (s.bundle q).isVlanRoutingEnabled then s.vlanIntfBmp.erase (s.bundle q).vlan.toNat
  else s.vlanIntfBmp

/-- What `bundle_destroy` of `q` leaves. -/
structure Destroyed (env : Env) (q : Ptr) (s s' : State) : Prop where
  up : s'.up = s.up
  name : s'.name = s.name
  vrf : s'.vrf = s.vrf
  ports : s'.ports = s.ports
  port : ∀ p, (s.port p).bundle ≠ some q → s'.port p = s.port p
  freed : ∀ p ∈ s.ports, (s.port p).bundle = some q → (s'.port p).bundle = none
  netdev : ∀ p, (s'.port p).name = (s.port p).name ∧ (s'.port p).type = (s.port p).type
  bundles : s'.bundles = s.bundles.erase q
  bundle : ∀ q' ≠ q, s'.bundle q' = s.bundle q'
  mbridge : s'.mbridge = s.mbridge.unregisterBundle q
  vlansBmp : s'.vlansBmp = s.vlansBmp
  vlanIntfBmp : s'.vlanIntfBmp = s.bmpDel q
  steps : PortSteps env s s'
  asic : env.Healthy → s'.world.Fits → s'.world.asic = { s.asicDel q with
    bridgeTrunks := if s.bmpDel q = s.vlanIntfBmp then s.world.asic.bridgeTrunks
      else bridgeTrunks (s.bmpDel q) }

section Destroy

variable {env : Env} {s s' : State} {q : Ptr} {p : OfpPort}

theorem delFromSimOvs_spec (env : Env) (s : State) (q : Ptr) : ∃ w,
    delFromSimOvs env s q = { s with
      bundle := Function.update s.bundle q { s.bundle q with isAddedToSimOvs := false }
      world := w } ∧
    s.world.OvsOnly w ∧ (env.Healthy → w.Fits → w.asic = s.asicDel q) := by
  rw [delFromSimOvs, State.asicDel]
  split
  · have hovs : (Cmd.delPort (s.bundle q).name).IsOvs := trivial
    refine ⟨_, rfl, World.ovsOnly_system env _ hovs, fun henv hfits => ?_⟩
    exact World.asic_delPort henv hfits.of_system
  · rename_i hadded
    refine ⟨s.world, ?_, .refl _, fun _ _ => rfl⟩
    have hsame : { s.bundle q with isAddedToSimOvs := false } = s.bundle q := by
      cases hb : s.bundle q
      simp_all
    rw [hsame, Function.update_eq_self]

theorem stopVlanRouting_ensures (s : State) (q : Ptr) :
    (stopVlanRouting env s q).Ensures Fault.OfInput fun s' => ∃ w,
      s' = { s with
        bundle := Function.update s.bundle q { s.bundle q with isVlanRoutingEnabled := false }
        vlanIntfBmp := s.bmpDel q
        world := w } ∧
      s.world.OvsOnly w ∧ (env.Healthy → w.Fits → w.asic = { s.world.asic with
        bridgeTrunks := if s.bmpDel q = s.vlanIntfBmp then s.world.asic.bridgeTrunks
          else bridgeTrunks (s.bmpDel q) }) := by
  rw [stopVlanRouting]
  split
  · rename_i hrouting
    refine (simBridgeVlanRoutingUpdate_ensures s (s.bundle q).vlan false).bind ?_
    rintro s' ⟨bmp, w, rfl, rfl, hw, hasic⟩
    have hbmp : s.bmpDel q = s.vlanIntfBmp.erase (s.bundle q).vlan.toNat := if_pos hrouting
    refine ⟨w, ?_, hw, ?_⟩
    · rw [hbmp]
      rfl
    · rw [hbmp]
      exact hasic
  · rename_i hrouting
    have hbmp : s.bmpDel q = s.vlanIntfBmp := if_neg hrouting
    have hsame : { s.bundle q with isVlanRoutingEnabled := false } = s.bundle q := by
      cases hb : s.bundle q
      simp_all
    refine ⟨s.world, ?_, .refl _, fun _ _ => by rw [if_pos hbmp]⟩
    rw [hsame, hbmp, Function.update_eq_self]

/-- An empty bundle is taken out of the table. -/
theorem State.ListsWF.erase (h : s.ListsWF) (hempty : s.Members q []) :
    { s with bundles := s.bundles.erase q }.ListsWF where
  nodup := h.nodup.erase q
  aux q₁ h₁ q₂ h₂ := h.aux q₁ (List.mem_of_mem_erase h₁) q₂ (List.mem_of_mem_erase h₂)
  owner p hp q' hq' := by
    have hne : q' ≠ q := fun hqq => by
      have := (hempty.mem_iff p).mpr ⟨hp, hqq ▸ hq'⟩
      simp at this
    exact (List.mem_erase_of_ne hne).mpr (h.owner p hp q' hq')
  members q' hq' := by
    obtain ⟨ps, hps⟩ := h.members q' (List.mem_of_mem_erase hq')
    exact ⟨ps, hps.congr rfl (fun _ _ => rfl) rfl⟩

/-- The state when `bundle_destroy` of `q` comes to the ports of the bundle. -/
structure Stopped (env : Env) (q : Ptr) (s s' : State) : Prop where
  up : s'.up = s.up
  name : s'.name = s.name
  frame : s.OvsFrame s'
  bundles : s'.bundles = s.bundles
  bundle : ∀ q' ≠ q, s'.bundle q' = s.bundle q'
  aux : ∀ q', (s'.bundle q').aux = (s.bundle q').aux
  links : s'.links = s.links
  mbridge : s'.mbridge = s.mbridge.unregisterBundle q
  vlansBmp : s'.vlansBmp = s.vlansBmp
  vlanIntfBmp : s'.vlanIntfBmp = s.bmpDel q
  asic : env.Healthy → s'.world.Fits → s'.world.asic = { s.asicDel q with
    bridgeTrunks := if s.bmpDel q = s.vlanIntfBmp then s.world.asic.bridgeTrunks
      else bridgeTrunks (s.bmpDel q) }

theorem stopped_ensures (s : State) (q : Ptr) :
    (stopVlanRouting env (delFromSimOvs env { s with mbridge := s.mbridge.unregisterBundle q } q)
      q).Ensures Fault.OfInput (Stopped env q s) := by
  let s₁ : State := { s with mbridge := s.mbridge.unregisterBundle q }
  obtain ⟨w₂, hs₂, hw₂, hasic₂⟩ := delFromSimOvs_spec env s₁ q
  refine (stopVlanRouting_ensures _ q).mono ?_
  rw [hs₂]
  rintro s₃ ⟨w₃, hs₃, hw₃, hasic₃⟩
  have hbmp : State.bmpDel { s₁ with
      bundle := Function.update s₁.bundle q { s₁.bundle q with isAddedToSimOvs := false }
      world := w₂ } q = s.bmpDel q := by
    simp [State.bmpDel, s₁]
  rw [hbmp] at hs₃ hasic₃
  subst hs₃
  constructor
  case frame => exact ⟨rfl, rfl, rfl, hw₂.trans hw₃⟩
  case bundle => exact fun q' hqq => by simp [s₁, hqq]
  case aux =>
    intro q'
    by_cases hqq : q' = q
    · subst hqq
      simp [s₁]
    · simp [s₁, hqq]
  case asic =>
    intro henv hfits
    show w₃.asic = _
    rw [hasic₃ henv hfits]
    simp only [hasic₂ henv (hfits.of_prefix hw₃.log), State.asicDel, s₁]
    split <;> rfl
  all_goals rfl

theorem Stopped.listsWF (h : Stopped env q s s') (hwf : s.ListsWF) : s'.ListsWF :=
  hwf.congr h.frame.ports (fun p _ => by rw [h.frame.port]) h.bundles h.aux h.links

/-- The ports of the bundle are unlinked and then the bundle is freed. -/
theorem Stopped.destroyed {s₃ s₄ : State} (h : Stopped env q s s₃) (hframe : s₃.PortFrame s₄)
    (hsteps : PortSteps env s s₄)
    (hport : ∀ p, s₄.port p = s.port p ∨ (s.port p).bundle = some q ∧ (s₄.port p).bundle = none)
    (hempty : s₄.Members q []) : Destroyed env q s { s₄ with bundles := s₄.bundles.erase q } := by
  have hfreed : PortSteps env s₄ { s₄ with bundles := s₄.bundles.erase q } :=
    State.OvsFrame.steps ⟨rfl, rfl, rfl, .refl _⟩
  have hports : s₄.ports = s.ports := hframe.ports.trans h.frame.ports
  constructor
  case up => exact hframe.up.trans h.up
  case name => exact hframe.name.trans h.name
  case vrf => exact hframe.vrf.trans h.frame.vrf
  case ports => exact hports
  case port => exact fun p hb => (hport p).resolve_right fun h => hb h.1
  case freed =>
    intro p hp hb
    rcases hport p with hsame | ⟨-, hnone⟩
    · have hmem := (hempty.mem_iff p).mpr ⟨hports.symm ▸ hp, by rw [hsame, hb]⟩
      cases hmem
    · exact hnone
  case netdev =>
    intro p
    have hnetdev := hframe.netdev p
    rwa [h.frame.port] at hnetdev
  case bundles => exact congrArg (·.erase q) (hframe.bundles.trans h.bundles)
  case bundle => exact fun q' hqq => (congrFun hframe.bundle q').trans (h.bundle q' hqq)
  case mbridge => exact hframe.mbridge.trans h.mbridge
  case vlansBmp => exact hframe.vlansBmp.trans h.vlansBmp
  case vlanIntfBmp => exact hframe.vlanIntfBmp.trans h.vlanIntfBmp
  case steps => exact hsteps.trans hfreed
  case asic =>
    intro henv hfits
    exact hframe.world.asic.trans (h.asic henv (hfits.of_prefix hframe.world.log))

/-- `bundle_destroy` frees the bundle and leaves a well-formed state. -/
theorem State.WF.bundleDestroy (h : s.WF) (hq : q ∈ s.bundles) :
    (Ofproto.bundleDestroy env s q).Ensures Fault.OfInput
      fun s' => s'.WF ∧ Destroyed env q s s' := by
  simp only [Ofproto.bundleDestroy, h.deref hq, Except.ok_bind]
  refine (stopped_ensures s q).bind fun s₃ hstopped => ?_
  have hloop : (s₃.forEachPortSafe q (Ofproto.bundleDelPort env)).Ensures (fun _ => False)
      fun s' => s'.ListsWF ∧ s₃.PortFrame s' ∧ (PortSteps env s s' ∧ ∀ p, s'.port p = s.port p ∨
        (s.port p).bundle = some q ∧ (s'.port p).bundle = none) ∧ s'.Members q [] := by
    refine (hstopped.listsWF h.toListsWF).forEachPortSafe_delAll (hstopped.bundles.symm ▸ hq) ?_
      ⟨hstopped.frame.steps, fun p => .inl (by rw [hstopped.frame.port])⟩
    rintro s' p hwf ⟨hsteps, hport⟩ hp hb
    refine ⟨hsteps.trans (.single (.detach hp)), fun p' => ?_⟩
    by_cases hpp : p' = p
    · subst hpp
      refine .inr ⟨?_, by simp [Ofproto.detachPort]⟩
      rcases hport p' with hsame | ⟨-, hnone⟩
      · rw [← hsame, hb]
      · rw [hnone] at hb
        cases hb
    · simp only [Ofproto.detachPort, Function.update_of_ne hpp]
      exact hport p'
  refine (hloop.monoError fun _ => False.elim).bind ?_
  rintro s₄ ⟨hwf₄, hframe₄, ⟨hsteps₄, hport₄⟩, hempty⟩
  have hdestroyed := hstopped.destroyed hframe₄ hsteps₄ hport₄ hempty
  refine Except.ensures_ok.mpr ⟨⟨hwf₄.erase hempty, ?_⟩, hdestroyed⟩
  rw [hdestroyed.mbridge, hdestroyed.bundles]
  exact h.mbridge.unregisterBundle h.nodup hq

end Destroy

end ContainerPlugin.Ofproto
