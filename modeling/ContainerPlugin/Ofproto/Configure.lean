import ContainerPlugin.Ofproto.Claiming

/-!
# Configuring a bundle

`bundle_configure` puts the port of a bundle into the ASIC with the VLANs it asks for, as far as they
are enabled. `wantedColumns` says which columns these are, and `State.asicConfigured` what becomes of
the ASIC.
-/

namespace ContainerPlugin.Ofproto

/-- The columns of the port of a bundle, or `none` if it is not to be in the ASIC. -/
def wantedColumns (vlansBmp : VlanBitmap) (b : Ofbundle) : Option PortColumns :=
  if (b.vlanMode = .trunk ∨ 0 < b.vlan ∧ b.vlan.toNat ∈ vlansBmp) ∧
      (b.vlanMode = .access ∨ trunkVids vlansBmp b.trunks ≠ []) then
    some {
      tag := if b.vlanMode = .trunk then none else some b.vlan
      trunks := if b.vlanMode = .access then [] else trunkVids vlansBmp b.trunks
      vlanMode := b.vlanMode }
  else none

/-- The text that `bundle_configure` has printed for the bundle when it is done. -/
def configureText (bridge : String) (vlansBmp : VlanBitmap) (b : Ofbundle) : String :=
  printed (addPortHead bridge b.name)
    (if b.vlanMode = .trunk ∨ 0 < b.vlan ∧ b.vlan.toNat ∈ vlansBmp then
      (if b.vlanMode = .trunk then [] else [tagPiece b.vlan]) ++
      (if b.vlanMode = .access then [] else trunkPieces (trunkVids vlansBmp b.trunks)) ++
      (if b.vlanMode = .access ∨ trunkVids vlansBmp b.trunks ≠ [] then [vlanModePiece b.vlanMode]
        else [])
    else [])

section Columns

variable {vlansBmp : VlanBitmap} {b : Ofbundle} {bridge text : String}

theorem configureTag_ensures (vlansBmp : VlanBitmap) (b : Ofbundle) (text : String) :
    (configureTag vlansBmp b text).Ensures Fault.OfInput fun r =>
      if b.vlanMode = .trunk ∨ 0 < b.vlan ∧ b.vlan.toNat ∈ vlansBmp then
        ∃ text', r = some (text', if b.vlanMode = .trunk then none else some b.vlan)
      else r = none := by
  rw [configureTag]
  split
  · rename_i hmode
    simp [hmode]
  · rename_i hmode
    split
    · rename_i hvlan
      refine (bitmapIsSet_ensures vlansBmp b.vlan).bind fun isSet hset => ?_
      obtain ⟨rfl, -⟩ := hset
      by_cases hbit : b.vlan.toNat ∈ vlansBmp
      · simp only [hbit, decide_true, if_true]
        refine (appendAsserted_ensures text (tagPiece b.vlan)).bind fun text' _ => ?_
        simp [hmode, hvlan]
      · simp [hbit, hmode]
    · rename_i hvlan
      simp [hmode, hvlan]

theorem configureTrunks_ensures (vlansBmp : VlanBitmap) (b : Ofbundle) (text : String) :
    (configureTrunks vlansBmp b text).Ensures Fault.OfInput fun r =>
      if b.vlanMode = .access ∨ trunkVids vlansBmp b.trunks ≠ [] then
        ∃ text', r = some (text', if b.vlanMode = .access then []
          else trunkVids vlansBmp b.trunks)
      else r = none := by
  rw [configureTrunks]
  split
  · rename_i hmode
    simp [hmode]
  · rename_i hmode
    refine (foldlM_appendAsserted_ensures text _).bind fun text' _ => ?_
    by_cases hvids : trunkVids vlansBmp b.trunks = []
    · simp [hvids, hmode]
    · simp [hvids, hmode]

theorem configureColumns_ensures (bridge : String) (vlansBmp : VlanBitmap) (b : Ofbundle) :
    (configureColumns bridge vlansBmp b).Ensures Fault.OfInput (· = wantedColumns vlansBmp b) := by
  refine (configureTag_ensures vlansBmp b _).bind fun r htag => ?_
  split at htag
  · rename_i htagged
    obtain ⟨text, rfl⟩ := htag
    refine (configureTrunks_ensures vlansBmp b text).bind fun r htrunks => ?_
    split at htrunks
    · rename_i htrunked
      obtain ⟨text', rfl⟩ := htrunks
      refine (appendAsserted_ensures text' _).bind fun _ _ => ?_
      simp [wantedColumns, htagged, htrunked]
    · rename_i htrunked
      subst htrunks
      simp [wantedColumns, htrunked]
  · rename_i htagged
    subst htag
    simp [wantedColumns, htagged]

theorem configureTag_eq (hvlan : b.vlanMode ≠ .trunk → b.vlan < vlanBitmapSize)
    (htag : b.vlanMode = .trunk ∨ 0 < b.vlan ∧ b.vlan.toNat ∈ vlansBmp) :
    configureTag vlansBmp b text =
      (if b.vlanMode = .trunk then [] else [tagPiece b.vlan]).foldlM appendAsserted text >>=
        fun text => .ok (some (text, if b.vlanMode = .trunk then none else some b.vlan)) := by
  rw [configureTag]
  split
  · rfl
  · rename_i hmode
    obtain ⟨hpos, hbit⟩ := htag.resolve_left hmode
    have hset : bitmapIsSet vlansBmp b.vlan = .ok true := by
      rw [bitmapIsSet, if_pos ⟨hpos.le, hvlan hmode⟩, decide_eq_true hbit]
    simp only [if_pos hpos, hset, Except.ok_bind, if_true, List.foldlM_cons, List.foldlM_nil,
      bind_pure]

theorem configureTag_eq_none (hvlan : b.vlanMode ≠ .trunk → b.vlan < vlanBitmapSize)
    (htag : ¬ (b.vlanMode = .trunk ∨ 0 < b.vlan ∧ b.vlan.toNat ∈ vlansBmp)) :
    configureTag vlansBmp b text = .ok none := by
  obtain ⟨hmode, hbit⟩ := not_or.mp htag
  rw [configureTag, if_neg hmode]
  split
  · rename_i hpos
    have hset : bitmapIsSet vlansBmp b.vlan = .ok false := by
      rw [bitmapIsSet, if_pos ⟨hpos.le, hvlan hmode⟩,
        decide_eq_false fun hmem => hbit ⟨hpos, hmem⟩]
    rw [hset]
    rfl
  · rfl

theorem configureTrunks_eq :
    configureTrunks vlansBmp b text =
      (if b.vlanMode = .access then []
        else trunkPieces (trunkVids vlansBmp b.trunks)).foldlM appendAsserted text >>=
        fun text => .ok (if b.vlanMode = .access ∨ trunkVids vlansBmp b.trunks ≠ [] then
            some (text, if b.vlanMode = .access then [] else trunkVids vlansBmp b.trunks)
          else none) := by
  rw [configureTrunks]
  split
  · rename_i hmode
    simp only [hmode, if_true, true_or, List.foldlM_nil]
    rfl
  · rename_i hmode
    simp only [hmode, false_or]
    congr 1
    funext text'
    by_cases hvids : trunkVids vlansBmp b.trunks = []
    · simp [hvids]
    · simp [hvids]

/-- The pieces of `configureText`. -/
def configurePieces (vlansBmp : VlanBitmap) (b : Ofbundle) : List String :=
  if b.vlanMode = .trunk ∨ 0 < b.vlan ∧ b.vlan.toNat ∈ vlansBmp then
    (if b.vlanMode = .trunk then [] else [tagPiece b.vlan]) ++
    (if b.vlanMode = .access then [] else trunkPieces (trunkVids vlansBmp b.trunks)) ++
    (if b.vlanMode = .access ∨ trunkVids vlansBmp b.trunks ≠ [] then [vlanModePiece b.vlanMode]
      else [])
  else []

/-- The pieces are printed one after the other, and nothing else can go wrong. -/
theorem configureColumns_eq_foldlM (hvlan : b.vlanMode ≠ .trunk → b.vlan < vlanBitmapSize) :
    configureColumns bridge vlansBmp b =
      (configurePieces vlansBmp b).foldlM appendAsserted (addPortHead bridge b.name) >>=
        fun _ => .ok (wantedColumns vlansBmp b) := by
  rw [configureColumns, wantedColumns, configurePieces]
  by_cases htag : b.vlanMode = .trunk ∨ 0 < b.vlan ∧ b.vlan.toNat ∈ vlansBmp
  · rw [configureTag_eq hvlan htag, if_pos htag, List.foldlM_append, List.foldlM_append, bind_assoc,
      bind_assoc, bind_assoc]
    congr 1
    funext text
    rw [Except.ok_bind]
    dsimp only
    rw [configureTrunks_eq, bind_assoc]
    congr 1
    funext text'
    by_cases htrunks : b.vlanMode = .access ∨ trunkVids vlansBmp b.trunks ≠ []
    · simp only [if_pos htrunks, if_pos (And.intro htag htrunks), Except.ok_bind, List.foldlM_cons,
        List.foldlM_nil, bind_assoc]
      rfl
    · simp only [if_neg htrunks, if_neg fun h => htrunks (And.right h), Except.ok_bind,
        List.foldlM_nil]
      rfl
  · rw [configureTag_eq_none hvlan htag, if_neg htag, if_neg fun h => htag (And.left h)]
    rfl

/-- With room for the text nothing can go wrong. -/
theorem configureColumns_eq (hfits : strlen (configureText bridge vlansBmp b) ≤ maxCmdLen)
    (hvlan : b.vlanMode ≠ .trunk → b.vlan < vlanBitmapSize) :
    configureColumns bridge vlansBmp b = .ok (wantedColumns vlansBmp b) := by
  have hpieces : (configurePieces vlansBmp b).foldlM appendAsserted (addPortHead bridge b.name) =
      .ok (configureText bridge vlansBmp b) := foldlM_appendAsserted hfits
  rw [configureColumns_eq_foldlM hvlan, hpieces]
  rfl

/-- The text of the command is the one that was printed. -/
theorem text_addPort {columns : PortColumns} (h : wantedColumns vlansBmp b = some columns) :
    (Cmd.addPort bridge b.name columns).text = configureText bridge vlansBmp b := by
  rw [wantedColumns] at h
  split at h
  · rename_i hwanted
    obtain rfl := Option.some.inj h
    rw [Cmd.text, configureText, if_pos hwanted.1, if_pos hwanted.2]
    split <;> split <;> simp_all [trunkPieces]
  · cases h

end Columns

/-! ## What `bundle_configure` leaves -/

/-- The ASIC after the ports named like a member have been deleted from it. -/
def Asic.delNames (a : Asic) (names : List String) : Asic :=
  { a with ports := fun n => if n ∈ names then none else a.ports n }

/-- The ASIC after `--may-exist add-port`. -/
def Asic.mayAdd (a : Asic) (name : String) (columns : PortColumns) : Asic :=
  if (a.ports name).isSome then a
  else { a with ports := Function.update a.ports name (some columns) }

/-- The ASIC before the port of the bundle is added again; `ps` are the ports of the bundle. -/
def State.asicCleared (s : State) (q : Ptr) (ps : List OfpPort) : Asic :=
  if ps.length > 1 then (s.asicDel q).delNames (ps.map fun p => (s.port p).name) else s.asicDel q

/-- The port of the bundle is to be in the ASIC. -/
def State.toBeAdded (s : State) (q : Ptr) (ps : List OfpPort) : Option PortColumns :=
  if s.vrf ∨ ps = [] then none else wantedColumns s.vlansBmp (s.bundle q)

def State.asicConfigured (s : State) (q : Ptr) (ps : List OfpPort) : Asic :=
  match s.toBeAdded q ps with
  | some columns => (s.asicCleared q ps).mayAdd (s.bundle q).name columns
  | none => if s.vrf then s.asicDel q else s.asicCleared q ps

theorem State.asicDel_ports_only (s : State) (q : Ptr) :
    s.asicDel q = { s.world.asic with ports := (s.asicDel q).ports } := by
  rw [State.asicDel]
  split <;> rfl

/-- Only ports are deleted and added. -/
theorem State.asicConfigured_ports_only (s : State) (q : Ptr) (ps : List OfpPort) :
    s.asicConfigured q ps = { s.world.asic with ports := (s.asicConfigured q ps).ports } := by
  have hdel := s.asicDel_ports_only q
  have hcleared : s.asicCleared q ps = { s.world.asic with ports := (s.asicCleared q ps).ports } := by
    rw [State.asicCleared]
    split
    · rw [hdel]
      rfl
    · exact hdel
  rw [State.asicConfigured]
  split
  · rw [Asic.mayAdd]
    split
    · exact hcleared
    · rw [hcleared]
  · split
    · exact hdel
    · exact hcleared

/-- What `bundle_configure` of `q` leaves. -/
structure Configured (env : Env) (q : Ptr) (s s' : State) : Prop where
  up : s'.up = s.up
  name : s'.name = s.name
  vrf : s'.vrf = s.vrf
  ports : s'.ports = s.ports
  port : ∀ p, (s'.port p).bundle = (s.port p).bundle ∧ (s'.port p).name = (s.port p).name
  bundles : s'.bundles = s.bundles
  bundle_ne : ∀ q' ≠ q, s'.bundle q' = s.bundle q'
  bundle_self : s'.bundle q =
    { s.bundle q with isAddedToSimOvs := (s'.bundle q).isAddedToSimOvs }
  links : s'.links = s.links
  mbridge : s'.mbridge = s.mbridge
  vlansBmp : s'.vlansBmp = s.vlansBmp
  vlanIntfBmp : s'.vlanIntfBmp = s.vlanIntfBmp
  steps : PortSteps env s s'
  asic : env.Healthy → s'.world.Fits → ∀ ps, s.Members q ps →
    (s'.bundle q).isAddedToSimOvs = (s.toBeAdded q ps).isSome ∧
      s'.world.asic = s.asicConfigured q ps

section Configure

variable {env : Env} {s s' : State} {q : Ptr} {p : OfpPort}

/-- No bundle changes but for its mark. -/
theorem Configured.bundle (h : Configured env q s s') (q' : Ptr) :
    s'.bundle q' = { s.bundle q' with isAddedToSimOvs := (s'.bundle q').isAddedToSimOvs } := by
  by_cases hqq : q' = q
  · subst hqq
    exact h.bundle_self
  · rw [h.bundle_ne q' hqq]

theorem World.asic_addPort {w : World} {bridge name : String} {columns : PortColumns}
    (henv : env.Healthy) (hfits : (Cmd.addPort bridge name columns).Fits) :
    (w.system env (.addPort bridge name columns)).1.asic = w.asic.mayAdd name columns ∧
      (w.system env (.addPort bridge name columns)).2 = true := by
  have hovs : (Cmd.addPort bridge name columns).IsOvs := trivial
  obtain ⟨hasic, hok⟩ := World.system_ovs (w := w) henv hovs hfits
  rw [hasic, hok, Asic.mayAdd]
  cases hname : w.asic.ports name with
  | some _ => simp [Asic.exec, hname]
  | none => simp [Asic.exec, hname]

/-- The loop that deletes the ports named like the members. -/
theorem delMembersFromSimOvs_spec (env : Env) (s : State) (ps : List OfpPort) : ∃ w,
    delMembersFromSimOvs env s ps = { s with world := w } ∧ s.world.OvsOnly w ∧
      (env.Healthy → w.Fits → w.asic = if ps.length > 1 then
        s.world.asic.delNames (ps.map fun p => (s.port p).name) else s.world.asic) := by
  have hloop : ∀ (l : List OfpPort) (s : State), ∃ w,
      l.foldl (fun s p => s.system env (.delPort (s.port p).name)) s = { s with world := w } ∧
        s.world.OvsOnly w ∧ (env.Healthy → w.Fits →
          w.asic = s.world.asic.delNames (l.map fun p => (s.port p).name)) := by
    intro l
    induction l with
    | nil => exact fun s => ⟨s.world, rfl, .refl _, fun _ _ => by simp [Asic.delNames]⟩
    | cons p l ih =>
      intro s
      have hovs : (Cmd.delPort (s.port p).name).IsOvs := trivial
      obtain ⟨w, hw, hframe, hasic⟩ := ih (s.system env (.delPort (s.port p).name))
      refine ⟨w, hw, (World.ovsOnly_system env _ hovs).trans hframe, fun henv hfits => ?_⟩
      have hfits' : (s.world.system env (.delPort (s.port p).name)).1.Fits :=
        hfits.of_prefix hframe.log
      rw [hasic henv hfits]
      simp only [State.system, World.asic_delPort henv hfits'.of_system, Asic.delNames]
      congr 1
      funext n
      by_cases hn : n = (s.port p).name
      · simp [hn]
      · simp [hn]
  rw [delMembersFromSimOvs]
  split
  · exact hloop ps s
  · exact ⟨s.world, rfl, .refl _, fun _ _ => rfl⟩

theorem addToSimOvs_spec (env : Env) (s : State) (q : Ptr) (columns : PortColumns) : ∃ added w,
    addToSimOvs env s q columns = { s with
      bundle := Function.update s.bundle q
        { s.bundle q with isAddedToSimOvs := added || (s.bundle q).isAddedToSimOvs }
      world := w } ∧
    s.world.OvsOnly w ∧ (env.Healthy → w.Fits →
      added = true ∧ w.asic = s.world.asic.mayAdd (s.bundle q).name columns) := by
  have hovs : (Cmd.addPort s.name (s.bundle q).name columns).IsOvs := trivial
  refine ⟨(s.world.system env (.addPort s.name (s.bundle q).name columns)).2, _, ?_,
    World.ovsOnly_system env s.world hovs, fun henv hfits => ?_⟩
  · simp only [addToSimOvs]
    split
    · rename_i hok
      simp [State.modifyBundle, hok]
    · rename_i hok
      simp [Bool.not_eq_true _ ▸ hok]
  · exact (World.asic_addPort henv hfits.of_system).symm

theorem configurePort_ensures (s : State) (q : Ptr) :
    (configurePort env s q).Ensures Fault.OfInput fun s' => ∃ added w, s' = { s with
        bundle := Function.update s.bundle q
          { s.bundle q with isAddedToSimOvs := added || (s.bundle q).isAddedToSimOvs }
        world := w } ∧
      s.world.OvsOnly w ∧ (env.Healthy → w.Fits →
        added = (wantedColumns s.vlansBmp (s.bundle q)).isSome ∧
        w.asic = (wantedColumns s.vlansBmp (s.bundle q)).elim s.world.asic
          (s.world.asic.mayAdd (s.bundle q).name)) := by
  refine (configureColumns_ensures s.name s.vlansBmp (s.bundle q)).bind fun columns hcolumns => ?_
  subst hcolumns
  split
  · rename_i hwanted
    exact ⟨false, s.world, by simp, .refl _, fun _ _ => by simp [hwanted]⟩
  · rename_i columns hwanted
    obtain ⟨added, w, hs', hw, hasic⟩ := addToSimOvs_spec env s q columns
    exact ⟨added, w, hs', hw, fun henv hfits => by simpa [hwanted] using hasic henv hfits⟩

/-- The loop that blocks the members changes their flags and the `DROP` rules. -/
theorem blockPorts_spec (env : Env) {l : List OfpPort} (hvrf : s.vrf = false)
    (hl : ∀ p ∈ l, p ∈ s.ports ∧ (s.port p).bundle ≠ none) : ∃ port w,
    l.foldl (blockPort env) s = { s with port := port, world := w } ∧
      (∀ p, (port p).bundle = (s.port p).bundle ∧ (port p).name = (s.port p).name) ∧
      s.world.IptablesOnly w ∧ PortSteps env s { s with port := port, world := w } := by
  induction l generalizing s with
  | nil => exact ⟨s.port, s.world, rfl, fun _ => ⟨rfl, rfl⟩, .refl _, .refl _⟩
  | cons p l ih =>
    obtain ⟨hp, hb⟩ := hl p (by simp)
    have hblock : ∃ port w, blockPort env s p = { s with port := port, world := w } ∧
        (∀ p, (port p).bundle = (s.port p).bundle ∧ (port p).name = (s.port p).name) ∧
        s.world.IptablesOnly w := by
      rw [blockPort]
      split
      · exact ⟨s.port, s.world, rfl, fun _ => ⟨rfl, rfl⟩, .refl _⟩
      · refine ⟨_, _, rfl, fun p' => ?_, disablePortInIptables_iptablesOnly _ _⟩
        by_cases hpp : p' = p
        · subst hpp
          simp
        · simp [hpp]
    obtain ⟨port₁, w₁, hs₁, hport₁, hw₁⟩ := hblock
    have hstep : PortSteps env s { s with port := port₁, world := w₁ } :=
      hs₁ ▸ .single (.block hp hb hvrf)
    have hih := @ih { s with port := port₁, world := w₁ } hvrf fun p' hp' =>
      ⟨(hl p' (.tail _ hp')).1, (hport₁ p').1 ▸ (hl p' (.tail _ hp')).2⟩
    obtain ⟨port₂, w₂, hs₂, hport₂, hw₂, hsteps⟩ := hih
    refine ⟨port₂, w₂, ?_, fun p' => ⟨(hport₂ p').1.trans (hport₁ p').1,
      (hport₂ p').2.trans (hport₁ p').2⟩, hw₁.trans hw₂, hstep.trans hsteps⟩
    rw [List.foldl_cons, hs₁, hs₂]

theorem State.toBeAdded_congr {ps ps' : List OfpPort} (h : ps.Perm ps') :
    s.toBeAdded q ps = s.toBeAdded q ps' := by
  have hnil : ps = [] ↔ ps' = [] := by
    rw [← List.length_eq_zero_iff, h.length_eq, List.length_eq_zero_iff]
  simp only [State.toBeAdded, hnil]

theorem State.asicConfigured_congr {ps ps' : List OfpPort} (h : ps.Perm ps') :
    s.asicConfigured q ps = s.asicConfigured q ps' := by
  have hmem : ∀ n, n ∈ ps.map (fun p => (s.port p).name) ↔ n ∈ ps'.map fun p => (s.port p).name :=
    fun n => (h.map _).mem_iff
  have hcleared : s.asicCleared q ps = s.asicCleared q ps' := by
    simp only [State.asicCleared, h.length_eq, Asic.delNames, hmem]
  rw [State.asicConfigured, State.asicConfigured, State.toBeAdded_congr h, hcleared]

/-- The flag of a bundle and those of the ports do not matter for well-formedness. -/
theorem State.WF.setAdded {added : Bool} {port : OfpPort → SimProviderOfport} {w : World}
    (h : s.WF) (hs' : s' = { s with
      bundle := Function.update s.bundle q { s.bundle q with isAddedToSimOvs := added }
      port := port
      world := w })
    (hport : ∀ p, (port p).bundle = (s.port p).bundle) : s'.WF := by
  have haux : ∀ q', (s'.bundle q').aux = (s.bundle q').aux := by
    intro q'
    rw [hs']
    by_cases hqq : q' = q
    · subst hqq
      simp
    · simp [hqq]
  subst hs'
  exact ⟨h.toListsWF.congr rfl (fun p _ => hport p) rfl haux rfl, h.mbridge⟩

theorem Configured.intro {added : Bool} {port : OfpPort → SimProviderOfport} {w : World}
    (hs' : s' = { s with
      bundle := Function.update s.bundle q { s.bundle q with isAddedToSimOvs := added }
      port := port
      world := w })
    (hport : ∀ p, (port p).bundle = (s.port p).bundle ∧ (port p).name = (s.port p).name)
    (hsteps : PortSteps env s s') {ps : List OfpPort} (hps : s.Members q ps)
    (hasic : env.Healthy → w.Fits → added = (s.toBeAdded q ps).isSome ∧
      w.asic = s.asicConfigured q ps) : Configured env q s s' := by
  subst hs'
  refine ⟨rfl, rfl, rfl, rfl, hport, rfl, fun q' hqq => by simp [hqq], by simp, rfl, rfl, rfl, rfl,
    hsteps, fun henv hfits ps' hps' => ?_⟩
  obtain ⟨hadded, hasic⟩ := hasic henv hfits
  have hperm := hps.perm hps'
  rw [State.toBeAdded_congr hperm] at hadded
  rw [State.asicConfigured_congr hperm] at hasic
  exact ⟨by simpa using hadded, hasic⟩

theorem State.asicConfigured_of_out {ps : List OfpPort} (h : s.vrf = true ∨ ps = []) :
    s.toBeAdded q ps = none ∧ s.asicConfigured q ps = s.asicDel q := by
  have hnone : s.toBeAdded q ps = none := if_pos h
  refine ⟨hnone, ?_⟩
  simp only [State.asicConfigured, hnone]
  split
  · rfl
  · rename_i hvrf
    rw [h.resolve_left hvrf]
    rfl

theorem State.asicConfigured_of_in {ps : List OfpPort} (hvrf : s.vrf = false) (hne : ps ≠ []) :
    s.toBeAdded q ps = wantedColumns s.vlansBmp (s.bundle q) ∧
      s.asicConfigured q ps = (wantedColumns s.vlansBmp (s.bundle q)).elim (s.asicCleared q ps)
        ((s.asicCleared q ps).mayAdd (s.bundle q).name) := by
  have hwanted : s.toBeAdded q ps = wantedColumns s.vlansBmp (s.bundle q) :=
    if_neg (not_or_intro (by simp [hvrf]) hne)
  refine ⟨hwanted, ?_⟩
  rw [State.asicConfigured, hwanted]
  cases wantedColumns s.vlansBmp (s.bundle q) with
  | none => simp [hvrf]
  | some columns => rfl

/-- The rule for `bundle_configure`: nothing more is done on a VRF or for a bundle without ports, else
the port is configured and the members are blocked. -/
theorem State.WF.bundleConfigure_rule {E : Fault → Prop} {R : State → Prop} (h : s.WF)
    (hq : q ∈ s.bundles)
    (hout : ∀ ps, s.Members q ps → s.vrf = true ∨ ps = [] → R (delFromSimOvs env s q))
    (hconf : ∀ ps, s.Members q ps → s.vrf = false → ps ≠ [] →
      (configurePort env (delMembersFromSimOvs env (delFromSimOvs env s q) ps) q).Ensures E
        fun s₃ => R (ps.foldl (blockPort env) s₃)) :
    (Ofproto.bundleConfigure env s q).Ensures E R := by
  obtain ⟨w₁, hs₁, -, -⟩ := delFromSimOvs_spec env s q
  simp only [Ofproto.bundleConfigure, h.deref hq, Except.ok_bind]
  generalize delFromSimOvs env s q = s₁ at *
  have hwf₁ : s₁.WF := h.setAdded hs₁ fun _ => rfl
  have hvrf₁ : s₁.vrf = s.vrf := by rw [hs₁]
  obtain ⟨ps, hbundlePorts, hps₁⟩ := hwf₁.bundlePorts (by rw [hs₁]; exact hq)
  have hps : s.Members q ps := hps₁.congr (by rw [hs₁]) (fun p _ => by rw [hs₁]) (by rw [hs₁])
  split
  · rename_i hvrf
    exact hout ps hps (.inl (hvrf₁.symm.trans hvrf))
  · rename_i hvrf
    rw [hbundlePorts, Except.ok_bind]
    split
    · rename_i hnil
      exact hout ps hps (.inr hnil)
    · rename_i hne
      refine (hconf ps hps ?_ hne).bind fun s₃ hs₃ => hs₃
      rw [← hvrf₁]
      exact (Bool.not_eq_true _).mp hvrf

/-- `bundle_configure` keeps the state well formed. -/
theorem State.WF.bundleConfigure (h : s.WF) (hq : q ∈ s.bundles) :
    (Ofproto.bundleConfigure env s q).Ensures Fault.OfInput
      fun s' => s'.WF ∧ Configured env q s s' := by
  obtain ⟨w₁, hs₁, hw₁, hasic₁⟩ := delFromSimOvs_spec env s q
  refine h.bundleConfigure_rule hq ?_ ?_
  · intro ps hps hout
    obtain ⟨hnone, hasic⟩ := State.asicConfigured_of_out (q := q) hout
    refine ⟨h.setAdded hs₁ fun _ => rfl, .intro hs₁ (fun _ => ⟨rfl, rfl⟩) ?_ hps fun henv hfits => ?_⟩
    · rw [hs₁]
      exact State.OvsFrame.steps ⟨rfl, rfl, rfl, hw₁⟩
    · exact ⟨by simp [hnone], by rw [hasic, hasic₁ henv hfits]⟩
  · intro ps hps hvrf hne
    rw [hs₁]
    generalize hs₁' : ({ s with
      bundle := Function.update s.bundle q { s.bundle q with isAddedToSimOvs := false }
      world := w₁ } : State) = s₁
    obtain ⟨w₂, hs₂, hw₂, hasic₂⟩ := delMembersFromSimOvs_spec env s₁ ps
    rw [hs₂]
    refine (configurePort_ensures _ q).mono ?_
    rintro s₃ ⟨added, w₃, hs₃, hw₃, hasic₃⟩
    have hframe₃ : s.OvsFrame s₃ := by
      subst hs₃ hs₁'
      exact ⟨rfl, rfl, rfl, hw₁.trans (hw₂.trans hw₃)⟩
    have hvrf₃ : s₃.vrf = false := hframe₃.vrf.trans hvrf
    obtain ⟨port, w₄, hs₄, hport, hw₄, hsteps⟩ := blockPorts_spec env (l := ps) hvrf₃ fun p hp => by
      rw [hframe₃.ports, hframe₃.port]
      have hmem := (hps.mem_iff p).mp hp
      exact ⟨hmem.1, by simp [hmem.2]⟩
    have hs' : ({ s₃ with port := port, world := w₄ } : State) = { s with
        bundle := Function.update s.bundle q { s.bundle q with isAddedToSimOvs := added }
        port := port
        world := w₄ } := by
      subst hs₃ hs₁'
      simp
    rw [hframe₃.port] at hport
    rw [hs₄]
    refine ⟨h.setAdded hs' fun p => (hport p).1,
      .intro hs' hport (hframe₃.steps.trans hsteps) hps fun henv hfits => ?_⟩
    have hfits₃ : w₃.Fits := by
      subst hs₃
      exact hfits.of_prefix hw₄.log
    have hfits₂ := hfits₃.of_prefix hw₃.log
    have hwanted : wantedColumns s₁.vlansBmp (s₁.bundle q) =
        wantedColumns s.vlansBmp (s.bundle q) := by
      subst hs₁'
      simp [wantedColumns]
    have hname : (s₁.bundle q).name = (s.bundle q).name := by
      subst hs₁'
      simp
    have hcleared : w₂.asic = s.asicCleared q ps := by
      have hasic : s₁.world.asic = s.asicDel q := by
        subst hs₁'
        exact hasic₁ henv (hfits₂.of_prefix hw₂.log)
      have hport₁ : s₁.port = s.port := by rw [← hs₁']
      rw [hasic₂ henv hfits₂, hasic, hport₁, State.asicCleared]
    obtain ⟨htoBeAdded, hconfigured⟩ := State.asicConfigured_of_in (q := q) hvrf hne
    obtain ⟨hadded, hasic⟩ := hasic₃ henv hfits₃
    rw [hwanted] at hadded hasic
    refine ⟨by rw [hadded, htoBeAdded], ?_⟩
    have hasic₄ : w₄.asic = w₃.asic := by
      subst hs₃
      exact hw₄.asic
    rw [hasic₄, hasic, hcleared, hname, hconfigured]

end Configure

end ContainerPlugin.Ofproto
