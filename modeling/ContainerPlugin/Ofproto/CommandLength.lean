import ContainerPlugin.Ofproto.BitmapIndex
import ContainerPlugin.Ofproto.VlanSync

/-!
# The length of the VLAN commands

A command is printed into a buffer of `MAX_CMD_LEN` bytes. The assertion after each piece lets the
text fill the whole buffer, where `snprintf` has already cut off its last character. The texts of
`bundle_configure` and `sim_bridge_vlan_routing_update` grow with the VLANs they list, each with its
digits and one separator, and whether they stay whole is a matter of their sum.
-/

namespace ContainerPlugin.Ofproto

/-- The number of digits of a VLAN. -/
def vidDigits (i : ℕ) : ℕ := if i < 10 then 1 else if i < 100 then 2 else if i < 1000 then 3 else 4

/-- The VLANs of a list with a separator each. -/
def vidsLength (vids : List ℕ) : ℕ := (vids.map fun i => vidDigits i + 1).sum

def vlanModeLength : PortVlanMode → ℕ
  | .access => 17
  | .trunk => 16
  | .nativeUntagged => 26
  | .nativeTagged => 24

/-- The length of the `add-port` command of a bundle that trunks `vids`. -/
def addPortLength (bridge : String) (b : Ofbundle) (vids : List ℕ) : ℕ :=
  53 + strlen bridge + strlen b.name + (if b.vlanMode = .trunk then 0 else 5 + vidDigits b.vlan.toNat) +
    (7 + vidsLength vids) + vlanModeLength b.vlanMode

/-- The length of the command that sets the trunks of the bridge to `vids`. -/
def setPortLength (bridge : String) (vids : List ℕ) : ℕ := 48 + strlen bridge + vidsLength vids

/-- A bundle that has ports and trunks VLANs: what it trunks leaves room for the terminator. -/
def State.ConfigureRoom (s : State) (q : Ptr) : Prop :=
  (∃ ps, s.bundlePorts q = .ok ps ∧ ps ≠ []) → (s.bundle q).vlanMode ≠ .access →
    ((s.bundle q).vlanMode = .trunk ∨ (0 < (s.bundle q).vlan ∧
      (s.bundle q).vlan < vlanBitmapSize) ∧ (s.bundle q).vlan.toNat ∈ s.vlansBmp) →
    trunkVids s.vlansBmp (s.bundle q).trunks ≠ [] →
    addPortLength s.name (s.bundle q) (trunkVids s.vlansBmp (s.bundle q).trunks) < maxCmdLen

/-- The bit of the VLAN changes: what the bridge then trunks leaves room for the terminator. -/
def State.UpdateRoom (s : State) (vlan : ℤ) (add : Bool) : Prop :=
  0 ≤ vlan ∧ vlan < vlanBitmapSize → decide (vlan.toNat ∈ s.vlanIntfBmp) ≠ add →
    setPortLength s.name (vids (· ∈ bitmapSet s.vlanIntfBmp vlan add)) < maxCmdLen

/-! ## Lengths -/

section Lengths

variable {bridge : String} {vlansBmp : VlanBitmap} {b : Ofbundle}

theorem strlen_printed (head : String) (pieces : List String) :
    strlen (printed head pieces) = strlen head + (pieces.map strlen).sum := by
  induction pieces generalizing head with
  | nil => rfl
  | cons piece pieces ih =>
    have hstep : strlen (printed head (piece :: pieces)) =
        strlen (head ++ piece) + (pieces.map strlen).sum := ih (head ++ piece)
    rw [hstep, strlen_append, List.map_cons, List.sum_cons, Nat.add_assoc]

theorem strlen_repr_of_lt {i : ℕ} (h : i < 10) : strlen i.repr = 1 := by
  have hall : ∀ j < 10, strlen (Nat.repr j) = 1 := by decide
  exact hall i h

/-- A further digit. -/
theorem strlen_repr_of_ge {i : ℕ} (h : 10 ≤ i) : strlen i.repr = strlen (i / 10).repr + 1 := by
  rw [Nat.repr_eq_repr_append_repr h, strlen_append,
    strlen_repr_of_lt (Nat.mod_lt i (by omega))]

theorem strlen_toString_vid {i : ℕ} (h : i < 10000) : strlen (toString i) = vidDigits i := by
  show strlen i.repr = vidDigits i
  rw [vidDigits]
  split
  · exact strlen_repr_of_lt ‹_›
  rw [strlen_repr_of_ge (by omega)]
  split
  · rw [strlen_repr_of_lt (by omega)]
  rw [strlen_repr_of_ge (by omega)]
  split
  · rw [strlen_repr_of_lt (by omega)]
  rw [strlen_repr_of_ge (by omega), strlen_repr_of_lt (by omega)]

theorem vidDigits_le (i : ℕ) : vidDigits i ≤ 4 := by
  rw [vidDigits]
  split_ifs <;> omega

/-- The first VLAN comes with `" trunks="`, every other one with a comma. -/
theorem sum_strlen_trunkPieces {is : List ℕ} (hne : is ≠ []) (h : ∀ i ∈ is, i < 10000) :
    ((trunkPieces is).map strlen).sum = 7 + vidsLength is := by
  cases is with
  | nil => exact absurd rfl hne
  | cons i is =>
    have hrest : ((is.map ("," ++ toString ·)).map strlen).sum = vidsLength is := by
      rw [List.map_map, vidsLength]
      congr 1
      refine List.map_congr_left fun j hj => ?_
      rw [Function.comp_apply, strlen_append, strlen_toString_vid (h j (List.mem_cons_of_mem i hj))]
      exact Nat.add_comm 1 _
    have hfirst : strlen (" trunks=" ++ toString i) = 8 + vidDigits i := by
      rw [strlen_append, strlen_toString_vid (h i List.mem_cons_self)]
      rfl
    rw [trunkPieces, List.map_cons, List.sum_cons, hrest, hfirst, vidsLength, vidsLength,
      List.map_cons, List.sum_cons]
    omega

theorem strlen_vlanModePiece (mode : PortVlanMode) :
    strlen (vlanModePiece mode) = vlanModeLength mode := by
  cases mode <;> rfl

theorem strlen_addPortHead (bridge name : String) :
    strlen (addPortHead bridge name) = 53 + strlen bridge + strlen name := by
  have hvsctl : strlen (ovsVsctl ++ " --may-exist add-port ") = 52 := rfl
  have hspace : strlen " " = 1 := rfl
  rw [addPortHead, strlen_append, strlen_append, strlen_append, hvsctl, hspace]
  omega

theorem strlen_setPortTrunksHead (bridge : String) :
    strlen (setPortTrunksHead bridge) = 41 + strlen bridge := by
  have hvsctl : strlen (ovsVsctl ++ " set port ") = 40 := rfl
  have hspace : strlen " " = 1 := rfl
  rw [setPortTrunksHead, strlen_append, strlen_append, hvsctl, hspace]
  omega

theorem strlen_tagPiece {vlan : ℤ} (hpos : 0 < vlan) (hlt : vlan < vlanBitmapSize) :
    strlen (tagPiece vlan) = 5 + vidDigits vlan.toNat := by
  obtain ⟨n, rfl⟩ := Int.eq_ofNat_of_zero_le hpos.le
  have hn : n < 10000 := by
    simp only [vlanBitmapSize] at hlt
    omega
  rw [tagPiece, strlen_append]
  show 5 + strlen (toString n) = _
  rw [strlen_toString_vid hn]
  rfl

theorem trunkVids_lt {trunks : Option VlanBitmap} {i : ℕ} (h : i ∈ trunkVids vlansBmp trunks) :
    i < 10000 := by
  have hle := (mem_vids.mp h).2.1
  omega

/-- The text for a bundle that trunks VLANs. -/
theorem strlen_configureText (hmode : b.vlanMode ≠ .access)
    (htag : b.vlanMode = .trunk ∨ (0 < b.vlan ∧ b.vlan < vlanBitmapSize) ∧ b.vlan.toNat ∈ vlansBmp)
    (htrunks : trunkVids vlansBmp b.trunks ≠ []) :
    strlen (configureText bridge vlansBmp b) =
      addPortLength bridge b (trunkVids vlansBmp b.trunks) := by
  have htagged : b.vlanMode = .trunk ∨ 0 < b.vlan ∧ b.vlan.toNat ∈ vlansBmp :=
    htag.imp_right fun h => ⟨h.1.1, h.2⟩
  have htrunked : b.vlanMode = .access ∨ trunkVids vlansBmp b.trunks ≠ [] := .inr htrunks
  have hpieces := sum_strlen_trunkPieces htrunks fun i => trunkVids_lt
  rw [configureText, strlen_printed, if_pos htagged, if_neg hmode, if_pos htrunked,
    strlen_addPortHead, addPortLength]
  by_cases htrunk : b.vlanMode = .trunk
  · simp only [if_pos htrunk, List.nil_append, List.map_append, List.sum_append, hpieces,
      List.map_cons, List.map_nil, List.sum_cons, List.sum_nil, strlen_vlanModePiece]
    omega
  · obtain ⟨⟨hpos, hlt⟩, -⟩ := htag.resolve_left htrunk
    simp only [if_neg htrunk, List.map_append, List.sum_append, hpieces, List.map_cons,
      List.map_nil, List.sum_cons, List.sum_nil, strlen_vlanModePiece, strlen_tagPiece hpos hlt]
    omega

/-- Any other text is short. -/
theorem strlen_configureText_le (hvlan : b.vlanMode ≠ .trunk → b.vlan < vlanBitmapSize)
    (hplain : b.vlanMode ≠ .access →
      b.vlanMode = .trunk ∨ (0 < b.vlan ∧ b.vlan < vlanBitmapSize) ∧ b.vlan.toNat ∈ vlansBmp →
      trunkVids vlansBmp b.trunks = []) :
    strlen (configureText bridge vlansBmp b) ≤ 79 + strlen bridge + strlen b.name := by
  have htag : b.vlanMode ≠ .trunk → 0 < b.vlan → strlen (tagPiece b.vlan) ≤ 9 := by
    intro htrunk hpos
    have hdigits := vidDigits_le b.vlan.toNat
    rw [strlen_tagPiece hpos (hvlan htrunk)]
    omega
  rw [configureText, strlen_printed, strlen_addPortHead]
  by_cases htagged : b.vlanMode = .trunk ∨ 0 < b.vlan ∧ b.vlan.toNat ∈ vlansBmp
  · rw [if_pos htagged]
    by_cases hmode : b.vlanMode = .access
    · have htrunk : b.vlanMode ≠ .trunk := by simp [hmode]
      have hpiece := htag htrunk (htagged.resolve_left htrunk).1
      have haccess : strlen (vlanModePiece .access) = 17 := rfl
      simp only [hmode, reduceCtorEq, if_false, if_true, true_or, List.append_nil, List.map_append,
        List.sum_append, List.map_cons, List.map_nil, List.sum_cons, List.sum_nil, haccess]
      omega
    · have hnone : trunkVids vlansBmp b.trunks = [] := by
        refine hplain hmode ?_
        by_cases htrunk : b.vlanMode = .trunk
        · exact .inl htrunk
        · have hbit := htagged.resolve_left htrunk
          exact .inr ⟨⟨hbit.1, hvlan htrunk⟩, hbit.2⟩
      have hlast : ¬ (b.vlanMode = .access ∨ trunkVids vlansBmp b.trunks ≠ []) := by
        simp [hmode, hnone]
      rw [if_neg hmode, if_neg hlast, hnone]
      by_cases htrunk : b.vlanMode = .trunk
      · simp only [if_pos htrunk, trunkPieces, List.append_nil, List.map_nil, List.sum_nil]
        omega
      · have hpiece := htag htrunk (htagged.resolve_left htrunk).1
        simp only [if_neg htrunk, trunkPieces, List.append_nil, List.map_cons, List.map_nil,
          List.sum_cons, List.sum_nil]
        omega
  · simp only [if_neg htagged, List.map_nil, List.sum_nil]
    omega

end Lengths

/-- Pieces that outgrow the buffer fail an assertion. -/
theorem foldlM_appendAsserted_eq_overflow {head : String} {pieces : List String}
    (htext : ¬ strlen (printed head pieces) ≤ maxCmdLen) (hpieces : pieces ≠ []) :
    pieces.foldlM appendAsserted head = .error .cmdOverflow := by
  cases hprint : pieces.foldlM appendAsserted head with
  | error e =>
    have hfault : e = .cmdOverflow := (foldlM_appendAsserted_overflow head pieces).of_error hprint
    rw [hfault]
  | ok text =>
    exact absurd (((foldlM_appendAsserted_returns head pieces).of_ok hprint).2 hpieces) htext

/-! ## Whole commands -/

/-- `bundle_configure` fails no assertion on the length of a text and runs whole commands. -/
def ConfigureWhole (env : Env) (s : State) (q : Ptr) : Prop :=
  bundleConfigure env s q ≠ .error .cmdOverflow ∧
    ∀ s', bundleConfigure env s q = .ok s' → s.world.Ran Cmd.Fits s'.world

/-- `sim_bridge_vlan_routing_update` fails no assertion and runs whole commands. -/
def UpdateWhole (env : Env) (s : State) (vlan : ℤ) (add : Bool) : Prop :=
  simBridgeVlanRoutingUpdate env s vlan add ≠ .error .cmdOverflow ∧
    ∀ s', simBridgeVlanRoutingUpdate env s vlan add = .ok s' → s.world.Ran Cmd.Fits s'.world

section Whole

theorem fits_delPort {name : String} (h : strlen name ≤ 15) : (Cmd.delPort name).Fits := by
  have hhead : strlen (ovsVsctl ++ " del-port ") = 40 := rfl
  rw [Cmd.Fits, Cmd.text, strlen_append, hhead, maxCmdLen]
  omega

theorem fits_iptables {dev : String} (h : strlen dev ≤ 15) (op : IptablesOp) (chain : Chain) :
    (Cmd.iptables op chain dev).Fits := by
  have hhead : strlen (swnsExec ++ " iptables " ++ op.flag ++ " " ++ chain.name ++ " -i ") ≤ 60 := by
    cases op <;> cases chain <;> decide
  have htail : strlen " -j DROP -w" = 11 := rfl
  rw [Cmd.Fits, Cmd.text, strlen_append, strlen_append, htail, maxCmdLen]
  omega

theorem fits_memberCmds {dev : String} (h : strlen dev ≤ 15) : ∀ c ∈ memberCmds dev, c.Fits := by
  simp only [memberCmds, List.forall_mem_cons]
  exact ⟨fits_delPort h, fits_iptables h _ _, fits_iptables h _ _, fits_iptables h _ _,
    List.forall_mem_nil _⟩

end Whole

/-! ## `bundle_configure` -/

section Configure

variable {env : Env} {s : State} {q : Ptr} {ps : List OfpPort}

/-- The state in which `bundle_configure` prints the text. -/
def cleared (env : Env) (s : State) (q : Ptr) (ps : List OfpPort) : State :=
  delMembersFromSimOvs env (delFromSimOvs env s q) ps

theorem cleared_spec (env : Env) (s : State) (q : Ptr) (ps : List OfpPort) :
    ∃ w, cleared env s q ps = { s with
      bundle := Function.update s.bundle q { s.bundle q with isAddedToSimOvs := false }
      world := w } := by
  obtain ⟨w₁, hs₁, -⟩ := delFromSimOvs_spec env s q
  obtain ⟨w₂, hs₂, -⟩ := delMembersFromSimOvs_spec env (delFromSimOvs env s q) ps
  exact ⟨w₂, by rw [cleared, hs₂, hs₁]⟩

theorem cleared_ran {P : Cmd → Prop} (hname : P (.delPort (s.bundle q).name))
    (hps : ∀ p ∈ ps, P (.delPort (s.port p).name)) :
    s.world.Ran P (cleared env s q ps).world := by
  obtain ⟨w₁, hs₁, -⟩ := delFromSimOvs_spec env s q
  refine (delFromSimOvs_ran env hname).trans (delMembersFromSimOvs_ran env ps fun p hp => ?_)
  rw [hs₁]
  exact hps p hp

/-- The list is read after the port is deleted, which does not change it. -/
theorem bundlePorts_delFromSimOvs (env : Env) (s : State) (q : Ptr) :
    (delFromSimOvs env s q).bundlePorts q = s.bundlePorts q := by
  obtain ⟨w, hs, -⟩ := delFromSimOvs_spec env s q
  have hports : (delFromSimOvs env s q).portOfNode = s.portOfNode := by
    funext n
    cases n <;> simp [State.portOfNode, hs]
  have hfuel : (delFromSimOvs env s q).listFuel = s.listFuel := by simp [State.listFuel, hs]
  have hlinks : (delFromSimOvs env s q).links = s.links := by rw [hs]
  simp only [State.bundlePorts, State.derefBundle, hports, hfuel, hlinks]
  rw [hs]
  dsimp only
  split <;> rfl

theorem bundleConfigure_eq (hvrf : s.vrf = false) (hports : s.bundlePorts q = .ok ps)
    (hne : ps ≠ []) :
    bundleConfigure env s q = configurePort env (cleared env s q ps) q >>= fun s₃ =>
      .ok (ps.foldl (blockPort env) s₃) := by
  obtain ⟨w, hs, -⟩ := delFromSimOvs_spec env s q
  have hq := ((s.bundlePorts_ensures q).of_ok hports).1
  have hderef : s.derefBundle q = .ok (s.bundle q) := if_pos hq
  have hvrf₁ : ¬ (delFromSimOvs env s q).vrf = true := by simp [hs, hvrf]
  simp only [bundleConfigure, hderef, Except.ok_bind, if_neg hvrf₁, bundlePorts_delFromSimOvs,
    hports, if_neg hne]
  rfl

/-- A bundle for which no text is printed. -/
theorem bundleConfigure_whole_of_unread (hvrf : s.vrf = false)
    (hname : strlen (s.bundle q).name ≤ 15) (hports : ¬ ∃ ps, s.bundlePorts q = .ok ps ∧ ps ≠ []) :
    ConfigureWhole env s q := by
  have hwhole : s.world.Ran Cmd.Fits (delFromSimOvs env s q).world :=
    delFromSimOvs_ran env (fits_delPort hname)
  have hvrf₁ : ¬ (delFromSimOvs env s q).vrf = true := by
    obtain ⟨w, hs, -⟩ := delFromSimOvs_spec env s q
    simp [hs, hvrf]
  have hensures : (bundleConfigure env s q).Ensures (· ≠ .cmdOverflow)
      fun s' => s.world.Ran Cmd.Fits s'.world := by
    refine ((s.derefBundle_ensures q).monoError fun _ he => by simp [he]).bind fun _ _ => ?_
    simp only [if_neg hvrf₁, bundlePorts_delFromSimOvs]
    cases hlist : s.bundlePorts q with
    | error e =>
      have hfault := s.bundlePorts_ensures q
      rw [hlist] at hfault
      rcases hfault with rfl | rfl
      · exact Except.ensures_error.mpr (by simp)
      · exact Except.ensures_error.mpr (by simp)
    | ok ps =>
      have hnil : ps = [] := Decidable.byContradiction fun hne => hports ⟨ps, hlist, hne⟩
      rw [Except.ok_bind, if_pos hnil]
      exact hwhole
  exact ⟨fun hfault => hensures.of_error hfault rfl, fun s' hs' => hensures.of_ok hs'⟩

theorem configureColumns_overflow {bridge : String} {vlansBmp : VlanBitmap} {b : Ofbundle}
    (hvlan : b.vlanMode ≠ .trunk → b.vlan < vlanBitmapSize)
    (htext : ¬ strlen (configureText bridge vlansBmp b) ≤ maxCmdLen)
    (hpieces : configurePieces vlansBmp b ≠ []) :
    configureColumns bridge vlansBmp b = .error .cmdOverflow := by
  have hprint : (configurePieces vlansBmp b).foldlM appendAsserted (addPortHead bridge b.name) = _ :=
    foldlM_appendAsserted_eq_overflow htext hpieces
  rw [configureColumns_eq_foldlM hvlan, hprint]
  rfl

/-- A text that fails no assertion: what matters is whether it is run. -/
theorem bundleConfigure_whole_of_le (hvrf : s.vrf = false) (hname : strlen (s.bundle q).name ≤ 15)
    (hnames : ∀ p ∈ s.ports, strlen (s.port p).name ≤ 15) (hports : s.bundlePorts q = .ok ps)
    (hne : ps ≠ []) (hvlan : (s.bundle q).vlanMode ≠ .trunk → (s.bundle q).vlan < vlanBitmapSize)
    (htext : strlen (configureText s.name s.vlansBmp (s.bundle q)) ≤ maxCmdLen) :
    ConfigureWhole env s q ↔ (wantedColumns s.vlansBmp (s.bundle q) ≠ none →
      strlen (configureText s.name s.vlansBmp (s.bundle q)) < maxCmdLen) := by
  have hps : ∀ p ∈ ps, strlen (s.port p).name ≤ 15 :=
    fun p hp => hnames p (((s.bundlePorts_ensures q).of_ok hports).2 p hp)
  have hwhole : s.world.Ran Cmd.Fits (cleared env s q ps).world :=
    cleared_ran (fits_delPort hname) fun p hp => fits_delPort (hps p hp)
  obtain ⟨w, hcleared⟩ := cleared_spec env s q ps
  have hcolumns : configureColumns (cleared env s q ps).name (cleared env s q ps).vlansBmp
      ((cleared env s q ps).bundle q) = .ok (wantedColumns s.vlansBmp (s.bundle q)) := by
    rw [hcleared]
    simp only [Function.update_self]
    exact configureColumns_eq htext hvlan
  rw [ConfigureWhole, bundleConfigure_eq hvrf hports hne, configurePort, hcolumns, Except.ok_bind]
  cases hwanted : wantedColumns s.vlansBmp (s.bundle q) with
  | none =>
    refine iff_of_true ⟨by simp, ?_⟩ fun h => absurd rfl h
    rintro _ ⟨⟩
    refine hwhole.trans (blockPorts_ran fun p hp => fits_memberCmds ?_)
    rw [hcleared]
    exact hps p hp
  | some columns =>
    -- the command is run, and then the ports are blocked
    have hworld : (addToSimOvs env (cleared env s q ps) q columns).world =
        ((cleared env s q ps).world.system env
          (.addPort s.name (s.bundle q).name columns)).1 := by
      rw [world_addToSimOvs, hcleared]
      simp
    have hport : (addToSimOvs env (cleared env s q ps) q columns).port = s.port := by
      obtain ⟨added, w', hs', -⟩ := addToSimOvs_spec env (cleared env s q ps) q columns
      rw [hs', hcleared]
    have hblocked : (addToSimOvs env (cleared env s q ps) q columns).world.Ran Cmd.Fits
        (ps.foldl (blockPort env) (addToSimOvs env (cleared env s q ps) q columns)).world :=
      blockPorts_ran fun p hp => by
        rw [hport]
        exact fits_memberCmds (hps p hp)
    rw [hworld] at hblocked
    have hfits : (Cmd.addPort s.name (s.bundle q).name columns).Fits ↔
        strlen (configureText s.name s.vlansBmp (s.bundle q)) < maxCmdLen := by
      rw [Cmd.Fits, text_addPort hwanted]
    have hiff := World.ran_system_iff hwhole hblocked
    rw [hfits] at hiff
    constructor
    · exact fun h _ => hiff.mp (h.2 _ rfl)
    · intro h
      refine ⟨by simp, ?_⟩
      rintro _ ⟨⟩
      exact hiff.mpr (h (Option.some_ne_none _))

/-- The bundle trunks VLANs, and all is a matter of the length of its text. -/
theorem configureWhole_trunked_iff (hvrf : s.vrf = false) (hname : strlen (s.bundle q).name ≤ 15)
    (hnames : ∀ p ∈ s.ports, strlen (s.port p).name ≤ 15) (hports : s.bundlePorts q = .ok ps)
    (hne : ps ≠ []) (hvlan : (s.bundle q).vlanMode ≠ .trunk → (s.bundle q).vlan < vlanBitmapSize)
    (hmode : (s.bundle q).vlanMode ≠ .access)
    (htag : (s.bundle q).vlanMode = .trunk ∨ (0 < (s.bundle q).vlan ∧
      (s.bundle q).vlan < vlanBitmapSize) ∧ (s.bundle q).vlan.toNat ∈ s.vlansBmp)
    (hvids : trunkVids s.vlansBmp (s.bundle q).trunks ≠ []) :
    ConfigureWhole env s q ↔
      addPortLength s.name (s.bundle q) (trunkVids s.vlansBmp (s.bundle q).trunks) < maxCmdLen := by
  have htagged : (s.bundle q).vlanMode = .trunk ∨
      0 < (s.bundle q).vlan ∧ (s.bundle q).vlan.toNat ∈ s.vlansBmp :=
    htag.imp_right fun h => ⟨h.1.1, h.2⟩
  have htrunked : (s.bundle q).vlanMode = .access ∨
      trunkVids s.vlansBmp (s.bundle q).trunks ≠ [] := .inr hvids
  rw [← strlen_configureText hmode htag hvids]
  by_cases htext : strlen (configureText s.name s.vlansBmp (s.bundle q)) ≤ maxCmdLen
  · rw [bundleConfigure_whole_of_le hvrf hname hnames hports hne hvlan htext]
    have hwanted : wantedColumns s.vlansBmp (s.bundle q) ≠ none := by
      rw [wantedColumns, if_pos ⟨htagged, htrunked⟩]
      exact Option.some_ne_none _
    exact ⟨fun h => h hwanted, fun h _ => h⟩
  · -- an assertion fails
    refine iff_of_false (fun hwhole => hwhole.1 ?_) fun h => htext h.le
    obtain ⟨w, hcleared⟩ := cleared_spec env s q ps
    have hpieces : configurePieces s.vlansBmp (s.bundle q) ≠ [] := by
      rw [configurePieces, if_pos htagged, if_pos htrunked]
      simp
    have hcolumns : configureColumns (cleared env s q ps).name (cleared env s q ps).vlansBmp
        ((cleared env s q ps).bundle q) = .error .cmdOverflow := by
      rw [hcleared]
      simp only [Function.update_self]
      exact configureColumns_overflow hvlan htext hpieces
    rw [bundleConfigure_eq hvrf hports hne, configurePort, hcolumns]
    rfl

/-- The bit of the VLAN cannot be tested, and nothing is printed after the head. -/
theorem configureWhole_of_no_index (hvrf : s.vrf = false) (hports : s.bundlePorts q = .ok ps)
    (hne : ps ≠ []) (htrunk : (s.bundle q).vlanMode ≠ .trunk)
    (hlarge : ¬ (s.bundle q).vlan < vlanBitmapSize) : ConfigureWhole env s q := by
  obtain ⟨w, hcleared⟩ := cleared_spec env s q ps
  have hpos : 0 < (s.bundle q).vlan := by
    simp only [vlanBitmapSize] at hlarge
    omega
  have htest : bitmapIsSet s.vlansBmp (s.bundle q).vlan = .error .bitmapIndex :=
    if_neg fun h => hlarge h.2
  rw [ConfigureWhole, bundleConfigure_eq hvrf hports hne, configurePort, hcleared]
  simp only [Function.update_self, configureColumns, configureTag, if_neg htrunk, if_pos hpos,
    htest]
  exact ⟨by rintro ⟨⟩, by rintro _ ⟨⟩⟩

/-- `bundle_configure` runs whole commands exactly if there is room for the text. -/
theorem configureWhole_iff (hvrf : s.vrf = false) (hbridge : strlen s.name ≤ 15)
    (hname : strlen (s.bundle q).name ≤ 15) (hnames : ∀ p ∈ s.ports, strlen (s.port p).name ≤ 15) :
    ConfigureWhole env s q ↔ s.ConfigureRoom q := by
  by_cases hports : ∃ ps, s.bundlePorts q = .ok ps ∧ ps ≠ []
  case neg =>
    exact iff_of_true (bundleConfigure_whole_of_unread hvrf hname hports) fun h => absurd h hports
  have hroom : s.ConfigureRoom q ↔ _ := forall_prop_of_true hports
  rw [hroom]
  obtain ⟨ps, hlist, hne⟩ := hports
  by_cases hvlan : (s.bundle q).vlanMode ≠ .trunk → (s.bundle q).vlan < vlanBitmapSize
  case neg =>
    obtain ⟨htrunk, hlarge⟩ := Classical.not_imp.mp hvlan
    exact iff_of_true (configureWhole_of_no_index hvrf hlist hne htrunk hlarge)
      fun _ htag => absurd (htag.resolve_left htrunk).1.2 hlarge
  by_cases htrunked : (s.bundle q).vlanMode ≠ .access ∧
      ((s.bundle q).vlanMode = .trunk ∨ (0 < (s.bundle q).vlan ∧
        (s.bundle q).vlan < vlanBitmapSize) ∧ (s.bundle q).vlan.toNat ∈ s.vlansBmp) ∧
      trunkVids s.vlansBmp (s.bundle q).trunks ≠ []
  · obtain ⟨hmode, htag, hvids⟩ := htrunked
    rw [configureWhole_trunked_iff hvrf hname hnames hlist hne hvlan hmode htag hvids]
    exact ⟨fun h _ _ _ => h, fun h => h hmode htag hvids⟩
  · -- no VLANs are listed, and the text is short
    have hshort : strlen (configureText s.name s.vlansBmp (s.bundle q)) ≤ _ :=
      strlen_configureText_le hvlan fun hmode htag =>
        Decidable.byContradiction fun hvids => htrunked ⟨hmode, htag, hvids⟩
    have hlt : strlen (configureText s.name s.vlansBmp (s.bundle q)) < maxCmdLen := by
      simp only [maxCmdLen]
      omega
    rw [bundleConfigure_whole_of_le hvrf hname hnames hlist hne hvlan hlt.le]
    exact iff_of_true (fun _ => hlt) fun hmode htag hvids => absurd ⟨hmode, htag, hvids⟩ htrunked

end Configure

/-! ## `sim_bridge_vlan_routing_update` -/

section Update

variable {env : Env} {s : State}

theorem strlen_setPortTrunks (bridge : String) (bmp : VlanBitmap) :
    strlen (Cmd.setPortTrunks bridge (bridgeTrunks bmp)).text =
      if vids (· ∈ bmp) = [] then 50 + strlen bridge
      else setPortLength bridge (vids (· ∈ bmp)) := by
  rw [Cmd.text, strlen_printed, strlen_setPortTrunksHead, bridgeTrunks]
  split
  · show 41 + strlen bridge + 9 = _
    omega
  · rename_i hne
    rw [sum_strlen_trunkPieces hne fun i hi => by have := (mem_vids.mp hi).2.1; omega,
      setPortLength]
    omega

/-- The command of a bitmap with VLANs. -/
theorem bridgeTrunksUpdate_whole_iff (hne : vids (· ∈ s.vlanIntfBmp) ≠ []) :
    (bridgeTrunksUpdate env s ≠ .error .cmdOverflow ∧
      ∀ s', bridgeTrunksUpdate env s = .ok s' → s.world.Ran Cmd.Fits s'.world) ↔
      setPortLength s.name (vids (· ∈ s.vlanIntfBmp)) < maxCmdLen := by
  have hlength : strlen (printed (setPortTrunksHead s.name)
      (trunkPieces (vids (· ∈ s.vlanIntfBmp)))) =
      setPortLength s.name (vids (· ∈ s.vlanIntfBmp)) := by
    have htext := strlen_setPortTrunks s.name s.vlanIntfBmp
    rwa [if_neg hne, Cmd.text, bridgeTrunks, if_neg hne] at htext
  have hpieces : trunkPieces (vids (· ∈ s.vlanIntfBmp)) ≠ [] := by
    cases hvids : vids (· ∈ s.vlanIntfBmp) with
    | nil => exact absurd hvids hne
    | cons => simp [trunkPieces]
  by_cases htext : setPortLength s.name (vids (· ∈ s.vlanIntfBmp)) ≤ maxCmdLen
  · have hprint := foldlM_appendAsserted (hlength.trans_le htext)
    have hok : bridgeTrunksUpdate env s =
        .ok (s.system env (.setPortTrunks s.name (bridgeTrunks s.vlanIntfBmp))) := by
      simp only [bridgeTrunksUpdate, hprint, Except.ok_bind, if_neg hne]
    have hfits : (Cmd.setPortTrunks s.name (bridgeTrunks s.vlanIntfBmp)).Fits ↔
        setPortLength s.name (vids (· ∈ s.vlanIntfBmp)) < maxCmdLen := by
      rw [Cmd.Fits, strlen_setPortTrunks, if_neg hne]
    rw [hok, ← hfits]
    have hiff := World.ran_system_iff (P := Cmd.Fits) (.refl s.world) (.refl
      (s.world.system env (.setPortTrunks s.name (bridgeTrunks s.vlanIntfBmp))).1)
    constructor
    · exact fun h => hiff.mp (h.2 _ rfl)
    · intro h
      refine ⟨by simp, ?_⟩
      rintro _ ⟨⟩
      exact hiff.mpr h
  · refine iff_of_false (fun hwhole => hwhole.1 ?_) fun h => htext h.le
    have hprint := foldlM_appendAsserted_eq_overflow (hlength ▸ htext) hpieces
    simp only [bridgeTrunksUpdate, hprint]
    rfl

/-- The command of a bitmap without VLANs is short. -/
theorem bridgeTrunksUpdate_whole_of_nil (hbridge : strlen s.name ≤ 15)
    (hnil : vids (· ∈ s.vlanIntfBmp) = []) :
    bridgeTrunksUpdate env s ≠ .error .cmdOverflow ∧
      ∀ s', bridgeTrunksUpdate env s = .ok s' → s.world.Ran Cmd.Fits s'.world := by
  have hhead : strlen (setPortTrunksHead s.name) ≤ maxCmdLen := by
    rw [strlen_setPortTrunksHead, maxCmdLen]
    omega
  have hok : bridgeTrunksUpdate env s =
      .ok (s.system env (.setPortTrunks s.name (bridgeTrunks s.vlanIntfBmp))) := by
    have hlast : appendText (setPortTrunksHead s.name) " trunks=0" = .ok _ := if_pos hhead
    simp only [bridgeTrunksUpdate, hnil, trunkPieces, List.foldlM_nil, if_true]
    rw [pure_bind, hlast]
    rfl
  rw [hok]
  refine ⟨by simp, ?_⟩
  rintro _ ⟨⟩
  refine .of_system env s.world ?_
  rw [Cmd.Fits, strlen_setPortTrunks, if_pos hnil, maxCmdLen]
  omega

theorem updateWhole_iff (hbridge : strlen s.name ≤ 15) (vlan : ℤ) (add : Bool) :
    UpdateWhole env s vlan add ↔ s.UpdateRoom vlan add := by
  rw [UpdateWhole, simBridgeVlanRoutingUpdate, bitmapIsSet]
  by_cases hrange : 0 ≤ vlan ∧ vlan < vlanBitmapSize
  case neg =>
    rw [if_neg hrange]
    exact iff_of_true ⟨by rintro ⟨⟩, by rintro _ ⟨⟩⟩ fun h => absurd h hrange
  have hroom : s.UpdateRoom vlan add ↔ _ := forall_prop_of_true hrange
  rw [if_pos hrange, Except.ok_bind, hroom]
  by_cases hbit : decide (vlan.toNat ∈ s.vlanIntfBmp) = add
  · rw [if_pos hbit]
    refine iff_of_true ⟨by simp, ?_⟩ fun h => absurd hbit h
    rintro _ ⟨⟩
    exact .refl s.world
  · rw [if_neg hbit, forall_prop_of_true hbit]
    let s₁ : State := { s with vlanIntfBmp := bitmapSet s.vlanIntfBmp vlan add }
    by_cases hnil : vids (· ∈ s₁.vlanIntfBmp) = []
    · refine iff_of_true (bridgeTrunksUpdate_whole_of_nil (s := s₁) hbridge hnil) ?_
      have hlength : setPortLength s.name [] = 48 + strlen s.name := rfl
      rw [hnil, hlength, maxCmdLen]
      omega
    · exact bridgeTrunksUpdate_whole_iff (s := s₁) hnil

end Update

/-- On a bridge, with names that interfaces can have, the VLAN commands are whole exactly if the VLANs
they list leave room for the terminator. -/
theorem vlan_commands_whole_iff (env : Env) {s : State} (hvrf : s.vrf = false)
    (hbridge : strlen s.name ≤ 15) (hnames : ∀ p ∈ s.ports, strlen (s.port p).name ≤ 15) :
    (∀ q, strlen (s.bundle q).name ≤ 15 → (ConfigureWhole env s q ↔ s.ConfigureRoom q)) ∧
      ∀ vlan add, UpdateWhole env s vlan add ↔ s.UpdateRoom vlan add :=
  ⟨fun _ hname => configureWhole_iff hvrf hbridge hname hnames, updateWhole_iff hbridge⟩

/-- A port that trunks all enabled VLANs. -/
private def trunkSettings : OfprotoBundleSettings :=
  { sampleSettings "eth1" [1] false with vlanMode := .trunk, vlan := -1 }

/-- The port trunks a single VLAN. -/
theorem vlan_commands_whole_of_single : ∃ s, run sampleEnv (sampleState false)
    [.setVlan 10 true, .bundleSet 100 (some trunkSettings)] = .ok s ∧ s.bundles ≠ [] ∧
    (∀ q ∈ s.bundles, ConfigureWhole sampleEnv s q) ∧ UpdateWhole sampleEnv s 20 true := by
  have hobs : (run sampleEnv (sampleState false)
      [.setVlan 10 true, .bundleSet 100 (some trunkSettings)]).toOption.map (fun s => decide
      (s.vrf = false ∧ strlen s.name ≤ 15 ∧ (∀ p ∈ s.ports, strlen (s.port p).name ≤ 15) ∧
        s.bundles ≠ [] ∧ (∀ q ∈ s.bundles, strlen (s.bundle q).name ≤ 15 ∧
          addPortLength s.name (s.bundle q) (trunkVids s.vlansBmp (s.bundle q).trunks) = 86) ∧
        setPortLength s.name (vids (· ∈ bitmapSet s.vlanIntfBmp 20 true)) = 54)) =
      some true := by decide +kernel
  obtain ⟨s, hrun, hs⟩ := Option.map_eq_some_iff.mp hobs
  obtain ⟨hvrf, hbridge, hnames, hbundles, hall, hset⟩ := of_decide_eq_true hs
  have hwhole := vlan_commands_whole_iff sampleEnv hvrf hbridge hnames
  refine ⟨s, Except.eq_ok_of_toOption hrun, hbundles,
    fun q hq => (hwhole.1 q (hall q hq).1).mpr ?_, (hwhole.2 20 true).mpr ?_⟩
  · intro _ _ _ _
    rw [(hall q hq).2]
    decide
  · intro _ _
    rw [hset]
    decide

/-! ## A trunk that fills the buffer -/

section Full

variable {env : Env} {s : State} {aux q : Ptr} {settings : OfprotoBundleSettings}

/-- What `bundle_set` leaves of a bundle that it configures. -/
theorem State.WF.bundleSet_configured (h : s.WF)
    (hteardown : NoTeardown s (.bundleSet aux (some settings)))
    (hlag : NoLagClaimed s (.bundleSet aux (some settings)))
    (hslave : ∃ p ∈ settings.slaves, p ∈ s.ports)
    (hbridge : ∀ q ∈ s.bundleLookup aux, (s.bundle q).isBridgeBundle = false)
    (hconf : s.Configures settings) :
    (bundleSet env s aux (some settings)).Ensures Fault.OfInput fun r =>
      (r.1.name = s.name ∧ r.1.vrf = s.vrf ∧ r.1.vlansBmp = s.vlansBmp ∧ r.1.ports = s.ports ∧
        ∀ p, (r.1.port p).name = (s.port p).name) ∧
      ∃ q ∈ r.1.bundles, (∃ ps, r.1.bundlePorts q = .ok ps ∧ ps ≠ []) ∧
        (r.1.bundle q).name = settings.name ∧ (r.1.bundle q).vlanMode = settings.vlanMode ∧
        (r.1.bundle q).trunks = settings.trunks := by
  refine h.bundleSet_rule (Q := fun _ _ _ => True) hteardown hlag ?_ ?_ ?_
  · intro q s₁ _ hwf₁ hq hnolag
    exact (updatePorts_ensures hwf₁ hq hnolag).mono fun s₂ hupdated => ⟨hupdated, trivial⟩
  · intro q s₁ s₂ _ _ _ _ _ hnone
    obtain ⟨p, hp, hmem⟩ := hslave
    exact absurd hmem (hnone p hp)
  · intro q s₁ s₂ ps hopened _ hupdated _ hps hne _ hname
    have hframe := hupdated.claims.frame
    have hbridge₂ : (s₂.bundle q).isBridgeBundle = false := by
      rw [(hframe.sub q hupdated.live).2]
      exact hopened.isBridgeBundle.mpr hbridge
    have hconf₂ : s₂.Configures settings :=
      (State.routes_congr (hframe.name.trans hopened.name) (hframe.vrf.trans hopened.frame.vrf)
        (hframe.ports.trans hopened.frame.ports)
        fun p => by rw [(hframe.netdev p).2, hopened.frame.port]).2.mpr hconf
    -- none of the branches that skip `bundle_configure`
    refine bundleApply_rule hupdated.live hname ?_ ?_ ?_ fun sflow _ _ => ?_
    · exact fun h => absurd (h.symm.trans hbridge₂) (by simp)
    · exact fun _ _ hroutes => absurd hroutes hconf₂.1
    · exact fun _ _ _ _ hnot => absurd hconf₂ hnot
    have hwf := hupdated.wf.modifyBundle (q := q) (f := fun b =>
      ({ b with isSflowEnabled := sflow } : Ofbundle).withVlans settings) fun _ => rfl
    refine (hwf.bundleConfigure hupdated.live).mono fun s' h' => ?_
    obtain ⟨hwf', hs'⟩ := h'
    refine ⟨⟨?_, ?_, ?_, ?_, ?_⟩, ?_⟩
    · exact hs'.name.trans (hframe.name.trans hopened.name)
    · exact hs'.vrf.trans (hframe.vrf.trans hopened.frame.vrf)
    · exact hs'.vlansBmp.trans (hframe.vlansBmp.trans hopened.vlansBmp)
    · exact hs'.ports.trans (hframe.ports.trans hopened.frame.ports)
    · intro p
      rw [(hs'.port p).2, ← hopened.frame.port]
      exact (hframe.netdev p).1
    · have hlive : q ∈ s'.bundles := hs'.bundles.symm ▸ hupdated.live
      obtain ⟨ps', hlist, hps'⟩ := hwf'.bundlePorts hlive
      have hnonempty : ps' ≠ [] := by
        obtain ⟨p, hp⟩ := List.exists_mem_of_ne_nil ps hne
        refine List.ne_nil_of_mem ((hps'.mem_iff p).mpr ?_)
        rw [hs'.ports, (hs'.port p).1]
        exact (hps.mem_iff p).mp hp
      refine ⟨q, hlive, ⟨ps', hlist, hnonempty⟩, ?_⟩
      rw [hs'.bundle_self]
      simp [State.modifyBundle, Ofbundle.withVlans, hname]

/-- Enabling VLANs while there are no bundles. -/
theorem Reaches.setVlans {C : State → Op → State → Prop}
    (hC : ∀ s vid add s', C s (.setVlan vid add) s') (hbundles : s.bundles = []) (l : List ℕ)
    (hl : ∀ i ∈ l, i < vlanBitmapSize) :
    ∃ bmp : VlanBitmap, (∀ i, i ∈ bmp ↔ i ∈ s.vlansBmp ∨ i ∈ l) ∧
      Reaches env C s { s with vlansBmp := bmp } := by
  induction l generalizing s with
  | nil => exact ⟨s.vlansBmp, by simp, .refl⟩
  | cons i l ih =>
    let s₁ : State := { s with vlansBmp := insert i s.vlansBmp }
    have hi : (0 : ℤ) ≤ i ∧ (i : ℤ) < vlanBitmapSize := ⟨by omega, by exact_mod_cast hl i (by simp)⟩
    have horder : env.order s₁ = [] := List.perm_nil.mp (hbundles ▸ env.order_perm s₁)
    have hset : setVlan env s i true = .ok s₁ := by
      rw [setVlan, bitmapIsSet, if_pos hi, Except.ok_bind]
      split
      · rename_i hbit
        have hmem : i ∈ s.vlansBmp := by simpa using hbit
        simp only [s₁, Finset.insert_eq_of_mem hmem]
      · have hloop : bundleSetReconfigure env s₁ = .ok s₁ := by
          rw [bundleSetReconfigure, horder]
          rfl
        show (if s₁.vrf then .ok s₁ else bundleSetReconfigure env s₁) = _
        rw [hloop, ite_self]
    obtain ⟨bmp, hmem, hrest⟩ :=
      ih (s := s₁) hbundles fun j hj => hl j (List.mem_cons_of_mem i hj)
    refine ⟨bmp, fun j => ?_, .head ⟨.setVlan i true, hset, hC ..⟩ hrest⟩
    rw [hmem, Finset.mem_insert, List.mem_cons, or_assoc, or_left_comm]

end Full

/-- The 393 VLANs from 1000 on. -/
private def manyVids : List ℕ := List.range' 1000 393

private theorem mem_manyVids {i : ℕ} : i ∈ manyVids ↔ 1000 ≤ i ∧ i < 1393 := by
  rw [manyVids, List.mem_range'_1]

private theorem vidsLength_many {bmp : VlanBitmap} (hbmp : ∀ i, i ∈ bmp ↔ i ∈ manyVids) :
    vidsLength (trunkVids bmp none) = 1965 := by
  have hnodup : (trunkVids bmp none).Nodup := List.Nodup.filter _ List.nodup_range'
  have hmany : manyVids.Nodup := List.nodup_range'
  have hperm : (trunkVids bmp none).Perm manyVids := by
    refine (List.perm_ext_iff_of_nodup hnodup hmany).mpr fun i => ?_
    rw [trunkVids, mem_vids]
    simp only [hbmp, mem_manyVids, Option.not_mem_none, false_imp_iff, implies_true, and_true,
      decide_eq_true_eq]
    omega
  rw [vidsLength, (hperm.map _).sum_nat]
  decide +kernel

private theorem trunkVids_many {bmp : VlanBitmap} (hbmp : ∀ i, i ∈ bmp ↔ i ∈ manyVids) :
    trunkVids bmp none ≠ [] := by
  intro hnil
  have hlength := vidsLength_many hbmp
  rw [hnil] at hlength
  cases hlength

private def enabledState (bmp : VlanBitmap) : State := { sampleState false with vlansBmp := bmp }

private theorem enabledState_configures (bmp : VlanBitmap) :
    (enabledState bmp).Configures trunkSettings := by
  have hinternal : (enabledState bmp).isInternal trunkSettings.slaves = false := rfl
  have hentered : ¬ (trunkSettings.slavesEntered > 1 ∧ trunkSettings.slaves.length ≤ 1) := by decide
  exact ⟨fun h => absurd h.1 (by simp [hinternal]), fun h => absurd h.1 (by simp [hinternal]), rfl,
    hentered⟩

private theorem enabledState_fits {bmp : VlanBitmap} (hbmp : ∀ i, i ∈ bmp ↔ i ∈ manyVids) :
    (enabledState bmp).SetFits 100 trunkSettings := by
  have hlength : addPortLength "br0" (((Ofbundle.fresh 0).withSettings trunkSettings).withVlans
      trunkSettings) (trunkVids bmp none) = 2048 := by
    rw [addPortLength, vidsLength_many hbmp]
    rfl
  refine ⟨fun _ => ⟨∅, rfl, fun _ => ⟨fun hroutes => ?_, fun _ _ => ?_⟩⟩, fun hnone => ?_⟩
  · exact absurd hroutes (enabledState_configures bmp).1
  · exact ((strlen_configureText (show PortVlanMode.trunk ≠ .access by decide) (.inl rfl)
      (trunkVids_many hbmp)).trans hlength).le
  · exact absurd (List.mem_cons_self : (1 : OfpPort) ∈ [1, 2, 3, 4]) (hnone 1 (by decide))

/-- The port of the trunk is set up, and its text is as long as the buffer. -/
private theorem enabledState_set {bmp : VlanBitmap} (hbmp : ∀ i, i ∈ bmp ↔ i ∈ manyVids)
    (hwf : (enabledState bmp).WF) : ∃ s,
    step sampleEnv (enabledState bmp) (.bundleSet 100 (some trunkSettings)) = .ok s ∧
    (s.vrf = false ∧ strlen s.name ≤ 15 ∧ ∀ p ∈ s.ports, strlen (s.port p).name ≤ 15) ∧
    ∃ q ∈ s.bundles, strlen (s.bundle q).name ≤ 15 ∧ ¬ s.ConfigureRoom q := by
  have hnone : (enabledState bmp).bundleLookup 100 = none := rfl
  have hteardown : NoTeardown (enabledState bmp) (.bundleSet 100 (some trunkSettings)) := by
    intro q hq
    rw [hnone] at hq
    cases hq
  have hlag : NoLagClaimed (enabledState bmp) (.bundleSet 100 (some trunkSettings)) :=
    fun p _ _ q hq => (nomatch (show q ∈ (none : Option Ptr) from hq))
  have hreturns : (bundleSet sampleEnv (enabledState bmp) 100 (some trunkSettings)).Ensures _ _ :=
    hwf.bundleSet_returns hteardown hlag
  have hset := hreturns.and (hwf.bundleSet_configured hteardown hlag
    ⟨1, List.mem_cons_self, List.mem_cons_self⟩ (by simp [hnone]) (enabledState_configures bmp))
  cases hr : bundleSet sampleEnv (enabledState bmp) 100 (some trunkSettings) with
  | error e => exact absurd (enabledState_fits hbmp) (hset.of_error hr)
  | ok r =>
    obtain ⟨-, ⟨hname, hvrf, hvlans, hports, hnames⟩, q, hq, hlist, hbname, hmode, htrunks⟩ :=
      hset.of_ok hr
    refine ⟨r.1, by rw [step, hr]; rfl, ⟨hvrf, ?_, ?_⟩, q, hq, ?_, fun hroom => ?_⟩
    · rw [hname]
      show strlen "br0" ≤ 15
      decide
    · simp only [hnames, hports]
      show ∀ p ∈ (sampleState false).ports, strlen ((sampleState false).port p).name ≤ 15
      decide
    · rw [hbname]
      decide
    · have htrunk : (r.1.bundle q).vlanMode = .trunk := hmode
      have hvids : trunkVids r.1.vlansBmp (r.1.bundle q).trunks = trunkVids bmp none := by
        rw [hvlans, htrunks]
        rfl
      have hlength : addPortLength r.1.name (r.1.bundle q) (trunkVids bmp none) = 2048 := by
        rw [addPortLength, vidsLength_many hbmp, hname, hbname, htrunk]
        rfl
      have hlt := hroom hlist (by simp [htrunk]) (.inl htrunk) (hvids ▸ trunkVids_many hbmp)
      rw [hvids, hlength] at hlt
      exact absurd hlt (lt_irrefl 2048)

/-- With 393 VLANs enabled the text for the trunk is as long as its buffer, and its last character is
cut off. -/
theorem vlan_command_cut_off : ¬ ∀ (env : Env) (s₀ s : State), Initial s₀ →
    Reaches env (fun _ _ _ => True) s₀ s → s.vrf = false → strlen s.name ≤ 15 →
    (∀ p ∈ s.ports, strlen (s.port p).name ≤ 15) →
    (∀ q ∈ s.bundles, strlen (s.bundle q).name ≤ 15 → ConfigureWhole env s q) ∧
      ∀ vlan add, 0 ≤ vlan ∧ vlan < vlanBitmapSize → UpdateWhole env s vlan add := by
  intro hall
  have hinit := sampleState_initial false
  have hrange : ∀ i ∈ manyVids, i < vlanBitmapSize := fun i hi =>
    lt_trans (mem_manyVids.mp hi).2 (by decide)
  obtain ⟨bmp, hmem, hreaches⟩ : ∃ bmp : VlanBitmap,
      (∀ i, i ∈ bmp ↔ i ∈ (sampleState false).vlansBmp ∨ i ∈ manyVids) ∧
        Reaches sampleEnv Sound (sampleState false) (enabledState bmp) :=
    Reaches.setVlans (fun _ _ _ _ => ⟨trivial, trivial⟩) hinit.bundles manyVids hrange
  have hbmp : ∀ i, i ∈ bmp ↔ i ∈ manyVids := fun i => by simp [hmem, hinit.vlansBmp]
  have hwf : (enabledState bmp).WF := hreaches.wf (fun _ _ _ hc => hc) hinit
  obtain ⟨s, hstep, ⟨hvrf, hbridge, hdevs⟩, q, hq, hname, hroom⟩ := enabledState_set hbmp hwf
  have hreaches' : Reaches sampleEnv (fun _ _ _ => True) (sampleState false) s :=
    (hreaches.mono fun _ _ _ _ => trivial).tail ⟨_, hstep, trivial⟩
  have hwhole := (hall sampleEnv _ s hinit hreaches' hvrf hbridge hdevs).1 q hq hname
  exact hroom ((configureWhole_iff hvrf hbridge hname hdevs).mp hwhole)

end ContainerPlugin.Ofproto
