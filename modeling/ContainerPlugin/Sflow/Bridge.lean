import Mathlib.Data.Finset.Option
import Mathlib.Data.Finset.Union
import ContainerPlugin.Sflow.Stored

/-!
# sFlow on a bridge

Along every sequence of requests the stored configuration and the record of the bridge in the ASIC
are those of the last request.
-/

namespace ContainerPlugin.Sflow

open Ofproto Netdev

/-- The record that the options describe. -/
def rendered (options : OfprotoSflowOptions) : SflowRow where
  agent := options.agentDevice
  targets := options.targets.biUnion fun target => (targetItem target).toFinset
  header := options.headerLen.toInt
  sampling := options.samplingRate.toInt
  polling := options.pollingInterval.toInt

/-- A sequence of `set_sflow` calls on one ofproto. -/
def setSflows (env : Env) (w : World) (node : Node) (requests : List (Option OfprotoSflowOptions)) :
    Except Fault (World × Node) :=
  requests.foldlM (fun st request => setSflow env st.1 st.2 request) (w, node)

def configureCmd (env : Env) (log : List (Cmd × Bool)) (bridge : String)
    (options : OfprotoSflowOptions) : Cmd :=
  .ovsConfigure bridge options.agentDevice (env.order log options.targets)
    options.headerLen.toInt options.samplingRate.toInt options.pollingInterval.toInt

/-- The targets fit the buffer they are copied to, and the command fits its own. -/
def FitsBuffers (env : Env) (bridge : String) (options : OfprotoSflowOptions) : Prop :=
  (∀ target ∈ options.targets, strlen target < maxCmdLen) ∧
    ∀ log, (configureCmd env log bridge options).Fits env

/-- Every command returned 0. -/
def World.AllDone (w : World) : Prop := ∀ c ∈ w.log, c.2 = true

instance (w : World) : Decidable w.AllDone := inferInstanceAs (Decidable (∀ c ∈ w.log, c.2 = true))

/-! ## The commands for the ASIC -/

section Configure

variable {env : Env} {w : World} {bridge : String} {options : OfprotoSflowOptions}

theorem strlen_le_dropLast (text : String) : strlen text ≤ strlen (dropLast text) + 4 := by
  have htext : String.ofList text.toList = text := String.ofList_toList
  cases h : text.toList using List.reverseRecOn with
  | nil =>
    rw [h] at htext
    simp [← htext, strlen]
  | append_singleton cs c =>
    rw [h, String.ofList_append, ← String.singleton_eq_ofList] at htext
    have hdrop : dropLast text = String.ofList cs := by rw [dropLast, h, List.dropLast_concat]
    have hc : strlen (String.singleton c) ≤ 4 := by
      rw [strlen, String.utf8ByteSize_singleton]
      exact c.utf8Size_le_four
    rw [hdrop, ← htext, strlen_append]
    omega

/-- The last piece is longer than the character that is given up. -/
theorem four_le_columnsPiece (bridge : String) (header sampling polling : ℤ) :
    4 ≤ strlen (columnsPiece bridge header sampling polling) := by
  have hhead : strlen " header=" = 8 := by decide +kernel
  delta columnsPiece
  simp only [strlen_append, hhead]
  omega

/-- If the command fits its buffer, none of its pieces is printed past the end. -/
theorem sflowOvsConfigure_eq (h : FitsBuffers env bridge options) :
    sflowOvsConfigure env w bridge options =
      .ok (w.system env (configureCmd env w.log bridge options)).1 := by
  have hfits := h.2 w.log
  have hcolumns := four_le_columnsPiece bridge options.headerLen.toInt
    options.samplingRate.toInt options.pollingInterval.toInt
  have hcopied : targetsCopied (env.order w.log options.targets) = .ok () := by
    apply if_pos
    intro target htarget
    exact h.1 target ((env.mem_order _ _ _).mp htarget)
  simp only [Cmd.Fits, configureCmd, Cmd.text, strlen_append] at hfits
  simp only [sflowOvsConfigure, hcopied, Except.ok_bind]
  split at hfits
  case isTrue htargets =>
    have hagent : strlen (printed sflowHead (agentPieces options.agentDevice)) ≤ maxCmdLen := by
      omega
    simp only [foldlM_appendText hagent, if_pos htargets, Except.ok_bind, appendText, if_pos hagent]
    rfl
  case isFalse htargets =>
    have hlast := strlen_le_dropLast (printed (printed sflowHead (agentPieces options.agentDevice))
      (targetPieces (env.order w.log options.targets)))
    have hdropped : strlen (dropLast (printed (printed sflowHead (agentPieces options.agentDevice))
        (targetPieces (env.order w.log options.targets)))) ≤ maxCmdLen := by omega
    have htext : strlen (printed (printed sflowHead (agentPieces options.agentDevice))
        (targetPieces (env.order w.log options.targets))) ≤ maxCmdLen := by omega
    have hagent := le_trans (strlen_printed_le _ _) htext
    simp only [foldlM_appendText hagent, if_neg htargets, Except.ok_bind, foldlM_appendText htext,
      appendText, if_pos hdropped]
    rfl

/-- If a command that fits was carried out like all before, it did what it says. -/
theorem World.AllDone.of_system {c : Cmd} (h : (w.system env c).1.AllDone) (hfits : c.Fits env) :
    w.AllDone ∧ w.machine.exec c = some (w.system env c).1.machine := by
  have hlog : (w.system env c).1.log = w.log ++ [(c, (w.machine.system env w.log c).2)] := rfl
  have hbefore : w.AllDone := by
    intro c' hc'
    apply h
    rw [hlog]
    exact List.mem_append_left _ hc'
  have hok : (w.machine.system env w.log c).2 = true := by
    apply h (c, _)
    rw [hlog]
    exact List.mem_append_right _ (List.mem_singleton_self _)
  refine ⟨hbefore, ?_⟩
  have hmachine : (w.system env c).1.machine = (w.machine.system env w.log c).1 := rfl
  rw [hmachine]
  rw [Machine.system, if_neg (not_not_intro hfits)] at hok ⊢
  split at hok
  case isTrue => cases hok
  case isFalse hfails =>
    rw [if_neg hfails]
    cases hexec : w.machine.exec c with
    | none => simp [hexec] at hok
    | some m => rfl

/-- The record is deleted. -/
theorem bridges_ovsDelete (hfits : (Cmd.ovsDelete bridge).Fits env)
    (h : (w.system env (.ovsDelete bridge)).1.AllDone) :
    (w.system env (.ovsDelete bridge)).1.machine.bridges bridge = none := by
  obtain ⟨-, hexec⟩ := h.of_system hfits
  simp only [Machine.exec, Option.some.injEq] at hexec
  rw [← hexec]
  exact Function.update_self ..

/-- The record becomes the one that the options describe, in whatever order the targets come. -/
theorem bridges_ovsConfigure (hfits : FitsBuffers env bridge options)
    (h : (w.system env (configureCmd env w.log bridge options)).1.AllDone) :
    (w.system env (configureCmd env w.log bridge options)).1.machine.bridges bridge =
      some (rendered options) := by
  obtain ⟨-, hexec⟩ := h.of_system (hfits.2 w.log)
  have htargets : ((env.order w.log options.targets).filterMap targetItem).toFinset =
      (rendered options).targets := by
    ext item
    simp [rendered, env.mem_order]
  nth_rewrite 1 [configureCmd] at hexec
  rw [Machine.exec] at hexec
  split at hexec
  case isTrue => cases hexec
  case isFalse =>
    rw [← Option.some.inj hexec, htargets]
    exact Function.update_self ..

end Configure

/-! ## Requests -/

/-- The stored configuration and the record of the bridge are those of the options `o`. -/
structure BridgeInv (bridge : String) (o : Option OfprotoSflowOptions) (w : World) (node : Node) :
    Prop where
  vrf : node.vrf = false
  name : node.name = bridge
  stored : Stored node.sflow o
  row : w.AllDone → w.machine.bridges bridge = o.map rendered

section Requests

variable {env : Env} {w : World} {node : Node} {bridge : String} {o : Option OfprotoSflowOptions}

/-- After `sflow_disable` nothing is left to do for another one. -/
theorem BridgeInv.sflowDisable (h : BridgeInv bridge o w node)
    (hfits : (Cmd.ovsDelete bridge).Fits env) :
    ∃ w' node', Sflow.sflowDisable env w node = .ok (w', node') ∧ BridgeInv bridge none w' node' ∧
      Sflow.sflowDisable env w' node' = .ok (w', node') := by
  by_cases hdisabled : node.sflow.disabled
  · have ho : o = none := h.stored.eq_none_of_disabled hdisabled
    subst ho
    have hskip : Sflow.sflowDisable env w node = .ok (w, node) := if_pos hdisabled
    exact ⟨w, node, hskip, h, hskip⟩
  · obtain ⟨cfg, hclear, hset, htargets⟩ := h.stored.clear
    have hrun : Sflow.sflowDisable env w node = .ok ((w.system env (.ovsDelete bridge)).1,
        { node with sflow := { cfg with disabled := true } }) := by
      rw [Sflow.sflowDisable, if_neg hdisabled, hclear, Except.ok_bind, h.vrf, h.name]
      rfl
    exact ⟨_, _, hrun, ⟨h.vrf, h.name, ⟨hset, htargets⟩, bridges_ovsDelete hfits⟩, if_pos rfl⟩

/-- Options that are equal to the stored ones are skipped, all others are carried out. -/
theorem BridgeInv.enable {options : OfprotoSflowOptions} (h : BridgeInv bridge o w node)
    (henabling : options.Enabling) (hfits : FitsBuffers env bridge options) :
    ∃ w' node', setSflow env w node (some options) = .ok (w', node') ∧
      BridgeInv bridge (some options) w' node' ∧
      setSflow env w' node' (some options) = .ok (w', node') := by
  have hskip : ∀ {w node}, BridgeInv bridge (some options) w node →
      setSflow env w node (some options) = .ok (w, node) := by
    intro w node h
    simp [setSflow, henabling, h.stored.equal henabling, h.vrf]
  by_cases ho : o = some options
  · subst ho
    exact ⟨w, node, hskip h, h, hskip h⟩
  · obtain ⟨cfg, hclear, -⟩ := h.stored.clear
    let deleted := (w.system env (.ovsDelete bridge)).1
    let configured := (deleted.system env (configureCmd env deleted.log bridge options)).1
    let stored := { sflowCfgSet options cfg with disabled := false }
    have hrun : setSflow env w node (some options) =
        .ok (configured, { node with sflow := stored }) := by
      simp only [setSflow, if_pos henabling, h.stored.equal henabling, Except.ok_bind, ho,
        decide_false, sflowApply, hclear, h.vrf, h.name, sflowOvsConfigure_eq hfits]
      rfl
    have hinv : BridgeInv bridge (some options) configured { node with sflow := stored } :=
      ⟨h.vrf, h.name, ⟨henabling, ∅, rfl⟩, bridges_ovsConfigure hfits⟩
    exact ⟨_, _, hrun, hinv, hskip hinv⟩

theorem BridgeInv.setSflow {request : Option OfprotoSflowOptions} (h : BridgeInv bridge o w node)
    (hdelete : (Cmd.ovsDelete bridge).Fits env)
    (hfits : ∀ options, enabling request = some options → FitsBuffers env bridge options) :
    ∃ w' node', Sflow.setSflow env w node request = .ok (w', node') ∧
      BridgeInv bridge (enabling request) w' node' ∧
      Sflow.setSflow env w' node' request = .ok (w', node') := by
  cases hreq : enabling request with
  | none =>
    simp only [setSflow_of_enabling_none hreq]
    exact h.sflowDisable hdelete
  | some options =>
    obtain ⟨hrequest, henabling⟩ := of_enabling_eq_some hreq
    subst hrequest
    exact h.enable henabling (hfits options hreq)

/-- Every sequence of requests returns, with the configuration of some last request. -/
theorem BridgeInv.setSflows {requests : List (Option OfprotoSflowOptions)}
    (h : BridgeInv bridge o w node) (hdelete : (Cmd.ovsDelete bridge).Fits env)
    (hfits : ∀ options, some options ∈ requests.map enabling → FitsBuffers env bridge options) :
    ∃ w' node' o', Sflow.setSflows env w node requests = .ok (w', node') ∧
      BridgeInv bridge o' w' node' := by
  induction requests generalizing w node o with
  | nil => exact ⟨w, node, o, rfl, h⟩
  | cons request requests ih =>
    have hrequest : ∀ options, enabling request = some options →
        FitsBuffers env bridge options := fun options heq => hfits options (by simp [heq])
    have hrest : ∀ options, some options ∈ requests.map enabling →
        FitsBuffers env bridge options :=
      fun options hmem => hfits options (List.mem_cons_of_mem _ hmem)
    obtain ⟨w₁, node₁, hrun, hinv, -⟩ := h.setSflow hdelete hrequest
    obtain ⟨w', node', o', hruns, hinv'⟩ := ih hinv hrest
    refine ⟨w', node', o', ?_, hinv'⟩
    rw [Sflow.setSflows, List.foldlM_cons, hrun]
    exact hruns

/-- sFlow on a bridge depends only on the last request, and repeating that request does nothing. -/
theorem bridge_sflow_of_last_request {requests : List (Option OfprotoSflowOptions)}
    {last : Option OfprotoSflowOptions} (hvrf : node.vrf = false) (hnew : node.sflow = .zero)
    (hrow : w.machine.bridges node.name = none) (hdelete : (Cmd.ovsDelete node.name).Fits env)
    (hfits : ∀ options, some options ∈ (requests ++ [last]).map enabling →
      FitsBuffers env node.name options) :
    ∃ w' node', setSflows env w node (requests ++ [last]) = .ok (w', node') ∧
      (w'.AllDone → w'.machine.bridges node.name = (enabling last).map rendered) ∧
      setSflow env w' node' last = .ok (w', node') := by
  have hinit : BridgeInv node.name none w node :=
    ⟨hvrf, rfl, by rw [hnew]; exact .zero, fun _ => hrow⟩
  have hbefore : ∀ options, some options ∈ requests.map enabling →
      FitsBuffers env node.name options := by
    intro options hmem
    apply hfits options
    rw [List.map_append]
    exact List.mem_append_left _ hmem
  have hlast : ∀ options, enabling last = some options → FitsBuffers env node.name options := by
    intro options heq
    apply hfits options
    rw [List.map_append, ← heq]
    exact List.mem_append_right _ (List.mem_singleton_self _)
  obtain ⟨w₁, node₁, o, hruns, hinv⟩ := hinit.setSflows hdelete hbefore
  obtain ⟨w', node', hrun, hinv', hagain⟩ := hinv.setSflow hdelete hlast
  refine ⟨w', node', ?_, hinv'.row, hagain⟩
  rw [setSflows, List.foldlM_append]
  rw [setSflows] at hruns
  rw [hruns, Except.ok_bind, List.foldlM_cons, hrun]
  rfl

/-- sFlow is enabled, switched off by a rate of 0 and enabled for another collector. -/
theorem bridge_sflow_of_last_request_reenabled :
    let first : OfprotoSflowOptions :=
      ⟨{"10.0.0.1/6343"}, 1000, 30, 128, 1400, some "eth0", none⟩
    let off : OfprotoSflowOptions := { first with samplingRate := 0 }
    let last : OfprotoSflowOptions := { first with targets := {"10.0.0.2"} }
    let node : Node := ⟨"bridge_normal", false, [], .zero⟩
    let w : World := ⟨[], ⟨fun _ => none, [], false⟩, "", fun _ => netdevSimConstruct⟩
    ∃ w' node', setSflows sortedEnv w node ([some first, some off] ++ [some last]) =
        .ok (w', node') ∧
      w'.AllDone ∧ w'.machine.bridges "bridge_normal" =
        some ⟨some "eth0", {"10.0.0.2"}, 128, 1000, 30⟩ ∧
      setSflow sortedEnv w' node' (some last) = .ok (w', node') := by
  intro first off last node w
  have hfits : ∀ options, some options ∈ ([some first, some off] ++ [some last]).map enabling →
      FitsBuffers sortedEnv node.name options := by
    intro options hmem
    have hcases : options = first ∨ options = last := by
      have henabling : ([some first, some off] ++ [some last]).map enabling =
          [some first, none, some last] := by decide +kernel
      rw [henabling] at hmem
      rcases List.mem_cons.mp hmem with h | hmem
      · exact .inl (Option.some.inj h)
      rcases List.mem_cons.mp hmem with h | hmem
      · cases h
      · exact .inr (Option.some.inj (List.mem_singleton.mp hmem))
    cases hcases with
    | inl h =>
      subst h
      have hcmd : (configureCmd sortedEnv [] node.name first).Fits sortedEnv := by decide +kernel
      exact ⟨by decide +kernel, fun _ => hcmd⟩
    | inr h =>
      subst h
      have hcmd : (configureCmd sortedEnv [] node.name last).Fits sortedEnv := by decide +kernel
      exact ⟨by decide +kernel, fun _ => hcmd⟩
  have hdelete : (Cmd.ovsDelete node.name).Fits sortedEnv := by decide +kernel
  have hvrf : node.vrf = false := rfl
  have hnew : node.sflow = .zero := rfl
  have habsent : w.machine.bridges node.name = none := rfl
  obtain ⟨w', node', hrun, hrow, hagain⟩ :=
    bridge_sflow_of_last_request hvrf hnew habsent hdelete hfits
  have hlog : (setSflows sortedEnv w node ([some first, some off] ++ [some last])).toOption.map
      (fun st => (decide st.1.AllDone : Bool)) = some true := by decide +kernel
  rw [hrun] at hlog
  have hdone : w'.AllDone := of_decide_eq_true (Option.some.inj hlog)
  exact ⟨w', node', hrun, hdone, hrow hdone, hagain⟩

end Requests

end ContainerPlugin.Sflow
