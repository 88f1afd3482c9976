import Mathlib.Data.Finset.Sort
import Mathlib.Data.String.Basic
import ContainerPlugin.Lib.Outcome
import ContainerPlugin.Ofproto.Effects
import ContainerPlugin.Sflow.Basic

/-!
# The stored sFlow configuration

It is either a copy of the last options, which enabled sFlow, or it has no targets, and then no
options that enable sFlow are equal to it.
-/

namespace ContainerPlugin.Sflow

open Ofproto

/-- The options of a request that enables sFlow. -/
def enabling (request : Option OfprotoSflowOptions) : Option OfprotoSflowOptions :=
  request.filter fun options => options.Enabling

/-- The configuration is a copy of options that enable sFlow, or one without targets. -/
def Stored (cfg : SimSflowCfg) : Option OfprotoSflowOptions → Prop
  | none => cfg.set = false ∧ cfg.targets = ∅
  | some options => options.Enabling ∧
      ∃ ports, cfg = { sflowCfgSet options cfg with ports := ports, disabled := false }

section Stored

variable {cfg : SimSflowCfg} {options : OfprotoSflowOptions}

theorem Stored.zero : Stored .zero none := ⟨rfl, rfl⟩

theorem free_strdup (s : Option String) : ∃ t, (CString.strdup s).free = .ok t := by
  cases s with
  | none => exact ⟨.null, rfl⟩
  | some s => exact ⟨.freed, rfl⟩

theorem stringIsEqual_strdup (s t : Option String) :
    stringIsEqual s (.strdup t) = .ok (s = t : Bool) := by
  cases s with
  | none =>
    cases t with
    | none => rfl
    | some t => rfl
  | some s =>
    cases t with
    | none => rfl
    | some t => simp [stringIsEqual, CString.strdup]

/-- Nothing is freed twice, and what is left of the configuration has no targets. -/
theorem Stored.clear {o : Option OfprotoSflowOptions} (h : Stored cfg o) :
    ∃ cfg', sflowCfgClear cfg = .ok cfg' ∧ cfg'.set = false ∧ cfg'.targets = ∅ := by
  cases o with
  | none => exact ⟨cfg, by simp [sflowCfgClear, h.1], h⟩
  | some options =>
    obtain ⟨-, ports, hcfg⟩ := h
    obtain ⟨device, hdevice⟩ := free_strdup options.agentDevice
    obtain ⟨ip, hip⟩ := free_strdup options.agentIp
    rw [hcfg]
    simp only [sflowCfgClear, sflowCfgSet, if_true, hdevice, hip, Except.ok_bind]
    exact ⟨_, rfl, rfl, rfl⟩

/-- The comparison never follows a freed string, and finds out whether the options changed. -/
theorem Stored.equal {o : Option OfprotoSflowOptions} (h : Stored cfg o)
    (henabling : options.Enabling) :
    sflowCfgEqual options cfg = .ok (o = some options : Bool) := by
  cases o with
  | none => simp [sflowCfgEqual, h.2, henabling.1]
  | some options' =>
    obtain ⟨-, ports, hcfg⟩ := h
    rw [hcfg, sflowCfgEqual]
    simp only [sflowCfgSet, stringIsEqual_strdup, Except.ok_bind, Option.some.injEq]
    have hsame : options' = options ↔ (options.targets = options'.targets ∧
        options.samplingRate = options'.samplingRate ∧
        options.pollingInterval = options'.pollingInterval ∧
        options.headerLen = options'.headerLen ∧ options.maxDatagram = options'.maxDatagram) ∧
        options.agentDevice = options'.agentDevice ∧ options.agentIp = options'.agentIp := by
      rw [eq_comm, OfprotoSflowOptions.ext_iff]
      simp only [and_assoc]
    simp only [hsame]
    split
    case isTrue h =>
      by_cases hdevice : options.agentDevice = options'.agentDevice <;> simp [h, hdevice]
    case isFalse h => simp [h]

theorem Stored.eq_none_of_disabled {o : Option OfprotoSflowOptions} (h : Stored cfg o)
    (hdisabled : cfg.disabled = true) : o = none := by
  cases o with
  | none => rfl
  | some options =>
    obtain ⟨-, ports, hcfg⟩ := h
    rw [hcfg] at hdisabled
    cases hdisabled

end Stored

/-! ## Requests and commands -/

section Requests

variable {env : Env} {w : World} {node : Node}

theorem enabling_pos {options : OfprotoSflowOptions} (h : options.Enabling) :
    enabling (some options) = some options := by
  simp [enabling, h]

theorem of_enabling_eq_some {request : Option OfprotoSflowOptions} {options : OfprotoSflowOptions}
    (h : enabling request = some options) : request = some options ∧ options.Enabling := by
  obtain ⟨hrequest, henabling⟩ := Option.filter_eq_some_iff.mp h
  exact ⟨hrequest, of_decide_eq_true henabling⟩

theorem setSflow_of_enabling_none {request : Option OfprotoSflowOptions}
    (h : enabling request = none) : setSflow env w node request = sflowDisable env w node := by
  cases request with
  | none => rfl
  | some options =>
    have hnot : ¬ options.Enabling := by
      intro hen
      rw [enabling_pos hen] at h
      cases h
    rw [setSflow, if_neg hnot]

end Requests

/-- An environment in which no command fails that can be carried out. -/
def sortedEnv : Env where
  fails _ _ := false
  cut _ _ m := (m, false)
  opens _ := true
  order _ set := set.sort (· ≤ ·)
  order_nodup _ set := set.sort_nodup (· ≤ ·)
  mem_order _ _ _ := Finset.mem_sort _
  probability _ := "0.001000000000"

end ContainerPlugin.Sflow
