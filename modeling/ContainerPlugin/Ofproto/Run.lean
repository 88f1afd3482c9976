import Mathlib.Logic.Relation
import ContainerPlugin.Ofproto.Mirror

/-!
# Runs of the provider

The calls that a client makes on one ofproto, the state in which `construct` leaves it, and the
states that a run reaches.
-/

namespace ContainerPlugin.Ofproto

inductive Op where
  | bundleSet (aux : Ptr) (settings : Option OfprotoBundleSettings)
  | bundleRemove (port : OfpPort)
  | setVlan (vid : ℤ) (add : Bool)
  | mirrorSet (aux : Ptr) (settings : Option OfprotoMirrorSettings)

/-- The calls on bundles and VLANs. -/
def Op.OnBundles : Op → Prop
  | .mirrorSet .. => False
  | _ => True

instance : ∀ op : Op, Decidable op.OnBundles
  | .mirrorSet .. => inferInstanceAs (Decidable False)
  | .bundleSet .. | .bundleRemove _ | .setVlan .. => inferInstanceAs (Decidable True)

/-- The state a call leaves. `bundle_remove` is given a port that exists. -/
def step (env : Env) (s : State) : Op → Except Fault State
  | .bundleSet aux settings => (bundleSet env s aux settings).map Prod.fst
  | .bundleRemove p => if p ∈ s.ports then bundleRemove env s p else .ok s
  | .setVlan vid add => setVlan env s vid add
  | .mirrorSet aux settings => (mirrorSet env s aux settings).map Prod.fst

def run (env : Env) (s : State) (ops : List Op) : Except Fault State := ops.foldlM (step env) s

theorem run_cons_eq_ok {env : Env} {s s' : State} {op : Op} {ops : List Op}
    (h : run env s (op :: ops) = .ok s') :
    ∃ s₁, step env s op = .ok s₁ ∧ run env s₁ ops = .ok s' := by
  rw [run, List.foldlM_cons] at h
  cases hstep : step env s op with
  | error e =>
    rw [hstep] at h
    cases h
  | ok s₁ =>
    rw [hstep] at h
    exact ⟨s₁, rfl, h⟩

def Mbridge.empty : Mbridge := ⟨fun _ => none, [], fun _ => 0, false, false⟩

/-- A state after `construct` with ports that are in no bundle: nothing is configured, and the trunks
of the bridge are `0`. -/
structure Initial (s : State) : Prop where
  bundles : s.bundles = []
  mbridge : s.mbridge = .empty
  vlansBmp : s.vlansBmp = ∅
  vlanIntfBmp : s.vlanIntfBmp = ∅
  bundle : ∀ p ∈ s.ports, (s.port p).bundle = none
  iptableRulesAdded : ∀ p ∈ s.ports, (s.port p).iptableRulesAdded = false
  iptables : ∀ p ∈ s.ports, ∀ chain, (chain, (s.port p).name) ∉ s.world.iptables
  asicPorts : ∀ n, s.world.asic.ports n = none
  bridgeTrunks : s.world.asic.bridgeTrunks = [0]
  asicMirrors : s.world.asic.mirrors = []

/-- A call that meets `C`, a condition on the state before, the call and the state after. -/
def Move (env : Env) (C : State → Op → State → Prop) (s s' : State) : Prop :=
  ∃ op, step env s op = .ok s' ∧ C s op s'

/-- `s'` is reached from `s` by calls that all meet `C`. -/
def Reaches (env : Env) (C : State → Op → State → Prop) : State → State → Prop :=
  Relation.ReflTransGen (Move env C)

/-- The run returns, and all its calls meet `C`. -/
def RunMeets (env : Env) (C : State → Op → State → Prop) : State → List Op → Prop
  | _, [] => True
  | s, op :: ops =>
    match step env s op with
    | .ok s' => C s op s' ∧ RunMeets env C s' ops
    | .error _ => False

instance RunMeets.decidable (env : Env) (C : State → Op → State → Prop)
    [∀ s op s', Decidable (C s op s')] : ∀ s ops, Decidable (RunMeets env C s ops)
  | _, [] => inferInstanceAs (Decidable True)
  | s, op :: ops =>
    match h : step env s op with
    | .ok s' =>
      have := RunMeets.decidable env C s' ops
      decidable_of_iff (C s op s' ∧ RunMeets env C s' ops) (by rw [RunMeets, h])
    | .error _ => .isFalse (by rw [RunMeets, h]; exact id)

section Reaches

variable {env : Env} {C : State → Op → State → Prop} {s₀ s : State}

theorem Reaches.invariant {I : State → Prop} (h : Reaches env C s₀ s) (h₀ : I s₀)
    (hstep : ∀ s op s', I s → C s op s' → step env s op = .ok s' → I s') : I s := by
  induction h with
  | refl => exact h₀
  | tail _ hmove ih =>
    obtain ⟨op, hop, hC⟩ := hmove
    exact hstep _ op _ ih hC hop

theorem Reaches.mono {D : State → Op → State → Prop} (h : Reaches env C s₀ s)
    (hCD : ∀ s op s', C s op s' → D s op s') : Reaches env D s₀ s := by
  induction h with
  | refl => exact .refl
  | tail _ hmove ih =>
    obtain ⟨op, hstep, hC⟩ := hmove
    exact ih.tail ⟨op, hstep, hCD _ op _ hC⟩

/-- A run whose calls meet `C` reaches its last state. -/
theorem Reaches.of_runMeets {ops : List Op} (h : RunMeets env C s₀ ops) :
    ∃ s, run env s₀ ops = .ok s ∧ Reaches env C s₀ s := by
  induction ops generalizing s₀ with
  | nil => exact ⟨s₀, rfl, .refl⟩
  | cons op ops ih =>
    rw [RunMeets] at h
    split at h
    · rename_i s' hs'
      obtain ⟨s, hrun, hreaches⟩ := ih h.2
      refine ⟨s, ?_, .head ⟨op, hs', h.1⟩ hreaches⟩
      rw [run, List.foldlM_cons, hs']
      exact hrun
    · exact h.elim

/-- The same with what is observed of the last state. -/
theorem Reaches.of_observed {β : Type} {ops : List Op} {observe : State → β} {b : β}
    (h : RunMeets env C s₀ ops) (hobs : (run env s₀ ops).toOption.map observe = some b) :
    ∃ s, run env s₀ ops = .ok s ∧ Reaches env C s₀ s ∧ observe s = b := by
  obtain ⟨s, hrun, hreaches⟩ := Reaches.of_runMeets h
  rw [hrun] at hobs
  exact ⟨s, hrun, hreaches, Option.some.inj hobs⟩

/-- An invariant of the calls made so far and the state they have led to. -/
theorem RunMeets.invariant {I : List Op → State → Prop} {ops : List Op} (h : RunMeets env C s₀ ops)
    (h₀ : I [] s₀) (hstep : ∀ ops s op s', I ops s → C s op s' → step env s op = .ok s' →
      I (ops ++ [op]) s') : ∃ s, run env s₀ ops = .ok s ∧ I ops s := by
  suffices hgen : ∀ ops' s₁, I ops' s₁ → RunMeets env C s₁ ops →
      ∃ s, run env s₁ ops = .ok s ∧ I (ops' ++ ops) s from hgen [] s₀ h₀ h
  clear h
  induction ops with
  | nil => exact fun ops' s₁ hI _ => ⟨s₁, rfl, by rwa [List.append_nil]⟩
  | cons op ops ih =>
    intro ops' s₁ hI h
    rw [RunMeets] at h
    split at h
    · rename_i s' hs'
      obtain ⟨s, hrun, hs⟩ := ih (ops' ++ [op]) s' (hstep ops' s₁ op s' hI h.1 hs') h.2
      refine ⟨s, ?_, by rwa [List.append_assoc] at hs⟩
      rw [run, List.foldlM_cons, hs']
      exact hrun
    · exact h.elim

end Reaches

-- A run is decided in the kernel; no tactic is to start it by unfolding.
attribute [irreducible] RunMeets

/-! ## A sample machine -/

def freshPtr (live : List Ptr) : Ptr := live.foldr max 0 + 1

theorem freshPtr_notMem (live : List Ptr) : freshPtr live ∉ live := by
  have hle : ∀ q ∈ live, q ≤ live.foldr max 0 := by
    induction live with
    | nil => simp
    | cons q live ih =>
      intro q' hq'
      rcases List.mem_cons.mp hq' with rfl | hq'
      · exact le_max_left _ _
      · exact le_trans (ih q' hq') (le_max_right _ _)
  intro hmem
  exact absurd (hle _ hmem) (Nat.not_succ_le_self _)

/-- An environment in which no command fails. -/
def sampleEnv : Env where
  fails _ _ := false
  errno _ _ := 0
  cutOvs _ _ asic := (asic, false)
  cutIptables _ _ rules := (rules, false)
  malloc _ live := freshPtr live
  malloc_fresh _ live := freshPtr_notMem live
  order s := s.bundles
  order_perm _ := .refl _
  smapGetBool smap key dflt :=
    match smap.lookup key with
    | none => dflt
    | some value => if dflt then value.toLower ≠ "false" else value.toLower = "true"

/-- An ofproto `br0`, a bridge or a VRF, with the ports 1 to 3, called `eth1` to `eth3`, and 4, the
internal `vlan10`. -/
def sampleState (vrf : Bool) : State where
  up := 0
  name := "br0"
  vrf := vrf
  ports := [1, 2, 3, 4]
  port p := ⟨if p = 4 then "vlan10" else "eth" ++ toString p, if p = 4 then .internal else .system,
    none, false⟩
  bundles := []
  bundle _ := .fresh 0
  links := ⟨id, id⟩
  mbridge := .empty
  vlansBmp := ∅
  vlanIntfBmp := ∅
  world := ⟨[], ⟨fun _ => none, [0], []⟩, [], []⟩

theorem sampleState_initial (vrf : Bool) : Initial (sampleState vrf) :=
  ⟨rfl, rfl, rfl, rfl, fun _ _ => rfl, fun _ _ => rfl, fun _ _ _ h => (nomatch h),
    fun _ => rfl, rfl, rfl⟩

/-- Access port of VLAN 10. -/
def sampleSettings (name : String) (slaves : List OfpPort) (bond : Bool) : OfprotoBundleSettings :=
  ⟨name, slaves, slaves.length, .access, 10, none, [], bond⟩

end ContainerPlugin.Ofproto
