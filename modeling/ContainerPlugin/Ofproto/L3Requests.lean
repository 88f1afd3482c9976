import ContainerPlugin.Netdev.L3Order
import ContainerPlugin.Ofproto.PortMoves

/-!
# The requests for L3 statistics rules

A port that is linked into a bundle of a VRF has the statistics rules of its netdev created, and a
port that is unlinked has them deleted. The requests for a netdev therefore alternate, and the last
one says whether its port is in a bundle. When the threads that they start are served in order, the
rules of the netdev follow its port.
-/

namespace ContainerPlugin.Ofproto

/-- The requests for a device, in order: `true` to create its rules, `false` to delete them. -/
def World.l3Requests (w : World) (dev : String) : List Bool :=
  (w.l3stats.filter (·.1 = dev)).map (·.2)

/-- The requests start with a creation and alternate. -/
def Alternate (requests : List Bool) : Prop := (false :: requests).IsChain (· ≠ ·)

instance (requests : List Bool) : Decidable (Alternate requests) :=
  inferInstanceAs (Decidable (List.IsChain _ _))

/-- The rules are to be there after the requests. -/
def lastRequest (requests : List Bool) : Bool := requests.getLast?.getD false

/-- The requests of a VRF follow its ports; a bridge makes none for its own. -/
structure L3Follows (s : State) : Prop where
  distinct : ∀ p ∈ s.ports, ∀ p' ∈ s.ports, (s.port p).name = (s.port p').name → p = p'
  bridge : s.vrf = false → ∀ p ∈ s.ports, s.world.l3Requests (s.port p).name = []
  alternate : ∀ p ∈ s.ports, Alternate (s.world.l3Requests (s.port p).name)
  last : s.vrf = true → ∀ p ∈ s.ports,
    lastRequest (s.world.l3Requests (s.port p).name) = (s.port p).bundle.isSome

section Requests

variable {w : World} {dev dev' : String} {create : Bool} {requests : List Bool}

theorem l3Requests_self : (l3statsXtablesRules w dev create).l3Requests dev =
    w.l3Requests dev ++ [create] := by
  simp [World.l3Requests, l3statsXtablesRules]

theorem l3Requests_ne (h : dev' ≠ dev) : (l3statsXtablesRules w dev create).l3Requests dev' =
    w.l3Requests dev' := by
  simp [World.l3Requests, l3statsXtablesRules, h.symm]

@[simp] theorem lastRequest_concat : lastRequest (requests ++ [create]) = create := by
  simp [lastRequest]

/-- A request may follow that asks for the opposite of the last one. -/
theorem Alternate.concat (h : Alternate requests) (hlast : lastRequest requests = !create) :
    Alternate (requests ++ [create]) := by
  rw [Alternate, ← List.cons_append]
  refine h.append (.singleton create) fun b hb c hc => ?_
  obtain rfl : create = c := by simpa using hc
  have hb : lastRequest requests = b := by
    rw [List.getLast?_cons] at hb
    simpa [lastRequest] using hb
  rw [← hb, hlast]
  simp

theorem l3Requests_nil (h : w.l3stats = []) : w.l3Requests dev = [] := by
  simp [World.l3Requests, h]

theorem l3stats_system (env : Env) (w : World) (c : Cmd) :
    (w.system env c).1.l3stats = w.l3stats := by
  cases c <;> rfl

theorem l3stats_enablePortInIptables (env : Env) (w : World) (dev : String) :
    (enablePortInIptables env w dev).l3stats = w.l3stats := by
  simp only [enablePortInIptables, l3stats_system]

theorem l3stats_disablePortInIptables (env : Env) (w : World) (dev : String) :
    (disablePortInIptables env w dev).l3stats = w.l3stats := by
  simp only [disablePortInIptables]
  split
  · rw [l3stats_system]
  · simp only [l3stats_system]

end Requests

section Steps

variable {env : Env} {s s' : State} {p : OfpPort} {q : Ptr}

/-- Where neither the requests nor the owners of the ports change. -/
theorem L3Follows.congr (h : L3Follows s) (hports : s'.ports = s.ports)
    (hname : ∀ p ∈ s.ports, (s'.port p).name = (s.port p).name)
    (hbundle : ∀ p ∈ s.ports, (s'.port p).bundle = (s.port p).bundle) (hvrf : s'.vrf = s.vrf)
    (hl3 : s'.world.l3stats = s.world.l3stats) : L3Follows s' := by
  have hreqs : ∀ dev, s'.world.l3Requests dev = s.world.l3Requests dev := fun dev => by
    rw [World.l3Requests, hl3, World.l3Requests]
  refine ⟨?_, ?_, ?_, fun hv => ?_⟩
  · rw [hports]
    intro p hp p' hp'
    rw [hname p hp, hname p' hp']
    exact h.distinct p hp p' hp'
  · rw [hports]
    intro hv p hp
    rw [hname p hp, hreqs]
    exact h.bridge (hvrf ▸ hv) p hp
  · rw [hports]
    intro p hp
    rw [hname p hp, hreqs]
    exact h.alternate p hp
  · rw [hports]
    intro p hp
    rw [hname p hp, hreqs, hbundle p hp]
    exact h.last (hvrf ▸ hv) p hp

/-- One port changes its owner, and the request that goes with it is made. -/
theorem L3Follows.request {port : SimProviderOfport} {create : Bool} (h : L3Follows s)
    (hp : p ∈ s.ports) (hold : (s.port p).bundle.isSome = !create) (hports : s'.ports = s.ports)
    (hport : s'.port = Function.update s.port p port) (hname : port.name = (s.port p).name)
    (hnew : port.bundle.isSome = create) (hvrf : s'.vrf = s.vrf)
    (hl3 : s'.world.l3stats = if s.vrf then s.world.l3stats ++ [((s.port p).name, create)]
      else s.world.l3stats) : L3Follows s' := by
  have hself : s'.port p = port := by rw [hport, Function.update_self]
  have hother : ∀ p', p' ≠ p → s'.port p' = s.port p' := fun p' hpp => by
    rw [hport, Function.update_of_ne hpp]
  have hnames : ∀ p', (s'.port p').name = (s.port p').name := by
    intro p'
    by_cases hpp : p' = p
    · rw [hpp, hself, hname]
    · rw [hother p' hpp]
  have hdistinct : ∀ p ∈ s'.ports, ∀ p' ∈ s'.ports, (s'.port p).name = (s'.port p').name → p = p' := by
    intro p₁ h₁ p₂ h₂
    rw [hports] at h₁ h₂
    rw [hnames, hnames]
    exact h.distinct p₁ h₁ p₂ h₂
  cases hv : s.vrf with
  | false =>
    rw [hv] at hl3 hvrf
    have hreqs : s'.world.l3Requests = s.world.l3Requests := by
      funext dev
      rw [World.l3Requests, hl3]
      rfl
    refine ⟨hdistinct, fun _ => ?_, ?_, fun hv' => ?_⟩
    · rw [hports]
      intro p' hp'
      rw [hnames, hreqs]
      exact h.bridge hv p' hp'
    · rw [hports]
      intro p' hp'
      rw [hnames, hreqs]
      exact h.alternate p' hp'
    · rw [hvrf] at hv'
      cases hv'
  | true =>
    rw [hv] at hl3 hvrf
    have hreqs : s'.world.l3Requests = (l3statsXtablesRules s.world (s.port p).name create).l3Requests := by
      funext dev
      rw [World.l3Requests, hl3]
      rfl
    have hne : ∀ p' ∈ s.ports, p' ≠ p → (s.port p').name ≠ (s.port p).name :=
      fun p' hp' hpp heq => hpp (h.distinct p' hp' p hp heq)
    refine ⟨hdistinct, fun hv' => ?_, ?_, fun _ => ?_⟩
    · rw [hvrf] at hv'
      cases hv'
    · rw [hports]
      intro p' hp'
      rw [hnames, hreqs]
      by_cases hpp : p' = p
      · subst hpp
        rw [l3Requests_self]
        exact (h.alternate p' hp').concat ((h.last hv p' hp').trans hold)
      · rw [l3Requests_ne (hne p' hp' hpp)]
        exact h.alternate p' hp'
    · rw [hports]
      intro p' hp'
      rw [hnames, hreqs]
      by_cases hpp : p' = p
      · subst hpp
        rw [l3Requests_self, lastRequest_concat, hself, hnew]
      · rw [l3Requests_ne (hne p' hp' hpp), hother p' hpp]
        exact h.last hv p' hp'

/-- The requests follow the ports through each of the steps. -/
theorem l3Follows_portInvariant (env : Env) :
    PortInvariant env (fun _ => True) L3Follows where
  congr h hports hport hvrf hworld := by
    refine h.congr hports ?_ ?_ hvrf (by rw [hworld])
    · exact fun _ _ => by rw [hport]
    · exact fun _ _ => by rw [hport]
  system _ h := h.congr rfl (fun _ _ => rfl) (fun _ _ => rfl) rfl (l3stats_system ..)
  detach {s p} hp hb h := by
    have hold : (s.port p).bundle.isSome = !false := by
      simpa [Option.isSome_iff_ne_none] using hb
    refine h.request hp hold rfl rfl rfl rfl rfl ?_
    simp only [detachPort]
    split <;> split <;> simp only [l3statsXtablesRules, l3stats_enablePortInIptables]
  attach {s q p} _ hp hb h := by
    have hold : (s.port p).bundle.isSome = !true := by simp [hb]
    refine h.request hp hold rfl rfl rfl rfl rfl ?_
    simp only [attachPort]
    split
    · rfl
    · rfl
  block {s p} hp hb hvrf h := by
    rw [blockPort]
    split
    · exact h
    · refine h.congr rfl (fun p' _ => ?_) (fun p' _ => ?_) rfl (l3stats_disablePortInIptables ..)
      · by_cases hpp : p' = p
        · simp [hpp]
        · simp [hpp]
      · by_cases hpp : p' = p
        · simp [hpp]
        · simp [hpp]

/-- Nothing was asked for, and no port is in a bundle. -/
theorem l3Follows_unlinked (hbundle : ∀ p ∈ s.ports, (s.port p).bundle = none)
    (hl3 : s.world.l3stats = [])
    (hdistinct : ∀ p ∈ s.ports, ∀ p' ∈ s.ports, (s.port p).name = (s.port p').name → p = p') :
    L3Follows s := by
  refine ⟨hdistinct, fun _ _ _ => l3Requests_nil hl3, fun p _ => ?_, fun _ p hp => ?_⟩
  · rw [l3Requests_nil hl3]
    exact .singleton false
  · rw [l3Requests_nil hl3, hbundle p hp]
    rfl

/-- In every state that is reached. -/
theorem Initial.l3Follows_of_reaches {s₀ : State} (h₀ : Initial s₀) (hl3 : s₀.world.l3stats = [])
    (hdistinct : ∀ p ∈ s₀.ports, ∀ p' ∈ s₀.ports, (s₀.port p).name = (s₀.port p').name → p = p')
    (h : Reaches env Sound s₀ s) : L3Follows s :=
  ((l3Follows_portInvariant env).reaches h₀.wf (fun _ _ _ hsound => hsound)
    (l3Follows_unlinked h₀.bundle hl3 hdistinct) h).2

theorem L3Follows.lastRequest_iff (h : L3Follows s) (hp : p ∈ s.ports) :
    lastRequest (s.world.l3Requests (s.port p).name) = true ↔
      s.vrf = true ∧ (s.port p).bundle ≠ none := by
  cases hvrf : s.vrf with
  | false =>
    rw [h.bridge hvrf p hp]
    simp [lastRequest]
  | true =>
    rw [h.last hvrf p hp]
    simp [Option.isSome_iff_ne_none]

end Steps

/-- The requests for the netdev of a port start with the creation of its rules and alternate, and
they end with a creation exactly if the port is in a bundle of a VRF. -/
theorem l3_requests_follow_membership (env : Env) {s₀ s : State} (h₀ : Initial s₀)
    (hl3 : s₀.world.l3stats = [])
    (hdistinct : ∀ p ∈ s₀.ports, ∀ p' ∈ s₀.ports, (s₀.port p).name = (s₀.port p').name → p = p')
    (h : Reaches env Sound s₀ s) : ∀ p ∈ s.ports,
      Alternate (s.world.l3Requests (s.port p).name) ∧
        (lastRequest (s.world.l3Requests (s.port p).name) = true ↔
          s.vrf = true ∧ (s.port p).bundle ≠ none) := by
  intro p hp
  have hfollows := h₀.l3Follows_of_reaches hl3 hdistinct h
  exact ⟨hfollows.alternate p hp, hfollows.lastRequest_iff hp⟩

/-- A port of a VRF is moved from one bundle to another, which makes three requests. -/
theorem l3_requests_of_moved_port : ∃ s,
    run sampleEnv (sampleState true) [.bundleSet 100 (some (sampleSettings "eth1" [1] false)),
      .bundleSet 101 (some (sampleSettings "eth2" [1, 2] false))] = .ok s ∧
    s.world.l3Requests "eth1" = [true, false, true] ∧
    ∀ p ∈ s.ports, Alternate (s.world.l3Requests (s.port p).name) := by
  let ops : List Op := [.bundleSet 100 (some (sampleSettings "eth1" [1] false)),
    .bundleSet 101 (some (sampleSettings "eth2" [1, 2] false))]
  have hmeets : RunMeets sampleEnv Sound (sampleState true) ops := by decide +kernel
  have hobs : (run sampleEnv (sampleState true) ops).toOption.map
      (fun s => s.world.l3Requests "eth1") = some [true, false, true] := by decide +kernel
  obtain ⟨s, hrun, hreaches, hreqs⟩ := Reaches.of_observed hmeets hobs
  exact ⟨s, hrun, hreqs, fun p hp => (l3_requests_follow_membership sampleEnv
    (sampleState_initial true) rfl (by decide +kernel) hreaches p hp).1⟩

/-! ## The threads of the requests -/

section Threads

open Netdev Runs

/-- The handler of the thread that a request starts. -/
def l3Handler (create : Bool) : Handler := if create then .create else .delete

theorem l3Handler_inj : Function.Injective l3Handler := by
  intro b c h
  cases b <;> cases c <;> first | rfl | cases h

/-- A netdev without threads whose port has made these requests. -/
theorem Alternate.alternating {requests : List Bool} (h : Alternate requests) (ifName : String)
    (tables : XtablesWorld) : Alternating (.construct ifName tables) (requests.map l3Handler)
      (l3Handler (lastRequest requests)) := by
  have hmap : (Handler.delete :: requests.map l3Handler) = (false :: requests).map l3Handler := rfl
  refine ⟨rfl, ?_, ?_⟩
  · have hchain : ((false :: requests).map l3Handler).IsChain (· ≠ ·) :=
      List.isChain_map_of_isChain l3Handler (fun _ _ hne => l3Handler_inj.ne hne) h
    rwa [← hmap] at hchain
  · have hlast : (false :: requests).getLast? = some (lastRequest requests) := by
      rw [List.getLast?_cons, lastRequest]
    have hlast' := congrArg (Option.map l3Handler) hlast
    rwa [← List.getLast?_map, ← hmap] at hlast'

/-- When the threads of a netdev are served in order, each of them finds the mutex free, and once all
of them have run, the rules of the netdev are there exactly once if its port is in a bundle of a VRF,
and not at all otherwise. -/
theorem l3_rules_follow_membership (env : Env) {fails : List XtablesCmd → XtablesCmd → Bool}
    (hfails : ∀ log c, fails log c = false) {s₀ s : State} (h₀ : Initial s₀)
    (hl3 : s₀.world.l3stats = [])
    (hdistinct : ∀ p ∈ s₀.ports, ∀ p' ∈ s₀.ports, (s₀.port p).name = (s₀.port p').name → p = p')
    (h : Reaches env Sound s₀ s) {p : OfpPort} (hp : p ∈ s.ports) (ifName : String)
    (tables : XtablesWorld)
    (hempty : ∀ x chain filter type, Rule.pkttype filter ifName type ∉ tables.rules x chain)
    {es : List ThreadEvent} (hes : ∀ e ∈ es, InOrder e)
    (hrequests : requested es = (s.world.l3Requests (s.port p).name).map l3Handler) :
    Always (L3Stats.step fails) (L3Stats.Free fails) (.construct ifName tables) es ∧
      ((es.foldl (L3Stats.step fails) (.construct ifName tables)).pending = [] →
        Converged (if s.vrf = true ∧ (s.port p).bundle ≠ none then 1 else 0) ifName tables
          (es.foldl (L3Stats.step fails) (.construct ifName tables)).world) := by
  have hfollows := h₀.l3Follows_of_reaches hl3 hdistinct h
  have halternating := (hfollows.alternate p hp).alternating ifName tables
  rw [← hrequests] at halternating
  obtain ⟨hwork, hend⟩ : Along (L3Stats.step fails) FindsWork (.construct ifName tables) es ∧
      Alternating (es.foldl (L3Stats.step fails) (.construct ifName tables)) [] _ :=
    halternating.run hes
  have hstep : ∀ s e, s.Free fails → FindsWork s e → (s.step fails e).Free fails :=
    fun s e hfree hwork => (hfree.step_iff e).mpr hwork
  refine ⟨.of_along hstep (.of_unlocked rfl) hwork, fun hpending => ?_⟩
  have hmatch : RulesMatch ifName tables (.construct ifName tables) :=
    ⟨rfl, fun x chain filter type _ => List.count_eq_zero.mpr (hempty x chain filter type),
      fun _ _ => rfl⟩
  have hrules := (hmatch.run hfails rfl hwork).rules
  rw [hend.l3StatsEnabled hpending] at hrules
  have hlast : l3Handler (lastRequest (s.world.l3Requests (s.port p).name)) = .create ↔
      s.vrf = true ∧ (s.port p).bundle ≠ none := by
    rw [← hfollows.lastRequest_iff hp]
    exact l3Handler_inj.eq_iff (b := true)
  simpa only [hlast, decide_eq_true_eq] using hrules

/-- The three requests of a moved port, with one thread run before the last of them is made. -/
theorem l3_rules_of_moved_port : ∃ s,
    run sampleEnv (sampleState true) [.bundleSet 100 (some (sampleSettings "eth1" [1] false)),
      .bundleSet 101 (some (sampleSettings "eth2" [1, 2] false))] = .ok s ∧
    let es : List ThreadEvent := [.request .create, .request .delete, .schedule 0, .request .create,
      .schedule 0, .schedule 0]
    Always (L3Stats.step fun _ _ => false) (L3Stats.Free fun _ _ => false)
        (.construct "1" ⟨fun _ _ => [], []⟩) es ∧
      Converged 1 "1" ⟨fun _ _ => [], []⟩
        (es.foldl (L3Stats.step fun _ _ => false) (.construct "1" ⟨fun _ _ => [], []⟩)).world := by
  let ops : List Op := [.bundleSet 100 (some (sampleSettings "eth1" [1] false)),
    .bundleSet 101 (some (sampleSettings "eth2" [1, 2] false))]
  have hmeets : RunMeets sampleEnv Sound (sampleState true) ops := by decide +kernel
  have hobs : (run sampleEnv (sampleState true) ops).toOption.map (fun s =>
      (decide (1 ∈ s.ports), s.world.l3Requests (s.port 1).name,
        decide (s.vrf = true ∧ (s.port 1).bundle ≠ none))) =
        some (true, [true, false, true], true) := by decide +kernel
  obtain ⟨s, hrun, hreaches, hs⟩ := Reaches.of_observed hmeets hobs
  simp only [Prod.mk.injEq, decide_eq_true_eq] at hs
  obtain ⟨hp, hreqs, hbundle⟩ := hs
  have hes : ∀ e ∈ [.request .create, .request .delete, .schedule 0, .request .create, .schedule 0,
      .schedule 0], InOrder e := by decide
  obtain ⟨hfree, hrules⟩ := l3_rules_follow_membership sampleEnv (fun _ _ => rfl)
    (sampleState_initial true) rfl (by decide +kernel) hreaches hp "1" ⟨fun _ _ => [], []⟩
    (fun _ _ _ _ => List.not_mem_nil) hes (by rw [hreqs]; rfl)
  rw [if_pos hbundle] at hrules
  exact ⟨s, hrun, hfree, hrules (by decide +kernel)⟩

end Threads

end ContainerPlugin.Ofproto
