import ContainerPlugin.Ofproto.PortMoves
import ContainerPlugin.Ofproto.Safety
import ContainerPlugin.Ofproto.VlanSync

/-!
# The columns in the ASIC

`init` of `sim-plugins.c` empties the ASIC whenever the daemon starts. If one of its commands fails, a
provider finds the ports of an earlier run, and `--may-exist add-port` does not touch a port that is
there. Apart from such leftovers, the port of a bundle has at all times exactly the columns that its
settings and the enabled VLANs ask for.
-/

namespace ContainerPlugin.Ofproto

/-- `init` of `sim-plugins.c`, which only logs a failure: the server comes back with an empty database if
it was stopped and the file is gone. -/
def Asic.init (stopped gone : Bool) (a : Asic) : Asic :=
  if stopped && gone then ⟨fun _ => none, [], []⟩ else a

/-- `construct`, with commands that succeed: the bridge may be there already, and its trunks are set. -/
def Asic.construct (a : Asic) : Asic := { a with bridgeTrunks := [0] }

/-- A port of an earlier run is gone or as it was. -/
theorem Asic.ports_construct_init (stopped gone : Bool) (a : Asic) (n : String) :
    (a.init stopped gone).construct.ports n = none ∨
      (a.init stopped gone).construct.ports n = a.ports n := by
  rw [Asic.construct, Asic.init]
  split
  · exact .inl rfl
  · exact .inr rfl

/-- A provider after `construct`, with ports that are in no bundle. Unlike an `Initial` state it may
find anything in the world. -/
structure Constructed (s : State) : Prop where
  bundles : s.bundles = []
  mbridge : s.mbridge = .empty
  vlansBmp : s.vlansBmp = ∅
  vlanIntfBmp : s.vlanIntfBmp = ∅
  bundle : ∀ p ∈ s.ports, (s.port p).bundle = none
  iptableRulesAdded : ∀ p ∈ s.ports, (s.port p).iptableRulesAdded = false

theorem Initial.constructed {s : State} (h : Initial s) : Constructed s :=
  ⟨h.bundles, h.mbridge, h.vlansBmp, h.vlanIntfBmp, h.bundle, h.iptableRulesAdded⟩

/-- Memory does not depend on the world. -/
theorem Constructed.wf {s : State} (h : Constructed s) : s.WF := by
  have hblank : Initial { s with world := ⟨[], ⟨fun _ => none, [0], []⟩, [], []⟩ } :=
    ⟨h.bundles, h.mbridge, h.vlansBmp, h.vlanIntfBmp, h.bundle, h.iptableRulesAdded,
      fun _ _ _ => List.not_mem_nil, fun _ => rfl, rfl, rfl⟩
  exact ⟨hblank.wf.toListsWF.congr rfl (fun _ _ => rfl) rfl (fun _ => rfl) rfl, hblank.wf.mbridge⟩

/-- Where no bundle has put a port there is none, or the one that was there at the start. -/
def Undisturbed (left : String → Option PortColumns) (s : State) : Prop :=
  ∀ n, (∀ q ∈ s.bundles, (s.bundle q).isAddedToSimOvs = true → (s.bundle q).name ≠ n) →
    s.world.asic.ports n = none ∨ s.world.asic.ports n = left n

/-- The bundle is marked exactly if it is to be in the ASIC, and then it is there with the columns that
it wants, or with those that were left. -/
structure ColumnsOf (left : String → Option PortColumns) (s : State) (q : Ptr) : Prop where
  marked : (s.bundle q).isAddedToSimOvs = (s.wantedPort q).isSome
  columns : (s.bundle q).isAddedToSimOvs = true →
    s.world.asic.ports (s.bundle q).name = s.wantedPort q ∨
      left (s.bundle q).name ≠ none ∧
        s.world.asic.ports (s.bundle q).name = left (s.bundle q).name

section ColumnsOf

variable {env : Env} {left : String → Option PortColumns} {s s' : State} {q q' : Ptr}

theorem State.wantedPort_congr
    (hmember : (∃ p ∈ s'.ports, (s'.port p).bundle = some q) ↔
      ∃ p ∈ s.ports, (s.port p).bundle = some q)
    (hcolumns : wantedColumns s'.vlansBmp (s'.bundle q) = wantedColumns s.vlansBmp (s.bundle q)) :
    s'.wantedPort q = s.wantedPort q := by
  simp only [State.wantedPort, hmember, hcolumns]

/-- The name and the mark are the same, and so is what is wanted and what is there. -/
theorem ColumnsOf.congr (h : ColumnsOf left s q)
    (hadded : (s'.bundle q).isAddedToSimOvs = (s.bundle q).isAddedToSimOvs)
    (hname : (s.bundle q).isAddedToSimOvs = true → (s'.bundle q).name = (s.bundle q).name)
    (hwanted : s'.wantedPort q = s.wantedPort q)
    (hport : (s.bundle q).isAddedToSimOvs = true →
      s'.world.asic.ports (s.bundle q).name = s.world.asic.ports (s.bundle q).name) :
    ColumnsOf left s' q := by
  refine ⟨by rw [hadded, hwanted, h.marked], fun hmark => ?_⟩
  rw [hadded] at hmark
  rw [hname hmark, hport hmark, hwanted]
  exact h.columns hmark

theorem Undisturbed.congr (h : Undisturbed left s) (hports : s'.world.asic.ports = s.world.asic.ports)
    (hmarked : ∀ q n, (q ∈ s.bundles ∧ (s.bundle q).isAddedToSimOvs = true ∧
      (s.bundle q).name = n) → (q ∈ s'.bundles ∧ (s'.bundle q).isAddedToSimOvs = true ∧
        (s'.bundle q).name = n)) : Undisturbed left s' := by
  intro n hn
  rw [hports]
  refine h n fun q hq hmark hname => ?_
  obtain ⟨hq', hmark', hname'⟩ := hmarked q n ⟨hq, hmark, hname⟩
  exact hn q hq' hmark' hname'

/-! ## `bundle_configure` -/

/-- Before the port of the bundle is added, nothing has its name, or an unmarked bundle finds a port
that is not its own. -/
theorem State.ports_asicCleared_self (ps : List OfpPort) :
    (s.asicCleared q ps).ports (s.bundle q).name = none ∨ (s.bundle q).isAddedToSimOvs = false ∧
      (s.asicCleared q ps).ports (s.bundle q).name = s.world.asic.ports (s.bundle q).name := by
  have hdel : (s.asicDel q).ports (s.bundle q).name = none ∨ (s.bundle q).isAddedToSimOvs = false ∧
      (s.asicDel q).ports (s.bundle q).name = s.world.asic.ports (s.bundle q).name := by
    rw [State.asicDel]
    split
    · exact .inl (Function.update_self ..)
    · exact .inr ⟨(Bool.not_eq_true _).mp ‹_›, rfl⟩
  rw [State.asicCleared]
  split
  · simp only [Asic.delNames]
    split
    · exact .inl rfl
    · exact hdel
  · exact hdel

/-- `bundle_configure` leaves the port that is wanted, or the one that an unmarked bundle found. -/
theorem State.ports_asicConfigured_self (ps : List OfpPort) (hvrf : s.vrf = false) :
    (s.asicConfigured q ps).ports (s.bundle q).name = s.toBeAdded q ps ∨
      (s.bundle q).isAddedToSimOvs = false ∧ s.world.asic.ports (s.bundle q).name ≠ none ∧
        (s.asicConfigured q ps).ports (s.bundle q).name =
          s.world.asic.ports (s.bundle q).name := by
  have hcleared := s.ports_asicCleared_self (q := q) ps
  rw [State.asicConfigured]
  cases hfound : (s.asicCleared q ps).ports (s.bundle q).name with
  | none =>
    refine .inl ?_
    split
    · rename_i columns hadd
      simp [Asic.mayAdd, hfound, hadd]
    · rename_i hadd
      rw [if_neg (by simp [hvrf]), hfound, hadd]
  | some columns =>
    rw [hfound] at hcleared
    obtain ⟨hmark, hold⟩ := hcleared.resolve_left (Option.some_ne_none _)
    refine .inr ⟨hmark, by simp [← hold], ?_⟩
    rw [← hold]
    split
    · simp [Asic.mayAdd, hfound]
    · rw [if_neg (by simp [hvrf]), hfound]

/-- Other ports stay, unless they have the name of a member of a bond. -/
theorem State.ports_asicConfigured_ne (ps : List OfpPort) (hvrf : s.vrf = false) {n : String}
    (hn : n ≠ (s.bundle q).name) : (s.asicConfigured q ps).ports n =
      if 1 < ps.length ∧ n ∈ ps.map (fun p => (s.port p).name) then none
      else s.world.asic.ports n := by
  have hdel : (s.asicDel q).ports n = s.world.asic.ports n := by
    rw [State.asicDel]
    split
    · exact Function.update_of_ne hn ..
    · rfl
  have hcleared : (s.asicCleared q ps).ports n =
      if 1 < ps.length ∧ n ∈ ps.map (fun p => (s.port p).name) then none
      else s.world.asic.ports n := by
    rw [State.asicCleared]
    split
    · rename_i hlen
      simp only [Asic.delNames, hdel, gt_iff_lt.mp hlen, true_and]
    · rename_i hlen
      simp only [hdel, hlen, false_and, if_false]
  rw [State.asicConfigured]
  split
  · rw [← hcleared, Asic.mayAdd]
    split
    · rfl
    · exact Function.update_of_ne hn ..
  · rw [if_neg (by simp [hvrf]), hcleared]

/-- The bundle that is configured is as it is to be. -/
theorem Undisturbed.columnsOf_configured (h : Undisturbed left s) (hwf : s.WF) (hq : q ∈ s.bundles)
    (hvrf : s.vrf = false) (henv : env.Healthy) (hconf : Configured env q s s')
    (hfits : s'.world.Fits) (hname : ∀ q' ∈ s.bundles, q' ≠ q →
      (s.bundle q').isAddedToSimOvs = true → (s.bundle q').name ≠ (s.bundle q).name) :
    ColumnsOf left s' q := by
  obtain ⟨ps, hps⟩ := hwf.members q hq
  obtain ⟨hadded, hasic⟩ := hconf.asic henv hfits ps hps
  have hwanted : s'.wantedPort q = s.toBeAdded q ps := by
    rw [hps.toBeAdded hvrf]
    refine State.wantedPort_congr ?_ ?_
    · rw [hconf.ports]
      simp only [hconf.port]
    · rw [hconf.vlansBmp, hconf.bundle_self]
      rfl
  have hself : (s'.bundle q).name = (s.bundle q).name := by rw [hconf.bundle_self]
  refine ⟨by rw [hadded, hwanted], fun _ => ?_⟩
  rw [hself, hasic, hwanted]
  refine (s.ports_asicConfigured_self ps hvrf).imp_right ?_
  rintro ⟨hmark, hsome, hold⟩
  have hleft : s.world.asic.ports (s.bundle q).name = left (s.bundle q).name := by
    refine (h _ fun q' hq' hmark' hname' => ?_).resolve_left hsome
    by_cases hqq : q' = q
    · rw [hqq, hmark] at hmark'
      cases hmark'
    · exact hname q' hq' hqq hmark' hname'
  exact ⟨hleft ▸ hsome, hold.trans hleft⟩

/-- The other bundles are as they were, unless they lose a port along with the members of a bond. -/
theorem ColumnsOf.configured (h : ColumnsOf left s q') (hwf : s.WF) (hq : q ∈ s.bundles)
    (hvrf : s.vrf = false) (henv : env.Healthy) (hconf : Configured env q s s')
    (hfits : s'.world.Fits) (hne : q' ≠ q)
    (hname : (s.bundle q').isAddedToSimOvs = true → (s.bundle q').name ≠ (s.bundle q).name)
    (hmember : ∀ ps, s.Members q ps → 1 < ps.length → (s.bundle q').isAddedToSimOvs = true →
      (s.bundle q').name ∉ ps.map fun p => (s.port p).name) : ColumnsOf left s' q' := by
  obtain ⟨ps, hps⟩ := hwf.members q hq
  obtain ⟨-, hasic⟩ := hconf.asic henv hfits ps hps
  have hbundle := hconf.bundle_ne q' hne
  refine h.congr (by rw [hbundle]) (fun _ => by rw [hbundle]) (State.wantedPort_congr ?_ ?_) ?_
  · rw [hconf.ports]
    simp only [hconf.port]
  · rw [hconf.vlansBmp, hbundle]
  · intro hmark
    rw [hasic, State.ports_asicConfigured_ne ps hvrf (hname hmark),
      if_neg fun hmem => hmember ps hps hmem.1 hmark hmem.2]

theorem Undisturbed.configured (h : Undisturbed left s) (hwf : s.WF) (hq : q ∈ s.bundles)
    (hvrf : s.vrf = false) (henv : env.Healthy) (hconf : Configured env q s s')
    (hfits : s'.world.Fits) : Undisturbed left s' := by
  obtain ⟨ps, hps⟩ := hwf.members q hq
  obtain ⟨hadded, hasic⟩ := hconf.asic henv hfits ps hps
  intro n hn
  rw [hconf.bundles] at hn
  have hold : ((s.bundle q).isAddedToSimOvs = true → (s.bundle q).name ≠ n) →
      s.world.asic.ports n = none ∨ s.world.asic.ports n = left n := by
    intro hqn
    refine h n fun q' hq' hmark => ?_
    by_cases hqq : q' = q
    · rw [hqq] at hmark ⊢
      exact hqn hmark
    · rw [← hconf.bundle_ne q' hqq] at hmark ⊢
      exact hn q' hq' hmark
  rw [hasic]
  by_cases hself : n = (s.bundle q).name
  · subst hself
    rcases s.ports_asicConfigured_self ps hvrf with hwanted | ⟨hmark, -, hfound⟩
    · have hname : (s'.bundle q).name = (s.bundle q).name := by rw [hconf.bundle_self]
      have hnone : (s.toBeAdded q ps).isSome = false := by
        rw [← hadded, ← Bool.not_eq_true]
        exact fun hmark => hn q hq hmark hname
      rw [Option.isSome_eq_false_iff, Option.isNone_iff_eq_none] at hnone
      exact .inl (hwanted.trans hnone)
    · rw [hfound]
      refine hold fun hmark' => ?_
      rw [hmark] at hmark'
      cases hmark'
  · rw [State.ports_asicConfigured_ne ps hvrf hself]
    split
    · exact .inl rfl
    · exact hold fun _ => Ne.symm hself

/-! ## `bundle_destroy` -/

/-- The other bundles want what they wanted. -/
theorem Destroyed.wantedPort (h : Destroyed env q s s') (hne : q' ≠ q) :
    s'.wantedPort q' = s.wantedPort q' := by
  refine State.wantedPort_congr ?_ (by rw [h.vlansBmp, h.bundle q' hne])
  rw [h.ports]
  refine exists_congr fun p => and_congr_right fun hp => ?_
  by_cases hb : (s.port p).bundle = some q
  · rw [h.freed p hp hb, hb]
    simpa using hne.symm
  · rw [h.port p hb]

theorem ColumnsOf.destroyed (h : ColumnsOf left s q') (henv : env.Healthy)
    (hdestroyed : Destroyed env q s s') (hfits : s'.world.Fits) (hne : q' ≠ q)
    (hname : (s.bundle q').isAddedToSimOvs = true → (s.bundle q).isAddedToSimOvs = true →
      (s.bundle q').name ≠ (s.bundle q).name) : ColumnsOf left s' q' := by
  have hbundle := hdestroyed.bundle q' hne
  refine h.congr (by rw [hbundle]) (fun _ => by rw [hbundle]) (hdestroyed.wantedPort hne) ?_
  intro hmark
  rw [hdestroyed.asic henv hfits, State.asicDel]
  split
  · exact Function.update_of_ne (hname hmark ‹_›) ..
  · rfl

theorem Undisturbed.destroyed (h : Undisturbed left s) (hnd : s.bundles.Nodup) (henv : env.Healthy)
    (hdestroyed : Destroyed env q s s') (hfits : s'.world.Fits) : Undisturbed left s' := by
  intro n hn
  have hold : ((s.bundle q).isAddedToSimOvs = true → (s.bundle q).name ≠ n) →
      s.world.asic.ports n = none ∨ s.world.asic.ports n = left n := by
    intro hqn
    refine h n fun q' hq' hmark => ?_
    by_cases hqq : q' = q
    · rw [hqq] at hmark ⊢
      exact hqn hmark
    · rw [← hdestroyed.bundle q' hqq] at hmark ⊢
      exact hn q' (hdestroyed.bundles ▸ hnd.mem_erase_iff.mpr ⟨hqq, hq'⟩) hmark
  rw [hdestroyed.asic henv hfits, State.asicDel]
  split
  · by_cases hself : n = (s.bundle q).name
    · rw [hself]
      exact .inl (Function.update_self ..)
    · dsimp only
      rw [Function.update_of_ne hself]
      exact hold fun _ => Ne.symm hself
  · rename_i hmark
    exact hold fun hmark' => absurd hmark' hmark

/-- While ports are claimed, the ASIC loses the ports of the bundles that are destroyed. -/
theorem ClaimSteps.asicPorts {V : Ptr → Prop} (h : ClaimSteps env V s s') (henv : env.Healthy)
    (hfits : s'.world.Fits) (n : String) : s'.world.asic.ports n =
      if ∃ q ∈ s.bundles, q ∉ s'.bundles ∧ (s.bundle q).isAddedToSimOvs = true ∧
        (s.bundle q).name = n then none else s.world.asic.ports n := by
  induction h with
  | refl =>
    rw [if_neg]
    rintro ⟨q, hq, hgone, -⟩
    exact hgone hq
  | @tail s₁ s' hclaims hstep ih =>
    have hframe := ClaimSteps.frame hclaims
    cases hstep with
    | ports hports =>
      rw [hports.world.asic, hports.bundles]
      exact ih (hfits.of_prefix hports.world.log)
    | @destroy q hwf hq _ hdestroyed =>
      have ih := ih (hfits.of_prefix hdestroyed.steps.log)
      obtain ⟨hq₀, hbundle⟩ := hframe.sub q hq
      have hgone : ∀ q', q' ∉ s'.bundles ↔ q' = q ∨ q' ∉ s₁.bundles := by
        intro q'
        rw [hdestroyed.bundles, hwf.nodup.mem_erase_iff, not_and_or, not_not]
      have hports : s'.world.asic.ports = (s₁.asicDel q).ports := by rw [hdestroyed.asic henv hfits]
      rw [hports, State.asicDel, hbundle]
      by_cases hmark : (s.bundle q).isAddedToSimOvs = true ∧ (s.bundle q).name = n
      · obtain ⟨hmark, rfl⟩ := hmark
        rw [if_pos hmark, if_pos ⟨q, hq₀, (hgone q).mpr (.inl rfl), hmark, rfl⟩]
        exact Function.update_self ..
      · have hsame : (if (s.bundle q).isAddedToSimOvs = true then
            { s₁.world.asic with ports := Function.update s₁.world.asic.ports (s.bundle q).name none }
            else s₁.world.asic).ports n = s₁.world.asic.ports n := by
          split
          · exact Function.update_of_ne (fun hn => hmark ⟨‹_›, hn.symm⟩) ..
          · rfl
        refine (hsame.trans ih).trans (if_congr ?_ rfl rfl)
        refine exists_congr fun q' => and_congr_right fun _ => ?_
        rw [hgone]
        refine ⟨fun hq' => ⟨.inr hq'.1, hq'.2⟩, fun hq' => ⟨hq'.1.resolve_left ?_, hq'.2⟩⟩
        rintro rfl
        exact hmark hq'.2

end ColumnsOf

/-- The bundles that `set_vlan` configures are as they are to be, and the rest of the ASIC is as it was
found. -/
structure AsicColumns (left : String → Option PortColumns) (s : State) : Prop where
  columns : ∀ q ∈ s.bundles, s.IsReconfigured q → ColumnsOf left s q
  undisturbed : Undisturbed left s

/-- The bundles that have a port in the ASIC have names of their own. -/
def MarkedDistinct (s : State) : Prop :=
  ∀ q ∈ s.bundles, ∀ q' ∈ s.bundles, (s.bundle q).isAddedToSimOvs = true →
    (s.bundle q').isAddedToSimOvs = true → (s.bundle q).name = (s.bundle q').name → q = q'

section BundleSet

variable {env : Env} {left : String → Option PortColumns} {s s₁ s₂ s' : State} {aux q q' : Ptr}
  {settings : OfprotoBundleSettings}

/-- The name of a bundle that is in the ASIC is not changed. -/
def State.KeepsName (s : State) (aux : Ptr) (settings : OfprotoBundleSettings) : Prop :=
  ∀ q ∈ s.bundleLookup aux, (s.bundle q).isAddedToSimOvs = true → settings.name = (s.bundle q).name

/-- A marked bundle was there before the call, with its name. -/
theorem Opened.marked_iff (h : Opened env aux settings q s s₁) (hname : s.KeepsName aux settings)
    (q' : Ptr) (n : String) :
    (q' ∈ s₁.bundles ∧ (s₁.bundle q').isAddedToSimOvs = true ∧ (s₁.bundle q').name = n) ↔
      q' ∈ s.bundles ∧ (s.bundle q').isAddedToSimOvs = true ∧ (s.bundle q').name = n := by
  by_cases hqq : q' = q
  · subst hqq
    rcases h.found with ⟨hfind, hbundles, -, hbundle⟩ | ⟨-, hfresh, -, -, hbundle⟩
    · rw [hbundles, hbundle]
      refine and_congr_right fun _ => and_congr_right fun hadded => ?_
      rw [Ofbundle.withSettings, hname q' hfind hadded]
    · simp [hbundle, hfresh, Ofbundle.withSettings, Ofbundle.fresh]
  · rw [h.bundle_ne q' hqq]
    exact and_congr_left fun _ => h.mem_iff hqq

theorem Opened.markedDistinct (h : Opened env aux settings q s s₁)
    (hname : s.KeepsName aux settings) (hnames : NamesDistinct s) : MarkedDistinct s₁ := by
  intro q₁ h₁ q₂ h₂ hmark₁ hmark₂ heq
  obtain ⟨hq₁, -, hn₁⟩ := (h.marked_iff hname q₁ _).mp ⟨h₁, hmark₁, rfl⟩
  obtain ⟨hq₂, -, hn₂⟩ := (h.marked_iff hname q₂ _).mp ⟨h₂, hmark₂, rfl⟩
  exact hnames q₁ hq₁ q₂ hq₂ (hn₁.trans (heq.trans hn₂.symm))

/-- A new bundle wants no port until its VLANs are set. -/
theorem wantedColumns_fresh (vlansBmp : VlanBitmap) (aux : Ptr) (settings : OfprotoBundleSettings) :
    wantedColumns vlansBmp ((Ofbundle.fresh aux).withSettings settings) = none := by
  simp [wantedColumns, Ofbundle.withSettings, Ofbundle.fresh]

theorem Opened.wantedPort (h : Opened env aux settings q s s₁) (hq' : q' ∈ s.bundles) :
    s₁.wantedPort q' = s.wantedPort q' := by
  refine State.wantedPort_congr (by rw [h.frame.ports, h.frame.port]) ?_
  by_cases hqq : q' = q
  · subst hqq
    rcases h.found with ⟨-, -, -, hbundle⟩ | ⟨-, hfresh, -⟩
    · rw [h.vlansBmp, hbundle]
      rfl
    · exact absurd hq' hfresh
  · rw [h.vlansBmp, h.bundle_ne q' hqq]

theorem AsicColumns.opened (h : AsicColumns left s) (hopened : Opened env aux settings q s s₁)
    (hname : s.KeepsName aux settings) : AsicColumns left s₁ where
  columns q' hq' hre := by
    by_cases hqq : q' = q
    · subst hqq
      rcases hopened.found with ⟨hfind, hbundles, -, hbundle⟩ | ⟨-, -, -, -, hbundle⟩
      · have hq := hbundles ▸ hq'
        rw [State.IsReconfigured, hbundle] at hre
        refine (h.columns q' hq hre).congr (by rw [hbundle]; rfl) (fun hmark => ?_)
          (hopened.wantedPort hq) fun _ => by rw [hopened.world]
        rw [hbundle]
        exact hname q' hfind hmark
      · have hmark : (s₁.bundle q').isAddedToSimOvs = false := by rw [hbundle]; rfl
        have hnone : s₁.wantedPort q' = none := by
          rw [State.wantedPort, hbundle, wantedColumns_fresh, ite_self]
        refine ⟨by rw [hmark, hnone]; rfl, fun hmark' => ?_⟩
        rw [hmark] at hmark'
        cases hmark'
    · have hq := (hopened.mem_iff hqq).mp hq'
      have hbundle := hopened.bundle_ne q' hqq
      rw [State.IsReconfigured, hbundle] at hre
      exact (h.columns q' hq hre).congr (by rw [hbundle]) (fun _ => by rw [hbundle])
        (hopened.wantedPort hq) fun _ => by rw [hopened.world]
  undisturbed := h.undisturbed.congr (by rw [hopened.world]) fun q' n =>
    (hopened.marked_iff hname q' n).mpr

/-- The bundles that are left keep their ports in the ASIC while ports are claimed. -/
theorem ColumnsOf.updated (h : ColumnsOf left s₁ q') (henv : env.Healthy)
    (hupdated : Updated env q settings.slaves s₁ s₂) (hfits : s₂.world.Fits)
    (hdistinct : MarkedDistinct s₁) (hq' : q' ∈ s₂.bundles)
    (hwanted : s₂.wantedPort q' = s₁.wantedPort q') : ColumnsOf left s₂ q' := by
  obtain ⟨hq₁, hbundle⟩ := hupdated.claims.frame.sub q' hq'
  refine h.congr (by rw [hbundle]) (fun _ => by rw [hbundle]) hwanted fun hmark => ?_
  rw [ClaimSteps.asicPorts hupdated.claims henv hfits, if_neg]
  rintro ⟨q₂, hq₂, hgone, hmark₂, hname⟩
  exact hgone (hdistinct q₂ hq₂ q' hq₁ hmark₂ hmark hname ▸ hq')

theorem Undisturbed.updated (h : Undisturbed left s₁) (henv : env.Healthy)
    (hupdated : Updated env q settings.slaves s₁ s₂) (hfits : s₂.world.Fits) :
    Undisturbed left s₂ := by
  intro n hn
  rw [ClaimSteps.asicPorts hupdated.claims henv hfits]
  split
  · exact .inl rfl
  · rename_i hkept
    refine h n fun q' hq' hmark hname => hkept ⟨q', hq', fun hlive => ?_, hmark, hname⟩
    have hbundle := (hupdated.claims.frame.sub q' hlive).2
    exact hn q' hlive (by rw [hbundle, hmark]) (by rw [hbundle, hname])

/-- A bundle without a slave keeps its members, and so what it wants. -/
theorem Claimed.wantedPort (h : Claimed env q settings.slaves settings.slaves s₁ s₂)
    (hupdated : Updated env q settings.slaves s₁ s₂) (hne : q' ≠ q) (hq' : q' ∈ s₂.bundles) :
    s₂.wantedPort q' = s₁.wantedPort q' := by
  have hframe := h.claims.frame
  obtain ⟨hq₁, hbundle⟩ := hframe.sub q' hq'
  have hkept := h.kept hq₁ hne fun p hp hmem hb => hupdated.gone q' ⟨hne, p, hp, hmem, hb⟩ hq'
  refine State.wantedPort_congr ?_ (by rw [hframe.vlansBmp, hbundle])
  rw [hframe.ports]
  exact exists_congr fun p => and_congr_right fun hp => hkept.2 p hp

/-- Where only a bundle that `set_vlan` passes over changes, or what does not matter to the ASIC. -/
theorem AsicColumns.congr (h : AsicColumns left s) (hports : s'.world.asic.ports = s.world.asic.ports)
    (hbundles : s'.bundles = s.bundles)
    (hmember : ∀ q, (∃ p ∈ s'.ports, (s'.port p).bundle = some q) ↔
      ∃ p ∈ s.ports, (s.port p).bundle = some q)
    (hmark : ∀ q, (s'.bundle q).isAddedToSimOvs = (s.bundle q).isAddedToSimOvs ∧
      (s'.bundle q).name = (s.bundle q).name)
    (hplain : ∀ q, s'.IsReconfigured q → s.IsReconfigured q ∧
      wantedColumns s'.vlansBmp (s'.bundle q) = wantedColumns s.vlansBmp (s.bundle q)) :
    AsicColumns left s' where
  columns q hq hre := by
    obtain ⟨hre, hcolumns⟩ := hplain q hre
    exact (h.columns q (hbundles ▸ hq) hre).congr (hmark q).1 (fun _ => (hmark q).2)
      (State.wantedPort_congr (hmember q) hcolumns) fun _ => by rw [hports]
  undisturbed := h.undisturbed.congr hports fun q n => by
    rw [hbundles, (hmark q).1, (hmark q).2]
    exact id

/-- The members of the bundle when it is configured are slaves, and the bundles that are left had none
of them. -/
theorem KeepsPorts.member (hkeeps : KeepsPorts s (.bundleSet aux (some settings))) (hwf : s.WF)
    (hopened : Opened env aux settings q s s₁) (hupdated : Updated env q settings.slaves s₁ s₂)
    (hbridge : (s₂.bundle q).isBridgeBundle = false) {ps : List OfpPort} (hps : s₂.Members q ps)
    (hlen : 1 < ps.length) (hq' : q' ∈ s₂.bundles) (hne : q' ≠ q)
    (hmark : (s₂.bundle q').isAddedToSimOvs = true) :
    (s₂.bundle q').name ∉ ps.map fun p => (s₂.port p).name := by
  intro hmem
  obtain ⟨p, hp, hname⟩ := List.mem_map.mp hmem
  obtain ⟨p', hp', hpp⟩ := exists_ne_of_one_lt_length hps.nodup hlen p
  have hframe := hupdated.claims.frame
  have hports : s₂.ports = s.ports := hframe.ports.trans hopened.frame.ports
  have hget : ∀ p ∈ ps, p ∈ s.ports ∧ s.GetsMember aux settings.slaves p := by
    intro p hp
    have hmem := ((hps.mem_iff p).mp hp).1
    refine ⟨hports ▸ hmem, ?_⟩
    rcases hupdated.member ps hps p hp with hslave | ⟨hdup, hb⟩
    · exact .inl hslave
    · rw [hopened.frame.port] at hb
      exact .inr ⟨hdup, q, hopened.lookup_eq (hwf.owner p (hports ▸ hmem) q hb), hb⟩
  -- the other bundle was there before the call, with the same contents and none of the slaves
  obtain ⟨hq₁, hsame⟩ := hframe.sub q' hq'
  rw [hopened.bundle_ne q' hne] at hsame
  have hfree : ∀ p ∈ settings.slaves, p ∈ s.ports → (s.port p).bundle ≠ some q' := by
    intro p hp hmem hb
    refine hupdated.gone q' ⟨hne, p, hp, ?_, ?_⟩ hq'
    · rw [hopened.frame.ports]
      exact hmem
    · rw [hopened.frame.port, hb]
  rw [(hframe.sub q hupdated.live).2] at hbridge
  refine hkeeps.2 (hopened.isBridgeBundle.mp hbridge) p (hget p hp).1 (hget p hp).2
    ⟨p', (hget p' hp').1, (hget p' hp').2, hpp⟩ q' ((hopened.mem_iff hne).mp hq₁)
    (hopened.lookup_ne hne) (hsame ▸ hmark) hfree ?_
  rw [← hsame, ← hname, (hframe.netdev p).1, hopened.frame.port]

/-- A bundle is configured while the others are as they are to be. -/
theorem AsicColumns.of_configured (h : Undisturbed left s) (hwf : s.WF) (hq : q ∈ s.bundles)
    (hvrf : s.vrf = false) (henv : env.Healthy) (hconf : Configured env q s s')
    (hfits : s'.world.Fits) (hname : ∀ q' ∈ s.bundles, q' ≠ q →
      (s.bundle q').isAddedToSimOvs = true → (s.bundle q').name ≠ (s.bundle q).name)
    (hothers : ∀ q' ∈ s.bundles, q' ≠ q → s.IsReconfigured q' → ColumnsOf left s q' ∧
      ∀ ps, s.Members q ps → 1 < ps.length → (s.bundle q').isAddedToSimOvs = true →
        (s.bundle q').name ∉ ps.map fun p => (s.port p).name) : AsicColumns left s' where
  columns q' hq' hre := by
    rw [hconf.bundles] at hq'
    by_cases hqq : q' = q
    · rw [hqq]
      exact h.columnsOf_configured hwf hq hvrf henv hconf hfits hname
    · obtain ⟨hcolumns, hmember⟩ := hothers q' hq' hqq ((hconf.isReconfigured q').mp hre)
      exact hcolumns.configured hwf hq hvrf henv hconf hfits hqq (hname q' hq' hqq) hmember
  undisturbed := h.configured hwf hq hvrf henv hconf hfits

theorem AsicColumns.applied (h : AsicColumns left s₂) (hwf : s₂.WF) (hq : q ∈ s₂.bundles)
    (henv : env.Healthy) (happlied : Applied env q settings s₂ s') (hfits : s'.world.Fits)
    (hnames : NamesDistinct s') (hmember : (s₂.bundle q).isBridgeBundle = false →
      ∀ ps, s₂.Members q ps → 1 < ps.length → ∀ q' ∈ s₂.bundles, q' ≠ q →
        (s₂.bundle q').isAddedToSimOvs = true →
        (s₂.bundle q').name ∉ ps.map fun p => (s₂.port p).name) : AsicColumns left s' := by
  cases happlied with
  | bridge => exact h
  | routing sflow hbridge _ _ _ _ hasic =>
    refine h.congr (by rw [hasic henv hfits]) rfl (fun _ => .rfl) (fun q' => ?_) fun q' hre => ?_
    · by_cases hqq : q' = q
      · simp [hqq]
      · simp [hqq]
    · by_cases hqq : q' = q
      · simp [State.IsReconfigured, hqq] at hre
      · simpa [State.IsReconfigured, hqq] using hre
  | mark sflow bridge hbridge =>
    refine h.congr rfl rfl (fun _ => .rfl) (fun q' => ?_) fun q' hre => ?_
    · by_cases hqq : q' = q
      · simp [State.modifyBundle, hqq]
      · simp [State.modifyBundle, hqq]
    · by_cases hqq : q' = q
      · subst hqq
        simp only [State.IsReconfigured, State.modifyBundle, Function.update_self] at hre
        exact ⟨⟨hre.1, hbridge⟩, by simp [State.modifyBundle, wantedColumns]⟩
      · simpa [State.IsReconfigured, State.modifyBundle, hqq] using hre
  | configured sflow hbridge hvrf _ hconf =>
    let f : Ofbundle → Ofbundle := fun b =>
      ({ b with isSflowEnabled := sflow } : Ofbundle).withVlans settings
    have hself : ∀ q', ((s₂.modifyBundle q f).bundle q').isAddedToSimOvs =
        (s₂.bundle q').isAddedToSimOvs ∧
          ((s₂.modifyBundle q f).bundle q').name = (s₂.bundle q').name := by
      intro q'
      by_cases hqq : q' = q
      · simp [State.modifyBundle, hqq, f, Ofbundle.withVlans]
      · simp [State.modifyBundle, hqq]
    have hother : ∀ q' ≠ q, (s₂.modifyBundle q f).bundle q' = s₂.bundle q' :=
      fun q' hqq => by simp [State.modifyBundle, hqq]
    have hundisturbed : Undisturbed left (s₂.modifyBundle q f) :=
      h.undisturbed.congr rfl fun q' n => by
        rw [(hself q').1, (hself q').2]
        exact id
    have hwf' : (s₂.modifyBundle q f).WF := hwf.modifyBundle fun _ => rfl
    refine AsicColumns.of_configured hundisturbed hwf' hq hvrf henv hconf hfits
      (fun q' hq' hqq _ heq => hqq ?_) fun q' hq' hqq hre => ⟨?_, fun ps hps hlen hmark => ?_⟩
    · refine hnames q' (hconf.bundles.symm ▸ hq') q (hconf.bundles.symm ▸ hq) ?_
      rw [hconf.bundle_ne q' hqq, hconf.bundle_self]
      exact heq
    · rw [State.IsReconfigured, hother q' hqq] at hre
      refine (h.columns q' hq' hre).congr (hself q').1 (fun _ => (hself q').2) ?_ fun _ => rfl
      exact State.wantedPort_congr .rfl (by rw [hother q' hqq]; rfl)
    · rw [hother q' hqq] at hmark ⊢
      exact hmember hbridge ps (hps.congr rfl (fun _ _ => rfl) rfl) hlen q' hq' hqq hmark

/-- The bundle that `bundle_set` works on has members before and after its ports are updated, or it is
new and wants no port yet. -/
theorem State.Occupied.wantedPort (h : s.Occupied) (hopened : Opened env aux settings q s s₁)
    (hupdated : Updated env q settings.slaves s₁ s₂) {ps : List OfpPort} (hps : s₂.Members q ps)
    (hne : ps ≠ []) : s₂.wantedPort q = s₁.wantedPort q := by
  have hframe := hupdated.claims.frame
  have hbundle := (hframe.sub q hupdated.live).2
  rcases hopened.found with ⟨hfind, -, -, -⟩ | ⟨-, -, -, -, hfresh⟩
  · obtain ⟨p, hp, hb⟩ := h q (State.mem_of_bundleLookup hfind)
    obtain ⟨p', hp'⟩ := List.exists_mem_of_ne_nil ps hne
    refine State.wantedPort_congr (iff_of_true ⟨p', (hps.mem_iff p').mp hp'⟩ ⟨p, ?_, ?_⟩) ?_
    · rw [hopened.frame.ports]
      exact hp
    · rw [hopened.frame.port]
      exact hb
    · rw [hframe.vlansBmp, hbundle]
  · have hnone : ∀ bmp, wantedColumns bmp (s₁.bundle q) = none := fun bmp => by
      rw [hfresh, wantedColumns_fresh]
    rw [State.wantedPort, hbundle, hnone, ite_self, State.wantedPort, hnone, ite_self]

theorem AsicColumns.bundleSet (h : AsicColumns left s) (hoccupied : s.Occupied) (hwf : s.WF)
    (henv : env.Healthy) (hnames : NamesDistinct s)
    (hkeeps : KeepsPorts s (.bundleSet aux (some settings)))
    (hteardown : NoTeardown s (.bundleSet aux (some settings)))
    (hlag : NoLagClaimed s (.bundleSet aux (some settings))) :
    (bundleSet env s aux (some settings)).Ensures Fault.OfInput
      fun r => r.1.world.Fits → NamesDistinct r.1 → AsicColumns left r.1 := by
  refine hwf.bundleSet_rule (Q := fun q s₁ s₂ => Claimed env q settings.slaves settings.slaves s₁ s₂)
    hteardown hlag ?_ ?_ ?_
  · intro q s₁ _ hwf₁ hq hnolag
    exact (updatePorts_claimed hwf₁ hq hnolag).mono fun s₂ hs₂ => hs₂.symm
  · intro q s₁ s₂ hopened _ hupdated hclaimed _ _
    refine (hupdated.wf.bundleDestroy hupdated.live).mono ?_
    rintro s' ⟨_, hdestroyed⟩ hfits _
    have hfits₂ := hdestroyed.steps.fits hfits
    have h₁ := h.opened hopened hkeeps.1
    have hdistinct := hopened.markedDistinct hkeeps.1 hnames
    have hsub := hupdated.claims.frame.sub
    refine ⟨fun q' hq' hre => ?_,
      (h₁.undisturbed.updated henv hupdated hfits₂).destroyed hupdated.wf.nodup henv hdestroyed hfits⟩
    rw [hdestroyed.bundles, hupdated.wf.nodup.mem_erase_iff] at hq'
    obtain ⟨hqq, hq'⟩ := hq'
    obtain ⟨hq₁, hbundle⟩ := hsub q' hq'
    rw [State.IsReconfigured, hdestroyed.bundle q' hqq, hbundle] at hre
    have hcolumns := (h₁.columns q' hq₁ hre).updated henv hupdated hfits₂ hdistinct hq'
      (hclaimed.wantedPort hupdated hqq hq')
    refine hcolumns.destroyed henv hdestroyed hfits hqq fun hmark hmark' heq => hqq ?_
    obtain ⟨hq₀, hself⟩ := hsub q hupdated.live
    rw [hbundle] at hmark heq
    rw [hself] at hmark' heq
    exact hdistinct q' hq₁ q hq₀ hmark hmark' heq
  · intro q s₁ s₂ ps hopened _ hupdated hclaimed hps hne _ hname
    refine (hupdated.wf.bundleApply hupdated.live hname).mono ?_
    rintro s' ⟨_, happlied⟩ hfits hnames'
    have hfits₂ := happlied.steps.fits hfits
    have h₁ := h.opened hopened hkeeps.1
    have h₂ : AsicColumns left s₂ := by
      refine ⟨fun q' hq' hre => ?_, h₁.undisturbed.updated henv hupdated hfits₂⟩
      obtain ⟨hq₁, hbundle⟩ := hupdated.claims.frame.sub q' hq'
      rw [State.IsReconfigured, hbundle] at hre
      refine (h₁.columns q' hq₁ hre).updated henv hupdated hfits₂
        (hopened.markedDistinct hkeeps.1 hnames) hq' ?_
      by_cases hqq : q' = q
      · rw [hqq]
        exact hoccupied.wantedPort hopened hupdated hps hne
      · exact hclaimed.wantedPort hupdated hqq hq'
    exact h₂.applied hupdated.wf hupdated.live henv happlied hfits hnames'
      fun hbridge ps hps hlen q' hq' hqq => hkeeps.member hwf hopened hupdated hbridge hps hlen hq' hqq

end BundleSet

/-! ## `set_vlan` -/

/-- The state of the loop over the bundles that started in `s₀`; `todo` are the bundles to come. -/
structure ColumnsLoop (left : String → Option PortColumns) (s₀ : State) (todo : List Ptr)
    (s : State) : Prop where
  vrf : s.vrf = s₀.vrf
  ports : s.ports = s₀.ports
  port : ∀ p, (s.port p).bundle = (s₀.port p).bundle ∧ (s.port p).name = (s₀.port p).name
  bundles : s.bundles = s₀.bundles
  bundle : ∀ q, s.bundle q = { s₀.bundle q with isAddedToSimOvs := (s.bundle q).isAddedToSimOvs }
  vlansBmp : s.vlansBmp = s₀.vlansBmp
  kept : ∀ q, ¬ s₀.IsReconfigured q →
    (s.bundle q).isAddedToSimOvs = (s₀.bundle q).isAddedToSimOvs
  done : ∀ q ∈ s₀.bundles, q ∉ todo → s₀.IsReconfigured q → ColumnsOf left s q
  undisturbed : Undisturbed left s

section SetVlan

variable {env : Env} {left : String → Option PortColumns} {s s' s₀ : State} {q : Ptr}
  {todo : List Ptr}

theorem ColumnsLoop.init (h : Undisturbed left s) (htodo : todo.Perm s.bundles) :
    ColumnsLoop left s todo s :=
  ⟨rfl, rfl, fun _ => ⟨rfl, rfl⟩, rfl, fun _ => rfl, rfl, fun _ _ => rfl,
    fun _ hq hnot _ => absurd (htodo.mem_iff.mpr hq) hnot, h⟩

theorem ColumnsLoop.isReconfigured (h : ColumnsLoop left s₀ todo s) (q : Ptr) :
    s.IsReconfigured q ↔ s₀.IsReconfigured q := by
  rw [State.IsReconfigured, h.bundle]
  rfl

/-- A bundle that is done is marked exactly if it ends up in the ASIC. -/
theorem ColumnsLoop.endsAdded (h : ColumnsLoop left s₀ todo s) (hq : q ∈ s₀.bundles)
    (hdone : s₀.IsReconfigured q → q ∉ todo) :
    (s.bundle q).isAddedToSimOvs = s₀.endsAdded q := by
  rw [State.endsAdded]
  split
  · rename_i hre
    rw [(h.done q hq (hdone hre) hre).marked]
    refine congrArg Option.isSome (State.wantedPort_congr ?_ ?_)
    · rw [h.ports]
      simp only [h.port]
    · rw [h.vlansBmp, h.bundle q]
      rfl
  · exact h.kept q ‹_›

theorem ColumnsLoop.skip (h : ColumnsLoop left s₀ (q :: todo) s) (hskip : ¬ s₀.IsReconfigured q) :
    ColumnsLoop left s₀ todo s :=
  { h with
    done := fun q' hq' hnot hre => by
      refine h.done q' hq' (fun hmem => ?_) hre
      rcases List.mem_cons.mp hmem with rfl | hmem
      · exact hskip hre
      · exact hnot hmem }

/-- One turn of the loop. -/
theorem ColumnsLoop.configured (h : ColumnsLoop left s₀ (q :: todo) s) (hnames : NamesDistinct s₀)
    (hapart : s₀.MembersApart) (hvrf : s₀.vrf = false) (hlive : q ∈ s₀.bundles)
    (hre : s₀.IsReconfigured q) (hwf : s.WF) (henv : env.Healthy) (hconf : Configured env q s s')
    (hfits : s'.world.Fits) : ColumnsLoop left s₀ todo s' := by
  have hname : ∀ q', (s.bundle q').name = (s₀.bundle q').name := fun q' => by rw [h.bundle]
  have hvrf' : s.vrf = false := h.vrf.trans hvrf
  have hlive' : q ∈ s.bundles := h.bundles ▸ hlive
  have hdistinct : ∀ q' ∈ s₀.bundles, q' ≠ q → (s.bundle q').name ≠ (s.bundle q).name := by
    intro q' hq' hne heq
    rw [hname, hname] at heq
    exact hne (hnames q' hq' q hlive heq)
  -- a bundle that ends up in the ASIC does not lose its port here
  have hmember : ∀ q' ∈ s₀.bundles, q' ≠ q → s₀.endsAdded q' = true → ∀ ps, s.Members q ps →
      1 < ps.length → (s.bundle q').name ∉ ps.map fun p => (s.port p).name := by
    intro q' hq' hne hends ps hps hlen hmem
    obtain ⟨p, hp, heq⟩ := List.mem_map.mp hmem
    have hshares := hps.sharesBundle hlen hp
    simp only [State.SharesBundle, h.ports, h.port] at hshares
    exact hapart q hlive hre p hshares.1 hshares.2 q' hq' hne hends
      (by rw [← hname, ← heq, (h.port p).2])
  constructor
  case vrf => exact hconf.vrf.trans h.vrf
  case ports => exact hconf.ports.trans h.ports
  case port =>
    exact fun p => ⟨(hconf.port p).1.trans (h.port p).1, (hconf.port p).2.trans (h.port p).2⟩
  case bundles => exact hconf.bundles.trans h.bundles
  case bundle =>
    intro q'
    have hbundle := hconf.bundle q'
    rw [h.bundle q'] at hbundle
    exact hbundle
  case vlansBmp => exact hconf.vlansBmp.trans h.vlansBmp
  case kept =>
    intro q' hskip
    rw [hconf.bundle_ne q' fun hqq => hskip (hqq ▸ hre)]
    exact h.kept q' hskip
  case done =>
    intro q' hq' hnot hre'
    by_cases hqq : q' = q
    · rw [hqq]
      exact h.undisturbed.columnsOf_configured hwf hlive' hvrf' henv hconf hfits
        fun q' hq' hne _ => hdistinct q' (h.bundles ▸ hq') hne
    · have hnot' : q' ∉ q :: todo := by simp [hqq, hnot]
      refine (h.done q' hq' hnot' hre').configured hwf hlive' hvrf' henv hconf hfits hqq
        (fun _ => hdistinct q' hq' hqq) fun ps hps hlen hmark => ?_
      rw [h.endsAdded hq' fun _ => hnot'] at hmark
      exact hmember q' hq' hqq hmark ps hps hlen
  case undisturbed => exact h.undisturbed.configured hwf hlive' hvrf' henv hconf hfits

/-- The whole loop. -/
theorem Reconfigured.columnsLoop (h : Reconfigured env todo s s') (hloop : ColumnsLoop left s₀ todo s)
    (hnames : NamesDistinct s₀) (hapart : s₀.MembersApart) (hvrf : s₀.vrf = false)
    (htodo : ∀ q ∈ todo, q ∈ s₀.bundles) (henv : env.Healthy) (hfits : s'.world.Fits) : ColumnsLoop left s₀ [] s' := by
  induction h with
  | nil => exact hloop
  | @skip q todo s s' hskip _ ih =>
    have hskip' : ¬ s.IsReconfigured q := by
      rintro ⟨hrouting, hbridge⟩
      simp [hrouting, hbridge] at hskip
    rw [hloop.isReconfigured] at hskip'
    exact ih (hloop.skip hskip') (fun q' hq' => htodo q' (.tail _ hq')) hfits
  | @configure q todo s s₁ s' hwf _ hre hconf hrest ih =>
    have hre' : s.IsReconfigured q := by simpa [State.IsReconfigured] using hre
    rw [hloop.isReconfigured] at hre'
    refine ih ?_ (fun q' hq' => htodo q' (.tail _ hq')) hfits
    exact hloop.configured hnames hapart hvrf (htodo q (by simp)) hre' hwf henv hconf
      (hrest.steps.fits hfits)

theorem AsicColumns.setVlan {vid : ℤ} {add : Bool} (h : AsicColumns left s) (henv : env.Healthy)
    (hset : SetVlan env vid add s s') (hfits : s'.world.Fits)
    (hnames : NamesDistinct s) (hkeeps : KeepsPorts s (.setVlan vid add)) (hvrf : s.vrf = false) :
    AsicColumns left s' := by
  cases hset with
  | unchanged => exact h
  | vrf htrue => simp [hvrf] at htrue
  | @changed bmp s' _ hbit hbmp hrest =>
    subst hbmp
    let s₁ : State := { s with vlansBmp := bitmapSet s.vlansBmp vid add }
    have hperm : (env.order s₁).Perm s₁.bundles := env.order_perm s₁
    have hundisturbed : Undisturbed left s₁ := h.undisturbed.congr rfl fun _ _ => id
    have hloop := hrest.columnsLoop (.init hundisturbed hperm) hnames (hkeeps hbit) hvrf
      (fun q hq => hperm.mem_iff.mp hq) henv hfits
    refine ⟨fun q hq hre => ?_, hloop.undisturbed⟩
    exact hloop.done q (hloop.bundles ▸ hq) List.not_mem_nil ((hloop.isReconfigured q).mp hre)

end SetVlan

/-! ## Runs -/

/-- A sound call after which bundles have names of their own, and which leaves the ports of the other
bundles in the ASIC. -/
def PortCall (s : State) (op : Op) (s' : State) : Prop :=
  Sound s op s' ∧ NamesDistinct s' ∧ KeepsPorts s op

instance (s : State) (op : Op) (s' : State) : Decidable (PortCall s op s') :=
  inferInstanceAs (Decidable (_ ∧ _))

section Runs

variable {env : Env} {left : String → Option PortColumns} {s s' s₀ : State} {q : Ptr} {op : Op}

/-- The type of an ofproto is not changed. -/
theorem portInvariant_vrf (env : Env) (v : Bool) :
    PortInvariant env (fun _ => True) fun s => s.vrf = v where
  congr h _ _ hvrf _ := hvrf.trans h
  system _ h := h
  detach _ _ h := (detachPort_portFrame env _ _).vrf.trans h
  attach _ _ _ h := h
  block {s p} _ _ _ h := by
    rw [blockPort]
    split
    · exact h
    · exact h

theorem AsicColumns.destroyed (h : AsicColumns left s) (hwf : s.WF) (hnames : NamesDistinct s)
    (hq : q ∈ s.bundles) (henv : env.Healthy) (hdestroyed : Destroyed env q s s')
    (hfits : s'.world.Fits) : AsicColumns left s' where
  columns q' hq' hre := by
    rw [hdestroyed.bundles, hwf.nodup.mem_erase_iff] at hq'
    obtain ⟨hne, hq'⟩ := hq'
    rw [State.IsReconfigured, hdestroyed.bundle q' hne] at hre
    exact (h.columns q' hq' hre).destroyed henv hdestroyed hfits hne
      fun _ _ heq => hne (hnames q' hq' q hq heq)
  undisturbed := h.undisturbed.destroyed hwf.nodup henv hdestroyed hfits

/-- Commands on mirrors leave the ports of the ASIC alone. -/
theorem mirrorInvariant_asicPorts (henv : env.Healthy) (s : State) : MirrorInvariant env fun s' =>
    s'.world.Fits → s'.world.asic.ports = s.world.asic.ports where
  mbridge _ h := h
  system {s' c} hc h hfits := by
    have hlog := World.log_system env s'.world c
    have hasic := (World.system_ovs (w := s'.world) henv hc.isOvs hfits.of_system).1
    have hports := h (hfits.of_prefix ⟨[c], hlog.symm⟩)
    change (s'.world.system env c).1.asic.ports = _
    rw [hasic]
    cases hexec : s'.world.asic.exec c with
    | none => exact hports
    | some a =>
      rw [← hports]
      cases c with
      | createMirror row =>
        simp only [Asic.exec, Option.ite_none_left_eq_some, Option.some.injEq] at hexec
        rw [Option.getD_some, ← hexec.2]
      | removeMirror name =>
        simp only [Asic.exec, Option.ite_none_right_eq_some, Option.some.injEq] at hexec
        rw [Option.getD_some, ← hexec.2]
      | _ => exact hc.elim

theorem AsicColumns.step (h : AsicColumns left s) (hwf : s.WF) (hoccupied : s.Occupied)
    (hnames : NamesDistinct s) (hvrf : s.vrf = false) (henv : env.Healthy) (hcall : PortCall s op s')
    (hstep : step env s op = .ok s') (hfits : s'.world.Fits) : AsicColumns left s' := by
  obtain ⟨hsound, hnames', hkeeps⟩ := hcall
  obtain ⟨hwf', heffect⟩ := hwf.step hsound.1 hsound.2 hstep
  cases heffect with
  | absent | kept => exact h
  | deleted hfind hdestroyed =>
    have hq := (hwf.bundleLookup_eq_some_iff.mp hfind).1
    exact h.destroyed hwf hnames hq henv hdestroyed hfits
  | removed hp hb _ hdestroyed =>
    exact h.destroyed hwf hnames (hwf.owner _ hp _ hb) henv hdestroyed hfits
  | set =>
    obtain ⟨rc, hset⟩ := map_fst_eq_ok hstep
    exact (h.bundleSet hoccupied hwf henv hnames hkeeps hsound.1 hsound.2).of_ok hset hfits hnames'
  | vlan hvlan => exact h.setVlan henv hvlan hfits hnames hkeeps hvrf
  | mirror hmirror =>
    have hframe := hmirror.frame
    refine h.congr ?_ hframe.bundles (fun q => by rw [hframe.ovs.ports, hframe.ovs.port])
      (fun q => by rw [hframe.bundle]; exact ⟨rfl, rfl⟩) fun q hre => ?_
    · exact (mirrorInvariant_asicPorts henv s).mirrorSet hmirror (fun _ => rfl) hfits
    · rw [State.IsReconfigured, hframe.bundle] at hre
      exact ⟨hre, by rw [hframe.vlansBmp, hframe.bundle]⟩

/-- What is there at the start is what was left. -/
theorem Constructed.asicColumns (h : Constructed s) : AsicColumns s.world.asic.ports s where
  columns q hq := by simp [h.bundles] at hq
  undisturbed _ _ := .inr rfl

theorem Reaches.asicColumns (hreaches : Reaches env PortCall s₀ s) (h₀ : Constructed s₀)
    (hvrf : s₀.vrf = false) (henv : env.Healthy) (hfits : s.world.Fits) :
    NamesDistinct s ∧ AsicColumns s₀.world.asic.ports s := by
  suffices hinv : s.WF ∧ s.vrf = false ∧ s.Occupied ∧ NamesDistinct s ∧
      (s.world.Fits → AsicColumns s₀.world.asic.ports s) from
    ⟨hinv.2.2.2.1, hinv.2.2.2.2 hfits⟩
  have hempty : s₀.Occupied ∧ NamesDistinct s₀ := by
    simp [State.Occupied, NamesDistinct, h₀.bundles]
  refine hreaches.invariant (I := fun s => s.WF ∧ s.vrf = false ∧ s.Occupied ∧ NamesDistinct s ∧
    (s.world.Fits → AsicColumns s₀.world.asic.ports s))
    ⟨h₀.wf, hvrf, hempty.1, hempty.2, fun _ => h₀.asicColumns⟩ ?_
  rintro s op s' ⟨hwf, hvrf, hoccupied, hnames, hcolumns⟩ hcall hstep
  obtain ⟨hwf', heffect⟩ := hwf.step hcall.1.1 hcall.1.2 hstep
  have hvrf' := (portInvariant_vrf env false).step hwf hcall.1 hvrf hstep
  refine ⟨hwf', hvrf', hoccupied.step hwf hcall.1 hstep, hcall.2.1, fun hfits' => ?_⟩
  exact (hcolumns (heffect.steps.fits hfits')).step hwf hoccupied hnames hvrf henv hcall hstep hfits'

/-- Where nothing was left, a bundle has just the port that it wants. -/
theorem AsicColumns.port_eq (h : AsicColumns left s) (hnames : NamesDistinct s) (hq : q ∈ s.bundles)
    (hre : s.IsReconfigured q) (hleft : left (s.bundle q).name = none ∨
      left (s.bundle q).name = s.wantedPort q) :
    s.world.asic.ports (s.bundle q).name = s.wantedPort q := by
  have hcolumns := h.columns q hq hre
  cases hmark : (s.bundle q).isAddedToSimOvs with
  | true =>
    refine (hcolumns.columns hmark).elim id ?_
    rintro ⟨hsome, hold⟩
    exact hold.trans (hleft.resolve_left hsome)
  | false =>
    have hnone : s.wantedPort q = none := by
      have hsome := hcolumns.marked
      rw [hmark, eq_comm, Option.isSome_eq_false_iff, Option.isNone_iff_eq_none] at hsome
      exact hsome
    have hfound := h.undisturbed (s.bundle q).name fun q' hq' hmark' hname => by
      rw [hnames q' hq' q hq hname, hmark] at hmark'
      cases hmark'
    rw [hnone] at hleft ⊢
    exact hfound.elim id fun hold => hold.trans (hleft.elim id id)

end Runs

/-- From a clean ASIC, after any calls that keep names apart, the port of every bundle that is neither
a bridge's own nor routing a VLAN is in the ASIC exactly if the bundle has a port and an enabled VLAN,
and then with the columns that its settings and the enabled VLANs ask for now. A port that no bundle
has put there is not in the ASIC. -/
theorem asic_columns_follow_settings (env : Env) {s₀ s : State} (henv : env.Healthy) (h₀ : Initial s₀)
    (hvrf : s₀.vrf = false) (h : Reaches env PortCall s₀ s) (hfits : s.world.Fits) :
    (∀ q ∈ s.bundles, s.IsReconfigured q →
      s.world.asic.ports (s.bundle q).name = s.wantedPort q ∧
        ((s.bundle q).isAddedToSimOvs = true ↔ (s.wantedPort q).isSome = true)) ∧
      ∀ n, (∀ q ∈ s.bundles, (s.bundle q).isAddedToSimOvs = true → (s.bundle q).name ≠ n) →
        s.world.asic.ports n = none := by
  obtain ⟨hnames, hcolumns⟩ := h.asicColumns h₀.constructed hvrf henv hfits
  refine ⟨fun q hq hre => ⟨?_, ?_⟩, fun n hn => ?_⟩
  · exact hcolumns.port_eq hnames hq hre (.inl (h₀.asicPorts _))
  · rw [(hcolumns.columns q hq hre).marked]
  · exact (hcolumns.undisturbed n hn).elim id fun hold => hold.trans (h₀.asicPorts n)

/-- The access port of VLAN 10 is in the ASIC with its tag once the VLAN is enabled. -/
theorem asic_columns_follow_settings_of_access : ∃ s,
    run sampleEnv (sampleState false) [.bundleSet 100 (some (sampleSettings "eth1" [1] false)),
      .bundleSet 101 (some (sampleSettings "bond0" [2, 3] true)), .setVlan 10 true] = .ok s ∧
    s.world.asic.ports "eth1" = some ⟨some 10, [], .access⟩ := by
  let ops : List Op := [.bundleSet 100 (some (sampleSettings "eth1" [1] false)),
    .bundleSet 101 (some (sampleSettings "bond0" [2, 3] true)), .setVlan 10 true]
  have hmeets : RunMeets sampleEnv PortCall (sampleState false) ops := by decide +kernel
  have hobs : (run sampleEnv (sampleState false) ops).toOption.map (fun s =>
      decide (s.world.Fits ∧ ∃ q ∈ s.bundles, s.IsReconfigured q ∧ (s.bundle q).name = "eth1" ∧
        s.wantedPort q = some ⟨some 10, [], .access⟩)) = some true := by decide +kernel
  obtain ⟨s, hrun, hreaches, hs⟩ := Reaches.of_observed hmeets hobs
  rw [decide_eq_true_eq] at hs
  obtain ⟨hfits, q, hq, hre, hname, hwanted⟩ := hs
  have hcolumns := (asic_columns_follow_settings sampleEnv sampleEnv_healthy
    (sampleState_initial false) rfl hreaches hfits).1 q hq hre
  exact ⟨s, hrun, by rw [← hname, hcolumns.1, hwanted]⟩

/-- A provider starts over after an earlier run that was broken off, whether or not `init` could empty
the ASIC. Whatever calls it is given, a bundle that comes to want the columns that a bundle of that name
wanted before has the port that was there before. -/
theorem restart_restores_columns (env : Env) {t₀ t s₀ s : State} (henv : env.Healthy)
    (ht₀ : Initial t₀) (hvrf : t₀.vrf = false) (ht : Reaches env PortCall t₀ t)
    (htfits : t.world.Fits) (hs₀ : Constructed s₀) (hvrf' : s₀.vrf = false) {stopped gone : Bool}
    (hasic : s₀.world.asic = (t.world.asic.init stopped gone).construct)
    (hs : Reaches env PortCall s₀ s) (hfits : s.world.Fits)
    {q q' : Ptr} (hq : q ∈ t.bundles) (hre : t.IsReconfigured q) (hq' : q' ∈ s.bundles)
    (hre' : s.IsReconfigured q') (hname : (s.bundle q').name = (t.bundle q).name)
    (hwanted : s.wantedPort q' = t.wantedPort q) :
    s.world.asic.ports (t.bundle q).name = t.world.asic.ports (t.bundle q).name := by
  obtain ⟨htnames, htcolumns⟩ := ht.asicColumns ht₀.constructed hvrf henv htfits
  obtain ⟨hnames, hcolumns⟩ := hs.asicColumns hs₀ hvrf' henv hfits
  have hport := htcolumns.port_eq htnames hq hre (.inl (ht₀.asicPorts _))
  have hfound : s₀.world.asic.ports (s.bundle q').name = none ∨
      s₀.world.asic.ports (s.bundle q').name = s.wantedPort q' := by
    rw [hasic, hname, hwanted, ← hport]
    exact t.world.asic.ports_construct_init stopped gone _
  have hport' := hcolumns.port_eq hnames hq' hre' hfound
  rw [← hname, hport', hname, hport, hwanted]

/-- A port of VLAN 10, which `vlan10` routes, is in the ASIC before the daemon starts again, and `init`
empties the ASIC. The port is set up again in another order, along with another VLAN. -/
theorem restart_restores_columns_of_access : ∃ t s,
    run sampleEnv (sampleState false) [.bundleSet 100 (some (sampleSettings "eth1" [1] false)),
      .bundleSet 101 (some (sampleSettings "vlan10" [4] false)), .setVlan 10 true] = .ok t ∧
    run sampleEnv { sampleState false with
      world := { t.world with asic := (t.world.asic.init true true).construct } }
      [.setVlan 20 true, .setVlan 10 true,
        .bundleSet 100 (some (sampleSettings "eth1" [1] false))] = .ok s ∧
    t.world.asic.bridgeTrunks = [10] ∧
    s.world.asic.ports "eth1" = t.world.asic.ports "eth1" := by
  let first : List Op := [.bundleSet 100 (some (sampleSettings "eth1" [1] false)),
    .bundleSet 101 (some (sampleSettings "vlan10" [4] false)), .setVlan 10 true]
  let second : List Op := [.setVlan 20 true, .setVlan 10 true,
    .bundleSet 100 (some (sampleSettings "eth1" [1] false))]
  let fresh : State → State := fun t => { sampleState false with
    world := { t.world with asic := (t.world.asic.init true true).construct } }
  have htmeets : RunMeets sampleEnv PortCall (sampleState false) first := by decide +kernel
  have htobs : (run sampleEnv (sampleState false) first).toOption.map (fun t =>
      decide (t.world.Fits ∧ t.world.asic.bridgeTrunks = [10] ∧
        (∃ q ∈ t.bundles, t.IsReconfigured q ∧ (t.bundle q).name = "eth1" ∧
          t.wantedPort q = some ⟨some 10, [], .access⟩) ∧
        RunMeets sampleEnv PortCall (fresh t) second ∧
        (run sampleEnv (fresh t) second).toOption.map (fun s =>
          decide (s.world.Fits ∧ ∃ q ∈ s.bundles, s.IsReconfigured q ∧
            (s.bundle q).name = "eth1" ∧
              s.wantedPort q = some ⟨some 10, [], .access⟩)) = some true)) = some true := by
    decide +kernel
  obtain ⟨t, htrun, htreaches, ht⟩ := Reaches.of_observed htmeets htobs
  rw [decide_eq_true_eq] at ht
  obtain ⟨htfits, htrunks, ⟨q, hq, hre, hname, hwanted⟩, hmeets, hobs⟩ := ht
  obtain ⟨s, hrun, hreaches, hs⟩ := Reaches.of_observed hmeets hobs
  rw [decide_eq_true_eq] at hs
  obtain ⟨hfits, q', hq', hre', hname', hwanted'⟩ := hs
  have hconstructed : Constructed (fresh t) :=
    ⟨rfl, rfl, rfl, rfl, fun _ _ => rfl, fun _ _ => rfl⟩
  have hport := restart_restores_columns sampleEnv sampleEnv_healthy (sampleState_initial false) rfl
    htreaches htfits hconstructed rfl rfl hreaches hfits hq hre hq' hre' (hname'.trans hname.symm)
    (hwanted'.trans hwanted.symm)
  rw [hname] at hport
  exact ⟨t, s, htrun, hrun, htrunks, hport⟩

end ContainerPlugin.Ofproto
