import Mathlib.Data.List.Find
import ContainerPlugin.Ofproto.Membership

/-!
# Mirrors of the ASIC

The ASIC has one mirror for every occupied slot, with the name that the slot will be deleted under, as
long as that name is the one it was created with and no slot is given up behind the ASIC's back.
-/

namespace ContainerPlugin.Ofproto

/-! ## The names of the slots -/

/-- The names under which the occupied slots will be deleted. -/
def Mbridge.names (m : Mbridge) : List String :=
  (List.finRange maxMirrors).filterMap fun i => (m.mirrors i).map (·.name)

/-- A mirror has the mirror bundle `b` as its output. -/
def Mbridge.Outputs (m : Mbridge) (b : Ptr) : Prop :=
  ∃ i mirror, m.mirrors i = some mirror ∧ mirror.out = some b

section Names

variable {m m' : Mbridge} {i : Fin maxMirrors} {mirror mirror' : Mirror} {b q : Ptr}
  {bundles : List Ptr}

theorem filterMap_perm_cons {α β : Type} {f g : α → Option β} {l : List α} {a : α} {y : β}
    (hnd : l.Nodup) (ha : a ∈ l) (hf : f a = none) (hg : g a = some y) (hfg : ∀ x ≠ a, g x = f x) :
    (l.filterMap g).Perm (y :: l.filterMap f) := by
  obtain ⟨as, bs, rfl⟩ := List.append_of_mem ha
  have hrest := (List.nodup_middle.mp hnd).notMem
  have hsame : ∀ l' : List α, a ∉ l' → l'.filterMap g = l'.filterMap f := fun l' ha' =>
    List.filterMap_congr fun x hx => hfg x (ne_of_mem_of_not_mem hx ha')
  rw [List.filterMap_append, List.filterMap_append, List.filterMap_cons_some hg,
    List.filterMap_cons_none hf, hsame as fun h => hrest (List.mem_append_left _ h),
    hsame bs fun h => hrest (List.mem_append_right _ h)]
  exact List.perm_middle

theorem Mbridge.names_occupy (hi : m.mirrors i = none)
    (hm : m'.mirrors = Function.update m.mirrors i (some mirror)) :
    m'.names.Perm (mirror.name :: m.names) :=
  filterMap_perm_cons (List.nodup_finRange _) (List.mem_finRange i) (by simp [hi]) (by simp [hm])
    fun j hj => by simp [hm, hj]

theorem Mbridge.names_clear (hi : m.mirrors i = some mirror)
    (hm : m'.mirrors = Function.update m.mirrors i none) : m.names.Perm (mirror.name :: m'.names) :=
  filterMap_perm_cons (List.nodup_finRange _) (List.mem_finRange i) (by simp [hm]) (by simp [hi])
    fun j hj => by simp [hm, hj]

theorem Mbridge.mem_names (hi : m.mirrors i = some mirror) : mirror.name ∈ m.names :=
  List.mem_filterMap.mpr ⟨i, List.mem_finRange i, by simp [hi]⟩

theorem Mbridge.names_replace (hi : m.mirrors i = some mirror)
    (hm : m'.mirrors = Function.update m.mirrors i (some mirror')) (hname : mirror'.name = mirror.name) :
    m'.names = m.names := by
  refine List.filterMap_congr fun j _ => ?_
  by_cases hj : j = i
  · subst hj
    simp [hm, hi, hname]
  · simp [hm, hj]

/-- Only the sources and the destinations of a mirror change unless its output goes. -/
theorem Mbridge.unregisterFrom_kept (hout : ¬ m.Outputs b) (i : Fin maxMirrors) :
    (m.unregisterFrom b i).names = m.names ∧
      ∀ b', (m.unregisterFrom b i).Outputs b' ↔ m.Outputs b' := by
  have hreplace : ∀ {m' : Mbridge} {mirror mirror' : Mirror}, m.mirrors i = some mirror →
      m'.mirrors = Function.update m.mirrors i (some mirror') → mirror'.name = mirror.name →
      mirror'.out = mirror.out → m'.names = m.names ∧ ∀ b', m'.Outputs b' ↔ m.Outputs b' := by
    intro m' mirror mirror' hi hm hname hout
    refine ⟨Mbridge.names_replace hi hm hname, fun b' => ?_⟩
    constructor
    · rintro ⟨j, mj, hj, hb⟩
      rw [hm] at hj
      by_cases hji : j = i
      · subst hji
        rw [Function.update_self, Option.some.injEq] at hj
        subst hj
        exact ⟨j, mirror, hi, hout ▸ hb⟩
      · rw [Function.update_of_ne hji] at hj
        exact ⟨j, mj, hj, hb⟩
    · rintro ⟨j, mj, hj, hb⟩
      by_cases hji : j = i
      · subst hji
        obtain rfl : mirror = mj := Option.some.inj (hi.symm.trans hj)
        exact ⟨j, mirror', by rw [hm, Function.update_self], hout.trans hb⟩
      · exact ⟨j, mj, by rw [hm, Function.update_of_ne hji, hj], hb⟩
  rw [Mbridge.unregisterFrom]
  split
  · exact ⟨rfl, fun _ => .rfl⟩
  · rename_i mirror hi
    split
    · rename_i hb
      exact absurd ⟨i, mirror, hi, hb⟩ hout
    · split
      · exact hreplace hi rfl rfl rfl
      · split
        · exact hreplace hi rfl rfl rfl
        · exact ⟨rfl, fun _ => .rfl⟩

theorem find?_erase_of_not {α : Type} [DecidableEq α] {p : α → Bool} {a : α} (ha : p a = false)
    (l : List α) : (l.erase a).find? p = l.find? p := by
  induction l with
  | nil => rfl
  | cons x l ih =>
    by_cases hx : x = a
    · subst hx
      rw [List.erase_cons_head, List.find?_cons_of_neg (by simp [ha])]
    · rw [List.erase_cons_tail (by simpa using hx), List.find?_cons, List.find?_cons, ih]

/-- Destroying a bundle that is nobody's output takes its mirror bundle out and nothing else. -/
theorem Mbridge.unregisterBundle_kept (hout : ∀ b, m.mbundleLookup q = some b → ¬ m.Outputs b) :
    (m.unregisterBundle q).names = m.names ∧
      (∀ b, (m.unregisterBundle q).Outputs b ↔ m.Outputs b) ∧
      ∀ q' ≠ q, (m.unregisterBundle q).mbundleLookup q' = m.mbundleLookup q' := by
  rw [Mbridge.unregisterBundle]
  cases hfind : m.mbundleLookup q with
  | none => exact ⟨rfl, fun _ => .rfl, fun _ _ => rfl⟩
  | some b =>
    have hloop : ∀ (l : List (Fin maxMirrors)) (m' : Mbridge), m'.names = m.names →
        (∀ b', m'.Outputs b' ↔ m.Outputs b') → m'.mbundles = m.mbundles → m'.mbundle = m.mbundle →
        (l.foldl (Mbridge.unregisterFrom b) m').names = m.names ∧
        (∀ b', (l.foldl (Mbridge.unregisterFrom b) m').Outputs b' ↔ m.Outputs b') ∧
        (l.foldl (Mbridge.unregisterFrom b) m').mbundles = m.mbundles ∧
        (l.foldl (Mbridge.unregisterFrom b) m').mbundle = m.mbundle := by
      intro l
      induction l with
      | nil => exact fun m' h₁ h₂ h₃ h₄ => ⟨h₁, h₂, h₃, h₄⟩
      | cons i l ih =>
        intro m' h₁ h₂ h₃ h₄
        obtain ⟨hnames, houtputs⟩ :=
          Mbridge.unregisterFrom_kept (mt (h₂ b).mp (hout b hfind)) i
        obtain ⟨hmbundles, hmbundle⟩ := m'.mbundles_unregisterFrom b i
        exact ih _ (hnames.trans h₁) (fun b' => (houtputs b').trans (h₂ b')) (hmbundles.trans h₃)
          (hmbundle.trans h₄)
    obtain ⟨hnames, houtputs, hmbundles, hmbundle⟩ :=
      hloop (List.finRange maxMirrors) m rfl (fun _ => .rfl) rfl rfl
    refine ⟨hnames, houtputs, fun q' hqq => ?_⟩
    have hb : m.mbundle b = q := by simpa using List.find?_some hfind
    simp only [Mbridge.mbundleLookup, hmbundles, hmbundle]
    exact find?_erase_of_not (by simp [hb, hqq.symm]) m.mbundles

end Names

/-! ## Slots and ASIC agree -/

/-- The bundle is the output of a mirror. -/
def State.IsOutput (s : State) (q : Ptr) : Prop :=
  ∃ b ∈ s.mbridge.mbundleLookup q, s.mbridge.Outputs b

/-- The mirrors of the ASIC are those of the occupied slots, each under a name of its own, and the
output of a mirror is a mirror bundle. -/
structure MirrorsMatch (s : State) : Prop where
  perm : (s.world.asic.mirrors.map (·.name)).Perm s.mbridge.names
  nodup : s.mbridge.names.Nodup
  outs : ∀ b, s.mbridge.Outputs b → b ∈ s.mbridge.mbundles

section BundleCalls

variable {env : Env} {s s' : State} {aux q : Ptr} {V : Ptr → Prop} {settings : OfprotoBundleSettings}

theorem MirrorsMatch.congr (h : MirrorsMatch s) (hmbridge : s'.mbridge = s.mbridge)
    (hmirrors : s'.world.asic.mirrors = s.world.asic.mirrors) : MirrorsMatch s' := by
  refine ⟨?_, hmbridge ▸ h.nodup, hmbridge ▸ h.outs⟩
  rw [hmbridge, hmirrors]
  exact h.perm

theorem MirrorsMatch.destroyed (h : MirrorsMatch s) (henv : env.Healthy)
    (hdestroyed : Destroyed env q s s') (hfits : s'.world.Fits) (hout : ¬ s.IsOutput q) :
    MirrorsMatch s' ∧ ∀ q' ≠ q, s'.IsOutput q' → s.IsOutput q' := by
  have hlookup : ∀ b, s.mbridge.mbundleLookup q = some b → ¬ s.mbridge.Outputs b :=
    fun b hb hb' => hout ⟨b, hb, hb'⟩
  obtain ⟨hnames, houtputs, hother⟩ := Mbridge.unregisterBundle_kept hlookup
  have hmirrors : s'.world.asic.mirrors = s.world.asic.mirrors := by
    rw [hdestroyed.asic henv hfits, s.asicDel_ports_only q]
  constructor
  · refine ⟨?_, ?_, fun b hb => ?_⟩
    · rw [hmirrors, hdestroyed.mbridge, hnames]
      exact h.perm
    · rw [hdestroyed.mbridge, hnames]
      exact h.nodup
    · rw [hdestroyed.mbridge] at hb ⊢
      have hb := (houtputs b).mp hb
      have hmem := h.outs b hb
      rw [Mbridge.unregisterBundle]
      cases hfind : s.mbridge.mbundleLookup q with
      | none => exact hmem
      | some b' =>
        have hne : b ≠ b' := by
          rintro rfl
          exact hlookup b hfind hb
        have hmbundles : ∀ (l : List (Fin maxMirrors)) (m : Mbridge),
            (l.foldl (Mbridge.unregisterFrom b') m).mbundles = m.mbundles := by
          intro l
          induction l with
          | nil => exact fun _ => rfl
          | cons i l ih => exact fun m => (ih _).trans (m.mbundles_unregisterFrom b' i).1
        simp only [hmbundles]
        exact (List.mem_erase_of_ne hne).mpr hmem
  · rintro q' hqq ⟨b, hb, hb'⟩
    rw [hdestroyed.mbridge] at hb hb'
    rw [hother q' hqq] at hb
    exact ⟨b, hb, (houtputs b).mp hb'⟩

theorem MirrorsMatch.claimSteps (h : MirrorsMatch s) (henv : env.Healthy)
    (hclaims : ClaimSteps env V s s') (hfits : s'.world.Fits)
    (hout : ∀ q ∈ s.bundles, V q → ¬ s.IsOutput q) :
    MirrorsMatch s' ∧ ∀ q ∈ s'.bundles, s'.IsOutput q → s.IsOutput q := by
  induction hclaims with
  | refl => exact ⟨h, fun _ _ => id⟩
  | tail hbefore hstep ih =>
    cases hstep with
    | ports hframe =>
      obtain ⟨hmatch, houtputs⟩ := ih (hfits.of_prefix hframe.world.log)
      refine ⟨hmatch.congr hframe.mbridge (by rw [hframe.world.asic]), fun q hq hq' => ?_⟩
      rw [State.IsOutput, hframe.mbridge] at hq'
      exact houtputs q (hframe.bundles ▸ hq) hq'
    | @destroy q hwf hq hVq hdestroyed =>
      obtain ⟨hmatch, houtputs⟩ := ih (hfits.of_prefix hdestroyed.steps.log)
      have hq₀ := ((ClaimSteps.frame hbefore).sub q hq).1
      obtain ⟨hmatch', houtputs'⟩ := hmatch.destroyed henv hdestroyed hfits
        fun hq' => hout q hq₀ hVq (houtputs q hq hq')
      refine ⟨hmatch', fun q' hq' hq'' => ?_⟩
      rw [hdestroyed.bundles, hwf.nodup.mem_erase_iff] at hq'
      exact houtputs q' hq'.2 (houtputs' q' hq'.1 hq'')

/-- A new bundle is nobody's output. -/
theorem MirrorsMatch.opened (h : MirrorsMatch s) (hopened : Opened env aux settings q s s')
    (hwf' : s'.WF) : MirrorsMatch s' ∧
      ∀ q', s'.IsOutput q' → s.IsOutput q' ∧ (q' = q → s.bundleLookup aux = some q) := by
  rcases hopened.found with ⟨hfind, -, hmbridge, -⟩ | ⟨-, -, -, ⟨mbundle, hmbridge⟩, -⟩
  · refine ⟨h.congr hmbridge (by rw [hopened.world]), fun q' hq' => ⟨?_, fun _ => hfind⟩⟩
    rwa [State.IsOutput, hmbridge] at hq'
  · have hfresh : mbundle ∉ s.mbridge.mbundles := by
      have hnd := hwf'.mbridge.nodup
      rw [hmbridge] at hnd
      exact (List.nodup_cons.mp hnd).1
    refine ⟨⟨?_, ?_, fun b hb => ?_⟩, ?_⟩
    · rw [hmbridge, hopened.world]
      exact h.perm
    · rw [hmbridge]
      exact h.nodup
    · rw [hmbridge] at hb ⊢
      exact List.mem_cons_of_mem _ (h.outs b hb)
    · rintro q' ⟨b, hb, hb'⟩
      rw [hmbridge] at hb hb'
      have hlive : b ∈ s.mbridge.mbundles := h.outs b hb'
      have hne : mbundle ≠ b := (ne_of_mem_of_not_mem hlive hfresh).symm
      have hold : ∀ b' ∈ s.mbridge.mbundles, Function.update s.mbridge.mbundle mbundle q b' =
          s.mbridge.mbundle b' :=
        fun b' hb' => Function.update_of_ne (ne_of_mem_of_not_mem hb' hfresh) _ _
      -- the search passes over the new mirror bundle
      have hqq : q' ≠ q := by
        rintro rfl
        have hfirst : (s.mbridge.registerBundle mbundle q').mbundleLookup q' = some mbundle :=
          List.find?_cons_of_pos (by simp [Mbridge.registerBundle])
        exact hne (Option.some.inj (hfirst.symm.trans hb))
      refine ⟨⟨b, ?_, hb'⟩, fun hqq' => absurd hqq' hqq⟩
      have hskip : (s.mbridge.registerBundle mbundle q).mbundleLookup q' =
          s.mbridge.mbundleLookup q' := by
        refine (List.find?_cons_of_neg (by simpa [Mbridge.registerBundle] using Ne.symm hqq)).trans ?_
        refine List.find?_congr fun b' hb' => ?_
        simp only [Mbridge.registerBundle, hold b' hb']
      exact hskip ▸ hb

theorem Applied.mirrors (h : Applied env q settings s s') (hwf : s.WF) (hq : q ∈ s.bundles)
    (henv : env.Healthy) (hfits : s'.world.Fits) :
    s'.mbridge = s.mbridge ∧ s'.world.asic.mirrors = s.world.asic.mirrors := by
  cases h with
  | bridge | mark => exact ⟨rfl, rfl⟩
  | routing _ _ _ _ _ _ hasic => exact ⟨rfl, by rw [hasic henv hfits]⟩
  | configured sflow _ _ _ hconf =>
    let f : Ofbundle → Ofbundle := fun b =>
      ({ b with isSflowEnabled := sflow } : Ofbundle).withVlans settings
    have hwf' : (s.modifyBundle q f).WF := hwf.modifyBundle fun _ => rfl
    obtain ⟨ps, hps⟩ := hwf'.members q hq
    refine ⟨hconf.mbridge, ?_⟩
    rw [(hconf.asic henv hfits ps hps).2, State.asicConfigured_ports_only]
    rfl

theorem SetVlan.mirrors {vid : ℤ} {add : Bool} (h : SetVlan env vid add s s') (henv : env.Healthy)
    (hfits : s'.world.Fits) :
    s'.mbridge = s.mbridge ∧ s'.world.asic.mirrors = s.world.asic.mirrors := by
  have hloop : ∀ {qs : List Ptr} {s s' : State}, Reconfigured env qs s s' → s'.world.Fits →
      s'.mbridge = s.mbridge ∧ s'.world.asic.mirrors = s.world.asic.mirrors := by
    intro qs s s' hre
    induction hre with
    | nil => exact fun _ => ⟨rfl, rfl⟩
    | skip _ _ ih => exact ih
    | configure hwf hq _ hconf hrest ih =>
      intro hfits
      obtain ⟨hmbridge, hmirrors⟩ := ih hfits
      obtain ⟨ps, hps⟩ := hwf.members _ hq
      refine ⟨hmbridge.trans hconf.mbridge, hmirrors.trans ?_⟩
      rw [(hconf.asic henv (hrest.steps.fits hfits) ps hps).2, State.asicConfigured_ports_only]
  cases h with
  | unchanged | vrf => exact ⟨rfl, rfl⟩
  | changed _ _ _ hrest =>
    have hkept := hloop hrest hfits
    exact hkept

/-- `bundle_set` that destroys no output of a mirror. -/
theorem MirrorsMatch.bundleSet {rc : Rc} (h : MirrorsMatch s) (henv : env.Healthy)
    (hset : BundleSet env aux settings s s' rc) (hfits : s'.world.Fits)
    (hstay : ∀ q ∈ s.bundles, s.Destroys (.bundleSet aux (some settings)) q → ¬ s.IsOutput q) :
    MirrorsMatch s' := by
  have hupdated : ∀ {q s₁ s₂}, Opened env aux settings q s s₁ → s₁.WF →
      Updated env q settings.slaves s₁ s₂ → s₂.world.Fits → MirrorsMatch s₂ ∧
        ∀ q' ∈ s₂.bundles, s₂.IsOutput q' → s.IsOutput q' ∧ (q' = q → s.bundleLookup aux = some q) := by
    intro q s₁ s₂ hopened hwf₁ hupdated hfits₂
    obtain ⟨hmatch₁, houtputs₁⟩ := h.opened hopened hwf₁
    obtain ⟨hmatch₂, houtputs₂⟩ := hmatch₁.claimSteps henv hupdated.claims hfits₂ (by
      rintro q' hq' ⟨hne, p, hp, hmem, hb⟩ houtput
      refine hstay q' ((hopened.mem_iff hne).mp hq') ?_ (houtputs₁ q' houtput).1
      rw [State.Destroys, if_neg (hopened.lookup_ne hne)]
      rw [hopened.frame.ports] at hmem
      rw [hopened.frame.port] at hb
      exact ⟨p, hp, hmem, hb⟩)
    exact ⟨hmatch₂, fun q' hq' hq'' => houtputs₁ q' (houtputs₂ q' hq' hq'')⟩
  cases hset with
  | @destroyed q s₁ s₂ s' hopened hwf₁ hup hnone hdestroyed =>
    obtain ⟨hmatch, houtputs⟩ := hupdated hopened hwf₁ hup (hdestroyed.steps.fits hfits)
    refine (hmatch.destroyed henv hdestroyed hfits fun houtput => ?_).1
    obtain ⟨houtput₀, hfind⟩ := houtputs q hup.live houtput
    have hfind := hfind rfl
    refine hstay q (List.mem_of_find?_eq_some hfind) ?_ houtput₀
    rw [State.Destroys, if_pos hfind]
    exact hnone
  | applied hopened hwf₁ hup _ happlied =>
    obtain ⟨hmbridge, hmirrors⟩ := happlied.mirrors hup.wf hup.live henv hfits
    exact (hupdated hopened hwf₁ hup (happlied.steps.fits hfits)).1.congr hmbridge hmirrors

end BundleCalls

/-! ## `mirror_set` -/

section MirrorCalls

variable {env : Env} {s s' : State} {aux : Ptr} {i : Fin maxMirrors} {mirror : Mirror}
  {settings : OfprotoMirrorSettings} {sel : MirrorSelection}

theorem toList_length_le_strlen (s : String) : s.toList.length ≤ strlen s := by
  obtain ⟨l, rfl⟩ : ∃ l, s = String.ofList l := ⟨s.toList, by simp⟩
  rw [String.toList_ofList]
  induction l with
  | nil => exact Nat.zero_le _
  | cons c l ih =>
    have hc : 0 < strlen (String.singleton c) := by
      rw [strlen, String.utf8ByteSize_singleton]
      exact c.utf8Size_pos
    rw [String.ofList_cons, strlen_append, List.length_cons]
    omega

theorem truncateName_eq {name : String} (h : strlen name ≤ maxMirrorNameLen) :
    truncateName name = name := by
  rw [truncateName, List.take_of_length_le ((toList_length_le_strlen name).trans h),
    String.ofList_toList]

/-- The mirror of that name goes, if it is the only one. -/
theorem World.mirrors_removeMirror {w : World} {name : String} (henv : env.Healthy)
    (hfits : (Cmd.removeMirror name).Fits) (hnd : (w.asic.mirrors.map (·.name)).Nodup)
    (hname : name ∈ w.asic.mirrors.map (·.name)) :
    (w.system env (.removeMirror name)).1.asic.mirrors.map (·.name) =
      (w.asic.mirrors.map (·.name)).erase name := by
  have hovs : (Cmd.removeMirror name).IsOvs := trivial
  have hcount : (w.asic.mirrors.map (·.name)).count name = 1 := List.count_eq_one_of_mem hnd hname
  rw [(World.system_ovs henv hovs hfits).1, hnd.erase_eq_filter, List.filter_map]
  simp only [Asic.exec, hcount, if_true, Option.getD_some]
  congr 1
  refine List.filter_congr fun row _ => ?_
  by_cases hrow : row.name = name
  · simp [hrow]
  · simp [hrow]

/-- Either the mirror is there, under a name that was free, or nothing happened. -/
theorem MirrorCreated.mirrors {name : String} {rc : Rc} (h : MirrorCreated env name s s' rc)
    (henv : env.Healthy) (hfits : s'.world.Fits) :
    (rc = .ok → name ∉ s.world.asic.mirrors.map (·.name) ∧
      s'.world.asic.mirrors.map (·.name) = s.world.asic.mirrors.map (·.name) ++ [name]) ∧
    (rc ≠ .ok → s'.world.asic.mirrors = s.world.asic.mirrors) := by
  cases h with
  | exceeds => exact ⟨nofun, fun _ => rfl⟩
  | run row hname hpieces =>
    have hovs : (Cmd.createMirror row).IsOvs := trivial
    obtain ⟨hasic, hok⟩ := World.system_ovs (w := s.world) henv hovs hfits.of_system
    simp only [hasic, hok]
    by_cases hexists : row.name ∈ s.world.asic.mirrors.map (·.name)
    · have hexec : s.world.asic.exec (.createMirror row) = none := if_pos ⟨hpieces, hexists⟩
      simp [hexec]
    · have hexec : s.world.asic.exec (.createMirror row) =
          some { s.world.asic with mirrors := s.world.asic.mirrors ++ [row] } :=
        if_neg fun h => hexists h.2
      subst hname
      exact ⟨fun _ => ⟨hexists, by simp [hexec]⟩, by simp [hexec]⟩

/-- The settings of a mirror name bundles of the bridge, and an output among them. -/
def NamesBundles (s : State) : Op → Prop
  | .mirrorSet _ (some settings) =>
    (∃ out ∈ settings.outBundle, out.ofproto = s.up ∧ (s.bundleLookup out.aux).isSome = true) ∧
    ∀ b ∈ settings.srcs ++ settings.dsts, b.ofproto = s.up ∧ (s.bundleLookup b.aux).isSome = true
  | _ => True

theorem State.WF.mbundleLookup_isSome (h : s.WF) {q : Ptr} (hq : q ∈ s.bundles) :
    ∃ b, s.mbridge.mbundleLookup q = some b ∧ b ∈ s.mbridge.mbundles := by
  obtain ⟨b, hb, hbq⟩ := List.mem_map.mp (h.mbridge.perm.mem_iff.mpr hq)
  cases hfind : s.mbridge.mbundleLookup q with
  | none => exact absurd hbq (by simpa using List.find?_eq_none.mp hfind b hb)
  | some b' => exact ⟨b', rfl, List.mem_of_find?_eq_some hfind⟩

theorem State.mirrorBundles_eq {bundles : List OfprotoMirrorBundle}
    (h : ∀ b ∈ bundles, b.ofproto = s.up) :
    s.mirrorBundles bundles = some (bundles.map fun b => s.bundleLookup b.aux) := by
  rw [State.mirrorBundles]
  induction bundles with
  | nil => rfl
  | cons b bundles ih =>
    rw [List.mapM_cons, if_pos (h b (by simp)), ih fun b' hb' => h b' (.tail _ hb')]
    rfl

theorem State.WF.mirrorSelect (h : s.WF) (hnames : NamesBundles s (.mirrorSet aux (some settings))) :
    ∃ sel b, s.mirrorSelect settings = some sel ∧ sel.out = some b ∧ b ∈ s.mbridge.mbundles := by
  obtain ⟨⟨out, hout, hofproto, hlookup⟩, hall⟩ := hnames
  obtain ⟨q, hq⟩ := Option.isSome_iff_exists.mp hlookup
  obtain ⟨b, hb, hmem⟩ := h.mbundleLookup_isSome (List.mem_of_find?_eq_some hq)
  have hout' : settings.outBundle = some out := hout
  have hsrcs := State.mirrorBundles_eq (s := s) (fun b hb => (hall b (List.mem_append_left _ hb)).1)
  have hdsts := State.mirrorBundles_eq (s := s) (fun b hb => (hall b (List.mem_append_right _ hb)).1)
  refine ⟨⟨settings.srcs.map fun b => s.bundleLookup b.aux, settings.dsts.map fun b =>
    s.bundleLookup b.aux, some q, some b⟩, b, ?_, rfl, hmem⟩
  simp [Ofproto.State.mirrorSelect, hout', hofproto, hq, hb, hsrcs, hdsts]

theorem Mbridge.outs_update {m m' : Mbridge} {o : Option Mirror}
    (h : ∀ b, m.Outputs b → b ∈ m.mbundles) (hm : m'.mirrors = Function.update m.mirrors i o)
    (hmbundles : m'.mbundles = m.mbundles) (ho : ∀ mirror ∈ o, ∀ b ∈ mirror.out, b ∈ m.mbundles) :
    ∀ b, m'.Outputs b → b ∈ m'.mbundles := by
  rintro b ⟨j, mirror, hj, hb⟩
  rw [hmbundles]
  rw [hm] at hj
  by_cases hji : j = i
  · subst hji
    rw [Function.update_self] at hj
    exact ho mirror hj b hb
  · rw [Function.update_of_ne hji] at hj
    exact h b ⟨j, mirror, hj, hb⟩

/-- The slot and the mirror of the ASIC go together. -/
theorem MirrorsMatch.clear (h : MirrorsMatch s) (hi : s.mbridge.mirrors i = some mirror)
    (hm : s'.mbridge.mirrors = Function.update s.mbridge.mirrors i none)
    (hmbundles : s'.mbridge.mbundles = s.mbridge.mbundles)
    (hasic : s'.world.asic.mirrors.map (·.name) =
      (s.world.asic.mirrors.map (·.name)).erase mirror.name) : MirrorsMatch s' := by
  have hnames := Mbridge.names_clear hi hm
  refine ⟨?_, ?_, Mbridge.outs_update h.outs hm hmbundles nofun⟩
  · rw [hasic]
    have herase := (h.perm.trans hnames).erase mirror.name
    rwa [List.erase_cons_head] at herase
  · exact (List.nodup_cons.mp (hnames.nodup_iff.mp h.nodup)).2

theorem MirrorsMatch.of_slots (h : MirrorsMatch s) (hm : s'.mbridge.mirrors = s.mbridge.mirrors)
    (hmbundles : s'.mbridge.mbundles = s.mbridge.mbundles)
    (hasic : s'.world.asic.mirrors = s.world.asic.mirrors) : MirrorsMatch s' := by
  have hnames : s'.mbridge.names = s.mbridge.names := by rw [Mbridge.names, hm, Mbridge.names]
  refine ⟨by rw [hasic, hnames]; exact h.perm, hnames ▸ h.nodup, fun b hb => ?_⟩
  rw [Mbridge.Outputs, hm] at hb
  exact hmbundles ▸ h.outs b hb

theorem MirrorsMatch.create {rc : Rc} (h : MirrorsMatch s) (hwf : s.WF)
    (hnone : s.mbridge.mirrorLookup aux = none) (hi : s.mbridge.mirrors i = none)
    (hnames : NamesBundles s (.mirrorSet aux (some settings)))
    (hname : strlen settings.name ≤ maxMirrorNameLen)
    (hupdated : MirrorUpdated env i (.fresh i aux settings.name) false settings
      (s.setMirror i (.fresh i aux settings.name)) s' rc)
    (henv : env.Healthy) (hfits : s'.world.Fits) : MirrorsMatch s' := by
  obtain ⟨sel, b, hsel, hout, hb⟩ := hwf.mirrorSelect hnames
  let mirror := Mirror.fresh i aux settings.name
  have hmirrors : ∀ sel', (mirrorPrepare env (s.setMirror i mirror) i mirror false sel').mbridge.mirrors =
      Function.update s.mbridge.mirrors i (some (mirror.withSelection s.mbridge sel')) := fun sel' => by
    rw [mirrorPrepare_mirrors]
    exact Function.update_idem ..
  have hwf' : (s.setMirror i mirror).mbridge.WF s.bundles :=
    hwf.mbridge.setMirror rfl rfl rfl rfl fun j mirror' hj haux =>
      absurd haux (Mbridge.mirrorLookup_eq_none_iff.mp hnone j mirror' hj)
  have hslot : (s.setMirror i mirror).mbridge.mirrors i = some mirror := Function.update_self ..
  have hgiven := fun hrc => hupdated.mirrors_of_failed hrc (hwf'.mirrorLookup_eq hslot) hslot rfl
  cases hupdated with
  | rejected hreject => cases hreject.symm.trans hsel
  | unchanged hsel' hsame =>
    obtain rfl := Option.some.inj (hsel'.symm.trans hsel)
    simp [Mirror.unchanged, Mirror.fresh, hout] at hsame
  | created hsel' _ hcreated =>
    obtain rfl := Option.some.inj (hsel'.symm.trans hsel)
    obtain ⟨hfree, hasic⟩ := (hcreated.mirrors henv hfits).1 rfl
    have hm := hcreated.frame.2 ▸ hmirrors _
    have hoccupied : s'.mbridge.names.Perm (settings.name :: s.mbridge.names) := by
      have := Mbridge.names_occupy hi hm
      rwa [show (mirror.withSelection s.mbridge _).name = settings.name from truncateName_eq hname]
        at this
    have hperm : (s'.world.asic.mirrors.map (·.name)).Perm (settings.name :: s.mbridge.names) := by
      rw [hasic]
      exact (List.perm_append_singleton ..).trans (h.perm.cons _)
    refine ⟨hperm.trans hoccupied.symm, ?_, ?_⟩
    · rw [hoccupied.nodup_iff, List.nodup_cons]
      exact ⟨fun hmem => hfree (h.perm.mem_iff.mpr hmem), h.nodup⟩
    · refine Mbridge.outs_update h.outs hm ?_ fun mirror' hmirror' b' hb' => ?_
      · exact hcreated.frame.1.mbundles.trans (mirrorPrepare_frame ..).mbundles
      · obtain rfl := Option.some.inj hmirror'
        obtain rfl : b = b' := Option.some.inj (hout.symm.trans hb')
        exact hb
  | failed hsel' _ hrc hcreated =>
    refine h.of_slots ?_ ?_ ((hcreated.mirrors henv hfits).2 hrc)
    · rw [hgiven hrc]
      exact (Function.update_idem ..).trans (Function.update_eq_self_iff.mpr hi.symm)
    · exact (State.mirrorDestroy_frame _ _).mbundles.trans
        (hcreated.frame.1.mbundles.trans (mirrorPrepare_frame ..).mbundles)

theorem MirrorsMatch.modify {rc : Rc} (h : MirrorsMatch s) (hwf : s.WF)
    (hi : s.mbridge.mirrors i = some mirror) (hnames : NamesBundles s (.mirrorSet aux (some settings)))
    (hkeeps : settings.name = mirror.name ∨
      ∃ sel ∈ s.mirrorSelect settings, mirror.unchanged s.mbridge sel = true)
    (hupdated : MirrorUpdated env i mirror true settings s s' rc)
    (henv : env.Healthy) (hfits : s'.world.Fits) : MirrorsMatch s' := by
  obtain ⟨sel, b, hsel, hout, hb⟩ := hwf.mirrorSelect hnames
  have hmem := h.perm.mem_iff.mpr (Mbridge.mem_names hi)
  -- the old mirror is out of the ASIC before the new one comes
  have hremoved : ∀ sel', (mirrorPrepare env s i mirror true sel').world.Fits →
      (mirrorPrepare env s i mirror true sel').world.asic.mirrors.map (·.name) =
        (s.world.asic.mirrors.map (·.name)).erase mirror.name := fun sel' hfits' =>
    World.mirrors_removeMirror henv (World.Fits.of_system hfits') (h.perm.nodup_iff.mpr h.nodup) hmem
  have hgiven := fun hrc => hupdated.mirrors_of_failed hrc (hwf.mbridge.mirrorLookup_eq hi) hi
    (hwf.mbridge.idx i mirror hi)
  cases hupdated with
  | rejected hreject => cases hreject.symm.trans hsel
  | unchanged => exact h
  | created hsel' hchanged hcreated =>
    obtain rfl := Option.some.inj (hsel'.symm.trans hsel)
    have hname : settings.name = mirror.name := by
      refine hkeeps.resolve_right ?_
      rintro ⟨sel', hsel'', hsame⟩
      obtain rfl := Option.some.inj (hsel'.symm.trans hsel'')
      rw [hchanged] at hsame
      cases hsame
    obtain ⟨-, hasic⟩ := (hcreated.mirrors henv hfits).1 rfl
    rw [hremoved _ (hfits.of_prefix hcreated.frame.1.ovs.world.log), hname] at hasic
    have hm := hcreated.frame.2 ▸ @mirrorPrepare_mirrors env s i mirror true _
    have hsame : s'.mbridge.names = s.mbridge.names := Mbridge.names_replace hi hm rfl
    refine ⟨?_, hsame ▸ h.nodup, ?_⟩
    · rw [hasic, hsame]
      exact (List.perm_append_singleton ..).trans ((List.perm_cons_erase hmem).symm.trans h.perm)
    · refine Mbridge.outs_update h.outs hm ?_ fun mirror' hmirror' b' hb' => ?_
      · exact hcreated.frame.1.mbundles.trans (mirrorPrepare_frame ..).mbundles
      · obtain rfl := Option.some.inj hmirror'
        obtain rfl : b = b' := Option.some.inj (hout.symm.trans hb')
        exact hb
  | failed _ _ hrc hcreated =>
    have hfits' := hfits.of_prefix hcreated.frame.1.ovs.world.log
    refine h.clear hi (hgiven hrc) ?_ ?_
    · exact (State.mirrorDestroy_frame _ _).mbundles.trans
        (hcreated.frame.1.mbundles.trans (mirrorPrepare_frame ..).mbundles)
    · show List.map _ _ = _
      rw [← hremoved _ hfits', ← (hcreated.mirrors henv hfits).2 hrc]
      rfl

theorem MirrorsMatch.delete (h : MirrorsMatch s) (hwf : s.WF) (hi : s.mbridge.mirrors i = some mirror)
    (haux : mirror.aux = aux) (henv : env.Healthy)
    (hfits : (s.system env (.removeMirror mirror.name)).world.Fits) :
    MirrorsMatch ((s.system env (.removeMirror mirror.name)).mirrorDestroy aux) := by
  subst haux
  have hm : ((s.system env (.removeMirror mirror.name)).mirrorDestroy mirror.aux).mbridge.mirrors =
      Function.update s.mbridge.mirrors i none := hwf.mbridge.mirrors_mirrorDestroy hi
  refine h.clear hi hm (State.mirrorDestroy_frame _ _).mbundles ?_
  exact World.mirrors_removeMirror henv (World.Fits.of_system hfits) (h.perm.nodup_iff.mpr h.nodup)
    (h.perm.mem_iff.mpr (Mbridge.mem_names hi))

end MirrorCalls

/-- A mirror is created under a name that can be stored, a mirror that changes keeps its name, and no
output of a mirror is destroyed. -/
def KeepsMirrors (s : State) : Op → Prop
  | .mirrorSet aux (some settings) =>
    (s.mbridge.mirrorLookup aux = none → s.mbridge.mirrorScan ≠ none →
      strlen settings.name ≤ maxMirrorNameLen) ∧
    ∀ i ∈ s.mbridge.mirrorLookup aux, ∀ mirror ∈ s.mbridge.mirrors i, settings.name = mirror.name ∨
      ∃ sel ∈ s.mirrorSelect settings, mirror.unchanged s.mbridge sel = true
  | op => ∀ q ∈ s.bundles, s.Destroys op q → ¬ s.IsOutput q

/-- The calls that keep the ASIC's mirrors in line with the slots. -/
def MirrorCall (s : State) (op : Op) (s' : State) : Prop :=
  Sound s op s' ∧ NamesBundles s op ∧ KeepsMirrors s op

section Runs

variable {env : Env} {s s' s₀ : State}

theorem Initial.mirrorsMatch (h : Initial s) : MirrorsMatch s where
  perm := by simp [h.asicMirrors, h.mbridge, Mbridge.names, Mbridge.empty]
  nodup := by simp [h.mbridge, Mbridge.names, Mbridge.empty]
  outs b := by simp [h.mbridge, Mbridge.Outputs, Mbridge.empty]

theorem MirrorsMatch.mirrorSet {aux : Ptr} {settings : Option OfprotoMirrorSettings} {rc : Rc}
    (h : MirrorsMatch s) (hwf : s.WF) (hset : MirrorSet env aux s settings s' rc)
    (hnames : NamesBundles s (.mirrorSet aux settings))
    (hkeeps : KeepsMirrors s (.mirrorSet aux settings)) (henv : env.Healthy)
    (hfits : s'.world.Fits) : MirrorsMatch s' := by
  cases hset with
  | full | absent => exact h
  | @create settings i _ _ hnone hi hupdated =>
    have hscan : s.mbridge.mirrorScan ≠ none := by
      rw [ne_eq, Mbridge.mirrorScan_eq_none_iff]
      intro hall
      simpa [hi] using hall i
    exact h.create hwf hnone hi hnames (hkeeps.1 hnone hscan) hupdated henv hfits
  | modify hi haux hupdated =>
    subst haux
    exact h.modify hwf hi hnames (hkeeps.2 _ (hwf.mbridge.mirrorLookup_eq hi) _ hi) hupdated henv hfits
  | delete hi haux => exact h.delete hwf hi haux henv hfits

theorem Reaches.mirrorsMatch (h : Reaches env MirrorCall s₀ s) (h₀ : Initial s₀) (henv : env.Healthy)
    (hfits : s.world.Fits) : MirrorsMatch s := by
  suffices hinv : s.WF ∧ (s.world.Fits → MirrorsMatch s) from hinv.2 hfits
  refine h.invariant (I := fun s => s.WF ∧ (s.world.Fits → MirrorsMatch s))
    ⟨h₀.wf, fun _ => h₀.mirrorsMatch⟩ ?_
  rintro s op s' ⟨hwf, hmatch⟩ ⟨hsound, hnames, hkeeps⟩ hstep
  obtain ⟨hwf', heffect⟩ := hwf.step hsound.1 hsound.2 hstep
  refine ⟨hwf', fun hfits' => ?_⟩
  have hmatch := hmatch (heffect.steps.fits hfits')
  cases heffect with
  | absent | kept => exact hmatch
  | deleted hfind hdestroyed =>
    have hq := (hwf.bundleLookup_eq_some_iff.mp hfind).1
    exact (hmatch.destroyed henv hdestroyed hfits' (hkeeps _ hq hfind)).1
  | removed hp hb hlag hdestroyed =>
    exact (hmatch.destroyed henv hdestroyed hfits' (hkeeps _ (hwf.owner _ hp _ hb) ⟨hp, hb, hlag⟩)).1
  | set hset => exact hmatch.bundleSet henv hset hfits' hkeeps
  | vlan hvlan =>
    obtain ⟨hmbridge, hmirrors⟩ := hvlan.mirrors henv hfits'
    exact hmatch.congr hmbridge hmirrors
  | mirror hmirror => exact hmatch.mirrorSet hwf hmirror hnames hkeeps henv hfits'

end Runs

/-- Along every run of such calls the ASIC has one mirror for every occupied slot, under the name that
the slot will be deleted under. -/
theorem mirrors_follow_slots (env : Env) {s₀ s : State} (henv : env.Healthy) (h₀ : Initial s₀)
    (h : Reaches env MirrorCall s₀ s) (hfits : s.world.Fits) :
    (s.world.asic.mirrors.map (·.name)).Perm s.mbridge.names ∧ s.mbridge.names.Nodup :=
  have hmatch := h.mirrorsMatch h₀ henv hfits
  ⟨hmatch.perm, hmatch.nodup⟩

instance (m : Mbridge) (b : Ptr) : Decidable (m.Outputs b) :=
  inferInstanceAs (Decidable (∃ i, ∃ mirror ∈ m.mirrors i, mirror.out = some b))

instance (s : State) (q : Ptr) : Decidable (s.IsOutput q) :=
  inferInstanceAs (Decidable (∃ b ∈ s.mbridge.mbundleLookup q, s.mbridge.Outputs b))

instance (s : State) : ∀ op, Decidable (NamesBundles s op)
  | .mirrorSet _ (some settings) => inferInstanceAs (Decidable (
    (∃ out ∈ settings.outBundle, out.ofproto = s.up ∧ (s.bundleLookup out.aux).isSome = true) ∧
    ∀ b ∈ settings.srcs ++ settings.dsts, b.ofproto = s.up ∧ (s.bundleLookup b.aux).isSome = true))
  | .mirrorSet _ none | .bundleSet .. | .bundleRemove _ | .setVlan .. =>
    inferInstanceAs (Decidable True)

instance (s : State) : ∀ op, Decidable (KeepsMirrors s op)
  | .mirrorSet aux (some settings) => inferInstanceAs (Decidable (
    (s.mbridge.mirrorLookup aux = none → s.mbridge.mirrorScan ≠ none →
      strlen settings.name ≤ maxMirrorNameLen) ∧
    ∀ i ∈ s.mbridge.mirrorLookup aux, ∀ mirror ∈ s.mbridge.mirrors i, settings.name = mirror.name ∨
      ∃ sel ∈ s.mirrorSelect settings, mirror.unchanged s.mbridge sel = true))
  | .mirrorSet aux none => inferInstanceAs (Decidable (∀ q ∈ s.bundles,
    s.Destroys (.mirrorSet aux none) q → ¬ s.IsOutput q))
  | .bundleSet aux settings => inferInstanceAs (Decidable (∀ q ∈ s.bundles,
    s.Destroys (.bundleSet aux settings) q → ¬ s.IsOutput q))
  | .bundleRemove p => inferInstanceAs (Decidable (∀ q ∈ s.bundles,
    s.Destroys (.bundleRemove p) q → ¬ s.IsOutput q))
  | .setVlan vid add => inferInstanceAs (Decidable (∀ q ∈ s.bundles,
    s.Destroys (.setVlan vid add) q → ¬ s.IsOutput q))

instance (s : State) (op : Op) (s' : State) : Decidable (MirrorCall s op s') :=
  inferInstanceAs (Decidable (_ ∧ _))

/-- A mirror of `eth1` to `eth2`. -/
def sampleMirror (name : String) (srcs dsts : List Ptr) : OfprotoMirrorSettings :=
  ⟨name, srcs.map (⟨0, ·⟩), dsts.map (⟨0, ·⟩), some ⟨0, 101⟩⟩

/-- A mirror is created, changed and deleted, and another one stays. -/
theorem mirrors_follow_slots_of_delete : ∃ s,
    run sampleEnv (sampleState false) [.setVlan 10 true,
      .bundleSet 100 (some (sampleSettings "eth1" [1] false)),
      .bundleSet 101 (some (sampleSettings "eth2" [2] false)),
      .mirrorSet 200 (some (sampleMirror "ingress" [100] [])),
      .mirrorSet 201 (some (sampleMirror "egress" [] [100])),
      .mirrorSet 200 (some (sampleMirror "ingress" [100] [100])), .mirrorSet 200 none,
      .bundleRemove 1] = .ok s ∧
    (s.world.asic.mirrors.map (·.name)).Perm s.mbridge.names ∧ s.mbridge.names.Nodup := by
  let ops : List Op := [.setVlan 10 true, .bundleSet 100 (some (sampleSettings "eth1" [1] false)),
    .bundleSet 101 (some (sampleSettings "eth2" [2] false)),
    .mirrorSet 200 (some (sampleMirror "ingress" [100] [])),
    .mirrorSet 201 (some (sampleMirror "egress" [] [100])),
    .mirrorSet 200 (some (sampleMirror "ingress" [100] [100])), .mirrorSet 200 none,
    .bundleRemove 1]
  have hmeets : RunMeets sampleEnv MirrorCall (sampleState false) ops := by decide +kernel
  have hobs : (run sampleEnv (sampleState false) ops).toOption.map
      (fun s => decide s.world.Fits) = some true := by decide +kernel
  obtain ⟨s, hrun, hreaches, hfits⟩ := Reaches.of_observed hmeets hobs
  rw [decide_eq_true_eq] at hfits
  exact ⟨s, hrun, mirrors_follow_slots sampleEnv (fun _ _ => rfl) (sampleState_initial false) hreaches
    hfits⟩

/-- A mirror that is renamed is in the ASIC under its new name, and its slot has the old one. -/
theorem mirror_renamed_in_asic_only : ¬ ∀ (env : Env) (s₀ s : State), env.Healthy → Initial s₀ →
    s₀.vrf = false → Reaches env (fun s op _ => NoTeardown s op ∧ NamesBundles s op) s₀ s →
    s.world.Fits → (s.world.asic.mirrors.map (·.name)).Perm s.mbridge.names := by
  intro hall
  let ops : List Op := [.setVlan 10 true, .bundleSet 100 (some (sampleSettings "eth1" [1] false)),
    .bundleSet 101 (some (sampleSettings "eth2" [2] false)),
    .mirrorSet 200 (some (sampleMirror "ingress" [100] [])),
    .mirrorSet 200 (some (sampleMirror "both" [100] [100]))]
  have hmeets : RunMeets sampleEnv (fun s op _ => NoTeardown s op ∧ NamesBundles s op)
      (sampleState false) ops := by decide +kernel
  have hobs : (run sampleEnv (sampleState false) ops).toOption.map (fun s =>
      (decide s.world.Fits, s.world.asic.mirrors.map (·.name), s.mbridge.names)) =
      some (true, ["both"], ["ingress"]) := by decide +kernel
  obtain ⟨s, hrun, hreaches, hs⟩ := Reaches.of_observed hmeets hobs
  simp only [Prod.mk.injEq, decide_eq_true_eq] at hs
  obtain ⟨hfits, hmirrors, hnames⟩ := hs
  have hperm := hall sampleEnv _ s (fun _ _ => rfl) (sampleState_initial false) rfl hreaches hfits
  rw [hmirrors, hnames] at hperm
  exact absurd hperm (by decide)

end ContainerPlugin.Ofproto
