import ContainerPlugin.Ofproto.MirrorSync

/-!
# References to a mirror bundle that goes

`mbridge_unregister_bundle` goes over the slots before it frees the mirror bundle. The turn for a slot
concerns this slot only: a mirror that has the bundle as its output is destroyed, any other loses it
as a source or, if it is no source, as a destination. The two deletions are joined by `||`, so that a
bundle that is both stays a destination.
-/

namespace ContainerPlugin.Ofproto

variable {m m' : Mbridge} {bundles : List Ptr} {b q : Ptr} {i : Fin maxMirrors} {mirror : Mirror}

/-- What is left of a mirror. -/
def Mirror.unregister (b : Ptr) (mirror : Mirror) : Option Mirror :=
  if mirror.out = some b then none
  else if b ∈ mirror.srcs then some { mirror with srcs := mirror.srcs.erase b }
  else if b ∈ mirror.dsts then some { mirror with dsts := mirror.dsts.erase b }
  else some mirror

/-- The mirror stays and loses the bundle as a source or as a destination. -/
def Mirror.Loses (b : Ptr) (mirror : Mirror) : Prop :=
  mirror.out ≠ some b ∧ (b ∈ mirror.srcs ∨ b ∈ mirror.dsts)

/-! ## The loop over the slots -/

theorem Mbridge.needRevalidate_mirrorDestroy (m : Mbridge) (aux : Ptr) :
    (m.mirrorDestroy aux).needRevalidate = m.needRevalidate := by
  rw [Mbridge.mirrorDestroy]
  split <;> rfl

/-- One turn concerns one slot. -/
theorem Mbridge.WF.unregisterFrom_spec (h : m.WF bundles) (b : Ptr) (i : Fin maxMirrors) :
    (m.unregisterFrom b i).mirrors =
        Function.update m.mirrors i ((m.mirrors i).bind (Mirror.unregister b)) ∧
      ((m.unregisterFrom b i).needRevalidate = true ↔ m.needRevalidate = true ∨
        ∃ mirror, m.mirrors i = some mirror ∧ mirror.Loses b) := by
  rw [Mbridge.unregisterFrom]
  cases hi : m.mirrors i with
  | none =>
    refine ⟨?_, by simp⟩
    simp only [Option.bind_none]
    exact (Function.update_eq_self_iff.2 hi.symm).symm
  | some mirror =>
    have hloses : (∃ mirror', some mirror = some mirror' ∧ mirror'.Loses b) ↔ mirror.Loses b := by
      simp
    rw [hloses, Option.bind_some, Mirror.unregister]
    simp only
    split
    · rename_i hout
      refine ⟨h.mirrors_mirrorDestroy hi, ?_⟩
      rw [Mbridge.needRevalidate_mirrorDestroy]
      exact (or_iff_left fun hloses => hloses.1 hout).symm
    · rename_i hout
      split
      · rename_i hsrc
        exact ⟨rfl, iff_of_true rfl (.inr ⟨hout, .inl hsrc⟩)⟩
      · rename_i hsrc
        split
        · rename_i hdst
          exact ⟨rfl, iff_of_true rfl (.inr ⟨hout, .inr hdst⟩)⟩
        · rename_i hdst
          refine ⟨by rw [← hi, Function.update_eq_self], (or_iff_left ?_).symm⟩
          exact fun hloses => hloses.2.elim hsrc hdst

/-- The turns for the slots `l`, each of which is visited once. -/
theorem Mbridge.WF.foldl_unregisterFrom (h : m.WF bundles) (b : Ptr) {l : List (Fin maxMirrors)}
    (hl : l.Nodup) :
    let m' := l.foldl (Mbridge.unregisterFrom b) m
    (∀ i ∈ l, m'.mirrors i = (m.mirrors i).bind (Mirror.unregister b)) ∧
      (∀ i ∉ l, m'.mirrors i = m.mirrors i) ∧ m'.mbundles = m.mbundles ∧
      (m'.needRevalidate = true ↔ m.needRevalidate = true ∨
        ∃ i ∈ l, ∃ mirror, m.mirrors i = some mirror ∧ mirror.Loses b) := by
  induction l generalizing m with
  | nil => exact ⟨nofun, fun _ _ => rfl, rfl, by simp⟩
  | cons i l ih =>
    rw [List.nodup_cons] at hl
    obtain ⟨hmirrors, hneed⟩ := h.unregisterFrom_spec b i
    obtain ⟨hdone, hrest, hmbundles, hrevalidate⟩ := ih (h.unregisterFrom b i) hl.2
    have hother : ∀ j ≠ i, (m.unregisterFrom b i).mirrors j = m.mirrors j := fun j hj => by
      rw [hmirrors, Function.update_of_ne hj]
    simp only [List.foldl_cons]
    refine ⟨List.forall_mem_cons.2 ⟨?_, fun j hj => ?_⟩, fun j hj => ?_, ?_, ?_⟩
    · rw [hrest i hl.1, hmirrors, Function.update_self]
    · rw [hdone j hj, hother j fun heq => hl.1 (heq ▸ hj)]
    · rw [List.mem_cons, not_or] at hj
      rw [hrest j hj.2, hother j hj.1]
    · exact hmbundles.trans (m.mbundles_unregisterFrom b i).1
    · rw [hrevalidate, hneed, or_assoc, List.exists_mem_cons_iff]
      refine or_congr_right (or_congr_right (exists_congr fun j => and_congr_right fun hj => ?_))
      rw [hother j fun heq => hl.1 (heq ▸ hj)]

/-! ## Unregistering a bundle -/

/-- After the bundle with the mirror bundle `b` has been unregistered, nothing refers to `b`. The
mirrors it was the output of are gone, all others are there with their other sources and
destinations, and a change is reported. -/
structure Mbridge.Unregistered (b : Ptr) (m m' : Mbridge) : Prop where
  removed : b ∉ m'.mbundles
  free : ∀ i mirror, m'.mirrors i = some mirror →
    b ∉ mirror.srcs ∧ b ∉ mirror.dsts ∧ mirror.out ≠ some b
  gone : ∀ i mirror, m.mirrors i = some mirror → mirror.out = some b → m'.mirrors i = none
  kept : ∀ i mirror, m.mirrors i = some mirror → mirror.out ≠ some b → ∃ srcs dsts,
    m'.mirrors i = some { mirror with srcs := srcs, dsts := dsts } ∧
      srcs.erase b = mirror.srcs.erase b ∧ dsts.erase b = mirror.dsts.erase b
  unoccupied : ∀ i, m.mirrors i = none → m'.mirrors i = none
  revalidate : ∀ i mirror mirror', m.mirrors i = some mirror → m'.mirrors i = some mirror' →
    (mirror'.srcs ≠ mirror.srcs ∨ mirror'.dsts ≠ mirror.dsts) → m'.needRevalidate = true

/-- No mirror that stays has the mirror bundle both as a source and as a destination. -/
def Mbridge.OneRole (m : Mbridge) (b : Ptr) : Prop :=
  ∀ i, ∀ mirror ∈ m.mirrors i, mirror.out ≠ some b → ¬ (b ∈ mirror.srcs ∧ b ∈ mirror.dsts)

theorem Mbridge.WF.unregisterBundle_spec (h : m.WF bundles) (hb : m.mbundleLookup q = some b) :
    (∀ i, (m.unregisterBundle q).mirrors i = (m.mirrors i).bind (Mirror.unregister b)) ∧
      (m.unregisterBundle q).mbundles = m.mbundles.erase b ∧
      ((m.unregisterBundle q).needRevalidate = true ↔ m.needRevalidate = true ∨
        ∃ i mirror, m.mirrors i = some mirror ∧ mirror.Loses b) := by
  obtain ⟨hdone, -, hmbundles, hneed⟩ := h.foldl_unregisterFrom b (List.nodup_finRange maxMirrors)
  simp only [Mbridge.unregisterBundle, hb]
  refine ⟨fun i => hdone i (List.mem_finRange i), by rw [hmbundles], hneed.trans ?_⟩
  simp only [List.mem_finRange, true_and]

theorem Mirror.unregister_of_out (hout : mirror.out = some b) : mirror.unregister b = none :=
  if_pos hout

/-- A mirror that stays loses the bundle once. -/
theorem Mirror.unregister_of_stays (hout : mirror.out ≠ some b) : ∃ srcs dsts,
    mirror.unregister b = some { mirror with srcs := srcs, dsts := dsts } ∧
      srcs.erase b = mirror.srcs.erase b ∧ dsts.erase b = mirror.dsts.erase b ∧ b ∉ srcs ∧
      (b ∈ dsts ↔ b ∈ mirror.srcs ∧ b ∈ mirror.dsts) ∧
      ((srcs ≠ mirror.srcs ∨ dsts ≠ mirror.dsts) → mirror.Loses b) := by
  rw [Mirror.unregister, if_neg hout]
  split
  · rename_i hsrc
    exact ⟨_, _, rfl, Finset.erase_idem, rfl, Finset.notMem_erase b _,
      (and_iff_right hsrc).symm, fun _ => ⟨hout, .inl hsrc⟩⟩
  · rename_i hsrc
    split
    · rename_i hdst
      refine ⟨_, _, rfl, rfl, Finset.erase_idem, hsrc, ?_, fun _ => ⟨hout, .inr hdst⟩⟩
      exact iff_of_false (Finset.notMem_erase b _) fun h => hsrc h.1
    · rename_i hdst
      refine ⟨_, _, rfl, rfl, rfl, hsrc, iff_of_false hdst fun h => hsrc h.1, ?_⟩
      exact fun hne => hne.elim (absurd rfl) (absurd rfl)

/-- Unregistering a bundle leaves no reference to its mirror bundle, and everything else as it was,
if and only if no mirror that stays has it in two roles. -/
theorem unregister_no_dangling_iff (h : m.WF bundles) (hb : m.mbundleLookup q = some b) :
    Mbridge.Unregistered b m (m.unregisterBundle q) ↔ m.OneRole b := by
  obtain ⟨hmirrors, hmbundles, hneed⟩ := h.unregisterBundle_spec hb
  constructor
  · intro hun i mirror hi hout hboth
    obtain ⟨srcs, dsts, hleft, -, -, -, hdst, -⟩ := Mirror.unregister_of_stays hout
    have hi' := hmirrors i
    rw [hi, Option.bind_some, hleft] at hi'
    exact (hun.free i _ hi').2.1 (hdst.2 hboth)
  · intro hone
    constructor
    case removed =>
      rw [hmbundles]
      exact h.nodup.not_mem_erase
    case free =>
      intro i mirror' hi'
      rw [hmirrors i] at hi'
      obtain ⟨mirror, hi, hleft⟩ := Option.bind_eq_some_iff.1 hi'
      by_cases hout : mirror.out = some b
      · rw [Mirror.unregister_of_out hout] at hleft
        cases hleft
      · obtain ⟨srcs, dsts, heq, -, -, hsrc, hdst, -⟩ := Mirror.unregister_of_stays hout
        rw [heq] at hleft
        cases hleft
        exact ⟨hsrc, fun hmem => hone i mirror hi hout (hdst.1 hmem), hout⟩
    case gone =>
      intro i mirror hi hout
      rw [hmirrors i, hi, Option.bind_some, Mirror.unregister_of_out hout]
    case kept =>
      intro i mirror hi hout
      obtain ⟨srcs, dsts, hleft, hsrcs, hdsts, -⟩ := Mirror.unregister_of_stays hout
      refine ⟨srcs, dsts, ?_, hsrcs, hdsts⟩
      rw [hmirrors i, hi, Option.bind_some, hleft]
    case unoccupied =>
      intro i hi
      rw [hmirrors i, hi, Option.bind_none]
    case revalidate =>
      intro i mirror mirror' hi hi' hne
      rw [hmirrors i, hi, Option.bind_some] at hi'
      by_cases hout : mirror.out = some b
      · rw [Mirror.unregister_of_out hout] at hi'
        cases hi'
      · obtain ⟨srcs, dsts, hleft, -, -, -, -, hloses⟩ := Mirror.unregister_of_stays hout
        rw [hleft] at hi'
        cases hi'
        exact hneed.2 (.inr ⟨i, mirror, hi, hloses hne⟩)

/-! ## A bundle that is mirrored -/

/-- Bundle 100 is mirrored to bundle 101, in one direction or in both; both are in the ASIC. -/
def mirroringOps (dsts : List Ptr) : List Op :=
  [.setVlan 10 true, .bundleSet 100 (some (sampleSettings "eth1" [1] false)),
    .bundleSet 101 (some (sampleSettings "eth2" [2] false)),
    .mirrorSet 200 (some (sampleMirror "m" [100] dsts))]

instance (m : Mbridge) (b : Ptr) : Decidable (m.OneRole b) :=
  inferInstanceAs (Decidable (∀ i, ∀ mirror ∈ m.mirrors i, _ ≠ _ → ¬ (_ ∧ _)))

/-- The bundle is a source only. -/
theorem unregister_no_dangling_of_source : ∃ s b,
    run sampleEnv (sampleState false) (mirroringOps []) = .ok s ∧
    s.mbridge.mbundleLookup 1 = some b ∧
    Mbridge.Unregistered b s.mbridge (s.mbridge.unregisterBundle 1) := by
  have hmeets : RunMeets sampleEnv Sound (sampleState false) (mirroringOps []) := by
    decide +kernel
  have hobs : (run sampleEnv (sampleState false) (mirroringOps [])).toOption.map (fun s =>
      (s.mbridge.mbundleLookup 1, decide (s.mbridge.OneRole 1))) = some (some 1, true) := by
    decide +kernel
  obtain ⟨s, hrun, hreaches, hs⟩ := Reaches.of_observed hmeets hobs
  simp only [Prod.mk.injEq, decide_eq_true_eq] at hs
  have hwf := hreaches.wf (fun _ _ _ hc => hc) (sampleState_initial false)
  exact ⟨s, 1, hrun, hs.1, (unregister_no_dangling_iff hwf.mbridge hs.1).2 hs.2⟩

/-- The bundle is a source and a destination of one mirror: its mirror bundle stays a destination. -/
theorem unregister_leaves_destination : ¬ ∀ (m : Mbridge) (bundles : List Ptr) (q b : Ptr),
    m.WF bundles → m.mbundleLookup q = some b →
      Mbridge.Unregistered b m (m.unregisterBundle q) := by
  intro hall
  have hmeets : RunMeets sampleEnv Sound (sampleState false) (mirroringOps [100]) := by
    decide +kernel
  have hobs : (run sampleEnv (sampleState false) (mirroringOps [100])).toOption.map (fun s =>
      (s.mbridge.mbundleLookup 1, ((s.mbridge.unregisterBundle 1).mirrors ⟨0, by decide⟩).any
        fun mirror => 1 ∈ mirror.dsts)) = some (some 1, true) := by
    decide +kernel
  obtain ⟨s, -, hreaches, hs⟩ := Reaches.of_observed hmeets hobs
  simp only [Prod.mk.injEq] at hs
  have hwf := hreaches.wf (fun _ _ _ hc => hc) (sampleState_initial false)
  have hun := hall s.mbridge s.bundles 1 1 hwf.mbridge hs.1
  obtain ⟨mirror, hmirror, hdst⟩ := (Option.any_eq_true _ _).1 hs.2
  exact (hun.free _ mirror hmirror).2.1 (of_decide_eq_true hdst)

end ContainerPlugin.Ofproto
