import ContainerPlugin.Ofproto.MirrorBundles
import ContainerPlugin.Ofproto.Removal

/-!
# The flag of the mirror bridge

`has_mirrors` is set when the selection of a mirror is stored and computed anew when a mirror is
destroyed. A slot is filled before the selection is looked at, so that a mirror which selects nothing
has a slot and never sets the flag.
-/

namespace ContainerPlugin.Ofproto

/-- The flag says whether a slot is occupied. -/
def Mbridge.FlagExact (m : Mbridge) : Prop :=
  m.hasMirrors = true ↔ ∃ i, (m.mirrors i).isSome = true

/-- The settings lead to a mirror bundle at least. -/
def MirrorSelection.Selects (sel : MirrorSelection) (m : Mbridge) : Prop :=
  m.mbundleLookupMultiple sel.srcs ≠ ∅ ∨ m.mbundleLookupMultiple sel.dsts ≠ ∅ ∨ sel.out ≠ none

/-- The first mirror of the table selects something. -/
def FirstSelects (s : State) : Op → Prop
  | .mirrorSet _ (some settings) => (∀ i, s.mbridge.mirrors i = none) →
      ∀ sel ∈ s.mirrorSelect settings, sel.Selects s.mbridge
  | _ => True

section Flag

variable {env : Env} {s s' : State} {m : Mbridge} {aux q mbundle : Ptr} {i : Fin maxMirrors}
  {mirror : Mirror} {modify : Bool} {settings : OfprotoMirrorSettings} {rc : Rc}

theorem Mbridge.FlagExact.congr {m' : Mbridge} (h : m.FlagExact)
    (hflag : m'.hasMirrors = m.hasMirrors)
    (hmirrors : ∀ i, (m'.mirrors i).isSome = (m.mirrors i).isSome) : m'.FlagExact := by
  rw [Mbridge.FlagExact, hflag]
  simp only [hmirrors]
  exact h

/-- A slot that is filled stays filled. -/
theorem isSome_update_of_some {mirrors : Fin maxMirrors → Option Mirror} {mirror' : Mirror}
    (hi : mirrors i = some mirror) (j : Fin maxMirrors) :
    (Function.update mirrors i (some mirror') j).isSome = (mirrors j).isSome := by
  by_cases hj : j = i
  · rw [hj, Function.update_self, hi]
    rfl
  · rw [Function.update_of_ne hj]

/-- The flag is computed anew whenever a mirror is destroyed. -/
theorem Mbridge.flagExact_mirrorDestroy (hfind : m.mirrorLookup aux = some i) :
    (m.mirrorDestroy aux).FlagExact := by
  obtain ⟨mirror, hi, -⟩ := Mbridge.exists_of_mirrorLookup hfind
  rw [Mbridge.mirrorDestroy, hfind]
  simp only [Option.bind_some, hi, Mbridge.FlagExact, List.any_eq_true, List.mem_finRange, true_and]

theorem Mbridge.FlagExact.mirrorDestroy (h : m.FlagExact) (aux : Ptr) :
    (m.mirrorDestroy aux).FlagExact := by
  cases hfind : m.mirrorLookup aux with
  | none =>
    rw [Mbridge.mirrorDestroy, hfind]
    exact h
  | some i => exact Mbridge.flagExact_mirrorDestroy hfind

theorem Mbridge.FlagExact.unregisterFrom (h : m.FlagExact) (mbundle : Ptr) (i : Fin maxMirrors) :
    (m.unregisterFrom mbundle i).FlagExact := by
  rw [Mbridge.unregisterFrom]
  split
  · exact h
  · rename_i mirror hi
    split
    · exact h.mirrorDestroy _
    · split
      · exact h.congr rfl (isSome_update_of_some hi)
      · split
        · exact h.congr rfl (isSome_update_of_some hi)
        · exact h

theorem Mbridge.FlagExact.unregisterBundle (h : m.FlagExact) (q : Ptr) :
    (m.unregisterBundle q).FlagExact := by
  have hloop : ∀ (mbundle : Ptr) (is : List (Fin maxMirrors)) (m : Mbridge), m.FlagExact →
      (is.foldl (Mbridge.unregisterFrom mbundle) m).FlagExact := by
    intro mbundle is
    induction is with
    | nil => exact fun _ hm => hm
    | cons i is ih => exact fun _ hm => ih _ (hm.unregisterFrom mbundle i)
  rw [Mbridge.unregisterBundle]
  split
  · exact h
  · exact (hloop _ _ _ h).congr rfl fun _ => rfl

theorem flagExact_tableInvariant (env : Env) :
    TableInvariant env fun s => s.mbridge.FlagExact where
  congr h hs := h.2 ▸ hs
  create _ hs := hs.congr rfl fun _ => rfl
  destroy q _ hmbridge hs := hmbridge ▸ hs.unregisterBundle q

/-! ## `mirror_set` -/

theorem flagExact_mirrorPrepare (s : State) (i : Fin maxMirrors) (mirror : Mirror) (modify : Bool)
    (sel : MirrorSelection) : (mirrorPrepare env s i mirror modify sel).mbridge.FlagExact := by
  have hflag : (mirrorPrepare env s i mirror modify sel).mbridge.hasMirrors = true := by
    cases modify <;> rfl
  rw [Mbridge.FlagExact, hflag, mirrorPrepare_mirrors]
  exact iff_of_true rfl ⟨i, by rw [Function.update_self]; rfl⟩

/-- Unless the call finds the mirror unchanged, the flag is exact afterwards. -/
theorem MirrorUpdated.flagExact (h : MirrorUpdated env i mirror modify settings s s' rc)
    (hi : s.mbridge.mirrors i = some mirror)
    (hunchanged : ∀ sel, s.mirrorSelect settings = some sel →
      mirror.unchanged s.mbridge sel = true → s.mbridge.FlagExact) : s'.mbridge.FlagExact := by
  cases h with
  | rejected =>
    cases hfind : s.mbridge.mirrorLookup mirror.aux with
    | none => exact absurd rfl (Mbridge.mirrorLookup_eq_none_iff.mp hfind i mirror hi)
    | some j => exact Mbridge.flagExact_mirrorDestroy hfind
  | unchanged hsel hsame => exact hunchanged _ hsel hsame
  | created _ _ hcreated =>
    rw [hcreated.frame.2]
    exact flagExact_mirrorPrepare ..
  | failed _ _ _ hcreated =>
    refine Mbridge.FlagExact.mirrorDestroy ?_ _
    rw [hcreated.frame.2]
    exact flagExact_mirrorPrepare ..

/-- A mirror that selects something is not found unchanged when it is new. -/
theorem MirrorSelection.Selects.unchanged_fresh {sel : MirrorSelection} {name : String}
    (h : sel.Selects m) : (Mirror.fresh i aux name).unchanged m sel = false := by
  rw [Mirror.unchanged, decide_eq_false_iff_not]
  rintro ⟨hsrcs, hdsts, hout⟩
  rcases h with h | h | h
  · exact h hsrcs
  · exact h hdsts
  · exact h hout.symm

theorem MirrorSet.flagExact {settings : Option OfprotoMirrorSettings}
    (h : MirrorSet env aux s settings s' rc) (hs : s.mbridge.FlagExact)
    (hfirst : FirstSelects s (.mirrorSet aux settings)) : s'.mbridge.FlagExact := by
  cases h with
  | full | absent => exact hs
  | modify hi _ hupdated => exact hupdated.flagExact hi fun _ _ _ => hs
  | delete => exact hs.mirrorDestroy _
  | @create settings i _ _ hnone hfree hupdated =>
    refine hupdated.flagExact (by simp [State.setMirror]) fun sel hsel hsame => ?_
    -- the slot is filled and the flag as it was, so there must have been another mirror
    have hframe := s.setMirror_frame i (.fresh i aux settings.name)
    have hflag : s.mbridge.hasMirrors = true := by
      refine hs.mpr ?_
      by_contra hempty
      have hfree' : ∀ i, s.mbridge.mirrors i = none := by
        intro j
        rw [← Option.not_isSome_iff_eq_none]
        exact fun hj => hempty ⟨j, hj⟩
      have hselects := hfirst hfree' sel (hframe.mirrorSelect settings ▸ hsel)
      rw [hframe.unchanged, hselects.unchanged_fresh] at hsame
      cases hsame
    exact iff_of_true hflag ⟨i, by simp [State.setMirror]⟩

end Flag

/-- The flag is exact in every state that is reached by calls whose first mirror selects something,
whatever the commands return. -/
theorem has_mirrors_exact (env : Env) {s₀ s : State} (h₀ : Initial s₀)
    (h : Reaches env (fun s op _ => FirstSelects s op) s₀ s) :
    s.mbridge.hasMirrors = true ↔ ∃ i, (s.mbridge.mirrors i).isSome = true := by
  refine h.invariant (I := fun s => s.mbridge.FlagExact) ?_ fun s op s' hs hfirst hstep => ?_
  · rw [h₀.mbridge]
    exact iff_of_false nofun fun ⟨_, hi⟩ => (nomatch hi)
  · refine (flagExact_tableInvariant env).step (fun aux settings rc hop hset => ?_) hs hstep
    subst hop
    exact hset.flagExact hs hfirst

instance (sel : MirrorSelection) (m : Mbridge) : Decidable (sel.Selects m) :=
  inferInstanceAs (Decidable (_ ∨ _ ∨ _))

instance (s : State) : ∀ op, Decidable (FirstSelects s op)
  | .mirrorSet _ (some settings) => inferInstanceAs (Decidable (
    (∀ i, s.mbridge.mirrors i = none) → ∀ sel ∈ s.mirrorSelect settings, sel.Selects s.mbridge))
  | .mirrorSet _ none | .bundleSet .. | .bundleRemove _ | .setVlan .. =>
    inferInstanceAs (Decidable True)

/-- A mirror that selects nothing. -/
def emptyMirror : OfprotoMirrorSettings := ⟨"m", [], [], none⟩

/-- A mirror that selects nothing follows one whose output is then destroyed. -/
theorem has_mirrors_exact_of_second : ∃ s,
    run sampleEnv (sampleState false) (mirroringOps [] ++
      [.mirrorSet 201 (some emptyMirror), .bundleSet 101 none]) = .ok s ∧
    (s.mbridge.hasMirrors = true ↔ ∃ i, (s.mbridge.mirrors i).isSome = true) := by
  have hmeets : RunMeets sampleEnv (fun s op _ => FirstSelects s op) (sampleState false)
      (mirroringOps [] ++ [.mirrorSet 201 (some emptyMirror), .bundleSet 101 none]) := by
    decide +kernel
  obtain ⟨s, hrun, hreaches⟩ := Reaches.of_runMeets hmeets
  exact ⟨s, hrun, has_mirrors_exact sampleEnv (sampleState_initial false) hreaches⟩

/-- The first mirror selects nothing: it has a slot, and the flag is not set. -/
theorem empty_mirror_without_flag : ¬ ∀ (env : Env) (s₀ s : State), Initial s₀ →
    Reaches env (fun _ _ _ => True) s₀ s →
    (s.mbridge.hasMirrors = true ↔ ∃ i, (s.mbridge.mirrors i).isSome = true) := by
  intro hall
  have hmeets : RunMeets sampleEnv (fun _ _ _ => True) (sampleState false)
      [.mirrorSet 200 (some emptyMirror)] := by decide +kernel
  have hobs : (run sampleEnv (sampleState false) [.mirrorSet 200 (some emptyMirror)]).toOption.map
      (fun s => (s.mbridge.hasMirrors, (s.mbridge.mirrors ⟨0, by decide⟩).isSome)) =
      some (false, true) := by decide +kernel
  obtain ⟨s, -, hreaches, hs⟩ := Reaches.of_observed hmeets hobs
  rw [Prod.mk.injEq] at hs
  have hflag := (hall sampleEnv _ s (sampleState_initial false) hreaches).mpr ⟨_, hs.2⟩
  rw [hs.1] at hflag
  cases hflag

end ContainerPlugin.Ofproto
