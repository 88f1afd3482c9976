import ContainerPlugin.Ofproto.Calls

/-!
# What `mirror_set` does

The slots before and after, in terms of the slot that belongs to the key.
-/

namespace ContainerPlugin.Ofproto

section Tables

variable {m m' : Mbridge} {bundles : List Ptr} {aux : Ptr} {i : Fin maxMirrors} {mirror : Mirror}

theorem Mbridge.mirrorLookup_eq_none_iff :
    m.mirrorLookup aux = none ↔ ∀ i mirror, m.mirrors i = some mirror → mirror.aux ≠ aux := by
  simp only [Mbridge.mirrorLookup, List.find?_eq_none, List.mem_finRange, true_implies]
  constructor
  · intro h i mirror hi haux
    exact h i (by simp [hi, haux])
  · intro h i hi
    cases hmirror : m.mirrors i with
    | none => simp [hmirror] at hi
    | some mirror => exact h i mirror hmirror (by simpa [hmirror] using hi)

theorem Mbridge.exists_of_mirrorLookup (h : m.mirrorLookup aux = some i) :
    ∃ mirror, m.mirrors i = some mirror ∧ mirror.aux = aux := by
  have hi := List.find?_some h
  cases hmirror : m.mirrors i with
  | none => simp [hmirror] at hi
  | some mirror => exact ⟨mirror, rfl, by simpa [hmirror] using hi⟩

theorem Mbridge.mirrorScan_eq_none_iff : m.mirrorScan = none ↔ ∀ i, (m.mirrors i).isSome := by
  simp [Mbridge.mirrorScan, List.find?_eq_none, ← Option.isSome_iff_ne_none]

theorem Mbridge.mirrors_mirrorScan (h : m.mirrorScan = some i) : m.mirrors i = none := by
  simpa using List.find?_some h

theorem Mbridge.mirrors_mirrorDestroy_of_lookup (hfind : m.mirrorLookup aux = some i)
    (hi : m.mirrors i = some mirror) :
    (m.mirrorDestroy aux).mirrors = Function.update m.mirrors mirror.idx none := by
  rw [Mbridge.mirrorDestroy, hfind]
  simp only [Option.bind_some, hi]

/-- A mirror put into the slot that is found for its key is found there. -/
theorem Mbridge.mirrorLookup_update_of_some (hfind : m.mirrorLookup aux = some i)
    (haux : mirror.aux = aux) (hmirrors : m'.mirrors = Function.update m.mirrors i (some mirror)) :
    m'.mirrorLookup aux = some i := by
  obtain ⟨old, hold, hkey⟩ := Mbridge.exists_of_mirrorLookup hfind
  rw [← hfind, Mbridge.mirrorLookup, Mbridge.mirrorLookup, hmirrors]
  congr 1
  funext j
  by_cases hj : j = i
  · subst hj
    simp [hold, hkey, haux]
  · rw [Function.update_of_ne hj]

theorem Mbridge.mirrorLookup_update_of_none (hnone : m.mirrorLookup aux = none)
    (haux : mirror.aux = aux) (hmirrors : m'.mirrors = Function.update m.mirrors i (some mirror)) :
    m'.mirrorLookup aux = some i := by
  cases hfind : m'.mirrorLookup aux with
  | none =>
    refine absurd haux (Mbridge.mirrorLookup_eq_none_iff.mp hfind i mirror ?_)
    rw [hmirrors, Function.update_self]
  | some j =>
    obtain ⟨other, hj, hkey⟩ := Mbridge.exists_of_mirrorLookup hfind
    by_cases hji : j = i
    · rw [hji]
    · rw [hmirrors, Function.update_of_ne hji] at hj
      exact absurd hkey (Mbridge.mirrorLookup_eq_none_iff.mp hnone j other hj)

theorem Mbridge.WF.mirrorLookup_eq (h : m.WF bundles) (hi : m.mirrors i = some mirror) :
    m.mirrorLookup mirror.aux = some i := by
  cases hfind : m.mirrorLookup mirror.aux with
  | none => exact absurd rfl (Mbridge.mirrorLookup_eq_none_iff.mp hfind i mirror hi)
  | some j =>
    obtain ⟨mirror', hj, haux⟩ := Mbridge.exists_of_mirrorLookup hfind
    rw [h.aux j i mirror' mirror hj hi haux]

/-- The search by key clears the slot of the mirror. -/
theorem Mbridge.WF.mirrors_mirrorDestroy (h : m.WF bundles) (hi : m.mirrors i = some mirror) :
    (m.mirrorDestroy mirror.aux).mirrors = Function.update m.mirrors i none := by
  rw [Mbridge.mirrors_mirrorDestroy_of_lookup (h.mirrorLookup_eq hi) hi, h.idx i mirror hi]

end Tables

/-- From `s` to `s'` only mirrors were changed. -/
structure State.MirrorFrame (s s' : State) : Prop where
  up : s'.up = s.up
  name : s'.name = s.name
  bundles : s'.bundles = s.bundles
  bundle : s'.bundle = s.bundle
  links : s'.links = s.links
  vlansBmp : s'.vlansBmp = s.vlansBmp
  vlanIntfBmp : s'.vlanIntfBmp = s.vlanIntfBmp
  mbundles : s'.mbridge.mbundles = s.mbridge.mbundles
  mbundle : s'.mbridge.mbundle = s.mbridge.mbundle
  ovs : s.OvsFrame s'

theorem State.MirrorFrame.refl (s : State) : s.MirrorFrame s :=
  ⟨rfl, rfl, rfl, rfl, rfl, rfl, rfl, rfl, rfl, rfl, rfl, rfl, .refl _⟩

theorem State.MirrorFrame.trans {s s' s'' : State} (h : s.MirrorFrame s') (h' : s'.MirrorFrame s'') :
    s.MirrorFrame s'' where
  up := h'.up.trans h.up
  name := h'.name.trans h.name
  bundles := h'.bundles.trans h.bundles
  bundle := h'.bundle.trans h.bundle
  links := h'.links.trans h.links
  vlansBmp := h'.vlansBmp.trans h.vlansBmp
  vlanIntfBmp := h'.vlanIntfBmp.trans h.vlanIntfBmp
  mbundles := h'.mbundles.trans h.mbundles
  mbundle := h'.mbundle.trans h.mbundle
  ovs := ⟨h'.ovs.ports.trans h.ovs.ports, h'.ovs.port.trans h.ovs.port, h'.ovs.vrf.trans h.ovs.vrf,
    h.ovs.world.trans h'.ovs.world⟩

/-- What becomes of the command that creates a mirror called `name`. -/
inductive MirrorCreated (env : Env) (name : String) (s : State) : State → Rc → Prop where
  | exceeds : MirrorCreated env name s s .emsgsize
  | run (row : MirrorRow) : row.name = name → row.pieces ≠ [] →
      MirrorCreated env name s { s with world := (s.world.system env (.createMirror row)).1 }
        (if (s.world.system env (.createMirror row)).2 then .ok
          else .errno (env.errno s.world.log (.createMirror row)))

/-- What `mirror_set` does with the mirror in slot `i`. -/
inductive MirrorUpdated (env : Env) (i : Fin maxMirrors) (mirror : Mirror) (modify : Bool)
    (settings : OfprotoMirrorSettings) (s : State) : State → Rc → Prop where
  | rejected : s.mirrorSelect settings = none →
      MirrorUpdated env i mirror modify settings s (s.mirrorDestroy mirror.aux) .einval
  | unchanged {sel : MirrorSelection} : s.mirrorSelect settings = some sel →
      mirror.unchanged s.mbridge sel = true →
      MirrorUpdated env i mirror modify settings s s .ok
  | created {sel : MirrorSelection} {s' : State} : s.mirrorSelect settings = some sel →
      mirror.unchanged s.mbridge sel = false →
      MirrorCreated env settings.name (mirrorPrepare env s i mirror modify sel) s' .ok →
      MirrorUpdated env i mirror modify settings s s' .ok
  | failed {sel : MirrorSelection} {s' : State} {rc : Rc} : s.mirrorSelect settings = some sel →
      mirror.unchanged s.mbridge sel = false → rc ≠ .ok →
      MirrorCreated env settings.name (mirrorPrepare env s i mirror modify sel) s' rc →
      MirrorUpdated env i mirror modify settings s (s'.mirrorDestroy mirror.aux) rc

/-- What `mirror_set` does. -/
inductive MirrorSet (env : Env) (aux : Ptr) (s : State) :
    Option OfprotoMirrorSettings → State → Rc → Prop where
  | full {settings : OfprotoMirrorSettings} : s.mbridge.mirrorLookup aux = none →
      s.mbridge.mirrorScan = none → MirrorSet env aux s (some settings) s .efbig
  | create {settings : OfprotoMirrorSettings} {i : Fin maxMirrors} {s' : State} {rc : Rc} :
      s.mbridge.mirrorLookup aux = none → s.mbridge.mirrors i = none →
      MirrorUpdated env i (.fresh i aux settings.name) false settings
        (s.setMirror i (.fresh i aux settings.name)) s' rc →
      MirrorSet env aux s (some settings) s' rc
  | modify {settings : OfprotoMirrorSettings} {i : Fin maxMirrors} {mirror : Mirror} {s' : State}
      {rc : Rc} : s.mbridge.mirrors i = some mirror → mirror.aux = aux →
      MirrorUpdated env i mirror true settings s s' rc →
      MirrorSet env aux s (some settings) s' rc
  | absent : s.mbridge.mirrorLookup aux = none → MirrorSet env aux s none s .ok
  | delete {i : Fin maxMirrors} {mirror : Mirror} {rc : Rc} : s.mbridge.mirrors i = some mirror →
      mirror.aux = aux →
      MirrorSet env aux s none ((s.system env (.removeMirror mirror.name)).mirrorDestroy aux) rc

section Effects

variable {env : Env} {s s' : State} {aux : Ptr} {i : Fin maxMirrors} {mirror : Mirror} {modify : Bool}
  {settings : OfprotoMirrorSettings}

theorem mirrorCreate_ensures (s : State) (name : String) (sel : MirrorSelection) :
    (mirrorCreate env s name sel).Ensures (fun _ => True)
      fun r => MirrorCreated env name s r.1 r.2 := by
  have htrue : ∀ {α : Type} (r : Except Fault α), r.Ensures (fun _ => True) fun _ => True := by
    intro α r
    cases r <;> trivial
  refine (htrue _).bind fun srcs _ => (htrue _).bind fun dsts _ => (htrue _).bind fun text _ =>
    (htrue _).bind fun text' _ => ?_
  split
  · trivial
  · refine (htrue _).bind fun bundle _ => ?_
    split
    · exact .exceeds
    · refine (htrue _).bind fun _ _ => ?_
      exact .run ⟨name, srcs, dsts, some bundle.name⟩ rfl (by simp [MirrorRow.pieces, outputPieces])

theorem mirrorUpdate_ensures :
    (mirrorUpdate env s i mirror modify settings).Ensures (fun _ => True)
      fun r => MirrorUpdated env i mirror modify settings s r.1 r.2 := by
  rw [mirrorUpdate]
  split
  · exact .rejected ‹_›
  · rename_i sel hsel
    split
    · exact .unchanged hsel ‹_›
    · rename_i hchanged
      rw [Bool.not_eq_true] at hchanged
      refine (mirrorCreate_ensures _ _ _).bind fun r hcreated => ?_
      obtain ⟨s', rc⟩ := r
      dsimp only at hcreated ⊢
      split
      · rename_i hok
        subst hok
        exact .created hsel hchanged hcreated
      · exact .failed hsel hchanged ‹_› hcreated

theorem mirrorSet_ensures (settings : Option OfprotoMirrorSettings) :
    (mirrorSet env s aux settings).Ensures (fun _ => True)
      fun r => MirrorSet env aux s settings r.1 r.2 := by
  cases settings with
  | none =>
    rw [mirrorSet]
    cases hfind : s.mbridge.mirrorLookup aux with
    | none => exact .absent hfind
    | some i =>
      obtain ⟨mirror, hi, haux⟩ := Mbridge.exists_of_mirrorLookup hfind
      simp only [Option.bind_some, hi]
      exact .delete hi haux
  | some settings =>
    rw [mirrorSet]
    cases hfind : s.mbridge.mirrorLookup aux with
    | none =>
      cases hscan : s.mbridge.mirrorScan with
      | none => exact .full hfind hscan
      | some i =>
        exact mirrorUpdate_ensures.mono fun r hr =>
          .create hfind (Mbridge.mirrors_mirrorScan hscan) hr
    | some i =>
      obtain ⟨mirror, hi, haux⟩ := Mbridge.exists_of_mirrorLookup hfind
      simp only [hi]
      exact mirrorUpdate_ensures.mono fun r hr => .modify hi haux hr

/-! ## The slots -/

theorem State.setMirror_frame (s : State) (i : Fin maxMirrors) (mirror : Mirror) :
    s.MirrorFrame (s.setMirror i mirror) :=
  ⟨rfl, rfl, rfl, rfl, rfl, rfl, rfl, rfl, rfl, rfl, rfl, rfl, .refl _⟩

theorem State.mirrorDestroy_frame (s : State) (aux : Ptr) : s.MirrorFrame (s.mirrorDestroy aux) :=
  ⟨rfl, rfl, rfl, rfl, rfl, rfl, rfl, by simp [State.mirrorDestroy], by simp [State.mirrorDestroy],
    rfl, rfl, rfl, .refl _⟩

theorem State.system_mirrorFrame (s : State) {c : Cmd} (hc : c.IsOvs) :
    s.MirrorFrame (s.system env c) :=
  ⟨rfl, rfl, rfl, rfl, rfl, rfl, rfl, rfl, rfl, s.ovsFrame_system hc⟩

theorem mirrorPrepare_frame (s : State) (i : Fin maxMirrors) (mirror : Mirror) (modify : Bool)
    (sel : MirrorSelection) : s.MirrorFrame (mirrorPrepare env s i mirror modify sel) := by
  have hset : s.MirrorFrame { s.setMirror i (mirror.withSelection s.mbridge sel) with
      mbridge := { (s.setMirror i (mirror.withSelection s.mbridge sel)).mbridge with
        hasMirrors := true } } :=
    ⟨rfl, rfl, rfl, rfl, rfl, rfl, rfl, rfl, rfl, rfl, rfl, rfl, .refl _⟩
  have hovs : (Cmd.removeMirror mirror.name).IsOvs := trivial
  rw [mirrorPrepare]
  dsimp only
  split
  · exact hset.trans (State.system_mirrorFrame _ hovs)
  · exact hset

theorem mirrorPrepare_mirrors (s : State) (i : Fin maxMirrors) (mirror : Mirror) (modify : Bool)
    (sel : MirrorSelection) : (mirrorPrepare env s i mirror modify sel).mbridge.mirrors =
      Function.update s.mbridge.mirrors i (some (mirror.withSelection s.mbridge sel)) := by
  cases modify <;> rfl

theorem MirrorCreated.frame {name : String} {rc : Rc} (h : MirrorCreated env name s s' rc) :
    s.MirrorFrame s' ∧ s'.mbridge = s.mbridge := by
  cases h with
  | exceeds => exact ⟨.refl s, rfl⟩
  | run row =>
    have hovs : (Cmd.createMirror row).IsOvs := trivial
    exact ⟨s.system_mirrorFrame hovs, rfl⟩

/-- `mirror_destroy` after the new selection was stored. -/
theorem mirrors_mirrorDestroy_prepare {sel : MirrorSelection}
    (hs' : s'.mbridge = (mirrorPrepare env s i mirror modify sel).mbridge)
    (hfind : s.mbridge.mirrorLookup mirror.aux = some i) :
    (s'.mirrorDestroy mirror.aux).mbridge.mirrors =
      Function.update (Function.update s.mbridge.mirrors i
        (some (mirror.withSelection s.mbridge sel))) mirror.idx none := by
  have hmirrors : s'.mbridge.mirrors =
      Function.update s.mbridge.mirrors i (some (mirror.withSelection s.mbridge sel)) := by
    rw [hs']
    exact mirrorPrepare_mirrors ..
  have haux : (mirror.withSelection s.mbridge sel).aux = mirror.aux := rfl
  have hfind' := Mbridge.mirrorLookup_update_of_some hfind haux hmirrors
  have hi : s'.mbridge.mirrors i = some (mirror.withSelection s.mbridge sel) := by
    rw [hmirrors, Function.update_self]
  rw [State.mirrorDestroy, Mbridge.mirrors_mirrorDestroy_of_lookup hfind' hi, hmirrors]
  rfl

/-- A call that fails gives the slot up. -/
theorem MirrorUpdated.mirrors_of_failed {rc : Rc}
    (h : MirrorUpdated env i mirror modify settings s s' rc) (hrc : rc ≠ .ok)
    (hfind : s.mbridge.mirrorLookup mirror.aux = some i) (hi : s.mbridge.mirrors i = some mirror)
    (hidx : mirror.idx = i) : s'.mbridge.mirrors = Function.update s.mbridge.mirrors i none := by
  cases h with
  | rejected => rw [State.mirrorDestroy, Mbridge.mirrors_mirrorDestroy_of_lookup hfind hi, hidx]
  | unchanged | created => exact absurd rfl hrc
  | failed _ _ _ hcreated =>
    rw [mirrors_mirrorDestroy_prepare hcreated.frame.2 hfind, hidx, Function.update_idem]

theorem MirrorUpdated.frame {rc : Rc} (h : MirrorUpdated env i mirror modify settings s s' rc) :
    s.MirrorFrame s' := by
  cases h with
  | rejected => exact s.mirrorDestroy_frame _
  | unchanged => exact .refl s
  | created _ _ hcreated => exact (mirrorPrepare_frame ..).trans hcreated.frame.1
  | failed _ _ _ hcreated =>
    exact ((mirrorPrepare_frame ..).trans hcreated.frame.1).trans (State.mirrorDestroy_frame _ _)

theorem MirrorSet.frame {settings : Option OfprotoMirrorSettings} {rc : Rc}
    (h : MirrorSet env aux s settings s' rc) : s.MirrorFrame s' := by
  cases h with
  | full | absent => exact .refl s
  | create _ _ hupdated => exact (s.setMirror_frame _ _).trans hupdated.frame
  | modify _ _ hupdated => exact hupdated.frame
  | @delete i mirror =>
    have hovs : (Cmd.removeMirror mirror.name).IsOvs := trivial
    exact (s.system_mirrorFrame hovs).trans (State.mirrorDestroy_frame _ _)

theorem mirrorPrepare_wf {bundles : List Ptr} (hwf : s.mbridge.WF bundles)
    (hi : s.mbridge.mirrors i = some mirror) (sel : MirrorSelection) :
    (mirrorPrepare env s i mirror modify sel).mbridge.WF bundles :=
  hwf.setMirror (mirrorPrepare_mirrors ..) (mirrorPrepare_frame ..).mbundles
    (mirrorPrepare_frame ..).mbundle (hwf.idx i mirror hi)
    fun j mirror' hj haux => hwf.aux j i mirror' mirror hj hi haux

/-- The slot of the key may be given up, and a mirror of the same slot, key and name may be put into
it; the other slots stay as they are. -/
theorem MirrorUpdated.wf {bundles : List Ptr} {rc : Rc}
    (h : MirrorUpdated env i mirror modify settings s s' rc) (hwf : s.mbridge.WF bundles)
    (hi : s.mbridge.mirrors i = some mirror) : s'.mbridge.WF bundles := by
  cases h with
  | rejected => exact hwf.mirrorDestroy _
  | unchanged => exact hwf
  | created _ _ hcreated =>
    rw [hcreated.frame.2]
    exact mirrorPrepare_wf hwf hi _
  | @failed sel s₂ _ _ _ _ hcreated =>
    have hwf₂ : s₂.mbridge.WF bundles := by
      rw [hcreated.frame.2]
      exact mirrorPrepare_wf hwf hi _
    exact hwf₂.mirrorDestroy _

theorem MirrorSet.wf {settings : Option OfprotoMirrorSettings} {rc : Rc}
    (h : MirrorSet env aux s settings s' rc) (hwf : s.WF) : s'.WF := by
  have hframe := h.frame
  refine ⟨hwf.toListsWF.congr hframe.ovs.ports (fun p _ => by rw [hframe.ovs.port]) hframe.bundles
    (fun q => by rw [hframe.bundle]) hframe.links, ?_⟩
  rw [hframe.bundles]
  cases h with
  | full | absent => exact hwf.mbridge
  | @create settings i _ _ hnone hfree hupdated =>
    refine hupdated.wf (hwf.mbridge.setMirror rfl rfl rfl rfl fun j mirror' hj haux => ?_)
      (by simp [State.setMirror])
    exact absurd haux (Mbridge.mirrorLookup_eq_none_iff.mp hnone j mirror' hj)
  | modify hi _ hupdated => exact hupdated.wf hwf.mbridge hi
  | delete => exact hwf.mbridge.mirrorDestroy _

end Effects

end ContainerPlugin.Ofproto
