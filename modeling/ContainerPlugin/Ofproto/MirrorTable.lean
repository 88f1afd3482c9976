import ContainerPlugin.Ofproto.MirrorSync

/-!
# The tables of the mirror bridge

Slots, keys, bundles and mirror bundles match in every reachable state, whatever the commands return.
`mirror_set` returns `EFBIG` when no slot is free, and otherwise only as the `errno` of a command that
has failed.
-/

namespace ContainerPlugin.Ofproto

/-- The slots are numbered and keyed as they should be, a key belongs to one bundle, and the mirror
bundles are those of the bundles. -/
structure TablesWellFormed (s : State) : Prop where
  idx : ∀ i mirror, s.mbridge.mirrors i = some mirror → mirror.idx = i
  mirrorAux : ∀ i j mirror mirror', s.mbridge.mirrors i = some mirror →
    s.mbridge.mirrors j = some mirror' → i ≠ j → mirror.aux ≠ mirror'.aux
  bundleAux : s.bundles.Nodup ∧ ∀ q ∈ s.bundles, ∀ q' ∈ s.bundles, q ≠ q' →
    (s.bundle q).aux ≠ (s.bundle q').aux
  mbundle : s.mbridge.mbundles.Nodup ∧ (∀ b ∈ s.mbridge.mbundles, s.mbridge.mbundle b ∈ s.bundles) ∧
    ∀ q ∈ s.bundles, ∃! b, b ∈ s.mbridge.mbundles ∧ s.mbridge.mbundle b = q

/-- The command that creates the mirror called `name` is run in `w`, it fails, and `errno` is `EFBIG`. -/
def LeavesEfbig (env : Env) (w : World) (name : String) (w' : World) : Prop :=
  ∃ row : MirrorRow, row.name = name ∧ w' = (w.system env (.createMirror row)).1 ∧
    (w.system env (.createMirror row)).2 = false ∧
    env.errno w.log (.createMirror row) = Rc.efbig.toInt

section Tables

variable {env : Env} {s s' s₀ : State} {aux : Ptr} {i : Fin maxMirrors} {mirror : Mirror}
  {modify : Bool} {settings : OfprotoMirrorSettings} {rc : Rc}

theorem State.WF.tablesWellFormed (h : s.WF) : TablesWellFormed s where
  idx := h.mbridge.idx
  mirrorAux i j mirror mirror' hi hj hne haux := hne (h.mbridge.aux i j mirror mirror' hi hj haux)
  bundleAux := ⟨h.nodup, fun q hq q' hq' hne haux => hne (h.aux q hq q' hq' haux)⟩
  mbundle := by
    have hperm := h.mbridge.perm
    refine ⟨h.mbridge.nodup, fun b hb => hperm.subset (List.mem_map_of_mem hb), fun q hq => ?_⟩
    obtain ⟨b, hb, rfl⟩ := List.mem_map.mp (hperm.mem_iff.mpr hq)
    refine ⟨b, ⟨hb, rfl⟩, fun b' ⟨hb', heq⟩ => ?_⟩
    exact List.inj_on_of_nodup_map (hperm.nodup_iff.mpr h.nodup) hb' hb heq

/-- The constant is only returned by the search for a free slot. -/
theorem MirrorUpdated.rc_ne (h : MirrorUpdated env i mirror modify settings s s' rc) :
    rc ≠ .efbig := by
  cases h with
  | rejected | unchanged | created => simp
  | failed _ _ _ hcreated =>
    cases hcreated with
    | exceeds => simp
    | run row => split <;> simp

/-- A command that is run is the last one of the log. -/
theorem leavesEfbig_system_iff {w : World} {row : MirrorRow} {name : String} (hname : row.name = name) :
    LeavesEfbig env w name (w.system env (.createMirror row)).1 ↔
      (w.system env (.createMirror row)).2 = false ∧
        env.errno w.log (.createMirror row) = Rc.efbig.toInt := by
  constructor
  · rintro ⟨row', -, hw, hfailed⟩
    have hlog := congrArg World.log hw
    rw [World.log_system, World.log_system, List.append_cancel_left_eq] at hlog
    obtain rfl : row = row' := by simpa using hlog
    exact hfailed
  · exact fun hfailed => ⟨row, hname, rfl, hfailed⟩

theorem not_leavesEfbig (w : World) (name : String) : ¬ LeavesEfbig env w name w := by
  rintro ⟨row, -, hw, -⟩
  have hlog := congrArg World.log hw
  rw [World.log_system] at hlog
  simp at hlog

theorem MirrorCreated.efbig_iff {name : String} (h : MirrorCreated env name s s' rc) :
    rc.toInt = Rc.efbig.toInt ↔ LeavesEfbig env s.world name s'.world := by
  cases h with
  | exceeds => exact iff_of_false (by decide) (not_leavesEfbig _ _)
  | run row hname =>
    rw [leavesEfbig_system_iff hname]
    cases hok : (s.world.system env (.createMirror row)).2 with
    | true => simp [Rc.toInt]
    | false => simp [Rc.toInt]

/-- Where the mirror is new, no command is run before the one that creates it. -/
theorem MirrorUpdated.efbig_iff (h : MirrorUpdated env i mirror false settings s s' rc) :
    rc.toInt = Rc.efbig.toInt ↔ LeavesEfbig env s.world settings.name s'.world := by
  cases h with
  | rejected | unchanged => exact iff_of_false (by decide) (not_leavesEfbig _ _)
  | created _ _ hcreated => exact hcreated.efbig_iff
  | failed _ _ _ hcreated => exact hcreated.efbig_iff

/-- A mirror that could not be created leaves the slots as they were. -/
theorem MirrorUpdated.mirrors_of_new (hnone : s.mbridge.mirrorLookup aux = none)
    (hi : s.mbridge.mirrors i = none) {name : String}
    (h : MirrorUpdated env i (.fresh i aux name) modify settings
      (s.setMirror i (.fresh i aux name)) s' rc) (hrc : rc ≠ .ok) :
    s'.mbridge.mirrors = s.mbridge.mirrors := by
  have hslot : (s.setMirror i (.fresh i aux name)).mbridge.mirrors i = some (.fresh i aux name) :=
    Function.update_self ..
  have hfind : (s.setMirror i (.fresh i aux name)).mbridge.mirrorLookup aux = some i :=
    Mbridge.mirrorLookup_update_of_none hnone rfl rfl
  rw [h.mirrors_of_failed hrc hfind hslot rfl]
  exact (Function.update_idem ..).trans (Function.update_eq_self_iff.mpr hi.symm)

theorem mirrorSet_of_full (haux : s.mbridge.mirrorLookup aux = none)
    (hfull : ∀ i, (s.mbridge.mirrors i).isSome) :
    mirrorSet env s aux (some settings) = .ok (s, .efbig) := by
  simp only [mirrorSet, haux, Mbridge.mirrorScan_eq_none_iff.mpr hfull]

/-- What it means that `EFBIG` comes back for a key without a slot. -/
theorem mirrorSet_efbig_iff (haux : s.mbridge.mirrorLookup aux = none)
    (hset : mirrorSet env s aux (some settings) = .ok (s', rc)) :
    (rc.toInt = Rc.efbig.toInt ↔ (∀ i, (s.mbridge.mirrors i).isSome) ∨
        LeavesEfbig env s.world settings.name s'.world) ∧
      (rc.toInt = Rc.efbig.toInt → s'.mbridge.mirrors = s.mbridge.mirrors) := by
  cases (mirrorSet_ensures (some settings)).of_ok hset with
  | full _ hscan =>
    exact ⟨iff_of_true rfl (.inl (Mbridge.mirrorScan_eq_none_iff.mp hscan)), fun _ => rfl⟩
  | @create _ i _ _ _ hi hupdated =>
    have hfree : ¬ ∀ i, (s.mbridge.mirrors i).isSome := fun hfull => by simpa [hi] using hfull i
    refine ⟨?_, fun hrc => hupdated.mirrors_of_new haux hi ?_⟩
    · rw [or_iff_right hfree]
      exact hupdated.efbig_iff
    · rintro rfl
      cases hrc
  | modify hi haux' => exact absurd haux' (Mbridge.mirrorLookup_eq_none_iff.mp haux _ _ hi)

end Tables

/-- In every reachable state the tables are well formed. For a key without a slot `mirror_set` returns
`EFBIG` when all slots are occupied, and otherwise exactly when the command that creates the mirror
fails and `EFBIG` is in `errno` then; the slots stay as they are. -/
theorem tables_wellFormed (env : Env) {s₀ s : State} (h₀ : Initial s₀)
    (h : Reaches env Sound s₀ s) : TablesWellFormed s ∧
      ∀ (aux : Ptr) (settings : OfprotoMirrorSettings),
        (∀ i mirror, s.mbridge.mirrors i = some mirror → mirror.aux ≠ aux) →
        ((∀ i, (s.mbridge.mirrors i).isSome) →
          mirrorSet env s aux (some settings) = .ok (s, .efbig)) ∧
        ∀ s' rc, mirrorSet env s aux (some settings) = .ok (s', rc) →
          (rc.toInt = Rc.efbig.toInt ↔ (∀ i, (s.mbridge.mirrors i).isSome) ∨
            LeavesEfbig env s.world settings.name s'.world) ∧
          (rc.toInt = Rc.efbig.toInt → s'.mbridge.mirrors = s.mbridge.mirrors) := by
  refine ⟨(h.wf (fun _ _ _ hc => hc) h₀).tablesWellFormed, fun aux settings haux => ?_⟩
  have hnone := Mbridge.mirrorLookup_eq_none_iff.mpr haux
  exact ⟨mirrorSet_of_full hnone, fun s' rc hset => mirrorSet_efbig_iff hnone hset⟩

/-- Two bundles, a mirror of one to the other, and the deletion of the mirror's source. -/
theorem tables_wellFormed_of_mirror : ∃ s,
    run sampleEnv (sampleState false) [.setVlan 10 true,
      .bundleSet 100 (some (sampleSettings "eth1" [1] false)),
      .bundleSet 101 (some (sampleSettings "eth2" [2] false)),
      .mirrorSet 200 (some (sampleMirror "m" [100] [])), .bundleSet 100 none] = .ok s ∧
    TablesWellFormed s := by
  have hmeets : RunMeets sampleEnv Sound (sampleState false) [.setVlan 10 true,
      .bundleSet 100 (some (sampleSettings "eth1" [1] false)),
      .bundleSet 101 (some (sampleSettings "eth2" [2] false)),
      .mirrorSet 200 (some (sampleMirror "m" [100] [])), .bundleSet 100 none] := by
    decide +kernel
  obtain ⟨s, hrun, hreaches⟩ := Reaches.of_runMeets hmeets
  exact ⟨s, hrun, (tables_wellFormed sampleEnv (sampleState_initial false) hreaches).1⟩

/-- Mirrors cannot be created, and `errno` is `EFBIG` from something that was done before. -/
def efbigEnv : Env :=
  { sampleEnv with
    fails := fun _ c => match c with
      | .createMirror _ => true
      | _ => false
    errno := fun _ _ => Rc.efbig.toInt }

/-- With all slots free, a mirror of one existing bundle to another is not created. -/
theorem efbig_with_free_slots : ¬ ∀ (env : Env) (s₀ s : State), Initial s₀ → Reaches env Sound s₀ s →
    s.world.Fits → ∀ (aux : Ptr) (settings : OfprotoMirrorSettings),
    (∀ i mirror, s.mbridge.mirrors i = some mirror → mirror.aux ≠ aux) →
    NamesBundles s (.mirrorSet aux (some settings)) →
    ∀ s' rc, mirrorSet env s aux (some settings) = .ok (s', rc) → s'.world.Fits →
      (rc.toInt = Rc.efbig.toInt ↔ ∀ i, (s.mbridge.mirrors i).isSome) := by
  intro hall
  let ops : List Op := [.setVlan 10 true, .bundleSet 100 (some (sampleSettings "eth1" [1] false)),
    .bundleSet 101 (some (sampleSettings "eth2" [2] false))]
  have hmeets : RunMeets efbigEnv Sound (sampleState false) ops := by decide +kernel
  have hobs : (run efbigEnv (sampleState false) ops).toOption.map (fun s =>
      (decide (s.world.Fits ∧ (∀ i, s.mbridge.mirrors i = none) ∧
          NamesBundles s (.mirrorSet 200 (some (sampleMirror "m" [100] [])))),
        (mirrorSet efbigEnv s 200 (some (sampleMirror "m" [100] []))).toOption.map fun r =>
          (r.2, decide r.1.world.Fits))) = some (true, some (.errno 27, true)) := by decide +kernel
  obtain ⟨s, -, hreaches, hs⟩ := Reaches.of_observed hmeets hobs
  simp only [Prod.mk.injEq, Option.map_eq_some_iff, decide_eq_true_eq] at hs
  obtain ⟨⟨hfits, hfree, hnames⟩, ⟨s', rc⟩, hset, hrc, hfits'⟩ := hs
  have hfull := (hall efbigEnv _ s (sampleState_initial false) hreaches hfits 200
    (sampleMirror "m" [100] []) (fun i mirror hi => by simp [hfree i] at hi) hnames s' rc
    (Except.eq_ok_of_toOption hset) hfits').mp (by rw [show rc = .errno 27 from hrc]; rfl)
  have hsome := hfull ⟨0, by decide⟩
  rw [hfree] at hsome
  cases hsome

end ContainerPlugin.Ofproto
