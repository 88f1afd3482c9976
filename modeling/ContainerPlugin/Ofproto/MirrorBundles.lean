import ContainerPlugin.Ofproto.MirrorLength

/-!
# Mirrors of bundles that do not exist

The settings of a mirror may name keys that have no bundle, and no output at all. The sets that are
compared leave such keys out, the command is printed from the bundles themselves.
-/

namespace ContainerPlugin.Ofproto

/-- The name of the bundle that a reference leads to. -/
def State.mirrorBundleName (s : State) (b : OfprotoMirrorBundle) : String :=
  ((s.bundleLookup b.aux).map fun q => (s.bundle q).name).getD ""

/-- The names that the settings lead to. -/
def State.mirrorRow (s : State) (settings : OfprotoMirrorSettings) : MirrorRow where
  name := settings.name
  srcs := settings.srcs.map s.mirrorBundleName
  dsts := settings.dsts.map s.mirrorBundleName
  out := (settings.outBundle.bind fun b => s.bundleLookup b.aux).map fun q => (s.bundle q).name

/-- The last piece of the selections is printed past the end of the buffer. -/
def MirrorRow.Overruns (row : MirrorRow) : Prop :=
  mirrorPieces row.name row.srcs row.dsts ≠ [] ∧ maxCmdLen <
    strlen (piecesText (createMirrorHead row.name) (mirrorPieces row.name row.srcs row.dsts).dropLast)

/-- The sources and destinations have bundles, and so has the output, unless the buffer is overrun
before the output is looked at. -/
def State.HasMirrorBundles (s : State) (settings : OfprotoMirrorSettings) : Prop :=
  (∀ b ∈ settings.srcs ++ settings.dsts, (s.bundleLookup b.aux).isSome = true) ∧
    ((∃ b ∈ settings.outBundle, (s.bundleLookup b.aux).isSome = true) ∨
      (s.mirrorRow settings).Overruns)

/-- A selection that is accepted and that the mirror does not have yet is made of bundles. -/
def State.MirrorResolves (s : State) (aux : Ptr) (settings : OfprotoMirrorSettings) : Prop :=
  ∀ slot ∈ s.mirrorSlot aux settings.name, ∀ sel ∈ s.mirrorSelect settings,
    slot.mirror.unchanged s.mbridge sel = false → s.HasMirrorBundles settings

section Lookups

variable {env : Env} {s s' : State} {aux : Ptr} {sel : MirrorSelection} {slot : MirrorSlot}
  {settings : OfprotoMirrorSettings} {row : MirrorRow}

theorem State.mem_of_bundleLookup {q : Ptr} (h : s.bundleLookup aux = some q) : q ∈ s.bundles :=
  List.mem_of_find?_eq_some h

theorem State.mirrorBundles_eq_some {bundles : List OfprotoMirrorBundle} {ptrs : List (Option Ptr)}
    (h : s.mirrorBundles bundles = some ptrs) :
    ptrs = bundles.map fun b => s.bundleLookup b.aux := by
  induction bundles generalizing ptrs with
  | nil => exact (Option.some.inj h).symm
  | cons b bundles ih =>
    rw [State.mirrorBundles, List.mapM_cons] at h
    obtain ⟨ptr, hptr, hrest⟩ := Option.bind_eq_some_iff.mp h
    obtain ⟨rest, hmap, hcons⟩ := Option.bind_eq_some_iff.mp hrest
    split at hptr
    · cases hptr
      cases hcons
      rw [List.map_cons, ← ih hmap]
    · cases hptr

/-- What the lookups found. -/
theorem State.mirrorSelect_eq_some (h : s.mirrorSelect settings = some sel) :
    sel.srcs = settings.srcs.map (fun b => s.bundleLookup b.aux) ∧
      sel.dsts = settings.dsts.map (fun b => s.bundleLookup b.aux) ∧
      sel.outBundle = settings.outBundle.bind fun b => s.bundleLookup b.aux := by
  have htail : ∀ outBundle out : Option Ptr,
      ((s.mirrorBundles settings.srcs).bind fun srcs => (s.mirrorBundles settings.dsts).bind
        fun dsts => some (MirrorSelection.mk srcs dsts outBundle out)) = some sel →
      sel.srcs = settings.srcs.map (fun b => s.bundleLookup b.aux) ∧
        sel.dsts = settings.dsts.map (fun b => s.bundleLookup b.aux) ∧
        sel.outBundle = outBundle := by
    intro outBundle out h
    obtain ⟨srcs, hsrcs, h⟩ := Option.bind_eq_some_iff.mp h
    obtain ⟨dsts, hdsts, h⟩ := Option.bind_eq_some_iff.mp h
    cases h
    exact ⟨State.mirrorBundles_eq_some hsrcs, State.mirrorBundles_eq_some hdsts, rfl⟩
  rw [State.mirrorSelect] at h
  cases hout : settings.outBundle with
  | none =>
    simp only [hout] at h
    exact htail none none h
  | some b =>
    simp only [hout] at h
    rw [Option.bind_some]
    split at h
    · cases hb : s.bundleLookup b.aux with
      | none =>
        simp only [hb] at h
        exact htail none none h
      | some q =>
        simp only [hb] at h
        obtain ⟨_, hlookup, h⟩ := Option.bind_eq_some_iff.mp h
        cases hlookup
        obtain ⟨out, -, h⟩ := Option.bind_eq_some_iff.mp h
        exact htail (some q) out h
    · cases h

theorem State.bundleNames_cons_some {bundles : List (Option Ptr)} {q : Ptr} (hq : q ∈ s.bundles) :
    s.bundleNames (some q :: bundles) =
      s.bundleNames bundles >>= fun names => .ok ((s.bundle q).name :: names) := by
  have hderef : s.derefBundle q = .ok (s.bundle q) := if_pos hq
  rw [State.bundleNames, List.mapM_cons]
  simp only [hderef, Except.ok_bind]
  rfl

theorem State.bundleNames_resolved {bundles : List OfprotoMirrorBundle}
    (h : ∀ b ∈ bundles, (s.bundleLookup b.aux).isSome = true) :
    s.bundleNames (bundles.map fun b => s.bundleLookup b.aux) =
      .ok (bundles.map s.mirrorBundleName) := by
  induction bundles with
  | nil => rfl
  | cons b bundles ih =>
    obtain ⟨hb, hbundles⟩ := List.forall_mem_cons.mp h
    obtain ⟨q, hq⟩ := Option.isSome_iff_exists.mp hb
    have hname : s.mirrorBundleName b = (s.bundle q).name := by simp [State.mirrorBundleName, hq]
    rw [List.map_cons, hq, State.bundleNames_cons_some (State.mem_of_bundleLookup hq), ih hbundles,
      List.map_cons, hname]
    rfl

/-- A bundle that is missing is read for its name. -/
theorem State.bundleNames_missing {bundles : List OfprotoMirrorBundle}
    (h : ∃ b ∈ bundles, s.bundleLookup b.aux = none) :
    s.bundleNames (bundles.map fun b => s.bundleLookup b.aux) = .error .nullDeref := by
  induction bundles with
  | nil =>
    obtain ⟨b, hb, -⟩ := h
    cases hb
  | cons b bundles ih =>
    rw [List.map_cons]
    cases hb : s.bundleLookup b.aux with
    | none => rfl
    | some q =>
      have hrest : ∃ b ∈ bundles, s.bundleLookup b.aux = none := by
        obtain ⟨b', hb', hnone⟩ := h
        rcases List.mem_cons.mp hb' with rfl | hb'
        · rw [hb] at hnone
          cases hnone
        · exact ⟨b', hb', hnone⟩
      rw [State.bundleNames_cons_some (State.mem_of_bundleLookup hb), ih hrest]
      rfl

/-! ## The command -/

theorem State.mirrorNames_of_resolved (hsel : s.mirrorSelect settings = some sel)
    (hall : ∀ b ∈ settings.srcs ++ settings.dsts, (s.bundleLookup b.aux).isSome = true) :
    s.MirrorNames sel (s.mirrorRow settings) := by
  obtain ⟨hsrcs, hdsts, hout⟩ := State.mirrorSelect_eq_some hsel
  obtain ⟨hallSrcs, hallDsts⟩ := List.forall_mem_append.mp hall
  refine ⟨?_, ?_, ?_, fun q hq => ?_⟩
  · rw [hsrcs]
    exact State.bundleNames_resolved hallSrcs
  · rw [hdsts]
    exact State.bundleNames_resolved hallDsts
  · rw [hout]
    rfl
  · rw [hout] at hq
    obtain ⟨b, -, hb⟩ := Option.bind_eq_some_iff.mp hq
    exact State.mem_of_bundleLookup hb

/-- A source or a destination is missing. -/
theorem mirrorCreate_of_missing (hsel : s.mirrorSelect settings = some sel)
    (h : ∃ b ∈ settings.srcs ++ settings.dsts, s.bundleLookup b.aux = none) :
    mirrorCreate env s settings.name sel = .error .nullDeref := by
  obtain ⟨hsrcs, hdsts, -⟩ := State.mirrorSelect_eq_some hsel
  obtain ⟨b, hb, hnone⟩ := h
  by_cases hmissing : ∃ b ∈ settings.srcs, s.bundleLookup b.aux = none
  · rw [mirrorCreate, hsrcs, State.bundleNames_missing hmissing]
    rfl
  · have hall : ∀ b ∈ settings.srcs, (s.bundleLookup b.aux).isSome = true := by
      intro b hb
      exact Option.isSome_iff_ne_none.mpr fun hnone => hmissing ⟨b, hb, hnone⟩
    have hmem : b ∈ settings.dsts := by
      rcases List.mem_append.mp hb with hb | hb
      · exact absurd ⟨b, hb, hnone⟩ hmissing
      · exact hb
    rw [mirrorCreate, hsrcs, State.bundleNames_resolved hall, hdsts,
      State.bundleNames_missing ⟨b, hmem, hnone⟩]
    rfl

/-- Without an output the command is printed up to it, and then the output is read. -/
theorem State.MirrorNames.mirrorCreate_eq_nullDeref_iff (hnames : s.MirrorNames sel row) :
    mirrorCreate env s row.name sel = .error .nullDeref ↔ row.out = none ∧ ¬ row.Overruns := by
  have hprint : ((mirrorPieces row.name row.srcs row.dsts).foldlM appendPiece
      (createMirrorHead row.name)).Ensures _ _ := foldlM_appendPiece_ensures (strlen_mirrorPieces _ _ _)
  rw [hnames.mirrorCreate_eq]
  cases hout : row.out with
  | none =>
    cases hres : (mirrorPieces row.name row.srcs row.dsts).foldlM appendPiece
        (createMirrorHead row.name) with
    | error e =>
      rw [hres, Except.ensures_error] at hprint
      obtain ⟨rfl, hover⟩ := hprint
      exact iff_of_false nofun fun h => h.2 hover
    | ok text =>
      rw [hres, Except.ensures_ok] at hprint
      refine iff_of_true rfl ⟨rfl, fun hover => ?_⟩
      exact absurd (hprint.last hover.1) (not_le_of_gt hover.2)
  | some out =>
    refine iff_of_false (fun herror => ?_) nofun
    have hfault : ((mirrorPieces row.name row.srcs row.dsts).foldlM appendPiece
        (createMirrorHead row.name) >>= fun text =>
          if mirrorCmdExceeds text out row.name then .ok (s, .emsgsize)
          else (outputPieces row.name (some out)).foldlM appendText text >>= fun _ =>
            .ok (mirrorCreated env s row)).Ensures (· = .cmdOverflow) fun _ => True := by
      refine (hprint.monoError fun _ he => he.1).bind fun text _ => ?_
      split
      · trivial
      · exact (foldlM_appendText_overflow text _).bind fun _ _ => trivial
    exact Fault.noConfusion (hfault.of_error herror)

/-! ## `mirror_set` -/

theorem State.MirrorFrame.bundleLookup (h : s.MirrorFrame s') (aux : Ptr) :
    s'.bundleLookup aux = s.bundleLookup aux := by
  rw [State.bundleLookup, State.bundleLookup, h.bundles, h.bundle]

theorem State.MirrorFrame.mbundleLookup (h : s.MirrorFrame s') (q : Ptr) :
    s'.mbridge.mbundleLookup q = s.mbridge.mbundleLookup q := by
  rw [Mbridge.mbundleLookup, Mbridge.mbundleLookup, h.mbundles, h.mbundle]

theorem State.MirrorFrame.mirrorSelect (h : s.MirrorFrame s') (settings : OfprotoMirrorSettings) :
    s'.mirrorSelect settings = s.mirrorSelect settings := by
  simp only [Ofproto.State.mirrorSelect, State.mirrorBundles, h.bundleLookup, h.mbundleLookup, h.up]

theorem State.MirrorFrame.unchanged (h : s.MirrorFrame s') (mirror : Mirror) (sel : MirrorSelection) :
    mirror.unchanged s'.mbridge sel = mirror.unchanged s.mbridge sel := by
  have hmultiple : s'.mbridge.mbundleLookupMultiple = s.mbridge.mbundleLookupMultiple := by
    funext bundles
    rw [Mbridge.mbundleLookupMultiple, Mbridge.mbundleLookupMultiple, funext h.mbundleLookup]
  simp only [Mirror.unchanged, hmultiple]

theorem State.MirrorFrame.mirrorRow (h : s.MirrorFrame s') (settings : OfprotoMirrorSettings) :
    s'.mirrorRow settings = s.mirrorRow settings := by
  have hname : s'.mirrorBundleName = s.mirrorBundleName := by
    funext b
    rw [State.mirrorBundleName, State.mirrorBundleName, h.bundleLookup, h.bundle]
  simp only [Ofproto.State.mirrorRow, hname, h.bundleLookup, h.bundle]

theorem State.MirrorFrame.hasMirrorBundles_iff (h : s.MirrorFrame s')
    (settings : OfprotoMirrorSettings) :
    s'.HasMirrorBundles settings ↔ s.HasMirrorBundles settings := by
  simp only [State.HasMirrorBundles, h.bundleLookup, h.mirrorRow]

theorem mirrorCreate_ne_nullDeref_iff (hsel : s.mirrorSelect settings = some sel) :
    mirrorCreate env s settings.name sel ≠ .error .nullDeref ↔ s.HasMirrorBundles settings := by
  by_cases hall : ∀ b ∈ settings.srcs ++ settings.dsts, (s.bundleLookup b.aux).isSome = true
  · have hcreate : mirrorCreate env s settings.name sel = .error .nullDeref ↔ _ :=
      (State.mirrorNames_of_resolved hsel hall).mirrorCreate_eq_nullDeref_iff
    rw [Ne, hcreate, State.HasMirrorBundles, and_iff_right hall, not_and_or, not_not]
    refine or_congr_left (Option.isSome_iff_ne_none.symm.trans ?_)
    cases hout : settings.outBundle with
    | none => simp [State.mirrorRow, hout]
    | some b => simp [State.mirrorRow, hout]
  · refine iff_of_false (fun hne => hne (mirrorCreate_of_missing hsel ?_)) fun h => hall h.1
    by_contra hnone
    refine hall fun b hb => Option.isSome_iff_ne_none.mpr fun hb' => hnone ⟨b, hb, hb'⟩

theorem mirrorInstall_eq_error_iff {mirror : Mirror} {e : Fault} :
    mirrorInstall env s mirror settings sel = .error e ↔
      mirrorCreate env s settings.name sel = .error e := by
  rw [mirrorInstall]
  cases mirrorCreate env s settings.name sel with
  | error e' => exact Iff.rfl
  | ok r =>
    obtain ⟨s', rc⟩ := r
    refine iff_of_false (fun h => ?_) (by simp)
    rw [Except.ok_bind] at h
    dsimp only at h
    split at h <;> cases h

end Lookups

/-- `mirror_set` reads no missing bundle exactly if it finds no slot, rejects the settings, finds them
unchanged, or has all the bundles it prints. -/
theorem mirror_null_free_iff (env : Env) (s : State) (aux : Ptr) (settings : OfprotoMirrorSettings) :
    mirrorSet env s aux (some settings) ≠ .error .nullDeref ↔ s.MirrorResolves aux settings := by
  rw [mirrorSet_eq, State.MirrorResolves]
  cases hslot : s.mirrorSlot aux settings.name with
  | none => exact iff_of_true (by simp) (by simp)
  | some slot =>
    have hframe := (State.mirrorSlot_holds hslot).frame
    simp only [Option.mem_def, Option.some.injEq, forall_eq']
    rw [mirrorUpdate, hframe.mirrorSelect]
    cases hsel : s.mirrorSelect settings with
    | none => exact iff_of_true (by simp) (by simp)
    | some sel =>
      simp only [Option.some.injEq, forall_eq', hframe.unchanged]
      cases hchanged : slot.mirror.unchanged s.mbridge sel with
      | true => exact iff_of_true (by simp) (by simp)
      | false =>
        simp only [Bool.false_eq_true, if_false, true_implies]
        have hprepared : s.MirrorFrame
            (mirrorPrepare env slot.state slot.idx slot.mirror slot.modify sel) :=
          hframe.trans (mirrorPrepare_frame ..)
        have hsel' := (hprepared.mirrorSelect settings).trans hsel
        rw [← hprepared.hasMirrorBundles_iff settings, ← mirrorCreate_ne_nullDeref_iff hsel']
        exact not_congr mirrorInstall_eq_error_iff

/-- The source of a new mirror has no bundle. -/
theorem mirror_of_missing_source : ¬ ∀ (env : Env) (s : State) (aux : Ptr)
    (settings : OfprotoMirrorSettings),
    (∀ b ∈ settings.srcs ++ settings.dsts ++ settings.outBundle.toList, b.ofproto = s.up) →
    mirrorSet env s aux (some settings) ≠ .error .nullDeref := by
  intro hall
  let ops : List Op := [.bundleSet 101 (some (sampleSettings "eth2" [2] false))]
  have hobs : (run sampleEnv (sampleState false) ops).toOption.map (fun s =>
      (s.up, match mirrorSet sampleEnv s 200 (some (sampleMirror "m" [100] [])) with
        | .error e => e = .nullDeref
        | .ok _ => false)) = some (0, true) := by decide +kernel
  obtain ⟨s, -, hs⟩ := Option.map_eq_some_iff.mp hobs
  rw [Prod.mk.injEq] at hs
  obtain ⟨hup, hfault⟩ := hs
  refine hall sampleEnv s 200 (sampleMirror "m" [100] []) ?_ ?_
  · rw [hup]
    decide
  · split at hfault
    · rename_i e he
      rw [he, of_decide_eq_true hfault]
    · cases hfault

end ContainerPlugin.Ofproto
