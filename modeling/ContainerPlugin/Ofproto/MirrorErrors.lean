import ContainerPlugin.Ofproto.MirrorTable
import ContainerPlugin.Ofproto.Unregister

/-!
# The error exits of `mirror_set`

Creation and modification share their exits, and every exit with an error but the one for a full
table gives the slot of the mirror up.
-/

namespace ContainerPlugin.Ofproto

/-- The slot that `mirror_set` works on, the state with the slot filled, and `mirrorModify`. -/
structure MirrorSlot where
  state : State
  idx : Fin maxMirrors
  mirror : Mirror
  modify : Bool

/-- `mirror_set` up to the reading of the settings. -/
def State.mirrorSlot (s : State) (aux : Ptr) (name : String) : Option MirrorSlot :=
  match s.mbridge.mirrorLookup aux with
  | some i => (s.mbridge.mirrors i).map fun mirror => ⟨s, i, mirror, true⟩
  | none => s.mbridge.mirrorScan.map fun i =>
      ⟨s.setMirror i (.fresh i aux name), i, .fresh i aux name, false⟩

/-- The slots and the mirrors of the ASIC are the same. -/
def State.SameMirrors (s s' : State) : Prop :=
  s'.mbridge.mirrors = s.mbridge.mirrors ∧ s'.world.asic.mirrors = s.world.asic.mirrors

section Slots

variable {env : Env} {s s' : State} {aux : Ptr} {name : String} {i : Fin maxMirrors}
  {mirror : Mirror} {modify : Bool} {slot : MirrorSlot} {settings : OfprotoMirrorSettings} {rc : Rc}

theorem mirrorSet_eq (env : Env) (s : State) (aux : Ptr) (settings : OfprotoMirrorSettings) :
    mirrorSet env s aux (some settings) =
      match s.mirrorSlot aux settings.name with
      | none => .ok (s, .efbig)
      | some slot => mirrorUpdate env slot.state slot.idx slot.mirror slot.modify settings := by
  rw [mirrorSet, State.mirrorSlot]
  cases hfind : s.mbridge.mirrorLookup aux with
  | none =>
    cases s.mbridge.mirrorScan with
    | none => rfl
    | some i => rfl
  | some i =>
    obtain ⟨mirror, hi, -⟩ := Mbridge.exists_of_mirrorLookup hfind
    simp only [hi, Option.map_some]

/-- What is known of the slot, whether it was found or taken. -/
structure MirrorSlot.Holds (slot : MirrorSlot) (s : State) (aux : Ptr) : Prop where
  mirror : slot.state.mbridge.mirrors slot.idx = some slot.mirror
  key : slot.mirror.aux = aux
  lookup : slot.state.mbridge.mirrorLookup aux = some slot.idx
  frame : s.MirrorFrame slot.state
  world : slot.state.world = s.world
  found : slot.modify = true → slot.state = s
  taken : slot.modify = false → slot.mirror.idx = slot.idx ∧
    s.mbridge.mirrorLookup aux = none ∧
    Function.update slot.state.mbridge.mirrors slot.idx none = s.mbridge.mirrors

theorem State.mirrorSlot_holds (h : s.mirrorSlot aux name = some slot) : slot.Holds s aux := by
  rw [State.mirrorSlot] at h
  split at h
  · rename_i i hfind
    obtain ⟨mirror, hi, haux⟩ := Mbridge.exists_of_mirrorLookup hfind
    rw [hi, Option.map_some, Option.some.injEq] at h
    subst h
    exact ⟨hi, haux, hfind, .refl s, rfl, fun _ => rfl, nofun⟩
  · rename_i hnone
    obtain ⟨i, hscan, rfl⟩ := Option.map_eq_some_iff.mp h
    have hfree := Mbridge.mirrors_mirrorScan hscan
    refine ⟨by simp [State.setMirror], rfl, ?_, s.setMirror_frame _ _, rfl, nofun, fun _ => ?_⟩
    · exact Mbridge.mirrorLookup_update_of_none hnone rfl rfl
    · refine ⟨rfl, hnone, ?_⟩
      simp [State.setMirror, ← hfree]

/-! ## Rejections -/

/-- A rejection gives the slot up. Only a modification has touched the ASIC by then. -/
theorem MirrorUpdated.of_rejection (h : MirrorUpdated env i mirror modify settings s s' rc)
    (hrc : rc = .einval ∨ rc = .emsgsize) (hfind : s.mbridge.mirrorLookup mirror.aux = some i)
    (hi : s.mbridge.mirrors i = some mirror) (hidx : mirror.idx = i) :
    s'.mbridge.mirrors = Function.update s.mbridge.mirrors i none ∧
      (modify = false → s'.world = s.world) := by
  have hne : rc ≠ .ok := by
    rcases hrc with rfl | rfl
    · simp
    · simp
  refine ⟨h.mirrors_of_failed hne hfind hi hidx, fun hmodify => ?_⟩
  cases h with
  | rejected => rfl
  | unchanged | created => exact absurd rfl hne
  | failed _ _ _ hcreated =>
    cases hcreated with
    | exceeds => rw [hmodify]; rfl
    | run row => split at hrc <;> rcases hrc with hrc | hrc <;> cases hrc

end Slots

/-- A call of `mirror_set` that is rejected with `EINVAL`, `EFBIG` or `EMSGSIZE` leaves the mirrors
as they were exactly when the key has no mirror yet: the mirror that was to be modified is lost. -/
theorem mirror_rejection_keeps_iff (env : Env) {s s' : State}
    (hidx : ∀ i mirror, s.mbridge.mirrors i = some mirror → mirror.idx = i) {aux : Ptr}
    {settings : OfprotoMirrorSettings} {rc : Rc}
    (hset : mirrorSet env s aux (some settings) = .ok (s', rc))
    (hrc : rc = .einval ∨ rc = .efbig ∨ rc = .emsgsize) :
    s.SameMirrors s' ↔ ∀ i mirror, s.mbridge.mirrors i = some mirror → mirror.aux ≠ aux := by
  rw [← Mbridge.mirrorLookup_eq_none_iff]
  rw [mirrorSet_eq] at hset
  split at hset
  · rename_i hslot
    cases hset
    rw [State.mirrorSlot] at hslot
    split at hslot
    · rename_i i hfind
      obtain ⟨mirror, hi, -⟩ := Mbridge.exists_of_mirrorLookup hfind
      simp [hi] at hslot
    · exact iff_of_true ⟨rfl, rfl⟩ ‹_›
  · rename_i slot hslot
    have hholds := State.mirrorSlot_holds hslot
    have hupdated := mirrorUpdate_ensures.of_ok hset
    have hreject : rc = .einval ∨ rc = .emsgsize := by
      rcases hrc with hrc | hrc | hrc
      · exact .inl hrc
      · exact absurd hrc hupdated.rc_ne
      · exact .inr hrc
    have hkey := hholds.key
    cases hmodify : slot.modify with
    | true =>
      have hfound := hholds.found hmodify
      have hlookup := hholds.lookup
      have hmirror := hholds.mirror
      rw [hfound] at hlookup hmirror
      have hslots := (hupdated.of_rejection hreject (by rw [hkey]; exact hholds.lookup)
        hholds.mirror (hidx _ _ hmirror)).1
      refine iff_of_false (fun hsame => ?_) (by simp [hlookup])
      have hlost : s'.mbridge.mirrors slot.idx = none := by
        rw [hslots, Function.update_self]
      rw [hsame.1, hmirror] at hlost
      cases hlost
    | false =>
      obtain ⟨hslotIdx, hnone, hback⟩ := hholds.taken hmodify
      obtain ⟨hslots, hworld⟩ := hupdated.of_rejection hreject (by rw [hkey]; exact hholds.lookup)
        hholds.mirror hslotIdx
      refine iff_of_true ⟨hslots.trans hback, ?_⟩ hnone
      rw [hworld hmodify, hholds.world]

/-- A mirror whose source is of another ofproto. -/
def foreignMirror : OfprotoMirrorSettings := ⟨"m", [⟨7, 100⟩], [], some ⟨0, 101⟩⟩

/-- Beside a mirror that exists, one with a foreign port is not created. -/
theorem mirror_rejection_keeps_of_create : ∃ s s',
    run sampleEnv (sampleState false) (mirroringOps []) = .ok s ∧
    mirrorSet sampleEnv s 201 (some foreignMirror) = .ok (s', .einval) ∧ s.SameMirrors s' := by
  have hmeets : RunMeets sampleEnv Sound (sampleState false) (mirroringOps []) := by
    decide +kernel
  have hobs : (run sampleEnv (sampleState false) (mirroringOps [])).toOption.map (fun s =>
      (s.mbridge.mirrorLookup 201,
        (mirrorSet sampleEnv s 201 (some foreignMirror)).toOption.map Prod.snd)) =
      some (none, some .einval) := by decide +kernel
  obtain ⟨s, hrun, hreaches, hs⟩ := Reaches.of_observed hmeets hobs
  simp only [Prod.mk.injEq, Option.map_eq_some_iff] at hs
  obtain ⟨hnone, ⟨s', rc⟩, hset, hrc⟩ := hs
  have hset' := Except.eq_ok_of_toOption hset
  have hwf := hreaches.wf (fun _ _ _ hc => hc) (sampleState_initial false)
  cases hrc
  exact ⟨s, s', hrun, hset', (mirror_rejection_keeps_iff sampleEnv hwf.mbridge.idx hset'
    (.inl rfl)).mpr (Mbridge.mirrorLookup_eq_none_iff.mp hnone)⟩

/-- The mirror that was to be modified is forgotten, and the ASIC still has it. -/
theorem rejected_modification_loses_mirror : ¬ ∀ (env : Env) (s s' : State) (aux : Ptr)
    (settings : OfprotoMirrorSettings) (rc : Rc),
    (∀ i mirror, s.mbridge.mirrors i = some mirror → mirror.idx = i) →
    mirrorSet env s aux (some settings) = .ok (s', rc) →
    (rc = .einval ∨ rc = .efbig ∨ rc = .emsgsize) → s.SameMirrors s' := by
  intro hall
  have hmeets : RunMeets sampleEnv Sound (sampleState false) (mirroringOps []) := by
    decide +kernel
  have hobs : (run sampleEnv (sampleState false) (mirroringOps [])).toOption.map (fun s =>
      ((s.mbridge.mirrors ⟨0, by decide⟩).isSome,
        (mirrorSet sampleEnv s 200 (some foreignMirror)).toOption.map fun r =>
          (r.2, (r.1.mbridge.mirrors ⟨0, by decide⟩).isSome))) =
      some (true, some (.einval, false)) := by decide +kernel
  obtain ⟨s, -, hreaches, hs⟩ := Reaches.of_observed hmeets hobs
  simp only [Prod.mk.injEq, Option.map_eq_some_iff] at hs
  obtain ⟨hsome, ⟨s', rc⟩, hset, hrc, hnone⟩ := hs
  have hwf := hreaches.wf (fun _ _ _ hc => hc) (sampleState_initial false)
  have hsame := hall sampleEnv s s' 200 foreignMirror rc hwf.mbridge.idx
    (Except.eq_ok_of_toOption hset) (.inl hrc)
  rw [← hsame.1] at hsome
  exact Bool.noConfusion (hsome.symm.trans hnone)

end ContainerPlugin.Ofproto
