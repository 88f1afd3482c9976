import ContainerPlugin.Ofproto.Calls

/-!
# When a call returns

In a well-formed state a call stops only for a command text that outgrows its buffer or for a VLAN
that is no index of a bitmap. Here the exact conditions are stated, each on the state before: which
VLANs come off the bridge's trunks on the way, and which text is printed for the bundle itself.
-/

namespace ContainerPlugin.Ofproto

/-- The command that sets the trunks of the bridge to `bmp` stays in its buffer. -/
def TrunksFit (bridge : String) (bmp : VlanBitmap) : Prop :=
  strlen (printed (setPortTrunksHead bridge) (trunkPieces (vids (· ∈ bmp)))) ≤ maxCmdLen

instance (bridge : String) (bmp : VlanBitmap) : Decidable (TrunksFit bridge bmp) :=
  inferInstanceAs (Decidable (_ ≤ _))

/-- The bit of `vlan` can be tested, and set to `add` with what the trunks become by that. -/
def UpdateFits (bridge : String) (bmp : VlanBitmap) (vlan : ℤ) (add : Bool) : Prop :=
  (0 ≤ vlan ∧ vlan < vlanBitmapSize) ∧
    (decide (vlan.toNat ∈ bmp) ≠ add → TrunksFit bridge (bitmapSet bmp vlan add))

instance (bridge : String) (bmp : VlanBitmap) (vlan : ℤ) (add : Bool) :
    Decidable (UpdateFits bridge bmp vlan add) := inferInstanceAs (Decidable (_ ∧ (_ → _)))

/-- The VLANs come off the bridge's trunks one after the other: what is left of the bitmap, or
`none` if one of the updates cannot be made. -/
def takeOff (bridge : String) : VlanBitmap → List ℤ → Option VlanBitmap
  | bmp, [] => some bmp
  | bmp, vlan :: vlans =>
    if UpdateFits bridge bmp vlan false then takeOff bridge (bmp.erase vlan.toNat) vlans else none

/-- The VLAN that comes off the trunks when the bundle is destroyed. -/
def State.routedVlan (s : State) (q : Ptr) : Option ℤ :=
  if (s.bundle q).isVlanRoutingEnabled then some (s.bundle q).vlan else none

/-- The VLAN that comes off the trunks when the port is taken from a bundle other than `own`. -/
def State.takenVlan (s : State) (own : Option Ptr) (p : OfpPort) : Option ℤ :=
  if p ∈ s.ports ∧ (s.port p).bundle ≠ own then (s.port p).bundle.bind s.routedVlan else none

/-- The text printed for the bundle stays in its buffer. The length of the head alone is not looked
at. -/
def ConfigureFits (bridge : String) (vlansBmp : VlanBitmap) (b : Ofbundle) : Prop :=
  configurePieces vlansBmp b ≠ [] → strlen (configureText bridge vlansBmp b) ≤ maxCmdLen

instance (bridge : String) (vlansBmp : VlanBitmap) (b : Ofbundle) :
    Decidable (ConfigureFits bridge vlansBmp b) := inferInstanceAs (Decidable (_ → _))

/-- The settings can be applied to a bundle that has ports and is not the bridge's own; `bmp` are the
trunks of the bridge by then. -/
def State.ApplyFits (s : State) (settings : OfprotoBundleSettings) (bmp : VlanBitmap) : Prop :=
  (s.Routes settings → UpdateFits s.name bmp settings.vlan true) ∧
    (s.Configures settings → ConfigureFits s.name s.vlansBmp
      (((Ofbundle.fresh 0).withSettings settings).withVlans settings))

/-- `bundle_set` with settings can be carried out: if a slave exists, the VLANs of the bundles that
lose a slave come off the trunks and the settings are applied, else the bundle is destroyed. -/
def State.SetFits (s : State) (aux : Ptr) (settings : OfprotoBundleSettings) : Prop :=
  ((∃ p ∈ settings.slaves, p ∈ s.ports) → ∃ bmp ∈ takeOff s.name s.vlanIntfBmp
      (settings.slaves.filterMap (s.takenVlan (s.bundleLookup aux))),
    (∀ q ∈ s.bundleLookup aux, (s.bundle q).isBridgeBundle = false) → s.ApplyFits settings bmp) ∧
  ((∀ p ∈ settings.slaves, p ∉ s.ports) →
    takeOff s.name s.vlanIntfBmp ((s.bundleLookup aux).bind s.routedVlan).toList ≠ none)

instance (s : State) (settings : OfprotoBundleSettings) : Decidable (s.Routes settings) :=
  inferInstanceAs (Decidable (_ ∧ _))

instance (s : State) (settings : OfprotoBundleSettings) : Decidable (s.Configures settings) :=
  inferInstanceAs (Decidable (_ ∧ _))

instance (s : State) (settings : OfprotoBundleSettings) (bmp : VlanBitmap) :
    Decidable (s.ApplyFits settings bmp) := inferInstanceAs (Decidable ((_ → _) ∧ (_ → _)))

instance (s : State) (aux : Ptr) (settings : OfprotoBundleSettings) :
    Decidable (s.SetFits aux settings) := inferInstanceAs (Decidable ((_ → _) ∧ (_ → _)))

/-! ## Texts -/

section Texts

variable {bridge text : String} {vlansBmp : VlanBitmap} {b : Ofbundle}

theorem appendAsserted_returns (text piece : String) :
    (appendAsserted text piece).Ensures (fun _ => ¬ strlen (text ++ piece) ≤ maxCmdLen)
      fun text' => text' = text ++ piece ∧ strlen (text ++ piece) ≤ maxCmdLen := by
  by_cases hfits : strlen (text ++ piece) ≤ maxCmdLen
  · rw [appendAsserted_eq hfits]
    exact ⟨rfl, hfits⟩
  · refine Except.Ensures.mono (Except.Ensures.monoError (appendAsserted_ensures text piece)
      fun _ _ => hfits) fun text' h => ⟨h.1, h.1 ▸ h.2⟩

/-- All the pieces are printed exactly if the last assertion holds. -/
theorem foldlM_appendAsserted_returns (text : String) (pieces : List String) :
    (pieces.foldlM appendAsserted text).Ensures
      (fun _ => ¬ strlen (printed text pieces) ≤ maxCmdLen ∧ pieces ≠ [])
      fun text' => text' = printed text pieces ∧
        (pieces ≠ [] → strlen (printed text pieces) ≤ maxCmdLen) := by
  induction pieces generalizing text with
  | nil => exact ⟨rfl, fun h => absurd rfl h⟩
  | cons piece pieces ih =>
    rw [List.foldlM_cons]
    have hlast : strlen (text ++ piece) ≤ strlen (printed text (piece :: pieces)) :=
      strlen_printed_le (text ++ piece) pieces
    refine Except.Ensures.bind (Except.Ensures.monoError (appendAsserted_returns text piece)
      fun _ h => ⟨fun hfits => h (hlast.trans hfits), by simp⟩) ?_
    rintro _ ⟨rfl, hpiece⟩
    refine Except.Ensures.mono (Except.Ensures.monoError (ih (text ++ piece))
      fun _ h => ⟨h.1, by simp⟩) ?_
    rintro _ ⟨rfl, hfits⟩
    refine ⟨rfl, fun _ => ?_⟩
    cases pieces with
    | nil => exact hpiece
    | cons => exact hfits (by simp)

end Texts

/-! ## The bridge's trunks -/

section Trunks

variable {env : Env} {s : State} {q : Ptr} {p : OfpPort}

theorem bridgeTrunksUpdate_returns (s : State) :
    (bridgeTrunksUpdate env s).Ensures (fun _ => ¬ TrunksFit s.name s.vlanIntfBmp)
      fun _ => TrunksFit s.name s.vlanIntfBmp := by
  refine Except.Ensures.bind (Except.Ensures.monoError (foldlM_appendAsserted_returns _ _)
    fun _ h => h.1) ?_
  rintro _ ⟨rfl, hfits⟩
  by_cases hnil : vids (· ∈ s.vlanIntfBmp) = []
  · -- no VLAN, and nothing has been checked before `trunks=0` is appended
    rw [if_pos hnil, appendText]
    split
    · exact ‹_›
    · exact ‹_›
  · rw [if_neg hnil]
    refine hfits fun hpieces => hnil ?_
    cases htrunks : vids (· ∈ s.vlanIntfBmp) with
    | nil => rfl
    | cons i is =>
      rw [htrunks] at hpieces
      cases hpieces

theorem simBridgeVlanRoutingUpdate_returns (s : State) (vlan : ℤ) (add : Bool) :
    (simBridgeVlanRoutingUpdate env s vlan add).Ensures
      (fun _ => ¬ UpdateFits s.name s.vlanIntfBmp vlan add)
      fun _ => UpdateFits s.name s.vlanIntfBmp vlan add := by
  rw [simBridgeVlanRoutingUpdate, bitmapIsSet]
  split
  · rename_i hrange
    rw [Except.ok_bind]
    split
    · rename_i hbit
      exact ⟨hrange, fun hne => absurd hbit hne⟩
    · rename_i hbit
      refine Except.Ensures.mono (Except.Ensures.monoError (bridgeTrunksUpdate_returns _) ?_) ?_
      · exact fun _ htrunks hfits => htrunks (hfits.2 hbit)
      · exact fun _ htrunks => ⟨hrange, fun _ => htrunks⟩
  · rename_i hrange
    exact fun hfits => hrange hfits.1

theorem stopVlanRouting_returns (s : State) (q : Ptr) :
    (stopVlanRouting env s q).Ensures
      (fun _ => takeOff s.name s.vlanIntfBmp (s.routedVlan q).toList = none)
      fun _ => takeOff s.name s.vlanIntfBmp (s.routedVlan q).toList = some (s.bmpDel q) := by
  rw [stopVlanRouting, State.routedVlan, State.bmpDel]
  split
  · refine Except.Ensures.bind (Except.Ensures.monoError
      (simBridgeVlanRoutingUpdate_returns s (s.bundle q).vlan false) fun _ h => if_neg h) ?_
    exact fun _ h => if_pos h
  · rfl

/-- If the loop over the ports returns, all depends on the VLAN of the bundle. -/
theorem bundleDestroy_returns {Q : State → Prop} (hq : q ∈ s.bundles)
    (hloop : ∀ s₃, Stopped env q s s₃ → (s₃.forEachPortSafe q (bundleDelPort env)).Returns Q) :
    (bundleDestroy env s q).Ensures
      (fun _ => takeOff s.name s.vlanIntfBmp (s.routedVlan q).toList = none)
      fun s' => takeOff s.name s.vlanIntfBmp (s.routedVlan q).toList = some (s.bmpDel q) ∧
        ∃ s₄, Q s₄ ∧ s' = { s₄ with bundles := s₄.bundles.erase q } := by
  have hderef : s.derefBundle q = .ok (s.bundle q) := if_pos hq
  obtain ⟨w₂, hs₂, -, -⟩ :=
    delFromSimOvs_spec env { s with mbridge := s.mbridge.unregisterBundle q } q
  have hstopped : Except.Ensures _ _ (Stopped env q s) := stopped_ensures s q
  simp only [bundleDestroy, hderef, Except.ok_bind]
  generalize delFromSimOvs env { s with mbridge := s.mbridge.unregisterBundle q } q = s₂ at *
  have hname : s₂.name = s.name := by rw [hs₂]
  have hintf : s₂.vlanIntfBmp = s.vlanIntfBmp := by rw [hs₂]
  have hrouted : s₂.routedVlan q = s.routedVlan q := by simp [hs₂, State.routedVlan]
  have hbmp : s₂.bmpDel q = s.bmpDel q := by simp [hs₂, State.bmpDel]
  have hstop : (stopVlanRouting env s₂ q).Ensures _ _ := (stopVlanRouting_returns s₂ q).and hstopped
  rw [hname, hintf, hrouted, hbmp] at hstop
  refine hstop.bind fun s₃ h₃ => ?_
  obtain ⟨htaken, hs₃⟩ := h₃
  refine Except.Ensures.bind ((hloop s₃ hs₃).monoError fun _ => False.elim) fun s₄ hs₄ => ?_
  exact ⟨htaken, s₄, hs₄, rfl⟩

/-- `bundle_destroy` returns exactly if the VLAN of the bundle can be taken off the trunks. -/
theorem State.ListsWF.bundleDestroy_returns (h : s.ListsWF) (hq : q ∈ s.bundles) :
    (bundleDestroy env s q).Ensures
      (fun _ => takeOff s.name s.vlanIntfBmp (s.routedVlan q).toList = none)
      fun _ => takeOff s.name s.vlanIntfBmp (s.routedVlan q).toList = some (s.bmpDel q) := by
  refine (Ofproto.bundleDestroy_returns (Q := fun _ => True) hq ?_).mono fun _ hs' => hs'.1
  intro s₃ hs₃
  have hdel : (s₃.forEachPortSafe q (Ofproto.bundleDelPort env)).Returns _ :=
    (hs₃.listsWF h).forEachPortSafe_delAll (I := fun _ => True) (hs₃.bundles.symm ▸ hq)
      (fun _ _ _ _ _ _ => trivial) trivial
  exact hdel.mono fun _ _ => trivial

/-- A bundle without ports. -/
theorem bundleDestroy_returns_of_empty (hq : q ∈ s.bundles) (hempty : s.Members q []) :
    (bundleDestroy env s q).Ensures
      (fun _ => takeOff s.name s.vlanIntfBmp (s.routedVlan q).toList = none)
      fun s' => takeOff s.name s.vlanIntfBmp (s.routedVlan q).toList ≠ none ∧
        s'.port = s.port ∧ s'.bundles = s.bundles.erase q := by
  refine Except.Ensures.mono (bundleDestroy_returns
    (Q := fun s₄ => s₄.port = s.port ∧ s₄.bundles = s.bundles) hq ?_) ?_
  · intro s₃ hs₃
    have hderef : s₃.derefBundle q = .ok (s₃.bundle q) := if_pos (hs₃.bundles.symm ▸ hq)
    have hnext : s₃.links.next (.ports q) = .ports q := hs₃.links ▸ hempty.ring.next_head
    obtain ⟨fuel, hfuel⟩ : ∃ fuel, s₃.listFuel = fuel + 1 :=
      Nat.exists_eq_add_one.mpr (Nat.pow_pos (Nat.succ_pos _))
    simp only [State.forEachPortSafe, hderef, Except.ok_bind, hnext, hfuel, Links.forEachSafe,
      if_true]
    exact ⟨hs₃.frame.port, hs₃.bundles⟩
  · rintro _ ⟨htaken, s₄, ⟨hport, hbundles⟩, rfl⟩
    exact ⟨by simp [htaken], hport, congrArg (·.erase q) hbundles⟩

theorem State.WF.bundleRemove_returns (h : s.WF) (hp : p ∈ s.ports)
    (hb : (s.port p).bundle = some q) (hlag : (s.bundle q).bondHwHandle = -1) :
    (Ofproto.bundleRemove env s p).Ensures
      (fun _ => takeOff s.name s.vlanIntfBmp (s.routedVlan q).toList = none)
      fun _ => takeOff s.name s.vlanIntfBmp (s.routedVlan q).toList = some (s.bmpDel q) := by
  have hq := h.owner p hp q hb
  have hdel : Ofproto.bundleDelPort env s p = .ok (detachPort env s p) := h.bundleDelPort hp hb
  simp only [Ofproto.bundleRemove, hb, h.deref hq, Except.ok_bind, if_pos hlag, hdel]
  exact (h.toListsWF.detachPort hp hb).bundleDestroy_returns hq

end Trunks

/-! ## The loop over the slaves -/

section TakeOff

variable {bridge : String} {bmp : VlanBitmap}

theorem takeOff_append (vlans vlans' : List ℤ) :
    takeOff bridge bmp (vlans ++ vlans') =
      (takeOff bridge bmp vlans).bind fun bmp' => takeOff bridge bmp' vlans' := by
  induction vlans generalizing bmp with
  | nil => rfl
  | cons vlan vlans ih =>
    rw [List.cons_append, takeOff, takeOff]
    split
    · exact ih
    · rfl

/-- VLANs that are no longer there may be taken off again. -/
theorem takeOff_filterMap_congr {α : Type} {f g : α → Option ℤ} {l : List α}
    (h : ∀ a ∈ l, f a = g a ∨ f a = none ∧
      ∀ vlan ∈ g a, (0 ≤ vlan ∧ vlan < vlanBitmapSize) ∧ vlan.toNat ∉ bmp) :
    takeOff bridge bmp (l.filterMap f) = takeOff bridge bmp (l.filterMap g) := by
  induction l generalizing bmp with
  | nil => rfl
  | cons a l ih =>
    have hl := fun a' ha' => h a' (List.mem_cons_of_mem a ha')
    rcases h a List.mem_cons_self with hsame | ⟨hnone, hgone⟩
    · cases hg : g a with
      | none =>
        rw [List.filterMap_cons_none (hsame.trans hg), List.filterMap_cons_none hg]
        exact ih hl
      | some vlan =>
        rw [List.filterMap_cons_some (hsame.trans hg), List.filterMap_cons_some hg, takeOff, takeOff]
        refine if_congr .rfl (ih fun a' ha' => ?_) rfl
        refine (hl a' ha').imp_right fun ⟨hnone, hgone⟩ => ⟨hnone, fun vlan' hvlan' => ?_⟩
        exact ⟨(hgone vlan' hvlan').1, fun hmem => (hgone vlan' hvlan').2 (Finset.mem_of_mem_erase hmem)⟩
    · rw [List.filterMap_cons_none hnone]
      cases hg : g a with
      | none =>
        rw [List.filterMap_cons_none hg]
        exact ih hl
      | some vlan =>
        obtain ⟨hrange, hout⟩ := hgone vlan hg
        have hfits : UpdateFits bridge bmp vlan false :=
          ⟨hrange, fun hbit => absurd (decide_eq_false hout) hbit⟩
        rw [List.filterMap_cons_some hg, takeOff, if_pos hfits, Finset.erase_eq_of_notMem hout]
        exact ih hl

end TakeOff

/-- The loop has the slaves `todo` before it; what it leaves of the trunks in the end is `result`. -/
structure TakingOff (q : Ptr) (result : Option VlanBitmap) (todo : List OfpPort) (s : State) :
    Prop where
  wf : s.WF
  live : q ∈ s.bundles
  lag : NoLagClaim s q todo
  result : takeOff s.name s.vlanIntfBmp (todo.filterMap (s.takenVlan (some q))) = result

section Slaves

variable {env : Env} {s s' : State} {q : Ptr} {p : OfpPort} {slaves todo : List OfpPort}
  {result : Option VlanBitmap}

theorem TakingOff.skip (h : TakingOff q result (p :: todo) s) (hp : s.takenVlan (some q) p = none) :
    TakingOff q result todo s where
  wf := h.wf
  live := h.live
  lag p' hp' := h.lag p' (List.mem_cons_of_mem p hp')
  result := by
    rw [← h.result, List.filterMap_cons_none hp]

theorem TakingOff.attach (h : TakingOff q result todo s) (hp : p ∈ s.ports)
    (hnone : (s.port p).bundle = none) : TakingOff q result todo (attachPort s q p) := by
  have hother : ∀ p', p' ≠ p → (attachPort s q p).port p' = s.port p' := fun p' hne => by
    simp [attachPort, hne]
  have hself : ((attachPort s q p).port p).bundle = some q := by simp [attachPort]
  refine ⟨⟨h.wf.toListsWF.attachPort h.live hp hnone, h.wf.mbridge⟩, h.live, ?_, ?_⟩
  · intro p' hp' hmem q' hb hne
    have hpp : p' ≠ p := by
      rintro rfl
      rw [hself] at hb
      exact hne (Option.some.inj hb).symm
    rw [hother p' hpp] at hb
    exact h.lag p' hp' hmem q' hb hne
  · have htaken : (attachPort s q p).takenVlan (some q) = s.takenVlan (some q) := by
      funext p'
      by_cases hpp : p' = p
      · subst hpp
        simp [State.takenVlan, hself, hnone]
      · simp only [State.takenVlan, hother p' hpp]
        rfl
    rw [htaken]
    exact h.result

/-- The ports of the destroyed bundle are in none, the others are as they were. -/
theorem Destroyed.takenVlan {q' : Ptr} (h : Destroyed env q' s s') (hne : q' ≠ q) (p : OfpPort) :
    s'.takenVlan (some q) p = s.takenVlan (some q) p ∨
      s'.takenVlan (some q) p = none ∧ s.takenVlan (some q) p = s.routedVlan q' := by
  simp only [State.takenVlan, h.ports]
  by_cases hp : p ∈ s.ports
  · by_cases hb : (s.port p).bundle = some q'
    · refine .inr ?_
      simp [hp, hb, h.freed p hp hb, hne]
    · refine .inl ?_
      rw [h.port p hb]
      congr 1
      cases hb' : (s.port p).bundle with
      | none => rfl
      | some q₁ =>
        have hq₁ : q₁ ≠ q' := fun hq₁ => hb (hq₁ ▸ hb')
        simp only [Option.bind_some, State.routedVlan, h.bundle q₁ hq₁]
  · exact .inl (by simp [hp])

theorem takeOff_routedVlan {q' : Ptr} {bmp : VlanBitmap}
    (h : takeOff s.name s.vlanIntfBmp (s.routedVlan q').toList = some bmp) :
    ∀ vlan ∈ s.routedVlan q', (0 ≤ vlan ∧ vlan < vlanBitmapSize) ∧ vlan.toNat ∉ bmp := by
  intro vlan hvlan
  rw [Option.mem_def] at hvlan
  rw [hvlan, Option.toList_some, takeOff] at h
  split at h
  · rename_i hfits
    obtain rfl := Option.some.inj h
    exact ⟨hfits.1, Finset.notMem_erase _ _⟩
  · cases h

theorem TakingOff.remove (h : TakingOff q result (p :: todo) s) (hp : p ∈ s.ports)
    (hown : (s.port p).bundle ≠ some q) :
    (bundleRemove env s p).Ensures (fun _ => result = none) fun s' =>
      TakingOff q result todo s' ∧ p ∈ s'.ports ∧ (s'.port p).bundle = none := by
  cases hb : (s.port p).bundle with
  | none =>
    rw [bundleRemove, hb]
    exact ⟨h.skip (by simp [State.takenVlan, hb]), hp, hb⟩
  | some q' =>
    have hne : q' ≠ q := fun hqq => hown (hqq ▸ hb)
    have hlag := h.lag p List.mem_cons_self hp q' hb hne
    have htaken : s.takenVlan (some q) p = s.routedVlan q' := by simp [State.takenVlan, hp, hb, hne]
    have hsplit : (p :: todo).filterMap (s.takenVlan (some q)) =
        (s.routedVlan q').toList ++ todo.filterMap (s.takenVlan (some q)) := by
      rw [← htaken]
      cases hvlan : s.takenVlan (some q) p with
      | none => exact List.filterMap_cons_none hvlan
      | some vlan => exact List.filterMap_cons_some hvlan
    have hresult := h.result
    rw [hsplit, takeOff_append] at hresult
    have hremove : (bundleRemove env s p).Ensures _ _ :=
      (h.wf.bundleRemove_returns hp hb hlag).and (h.wf.bundleRemove hp)
    refine Except.Ensures.mono (hremove.monoError fun _ hnone => ?_) ?_
    · rw [← hresult, hnone]
      rfl
    · rintro s' ⟨hsome, hwf', ⟨-, hlag'⟩ | ⟨q₁, hq₁, hb₁, -, hdestroyed⟩⟩
      · exact absurd hlag (hlag' q' hb)
      obtain rfl : q' = q₁ := Option.some.inj (hb.symm.trans hb₁)
      rw [hsome] at hresult
      refine ⟨⟨hwf', ?_, ?_, ?_⟩, hdestroyed.ports ▸ hp, hdestroyed.freed p hp hb⟩
      · rw [hdestroyed.bundles, h.wf.nodup.mem_erase_iff]
        exact ⟨hne.symm, h.live⟩
      · intro p' hp' hmem q₂ hb₂ hne₂
        rw [hdestroyed.ports] at hmem
        have hb' : (s.port p').bundle ≠ some q' := fun hb' => by
          rw [hdestroyed.freed p' hmem hb'] at hb₂
          cases hb₂
        rw [hdestroyed.port p' hb'] at hb₂
        rw [hdestroyed.bundle q₂ fun hq₂ => hb' (hq₂ ▸ hb₂)]
        exact h.lag p' (List.mem_cons_of_mem p hp') hmem q₂ hb₂ hne₂
      · rw [hdestroyed.name, hdestroyed.vlanIntfBmp, ← hresult, Option.bind_some]
        refine takeOff_filterMap_congr fun p' _ => ?_
        refine (hdestroyed.takenVlan hne p').imp_right fun h => ⟨h.1, ?_⟩
        rw [h.2]
        exact takeOff_routedVlan hsome

theorem TakingOff.add (h : TakingOff q result (p :: todo) s) :
    (bundleAddPort env s q p).Ensures (fun _ => result = none)
      fun r => TakingOff q result todo r.1 := by
  simp only [bundleAddPort, h.wf.deref h.live, State.getOfpPort, Except.ok_bind]
  by_cases hp : p ∈ s.ports
  · simp only [if_pos hp]
    by_cases hown : (s.port p).bundle = some q
    · rw [if_pos hown]
      exact h.skip (by simp [State.takenVlan, hown])
    · rw [if_neg hown]
      refine (h.remove hp hown).bind fun s' hs' => ?_
      obtain ⟨h', hp', hnone⟩ := hs'
      rw [h'.wf.deref h'.live]
      exact h'.attach hp' hnone
  · simp only [if_neg hp]
    exact h.skip (by simp [State.takenVlan, hp])

/-- The loop returns exactly if the VLANs of all the bundles that lose a slave can be taken off. -/
theorem addSlaves_returns (h : s.WF) (hq : q ∈ s.bundles) (hlag : NoLagClaim s q slaves) :
    (addSlaves env s q slaves).Ensures
      (fun _ => takeOff s.name s.vlanIntfBmp (slaves.filterMap (s.takenVlan (some q))) = none)
      fun r => takeOff s.name s.vlanIntfBmp (slaves.filterMap (s.takenVlan (some q))) =
        some r.1.vlanIntfBmp := by
  generalize hresult : takeOff s.name s.vlanIntfBmp (slaves.filterMap (s.takenVlan (some q))) =
    result
  let I : List OfpPort → State × Bool → Prop := fun todo r => TakingOff q result todo r.1
  have hinit : I slaves (s, true) := ⟨h, hq, hlag, hresult⟩
  refine (addSlaves_rule (fun p todo r hr => ?_) hinit).mono fun r hr => hr.result.symm
  exact TakingOff.add hr

/-- Unlinking the ports that are not slaves always works. -/
theorem State.ListsWF.delOtherPorts_returns (h : s.ListsWF) (hq : q ∈ s.bundles)
    (slaves : List OfpPort) (ok : Bool) :
    (delOtherPorts env s q slaves ok).Returns s.PortFrame := by
  obtain ⟨ps, hps, -⟩ := h.bundlePorts hq
  have hloop : (s.forEachPortSafe q fun s p =>
      if p ∈ slaves then .ok s else Ofproto.bundleDelPort env s p).Returns s.PortFrame :=
    (h.forEachPortSafe_del (I := fun _ => True) hq slaves (fun _ _ _ _ _ _ _ => trivial)
      trivial).mono fun s' hs' => hs'.2.1
  cases ok with
  | false => exact hloop
  | true =>
    simp only [delOtherPorts, hps, if_true, Except.ok_bind]
    split
    · exact .refl s
    · exact hloop

theorem updatePorts_returns (h : s.WF) (hq : q ∈ s.bundles) (hlag : NoLagClaim s q slaves) :
    (updatePorts env s q slaves).Ensures
      (fun _ => takeOff s.name s.vlanIntfBmp (slaves.filterMap (s.takenVlan (some q))) = none)
      fun s' => takeOff s.name s.vlanIntfBmp (slaves.filterMap (s.takenVlan (some q))) =
        some s'.vlanIntfBmp := by
  refine ((addSlaves_returns h hq hlag).and (addSlaves_ensures h hq hlag)).bind ?_
  rintro ⟨s₁, ok⟩ ⟨hresult, hclaimed, -⟩
  refine Except.Ensures.mono (Except.Ensures.monoError
    (hclaimed.wf.toListsWF.delOtherPorts_returns hclaimed.live slaves ok) fun _ => False.elim) ?_
  intro s₂ hframe
  rw [hresult, hframe.vlanIntfBmp]

end Slaves

/-! ## The settings -/

section Settings

variable {env : Env} {s s' : State} {aux q : Ptr} {settings : OfprotoBundleSettings}
  {ps : List OfpPort}

theorem configureColumns_returns {bridge : String} {vlansBmp : VlanBitmap} {b : Ofbundle}
    (hvlan : b.vlan < vlanBitmapSize) :
    (configureColumns bridge vlansBmp b).Ensures (fun _ => ¬ ConfigureFits bridge vlansBmp b)
      fun _ => ConfigureFits bridge vlansBmp b := by
  rw [configureColumns_eq_foldlM fun _ => hvlan]
  refine Except.Ensures.bind (Except.Ensures.monoError (foldlM_appendAsserted_returns _ _) ?_) ?_
  · exact fun _ ⟨hlong, hne⟩ hfits => hlong (hfits hne)
  · exact fun _ ⟨_, hfits⟩ => hfits

theorem State.WF.bundleConfigure_returns (h : s.WF) (hq : q ∈ s.bundles) (hvrf : s.vrf = false)
    (hps : s.Members q ps) (hne : ps ≠ []) (hvlan : (s.bundle q).vlan < vlanBitmapSize) :
    (Ofproto.bundleConfigure env s q).Ensures
      (fun _ => ¬ ConfigureFits s.name s.vlansBmp (s.bundle q))
      fun _ => ConfigureFits s.name s.vlansBmp (s.bundle q) := by
  obtain ⟨w₁, hs₁, -, -⟩ := delFromSimOvs_spec env s q
  refine h.bundleConfigure_rule hq ?_ ?_
  · rintro ps' hps' (hvrf' | rfl)
    · exact absurd (hvrf.symm.trans hvrf') (by simp)
    · exact absurd (List.perm_nil.mp (hps.perm hps')) hne
  · intro ps' _ _ _
    obtain ⟨w₂, hs₂, -, -⟩ := delMembersFromSimOvs_spec env (delFromSimOvs env s q) ps'
    rw [hs₂, hs₁]
    have hfits : ConfigureFits s.name s.vlansBmp
        { s.bundle q with isAddedToSimOvs := false } ↔
          ConfigureFits s.name s.vlansBmp (s.bundle q) := .rfl
    have hcolumns : (configureColumns s.name s.vlansBmp
        { s.bundle q with isAddedToSimOvs := false }).Ensures _ _ := configureColumns_returns hvlan
    rw [hfits] at hcolumns
    simp only [configurePort, Function.update_self]
    refine hcolumns.bind fun columns hcolumns => ?_
    split
    · exact hcolumns
    · exact hcolumns

theorem Ofbundle.withVlans_vlan_lt (b : Ofbundle) (settings : OfprotoBundleSettings) :
    (b.withVlans settings).vlan < vlanBitmapSize := by
  simp only [Ofbundle.withVlans, vlanBitmapSize]
  split <;> omega

theorem State.WF.bundleApply_returns (h : s.WF) (hq : q ∈ s.bundles)
    (hname : (s.bundle q).name = settings.name) (hps : s.Members q ps) (hne : ps ≠ []) :
    (Ofproto.bundleApply env s q settings).Ensures
      (fun _ => (s.bundle q).isBridgeBundle = false ∧ ¬ s.ApplyFits settings s.vlanIntfBmp)
      fun _ => (s.bundle q).isBridgeBundle = false → s.ApplyFits settings s.vlanIntfBmp := by
  refine bundleApply_rule hq hname ?_ ?_ ?_ ?_
  · exact fun hbridge hnot => absurd (hbridge.symm.trans hnot) (by simp)
  · intro sflow hbridge hroutes
    have hfits : s.ApplyFits settings s.vlanIntfBmp ↔
        UpdateFits s.name s.vlanIntfBmp settings.vlan true :=
      ⟨fun hfits => hfits.1 hroutes, fun hfits => ⟨fun _ => hfits, fun hconf => absurd hroutes hconf.1⟩⟩
    rw [hfits]
    refine ((simBridgeVlanRoutingUpdate_returns (s.modifyBundle q fun b =>
      { b with isSflowEnabled := sflow }) settings.vlan true).monoError ?_).mono ?_
    · exact fun _ hlong => ⟨hbridge, hlong⟩
    · exact fun _ hfits _ => hfits
  · exact fun _ _ _ hroutes hconf _ => ⟨(absurd · hroutes), (absurd · hconf)⟩
  · intro sflow hbridge hconf
    have hbundle : ((s.modifyBundle q fun b =>
        ({ b with isSflowEnabled := sflow } : Ofbundle).withVlans settings).bundle q) =
        ({ s.bundle q with isSflowEnabled := sflow } : Ofbundle).withVlans settings := by
      simp [State.modifyBundle]
    have hwf := h.modifyBundle (q := q) (f := fun b =>
      ({ b with isSflowEnabled := sflow } : Ofbundle).withVlans settings) fun _ => rfl
    have happly : (Ofproto.bundleConfigure env (s.modifyBundle q fun b =>
        ({ b with isSflowEnabled := sflow } : Ofbundle).withVlans settings) q).Ensures _ _ :=
      hwf.bundleConfigure_returns hq hconf.2.2.1 (hps.congr rfl (fun _ _ => rfl) rfl) hne (by
        rw [hbundle]
        exact Ofbundle.withVlans_vlan_lt _ settings)
    rw [hbundle] at happly
    have hfits : s.ApplyFits settings s.vlanIntfBmp ↔ ConfigureFits s.name s.vlansBmp
        (({ s.bundle q with isSflowEnabled := sflow } : Ofbundle).withVlans settings) := by
      have hsame : ConfigureFits s.name s.vlansBmp
            (((Ofbundle.fresh 0).withSettings settings).withVlans settings) ↔
          ConfigureFits s.name s.vlansBmp
            (({ s.bundle q with isSflowEnabled := sflow } : Ofbundle).withVlans settings) := by
        simp only [ConfigureFits, configurePieces, configureText, Ofbundle.withVlans,
          Ofbundle.withSettings, hname]
        rfl
      rw [← hsame]
      exact ⟨fun hfits => hfits.2 hconf, fun hfits => ⟨(absurd · hconf.1), fun _ => hfits⟩⟩
    rw [hfits]
    refine (happly.monoError ?_).mono ?_
    · exact fun _ hlong => ⟨hbridge, hlong⟩
    · exact fun _ hfits _ => hfits

end Settings

/-! ## `bundle_set` -/

section Set

variable {env : Env} {s s' : State} {aux q : Ptr} {settings : OfprotoBundleSettings}

theorem Opened.takenVlan (h : Opened env aux settings q s s') (hwf : s.WF) :
    s'.takenVlan (some q) = s.takenVlan (s.bundleLookup aux) := by
  funext p
  simp only [State.takenVlan, h.frame.ports, h.frame.port]
  by_cases hp : p ∈ s.ports
  · cases hb : (s.port p).bundle with
    | none => simp
    | some q' =>
      have howner := hwf.owner p hp q' hb
      have hown : (some q' ≠ some q ↔ some q' ≠ s.bundleLookup aux) := by
        rcases h.found with ⟨hfind, -⟩ | ⟨hfind, hq, -⟩
        · rw [hfind]
        · have hne : q' ≠ q := ne_of_mem_of_not_mem howner hq
          simp [hfind, hne]
      refine if_ctx_congr (and_congr_right fun _ => hown) (fun hne => ?_) fun _ => rfl
      have hne' : q' ≠ q := fun hqq => (hown.mpr hne.2) (congrArg some hqq)
      simp only [Option.bind_some, State.routedVlan, h.bundle_ne q' hne']
  · simp [hp]

theorem Opened.routedVlan (h : Opened env aux settings q s s') :
    s'.routedVlan q = (s.bundleLookup aux).bind s.routedVlan := by
  rcases h.found with ⟨hfind, -, -, hbundle⟩ | ⟨hfind, -, -, -, hbundle⟩
  · rw [hfind, State.routedVlan, hbundle]
    rfl
  · rw [hfind, State.routedVlan, hbundle]
    rfl

/-- Only the names, the types of the netdevs and the enabled VLANs matter. -/
theorem State.applyFits_congr {bmp : VlanBitmap} (hname : s'.name = s.name) (hvrf : s'.vrf = s.vrf)
    (hports : s'.ports = s.ports) (htype : ∀ p, (s'.port p).type = (s.port p).type)
    (hvlans : s'.vlansBmp = s.vlansBmp) :
    s'.ApplyFits settings bmp ↔ s.ApplyFits settings bmp := by
  have hinternal := State.isInternal_congr settings.slaves hports htype
  simp only [State.ApplyFits, State.Routes, State.Configures, hinternal, hname, hvrf, hvlans]

theorem filterMap_takenVlan_eq_nil {own : Option Ptr} {slaves : List OfpPort}
    (h : ∀ p ∈ slaves, p ∉ s.ports) : slaves.filterMap (s.takenVlan own) = [] := by
  refine List.filterMap_eq_nil_iff.mpr fun p hp => ?_
  simp [State.takenVlan, h p hp]

/-- `bundle_set` returns exactly if it can be carried out. -/
theorem State.WF.bundleSet_returns (h : s.WF)
    (hteardown : NoTeardown s (.bundleSet aux (some settings)))
    (hlag : NoLagClaimed s (.bundleSet aux (some settings))) :
    (bundleSet env s aux (some settings)).Ensures (fun _ => ¬ s.SetFits aux settings)
      fun _ => s.SetFits aux settings := by
  refine h.bundleSet_rule (Q := fun q s₁ s₂ => takeOff s.name s.vlanIntfBmp
    (settings.slaves.filterMap (s.takenVlan (s.bundleLookup aux))) = some s₂.vlanIntfBmp)
    hteardown hlag ?_ ?_ ?_
  · intro q s₁ hopened hwf₁ hq hnolag
    have hupdate : (updatePorts env s₁ q settings.slaves).Ensures _ _ :=
      (updatePorts_returns hwf₁ hq hnolag).and (updatePorts_ensures hwf₁ hq hnolag)
    rw [hopened.takenVlan h, hopened.name, hopened.vlanIntfBmp] at hupdate
    refine Except.Ensures.mono (hupdate.monoError fun _ hnone hfits => ?_) fun s₂ hs₂ => hs₂.symm
    -- with no slave there is nothing to take off
    by_cases hexists : ∃ p ∈ settings.slaves, p ∈ s.ports
    · obtain ⟨bmp, hbmp, -⟩ := hfits.1 hexists
      rw [hnone] at hbmp
      cases hbmp
    · rw [filterMap_takenVlan_eq_nil fun p hp hmem => hexists ⟨p, hp, hmem⟩] at hnone
      cases hnone
  · intro q s₁ s₂ hopened _ hupdated hsome _ hnone
    have hframe := hupdated.claims.frame
    rw [filterMap_takenVlan_eq_nil hnone] at hsome
    have hintf : s.vlanIntfBmp = s₂.vlanIntfBmp := Option.some.inj hsome
    have hrouted : s₂.routedVlan q = (s.bundleLookup aux).bind s.routedVlan := by
      rw [← hopened.routedVlan, State.routedVlan, State.routedVlan, (hframe.sub q hupdated.live).2]
    have hdestroy : (Ofproto.bundleDestroy env s₂ q).Ensures _ _ :=
      hupdated.wf.toListsWF.bundleDestroy_returns hupdated.live
    rw [hrouted, ← hintf, hframe.name, hopened.name] at hdestroy
    refine Except.Ensures.mono (hdestroy.monoError fun _ hnot hfits => hfits.2 hnone hnot) ?_
    intro s₃ htaken
    refine ⟨fun ⟨p, hp, hmem⟩ => absurd hmem (hnone p hp), fun _ => ?_⟩
    rw [htaken]
    simp
  · intro q s₁ s₂ ps hopened _ hupdated hsome hps hne hexists hname
    have hframe := hupdated.claims.frame
    have happly : (Ofproto.bundleApply env s₂ q settings).Ensures _ _ :=
      hupdated.wf.bundleApply_returns hupdated.live hname hps hne
    rw [(hframe.sub q hupdated.live).2, hopened.isBridgeBundle, State.applyFits_congr
      (hframe.name.trans hopened.name) (hframe.vrf.trans hopened.frame.vrf)
      (hframe.ports.trans hopened.frame.ports)
      (fun p => by rw [(hframe.netdev p).2, hopened.frame.port])
      (hframe.vlansBmp.trans hopened.vlansBmp)] at happly
    refine Except.Ensures.mono (happly.monoError ?_) ?_
    · rintro _ ⟨hbridge, hnot⟩ hfits
      obtain ⟨bmp, hbmp, happlies⟩ := hfits.1 hexists
      rw [hsome] at hbmp
      obtain rfl := Option.some.inj hbmp
      exact hnot (happlies hbridge)
    · intro s₃ happlies
      refine ⟨fun _ => ⟨s₂.vlanIntfBmp, hsome, happlies⟩, fun hnone => ?_⟩
      obtain ⟨p, hp, hmem⟩ := hexists
      exact absurd hmem (hnone p hp)

end Set

end ContainerPlugin.Ofproto
