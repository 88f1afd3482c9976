import ContainerPlugin.Ofproto.Effects

/-!
# Well-formed states

In a well-formed state the list of every bundle is a ring of its own and holds the ports that name
the bundle as theirs, every mirror sits in the slot it names, and the mirror bundles are those of the
bundles. Linking and unlinking a port, allocating a bundle and taking an empty one out keep it.
-/

namespace ContainerPlugin.Ofproto

/-- The list of the bundle `q` is `ps`, and these are the ports that point to `q`. -/
structure State.Members (s : State) (q : Ptr) (ps : List OfpPort) : Prop where
  ring : s.links.Ring (.ports q) (ps.map .bundleNode)
  mem_iff : ∀ p, p ∈ ps ↔ p ∈ s.ports ∧ (s.port p).bundle = some q

/-- The tables of a mirror bridge, over the bundles of its ofproto. -/
structure Mbridge.WF (m : Mbridge) (bundles : List Ptr) : Prop where
  nodup : m.mbundles.Nodup
  perm : (m.mbundles.map m.mbundle).Perm bundles
  idx : ∀ i mirror, m.mirrors i = some mirror → mirror.idx = i
  aux : ∀ i j mirror mirror', m.mirrors i = some mirror → m.mirrors j = some mirror' →
    mirror.aux = mirror'.aux → i = j

/-- The bundles have keys of their own, and the lists match the owners of the ports. -/
structure State.ListsWF (s : State) : Prop where
  nodup : s.bundles.Nodup
  aux : ∀ q ∈ s.bundles, ∀ q' ∈ s.bundles, (s.bundle q).aux = (s.bundle q').aux → q = q'
  owner : ∀ p ∈ s.ports, ∀ q, (s.port p).bundle = some q → q ∈ s.bundles
  members : ∀ q ∈ s.bundles, ∃ ps, s.Members q ps

structure State.WF (s : State) : Prop extends s.ListsWF where
  mbridge : s.mbridge.WF s.bundles

section Members

variable {s s' : State} {q q' : Ptr} {ps ps' : List OfpPort} {p : OfpPort}

theorem State.Members.nodup (h : s.Members q ps) : ps.Nodup :=
  List.Nodup.of_map _ (List.nodup_cons.mp h.ring.nodup).2

theorem State.Members.perm (h : s.Members q ps) (h' : s.Members q ps') : ps.Perm ps' :=
  (List.perm_ext_iff_of_nodup h.nodup h'.nodup).mpr fun p => (h.mem_iff p).trans (h'.mem_iff p).symm

theorem State.Members.disjoint (h : s.Members q ps) (h' : s.Members q' ps') (hne : q ≠ q') :
    List.Disjoint (ListNode.ports q :: ps.map .bundleNode)
      (ListNode.ports q' :: ps'.map .bundleNode) := by
  have hps : ∀ p ∈ ps, p ∉ ps' := by
    intro p hp hp'
    have hq := ((h.mem_iff p).mp hp).2
    rw [((h'.mem_iff p).mp hp').2] at hq
    exact hne (Option.some.inj hq).symm
  rintro (q₀ | p) hmem hmem'
  · simp_all
  · exact hps p (by simpa using hmem) (by simpa using hmem')

theorem State.Members.length_lt (h : s.Members q ps) : ps.length < s.listFuel := by
  have hsub : ps ⊆ s.ports := fun p hp => ((h.mem_iff p).mp hp).1
  have hle := (List.subperm_of_subset h.nodup hsub).length_le
  exact lt_of_lt_of_le (Nat.lt_succ_of_le hle) (Nat.le_self_pow (by omega) _)

theorem State.Members.congr (h : s.Members q ps) (hports : s'.ports = s.ports)
    (hbundle : ∀ p ∈ s.ports, (s'.port p).bundle = (s.port p).bundle)
    (hlinks : s'.links = s.links) : s'.Members q ps where
  ring := hlinks ▸ h.ring
  mem_iff p := by
    rw [h.mem_iff, hports]
    exact and_congr_right fun hp => by rw [hbundle p hp]

/-- The list of a bundle, as a loop over it sees it. -/
theorem State.ListsWF.bundlePorts (h : s.ListsWF) (hq : q ∈ s.bundles) :
    ∃ ps, s.bundlePorts q = .ok ps ∧ s.Members q ps := by
  obtain ⟨ps, hps⟩ := h.members q hq
  have hnodes : ∀ l : List OfpPort, (∀ p ∈ l, p ∈ s.ports) →
      (l.map ListNode.bundleNode).mapM s.portOfNode = .ok l := by
    intro l hl
    induction l with
    | nil => rfl
    | cons p l ih =>
      have hp : s.portOfNode (.bundleNode p) = .ok p := if_pos (hl p (by simp))
      rw [List.map_cons, List.mapM_cons, hp, ih fun p' hp' => hl p' (.tail _ hp')]
      rfl
  refine ⟨ps, ?_, hps⟩
  have hwalk := hps.ring.walk_eq (by simpa using hps.length_lt)
  have hderef : s.derefBundle q = .ok (s.bundle q) := if_pos hq
  simp only [State.bundlePorts, hderef, hwalk]
  exact hnodes ps fun p hp => ((hps.mem_iff p).mp hp).1

end Members

section WF

variable {env : Env} {s s' : State} {q : Ptr} {p : OfpPort}

theorem State.ListsWF.deref (_ : s.ListsWF) (hq : q ∈ s.bundles) : s.derefBundle q = .ok (s.bundle q) :=
  if_pos hq

/-- Only the lists, the keys and the owners matter. -/
theorem State.ListsWF.congr (h : s.ListsWF) (hports : s'.ports = s.ports)
    (hbundle : ∀ p ∈ s.ports, (s'.port p).bundle = (s.port p).bundle)
    (hbundles : s'.bundles = s.bundles) (haux : ∀ q, (s'.bundle q).aux = (s.bundle q).aux)
    (hlinks : s'.links = s.links) : s'.ListsWF where
  nodup := hbundles ▸ h.nodup
  aux q hq q' hq' := by
    rw [haux, haux]
    exact h.aux q (hbundles ▸ hq) q' (hbundles ▸ hq')
  owner p hp q hq := by
    rw [hports] at hp
    rw [hbundle p hp] at hq
    exact hbundles ▸ h.owner p hp q hq
  members q hq := by
    obtain ⟨ps, hps⟩ := h.members q (hbundles ▸ hq)
    exact ⟨ps, hps.congr hports hbundle hlinks⟩

/-- A key belongs to one bundle. -/
theorem State.ListsWF.bundleLookup_eq_some_iff (h : s.ListsWF) {aux : Ptr} :
    s.bundleLookup aux = some q ↔ q ∈ s.bundles ∧ (s.bundle q).aux = aux := by
  constructor
  · intro hq
    exact ⟨List.mem_of_find?_eq_some hq, by simpa using List.find?_some hq⟩
  · intro ⟨hq, haux⟩
    cases hfind : s.bundleLookup aux with
    | none => exact absurd haux (by simpa using List.find?_eq_none.mp hfind q hq)
    | some q' =>
      have hq' : (s.bundle q').aux = aux := by simpa using List.find?_some hfind
      rw [h.aux q hq q' (List.mem_of_find?_eq_some hfind) (haux.trans hq'.symm)]

/-! ## Unlinking a port -/

theorem State.Members.detach_self {as bs : List OfpPort} (h : s.Members q (as ++ p :: bs)) :
    (detachPort env s p).Members q (as ++ bs) := by
  have hnd := h.nodup
  have hp : p ∉ as ++ bs := (List.nodup_middle.mp hnd).notMem
  constructor
  · have hring := h.ring
    rw [List.map_append, List.map_cons] at hring
    simpa [detachPort] using hring.remove
  · intro p'
    by_cases hpp : p' = p
    · subst hpp
      simp [hp, detachPort]
    · have hmem := h.mem_iff p'
      simp only [detachPort, Function.update_of_ne hpp]
      rw [← hmem]
      simp [hpp]

private theorem Members.detach_other {q' : Ptr} {ps ps' : List OfpPort} (h : s.Members q ps)
    (h' : s.Members q' ps') (hne : q ≠ q') (hp : p ∈ ps) : (detachPort env s p).Members q' ps' := by
  obtain ⟨as, bs, rfl⟩ := List.append_of_mem hp
  have hp' : p ∉ ps' := fun hp' => h.disjoint h' hne
    (List.mem_cons_of_mem _ (List.mem_map_of_mem hp)) (List.mem_cons_of_mem _ (List.mem_map_of_mem hp'))
  constructor
  · have hring := h.ring
    have hdisj := h.disjoint h' hne
    rw [List.map_append, List.map_cons] at hring hdisj
    exact hring.frame_remove h'.ring hdisj
  · intro p'
    by_cases hpp : p' = p
    · subst hpp
      simp [hp', detachPort]
    · simp only [detachPort, Function.update_of_ne hpp]
      exact h'.mem_iff p'

/-- The bundle of the port loses it, the other lists stay as they are. -/
theorem State.ListsWF.detachPort (h : s.ListsWF) (hp : p ∈ s.ports) (hb : (s.port p).bundle = some q) :
    (Ofproto.detachPort env s p).ListsWF := by
  have hq := h.owner p hp q hb
  obtain ⟨ps, hps⟩ := h.members q hq
  have hmem : p ∈ ps := (hps.mem_iff p).mpr ⟨hp, hb⟩
  refine ⟨h.nodup, h.aux, ?_, ?_⟩
  · intro p' hp' q' hq'
    by_cases hpp : p' = p
    · subst hpp
      simp [Ofproto.detachPort] at hq'
    · simp only [Ofproto.detachPort, Function.update_of_ne hpp] at hq'
      exact h.owner p' hp' q' hq'
  · intro q' hq'
    by_cases hqq : q' = q
    · subst hqq
      obtain ⟨as, bs, rfl⟩ := List.append_of_mem hmem
      exact ⟨_, hps.detach_self⟩
    · obtain ⟨ps', hps'⟩ := h.members q' hq'
      exact ⟨ps', Members.detach_other hps hps' (Ne.symm hqq) hmem⟩

theorem State.ListsWF.bundleDelPort (h : s.ListsWF) (hp : p ∈ s.ports) (hb : (s.port p).bundle = some q) :
    Ofproto.bundleDelPort env s p = .ok (Ofproto.detachPort env s p) := by
  rw [Ofproto.bundleDelPort, hb]
  simp only [h.deref (h.owner p hp q hb)]
  rfl

/-! ## Linking a port -/

private theorem Members.attach_self {ps : List OfpPort} (h : s.Members q ps) (hp : p ∈ s.ports)
    (hb : (s.port p).bundle ≠ some q) : (attachPort s q p).Members q (ps ++ [p]) := by
  have hmem : p ∉ ps := fun hmem => hb ((h.mem_iff p).mp hmem).2
  constructor
  · rw [List.map_append]
    exact h.ring.pushBack (by simpa using hmem)
  · intro p'
    by_cases hpp : p' = p
    · subst hpp
      simp [attachPort, hp]
    · simp only [attachPort, Function.update_of_ne hpp, List.mem_append, List.mem_singleton, hpp,
        or_false]
      exact h.mem_iff p'

private theorem Members.attach_other {q' : Ptr} {ps ps' : List OfpPort} (h : s.Members q ps)
    (h' : s.Members q' ps') (hne : q ≠ q') (hb : (s.port p).bundle = none) :
    (attachPort s q p).Members q' ps' := by
  have hp' : p ∉ ps' := fun hp' => by
    have := ((h'.mem_iff p).mp hp').2
    rw [hb] at this
    cases this
  constructor
  · exact h.ring.frame_pushBack h'.ring (h.disjoint h' hne) (by simpa using hp') (by simp)
  · intro p'
    by_cases hpp : p' = p
    · subst hpp
      simp [attachPort, hp', hne]
    · simp only [attachPort, Function.update_of_ne hpp]
      exact h'.mem_iff p'

theorem State.ListsWF.attachPort (h : s.ListsWF) (hq : q ∈ s.bundles) (hp : p ∈ s.ports)
    (hb : (s.port p).bundle = none) : (Ofproto.attachPort s q p).ListsWF := by
  obtain ⟨ps, hps⟩ := h.members q hq
  refine ⟨h.nodup, h.aux, ?_, ?_⟩
  · intro p' hp' q' hq'
    by_cases hpp : p' = p
    · subst hpp
      obtain rfl : q = q' := by simpa [Ofproto.attachPort] using hq'
      exact hq
    · simp only [Ofproto.attachPort, Function.update_of_ne hpp] at hq'
      exact h.owner p' hp' q' hq'
  · intro q' hq'
    by_cases hqq : q' = q
    · subst hqq
      exact ⟨_, Members.attach_self hps hp (by simp [hb])⟩
    · obtain ⟨ps', hps'⟩ := h.members q' hq'
      exact ⟨ps', Members.attach_other hps hps' (Ne.symm hqq) hb⟩

/-! ## Mirror bundles -/

theorem Mbridge.WF.registerBundle {m : Mbridge} {bundles : List Ptr} (h : m.WF bundles)
    {mbundle : Ptr} (hfresh : mbundle ∉ m.mbundles) :
    (m.registerBundle mbundle q).WF (q :: bundles) where
  nodup := List.nodup_cons.mpr ⟨hfresh, h.nodup⟩
  perm := by
    have hmap : m.mbundles.map (Function.update m.mbundle mbundle q) = m.mbundles.map m.mbundle :=
      List.map_congr_left fun b hb =>
        Function.update_of_ne (ne_of_mem_of_not_mem hb hfresh) _ _
    simpa [Mbridge.registerBundle, hmap] using h.perm
  idx := h.idx
  aux := h.aux

theorem Mbridge.WF.mirrorDestroy {m : Mbridge} {bundles : List Ptr} (h : m.WF bundles) (aux : Ptr) :
    (m.mirrorDestroy aux).WF bundles := by
  rw [Mbridge.mirrorDestroy]
  split
  · exact h
  · rename_i mirror _
    have hold : ∀ i mirror', Function.update m.mirrors mirror.idx none i = some mirror' →
        m.mirrors i = some mirror' := by
      intro i mirror' hi
      by_cases hidx : i = mirror.idx
      · subst hidx
        simp at hi
      · rwa [Function.update_of_ne hidx] at hi
    exact ⟨h.nodup, h.perm, fun i mirror' hi => h.idx i mirror' (hold i mirror' hi),
      fun i j mi mj hi hj => h.aux i j mi mj (hold i mi hi) (hold j mj hj)⟩

/-- A mirror is replaced by one with the same slot and key. -/
theorem Mbridge.WF.setMirror {m m' : Mbridge} {bundles : List Ptr} (h : m.WF bundles)
    {i : Fin maxMirrors} {mirror : Mirror}
    (hmirrors : m'.mirrors = Function.update m.mirrors i (some mirror))
    (hmbundles : m'.mbundles = m.mbundles) (hmbundle : m'.mbundle = m.mbundle)
    (hidx : mirror.idx = i)
    (haux : ∀ j mirror', m.mirrors j = some mirror' → mirror'.aux = mirror.aux → j = i) :
    m'.WF bundles := by
  have hnew : ∀ j mirror', m'.mirrors j = some mirror' →
      (j = i ∧ mirror' = mirror) ∨ (j ≠ i ∧ m.mirrors j = some mirror') := by
    intro j mirror' hj
    rw [hmirrors] at hj
    by_cases hji : j = i
    · subst hji
      exact .inl ⟨rfl, by simpa using hj.symm⟩
    · exact .inr ⟨hji, by rwa [Function.update_of_ne hji] at hj⟩
  refine ⟨hmbundles ▸ h.nodup, by rw [hmbundles, hmbundle]; exact h.perm, ?_, ?_⟩
  · intro j mirror' hj
    obtain ⟨rfl, rfl⟩ | ⟨-, hj⟩ := hnew j mirror' hj
    · exact hidx
    · exact h.idx j mirror' hj
  · intro j k mj mk hj hk hjk
    obtain ⟨rfl, rfl⟩ | ⟨hji, hj⟩ := hnew j mj hj
    · obtain ⟨rfl, rfl⟩ | ⟨-, hk⟩ := hnew k mk hk
      · rfl
      · exact (haux k mk hk hjk.symm).symm
    · obtain ⟨rfl, rfl⟩ | ⟨-, hk⟩ := hnew k mk hk
      · exact haux j mj hj hjk
      · exact h.aux j k mj mk hj hk hjk

theorem Mbridge.WF.unregisterFrom {m : Mbridge} {bundles : List Ptr} (h : m.WF bundles)
    (mbundle : Ptr) (i : Fin maxMirrors) : (m.unregisterFrom mbundle i).WF bundles := by
  rw [Mbridge.unregisterFrom]
  split
  · exact h
  · rename_i mirror hi
    have haux : ∀ j mirror', m.mirrors j = some mirror' → mirror'.aux = mirror.aux → j = i :=
      fun j mirror' hj hjk => h.aux j i mirror' mirror hj hi hjk
    split
    · exact h.mirrorDestroy _
    · split
      · exact h.setMirror rfl rfl rfl (h.idx i mirror hi) haux
      · split
        · exact h.setMirror rfl rfl rfl (h.idx i mirror hi) haux
        · exact h

@[simp] theorem Mbridge.mbundles_mirrorDestroy (m : Mbridge) (aux : Ptr) :
    (m.mirrorDestroy aux).mbundles = m.mbundles := by
  rw [Mbridge.mirrorDestroy]
  split <;> rfl

@[simp] theorem Mbridge.mbundle_mirrorDestroy (m : Mbridge) (aux : Ptr) :
    (m.mirrorDestroy aux).mbundle = m.mbundle := by
  rw [Mbridge.mirrorDestroy]
  split <;> rfl

theorem Mbridge.mbundles_unregisterFrom (m : Mbridge) (mbundle : Ptr) (i : Fin maxMirrors) :
    (m.unregisterFrom mbundle i).mbundles = m.mbundles ∧
      (m.unregisterFrom mbundle i).mbundle = m.mbundle := by
  rw [Mbridge.unregisterFrom]
  split
  · exact ⟨rfl, rfl⟩
  · split
    · simp
    · split
      · exact ⟨rfl, rfl⟩
      · split <;> exact ⟨rfl, rfl⟩

theorem Mbridge.WF.unregisterBundle {m : Mbridge} {bundles : List Ptr} (h : m.WF bundles)
    (hnd : bundles.Nodup) (hq : q ∈ bundles) : (m.unregisterBundle q).WF (bundles.erase q) := by
  obtain ⟨b, hb, hbq⟩ := List.mem_map.mp (h.perm.mem_iff.mpr hq)
  have hinj : Set.InjOn m.mbundle {b | b ∈ m.mbundles} :=
    fun x hx y hy hxy => List.inj_on_of_nodup_map (h.perm.nodup_iff.mpr hnd) hx hy hxy
  have hlookup : m.mbundleLookup q = some b := by
    cases hfind : m.mbundleLookup q with
    | none => exact absurd hbq (by simpa using List.find?_eq_none.mp hfind b hb)
    | some b' =>
      have hb' : m.mbundle b' = q := by simpa using List.find?_some hfind
      rw [hinj (List.mem_of_find?_eq_some hfind) hb (hb'.trans hbq.symm)]
  -- the loop over the slots leaves the mirror bundles alone
  have hloop : ∀ (l : List (Fin maxMirrors)) (m' : Mbridge), m'.WF bundles →
      m'.mbundles = m.mbundles → m'.mbundle = m.mbundle →
      (l.foldl (Mbridge.unregisterFrom b) m').WF bundles ∧
        (l.foldl (Mbridge.unregisterFrom b) m').mbundles = m.mbundles ∧
        (l.foldl (Mbridge.unregisterFrom b) m').mbundle = m.mbundle := by
    intro l
    induction l with
    | nil => exact fun m' h' h₁ h₂ => ⟨h', h₁, h₂⟩
    | cons i l ih =>
      intro m' h' h₁ h₂
      obtain ⟨h₃, h₄⟩ := m'.mbundles_unregisterFrom b i
      exact ih _ (h'.unregisterFrom b i) (h₃.trans h₁) (h₄.trans h₂)
  obtain ⟨hwf, hmbundles, hmbundle⟩ := hloop (List.finRange maxMirrors) m h rfl rfl
  simp only [Mbridge.unregisterBundle, hlookup]
  refine ⟨?_, ?_, hwf.idx, hwf.aux⟩
  · simpa only [hmbundles] using h.nodup.erase b
  · simp only [hmbundles, hmbundle]
    have hcons : (m.mbundles.map m.mbundle).Perm (q :: (m.mbundles.erase b).map m.mbundle) := by
      simpa [hbq] using (List.perm_cons_erase hb).map m.mbundle
    exact (hcons.symm.trans (h.perm.trans (List.perm_cons_erase hq))).cons_inv

end WF

end ContainerPlugin.Ofproto
