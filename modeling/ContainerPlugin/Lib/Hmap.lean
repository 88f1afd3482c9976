import Mathlib.Data.List.Nodup
import Mathlib.Data.List.Perm.Basic

/-!
# Intrusive hash maps with power-of-two buckets

A node carries its hash; a lookup by key only knows the bucket, that is the nodes whose hash
agrees with the key on the current mask bits, so nodes of other keys can share it. The order of
the nodes inside a bucket and the growth of the mask on insertion are left to a `Layout`.
-/

universe u

/-- A node of the map: the hash it was inserted with and the structure it is embedded in. -/
structure Hmap.Node (α : Type u) where
  hash : ℕ
  value : α

/-- The nodes are listed in an order that agrees with the order inside every bucket. -/
structure Hmap (α : Type u) where
  mask : ℕ
  nodes : List (Hmap.Node α)

namespace Hmap

variable {α : Type u}

def empty : Hmap α := ⟨0, []⟩

def values (h : Hmap α) : List α := h.nodes.map (·.value)

def inBucket (h : Hmap α) (k : ℕ) (n : Node α) : Bool :=
  n.hash &&& h.mask == k &&& h.mask

/-- The structures met by a walk over the bucket of `k`. -/
def bucket (h : Hmap α) (k : ℕ) : List α :=
  (h.nodes.filter (h.inBucket k)).map (·.value)

/-- The structures met by a walk over the nodes with hash `k`. -/
def withHash (h : Hmap α) (k : ℕ) : List α :=
  (h.nodes.filter (·.hash == k)).map (·.value)

/-- Unlink the first node of the bucket of `k` that satisfies `p`; nothing moves. -/
def removeInBucket (h : Hmap α) (k : ℕ) (p : α → Bool) : Hmap α :=
  { h with nodes := h.nodes.eraseP fun n => h.inBucket k n && p n.value }

/-- Unlink the first node with hash `k` that satisfies `p`. -/
def removeWithHash (h : Hmap α) (k : ℕ) (p : α → Bool) : Hmap α :=
  { h with nodes := h.nodes.eraseP fun n => n.hash == k && p n.value }

/-- Overwrite the structure of the first node that satisfies `p`. -/
def overwriteFirst (p : Node α → Bool) (f : α → α) : List (Node α) → List (Node α)
  | [] => []
  | n :: ns => if p n then { n with value := f n.value } :: ns else n :: overwriteFirst p f ns

/-- Overwrite, in place, the first structure with hash `k` that satisfies `p`. -/
def updateWithHash (h : Hmap α) (k : ℕ) (p : α → Bool) (f : α → α) : Hmap α :=
  { h with nodes := overwriteFirst (fun n => n.hash == k && p n.value) f h.nodes }

/-- Overwrite, in place, the first structure in the bucket of `k` that satisfies `p`. -/
def updateInBucket (h : Hmap α) (k : ℕ) (p : α → Bool) (f : α → α) : Hmap α :=
  { h with nodes := overwriteFirst (fun n => h.inBucket k n && p n.value) f h.nodes }

/-- Overwrite, in place, every structure in the bucket of `k`. -/
def mapInBucket (h : Hmap α) (k : ℕ) (f : α → α) : Hmap α :=
  { h with nodes := h.nodes.map fun n => if h.inBucket k n then { n with value := f n.value } else n }

/-- A walk that unlinks the node it is at or overwrites its structure. -/
def walkSafe {σ : Type*} (f : σ → α → σ × Option α) : σ → List (Node α) → σ × List (Node α)
  | s, [] => (s, [])
  | s, n :: ns =>
    let (s, v) := f s n.value
    let (s, ns) := walkSafe f s ns
    (s, match v with
      | none => ns
      | some v => { n with value := v } :: ns)

/-- A walk that overwrites the structures it meets until `f` ends it. -/
def walkUntil {σ : Type*} (f : σ → α → Option (σ × α)) : σ → List (Node α) → σ × List (Node α)
  | s, [] => (s, [])
  | s, n :: ns =>
    match f s n.value with
    | none => (s, n :: ns)
    | some (s, v) =>
      let (s, ns) := walkUntil f s ns
      (s, { n with value := v } :: ns)

/-- How the map arranges itself on insertion: the mask as a function of the number of nodes and
the old mask, and the order the nodes end up in. -/
structure Layout (α : Type u) where
  grow : ℕ → ℕ → ℕ
  arrange : ℕ → ℕ → List (Node α) → List (Node α)
  arrange_perm : ∀ old new ns, (arrange old new ns).Perm ns

/-- The map keeps its mask and new nodes go first, as in a map of at most one node. -/
def Layout.pushFront : Layout α := ⟨fun _ mask => mask, fun _ _ ns => ns, fun _ _ _ => .rfl⟩

def insert (L : Layout α) (h : Hmap α) (hash : ℕ) (v : α) : Hmap α :=
  let ns := ⟨hash, v⟩ :: h.nodes
  let mask := L.grow ns.length h.mask
  ⟨mask, L.arrange h.mask mask ns⟩

/-! ## Maps hashed by their contents -/

/-- Every node sits in the map under the hash `f` of its structure. -/
def WellHashed (f : α → ℕ) (h : Hmap α) : Prop := ∀ n ∈ h.nodes, n.hash = f n.value

variable {f : α → ℕ} {h : Hmap α} {k : ℕ} {p : α → Bool}

@[simp] theorem values_empty : (empty : Hmap α).values = [] := rfl

theorem WellHashed.empty : WellHashed f (empty : Hmap α) := fun _ hn => nomatch hn

theorem mem_bucket_iff (H : WellHashed f h) {a : α} :
    a ∈ h.bucket k ↔ a ∈ h.values ∧ f a &&& h.mask = k &&& h.mask := by
  simp only [bucket, values, inBucket, List.mem_map, List.mem_filter, beq_iff_eq]
  constructor
  · rintro ⟨n, ⟨hn, hb⟩, rfl⟩
    exact ⟨⟨n, hn, rfl⟩, H n hn ▸ hb⟩
  · rintro ⟨⟨n, hn, rfl⟩, hb⟩
    exact ⟨n, ⟨hn, (H n hn).symm ▸ hb⟩, rfl⟩

/-- A walk over a bucket meets every structure with the key's hash. -/
theorem mem_bucket_of_hash (H : WellHashed f h) {a : α} (ha : a ∈ h.values)
    (hk : f a = k) : a ∈ h.bucket k :=
  (mem_bucket_iff H).2 ⟨ha, by rw [hk]⟩

theorem bucket_eq_filter (H : WellHashed f h) :
    h.bucket k = h.values.filter fun a => f a &&& h.mask == k &&& h.mask := by
  rw [bucket, values, List.filter_map]
  congr 1
  apply List.filter_congr
  intro n hn
  simp only [inBucket, Function.comp_apply, H n hn]

theorem mem_withHash_iff (H : WellHashed f h) {a : α} :
    a ∈ h.withHash k ↔ a ∈ h.values ∧ f a = k := by
  simp only [withHash, values, List.mem_map, List.mem_filter, beq_iff_eq]
  constructor
  · rintro ⟨n, ⟨hn, rfl⟩, rfl⟩
    exact ⟨⟨n, hn, rfl⟩, (H n hn).symm⟩
  · rintro ⟨⟨n, hn, rfl⟩, hb⟩
    exact ⟨n, ⟨hn, (H n hn).trans hb⟩, rfl⟩

/-! ## Insertion -/

variable {L : Layout α} {v : α}

theorem insert_nodes_perm (hash : ℕ) : (h.insert L hash v).nodes.Perm (⟨hash, v⟩ :: h.nodes) :=
  L.arrange_perm ..

theorem values_insert_perm (hash : ℕ) : (h.insert L hash v).values.Perm (v :: h.values) :=
  (insert_nodes_perm hash).map _

@[simp] theorem mem_values_insert (hash : ℕ) {a : α} :
    a ∈ (h.insert L hash v).values ↔ a = v ∨ a ∈ h.values := by
  rw [(values_insert_perm hash).mem_iff, List.mem_cons]

theorem length_nodes_insert (hash : ℕ) :
    (h.insert L hash v).nodes.length = h.nodes.length + 1 := by
  simpa using (insert_nodes_perm (L := L) (v := v) (h := h) hash).length_eq

theorem WellHashed.insert (H : WellHashed f h) : WellHashed f (h.insert L (f v) v) := by
  intro n hn
  rcases List.mem_cons.1 ((insert_nodes_perm _).mem_iff.1 hn) with rfl | hn
  · rfl
  · exact H n hn

/-! ## Removal -/

theorem WellHashed.removeInBucket (H : WellHashed f h) :
    WellHashed f (h.removeInBucket k p) :=
  fun n hn => H n (List.mem_of_mem_eraseP hn)

theorem WellHashed.removeWithHash (H : WellHashed f h) :
    WellHashed f (h.removeWithHash k p) :=
  fun n hn => H n (List.mem_of_mem_eraseP hn)

theorem eraseP_map_value {q : Node α → Bool} {r : α → Bool} :
    ∀ {ns : List (Node α)}, (∀ n ∈ ns, q n = r n.value) →
      (ns.eraseP q).map (·.value) = (ns.map (·.value)).eraseP r
  | [], _ => rfl
  | n :: ns, hqr => by
    have hn := hqr n (List.mem_cons_self ..)
    have ih := eraseP_map_value fun m hm => hqr m (List.mem_cons_of_mem _ hm)
    cases hr : r n.value with
    | true => simp [hn, hr]
    | false => simp [hn, hr, ih]

theorem values_removeInBucket (H : WellHashed f h) :
    (h.removeInBucket k p).values =
      h.values.eraseP fun a => (f a &&& h.mask == k &&& h.mask) && p a :=
  eraseP_map_value fun n hn => by rw [inBucket, H n hn]

theorem values_removeWithHash (H : WellHashed f h) :
    (h.removeWithHash k p).values = h.values.eraseP fun a => f a == k && p a :=
  eraseP_map_value fun n hn => by rw [H n hn]

@[simp] theorem mask_removeInBucket : (h.removeInBucket k p).mask = h.mask := rfl

/-- Unlinking the first match takes exactly the structure that a search would return. -/
theorem mem_eraseP_iff_of_nodup {a : α} {l : List α} (hl : l.Nodup) :
    a ∈ l.eraseP p ↔ a ∈ l ∧ l.find? p ≠ some a := by
  induction l with
  | nil => simp
  | cons b l ih =>
    rw [List.nodup_cons] at hl
    cases hb : p b with
    | true =>
      rw [List.eraseP_cons_of_pos hb, List.find?_cons_of_pos hb, List.mem_cons]
      constructor
      · intro ha
        exact ⟨.inr ha, fun h => hl.1 (Option.some.inj h ▸ ha)⟩
      · rintro ⟨rfl | ha, hne⟩
        · exact absurd rfl hne
        · exact ha
    | false =>
      rw [List.eraseP_cons_of_neg (by simp [hb]), List.find?_cons_of_neg (by simp [hb]),
        List.mem_cons, List.mem_cons, ih hl.2]
      constructor
      · rintro (rfl | ⟨ha, hne⟩)
        · exact ⟨.inl rfl, fun h => by simp [List.find?_some h] at hb⟩
        · exact ⟨.inr ha, hne⟩
      · rintro ⟨rfl | ha, hne⟩
        · exact .inl rfl
        · exact .inr ⟨ha, hne⟩

theorem find?_eraseP_of_disjoint {q : α → Bool} (hpq : ∀ a, p a → q a = false) (l : List α) :
    (l.eraseP p).find? q = l.find? q := by
  induction l with
  | nil => rfl
  | cons b l ih =>
    cases hb : p b with
    | true =>
      rw [List.eraseP_cons_of_pos hb, List.find?_cons_of_neg (by simp [hpq b hb])]
    | false =>
      rw [List.eraseP_cons_of_neg (by simp [hb]), List.find?_cons, List.find?_cons, ih]

theorem find?_bucket (H : WellHashed f h) :
    (h.bucket k).find? p =
      h.values.find? fun a => (f a &&& h.mask == k &&& h.mask) && p a := by
  rw [bucket_eq_filter H, List.find?_filter]
  simp only [Bool.decide_and, Bool.decide_eq_true]

theorem mem_values_removeInBucket (H : WellHashed f h) (hnd : h.values.Nodup) {a : α} :
    a ∈ (h.removeInBucket k p).values ↔ a ∈ h.values ∧ (h.bucket k).find? p ≠ some a := by
  rw [values_removeInBucket H, mem_eraseP_iff_of_nodup hnd, find?_bucket H]

/-- Unlinking the first match of one search does not change what a disjoint search finds. -/
theorem find?_bucket_removeInBucket (H : WellHashed f h) {q : α → Bool}
    (hpq : ∀ a, p a → q a = false) :
    ((h.removeInBucket k p).bucket k).find? q = (h.bucket k).find? q := by
  rw [find?_bucket H.removeInBucket, find?_bucket H, values_removeInBucket H, mask_removeInBucket]
  apply find?_eraseP_of_disjoint
  intro a ha
  rw [Bool.and_eq_true] at ha
  rw [hpq a ha.2, Bool.and_false]

/-! ## Walks -/

section Walks

variable {σ : Type*} {ns : List (Node α)}

/-- What is kept of the nodes does not depend on the state that the walk carries. -/
theorem walkSafe_eq_filterMap {f : σ → α → σ × Option α} {g : α → Option α}
    (hf : ∀ s a, (f s a).2 = g a) (s : σ) :
    (walkSafe f s ns).2 =
      ns.filterMap fun n => (g n.value).map fun v => { n with value := v } := by
  induction ns generalizing s with
  | nil => rfl
  | cons n ns ih =>
    rcases hn : f s n.value with ⟨t, v⟩
    have hg : g n.value = v := by rw [← hf s, hn]
    cases v with
    | none => simp [walkSafe, hn, hg, ih t]
    | some v => simp [walkSafe, hn, hg, ih t]

theorem map_walkUntil {β : Type*} {f : σ → α → Option (σ × α)} (col : α → β)
    (hf : ∀ s a s' a', f s a = some (s', a') → col a' = col a) (s : σ) :
    (walkUntil f s ns).2.map (fun n => (n.hash, col n.value)) =
      ns.map fun n => (n.hash, col n.value) := by
  induction ns generalizing s with
  | nil => rfl
  | cons n ns ih =>
    rw [walkUntil]
    cases hn : f s n.value with
    | none => rfl
    | some r =>
      simp only [List.map_cons, hf s n.value r.1 r.2 hn, ih r.1]

/-- A walk that is not ended has been everywhere. -/
theorem of_mem_walkUntil {f : σ → α → Option (σ × α)} {Q : α → Prop}
    (hf : ∀ s a s' a', f s a = some (s', a') → Q a')
    (hall : ∀ n ∈ ns, ∀ s, f s n.value ≠ none) (s : σ) :
    ∀ m ∈ (walkUntil f s ns).2, Q m.value := by
  induction ns generalizing s with
  | nil =>
    intro m hm
    cases hm
  | cons n ns ih =>
    intro m hm
    rw [walkUntil] at hm
    cases hn : f s n.value with
    | none => exact absurd hn (hall n List.mem_cons_self s)
    | some r =>
      rw [hn] at hm
      cases hm with
      | head => exact hf s n.value r.1 r.2 hn
      | tail _ hm => exact ih (fun k hk => hall k (List.mem_cons_of_mem _ hk)) r.1 m hm

/-- If what `f` wrote, and what it stopped at, is left alone by another walk, then the second walk
does nothing. -/
theorem walkUntil_walkUntil {f : σ → α → Option (σ × α)}
    (hsome : ∀ s a s' a', f s a = some (s', a') → ∀ t, f t a' = some (t, a'))
    (hnone : ∀ s a, f s a = none → ∀ t, f t a = none) (ns : List (Node α)) (s t : σ) :
    walkUntil f t (walkUntil f s ns).2 = (t, (walkUntil f s ns).2) := by
  induction ns generalizing s with
  | nil => rfl
  | cons n ns ih =>
    rw [walkUntil]
    cases hn : f s n.value with
    | none => simp only [walkUntil, hnone s n.value hn t]
    | some r => simp only [walkUntil, hsome s n.value r.1 r.2 hn t, ih r.1]

end Walks

/-! ## Overwriting in place -/

theorem mem_overwriteFirst {q : Node α → Bool} {g : α → α} {m : Node α} {ns : List (Node α)}
    (hm : m ∈ overwriteFirst q g ns) :
    m ∈ ns ∨ ∃ n ∈ ns, q n ∧ m = { n with value := g n.value } := by
  induction ns with
  | nil => exact .inl hm
  | cons n ns ih =>
    rw [overwriteFirst] at hm
    split at hm
    · rename_i hq
      rcases List.mem_cons.1 hm with rfl | hm
      · exact .inr ⟨n, List.mem_cons_self .., hq, rfl⟩
      · exact .inl (List.mem_cons_of_mem _ hm)
    · rcases List.mem_cons.1 hm with rfl | hm
      · exact .inl (List.mem_cons_self ..)
      · rcases ih hm with hm | ⟨k, hk, hq, rfl⟩
        · exact .inl (List.mem_cons_of_mem _ hm)
        · exact .inr ⟨k, List.mem_cons_of_mem _ hk, hq, rfl⟩

theorem exists_mem_overwriteFirst {q : Node α → Bool} {g : α → α} {ns : List (Node α)}
    (H : ∃ n ∈ ns, q n) : ∃ n ∈ ns, q n ∧ { n with value := g n.value } ∈ overwriteFirst q g ns := by
  induction ns with
  | nil => obtain ⟨_, hn, _⟩ := H; cases hn
  | cons n ns ih =>
    rw [overwriteFirst]
    split
    · rename_i hq
      exact ⟨n, List.mem_cons_self .., hq, List.mem_cons_self ..⟩
    · rename_i hq
      obtain ⟨m, hm, hqm⟩ := H
      rcases List.mem_cons.1 hm with rfl | hm
      · exact absurd hqm hq
      · obtain ⟨k, hk, hqk, hmem⟩ := ih ⟨m, hm, hqm⟩
        exact ⟨k, List.mem_cons_of_mem _ hk, hqk, List.mem_cons_of_mem _ hmem⟩

/-- Overwriting changes one node, in its place. -/
theorem overwriteFirst_eq_append {q : Node α → Bool} {ns : List (Node α)} (H : ∃ n ∈ ns, q n) :
    ∃ l₁ n l₂, ns = l₁ ++ n :: l₂ ∧ q n ∧
      ∀ g, overwriteFirst q g ns = l₁ ++ { n with value := g n.value } :: l₂ := by
  induction ns with
  | nil =>
    obtain ⟨_, hn, _⟩ := H
    cases hn
  | cons n ns ih =>
    cases hq : q n with
    | true => exact ⟨[], n, ns, rfl, hq, fun g => if_pos hq⟩
    | false =>
      obtain ⟨m, hm, hqm⟩ := H
      rcases List.mem_cons.1 hm with rfl | hm
      · rw [hq] at hqm
        cases hqm
      · obtain ⟨l₁, k, l₂, rfl, hk, hover⟩ := ih ⟨m, hm, hqm⟩
        refine ⟨n :: l₁, k, l₂, rfl, hk, fun g => ?_⟩
        rw [overwriteFirst, if_neg (by simp [hq]), hover g]
        rfl

/-- A column that the overwriting leaves alone is unchanged. -/
theorem map_overwriteFirst {β : Type*} {q : Node α → Bool} {g : α → α} {col : α → β}
    {ns : List (Node α)} (hcol : ∀ n ∈ ns, q n → col (g n.value) = col n.value) :
    (overwriteFirst q g ns).map (fun n => col n.value) = ns.map fun n => col n.value := by
  induction ns with
  | nil => rfl
  | cons n ns ih =>
    rw [overwriteFirst]
    split
    · rename_i hq
      simp only [List.map_cons, hcol n (List.mem_cons_self ..) hq]
    · simp only [List.map_cons, ih fun m hm => hcol m (List.mem_cons_of_mem _ hm)]

theorem map_values_updateWithHash {β : Type*} {g : α → α} {col : α → β}
    (hcol : ∀ a ∈ h.values, p a → col (g a) = col a) :
    (h.updateWithHash k p g).values.map col = h.values.map col := by
  have H : (overwriteFirst (fun n => n.hash == k && p n.value) g h.nodes).map
      (fun n => col n.value) = h.nodes.map fun n => col n.value :=
    map_overwriteFirst fun n hn hq => hcol n.value (List.mem_map_of_mem hn)
      ((Bool.and_eq_true _ _).mp hq).2
  simpa only [values, updateWithHash, List.map_map, Function.comp_def] using H

theorem mem_values_updateWithHash {g : α → α} {a : α}
    (ha : a ∈ (h.updateWithHash k p g).values) :
    a ∈ h.values ∨ ∃ b ∈ h.values, p b ∧ a = g b := by
  obtain ⟨m, hm, rfl⟩ := List.mem_map.1 ha
  rcases mem_overwriteFirst hm with hm | ⟨n, hn, hq, rfl⟩
  · exact .inl (List.mem_map_of_mem hm)
  · exact .inr ⟨n.value, List.mem_map_of_mem hn, ((Bool.and_eq_true _ _).mp hq).2, rfl⟩

theorem exists_mem_values_updateWithHash (H : WellHashed f h) {g : α → α} {a : α}
    (ha : a ∈ h.values) (hk : f a = k) (hp : p a) :
    ∃ b ∈ h.values, p b ∧ g b ∈ (h.updateWithHash k p g).values := by
  obtain ⟨m, hm, rfl⟩ := List.mem_map.1 ha
  obtain ⟨n, hn, hq, hmem⟩ := exists_mem_overwriteFirst
    (q := fun n => n.hash == k && p n.value) (g := g)
    ⟨m, hm, by simp only [H m hm, hk, hp, beq_self_eq_true, Bool.and_self]⟩
  exact ⟨n.value, List.mem_map_of_mem hn, ((Bool.and_eq_true _ _).mp hq).2,
    List.mem_map.2 ⟨_, hmem, rfl⟩⟩

theorem WellHashed.updateWithHash (H : WellHashed f h) {g : α → α}
    (hg : ∀ a ∈ h.values, p a → f (g a) = f a) : WellHashed f (h.updateWithHash k p g) := by
  intro m hm
  rcases mem_overwriteFirst hm with hm | ⟨n, hn, hq, rfl⟩
  · exact H m hm
  · rw [hg n.value (List.mem_map_of_mem hn) ((Bool.and_eq_true _ _).mp hq).2]
    exact H n hn

/-- Overwriting the first match takes the structure that a search would return. -/
theorem overwriteFirst_of_find? {q : Node α → Bool} {n : Node α} {ns : List (Node α)}
    (H : ns.find? q = some n) :
    ∃ l₁ l₂, ns = l₁ ++ n :: l₂ ∧
      ∀ g, overwriteFirst q g ns = l₁ ++ { n with value := g n.value } :: l₂ := by
  induction ns with
  | nil => cases H
  | cons m ns ih =>
    cases hm : q m with
    | true =>
      rw [List.find?_cons_of_pos hm] at H
      cases H
      exact ⟨[], ns, rfl, fun g => if_pos hm⟩
    | false =>
      rw [List.find?_cons_of_neg (by simp [hm])] at H
      obtain ⟨l₁, l₂, rfl, hover⟩ := ih H
      refine ⟨m :: l₁, l₂, rfl, fun g => ?_⟩
      rw [overwriteFirst, if_neg (by simp [hm]), hover g]
      rfl

theorem map_node_overwriteFirst {β : Type*} {q : Node α → Bool} {g : α → α} {col : α → β}
    {ns : List (Node α)} (hcol : ∀ a, col (g a) = col a) :
    (overwriteFirst q g ns).map (fun n => (n.hash, col n.value)) =
      ns.map fun n => (n.hash, col n.value) := by
  induction ns with
  | nil => rfl
  | cons n ns ih =>
    rw [overwriteFirst]
    split
    · simp only [List.map_cons, hcol]
    · simp only [List.map_cons, ih]

/-- After the first match of `q` has been overwritten, a search that all matches of `q` satisfy, or
none, stops where it did. -/
theorem find?_overwriteFirst {q r : Node α → Bool} {g : α → α}
    (hr : ∀ n, r { n with value := g n.value } = r n)
    (hqr : (∀ n, q n → r n) ∨ ∀ n, q n → r n = false) (ns : List (Node α)) :
    (overwriteFirst q g ns).find? r =
      (ns.find? r).map fun n => if q n then { n with value := g n.value } else n := by
  induction ns with
  | nil => rfl
  | cons n ns ih =>
    rw [overwriteFirst]
    cases hq : q n with
    | true =>
      rw [if_pos rfl]
      rcases hqr with hqr | hqr
      · have hn := hqr n hq
        rw [List.find?_cons_of_pos ((hr n).trans hn), List.find?_cons_of_pos hn, Option.map_some,
          if_pos hq]
      · have hn := hqr n hq
        rw [List.find?_cons_of_neg (by simp [hr n, hn]), List.find?_cons_of_neg (by simp [hn])]
        -- what is found further on does not satisfy `q`
        cases hfind : ns.find? r with
        | none => rfl
        | some m =>
          have hm := List.find?_some hfind
          have hqm : q m = false := by
            apply Bool.eq_false_iff.2
            intro hqm
            rw [hqr m hqm] at hm
            cases hm
          rw [Option.map_some, hqm]
          rfl
    | false =>
      cases hn : r n with
      | true =>
        rw [if_neg Bool.false_ne_true, List.find?_cons_of_pos hn, List.find?_cons_of_pos hn,
          Option.map_some, hq]
        rfl
      | false =>
        rw [if_neg Bool.false_ne_true, List.find?_cons_of_neg (by simp [hn]),
          List.find?_cons_of_neg (by simp [hn]), ih]

theorem find?_bucket_eq_map : (h.bucket k).find? p =
    (h.nodes.find? fun n => h.inBucket k n && p n.value).map (·.value) := by
  rw [bucket, List.find?_map, List.find?_filter]
  simp only [Bool.decide_and, Bool.decide_eq_true, Function.comp_apply]

theorem find?_bucket_updateInBucket {g : α → α} {r : α → Bool} (hr : ∀ a, r (g a) = r a)
    (hpr : (∀ a, p a → r a) ∨ ∀ a, p a → r a = false) :
    ((h.updateInBucket k p g).bucket k).find? r =
      ((h.bucket k).find? r).map fun a => if p a then g a else a := by
  have hsame : ∀ n : Node α, (h.updateInBucket k p g).inBucket k n = h.inBucket k n := fun _ => rfl
  rw [find?_bucket_eq_map, find?_bucket_eq_map]
  simp only [hsame]
  rw [updateInBucket, find?_overwriteFirst, Option.map_map, Option.map_map]
  · cases hfind : h.nodes.find? fun n => h.inBucket k n && r n.value with
    | none => rfl
    | some n =>
      have hn := List.find?_some hfind
      rw [Bool.and_eq_true] at hn
      simp only [Option.map_some, Function.comp_apply, hn.1, Bool.true_and]
      split
      · rfl
      · rfl
  · intro n
    rw [hr]
    rfl
  · refine hpr.imp (fun hpr n hn => ?_) fun hpr n hn => ?_
    · rw [Bool.and_eq_true] at hn ⊢
      exact ⟨hn.1, hpr _ hn.2⟩
    · rw [Bool.and_eq_true] at hn
      rw [hpr _ hn.2, Bool.and_false]

theorem values_mapInBucket (H : WellHashed f h) {g : α → α} :
    (h.mapInBucket k g).values =
      h.values.map fun a => if f a &&& h.mask == k &&& h.mask then g a else a := by
  rw [values, values, mapInBucket, List.map_map, List.map_map]
  apply List.map_congr_left
  intro n hn
  simp only [Function.comp_apply, inBucket, H n hn]
  split
  · rfl
  · rfl

theorem map_node_mapInBucket {β : Type*} {g : α → α} {col : α → β} (hcol : ∀ a, col (g a) = col a) :
    (h.mapInBucket k g).nodes.map (fun n => (n.hash, col n.value)) =
      h.nodes.map fun n => (n.hash, col n.value) := by
  rw [mapInBucket, List.map_map]
  apply List.map_congr_left
  intro n _
  simp only [Function.comp_apply]
  split
  · simp only [hcol]
  · rfl

theorem bucket_mapInBucket {g : α → α} : (h.mapInBucket k g).bucket k = (h.bucket k).map g := by
  have hsame : ∀ n : Node α, (h.mapInBucket k g).inBucket k
      (if h.inBucket k n then { n with value := g n.value } else n) = h.inBucket k n := by
    intro n
    split
    · rfl
    · rfl
  rw [bucket, bucket]
  simp only [mapInBucket] at hsame ⊢
  rw [List.filter_map, List.map_map, List.map_map, List.filter_congr (q := h.inBucket k)]
  swap
  · exact fun n _ => hsame n
  apply List.map_congr_left
  intro n hn
  simp only [Function.comp_apply, (List.mem_filter.1 hn).2, if_true]

end Hmap
