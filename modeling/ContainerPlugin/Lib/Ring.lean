import Mathlib.Data.List.Induction
import Mathlib.Data.List.Nodup
import Mathlib.Logic.Function.Basic
import ContainerPlugin.Lib.Outcome

/-!
# Intrusive doubly linked rings

The circular lists of `struct ovs_list`: a list is a head node, an element is a node embedded in
another structure, and both carry a `next` and a `prev` pointer. `Links` is the memory that holds
these pointers and the operations write it in the order the C functions do, so nothing prevents
one node from being threaded through two lists. `Links.Ring` says that a head and a duplicate-free
list of elements form a list of their own; the operations keep it under the obvious conditions, and
do not disturb a ring they are disjoint from.
-/

universe u

structure Links (ν : Type u) where
  next : ν → ν
  prev : ν → ν

namespace Links

variable {ν : Type u} [DecidableEq ν]

def setNext (l : Links ν) (n m : ν) : Links ν :=
  { l with next := Function.update l.next n m }

def setPrev (l : Links ν) (n m : ν) : Links ν :=
  { l with prev := Function.update l.prev n m }

/-- `list_init` -/
def init (l : Links ν) (list : ν) : Links ν := (l.setPrev list list).setNext list list

/-- `list_insert` -/
def insert (l : Links ν) (before elem : ν) : Links ν :=
  let l := l.setPrev elem (l.prev before)
  let l := l.setNext elem before
  let l := l.setNext (l.prev before) elem
  l.setPrev before elem

/-- `list_push_back` -/
def pushBack (l : Links ν) (list elem : ν) : Links ν := l.insert list elem

/-- `list_remove` -/
def remove (l : Links ν) (elem : ν) : Links ν :=
  let l := l.setNext (l.prev elem) (l.next elem)
  l.setPrev (l.next elem) (l.prev elem)

/-- A `LIST_FOR_EACH` from `n` on: the nodes met before the head. A walk that has not come back to
the head when the fuel is used up gives no list. -/
def walk (l : Links ν) (list : ν) : ℕ → ν → Option (List ν)
  | 0, _ => none
  | fuel + 1, n => if n = list then some [] else (l.walk list fuel (l.next n)).map (n :: ·)

/-- The node `n` is met by a walk from `list`. -/
inductive Linked (l : Links ν) (list : ν) : ν → Prop where
  | first : l.next list ≠ list → Linked l list (l.next list)
  | step {n : ν} : Linked l list n → l.next n ≠ list → Linked l list (l.next n)

/-! ## Paths -/

/-- From `a` the pointers `f` lead through `xs` to `b`. -/
def Path (f : ν → ν) : ν → List ν → ν → Prop
  | a, [], b => f a = b
  | a, x :: xs, b => f a = x ∧ Path f x xs b

section Path

variable {f g : ν → ν} {a b c : ν} {xs ys : List ν}

omit [DecidableEq ν] in
@[simp] theorem path_nil : Path f a [] b ↔ f a = b := .rfl

omit [DecidableEq ν] in
@[simp] theorem path_cons : Path f a (c :: xs) b ↔ f a = c ∧ Path f c xs b := .rfl

omit [DecidableEq ν] in
theorem path_append_cons : Path f a (xs ++ c :: ys) b ↔ Path f a xs c ∧ Path f c ys b := by
  induction xs generalizing a with
  | nil => simp
  | cons x xs ih => simp [ih, and_assoc]

omit [DecidableEq ν] in
theorem Path.congr (h : Path f a xs b) (hfg : ∀ n ∈ a :: xs, g n = f n) : Path g a xs b := by
  induction xs generalizing a with
  | nil => exact (hfg a (by simp)).trans h
  | cons x xs ih =>
    obtain ⟨hx, hxs⟩ := h
    exact ⟨(hfg a (by simp)).trans hx, ih hxs fun n hn => hfg n (.tail _ hn)⟩

/-- The pointer to redirect is the one of the last node before `b`. -/
theorem Path.redirect (h : Path f a xs b) (hnd : (a :: xs).Nodup) :
    Path (Function.update f ((a :: xs).getLast (by simp)) c) a xs c := by
  induction xs generalizing a with
  | nil => simp
  | cons x xs ih =>
    obtain ⟨hx, hxs⟩ := h
    have hnd' := List.nodup_cons.mp hnd
    have hlast : a ≠ (x :: xs).getLast (by simp) := by
      intro hal
      exact hnd'.1 (hal ▸ List.getLast_mem _)
    refine ⟨?_, by simpa using ih hxs hnd'.2⟩
    rw [List.getLast_cons (by simp), Function.update_of_ne hlast, hx]

end Path

/-! ## Rings -/

/-- The head and the elements `xs`, in this order, form a list. -/
structure Ring (l : Links ν) (list : ν) (xs : List ν) : Prop where
  nodup : (list :: xs).Nodup
  next : Path l.next list xs list
  prev : Path l.prev list xs.reverse list

namespace Ring

variable {l l' : Links ν} {list e n : ν} {xs as bs : List ν}

omit [DecidableEq ν] in
theorem frame (h : Ring l list xs) (hnext : ∀ n ∈ list :: xs, l'.next n = l.next n)
    (hprev : ∀ n ∈ list :: xs, l'.prev n = l.prev n) : Ring l' list xs where
  nodup := h.nodup
  next := h.next.congr hnext
  prev := h.prev.congr fun n hn => hprev n (by simpa using hn)

omit [DecidableEq ν] in
/-- The nodes before and after an element. -/
theorem neighbours (h : Ring l list (as ++ e :: bs)) :
    l.prev e = (list :: as).getLast (by simp) ∧ l.next e = bs.headD list := by
  have hnext := (path_append_cons.mp h.next).2
  have hprev : Path l.prev list (bs.reverse ++ e :: as.reverse) list := by simpa using h.prev
  have hprev := (path_append_cons.mp hprev).2
  constructor
  · obtain rfl | ⟨as', z, rfl⟩ := List.eq_nil_or_concat' as
    · simpa using hprev
    · rw [List.reverse_append] at hprev
      simpa using hprev.1
  · cases bs with
    | nil => exact hnext
    | cons b bs => exact hnext.1

omit [DecidableEq ν] in
theorem prev_head (h : Ring l list xs) : l.prev list = (list :: xs).getLast (by simp) := by
  obtain rfl | ⟨ys, z, rfl⟩ := List.eq_nil_or_concat' xs
  · exact h.prev
  · have hprev := h.prev
    rw [List.reverse_append] at hprev
    simpa using hprev.1

theorem init (l : Links ν) (list : ν) : Ring (l.init list) list [] where
  nodup := by simp
  next := by simp [Links.init, setNext, setPrev]
  prev := by simp [Links.init, setNext, setPrev]

theorem frame_init (h : Ring l list xs) (hn : n ∉ list :: xs) : Ring (l.init n) list xs := by
  refine h.frame (fun m hm => ?_) fun m hm => ?_
  · simp [Links.init, setNext, setPrev, ne_of_mem_of_not_mem hm hn]
  · simp [Links.init, setNext, setPrev, ne_of_mem_of_not_mem hm hn]

/-! ### `pushBack` -/

theorem next_pushBack (l : Links ν) (hne : e ≠ list) : (l.pushBack list e).next =
    Function.update (Function.update l.next e list) (l.prev list) e := by
  simp [pushBack, Links.insert, setNext, setPrev, Function.update_of_ne hne.symm]

theorem prev_pushBack (l : Links ν) : (l.pushBack list e).prev =
    Function.update (Function.update l.prev e (l.prev list)) list e := by
  simp [pushBack, Links.insert, setNext, setPrev]

theorem pushBack (h : Ring l list xs) (he : e ∉ list :: xs) :
    Ring (l.pushBack list e) list (xs ++ [e]) := by
  have hne : e ≠ list := fun h => he (by simp [h])
  have hlast : l.prev list ∈ list :: xs := h.prev_head ▸ List.getLast_mem _
  constructor
  · rw [← List.cons_append, List.nodup_append]
    refine ⟨h.nodup, by simp, fun a ha b hb hab => he ?_⟩
    rw [List.mem_singleton] at hb
    exact hb ▸ hab ▸ ha
  · rw [next_pushBack l hne, path_append_cons, h.prev_head]
    have hnext : Path (Function.update l.next e list) list xs list :=
      h.next.congr fun n hn => Function.update_of_ne (ne_of_mem_of_not_mem hn he) _ _
    refine ⟨hnext.redirect h.nodup, ?_⟩
    rw [path_nil, Function.update_of_ne, Function.update_self]
    exact fun heq => he (heq ▸ List.getLast_mem _)
  · rw [prev_pushBack, List.reverse_append]
    refine ⟨by simp, ?_⟩
    have hrest : ∀ n ∈ xs, Function.update (Function.update l.prev e (l.prev list)) list e n =
        l.prev n := fun n hn => by
      have hnl : n ≠ list := fun h' => (List.nodup_cons.mp h.nodup).1 (h' ▸ hn)
      have hne' : n ≠ e := fun h' => he (h' ▸ List.mem_cons_of_mem _ hn)
      rw [Function.update_of_ne hnl, Function.update_of_ne hne']
    cases hxs : xs.reverse with
    | nil =>
      obtain rfl := List.reverse_eq_nil_iff.mp hxs
      have := h.prev
      simp_all
    | cons z ys =>
      have hprev := h.prev
      rw [hxs] at hprev
      refine ⟨by simp [Function.update_of_ne hne, hprev.1], hprev.2.congr fun n hn => hrest n ?_⟩
      rw [← List.mem_reverse, hxs]
      exact hn

theorem frame_pushBack {list' : ν} {ys : List ν} (h : Ring l list xs) (h' : Ring l list' ys)
    (hdisj : List.Disjoint (list :: xs) (list' :: ys)) (he : e ∉ list' :: ys) (hne : e ≠ list) :
    Ring (l.pushBack list e) list' ys := by
  have hlast : l.prev list ∈ list :: xs := h.prev_head ▸ List.getLast_mem _
  refine h'.frame (fun n hn => ?_) fun n hn => ?_
  · rw [next_pushBack l hne, Function.update_of_ne (ne_of_mem_of_not_mem hn (hdisj hlast)),
      Function.update_of_ne (ne_of_mem_of_not_mem hn he)]
  · rw [prev_pushBack, Function.update_of_ne (ne_of_mem_of_not_mem hn (hdisj (by simp))),
      Function.update_of_ne (ne_of_mem_of_not_mem hn he)]

/-! ### `remove` -/

theorem next_remove (l : Links ν) :
    (l.remove e).next = Function.update l.next (l.prev e) (l.next e) := rfl

omit [DecidableEq ν] in
private theorem prev_ne (h : Ring l list (as ++ e :: bs)) : l.prev e ≠ e := by
  have hnd := h.nodup
  rw [h.neighbours.1]
  intro heq
  have hmem : e ∈ list :: as := by
    have := List.getLast_mem (List.cons_ne_nil list as)
    rwa [heq] at this
  rw [← List.cons_append, List.nodup_append] at hnd
  exact hnd.2.2 e hmem e (by simp) rfl

theorem prev_remove (h : Ring l list (as ++ e :: bs)) :
    (l.remove e).prev = Function.update l.prev (l.next e) (l.prev e) := by
  simp [Links.remove, setNext, setPrev, Function.update_of_ne h.prev_ne.symm]

theorem remove (h : Ring l list (as ++ e :: bs)) : Ring (l.remove e) list (as ++ bs) := by
  have hnd : (list :: (as ++ bs)).Nodup :=
    h.nodup.sublist (by simp)
  obtain ⟨hpe, hne⟩ := h.neighbours
  obtain ⟨hn₁, hn₂⟩ := path_append_cons.mp h.next
  have hprev : Path l.prev list (bs.reverse ++ e :: as.reverse) list := by simpa using h.prev
  obtain ⟨hp₁, hp₂⟩ := path_append_cons.mp hprev
  have hnd' : (list :: as).Nodup := hnd.sublist (by simp)
  have hndb : (list :: bs).Nodup := hnd.sublist (by simp)
  refine ⟨hnd, ?_, ?_⟩
  · rw [next_remove, hpe, hne]
    cases bs with
    | nil => simpa using hn₁.redirect hnd'
    | cons b bs =>
      rw [path_append_cons]
      refine ⟨hn₁.redirect hnd', hn₂.2.congr fun n hn => Function.update_of_ne ?_ _ _⟩
      rintro rfl
      rw [← List.cons_append, List.nodup_append] at hnd
      exact hnd.2.2 _ (List.getLast_mem (List.cons_ne_nil list as)) _ hn rfl
  · rw [h.prev_remove, hpe, hne, List.reverse_append]
    have hfirst : bs.headD list = (list :: bs.reverse).getLast (by simp) := by
      cases bs with
      | nil => rfl
      | cons b bs => simp
    have hndr : (list :: bs.reverse).Nodup := by simpa using hndb
    rw [hfirst]
    obtain rfl | ⟨as', z, rfl⟩ := List.eq_nil_or_concat' as
    · simpa using hp₁.redirect hndr
    · rw [List.reverse_append] at hp₂ ⊢
      simp only [List.reverse_cons, List.reverse_nil, List.nil_append, List.singleton_append]
        at hp₂ ⊢
      rw [path_append_cons]
      have hlast : (list :: (as' ++ [z])).getLast (by simp) = z := by simp
      rw [hlast]
      refine ⟨hp₁.redirect hndr, hp₂.2.congr fun n hn => Function.update_of_ne ?_ _ _⟩
      rintro rfl
      have hmem := List.getLast_mem (List.cons_ne_nil list bs.reverse)
      have hmem' : (list :: bs.reverse).getLast (by simp) ∈ as' ++ [z] := by
        simp only [List.mem_append, List.mem_singleton]
        rcases List.mem_cons.mp hn with hn | hn
        · exact .inr hn
        · exact .inl (by simpa using hn)
      rcases List.mem_cons.mp hmem with hl | hb
      · rw [hl] at hmem'
        exact (List.nodup_cons.mp hnd).1 (List.mem_append_left _ hmem')
      · have hnd'' := (List.nodup_append.mp (List.nodup_cons.mp hnd).2).2.2
        exact hnd'' _ hmem' _ (List.mem_reverse.mp hb) rfl

theorem frame_remove {list' : ν} {ys : List ν} (h : Ring l list (as ++ e :: bs))
    (h' : Ring l list' ys) (hdisj : List.Disjoint (list :: (as ++ e :: bs)) (list' :: ys)) :
    Ring (l.remove e) list' ys := by
  obtain ⟨hpe, hne⟩ := h.neighbours
  have hp : l.prev e ∈ list :: (as ++ e :: bs) := by
    rw [hpe]
    have hsub : (list :: as).Sublist (list :: (as ++ e :: bs)) := by simp
    exact hsub.subset (List.getLast_mem (List.cons_ne_nil list as))
  have hn : l.next e ∈ list :: (as ++ e :: bs) := by
    rw [hne]
    cases bs with
    | nil => simp
    | cons b bs => simp
  refine h'.frame (fun n hm => ?_) fun n hm => ?_
  · rw [next_remove, Function.update_of_ne (ne_of_mem_of_not_mem hm (hdisj hp))]
  · rw [h.prev_remove, Function.update_of_ne (ne_of_mem_of_not_mem hm (hdisj hn))]

/-! ### Walks -/

omit [DecidableEq ν] in
/-- Past the last element comes the head. -/
theorem next_mem (h : Ring l list xs) (hn : n ∈ list :: xs) : l.next n ∈ list :: xs := by
  rcases List.mem_cons.mp hn with rfl | hn
  · cases xs with
    | nil => simp [show l.next n = n from h.next]
    | cons x xs => simp [h.next.1]
  · obtain ⟨as, bs, rfl⟩ := List.append_of_mem hn
    rw [h.neighbours.2]
    cases bs with
    | nil => simp
    | cons b bs => simp

omit [DecidableEq ν] in
theorem next_head (h : Ring l list xs) : l.next list = xs.headD list := by
  cases xs with
  | nil => exact h.next
  | cons x xs => exact h.next.1

omit [DecidableEq ν] in
/-- In a ring the nodes that a walk meets are the elements. -/
theorem linked_iff (h : Ring l list xs) : Linked l list n ↔ n ∈ xs := by
  constructor
  · intro hlinked
    induction hlinked with
    | first hne => exact (List.mem_cons.mp (h.next_mem (by simp))).resolve_left hne
    | step _ hne ih => exact (List.mem_cons.mp (h.next_mem (.tail _ ih))).resolve_left hne
  · intro hn
    obtain ⟨as, bs, rfl⟩ := List.append_of_mem hn
    -- the walk reaches the elements in order: the ring is read from the left
    induction as using List.reverseRecOn generalizing n bs with
    | nil =>
      have hfirst : l.next list = n := h.next.1
      have hne : n ≠ list := fun h' => (List.nodup_cons.mp h.nodup).1 (by simp [h'])
      exact hfirst ▸ .first (hfirst.symm ▸ hne)
    | append_singleton as a ih =>
      have hassoc : as ++ [a] ++ n :: bs = as ++ a :: (n :: bs) := by simp
      rw [hassoc] at h
      have hnext : l.next a = n := h.neighbours.2
      have hne : n ≠ list := fun h' => (List.nodup_cons.mp h.nodup).1 (by simp [h'])
      exact hnext ▸ .step (ih _ h (by simp)) (hnext.symm ▸ hne)

private theorem walk_suffix (h : Ring l list (as ++ bs)) {fuel : ℕ} (hfuel : bs.length < fuel) :
    l.walk list fuel (bs.headD list) = some bs := by
  induction bs generalizing as fuel with
  | nil =>
    obtain ⟨fuel, rfl⟩ : ∃ k, fuel = k + 1 := ⟨fuel - 1, by simp at hfuel; omega⟩
    simp [walk]
  | cons b bs ih =>
    obtain ⟨fuel, rfl⟩ : ∃ k, fuel = k + 1 := ⟨fuel - 1, by simp at hfuel; omega⟩
    have hb : b ≠ list := fun h' => (List.nodup_cons.mp h.nodup).1 (by simp [h'])
    have hr : Ring l list ((as ++ [b]) ++ bs) := by simpa using h
    have hrest : l.walk list fuel (bs.headD list) = some bs := ih hr (by simpa using hfuel)
    rw [List.headD_cons, walk, if_neg hb, h.neighbours.2, hrest, Option.map_some]

theorem walk_eq (h : Ring l list xs) {fuel : ℕ} (hfuel : xs.length < fuel) :
    l.walk list fuel (l.next list) = some xs := by
  rw [h.next_head]
  exact (show Ring l list ([] ++ xs) from h).walk_suffix hfuel

end Ring

/-! ## `LIST_FOR_EACH_SAFE` -/

section ForEachSafe

variable {σ : Type u} {ε : Type u} (links : σ → Links ν) (stuck : ε) (list : ν)
  (body : σ → ν → Except ε σ)

/-- The next node is read before the body runs, which may unlink the current one. -/
def forEachSafe : ℕ → σ → ν → Except ε σ
  | 0, _, _ => .error stuck
  | fuel + 1, s, n =>
    if n = list then .ok s
    else do
      let next := (links s).next n
      let s ← body s n
      forEachSafe fuel s next

variable {links stuck list body}

/-- The loop rule: `I` speaks of the elements that are still to be visited, which end the ring. -/
theorem forEachSafe_ensures {E : ε → Prop} {I : List ν → σ → Prop}
    (hring : ∀ rest s, I rest s → ∃ kept, Ring (links s) list (kept ++ rest))
    (hbody : ∀ n rest s, I (n :: rest) s → (body s n).Ensures E (I rest))
    {fuel : ℕ} {rest : List ν} {s : σ} (hfuel : rest.length < fuel) (h : I rest s) :
    (forEachSafe links stuck list body fuel s (rest.headD list)).Ensures E (I []) := by
  induction rest generalizing fuel s with
  | nil =>
    obtain ⟨fuel, rfl⟩ : ∃ k, fuel = k + 1 := ⟨fuel - 1, by simp at hfuel; omega⟩
    simpa [forEachSafe] using h
  | cons n rest ih =>
    obtain ⟨fuel, rfl⟩ : ∃ k, fuel = k + 1 := ⟨fuel - 1, by simp at hfuel; omega⟩
    obtain ⟨kept, hr⟩ := hring _ _ h
    have hn : n ≠ list := fun h' => (List.nodup_cons.mp hr.nodup).1 (by simp [h'])
    rw [List.headD_cons, forEachSafe, if_neg hn, hr.neighbours.2]
    exact (hbody n rest s h).bind fun s' hs' => ih (by simpa using hfuel) hs'

/-- What the body keeps the loop keeps, whatever the list looks like. -/
theorem forEachSafe_invariant {E : ε → Prop} {I : σ → Prop} (hstuck : E stuck)
    (hbody : ∀ s n, I s → (body s n).Ensures E I) {fuel : ℕ} {s : σ} {n : ν} (h : I s) :
    (forEachSafe links stuck list body fuel s n).Ensures E I := by
  induction fuel generalizing s n with
  | zero => exact hstuck
  | succ fuel ih =>
    rw [forEachSafe]
    split
    · exact h
    · exact (hbody s n h).bind fun s' hs' => ih hs'

end ForEachSafe

end Links
