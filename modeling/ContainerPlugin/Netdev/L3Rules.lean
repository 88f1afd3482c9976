import Mathlib.Data.List.Basic
import ContainerPlugin.Netdev.L3Stats

/-!
# Creating and deleting the L3 statistics rules

Every rule is looked for before it is added or deleted, but the two rules of `FORWARD` for a type of
packets are looked for together and then added or deleted one by one.
-/

namespace ContainerPlugin.Netdev

open Runs

/-- A rule of the chain that counts packets of the interface. -/
def Chain.Counts (chain : Chain) (ifName : String) : Rule → Prop
  | .pkttype filter name _ => filter ∈ chain.filters ∧ name = ifName
  | .other _ => False

instance (chain : Chain) (ifName : String) : DecidablePred (chain.Counts ifName)
  | .pkttype filter name _ => inferInstanceAs (Decidable (filter ∈ chain.filters ∧ name = ifName))
  | .other _ => inferInstanceAs (Decidable False)

/-- Each of the rules of the interface occurs `n` times, and the other rules are as before. -/
structure Converged (n : ℕ) (ifName : String) (before after : XtablesWorld) : Prop where
  own x chain filter type : filter ∈ chain.filters →
    (after.rules x chain).count (.pkttype filter ifName type) = n
  others x chain : (after.rules x chain).filter (¬ chain.Counts ifName ·) =
    (before.rules x chain).filter (¬ chain.Counts ifName ·)

/-- In `FORWARD`, a rule for incoming packets is there if and only if the one for outgoing packets
is. -/
def ForwardPaired (ifName : String) (w : XtablesWorld) : Prop :=
  ∀ x type, .pkttype .i ifName type ∈ w.rules x .forward ↔
    .pkttype .o ifName type ∈ w.rules x .forward

/-! ## Commands -/

section Commands

variable {fails : List XtablesCmd → XtablesCmd → Bool} {w : XtablesWorld} {ifName : String}

theorem rules_system (c : XtablesCmd) (x' : Xtables) (chain' : Chain) :
    (w.system fails c).1.rules x' chain' =
      if fails w.log c = false ∧ c.xtables = x' ∧ c.chain = chain' then
        (c.op.exec c.rule (w.rules x' chain')).getD (w.rules x' chain') else w.rules x' chain' := by
  cases hfails : fails w.log c with
  | true => simp [XtablesWorld.system, hfails]
  | false =>
    simp only [XtablesWorld.system, hfails, Bool.false_eq_true, if_false, true_and]
    split
    case h_1 hnone =>
      split
      case isTrue heq =>
        obtain ⟨rfl, rfl⟩ := heq
        rw [hnone, Option.getD_none]
      case isFalse => rfl
    case h_2 rules hsome =>
      simp only [eq_comm (a := x'), eq_comm (a := chain')]
      split
      case isTrue heq =>
        obtain ⟨rfl, rfl⟩ := heq
        rw [hsome, Option.getD_some]
      case isFalse => rfl

theorem system_ok (hfails : ∀ log c, fails log c = false) (c : XtablesCmd) :
    (w.system fails c).2 = (c.op.exec c.rule (w.rules c.xtables c.chain)).isSome := by
  rw [XtablesWorld.system, if_neg (by simp [hfails])]
  split
  case h_1 hnone => rw [hnone, Option.isSome_none]
  case h_2 hsome => rw [hsome, Option.isSome_some]

/-- A check leaves the rules alone. -/
theorem rules_system_check (x : Xtables) (chain : Chain) (rule : Rule) :
    (w.system fails ⟨x, .check, chain, rule⟩).1.rules = w.rules := by
  funext x' chain'
  rw [rules_system]
  simp only [RuleOp.exec]
  split
  · split
    · rfl
    · rfl
  · rfl

/-- The rules are installed if all of them are there. -/
theorem xtablesRuleInstalled_eq (hfails : ∀ log c, fails log c = false) (w : XtablesWorld)
    (ifName : String) (x : Xtables) (chain : Chain) (type : PktType) (filters : List IfFilter) :
    (xtablesRuleInstalled fails ifName x chain type filters w).1.rules = w.rules ∧
      ((xtablesRuleInstalled fails ifName x chain type filters w).2 = true ↔
        ∀ filter ∈ filters, .pkttype filter ifName type ∈ w.rules x chain) := by
  induction filters generalizing w with
  | nil => exact ⟨rfl, iff_of_true rfl fun _ h => absurd h List.not_mem_nil⟩
  | cons filter filters ih =>
    let c : XtablesCmd := ⟨x, .check, chain, .pkttype filter ifName type⟩
    have hrules : (w.system fails c).1.rules = w.rules := rules_system_check ..
    have hok : (w.system fails c).2 = true ↔ .pkttype filter ifName type ∈ w.rules x chain := by
      rw [system_ok hfails]
      simp only [c, RuleOp.exec]
      split
      · exact iff_of_true rfl ‹_›
      · exact iff_of_false nofun ‹_›
    rw [List.forall_mem_cons, ← hok]
    simp only [xtablesRuleInstalled]
    split
    case isTrue hfound =>
      obtain ⟨ihrules, ihfound⟩ := ih (w.system fails c).1
      rw [ihrules, hrules, ihfound, hrules]
      exact ⟨rfl, (and_iff_right hfound).symm⟩
    case isFalse hfound =>
      exact ⟨hrules, iff_of_false nofun fun h => hfound h.1⟩

/-- The rules of a chain after the commands that add or delete those of an interface. -/
def edited (op : RuleOp) (ifName : String) (type : PktType) (filters : List IfFilter)
    (rules : List Rule) : List Rule :=
  filters.foldl (fun rules filter => (op.exec (.pkttype filter ifName type) rules).getD rules) rules

theorem edited_cons (op : RuleOp) (ifName : String) (type : PktType) (f : IfFilter)
    (filters : List IfFilter) (rules : List Rule) :
    edited op ifName type (f :: filters) rules = edited op ifName type filters
      ((op.exec (.pkttype f ifName type) rules).getD rules) := rfl

theorem rules_editRules (hfails : ∀ log c, fails log c = false) (op : RuleOp) (x : Xtables)
    (chain : Chain) (type : PktType) (x' : Xtables) (chain' : Chain) :
    (editRules fails op ifName x chain type w).rules x' chain' = if x = x' ∧ chain = chain' then
      edited op ifName type chain.filters (w.rules x' chain') else w.rules x' chain' := by
  have hfold : ∀ filters : List IfFilter,
      (filters.foldl (fun w filter =>
        (w.system fails ⟨x, op, chain, .pkttype filter ifName type⟩).1) w).rules x' chain' =
      if x = x' ∧ chain = chain' then edited op ifName type filters (w.rules x' chain')
      else w.rules x' chain' := by
    intro filters
    induction filters generalizing w with
    | nil => exact (ite_self _).symm
    | cons filter filters ih =>
      rw [List.foldl_cons, ih, rules_system, hfails]
      simp only [true_and]
      split
      · rfl
      · rfl
  exact hfold chain.filters

end Commands

/-! ## The rules of a slot -/

/-- How often each of the rules that the interface has in a chain for a type of packets is there. -/
def slotCount (ifName : String) (slot : Xtables × Chain × PktType) (w : XtablesWorld)
    (filter : IfFilter) : ℕ :=
  (w.rules slot.1 slot.2.1).count (.pkttype filter ifName slot.2.2)

/-- All of them are there. -/
def SlotFull (chain : Chain) (count : IfFilter → ℕ) : Prop :=
  ∀ filter ∈ chain.filters, 0 < count filter

instance (chain : Chain) (count : IfFilter → ℕ) : Decidable (SlotFull chain count) :=
  inferInstanceAs (Decidable (∀ _ ∈ _, _))

/-- What a command that can be carried out does to the number of its rules. -/
def RuleOp.change : RuleOp → ℕ → ℕ
  | .check, n => n
  | .append, n => n + 1
  | .delete, n => n - 1

def slotEdited (op : RuleOp) (chain : Chain) (count : IfFilter → ℕ) : IfFilter → ℕ :=
  fun filter => if filter ∈ chain.filters then op.change (count filter) else count filter

def slotAdded (chain : Chain) (count : IfFilter → ℕ) : IfFilter → ℕ :=
  if SlotFull chain count then count else slotEdited .append chain count

def slotDeleted (chain : Chain) (count : IfFilter → ℕ) : IfFilter → ℕ :=
  if SlotFull chain count then slotEdited .delete chain count else count

theorem Chain.nodup_filters (chain : Chain) : chain.filters.Nodup := by cases chain <;> decide

section Slot

variable {fails : List XtablesCmd → XtablesCmd → Bool} {w w' : XtablesWorld} {ifName : String}
  {x : Xtables} {chain : Chain} {type type' : PktType} {filter : IfFilter} {rules : List Rule}

theorem count_exec (op : RuleOp) (f : IfFilter) :
    ((op.exec (.pkttype f ifName type) rules).getD rules).count (.pkttype filter ifName type') =
      if type = type' ∧ filter = f then op.change (rules.count (.pkttype filter ifName type'))
      else rules.count (.pkttype filter ifName type') := by
  have hrule : (Rule.pkttype f ifName type = .pkttype filter ifName type') ↔
      type = type' ∧ filter = f := by
    rw [Rule.pkttype.injEq]
    exact ⟨fun h => ⟨h.2.2, h.1.symm⟩, fun h => ⟨h.2.symm, rfl, h.1⟩⟩
  cases op with
  | check =>
    rw [RuleOp.exec]
    split
    · exact (ite_self _).symm
    · exact (ite_self _).symm
  | append =>
    simp only [RuleOp.exec, Option.getD_some, List.count_append, List.count_singleton, beq_iff_eq,
      hrule]
    split
    · rfl
    · rfl
  | delete =>
    have herase : (RuleOp.exec .delete (.pkttype f ifName type) rules).getD rules =
        rules.erase (.pkttype f ifName type) := by
      rw [RuleOp.exec]
      split
      · rfl
      · exact (List.erase_of_not_mem ‹_›).symm
    rw [herase, List.count_erase]
    simp only [beq_iff_eq, hrule]
    split
    · rfl
    · rfl

theorem count_edited (op : RuleOp) {filters : List IfFilter} (hnodup : filters.Nodup) :
    (edited op ifName type filters rules).count (.pkttype filter ifName type') =
      if type = type' ∧ filter ∈ filters then
        op.change (rules.count (.pkttype filter ifName type'))
      else rules.count (.pkttype filter ifName type') := by
  induction filters generalizing rules with
  | nil => simp [edited]
  | cons f filters ih =>
    obtain ⟨hf, hnodup⟩ := List.nodup_cons.mp hnodup
    rw [edited_cons, ih hnodup, count_exec]
    by_cases htype : type = type'
    · by_cases heq : filter = f
      · simp [htype, heq, hf]
      · simp [htype, heq]
    · simp [htype]

/-- The commands have been run for the rules of the slot if `P` holds, and nothing else has. -/
def Edits (op : RuleOp) (ifName : String) (r : Xtables × Chain × PktType) (P : Prop) [Decidable P]
    (w w' : XtablesWorld) : Prop :=
  ∀ x chain, w'.rules x chain = if (r.1 = x ∧ r.2.1 = chain) ∧ P then
    edited op ifName r.2.2 r.2.1.filters (w.rules x chain) else w.rules x chain

theorem slotFull_iff (r : Xtables × Chain × PktType) :
    SlotFull r.2.1 (slotCount ifName r w) ↔
      ∀ filter ∈ r.2.1.filters, .pkttype filter ifName r.2.2 ∈ w.rules r.1 r.2.1 := by
  simp only [SlotFull, slotCount, List.count_pos_iff]

/-- The check leaves the rules alone and finds a slot that is full. -/
theorem xtablesRuleInstalled_slot (hfails : ∀ log c, fails log c = false) (w : XtablesWorld)
    (ifName : String) (r : Xtables × Chain × PktType) :
    (xtablesRuleInstalled fails ifName r.1 r.2.1 r.2.2 r.2.1.filters w).1.rules = w.rules ∧
      ((xtablesRuleInstalled fails ifName r.1 r.2.1 r.2.2 r.2.1.filters w).2 = true ↔
        SlotFull r.2.1 (slotCount ifName r w)) := by
  rw [slotFull_iff]
  exact xtablesRuleInstalled_eq hfails w ifName r.1 r.2.1 r.2.2 r.2.1.filters

theorem edits_addRule (hfails : ∀ log c, fails log c = false) (r : Xtables × Chain × PktType) :
    Edits .append ifName r (¬ SlotFull r.2.1 (slotCount ifName r w)) w
      (l3statsAddRule fails ifName w r) := by
  intro x chain
  obtain ⟨hrules, hfound⟩ := xtablesRuleInstalled_slot hfails w ifName r
  simp only [l3statsAddRule]
  split
  case isTrue hinstalled => rw [hrules, if_neg fun h => h.2 (hfound.mp hinstalled)]
  case isFalse hmissing =>
    have hmissing : ¬ SlotFull r.2.1 (slotCount ifName r w) := fun h => hmissing (hfound.mpr h)
    rw [rules_editRules hfails, hrules]
    simp only [hmissing, not_false_iff, and_true]

theorem edits_deleteRule (hfails : ∀ log c, fails log c = false) (r : Xtables × Chain × PktType) :
    Edits .delete ifName r (SlotFull r.2.1 (slotCount ifName r w)) w
      (l3statsDeleteRule fails ifName w r) := by
  intro x chain
  obtain ⟨hrules, hfound⟩ := xtablesRuleInstalled_slot hfails w ifName r
  simp only [l3statsDeleteRule]
  split
  case isTrue hinstalled =>
    rw [rules_editRules hfails, hrules]
    simp only [hfound.mp hinstalled, and_true]
  case isFalse hmissing => rw [hrules, if_neg fun h => hmissing (hfound.mpr h.2)]

/-- A call changes the numbers of its own slot. -/
theorem Edits.slotCount {op : RuleOp} {r : Xtables × Chain × PktType} {P : Prop} [Decidable P]
    (h : Edits op ifName r P w w') (slot : Xtables × Chain × PktType) :
    Netdev.slotCount ifName slot w' = if r = slot ∧ P then
      slotEdited op slot.2.1 (Netdev.slotCount ifName slot w)
    else Netdev.slotCount ifName slot w := by
  obtain ⟨x, chain, type⟩ := slot
  obtain ⟨x', chain', type'⟩ := r
  funext filter
  simp only [Netdev.slotCount, h x chain, Prod.mk.injEq]
  by_cases hP : (x' = x ∧ chain' = chain) ∧ P
  · obtain ⟨⟨rfl, rfl⟩, hP⟩ := hP
    simp only [and_self, hP, if_true, true_and, and_true, count_edited op chain'.nodup_filters]
    by_cases htype : type' = type
    · simp only [htype, true_and, if_true, slotEdited, Netdev.slotCount]
    · simp only [htype, false_and, if_false, Netdev.slotCount]
  · have hother : ¬ ((x' = x ∧ chain' = chain ∧ type' = type) ∧ P) :=
      fun h => hP ⟨⟨h.1.1, h.1.2.1⟩, h.2⟩
    rw [if_neg hP, if_neg hother, Netdev.slotCount]

theorem slotCount_add (hfails : ∀ log c, fails log c = false) (slot : Xtables × Chain × PktType)
    (w : XtablesWorld) (r : Xtables × Chain × PktType) :
    slotCount ifName slot (l3statsAddRule fails ifName w r) =
      if r = slot then slotAdded slot.2.1 (slotCount ifName slot w) else slotCount ifName slot w := by
  rw [(edits_addRule hfails r).slotCount slot]
  by_cases hr : r = slot
  · subst hr
    by_cases hfull : SlotFull r.2.1 (slotCount ifName r w)
    · simp only [slotAdded, hfull, not_true, and_false, if_false, if_true]
    · simp only [slotAdded, hfull, not_false_iff, and_self, if_false, if_true]
  · rw [if_neg hr, if_neg fun h => hr h.1]

theorem slotCount_delete (hfails : ∀ log c, fails log c = false)
    (slot : Xtables × Chain × PktType) (w : XtablesWorld) (r : Xtables × Chain × PktType) :
    slotCount ifName slot (l3statsDeleteRule fails ifName w r) =
      if r = slot then slotDeleted slot.2.1 (slotCount ifName slot w)
      else slotCount ifName slot w := by
  rw [(edits_deleteRule hfails r).slotCount slot]
  by_cases hr : r = slot
  · subst hr
    simp only [true_and, if_true, slotDeleted]
  · rw [if_neg hr, if_neg fun h => hr h.1]

/-- The commands leave the rules alone that are not the interface's. -/
theorem filter_edited (op : RuleOp) (p : Rule → Bool) {filters : List IfFilter}
    (hp : ∀ f ∈ filters, p (.pkttype f ifName type) = false) :
    (edited op ifName type filters rules).filter p = rules.filter p := by
  induction filters generalizing rules with
  | nil => rfl
  | cons f filters ih =>
    obtain ⟨hf, hp⟩ := List.forall_mem_cons.mp hp
    rw [edited_cons, ih hp]
    cases op with
    | check =>
      rw [RuleOp.exec]
      split
      · rfl
      · rfl
    | append =>
      rw [RuleOp.exec, Option.getD_some, List.filter_append, List.filter_singleton, hf]
      exact List.append_nil _
    | delete =>
      rw [RuleOp.exec]
      split
      case isTrue hmem =>
        obtain ⟨before, after, -, hrules, herase⟩ := List.exists_erase_eq hmem
        have hneg : ¬ p (.pkttype f ifName type) = true := by
          rw [hf]
          nofun
        rw [Option.getD_some, herase, hrules, List.filter_append, List.filter_append,
          List.filter_cons_of_neg hneg]
      case isFalse => rfl

theorem Edits.others {op : RuleOp} {r : Xtables × Chain × PktType} {P : Prop} [Decidable P]
    (h : Edits op ifName r P w w') (x : Xtables) (chain : Chain) :
    (w'.rules x chain).filter (¬ chain.Counts ifName ·) =
      (w.rules x chain).filter (¬ chain.Counts ifName ·) := by
  rw [h x chain]
  split
  case isTrue hedited =>
    obtain ⟨⟨-, rfl⟩, -⟩ := hedited
    apply filter_edited
    intro f hf
    have hcounts : r.2.1.Counts ifName (.pkttype f ifName r.2.2) := ⟨hf, rfl⟩
    simp [hcounts]
  case isFalse => rfl

end Slot

/-! ## The handlers -/

theorem mem_l3statsRules (slot : Xtables × Chain × PktType) : slot ∈ l3statsRules := by
  obtain ⟨x, chain, type⟩ := slot
  cases x <;> cases chain <;> cases type <;> decide

theorem nodup_l3statsRules : l3statsRules.Nodup := by decide

section Handlers

variable {fails : List XtablesCmd → XtablesCmd → Bool} {ifName : String}

/-- What holds of one call for a slot holds of the calls for all slots. -/
theorem converged_foldl {n : ℕ} {w : XtablesWorld}
    {step : XtablesWorld → Xtables × Chain × PktType → XtablesWorld}
    {change : Chain → (IfFilter → ℕ) → IfFilter → ℕ}
    (hslot : ∀ slot w r, slotCount ifName slot (step w r) =
      if r = slot then change slot.2.1 (slotCount ifName slot w) else slotCount ifName slot w)
    (hothers : ∀ w r x chain, ((step w r).rules x chain).filter (¬ chain.Counts ifName ·) =
      (w.rules x chain).filter (¬ chain.Counts ifName ·)) :
    Converged n ifName w (l3statsRules.foldl step w) ↔
      ∀ slot : Xtables × Chain × PktType, ∀ filter ∈ slot.2.1.filters,
        change slot.2.1 (slotCount ifName slot w) filter = n := by
  have hcount : ∀ slot, slotCount ifName slot (l3statsRules.foldl step w) =
      change slot.2.1 (slotCount ifName slot w) := by
    intro slot
    exact observe_once (hslot slot) nodup_l3statsRules (mem_l3statsRules slot)
  have hunchanged : ∀ (rs : List (Xtables × Chain × PktType)) w x chain,
      ((rs.foldl step w).rules x chain).filter (¬ chain.Counts ifName ·) =
        (w.rules x chain).filter (¬ chain.Counts ifName ·) := by
    intro rs
    induction rs with
    | nil => exact fun w x chain => rfl
    | cons r rs ih => exact fun w x chain => (ih _ x chain).trans (hothers w r x chain)
  constructor
  · intro h slot filter hfilter
    rw [← hcount]
    exact h.own slot.1 slot.2.1 filter slot.2.2 hfilter
  · intro h
    refine ⟨fun x chain filter type hfilter => ?_, hunchanged l3statsRules w⟩
    have hslot := h (x, chain, type) filter hfilter
    rw [← hcount] at hslot
    exact hslot

/-- If all rules of a slot are there, those of `FORWARD` come in pairs. -/
theorem SlotFull.paired {chain : Chain} {count : IfFilter → ℕ} (h : SlotFull chain count) :
    chain = .forward → (0 < count .i ↔ 0 < count .o) := by
  rintro rfl
  exact iff_of_true (h .i (by decide)) (h .o (by decide))

/-- If not all are there, none is exactly if they come in pairs. -/
theorem SlotFull.none_iff {chain : Chain} {count : IfFilter → ℕ} (h : ¬ SlotFull chain count) :
    (∀ filter ∈ chain.filters, count filter = 0) ↔
      (chain = .forward → (0 < count .i ↔ 0 < count .o)) := by
  cases chain with
  | input | output =>
    simp only [SlotFull, Chain.filters, List.mem_singleton, forall_eq, reduceCtorEq, false_imp_iff,
      iff_true] at h ⊢
    omega
  | forward =>
    simp only [SlotFull, Chain.filters, List.forall_mem_cons, List.not_mem_nil, false_imp_iff,
      implies_true, and_true, forall_const] at h ⊢
    omega

/-- One call for a slot leaves each of its rules once exactly if those of `FORWARD` come in pairs. -/
theorem slotAdded_eq_one_iff {chain : Chain} {count : IfFilter → ℕ}
    (hcount : ∀ filter ∈ chain.filters, count filter ≤ 1) :
    (∀ filter ∈ chain.filters, slotAdded chain count filter = 1) ↔
      (chain = .forward → (0 < count .i ↔ 0 < count .o)) := by
  by_cases hfull : SlotFull chain count
  · rw [slotAdded, if_pos hfull]
    refine iff_of_true (fun filter hfilter => ?_) hfull.paired
    exact Nat.le_antisymm (hcount filter hfilter) (hfull filter hfilter)
  · rw [slotAdded, if_neg hfull, ← SlotFull.none_iff hfull]
    refine forall₂_congr fun filter hfilter => ?_
    rw [slotEdited, if_pos hfilter, RuleOp.change]
    omega

theorem slotDeleted_eq_zero_iff {chain : Chain} {count : IfFilter → ℕ}
    (hcount : ∀ filter ∈ chain.filters, count filter ≤ 1) :
    (∀ filter ∈ chain.filters, slotDeleted chain count filter = 0) ↔
      (chain = .forward → (0 < count .i ↔ 0 < count .o)) := by
  by_cases hfull : SlotFull chain count
  · rw [slotDeleted, if_pos hfull]
    refine iff_of_true (fun filter hfilter => ?_) hfull.paired
    rw [slotEdited, if_pos hfilter, RuleOp.change]
    exact Nat.sub_eq_zero_of_le (hcount filter hfilter)
  · rw [slotDeleted, if_neg hfull, ← SlotFull.none_iff hfull]

theorem forwardPaired_iff {w : XtablesWorld} :
    ForwardPaired ifName w ↔ ∀ slot : Xtables × Chain × PktType, slot.2.1 = .forward →
      (0 < slotCount ifName slot w .i ↔ 0 < slotCount ifName slot w .o) := by
  constructor
  · rintro h ⟨x, chain, type⟩ rfl
    simp only [slotCount, List.count_pos_iff]
    exact h x type
  · intro h x type
    have hslot := h (x, .forward, type) rfl
    simp only [slotCount, List.count_pos_iff] at hslot
    exact hslot

/-- With commands that succeed, the handlers leave the rules of the interface as they should be
exactly if the rules of `FORWARD` come in pairs. -/
theorem l3_rules_converge_iff (hfails : ∀ log c, fails log c = false) {s : L3Stats}
    (hcount : ∀ x chain filter type, filter ∈ chain.filters →
      (s.world.rules x chain).count (.pkttype filter s.linuxIntfName type) ≤ 1) :
    (s.l3StatsEnabled = false →
        (Converged 1 s.linuxIntfName s.world (xtablesRuleCreate fails s).world ↔
          ForwardPaired s.linuxIntfName s.world)) ∧
      (s.l3StatsEnabled = true →
        (Converged 0 s.linuxIntfName s.world (xtablesRuleDelete fails s).world ↔
          ForwardPaired s.linuxIntfName s.world)) := by
  have hslot : ∀ slot : Xtables × Chain × PktType, ∀ filter ∈ slot.2.1.filters,
      slotCount s.linuxIntfName slot s.world filter ≤ 1 :=
    fun slot filter => hcount slot.1 slot.2.1 filter slot.2.2
  rw [forwardPaired_iff]
  constructor
  · intro henabled
    have hworld : (xtablesRuleCreate fails s).world =
        l3statsRules.foldl (l3statsAddRule fails s.linuxIntfName) s.world := by
      simp [xtablesRuleCreate, henabled]
    rw [hworld, converged_foldl (slotCount_add hfails)
      fun w r x chain => (edits_addRule hfails r).others x chain]
    exact forall_congr' fun slot => slotAdded_eq_one_iff (hslot slot)
  · intro henabled
    have hworld : (xtablesRuleDelete fails s).world =
        l3statsRules.foldl (l3statsDeleteRule fails s.linuxIntfName) s.world := by
      simp [xtablesRuleDelete, henabled]
    rw [hworld, converged_foldl (slotCount_delete hfails)
      fun w r x chain => (edits_deleteRule hfails r).others x chain]
    exact forall_congr' fun slot => slotDeleted_eq_zero_iff (hslot slot)

end Handlers

/-! ## Rules of an earlier run -/

/-- A world in which the chains of `iptables` for an interface have the rules. -/
def leftOver (input forward : List Rule) : XtablesWorld where
  rules
    | .iptables, .input => input
    | .iptables, .forward => forward
    | _, _ => []
  log := []

/-- Another rule, and the two rules of `FORWARD` for unicast packets. -/
theorem l3_rules_converge_after_pair :
    let s : L3Stats := .construct "1"
      (leftOver [.other "-j ACCEPT"] [.pkttype .o "1" .unicast, .pkttype .i "1" .unicast])
    Converged 1 "1" s.world (xtablesRuleCreate (fun _ _ => false) s).world := by
  intro s
  have hcount : ∀ x chain filter type, filter ∈ chain.filters →
      (s.world.rules x chain).count (.pkttype filter s.linuxIntfName type) ≤ 1 := by
    intro x chain filter type _
    cases x <;> cases chain <;> cases filter <;> cases type <;> decide
  have hpaired : ForwardPaired s.linuxIntfName s.world := by
    intro x type
    cases x <;> cases type <;> decide
  exact ((l3_rules_converge_iff (fun _ _ => rfl) hcount).1 rfl).mpr hpaired

/-- One rule of a pair is there, and creating the rules adds it once more. -/
theorem half_pair_added_again : ¬ ∀ (fails : List XtablesCmd → XtablesCmd → Bool) (s : L3Stats),
    (∀ log c, fails log c = false) →
    (∀ x chain filter type, filter ∈ chain.filters →
      (s.world.rules x chain).count (.pkttype filter s.linuxIntfName type) ≤ 1) →
    (s.l3StatsEnabled = false →
        Converged 1 s.linuxIntfName s.world (xtablesRuleCreate fails s).world) ∧
      (s.l3StatsEnabled = true →
        Converged 0 s.linuxIntfName s.world (xtablesRuleDelete fails s).world) := by
  intro h
  let s : L3Stats := .construct "1" (leftOver [] [.pkttype .i "1" .unicast])
  have hcount : ∀ x chain filter type, filter ∈ chain.filters →
      (s.world.rules x chain).count (.pkttype filter s.linuxIntfName type) ≤ 1 := by
    intro x chain filter type _
    cases x <;> cases chain <;> cases filter <;> cases type <;> decide
  have hconverged := (h (fun _ _ => false) s (fun _ _ => rfl) hcount).1 rfl
  have hcount := hconverged.own .iptables .forward .i .unicast (by decide)
  revert hcount
  decide +kernel

end ContainerPlugin.Netdev
