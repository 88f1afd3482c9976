import ContainerPlugin.Netdev.L3Kernel

/-!
# Installing the rules of several interfaces

The threads that create the rules of different interfaces take turns at every command, and other
rules come in between. What one thread adds stays in the order in which the lines are read.
-/

namespace ContainerPlugin.Netdev

open Relation

/-- A call of `netdev_sim_l3stats_add_rule`. -/
abbrev Slot := Xtables × Chain × PktType

/-- Where `netdev_sim_xtables_rule_create_` is, for its calls that are not finished. -/
inductive AddThread where
  | checking (slot : Slot) (todo : List IfFilter) (rest : List Slot)
  | adding (slot : Slot) (todo : List IfFilter) (rest : List Slot)
  | done
  deriving DecidableEq

def AddThread.next : List Slot → AddThread
  | [] => .done
  | slot :: rest => .checking slot slot.2.1.filters rest

section Thread

variable (fails : List XtablesCmd → XtablesCmd → Bool) (ifName : String)

/-- The next command of the thread, if one is left in the call. -/
def AddThread.step : XtablesWorld × AddThread → XtablesWorld × AddThread
  | (w, .checking _ [] rest) => (w, .next rest)
  | (w, .checking slot (filter :: todo) rest) =>
    let (w, found) := w.system fails ⟨slot.1, .check, slot.2.1, .pkttype filter ifName slot.2.2⟩
    (w, if found then .checking slot todo rest else .adding slot slot.2.1.filters rest)
  | (w, .adding _ [] rest) => (w, .next rest)
  | (w, .adding slot (filter :: todo) rest) =>
    ((w.system fails ⟨slot.1, .append, slot.2.1, .pkttype filter ifName slot.2.2⟩).1,
      .adding slot todo rest)
  | (w, .done) => (w, .done)

/-- One step leads to the other. -/
def AddThread.Steps (a b : XtablesWorld × AddThread) : Prop := AddThread.step fails ifName a = b

variable {fails ifName}

theorem AddThread.steps_adding (w : XtablesWorld) (slot : Slot) (todo : List IfFilter)
    (rest : List Slot) :
    ReflTransGen (AddThread.Steps fails ifName) (w, .adding slot todo rest)
      (todo.foldl (fun w filter => (w.system fails
        ⟨slot.1, .append, slot.2.1, .pkttype filter ifName slot.2.2⟩).1) w, .next rest) := by
  induction todo generalizing w with
  | nil => exact .single rfl
  | cons filter todo ih => exact .head rfl (ih _)

theorem AddThread.steps_checking (w : XtablesWorld) (slot : Slot) (todo : List IfFilter)
    (rest : List Slot) :
    ReflTransGen (AddThread.Steps fails ifName) (w, .checking slot todo rest)
      ((xtablesRuleInstalled fails ifName slot.1 slot.2.1 slot.2.2 todo w).1,
        if (xtablesRuleInstalled fails ifName slot.1 slot.2.1 slot.2.2 todo w).2 then .next rest
        else .adding slot slot.2.1.filters rest) := by
  induction todo generalizing w with
  | nil => exact .single rfl
  | cons filter todo ih =>
    simp only [xtablesRuleInstalled]
    by_cases hfound : (w.system fails
        ⟨slot.1, .check, slot.2.1, .pkttype filter ifName slot.2.2⟩).2 = true
    · simp only [hfound, if_true]
      refine .head ?_ (ih _)
      simp only [AddThread.Steps, AddThread.step, hfound, if_true]
    · simp only [hfound]
      refine .single ?_
      simp only [AddThread.Steps, AddThread.step, hfound]
      rfl

/-- A thread that runs alone does what the handler does. -/
theorem AddThread.steps_alone (w : XtablesWorld) (slots : List Slot) :
    ReflTransGen (AddThread.Steps fails ifName) (w, .next slots)
      (slots.foldl (l3statsAddRule fails ifName) w, .done) := by
  induction slots generalizing w with
  | nil => exact .refl
  | cons slot rest ih =>
    refine (AddThread.steps_checking w slot slot.2.1.filters rest).trans ?_
    rw [List.foldl_cons]
    simp only [l3statsAddRule]
    split
    · exact ih _
    · exact (AddThread.steps_adding _ slot _ rest).trans (ih _)

end Thread

/-! ## Interleaved threads -/

/-- The tables, and a thread for every interface. -/
structure Installing where
  world : XtablesWorld
  thread : String → AddThread

def Installing.start (w : XtablesWorld) : Installing := ⟨w, fun _ => .next l3statsRules⟩

/-- A thread takes a step, or a rule that is not one of theirs is put into a chain. -/
inductive InstallEvent where
  | run (ifName : String)
  | other (x : Xtables) (chain : Chain) (position : ℕ) (spec : String)

def XtablesWorld.insertOther (w : XtablesWorld) (x : Xtables) (chain : Chain) (position : ℕ)
    (spec : String) : XtablesWorld :=
  { w with rules := fun x' chain' =>
      if x' = x ∧ chain' = chain then
        (w.rules x chain).take position ++ .other spec :: (w.rules x chain).drop position
      else w.rules x' chain' }

def Installing.step (fails : List XtablesCmd → XtablesCmd → Bool) (s : Installing) :
    InstallEvent → Installing
  | .run ifName =>
    let (w, thread) := AddThread.step fails ifName (s.world, s.thread ifName)
    ⟨w, Function.update s.thread ifName thread⟩
  | .other x chain position spec => { s with world := s.world.insertOther x chain position spec }

/-! ## The rules of one interface -/

/-- The rule is about the interface. -/
def Rule.Names (ifName : String) : Rule → Prop
  | .pkttype _ name _ => name = ifName
  | .other _ => False

instance (ifName : String) : DecidablePred (Rule.Names ifName)
  | .pkttype _ name _ => inferInstanceAs (Decidable (name = ifName))
  | .other _ => inferInstanceAs (Decidable False)

def XtablesWorld.named (w : XtablesWorld) (ifName : String) (x : Xtables) (chain : Chain) :
    List Rule := (w.rules x chain).filter (Rule.Names ifName)

/-- The rules that a call for the slot adds to a chain for the letters. -/
def slotRules (ifName : String) (slot : Slot) (filters : List IfFilter) (x : Xtables)
    (chain : Chain) : List Rule :=
  if slot.1 = x ∧ slot.2.1 = chain then filters.map (.pkttype · ifName slot.2.2) else []

/-- The rules that the calls for the slots add to a chain. -/
def slotsRules (ifName : String) (slots : List Slot) (x : Xtables) (chain : Chain) : List Rule :=
  slots.flatMap fun slot => slotRules ifName slot slot.2.1.filters x chain

/-- What the thread of the interface has added so far. -/
def AddThread.Added (ifName : String) (own : Xtables → Chain → List Rule) : AddThread → Prop
  | .checking slot todo rest => ∃ finished, l3statsRules = finished ++ slot :: rest ∧
      todo = slot.2.1.filters ∧ ∀ x chain, own x chain = slotsRules ifName finished x chain
  | .adding slot todo rest => ∃ finished added, l3statsRules = finished ++ slot :: rest ∧
      slot.2.1.filters = added ++ todo ∧ ∀ x chain,
        own x chain = slotsRules ifName finished x chain ++ slotRules ifName slot added x chain
  | .done => ∀ x chain, own x chain = slotsRules ifName l3statsRules x chain

section Named

variable {fails : List XtablesCmd → XtablesCmd → Bool} {w : XtablesWorld} {ifName name : String}
  {own : Xtables → Chain → List Rule} {x : Xtables} {chain : Chain}

theorem named_insertOther (position : ℕ) (spec : String) (x' : Xtables) (chain' : Chain) :
    (w.insertOther x chain position spec).named ifName x' chain' = w.named ifName x' chain' := by
  simp only [XtablesWorld.named, XtablesWorld.insertOther]
  split
  case isTrue h =>
    obtain ⟨rfl, rfl⟩ := h
    have hother : ∀ rules : List Rule, (.other spec :: rules).filter (Rule.Names ifName) =
        rules.filter (Rule.Names ifName) := fun rules => List.filter_cons_of_neg (by exact nofun)
    rw [List.filter_append, hother, ← List.filter_append, List.take_append_drop]
  case isFalse => rfl

/-- A check that is passed has found the rule. -/
theorem mem_of_system_check {rule : Rule}
    (h : (w.system fails ⟨x, .check, chain, rule⟩).2 = true) : rule ∈ w.rules x chain := by
  by_contra hmem
  revert h
  simp only [XtablesWorld.system, RuleOp.exec, if_neg hmem]
  split
  · rintro ⟨⟩
  · rintro ⟨⟩

/-- A rule that is added comes last, if the command succeeds. -/
theorem named_system_append (filter : IfFilter) (type : PktType) (x' : Xtables) (chain' : Chain) :
    (w.system fails ⟨x, .append, chain, .pkttype filter name type⟩).1.named ifName x' chain' =
      if fails w.log ⟨x, .append, chain, .pkttype filter name type⟩ = false ∧ x = x' ∧
          chain = chain' ∧ name = ifName then
        w.named ifName x' chain' ++ [.pkttype filter name type]
      else w.named ifName x' chain' := by
  rw [XtablesWorld.named, rules_system]
  simp only [RuleOp.exec, Option.getD_some]
  by_cases hplace : fails w.log ⟨x, .append, chain, .pkttype filter name type⟩ = false ∧ x = x' ∧
      chain = chain'
  · obtain ⟨hok, rfl, rfl⟩ := hplace
    rw [if_pos ⟨hok, rfl, rfl⟩, List.filter_append, List.filter_singleton]
    by_cases hname : name = ifName
    · subst hname
      simp [hok, Rule.Names, XtablesWorld.named]
    · simp [hname, Rule.Names, XtablesWorld.named]
  · rw [if_neg hplace, if_neg fun h => hplace ⟨h.1, h.2.1, h.2.2.1⟩, XtablesWorld.named]

/-- The thread goes on with the next call. -/
theorem AddThread.Added.next {finished rest : List Slot} (hslots : l3statsRules = finished ++ rest)
    (hown : ∀ x chain, own x chain = slotsRules ifName finished x chain) :
    (AddThread.next rest).Added ifName own := by
  cases rest with
  | nil =>
    rw [List.append_nil] at hslots
    rw [AddThread.next, AddThread.Added, hslots]
    exact hown
  | cons slot rest => exact ⟨finished, hslots, rfl, hown⟩

/-- The rules of a slot are added once. -/
theorem notMem_slotsRules {slot : Slot} {finished rest : List Slot}
    (hslots : l3statsRules = finished ++ slot :: rest) (ifName : String) (filter : IfFilter) :
    .pkttype filter ifName slot.2.2 ∉ slotsRules ifName finished slot.1 slot.2.1 := by
  intro hmem
  obtain ⟨slot', hslot', hmem⟩ := List.mem_flatMap.mp hmem
  have hsame : slot' = slot := by
    rw [slotRules] at hmem
    split at hmem
    case isTrue hplace =>
      obtain ⟨f, -, hf⟩ := List.mem_map.mp hmem
      rw [Rule.pkttype.injEq] at hf
      exact Prod.ext hplace.1 (Prod.ext hplace.2 hf.2.2)
    case isFalse => cases hmem
  have hnodup := nodup_l3statsRules
  rw [hslots, List.nodup_append] at hnodup
  exact hnodup.2.2 slot' hslot' slot List.mem_cons_self hsame

/-- No command that adds a rule of the interface fails. -/
def AppendsSucceed (fails : List XtablesCmd → XtablesCmd → Bool) (ifName : String) : Prop :=
  ∀ log x chain filter type, fails log ⟨x, .append, chain, .pkttype filter ifName type⟩ = false

theorem slotRules_append (slot : Slot) (added : List IfFilter) (filter : IfFilter) :
    slotRules ifName slot (added ++ [filter]) x chain = if slot.1 = x ∧ slot.2.1 = chain then
      slotRules ifName slot added x chain ++ [.pkttype filter ifName slot.2.2]
    else slotRules ifName slot added x chain := by
  simp only [slotRules]
  split
  · rw [List.map_append, List.map_singleton]
  · rfl

/-- Each step of its own adds to the rules of an interface what comes next. -/
theorem AddThread.Added.step (happends : AppendsSucceed fails ifName) {thread : AddThread}
    (h : thread.Added ifName (w.named ifName)) :
    (AddThread.step fails ifName (w, thread)).2.Added ifName
      ((AddThread.step fails ifName (w, thread)).1.named ifName) := by
  cases thread with
  | done => exact h
  | checking slot todo rest =>
    obtain ⟨finished, hslots, rfl, hown⟩ := h
    have hcheck : ∀ filter todo, slot.2.1.filters = filter :: todo →
        (AddThread.step fails ifName (w, .checking slot slot.2.1.filters rest)).2.Added ifName
          ((AddThread.step fails ifName (w, .checking slot slot.2.1.filters rest)).1.named
            ifName) := by
      intro filter todo hfilters
      have hrules : (w.system fails
          ⟨slot.1, .check, slot.2.1, .pkttype filter ifName slot.2.2⟩).1.rules = w.rules :=
        rules_system_check ..
      -- the first rule of the slot is missing, so its check is not passed
      have hfound : (w.system fails
          ⟨slot.1, .check, slot.2.1, .pkttype filter ifName slot.2.2⟩).2 ≠ true := by
        intro hfound
        apply notMem_slotsRules hslots ifName filter
        rw [← hown]
        exact List.mem_filter.mpr ⟨mem_of_system_check hfound, decide_eq_true rfl⟩
      rw [hfilters]
      simp only [AddThread.step, hfound]
      refine ⟨finished, [], hslots, rfl, fun x chain => ?_⟩
      have hnone : slotRules ifName slot [] x chain = [] := ite_self _
      rw [hnone, List.append_nil, ← hown, XtablesWorld.named, hrules, XtablesWorld.named]
    obtain ⟨filter, todo, hfilters⟩ : ∃ filter todo, slot.2.1.filters = filter :: todo := by
      cases slot.2.1 <;> exact ⟨_, _, rfl⟩
    exact hcheck filter todo hfilters
  | adding slot todo rest =>
    obtain ⟨finished, added, hslots, hfilters, hown⟩ := h
    cases todo with
    | nil =>
      rw [List.append_nil] at hfilters
      have hslots' : l3statsRules = (finished ++ [slot]) ++ rest := by
        rw [hslots, List.append_assoc, List.singleton_append]
      refine AddThread.Added.next hslots' fun x chain => ?_
      have hnamed := hown x chain
      rw [← hfilters] at hnamed
      rw [slotsRules, List.flatMap_append, List.flatMap_singleton]
      exact hnamed
    | cons filter todo =>
      refine ⟨finished, added ++ [filter], hslots, by simp [hfilters], fun x chain => ?_⟩
      simp only [AddThread.step]
      rw [named_system_append, slotRules_append]
      by_cases hplace : slot.1 = x ∧ slot.2.1 = chain
      · rw [if_pos ⟨happends .., hplace.1, hplace.2, rfl⟩, if_pos hplace, hown, List.append_assoc]
      · rw [if_neg fun h => hplace ⟨h.2.1, h.2.2.1⟩, if_neg hplace, hown]

/-- Steps of the thread of another interface leave the rules of this one alone. -/
theorem named_step_other (hname : name ≠ ifName) (thread : AddThread) :
    (AddThread.step fails name (w, thread)).1.named ifName = w.named ifName := by
  funext x chain
  cases thread with
  | done => rfl
  | checking slot todo rest =>
    cases todo with
    | nil => rfl
    | cons filter todo =>
      simp only [AddThread.step, XtablesWorld.named, rules_system_check]
  | adding slot todo rest =>
    cases todo with
    | nil => rfl
    | cons filter todo =>
      simp only [AddThread.step, named_system_append, hname, and_false, if_false]

theorem Installing.added_step (happends : AppendsSucceed fails ifName) {s : Installing}
    (h : (s.thread ifName).Added ifName (s.world.named ifName)) (e : InstallEvent) :
    ((s.step fails e).thread ifName).Added ifName ((s.step fails e).world.named ifName) := by
  cases e with
  | run name =>
    simp only [Installing.step]
    by_cases hname : name = ifName
    · subst hname
      rw [Function.update_self]
      exact h.step happends
    · rw [Function.update_of_ne (Ne.symm hname), named_step_other hname]
      exact h
  | other x chain position spec =>
    have hnamed : (s.world.insertOther x chain position spec).named ifName =
        s.world.named ifName := by
      funext x' chain'
      exact named_insertOther position spec x' chain'
    simp only [Installing.step, hnamed]
    exact h

/-- Along every run, the rules of an interface are those that its thread has added. -/
theorem Installing.added_foldl (happends : AppendsSucceed fails ifName) {s : Installing}
    (h : (s.thread ifName).Added ifName (s.world.named ifName)) (es : List InstallEvent) :
    ((es.foldl (Installing.step fails) s).thread ifName).Added ifName
      ((es.foldl (Installing.step fails) s).world.named ifName) := by
  induction es generalizing s with
  | nil => exact h
  | cons e es ih => exact ih (Installing.added_step happends h e)

/-- Rules of other interfaces are not printed for this one. -/
theorem filterMap_filter_names (filter : IfFilter) (rules : List Rule) :
    (rules.filter (Rule.Names ifName)).filterMap (awkMatch ifName filter) =
      rules.filterMap (awkMatch ifName filter) := by
  rw [List.filterMap_filter]
  apply List.filterMap_congr
  intro rule _
  cases rule with
  | pkttype f name type =>
    by_cases hname : name = ifName
    · simp [Rule.Names, hname]
    · simp [Rule.Names, awkMatch, hname]
  | other spec => rfl

/-- The rules that the calls of the handler add are printed in the order in which they are read. -/
theorem aligned_of_added (h : AddThread.done.Added ifName (w.named ifName)) :
    Aligned ifName w := by
  have hchain : ∀ x chain filter, (w.rules x chain).filterMap (awkMatch ifName filter) =
      (slotsRules ifName l3statsRules x chain).filterMap (awkMatch ifName filter) := by
    intro x chain filter
    rw [← filterMap_filter_names, ← h x chain]
    rfl
  intro x filter
  rw [XtablesWorld.listed, List.filterMap_append, List.filterMap_append, hchain, hchain, hchain]
  cases x <;> cases filter <;>
    simp [slotsRules, slotRules, l3statsRules, Chain.filters, awkMatch, readOrder]

end Named

/-- Whatever the tables have counted, the members are right exactly if the rules of the interface are
printed in the order in which they are read; and they are when the thread of the interface is done
and no rule of the interface could not be added. -/
theorem l3_stats_attributed_iff (fails : List XtablesCmd → XtablesCmd → Bool) {w : XtablesWorld}
    (hnone : ∀ x chain filter name type, .pkttype filter name type ∉ w.rules x chain)
    (es : List InstallEvent) (ifName : String) :
    let s := es.foldl (Installing.step fails) (.start w)
    ((∀ listing, IsListing s.world listing → L3Attributed ifName listing) ↔
        Aligned ifName s.world) ∧
      (s.thread ifName = .done → AppendsSucceed fails ifName → Aligned ifName s.world) := by
  intro s
  refine ⟨l3_attributed_iff_aligned, fun hdone happends => ?_⟩
  have hstart : ((Installing.start w).thread ifName).Added ifName
      ((Installing.start w).world.named ifName) := by
    have hempty : ∀ x chain, w.named ifName x chain = slotsRules ifName [] x chain := by
      intro x chain
      apply List.filter_eq_nil_iff.mpr
      intro rule hrule hnames
      cases rule with
      | pkttype filter name type => exact hnone x chain filter name type hrule
      | other spec => cases hnames
    exact AddThread.Added.next (List.nil_append _).symm hempty
  have hadded := Installing.added_foldl happends hstart es
  rw [show (es.foldl (Installing.step fails) (.start w)).thread ifName = .done from hdone] at hadded
  exact aligned_of_added hadded

def emptyTables : XtablesWorld := ⟨fun _ _ => [], []⟩

/-- Two threads take turns, and another rule is put before theirs. -/
theorem l3_stats_attributed_in_turn :
    let es := (List.replicate 40 [.run "1", .run "2"]).flatten ++
      [InstallEvent.other .iptables .forward 2 "-j ACCEPT"]
    ∀ listing, IsListing (es.foldl (Installing.step fun _ _ => false) (.start emptyTables)).world
      listing → L3Attributed "1" listing := by
  intro es
  have hattributed := l3_stats_attributed_iff (fun _ _ => false) (w := emptyTables)
    (fun _ _ _ _ _ => List.not_mem_nil) es "1"
  exact hattributed.1.mpr (hattributed.2 (by decide +kernel) fun _ _ _ _ _ => rfl)

/-- The rule for unicast packets cannot be added to `INPUT`, and the packets that the one for
multicast packets counts are taken for unicast packets. -/
theorem multicast_read_as_unicast : ¬ ∀ (fails : List XtablesCmd → XtablesCmd → Bool)
    (w : XtablesWorld),
    (∀ x chain filter name type, .pkttype filter name type ∉ w.rules x chain) →
    ∀ (es : List InstallEvent) (ifName : String),
      (es.foldl (Installing.step fails) (.start w)).thread ifName = .done →
      ∀ listing, IsListing (es.foldl (Installing.step fails) (.start w)).world listing →
        L3Attributed ifName listing := by
  intro h
  let fails : List XtablesCmd → XtablesCmd → Bool := fun _ c =>
    c = ⟨.iptables, .append, .input, .pkttype .i "1" .unicast⟩
  let es : List InstallEvent := List.replicate 40 (.run "1")
  let w := (es.foldl (Installing.step fails) (.start emptyTables)).world
  have hattributed := h fails emptyTables (fun _ _ _ _ _ => List.not_mem_nil) es "1"
    (by decide +kernel) (fun x => (w.listed x).map (·, ⟨1, 100⟩))
    (fun x => by rw [List.map_map]; exact List.map_id _)
  have hright := l3Attributed_iff.mp hattributed .iptables .i .unicast
  revert hright
  decide +kernel

end ContainerPlugin.Netdev
