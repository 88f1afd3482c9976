import ContainerPlugin.Lib.Interleave
import ContainerPlugin.Netdev.L3Install
import ContainerPlugin.Netdev.L3Order

/-!
# The threads of several netdevs

The mutex of a netdev keeps its own handlers apart, but the handlers of different netdevs run at the
same time and take turns at every command that changes the tables. As each works on the rules of its
own interface, this is no different from handlers that run one at a time.
-/

namespace ContainerPlugin.Netdev

open Runs Interleave Relation

/-- The command that the calls of a handler end with. -/
def Handler.op : Handler → RuleOp
  | .create => .append
  | .delete => .delete

/-- The call that a handler makes for a slot. -/
def Handler.editRule (fails : List XtablesCmd → XtablesCmd → Bool) (handler : Handler) (ifName : String)
    (w : XtablesWorld) (slot : Slot) : XtablesWorld :=
  match handler with
  | .create => l3statsAddRule fails ifName w slot
  | .delete => l3statsDeleteRule fails ifName w slot

/-- Where a handler is, for its calls that are not finished. -/
inductive HandlerThread where
  | checking (slot : Slot) (todo : List IfFilter) (rest : List Slot)
  | editing (slot : Slot) (todo : List IfFilter) (rest : List Slot)
  | done
  deriving DecidableEq

def HandlerThread.next : List Slot → HandlerThread
  | [] => .done
  | slot :: rest => .checking slot slot.2.1.filters rest

/-- The rules of the slot have been looked for. -/
def HandlerThread.checked (handler : Handler) (slot : Slot) (rest : List Slot) (installed : Bool) :
    HandlerThread :=
  match handler, installed with
  | .create, false | .delete, true => .editing slot slot.2.1.filters rest
  | .create, true | .delete, false => .next rest

/-- The next command of the handler, if one is left in the call. -/
def HandlerThread.step (fails : List XtablesCmd → XtablesCmd → Bool) (ifName : String)
    (handler : Handler) : XtablesWorld × HandlerThread → XtablesWorld × HandlerThread
  | (w, .checking slot [] rest) => (w, .checked handler slot rest true)
  | (w, .checking slot (filter :: todo) rest) =>
    let (w, found) := w.system fails ⟨slot.1, .check, slot.2.1, .pkttype filter ifName slot.2.2⟩
    (w, if found then .checking slot todo rest else .checked handler slot rest false)
  | (w, .editing _ [] rest) => (w, .next rest)
  | (w, .editing slot (filter :: todo) rest) =>
    ((w.system fails ⟨slot.1, handler.op, slot.2.1, .pkttype filter ifName slot.2.2⟩).1,
      .editing slot todo rest)
  | (w, .done) => (w, .done)

/-- The members of a `struct netdev_sim` that the L3 statistics change, the threads that have not got
the mutex yet, and the handler that has got it and is at work. -/
structure L3Netdev where
  l3StatsEnabled : Bool
  locked : Bool
  pending : List Handler
  running : Option (Handler × HandlerThread)

/-- `netdev_sim_construct` -/
def L3Netdev.construct : L3Netdev := ⟨false, false, [], none⟩

/-- A handler gets the mutex. It keeps it if there is nothing to do. -/
def L3Netdev.enter (n : L3Netdev) (handler : Handler) : L3Netdev :=
  { n with
    locked := true
    running :=
      if n.l3StatsEnabled = decide (handler = .create) then none
      else some (handler, .next l3statsRules) }

/-- What happens in the threads of a netdev: a request, a thread that gets to run, or the next command
of the handler that is at work. -/
inductive NetdevEvent where
  | thread (e : ThreadEvent)
  | command

def L3Netdev.step (fails : List XtablesCmd → XtablesCmd → Bool) (ifName : String) :
    XtablesWorld × L3Netdev → NetdevEvent → XtablesWorld × L3Netdev
  | (w, n), .thread (.request handler) => (w, { n with pending := n.pending ++ [handler] })
  | (w, n), .thread (.schedule i) =>
    match n.pending[i]? with
    | none => (w, n)
    | some handler =>
      if n.locked then (w, n)
      else (w, { n with pending := n.pending.eraseIdx i }.enter handler)
  | (w, n), .command =>
    match n.running with
    | none => (w, n)
    | some (handler, .done) =>
      (w, { n with l3StatsEnabled := decide (handler = .create), locked := false, running := none })
    | some (handler, thread) =>
      let (w, thread) := HandlerThread.step fails ifName handler (w, thread)
      (w, { n with running := some (handler, thread) })

/-- The events that are not commands. -/
def threadEvents (es : List NetdevEvent) : List ThreadEvent :=
  es.filterMap fun
    | .thread e => some e
    | .command => none

/-! ## The rules of one interface -/

section Counts

variable {fails : List XtablesCmd → XtablesCmd → Bool} {w : XtablesWorld} {ifName name : String}
  {slot slot' : Slot} {filter f : IfFilter} {op : RuleOp}

theorem slotCount_system (hfails : ∀ log c, fails log c = false) :
    slotCount ifName slot' (w.system fails
        ⟨slot.1, op, slot.2.1, .pkttype f ifName slot.2.2⟩).1 filter =
      if slot = slot' ∧ filter = f then op.change (slotCount ifName slot' w filter)
      else slotCount ifName slot' w filter := by
  obtain ⟨x, chain, type⟩ := slot
  obtain ⟨x', chain', type'⟩ := slot'
  simp only [slotCount, rules_system, hfails, true_and, Prod.mk.injEq]
  by_cases hplace : x = x' ∧ chain = chain'
  · obtain ⟨rfl, rfl⟩ := hplace
    simp only [and_self, if_true, true_and, count_exec]
  · rw [if_neg hplace, if_neg fun h => hplace ⟨h.1.1, h.1.2.1⟩]

/-- A command changes how often its own rule occurs, and no other. -/
theorem count_system_ne {c : XtablesCmd} {rule : Rule} (hne : c.rule ≠ rule) (x : Xtables)
    (chain : Chain) :
    ((w.system fails c).1.rules x chain).count rule = (w.rules x chain).count rule := by
  rw [rules_system]
  split
  · cases c.op with
    | check =>
      rw [RuleOp.exec]
      split
      · rfl
      · rfl
    | append =>
      simp only [RuleOp.exec, Option.getD_some, List.count_append, List.count_singleton, beq_iff_eq,
        hne, if_false, Nat.add_zero]
    | delete =>
      rw [RuleOp.exec]
      split
      · exact List.count_erase_of_ne hne.symm
      · rfl
  · rfl

/-- So commands of a handler leave the rules alone that do not name its interface. -/
theorem HandlerThread.count_step {rule : Rule} (hne : ∀ f type, rule ≠ .pkttype f name type)
    (handler : Handler) (thread : HandlerThread) (x : Xtables) (chain : Chain) :
    ((HandlerThread.step fails name handler (w, thread)).1.rules x chain).count rule =
      (w.rules x chain).count rule := by
  cases thread with
  | checking slot todo rest =>
    cases todo with
    | nil => rfl
    | cons filter todo => exact count_system_ne (hne filter slot.2.2).symm x chain
  | editing slot todo rest =>
    cases todo with
    | nil => rfl
    | cons filter todo => exact count_system_ne (hne filter slot.2.2).symm x chain
  | done => rfl

theorem L3Netdev.count_step {rule : Rule} (hne : ∀ f type, rule ≠ .pkttype f name type)
    (n : L3Netdev) (e : NetdevEvent) (x : Xtables) (chain : Chain) :
    ((L3Netdev.step fails name (w, n) e).1.rules x chain).count rule =
      (w.rules x chain).count rule := by
  cases e with
  | thread e =>
    cases e with
    | request handler => rfl
    | schedule k =>
      simp only [L3Netdev.step]
      split
      · rfl
      · split
        · rfl
        · rfl
  | command =>
    simp only [L3Netdev.step]
    split
    · rfl
    · rfl
    · exact HandlerThread.count_step hne _ _ x chain

/-- A check looks at the number of its rules. -/
theorem system_check_slot (hfails : ∀ log c, fails log c = false) :
    (w.system fails ⟨slot.1, .check, slot.2.1, .pkttype filter ifName slot.2.2⟩).2 =
      decide (0 < slotCount ifName slot w filter) := by
  rw [system_ok hfails, slotCount, Bool.eq_iff_iff, decide_eq_true_iff, List.count_pos_iff]
  simp only [RuleOp.exec]
  split
  · exact iff_of_true rfl ‹_›
  · exact iff_of_false Bool.false_ne_true ‹_›

/-- A handler depends on the numbers of its own rules, and changes those only. -/
theorem HandlerThread.step_congr (hfails : ∀ log c, fails log c = false) {w' : XtablesWorld}
    (hcount : ∀ slot, slotCount ifName slot w = slotCount ifName slot w') (handler : Handler)
    (thread : HandlerThread) :
    (∀ slot, slotCount ifName slot (HandlerThread.step fails ifName handler (w, thread)).1 =
        slotCount ifName slot (HandlerThread.step fails ifName handler (w', thread)).1) ∧
      (HandlerThread.step fails ifName handler (w, thread)).2 =
        (HandlerThread.step fails ifName handler (w', thread)).2 := by
  have hsystem : ∀ (slot : Slot) f op (slot' : Slot), slotCount ifName slot' (w.system fails
        ⟨slot.1, op, slot.2.1, .pkttype f ifName slot.2.2⟩).1 =
      slotCount ifName slot' (w'.system fails
        ⟨slot.1, op, slot.2.1, .pkttype f ifName slot.2.2⟩).1 := by
    intro slot f op slot'
    funext filter
    rw [slotCount_system hfails, slotCount_system hfails, hcount]
  cases thread with
  | checking slot todo rest =>
    cases todo with
    | nil => exact ⟨hcount, rfl⟩
    | cons filter todo =>
      refine ⟨hsystem slot filter .check, ?_⟩
      simp only [HandlerThread.step, system_check_slot hfails, hcount]
  | editing slot todo rest =>
    cases todo with
    | nil => exact ⟨hcount, rfl⟩
    | cons filter todo => exact ⟨hsystem slot filter handler.op, rfl⟩
  | done => exact ⟨hcount, rfl⟩

end Counts

/-- Netdevs with interfaces of their own keep to their own rules. -/
theorem separate_l3Netdevs {ι : Type*} {names : ι → String} (hnames : names.Injective)
    {fails : List XtablesCmd → XtablesCmd → Bool} (hfails : ∀ log c, fails log c = false) :
    Separate (fun i w slot => slotCount (names i) slot w)
      (fun i => L3Netdev.step fails (names i)) where
  own i w w' n e hview := by
    cases e with
    | thread e =>
      cases e with
      | request handler => exact ⟨hview, rfl⟩
      | schedule k =>
        simp only [L3Netdev.step]
        split
        · exact ⟨hview, rfl⟩
        · split
          · exact ⟨hview, rfl⟩
          · exact ⟨hview, rfl⟩
    | command =>
      simp only [L3Netdev.step]
      split
      · exact ⟨hview, rfl⟩
      · exact ⟨hview, rfl⟩
      · rename_i handler thread _ _
        obtain ⟨hcount, hthread⟩ :=
          HandlerThread.step_congr hfails (congrFun hview) handler thread
        exact ⟨funext hcount, by rw [hthread]⟩
  other i j w n e hij := by
    funext slot filter
    refine L3Netdev.count_step (fun f type h => hij (hnames ?_)) n e slot.1 slot.2.1
    exact (Rule.pkttype.inj h).2.1

/-! ## One handler alone -/

section Alone

variable {fails : List XtablesCmd → XtablesCmd → Bool} {ifName : String} {handler : Handler}

/-- One step leads to the other. -/
def HandlerThread.Steps (fails : List XtablesCmd → XtablesCmd → Bool) (ifName : String)
    (handler : Handler) (a b : XtablesWorld × HandlerThread) : Prop :=
  HandlerThread.step fails ifName handler a = b

theorem HandlerThread.steps_editing (w : XtablesWorld) (slot : Slot) (todo : List IfFilter)
    (rest : List Slot) :
    ReflTransGen (HandlerThread.Steps fails ifName handler) (w, .editing slot todo rest)
      (todo.foldl (fun w filter => (w.system fails
        ⟨slot.1, handler.op, slot.2.1, .pkttype filter ifName slot.2.2⟩).1) w, .next rest) := by
  induction todo generalizing w with
  | nil => exact .single rfl
  | cons filter todo ih => exact .head rfl (ih _)

theorem HandlerThread.steps_checking (w : XtablesWorld) (slot : Slot) (todo : List IfFilter)
    (rest : List Slot) :
    ReflTransGen (HandlerThread.Steps fails ifName handler) (w, .checking slot todo rest)
      ((xtablesRuleInstalled fails ifName slot.1 slot.2.1 slot.2.2 todo w).1,
        .checked handler slot rest
          (xtablesRuleInstalled fails ifName slot.1 slot.2.1 slot.2.2 todo w).2) := by
  induction todo generalizing w with
  | nil => exact .single rfl
  | cons filter todo ih =>
    simp only [xtablesRuleInstalled]
    by_cases hfound : (w.system fails
        ⟨slot.1, .check, slot.2.1, .pkttype filter ifName slot.2.2⟩).2 = true
    · simp only [hfound, if_true]
      refine .head ?_ (ih _)
      simp only [HandlerThread.Steps, HandlerThread.step, hfound, if_true]
    · simp only [hfound]
      refine .single ?_
      simp only [HandlerThread.Steps, HandlerThread.step, hfound]
      rfl

/-- The commands of one call lead to what the call does. -/
theorem HandlerThread.steps_slot (w : XtablesWorld) (slot : Slot) (rest : List Slot) :
    ReflTransGen (HandlerThread.Steps fails ifName handler) (w, .next (slot :: rest))
      (handler.editRule fails ifName w slot, .next rest) := by
  refine (HandlerThread.steps_checking w slot slot.2.1.filters rest).trans ?_
  have hedit : ReflTransGen (HandlerThread.Steps fails ifName handler) _ _ :=
    HandlerThread.steps_editing
      (xtablesRuleInstalled fails ifName slot.1 slot.2.1 slot.2.2 slot.2.1.filters w).1 slot
      slot.2.1.filters rest
  cases handler with
  | create =>
    simp only [Handler.editRule, l3statsAddRule]
    split
    · rename_i hinstalled
      rw [hinstalled]
      exact .refl
    · rename_i hmissing
      rw [Bool.not_eq_true] at hmissing
      rw [hmissing]
      exact hedit
  | delete =>
    simp only [Handler.editRule, l3statsDeleteRule]
    split
    · rename_i hinstalled
      rw [hinstalled]
      exact hedit
    · rename_i hmissing
      rw [Bool.not_eq_true] at hmissing
      rw [hmissing]
      exact .refl

/-- A handler that is not disturbed makes its calls one after the other. -/
theorem HandlerThread.steps_alone (w : XtablesWorld) (slots : List Slot) :
    ReflTransGen (HandlerThread.Steps fails ifName handler) (w, .next slots)
      (slots.foldl (handler.editRule fails ifName) w, .done) := by
  induction slots generalizing w with
  | nil => exact .refl
  | cons slot rest ih => exact (HandlerThread.steps_slot w slot rest).trans (ih _)

/-- There is only one way on. -/
theorem HandlerThread.steps_step {w w' : XtablesWorld} {thread : HandlerThread}
    (h : ReflTransGen (HandlerThread.Steps fails ifName handler) (w, thread) (w', .done))
    (hthread : thread ≠ .done) :
    ReflTransGen (HandlerThread.Steps fails ifName handler)
      (HandlerThread.step fails ifName handler (w, thread)) (w', .done) := by
  rcases h.cases_head with heq | ⟨next, hstep, hrest⟩
  · cases heq
    exact absurd rfl hthread
  · rw [HandlerThread.Steps] at hstep
    rw [hstep]
    exact hrest

/-- A handler that is done stays where it is. -/
theorem HandlerThread.steps_done {w w' : XtablesWorld} {thread : HandlerThread}
    (h : ReflTransGen (HandlerThread.Steps fails ifName handler) (w, .done) (w', thread)) :
    w' = w ∧ thread = .done := by
  generalize hst : (w', thread) = st at h
  induction h generalizing w' thread with
  | refl =>
    cases hst
    exact ⟨rfl, rfl⟩
  | @tail st₁ st₂ _ hstep ih =>
    obtain ⟨w₁, thread₁⟩ := st₁
    obtain ⟨rfl, rfl⟩ := ih rfl
    rw [HandlerThread.Steps, HandlerThread.step, ← hst] at hstep
    cases hstep
    exact ⟨rfl, rfl⟩

/-! ## Handlers as a whole -/

/-- The netdev with the commands of its handlers, and with handlers that run as a whole. A handler
that is at work still has to do what the other has done already. -/
structure Simulates (fails : List XtablesCmd → XtablesCmd → Bool) (ifName : String)
    (st : XtablesWorld × L3Netdev) (s : L3Stats) : Prop where
  linuxIntfName : s.linuxIntfName = ifName
  pending : s.pending = st.2.pending
  idle : st.2.running = none → s.world = st.1 ∧ s.l3StatsEnabled = st.2.l3StatsEnabled ∧
    s.locked = st.2.locked
  busy : ∀ handler thread, st.2.running = some (handler, thread) → st.2.locked = true ∧
    s.locked = false ∧ s.l3StatsEnabled = decide (handler = .create) ∧
      ReflTransGen (HandlerThread.Steps fails ifName handler) (st.1, thread) (s.world, .done)

theorem Simulates.construct (fails : List XtablesCmd → XtablesCmd → Bool) (ifName : String)
    (w : XtablesWorld) :
    Simulates fails ifName (w, .construct) (.construct ifName w) where
  linuxIntfName := rfl
  pending := rfl
  idle _ := ⟨rfl, rfl, rfl⟩
  busy handler thread h := by cases h

theorem Handler.run_idle {s : L3Stats} (h : s.l3StatsEnabled = decide (handler = .create)) :
    handler.run fails s = { s with locked := true } := by
  cases handler with
  | create => simp [Handler.run, xtablesRuleCreate, h]
  | delete => simp [Handler.run, xtablesRuleDelete, h]

theorem Handler.run_work {s : L3Stats} (h : s.l3StatsEnabled ≠ decide (handler = .create)) :
    handler.run fails s =
      { s with
        world := l3statsRules.foldl (handler.editRule fails s.linuxIntfName) s.world
        l3StatsEnabled := decide (handler = .create)
        locked := false } := by
  cases handler with
  | create =>
    have hdisabled : s.l3StatsEnabled = false := by simpa using h
    simp only [Handler.run, xtablesRuleCreate, hdisabled, Bool.false_eq_true, if_false]
    rfl
  | delete =>
    have henabled : s.l3StatsEnabled = true := by simpa using h
    simp only [Handler.run, xtablesRuleDelete, henabled, Bool.true_eq_false, if_false]
    rfl

variable {w : XtablesWorld} {n : L3Netdev} {s : L3Stats}

/-- A handler that gets the mutex is run as a whole. -/
theorem Simulates.enter (h : Simulates fails ifName (w, n) s) (hlocked : n.locked = false) {i : ℕ}
    (hi : n.pending[i]? = some handler) :
    Simulates fails ifName (w, { n with pending := n.pending.eraseIdx i }.enter handler)
      (s.step fails (.schedule i)) := by
  have hidle : n.running = none := by
    cases hrunning : n.running with
    | none => rfl
    | some running =>
      have hbusy := (h.busy running.1 running.2 hrunning).1
      simp only [hlocked, Bool.false_eq_true] at hbusy
  obtain ⟨hworld, henabled, hunlocked⟩ := h.idle hidle
  simp only at hworld henabled hunlocked
  rw [hlocked] at hunlocked
  have hpending : s.pending = n.pending := h.pending
  have hstep : s.step fails (.schedule i) =
      handler.run fails { s with pending := s.pending.eraseIdx i } := by
    simp [L3Stats.step, hpending, hi, hunlocked]
  rw [hstep]
  by_cases hwork : n.l3StatsEnabled = decide (handler = .create)
  · have hrun : handler.run fails { s with pending := s.pending.eraseIdx i } =
        { s with pending := s.pending.eraseIdx i, locked := true } :=
      Handler.run_idle (henabled.trans hwork)
    rw [hrun, L3Netdev.enter, if_pos hwork]
    refine ⟨h.linuxIntfName, by rw [hpending], fun _ => ⟨hworld, henabled, rfl⟩, ?_⟩
    intro handler' thread' hnone
    cases hnone
  · have hneeded : s.l3StatsEnabled ≠ decide (handler = .create) := by rw [henabled]; exact hwork
    have hrun : handler.run fails { s with pending := s.pending.eraseIdx i } = _ :=
      Handler.run_work hneeded
    rw [hrun, L3Netdev.enter, if_neg hwork]
    refine ⟨h.linuxIntfName, by rw [hpending], fun hnone => (by cases hnone), ?_⟩
    intro handler' thread' hsome
    cases hsome
    refine ⟨rfl, rfl, rfl, ?_⟩
    simp only [h.linuxIntfName, hworld]
    exact HandlerThread.steps_alone w l3statsRules

/-- An event is a step of the handlers that run as a whole, or none. No request is lost. -/
theorem Simulates.step (h : Simulates fails ifName (w, n) s) (e : NetdevEvent) :
    ∃ es : List ThreadEvent, es.Sublist (threadEvents [e]) ∧
      requested es = requested (threadEvents [e]) ∧
      Simulates fails ifName (L3Netdev.step fails ifName (w, n) e)
        (es.foldl (L3Stats.step fails) s) := by
  cases e with
  | thread e =>
    cases e with
    | request handler =>
      refine ⟨[.request handler], .refl _, rfl, h.linuxIntfName, ?_, h.idle, h.busy⟩
      exact congrArg (· ++ [handler]) h.pending
    | schedule i =>
      have hnone : ([] : List ThreadEvent).Sublist (threadEvents [.thread (.schedule i)]) :=
        List.nil_sublist _
      cases hi : n.pending[i]? with
      | none =>
        refine ⟨[], hnone, rfl, ?_⟩
        rw [L3Netdev.step, hi]
        exact h
      | some handler =>
        cases hlocked : n.locked with
        | true =>
          refine ⟨[], hnone, rfl, ?_⟩
          simp only [L3Netdev.step, hi, hlocked, if_true]
          exact h
        | false =>
          refine ⟨[.schedule i], .refl _, rfl, ?_⟩
          simp only [L3Netdev.step, hi, hlocked, Bool.false_eq_true, if_false]
          exact h.enter hlocked hi
  | command =>
    refine ⟨[], .refl _, rfl, ?_⟩
    cases hrunning : n.running with
    | none =>
      simp only [L3Netdev.step, hrunning]
      exact h
    | some running =>
      obtain ⟨handler, thread⟩ := running
      obtain ⟨hlocked, hunlocked, henabled, hsteps⟩ := h.busy handler thread hrunning
      by_cases hdone : thread = .done
      · subst hdone
        simp only [L3Netdev.step, hrunning]
        have hworld := (HandlerThread.steps_done hsteps).1
        refine ⟨h.linuxIntfName, h.pending, fun _ => ⟨hworld, henabled, hunlocked⟩, ?_⟩
        intro handler' thread' hnone
        cases hnone
      · have hstep : L3Netdev.step fails ifName (w, n) .command =
            let st := HandlerThread.step fails ifName handler (w, thread)
            (st.1, { n with running := some (handler, st.2) }) := by
          cases thread with
          | done => exact absurd rfl hdone
          | checking => simp only [L3Netdev.step, hrunning]
          | editing => simp only [L3Netdev.step, hrunning]
        rw [hstep]
        refine ⟨h.linuxIntfName, h.pending, fun hnone => (by cases hnone), ?_⟩
        intro handler' thread' hsome
        cases hsome
        exact ⟨hlocked, hunlocked, henabled, HandlerThread.steps_step hsteps hdone⟩

theorem Simulates.run {st : XtablesWorld × L3Netdev} (h : Simulates fails ifName st s)
    (es : List NetdevEvent) : ∃ es' : List ThreadEvent, es'.Sublist (threadEvents es) ∧
      requested es' = requested (threadEvents es) ∧
      Simulates fails ifName (es.foldl (L3Netdev.step fails ifName) st)
        (es'.foldl (L3Stats.step fails) s) := by
  induction es generalizing st s with
  | nil => exact ⟨[], .refl _, rfl, h⟩
  | cons e es ih =>
    obtain ⟨w, n⟩ := st
    obtain ⟨es₁, hsub₁, hrequested₁, hstep⟩ := h.step e
    obtain ⟨es₂, hsub₂, hrequested₂, hrest⟩ := ih hstep
    have hsplit : threadEvents (e :: es) = threadEvents [e] ++ threadEvents es :=
      List.filterMap_append (l := [e])
    refine ⟨es₁ ++ es₂, hsplit ▸ hsub₁.append hsub₂, ?_, ?_⟩
    · rw [hsplit, requested, requested, List.filterMap_append, List.filterMap_append]
      exact congrArg₂ _ hrequested₁ hrequested₂
    · rw [List.foldl_append]
      exact hrest

end Alone

/-! ## All netdevs -/

/-- The tables, and a netdev for every name. -/
def l3System {ι : Type*} (w : XtablesWorld) : XtablesWorld × (ι → L3Netdev) :=
  (w, fun _ => .construct)

/-- A step of the threads of one of the netdevs. -/
def l3Step {ι : Type*} [DecidableEq ι] (fails : List XtablesCmd → XtablesCmd → Bool)
    (names : ι → String) : XtablesWorld × (ι → L3Netdev) → ι × NetdevEvent →
      XtablesWorld × (ι → L3Netdev) :=
  Interleave.step fun i => L3Netdev.step fails (names i)

section System

variable {ι : Type*} [DecidableEq ι] {names : ι → String} {fails : List XtablesCmd → XtablesCmd → Bool}

/-- To a netdev a run of all is a run of its own. -/
theorem l3Step_alone (hnames : names.Injective) (hfails : ∀ log c, fails log c = false)
    (w : XtablesWorld) (es : List (ι × NetdevEvent)) (i : ι) :
    let s := es.foldl (l3Step fails names) (l3System w)
    let alone := (eventsOf i es).foldl (L3Netdev.step fails (names i)) (w, .construct)
    (∀ slot, slotCount (names i) slot s.1 = slotCount (names i) slot alone.1) ∧
      s.2 i = alone.2 := by
  obtain ⟨hview, hlocal⟩ := (separate_l3Netdevs hnames hfails).run i es (l3System w)
  exact ⟨congrFun hview, hlocal⟩

theorem count_l3Step {rule : Rule} (hrule : ∀ i f type, rule ≠ .pkttype f (names i) type)
    (es : List (ι × NetdevEvent)) (s : XtablesWorld × (ι → L3Netdev)) (x : Xtables) (chain : Chain) :
    ((es.foldl (l3Step fails names) s).1.rules x chain).count rule =
      (s.1.rules x chain).count rule := by
  induction es generalizing s with
  | nil => rfl
  | cons e es ih =>
    rw [List.foldl_cons, ih]
    exact L3Netdev.count_step (hrule e.1) (s.2 e.1) e.2 x chain

end System

/-- However the handlers of any number of netdevs take turns, command by command, each netdev is where
it would be if its handlers had run one at a time, each as a whole and with nobody else around: for
the same requests and some of the same turns. Where no handler is at work, its flag, its mutex and its
rules are the same. -/
theorem l3_handlers_serialize {ι : Type*} [DecidableEq ι] {names : ι → String}
    (hnames : names.Injective) (fails : List XtablesCmd → XtablesCmd → Bool)
    (hfails : ∀ log c, fails log c = false) (w : XtablesWorld) (es : List (ι × NetdevEvent)) (i : ι) :
    ∃ es' : List ThreadEvent, es'.Sublist (threadEvents (eventsOf i es)) ∧
      requested es' = requested (threadEvents (eventsOf i es)) ∧
      let s := es.foldl (l3Step fails names) (l3System w)
      let alone := es'.foldl (L3Stats.step fails) (.construct (names i) w)
      alone.pending = (s.2 i).pending ∧ ((s.2 i).running = none →
        alone.l3StatsEnabled = (s.2 i).l3StatsEnabled ∧ alone.locked = (s.2 i).locked ∧
          ∀ slot, slotCount (names i) slot alone.world = slotCount (names i) slot s.1) := by
  obtain ⟨es', hsub, hrequested, hsim⟩ := (Simulates.construct _ (names i) w).run (eventsOf i es)
  obtain ⟨hcount, hlocal⟩ := l3Step_alone hnames hfails w es i
  refine ⟨es', hsub, hrequested, ?_⟩
  simp only [hlocal, hcount]
  refine ⟨hsim.pending, fun hidle => ?_⟩
  obtain ⟨hworld, henabled, hlocked⟩ := hsim.idle hidle
  exact ⟨henabled, hlocked, fun slot => by rw [hworld]⟩

/-- Two interfaces. -/
def twoNames (b : Bool) : String := if b then "1" else "2"

theorem twoNames_injective : twoNames.Injective := by decide

/-- Rules are requested for both, and the handlers take turns until both are finished. -/
def twoAtOnce : List (Bool × NetdevEvent) :=
  [(true, .thread (.request .create)), (false, .thread (.request .create)),
    (true, .thread (.schedule 0)), (false, .thread (.schedule 0))] ++
  (List.replicate 41 [(true, .command), (false, .command)]).flatten

theorem l3_handlers_serialize_twoAtOnce : ∃ es' : List ThreadEvent,
    requested es' = [.create] ∧
      let s := twoAtOnce.foldl (l3Step (fun _ _ => false) twoNames) (l3System emptyTables)
      let alone := es'.foldl (L3Stats.step fun _ _ => false) (.construct "1" emptyTables)
      ∀ slot, slotCount "1" slot alone.world = slotCount "1" slot s.1 := by
  obtain ⟨es', -, hrequested, -, hidle⟩ := l3_handlers_serialize twoNames_injective (fun _ _ => false)
    (fun _ _ => rfl) emptyTables twoAtOnce true
  exact ⟨es', hrequested, (hidle (by decide +kernel)).2.2⟩

/-- The requests for each netdev alternate and its threads get the mutex in their order, while the
netdevs take turns at will. Then, when no thread of a netdev is left, its mutex is free and each of its
rules is there once or not at all, as its last request asked for. Rules of other interfaces are not
touched. -/
theorem l3_rules_of_all_interfaces {ι : Type*} [DecidableEq ι] {names : ι → String}
    (hnames : names.Injective) (fails : List XtablesCmd → XtablesCmd → Bool)
    (hfails : ∀ log c, fails log c = false) (w : XtablesWorld)
    (hempty : ∀ i, ∀ slot : Slot, ∀ filter ∈ slot.2.1.filters, slotCount (names i) slot w filter = 0)
    (es : List (ι × NetdevEvent))
    (horder : ∀ i, ∀ e ∈ threadEvents (eventsOf i es), InOrder e)
    (halternate : ∀ i,
      (Handler.delete :: requested (threadEvents (eventsOf i es))).IsChain (· ≠ ·)) :
    let s := es.foldl (l3Step fails names) (l3System w)
    (∀ i last, (s.2 i).pending = [] → (s.2 i).running = none →
      (Handler.delete :: requested (threadEvents (eventsOf i es))).getLast? = some last →
        (s.2 i).locked = false ∧ ∀ slot : Slot, ∀ filter ∈ slot.2.1.filters,
          slotCount (names i) slot s.1 filter = if last = .create then 1 else 0) ∧
      ∀ rule, (∀ i f type, rule ≠ .pkttype f (names i) type) →
        ∀ x chain, (s.1.rules x chain).count rule = (w.rules x chain).count rule := by
  intro s
  constructor
  · intro i last hpending hrunning hlast
    obtain ⟨es', hsub, hrequested, hsim⟩ := (Simulates.construct _ (names i) w).run (eventsOf i es)
    obtain ⟨hcount, hlocal⟩ := l3Step_alone hnames hfails w es i
    rw [hlocal] at hpending hrunning ⊢
    have hstart : Alternating (.construct (names i) w) (requested es') last := by
      rw [hrequested]
      exact ⟨rfl, halternate i, hlast⟩
    obtain ⟨halong, hend⟩ : Along (L3Stats.step fails) FindsWork (.construct (names i) w) es' ∧ _ :=
      hstart.run fun e he => horder i e (hsub.subset he)
    have hmatch : RulesMatch (names i) w (.construct (names i) w) :=
      ⟨rfl, ⟨fun x chain filter type hfilter => hempty i (x, chain, type) filter hfilter,
        fun x chain => rfl⟩⟩
    have hrules := (hmatch.run hfails rfl halong).rules
    rw [hend.l3StatsEnabled (hsim.pending.trans hpending)] at hrules
    obtain ⟨hworld, -, hlocked⟩ := hsim.idle hrunning
    refine ⟨hlocked.symm.trans hend.unlocked, fun slot filter hfilter => ?_⟩
    rw [hcount, ← hworld, hrules.slotCount hfilter]
    simp only [decide_eq_true_eq]
  · intro rule hrule x chain
    exact count_l3Step hrule es (l3System w) x chain

theorem l3_rules_of_twoAtOnce :
    let s := twoAtOnce.foldl (l3Step (fun _ _ => false) twoNames) (l3System emptyTables)
    ∀ slot : Slot, ∀ filter ∈ slot.2.1.filters, slotCount "2" slot s.1 filter = 1 := by
  have horder : ∀ i, ∀ e ∈ threadEvents (eventsOf i twoAtOnce), InOrder e := by decide +kernel
  exact ((l3_rules_of_all_interfaces twoNames_injective (fun _ _ => false) (fun _ _ => rfl) emptyTables
    (fun _ _ _ _ => rfl) twoAtOnce horder (by decide +kernel)).1 false .create (by decide +kernel)
      (by decide +kernel) (by decide +kernel)).2

end ContainerPlugin.Netdev
