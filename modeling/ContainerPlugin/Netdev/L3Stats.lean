import Mathlib.Data.List.Basic
import ContainerPlugin.Lib.Runs

/-!
# The L3 statistics rules of a netdev

A request to create or to delete the `pkttype` rules of an interface starts a detached thread, and
the threads of one netdev exclude each other with `l3_stats_mutex`. Both handlers return at once,
without unlocking, when the rules are already as they should be, so the mutex stays free exactly as
long as every handler finds something to do.
-/

namespace ContainerPlugin.Netdev

open Runs

inductive Xtables where
  | iptables
  | ip6tables
  deriving DecidableEq

inductive Chain where
  | input
  | forward
  | output
  deriving DecidableEq

/-- The letter of the option that names the interface. -/
inductive IfFilter where
  | i
  | o
  deriving DecidableEq

inductive PktType where
  | unicast
  | multicast
  deriving DecidableEq

/-- A rule of a chain: `-i IF -m pkttype --pkt-type TYPE`, or one that is not of this form. -/
inductive Rule where
  | pkttype (filter : IfFilter) (ifName : String) (type : PktType)
  | other (spec : String)
  deriving DecidableEq

inductive RuleOp where
  | check
  | append
  | delete
  deriving DecidableEq

/-- `XTABLES OP CHAIN RULE -w` -/
structure XtablesCmd where
  xtables : Xtables
  op : RuleOp
  chain : Chain
  rule : Rule
  deriving DecidableEq

/-- The rules of the chains, in chain order, and the commands that were run. -/
structure XtablesWorld where
  rules : Xtables → Chain → List Rule
  log : List XtablesCmd

/-- What a command does to its chain if it can be carried out. -/
def RuleOp.exec (op : RuleOp) (rule : Rule) (rules : List Rule) : Option (List Rule) :=
  match op with
  | .check => if rule ∈ rules then some rules else none
  | .append => some (rules ++ [rule])
  | .delete => if rule ∈ rules then some (rules.erase rule) else none

variable (fails : List XtablesCmd → XtablesCmd → Bool)

/-- `system(cmd)`, and whether it returned 0. The command may fail although it could be carried
out. -/
def XtablesWorld.system (w : XtablesWorld) (c : XtablesCmd) : XtablesWorld × Bool :=
  let w' := { w with log := w.log ++ [c] }
  if fails w.log c then (w', false)
  else
    match c.op.exec c.rule (w.rules c.xtables c.chain) with
    | none => (w', false)
    | some rules =>
      ({ w' with rules := fun x chain =>
          if x = c.xtables ∧ chain = c.chain then rules else w.rules x chain }, true)

/-- The letters with which a chain is given a rule for an interface. -/
def Chain.filters : Chain → List IfFilter
  | .input => [.i]
  | .output => [.o]
  | .forward => [.i, .o]

/-- `netdev_sim_l3stats_xtables_rule_installed`: the checks stop at the first rule that is missing. -/
def xtablesRuleInstalled (ifName : String) (x : Xtables) (chain : Chain) (type : PktType) :
    List IfFilter → XtablesWorld → XtablesWorld × Bool
  | [], w => (w, true)
  | filter :: filters, w =>
    let (w, found) := w.system fails ⟨x, .check, chain, .pkttype filter ifName type⟩
    if found then xtablesRuleInstalled ifName x chain type filters w else (w, false)

/-- The commands that add or delete the rules of a chain, whatever they return. -/
def editRules (op : RuleOp) (ifName : String) (x : Xtables) (chain : Chain) (type : PktType)
    (w : XtablesWorld) : XtablesWorld :=
  chain.filters.foldl
    (fun w filter => (w.system fails ⟨x, op, chain, .pkttype filter ifName type⟩).1) w

/-- `netdev_sim_l3stats_add_rule` -/
def l3statsAddRule (ifName : String) (w : XtablesWorld) (r : Xtables × Chain × PktType) :
    XtablesWorld :=
  let (w, installed) := xtablesRuleInstalled fails ifName r.1 r.2.1 r.2.2 r.2.1.filters w
  if installed then w else editRules fails .append ifName r.1 r.2.1 r.2.2 w

/-- `netdev_sim_l3stats_delete_rule` -/
def l3statsDeleteRule (ifName : String) (w : XtablesWorld) (r : Xtables × Chain × PktType) :
    XtablesWorld :=
  let (w, installed) := xtablesRuleInstalled fails ifName r.1 r.2.1 r.2.2 r.2.1.filters w
  if installed then editRules fails .delete ifName r.1 r.2.1 r.2.2 w else w

/-- The calls of the two handlers, in their order. -/
def l3statsRules : List (Xtables × Chain × PktType) :=
  [(.iptables, .input, .unicast), (.iptables, .input, .multicast),
    (.ip6tables, .input, .unicast), (.ip6tables, .input, .multicast),
    (.iptables, .output, .unicast), (.iptables, .output, .multicast),
    (.ip6tables, .output, .unicast), (.ip6tables, .output, .multicast),
    (.iptables, .forward, .unicast), (.iptables, .forward, .multicast),
    (.ip6tables, .forward, .unicast), (.ip6tables, .forward, .multicast)]

/-! ## The handlers -/

inductive Handler where
  | create
  | delete
  deriving DecidableEq

/-- The members of `struct netdev_sim` that the L3 statistics use, the tables, and the threads that
have been started and have not got the mutex yet. -/
structure L3Stats where
  linuxIntfName : String
  l3StatsEnabled : Bool
  /-- `l3_stats_mutex` is locked. -/
  locked : Bool
  world : XtablesWorld
  pending : List Handler

/-- `netdev_sim_construct` -/
def L3Stats.construct (ifName : String) (world : XtablesWorld) : L3Stats :=
  ⟨ifName, false, false, world, []⟩

/-- `netdev_sim_xtables_rule_create_` -/
def xtablesRuleCreate (s : L3Stats) : L3Stats :=
  let s := { s with locked := true }
  if s.l3StatsEnabled then s
  else
    { s with
      world := l3statsRules.foldl (l3statsAddRule fails s.linuxIntfName) s.world
      l3StatsEnabled := true
      locked := false }

/-- `netdev_sim_xtables_rule_delete_` -/
def xtablesRuleDelete (s : L3Stats) : L3Stats :=
  let s := { s with locked := true }
  if s.l3StatsEnabled = false then s
  else
    { s with
      world := l3statsRules.foldl (l3statsDeleteRule fails s.linuxIntfName) s.world
      l3StatsEnabled := false
      locked := false }

def Handler.run (s : L3Stats) : Handler → L3Stats
  | .create => xtablesRuleCreate fails s
  | .delete => xtablesRuleDelete fails s

/-- A request starts a thread; a thread that gets to run waits for the mutex. -/
inductive ThreadEvent where
  | request (handler : Handler)
  | schedule (thread : ℕ)

def L3Stats.step (s : L3Stats) : ThreadEvent → L3Stats
  | .request handler => { s with pending := s.pending ++ [handler] }
  | .schedule i =>
    match s.pending[i]? with
    | none => s
    | some handler =>
      if s.locked then s else handler.run fails { s with pending := s.pending.eraseIdx i }

/-- Between the steps no handler is inside its critical section: the mutex is free, and any thread
that gets to run runs its handler. -/
structure L3Stats.Free (s : L3Stats) : Prop where
  unlocked : s.locked = false
  runs : ∀ i < s.pending.length, (s.step fails (.schedule i)).pending = s.pending.eraseIdx i

/-- A handler that gets the mutex finds rules to create, or to delete. -/
def FindsWork (s : L3Stats) : ThreadEvent → Prop
  | .request _ => True
  | .schedule i =>
    (s.pending[i]? = some .create → s.l3StatsEnabled = false) ∧
      (s.pending[i]? = some .delete → s.l3StatsEnabled = true)

variable {fails} {s : L3Stats}

theorem Handler.run_pending (h : Handler) : (h.run fails s).pending = s.pending := by
  cases h with
  | create =>
    simp only [Handler.run, xtablesRuleCreate]
    split
    · rfl
    · rfl
  | delete =>
    simp only [Handler.run, xtablesRuleDelete]
    split
    · rfl
    · rfl

theorem L3Stats.Free.of_unlocked (h : s.locked = false) : s.Free fails := by
  refine ⟨h, fun i hi => ?_⟩
  simp [L3Stats.step, List.getElem?_eq_getElem hi, h, Handler.run_pending]

/-- The mutex is free after a handler exactly if the handler did not take its early exit. -/
theorem Handler.locked_run (h : Handler) :
    (h.run fails s).locked = false ↔
      (h = .create → s.l3StatsEnabled = false) ∧ (h = .delete → s.l3StatsEnabled = true) := by
  cases h with
  | create =>
    simp only [Handler.run, xtablesRuleCreate]
    cases s.l3StatsEnabled with
    | false => simp
    | true => simp
  | delete =>
    simp only [Handler.run, xtablesRuleDelete]
    cases s.l3StatsEnabled with
    | false => simp
    | true => simp

theorem L3Stats.Free.step_iff (h : s.Free fails) (e : ThreadEvent) :
    (s.step fails e).Free fails ↔ FindsWork s e := by
  cases e with
  | request handler => exact iff_of_true (.of_unlocked h.unlocked) trivial
  | schedule i =>
    rw [L3Stats.step, FindsWork]
    cases hi : s.pending[i]? with
    | none => exact iff_of_true h ⟨nofun, nofun⟩
    | some handler =>
      simp only [h.unlocked, Bool.false_eq_true, if_false, Option.some.injEq]
      constructor
      · intro hfree
        have hunlocked := hfree.unlocked
        rw [Handler.locked_run] at hunlocked
        exact hunlocked
      · intro hwork
        apply L3Stats.Free.of_unlocked
        rw [Handler.locked_run]
        exact hwork

/-- Whatever the requests and the order of the threads, `l3_stats_mutex` is free between the handlers
if and only if every handler that gets it finds something to do. -/
theorem l3_stats_mutex_free_iff (fails : List XtablesCmd → XtablesCmd → Bool) (ifName : String)
    (world : XtablesWorld) (es : List ThreadEvent) :
    Always (L3Stats.step fails) (L3Stats.Free fails) (.construct ifName world) es ↔
      Along (L3Stats.step fails) FindsWork (.construct ifName world) es :=
  always_iff_along (I := fun _ => True) (fun _ _ _ _ _ => trivial)
    (fun _ e _ _ h => h.step_iff e) trivial (.of_unlocked rfl)

/-- A port that moves between two bundles of a VRF has its rules deleted and created again. When the
second creation overtakes the deletion, it keeps the mutex. -/
theorem l3_stats_mutex_kept_by_early_exit :
    ¬ ∀ (fails : List XtablesCmd → XtablesCmd → Bool) (ifName : String) (world : XtablesWorld)
      (es : List ThreadEvent),
      Always (L3Stats.step fails) (L3Stats.Free fails) (.construct ifName world) es := by
  intro hall
  have hlast := (hall (fun _ _ => false) "eth1" ⟨fun _ _ => [], []⟩
    [.request .create, .request .delete, .request .create, .schedule 0, .schedule 1]).last
  exact absurd hlast.unlocked (by decide +kernel)

end ContainerPlugin.Netdev
