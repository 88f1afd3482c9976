import Mathlib.Data.List.Chain
import ContainerPlugin.Netdev.L3Rules

/-!
# Threads that are served in order

A handler keeps the mutex when it finds nothing to do, which happens when a later request overtakes
an earlier one. When the threads get the mutex in the order of their requests, and the requests
alternate, each handler finds the rules as the request before it left them.
-/

namespace ContainerPlugin.Netdev

open Runs

/-- The thread that has waited longest gets the mutex. -/
def InOrder : ThreadEvent → Prop
  | .request _ => True
  | .schedule i => i = 0

instance : DecidablePred InOrder
  | .request _ => inferInstanceAs (Decidable True)
  | .schedule i => inferInstanceAs (Decidable (i = 0))

/-- The requests among the events. -/
def requested (es : List ThreadEvent) : List Handler :=
  es.filterMap fun
    | .request handler => some handler
    | .schedule _ => none

/-- The handler that has left the flag as it is. -/
def L3Stats.lastHandler (s : L3Stats) : Handler := if s.l3StatsEnabled then .create else .delete

/-- The mutex is free, the handlers that are still to run, those of the requests `hs` included,
alternate with the last one, and `handler` is the last of them all. -/
structure Alternating (s : L3Stats) (hs : List Handler) (handler : Handler) : Prop where
  unlocked : s.locked = false
  chain : (s.lastHandler :: (s.pending ++ hs)).IsChain (· ≠ ·)
  last : (s.lastHandler :: (s.pending ++ hs)).getLast? = some handler

section InOrder

variable {fails : List XtablesCmd → XtablesCmd → Bool} {s : L3Stats} {hs : List Handler}
  {handler last : Handler}

theorem lastHandler_ne (h : s.lastHandler ≠ handler) :
    (handler = .create → s.l3StatsEnabled = false) ∧
      (handler = .delete → s.l3StatsEnabled = true) := by
  rw [L3Stats.lastHandler] at h
  cases handler with
  | create => simpa using h
  | delete => simpa using h

theorem lastHandler_run (h : s.lastHandler ≠ handler) :
    (handler.run fails s).lastHandler = handler := by
  obtain ⟨hcreate, hdelete⟩ := lastHandler_ne h
  cases handler with
  | create => simp [Handler.run, xtablesRuleCreate, hcreate rfl, L3Stats.lastHandler]
  | delete => simp [Handler.run, xtablesRuleDelete, hdelete rfl, L3Stats.lastHandler]

/-- The thread at the head of the queue finds something to do, and the rest alternates with it. -/
theorem Alternating.step {e : ThreadEvent} (h : Alternating s (requested [e] ++ hs) last)
    (he : InOrder e) : FindsWork s e ∧ Alternating (s.step fails e) hs last := by
  cases e with
  | request handler =>
    have happend : s.pending ++ ([handler] ++ hs) = (s.pending ++ [handler]) ++ hs :=
      (List.append_assoc ..).symm
    exact ⟨trivial, h.unlocked, happend ▸ h.chain, happend ▸ h.last⟩
  | schedule i =>
    obtain rfl : i = 0 := he
    cases hpending : s.pending with
    | nil =>
      have hnone : s.pending[0]? = none := by rw [hpending, List.getElem?_nil]
      have hstep : s.step fails (.schedule 0) = s := by rw [L3Stats.step, hnone]
      rw [FindsWork, hnone, hstep]
      exact ⟨⟨by simp, by simp⟩, h⟩
    | cons handler pending =>
      have hsome : s.pending[0]? = some handler := by rw [hpending, List.getElem?_cons_zero]
      have hchain := h.chain
      have hlast := h.last
      rw [hpending, List.cons_append, List.isChain_cons_cons] at hchain
      rw [hpending, List.cons_append, List.getLast?_cons_cons] at hlast
      have hwork := lastHandler_ne hchain.1
      have hrun : (handler.run fails { s with pending := pending }).lastHandler = handler :=
        lastHandler_run hchain.1
      have hstep : s.step fails (.schedule 0) = handler.run fails { s with pending := pending } := by
        rw [L3Stats.step, hsome]
        simp [h.unlocked, hpending]
      rw [FindsWork, hsome, hstep]
      refine ⟨by simpa using hwork, (Handler.locked_run handler).mpr hwork, ?_, ?_⟩
      · rw [Handler.run_pending, hrun]
        exact hchain.2
      · rw [Handler.run_pending, hrun]
        exact hlast

theorem Alternating.run {es : List ThreadEvent} (h : Alternating s (requested es) last)
    (hes : ∀ e ∈ es, InOrder e) : Along (L3Stats.step fails) FindsWork s es ∧
      Alternating (es.foldl (L3Stats.step fails) s) [] last := by
  induction es generalizing s with
  | nil => exact ⟨trivial, h⟩
  | cons e es ih =>
    have hsplit : requested (e :: es) = requested [e] ++ requested es :=
      List.filterMap_append (l := [e])
    obtain ⟨hwork, hstep⟩ : FindsWork s e ∧ Alternating (s.step fails e) (requested es) last :=
      Alternating.step (hsplit ▸ h) (hes e List.mem_cons_self)
    obtain ⟨halong, hend⟩ := ih hstep fun e' he' => hes e' (List.mem_cons_of_mem e he')
    exact ⟨⟨hwork, halong⟩, hend⟩

/-- When all threads have run, the flag is as the last request asked for. -/
theorem Alternating.l3StatsEnabled (h : Alternating s [] last) (hpending : s.pending = []) :
    s.l3StatsEnabled = decide (last = .create) := by
  have hlast := h.last
  rw [hpending] at hlast
  obtain rfl : s.lastHandler = last := by simpa using hlast
  rw [L3Stats.lastHandler]
  cases s.l3StatsEnabled with
  | false => rfl
  | true => rfl

/-! ## The rules -/

theorem Converged.trans {n m : ℕ} {ifName : String} {w₀ w w' : XtablesWorld}
    (h : Converged n ifName w₀ w) (h' : Converged m ifName w w') : Converged m ifName w₀ w' :=
  ⟨h'.own, fun x chain => (h'.others x chain).trans (h.others x chain)⟩

variable {ifName : String} {w₀ w : XtablesWorld}

/-- All the rules that the interface has in a slot are there equally often. -/
theorem Converged.slotCount {n : ℕ} (h : Converged n ifName w₀ w) {slot : Xtables × Chain × PktType}
    {filter : IfFilter} (hfilter : filter ∈ slot.2.1.filters) :
    Netdev.slotCount ifName slot w filter = n := h.own slot.1 slot.2.1 filter slot.2.2 hfilter

theorem Converged.paired {n : ℕ} (h : Converged n ifName w₀ w) {slot : Xtables × Chain × PktType}
    (hforward : slot.2.1 = .forward) : 0 < Netdev.slotCount ifName slot w .i ↔
      0 < Netdev.slotCount ifName slot w .o := by
  have hfilter : ∀ filter, filter ∈ slot.2.1.filters := by
    intro filter
    rw [hforward]
    cases filter <;> decide
  rw [h.slotCount (hfilter .i), h.slotCount (hfilter .o)]

/-- Rules that are not there are created once. -/
theorem Converged.create (hfails : ∀ log c, fails log c = false) (h : Converged 0 ifName w₀ w) :
    Converged 1 ifName w (l3statsRules.foldl (l3statsAddRule fails ifName) w) := by
  rw [converged_foldl (slotCount_add hfails) fun w r x chain => (edits_addRule hfails r).others x chain]
  intro slot
  have hcount : ∀ filter ∈ slot.2.1.filters, Netdev.slotCount ifName slot w filter ≤ 1 := by
    intro filter hfilter
    rw [h.slotCount hfilter]
    omega
  exact (slotAdded_eq_one_iff hcount).mpr h.paired

/-- Rules that are there once are deleted. -/
theorem Converged.delete (hfails : ∀ log c, fails log c = false) (h : Converged 1 ifName w₀ w) :
    Converged 0 ifName w (l3statsRules.foldl (l3statsDeleteRule fails ifName) w) := by
  rw [converged_foldl (slotCount_delete hfails)
    fun w r x chain => (edits_deleteRule hfails r).others x chain]
  intro slot
  exact (slotDeleted_eq_zero_iff fun filter hfilter => (h.slotCount hfilter).le).mpr h.paired

/-- The rules are there once while the statistics are enabled, and not at all while they are not. -/
structure RulesMatch (ifName : String) (w₀ : XtablesWorld) (s : L3Stats) : Prop where
  linuxIntfName : s.linuxIntfName = ifName
  rules : Converged (if s.l3StatsEnabled then 1 else 0) ifName w₀ s.world

theorem RulesMatch.step {e : ThreadEvent} (hfails : ∀ log c, fails log c = false)
    (h : RulesMatch ifName w₀ s) (hunlocked : s.locked = false) (hwork : FindsWork s e) :
    RulesMatch ifName w₀ (s.step fails e) := by
  cases e with
  | request handler => exact ⟨h.linuxIntfName, h.rules⟩
  | schedule i =>
    rw [L3Stats.step]
    cases hi : s.pending[i]? with
    | none => exact h
    | some handler =>
      obtain ⟨rfl, hrules⟩ := h
      simp only [hunlocked, Bool.false_eq_true, if_false]
      cases handler with
      | create =>
        have henabled := hwork.1 hi
        rw [henabled] at hrules
        have hrun := hrules.trans (hrules.create hfails)
        simp only [Handler.run, xtablesRuleCreate, henabled, Bool.false_eq_true, if_false]
        exact ⟨rfl, hrun⟩
      | delete =>
        have henabled := hwork.2 hi
        rw [henabled] at hrules
        have hrun := hrules.trans (hrules.delete hfails)
        simp only [Handler.run, xtablesRuleDelete, henabled, Bool.true_eq_false, if_false]
        exact ⟨rfl, hrun⟩

theorem RulesMatch.run {es : List ThreadEvent} (hfails : ∀ log c, fails log c = false)
    (h : RulesMatch ifName w₀ s) (hunlocked : s.locked = false)
    (hwork : Along (L3Stats.step fails) FindsWork s es) :
    RulesMatch ifName w₀ (es.foldl (L3Stats.step fails) s) := by
  let P : L3Stats → Prop := fun s => s.Free fails ∧ RulesMatch ifName w₀ s
  have hstep : ∀ s e, P s → FindsWork s e → P (s.step fails e) := by
    intro s e hP he
    exact ⟨(hP.1.step_iff e).mpr he, hP.2.step hfails hP.1.unlocked he⟩
  exact (Always.of_along hstep ⟨.of_unlocked hunlocked, h⟩ hwork).last.2

end InOrder

end ContainerPlugin.Netdev
