import ContainerPlugin.Stp.KernelBridge

/-!
# When the CIST is looked at

`stp_reconfigure` runs `mstp_cist_update` only if a row of the common instance was inserted or modified
or a row of one of its ports was modified. Rows of ports that come or go are not looked for, and need
not be: the common instance refers to them, and its own row is modified with them.
-/

namespace ContainerPlugin.Stp

/-- What is read of the database. A row of `MSTP_Common_Instance` is the list of the ports that it
refers to. -/
structure Idl where
  /-- `mstp_common_instance` of the first bridge, if there is a bridge. -/
  bridge : Option (Option ℕ)
  commonInstances : List (ℕ × List ℕ)
  commonInstancePorts : List (ℕ × PortRow)

def Idl.empty : Idl := ⟨none, [], []⟩

/-- References lead to rows. -/
structure Idl.WF (idl : Idl) : Prop where
  bridge : ∀ id ∈ idl.bridge.join, (idl.commonInstances.lookup id).isSome
  ports : ∀ row ∈ idl.commonInstances, ∀ ref ∈ row.2, (idl.commonInstancePorts.lookup ref).isSome

theorem Idl.wf_empty : Idl.empty.WF := ⟨by decide, by decide⟩

/-- `br->cfg->mstp_common_instance` with the rows of its ports, as `mstp_cist_update` finds them. -/
def Idl.mstpCommonInstance (idl : Idl) : Option (List PortRow) := do
  let id ← idl.bridge.join
  let refs ← idl.commonInstances.lookup id
  return refs.filterMap fun ref => idl.commonInstancePorts.lookup ref

/-! ## Changes -/

/-- `OVSREC_IDL_ANY_TABLE_ROWS_INSERTED` and `OVSREC_IDL_ANY_TABLE_ROWS_MODIFIED`, of a table as it was
when the last changes were handled and as it is. -/
structure IdlMacros where
  anyTableRowsInserted : {α : Type} → [DecidableEq α] → List (ℕ × α) → List (ℕ × α) → Bool
  anyTableRowsModified : {α : Type} → [DecidableEq α] → List (ℕ × α) → List (ℕ × α) → Bool

/-- They hold if a row was inserted, or modified. -/
structure IdlMacros.Sound (macros : IdlMacros) : Prop where
  inserted {α : Type} [DecidableEq α] {old new : List (ℕ × α)} {id : ℕ} {a : α} :
    new.lookup id = some a → old.lookup id = none → macros.anyTableRowsInserted old new = true
  modified {α : Type} [DecidableEq α] {old new : List (ℕ × α)} {id : ℕ} {a b : α} :
    new.lookup id = some a → old.lookup id = some b → b ≠ a →
      macros.anyTableRowsModified old new = true

variable (macros : IdlMacros)

/-- `stp_plugin_need_propagate_change`; `old` is the database when the last changes were handled. -/
def stpPluginNeedPropagateChange (old new : Idl) : Bool :=
  let cistRowCreated :=
    if new.commonInstances = [] then false
    else macros.anyTableRowsInserted old.commonInstances new.commonInstances
  let cistRowUpdated :=
    if new.commonInstances = [] then false
    else macros.anyTableRowsModified old.commonInstances new.commonInstances
  let cistPortRowUpdated :=
    if new.commonInstancePorts = [] then false
    else macros.anyTableRowsModified old.commonInstancePorts new.commonInstancePorts
  cistRowCreated || cistRowUpdated || cistPortRowUpdated

/-- `stp_reconfigure` -/
def stpReconfigure (env : Env) (s : Plugin) (old new : Idl) : Plugin :=
  if stpPluginNeedPropagateChange macros old new then mstpCistUpdate env s new.mstpCommonInstance
  else s

/-- The database when the plug-in is called next. The bridge comes to refer to a common instance only
when that instance is new. -/
structure Idl.Next (old new : Idl) : Prop where
  wf : new.WF
  bridge : ∀ id ∈ new.bridge.join, id ∈ old.bridge.join ∨ old.commonInstances.lookup id = none

section Gate

variable {macros} {env : Env} {s : Plugin} {old new : Idl}

theorem mem_of_lookup {α : Type} {table : List (ℕ × α)} {id : ℕ} {a : α}
    (h : table.lookup id = some a) : (id, a) ∈ table := by
  obtain ⟨before, after, rfl, -⟩ := List.lookup_eq_some_iff.mp h
  exact List.mem_append_right _ List.mem_cons_self

/-- If no change has to be propagated, a row of the common instance is as it was. -/
theorem IdlMacros.Sound.commonInstance_eq (hmacros : macros.Sound)
    (hskip : stpPluginNeedPropagateChange macros old new = false) {id : ℕ} {refs : List ℕ}
    (hnew : new.commonInstances.lookup id = some refs) :
    old.commonInstances.lookup id = some refs := by
  have hne : new.commonInstances ≠ [] := List.ne_nil_of_mem (mem_of_lookup hnew)
  simp only [stpPluginNeedPropagateChange, hne, if_false, Bool.or_eq_false_iff] at hskip
  cases hold : old.commonInstances.lookup id with
  | none =>
    rw [hmacros.inserted hnew hold] at hskip
    exact absurd hskip.1.1 Bool.true_eq_false_eq_False
  | some refs' =>
    by_contra hrefs
    rw [hmacros.modified hnew hold fun heq => hrefs (congrArg some heq)] at hskip
    exact absurd hskip.1.2 Bool.true_eq_false_eq_False

/-- A row of a port that was there already is as it was. -/
theorem IdlMacros.Sound.commonInstancePort_eq (hmacros : macros.Sound)
    (hskip : stpPluginNeedPropagateChange macros old new = false) {ref : ℕ} {row row' : PortRow}
    (hnew : new.commonInstancePorts.lookup ref = some row)
    (hold : old.commonInstancePorts.lookup ref = some row') : row' = row := by
  have hne : new.commonInstancePorts ≠ [] := List.ne_nil_of_mem (mem_of_lookup hnew)
  simp only [stpPluginNeedPropagateChange, hne, if_false, Bool.or_eq_false_iff] at hskip
  by_contra hrow
  rw [hmacros.modified hnew hold hrow] at hskip
  exact absurd hskip.2 Bool.true_eq_false_eq_False

/-- If no change has to be propagated, the rows that would be read are those that were read. -/
theorem Idl.Next.mstpCommonInstance_eq (h : old.Next new) (hold : old.WF) (hmacros : macros.Sound)
    (hskip : stpPluginNeedPropagateChange macros old new = false) :
    new.mstpCommonInstance = none ∨ new.mstpCommonInstance = old.mstpCommonInstance := by
  cases hid : new.bridge.join with
  | none => exact .inl (by simp [Idl.mstpCommonInstance, hid])
  | some id =>
    refine .inr ?_
    obtain ⟨refs, hrefs⟩ := Option.isSome_iff_exists.mp (h.wf.bridge id hid)
    have hrefs' := hmacros.commonInstance_eq hskip hrefs
    have hsame : old.bridge.join = some id := by
      refine (h.bridge id hid).resolve_right ?_
      rw [hrefs']
      exact Option.some_ne_none _
    have hrows : ∀ ref ∈ refs,
        new.commonInstancePorts.lookup ref = old.commonInstancePorts.lookup ref := by
      intro ref href
      obtain ⟨row, hrow⟩ := Option.isSome_iff_exists.mp (h.wf.ports _ (mem_of_lookup hrefs) ref href)
      obtain ⟨row', hrow'⟩ := Option.isSome_iff_exists.mp (hold.ports _ (mem_of_lookup hrefs') ref href)
      rw [hrow, hrow', hmacros.commonInstancePort_eq hskip hrow hrow']
    simp only [Idl.mstpCommonInstance, hid, hsame, Option.bind_eq_bind, Option.bind_some, hrefs,
      hrefs', List.filterMap_congr hrows]

/-- A call that has been made already changes nothing. -/
theorem Plugin.Inv.update_again (h : s.Inv env) (rows : Option (List PortRow)) :
    mstpCistUpdate env (mstpCistUpdate env s rows) rows = mstpCistUpdate env s rows := by
  cases rows with
  | none => rfl
  | some rows =>
    obtain ⟨msti, w, hconf, heq⟩ := h.update rows
    rw [heq]
    simp only [mstpCistUpdate, hconf.inv.configurePorts_again]

/-- However the database changes, the plug-in is always where it would be if it had looked at the rows
of the common instance every time it was called. -/
theorem stp_reconfigure_misses_nothing (hmacros : macros.Sound) (env : Env) (w : World)
    {idls : List Idl} (h : List.IsChain Idl.Next (.empty :: idls)) :
    (idls.foldl (fun s new => (stpReconfigure macros env s.1 s.2 new, new)) (⟨none, w⟩, Idl.empty)).1 =
      idls.foldl (fun s new => mstpCistUpdate env s new.mstpCommonInstance) ⟨none, w⟩ := by
  suffices hgeneral : ∀ (old : Idl) (s : Plugin), old.WF → s.Inv env →
      mstpCistUpdate env s old.mstpCommonInstance = s → List.IsChain Idl.Next (old :: idls) →
      (idls.foldl (fun s new => (stpReconfigure macros env s.1 s.2 new, new)) (s, old)).1 =
        idls.foldl (fun s new => mstpCistUpdate env s new.mstpCommonInstance) s from
    hgeneral .empty ⟨none, w⟩ Idl.wf_empty (fun _ hcist => by cases hcist) rfl h
  clear h
  intro old s hwf hinv hsettled hchain
  induction idls generalizing old s with
  | nil => rfl
  | cons new idls ih =>
    obtain ⟨hnext, hrest⟩ := List.isChain_cons_cons.mp hchain
    have hupdate : stpReconfigure macros env s old new = mstpCistUpdate env s new.mstpCommonInstance := by
      rw [stpReconfigure]
      split
      · rfl
      · rename_i hskip
        rcases hnext.mstpCommonInstance_eq hwf hmacros (by simpa using hskip) with hnone | hsame
        · rw [hnone]
          rfl
        · rw [hsame, hsettled]
    rw [List.foldl_cons, List.foldl_cons, hupdate]
    exact ih new _ hnext.wf (hinv.step _) (hinv.update_again _) hrest

/-- The macros on the rows themselves. -/
def rowMacros : IdlMacros where
  anyTableRowsInserted old new := new.any fun row => (old.lookup row.1).isNone
  anyTableRowsModified old new := new.any fun row => (old.lookup row.1).any (· ≠ row.2)

theorem rowMacros_sound : rowMacros.Sound where
  inserted hnew hold := List.any_eq_true.mpr ⟨_, mem_of_lookup hnew, by simp [hold]⟩
  modified hnew hold hne := List.any_eq_true.mpr ⟨_, mem_of_lookup hnew, by simp [hold, hne]⟩

/-- The common instance comes with its two ports; one of them stops forwarding; the bridge goes. -/
theorem stp_reconfigure_misses_nothing_of_three_calls :
    let w := Monitor.initial.plugin.world
    let ports := [(2, ⟨some "1", some "Forwarding"⟩), (3, ⟨some "2", some "Forwarding"⟩)]
    let blocked := [(2, ⟨some "1", some "Blocking"⟩), (3, ⟨some "2", some "Forwarding"⟩)]
    let idls := [⟨some (some 1), [(1, [2, 3])], ports⟩, ⟨some (some 1), [(1, [2, 3])], blocked⟩,
      ⟨none, [], blocked⟩]
    (idls.foldl (fun s new => (stpReconfigure rowMacros plainEnv s.1 s.2 new, new))
        (⟨none, w⟩, Idl.empty)).1 =
      idls.foldl (fun s new => mstpCistUpdate plainEnv s new.mstpCommonInstance) ⟨none, w⟩ := by
  intro w ports blocked idls
  have hchain : List.IsChain Idl.Next (.empty :: idls) := by
    refine .cons_cons ⟨⟨?_, ?_⟩, ?_⟩ (.cons_cons ⟨⟨?_, ?_⟩, ?_⟩
      (.cons_cons ⟨⟨?_, ?_⟩, ?_⟩ (.singleton _)))
    all_goals decide
  exact stp_reconfigure_misses_nothing rowMacros_sound plainEnv w hchain

end Gate

end ContainerPlugin.Stp
