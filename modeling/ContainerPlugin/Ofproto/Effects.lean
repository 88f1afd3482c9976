import ContainerPlugin.Ofproto.Bundle

/-!
# What commands change

A command is logged and changes either the ASIC or the `DROP` rules. `World.OvsOnly` and
`World.IptablesOnly` are the two kinds of steps that the functions of the provider take in the world;
what a command does to the ASIC is known when it fits its buffer and the environment is healthy.
-/

namespace ContainerPlugin.Ofproto

/-- From `w` to `w'` the program ran commands that did not touch the `DROP` rules. -/
structure World.OvsOnly (w w' : World) : Prop where
  log : w.log <+: w'.log
  iptables : w'.iptables = w.iptables

/-- From `w` to `w'` the program ran commands that did not touch the ASIC. -/
structure World.IptablesOnly (w w' : World) : Prop where
  log : w.log <+: w'.log
  asic : w'.asic = w.asic

/-- Every command of the history fitted its buffer. -/
def World.Fits (w : World) : Prop := ∀ c ∈ w.log, c.Fits

instance (w : World) : Decidable w.Fits := inferInstanceAs (Decidable (∀ c ∈ w.log, c.Fits))

/-- From `w` to `w'` only commands with `P` have been run. -/
def World.Ran (w : World) (P : Cmd → Prop) (w' : World) : Prop :=
  ∃ cmds, w'.log = w.log ++ cmds ∧ ∀ c ∈ cmds, P c

def Cmd.IsOvs : Cmd → Prop
  | .iptables .. => False
  | _ => True

section World

variable {env : Env} {w w₁ w₂ : World} {c : Cmd} {P : Cmd → Prop}

theorem World.OvsOnly.refl (w : World) : w.OvsOnly w := ⟨List.prefix_refl _, rfl⟩

theorem World.OvsOnly.trans (h₁ : w.OvsOnly w₁) (h₂ : w₁.OvsOnly w₂) : w.OvsOnly w₂ :=
  ⟨h₁.log.trans h₂.log, h₂.iptables.trans h₁.iptables⟩

theorem World.IptablesOnly.refl (w : World) : w.IptablesOnly w := ⟨List.prefix_refl _, rfl⟩

theorem World.IptablesOnly.trans (h₁ : w.IptablesOnly w₁) (h₂ : w₁.IptablesOnly w₂) :
    w.IptablesOnly w₂ :=
  ⟨h₁.log.trans h₂.log, h₂.asic.trans h₁.asic⟩

theorem World.Fits.of_prefix (h : w₁.Fits) (hlog : w.log <+: w₁.log) : w.Fits :=
  fun c hc => h c (hlog.subset hc)

theorem World.log_system (env : Env) (w : World) (c : Cmd) :
    (w.system env c).1.log = w.log ++ [c] := by
  cases c <;> rfl

theorem World.ovsOnly_system (env : Env) (w : World) (hc : c.IsOvs) :
    w.OvsOnly (w.system env c).1 := by
  refine ⟨⟨[c], (w.log_system env c).symm⟩, ?_⟩
  cases c with
  | iptables => exact hc.elim
  | _ => rfl

theorem World.iptablesOnly_system (env : Env) (w : World) (op : IptablesOp) (chain : Chain)
    (dev : String) : w.IptablesOnly (w.system env (.iptables op chain dev)).1 :=
  ⟨⟨_, (w.log_system env _).symm⟩, rfl⟩

/-- In a healthy environment a command that fits is carried out if it can be. -/
theorem World.system_ovs (henv : env.Healthy) (hc : c.IsOvs) (hfits : c.Fits) :
    (w.system env c).1.asic = (w.asic.exec c).getD w.asic ∧
      (w.system env c).2 = (w.asic.exec c).isSome := by
  have hovs : w.ovs env c = ((w.asic.exec c).getD w.asic, (w.asic.exec c).isSome) := by
    rw [World.ovs, if_neg (not_not_intro hfits), henv w.log c]
    cases w.asic.exec c <;> rfl
  cases c with
  | iptables => exact hc.elim
  | _ => simp only [World.system, hovs, and_self]

/-- The same for `iptables`. -/
theorem World.system_iptables (henv : env.IptablesHealthy) {op : IptablesOp} {chain : Chain}
    {dev : String} (hfits : (Cmd.iptables op chain dev).Fits) :
    (w.system env (.iptables op chain dev)).1.iptables =
        (execIptables w.iptables op (chain, dev)).getD w.iptables ∧
      (w.system env (.iptables op chain dev)).2 =
        (execIptables w.iptables op (chain, dev)).isSome := by
  have hipt : w.ipt env op chain dev = ((execIptables w.iptables op (chain, dev)).getD w.iptables,
      (execIptables w.iptables op (chain, dev)).isSome) := by
    rw [World.ipt, if_neg (not_not_intro hfits), henv w.log op chain dev]
    cases execIptables w.iptables op (chain, dev) <;> rfl
  simp only [World.system, hipt, and_self]

/-- A command of a history that fits has fitted. -/
theorem World.Fits.of_system (h : (w.system env c).1.Fits) : c.Fits :=
  have hmem : c ∈ (w.system env c).1.log := by
    rw [World.log_system]
    exact List.mem_append_right _ (List.mem_singleton_self c)
  h c hmem

theorem World.Ran.refl (w : World) : w.Ran P w := ⟨[], by simp, nofun⟩

theorem World.Ran.trans (h₁ : w.Ran P w₁) (h₂ : w₁.Ran P w₂) : w.Ran P w₂ := by
  obtain ⟨cmds₁, hlog₁, hcmds₁⟩ := h₁
  obtain ⟨cmds₂, hlog₂, hcmds₂⟩ := h₂
  refine ⟨cmds₁ ++ cmds₂, by rw [hlog₂, hlog₁, List.append_assoc], fun c hc => ?_⟩
  exact (List.mem_append.mp hc).elim (hcmds₁ c) (hcmds₂ c)

theorem World.Ran.of_system (env : Env) (w : World) (hc : P c) : w.Ran P (w.system env c).1 :=
  ⟨[c], World.log_system env w c, by simpa using hc⟩

theorem World.Ran.fits (h : w.Ran Cmd.Fits w₁) (hw : w.Fits) : w₁.Fits := by
  obtain ⟨cmds, hlog, hfits⟩ := h
  intro c hc
  rw [hlog] at hc
  exact (List.mem_append.mp hc).elim (hw c) (hfits c)

/-- One command among others that have `P`. -/
theorem World.ran_system_iff (h₁ : w.Ran P w₁) (h₂ : (w₁.system env c).1.Ran P w₂) :
    w.Ran P w₂ ↔ P c := by
  constructor
  · rintro ⟨cmds, hlog, hcmds⟩
    obtain ⟨cmds₁, hlog₁, -⟩ := h₁
    obtain ⟨cmds₂, hlog₂, -⟩ := h₂
    rw [hlog₂, World.log_system, hlog₁, List.append_assoc, List.append_assoc] at hlog
    refine hcmds c ?_
    rw [← List.append_cancel_left hlog]
    simp
  · exact fun hc => (h₁.trans (.of_system env w₁ hc)).trans h₂

theorem enablePortInIptables_iptablesOnly (w : World) (dev : String) :
    w.IptablesOnly (enablePortInIptables env w dev) :=
  (w.iptablesOnly_system env .delete .input dev).trans (World.iptablesOnly_system ..)

theorem disablePortInIptables_iptablesOnly (w : World) (dev : String) :
    w.IptablesOnly (disablePortInIptables env w dev) := by
  have hcheck := w.iptablesOnly_system env .check .input dev
  simp only [disablePortInIptables]
  split
  · exact hcheck
  · exact (hcheck.trans (World.iptablesOnly_system ..)).trans (World.iptablesOnly_system ..)

theorem l3statsXtablesRules_iptablesOnly (w : World) (dev : String) (create : Bool) :
    w.IptablesOnly (l3statsXtablesRules w dev create) := ⟨List.prefix_refl _, rfl⟩

end World

/-! ## `del-port` -/

section DelPort

variable {env : Env} {w : World} {name : String}

/-- Whether or not the port was there, it is not there any more. -/
theorem World.asic_delPort (henv : env.Healthy) (hfits : (Cmd.delPort name).Fits) :
    (w.system env (.delPort name)).1.asic =
      { w.asic with ports := Function.update w.asic.ports name none } := by
  have hovs : (Cmd.delPort name).IsOvs := trivial
  rw [(World.system_ovs henv hovs hfits).1]
  cases hname : w.asic.ports name with
  | some columns => simp [Asic.exec, hname]
  | none =>
    have hsame : Function.update w.asic.ports name none = w.asic.ports :=
      Function.update_eq_self_iff.mpr hname.symm
    simp [Asic.exec, hname, hsame]

end DelPort

/-! ## Command texts -/

theorem strlen_printed_le (head : String) (pieces : List String) :
    strlen head ≤ strlen (printed head pieces) := by
  induction pieces generalizing head with
  | nil => exact le_rfl
  | cons piece pieces ih =>
    refine le_trans ?_ (ih (head ++ piece))
    simp

theorem foldlM_appendText {pieces : List String} {text : String}
    (h : strlen (printed text pieces) ≤ maxCmdLen) :
    pieces.foldlM appendText text = .ok (printed text pieces) := by
  induction pieces generalizing text with
  | nil => rfl
  | cons piece pieces ih =>
    have htext := le_trans (strlen_printed_le text (piece :: pieces)) h
    rw [List.foldlM_cons, appendText, if_pos htext]
    exact ih h

theorem appendAsserted_eq {text piece : String} (h : strlen (text ++ piece) ≤ maxCmdLen) :
    appendAsserted text piece = .ok (text ++ piece) := by
  have htext : strlen text ≤ maxCmdLen := le_trans (by simp) h
  simp only [appendAsserted, appendText, if_pos htext]
  exact if_pos h

/-- The pieces are printed one after the other if there is room for all of them. -/
theorem foldlM_appendAsserted {pieces : List String} {text : String}
    (h : strlen (printed text pieces) ≤ maxCmdLen) :
    pieces.foldlM appendAsserted text = .ok (printed text pieces) := by
  induction pieces generalizing text with
  | nil => rfl
  | cons piece pieces ih =>
    have hpiece := le_trans (strlen_printed_le (text ++ piece) pieces) h
    rw [List.foldlM_cons, appendAsserted_eq hpiece]
    exact ih h

/-- Printing goes wrong only by running out of space. -/
theorem appendAsserted_ensures (text piece : String) :
    (appendAsserted text piece).Ensures Fault.OfInput
      fun text' => text' = text ++ piece ∧ strlen text' ≤ maxCmdLen := by
  simp only [appendAsserted, appendText]
  split
  · simp only [bind, Except.bind]
    split
    · exact ⟨rfl, ‹_›⟩
    · exact .inl rfl
  · exact .inl rfl

theorem foldlM_appendAsserted_ensures (text : String) (pieces : List String) :
    (pieces.foldlM appendAsserted text).Ensures Fault.OfInput (· = printed text pieces) := by
  induction pieces generalizing text with
  | nil => rfl
  | cons piece pieces ih =>
    rw [List.foldlM_cons]
    refine (appendAsserted_ensures text piece).bind fun text' h => ?_
    rw [h.1]
    exact ih _

/-! ## Bitmaps -/

theorem mem_vids {test : ℕ → Bool} {i : ℕ} : i ∈ vids test ↔ 1 ≤ i ∧ i ≤ 4094 ∧ test i = true := by
  simp only [vids, List.mem_filter, List.mem_range'_1, and_assoc]
  refine and_congr_right fun _ => and_congr_left fun _ => ?_
  omega

theorem bitmapIsSet_ensures (bmp : VlanBitmap) (i : ℤ) :
    (bitmapIsSet bmp i).Ensures Fault.OfInput
      fun b => b = decide (i.toNat ∈ bmp) ∧ 0 ≤ i ∧ i < vlanBitmapSize := by
  rw [bitmapIsSet]
  split
  · exact ⟨rfl, ‹_›⟩
  · exact .inr rfl

end ContainerPlugin.Ofproto
