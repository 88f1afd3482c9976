import ContainerPlugin.Lib.Grep
import ContainerPlugin.Netdev.IptableStats
import ContainerPlugin.Sflow.Reconfigure

/-!
# The sFlow counters of a port

`netdev_sim_get_iptable_stats` finds the rules of a port in the output of `iptables` with a pattern
that is made of a letter for the direction, a blank and the name of the port.
-/

namespace ContainerPlugin.Sflow

open Ofproto Netdev Grep

/-- A rule and what it has counted. -/
structure CountedRule where
  rule : SflowRule
  pkts : ℕ
  bytes : ℕ

/-- What `iptables -S -v` prints of a rule behind the port. -/
def CountedRule.options (probability : BitVec 32 → String) (r : CountedRule) : List (List Char) :=
  ["-m", "statistic", "--mode", "random", "--probability", probability r.rule.samplingRate, "-c",
    toString r.pkts, toString r.bytes, "-j", "NFLOG", "--nflog-prefix", "SFLOW", "--nflog-group",
    toString hostsflowNflogGrp].map String.toList

def CountedRule.words (probability : BitVec 32 → String) (r : CountedRule) : List (List Char) :=
  ["-A", chainName r.rule.chain, filterFlag r.rule.filter, r.rule.port].map String.toList ++
    r.options probability

def CountedRule.line (probability : BitVec 32 → String) (r : CountedRule) : List Char :=
  [' '].intercalate (r.words probability)

/-- `awk -F ' ' '\x7bprint $n\x7d'` -/
def awkField (n : ℕ) (line : List Char) : List Char :=
  ((line.splitOn ' ').filter (· ≠ []))[n - 1]?.getD []

/-- `awk '\x7b sum+=$1\x7d END \x7bprint sum\x7d'`: without a line there is nothing to print. -/
def awkSum (fields : List (List Char)) : List Char :=
  if fields = [] then ['\n']
  else sumLine ((fields.map fun field => (Words.parseNat field).getD 0).sum)

def ifFilter (ingress : Bool) : IfFilter := if ingress then .i else .o

/-- `'%c %s'` -/
def portPattern (ingress : Bool) (port : String) : List Char :=
  (if ingress then 'i' else 'o') :: ' ' :: port.toList

/-- What the command for a field prints if `iptables` prints the lines. -/
def statsOutput (lines : List (List Char)) (ingress : Bool) (port : String) (field : ℕ) :
    List Char :=
  awkSum (((lines.filter (selects "SFLOW".toList)).filter (selects (portPattern ingress port))).map
    (awkField field))

/-- `netdev_sim_get_iptable_stats` with reads that succeed -/
def getIptableStats (lines : List (List Char)) (port : String) (ingress : Bool) : UInt64 × UInt64 :=
  netdevSimGetIptableStats (some (statsOutput lines ingress port 12))
    (some (statsOutput lines ingress port 13))

/-! ## Names -/

/-- The shell passes the name on as it is, and for `grep` only the dots of it are special. -/
def PlainName (name : String) : Prop :=
  name.toList ≠ [] ∧ ∀ c ∈ name.toList, c.isWhitespace = false ∧ c ∉ ['*', '[', '\\', '$', '\'']

instance (name : String) : Decidable (PlainName name) :=
  @instDecidableAnd _ _ _ (List.decidableBAll _ _)

/-- A decimal fraction. -/
def IsFraction (s : String) : Prop := s.toList ≠ [] ∧ ∀ c ∈ s.toList, c.isDigit ∨ c = '.'

instance (s : String) : Decidable (IsFraction s) := @instDecidableAnd _ _ _ (List.decidableBAll _ _)

/-- A rule of the port and the direction. -/
def CountedRule.Own (ingress : Bool) (port : String) (r : CountedRule) : Prop :=
  r.rule.filter = ifFilter ingress ∧ r.rule.port = port

instance (ingress : Bool) (port : String) (r : CountedRule) : Decidable (r.Own ingress port) :=
  inferInstanceAs (Decidable (_ ∧ _))

/-- The name matches what stands behind the letter of the direction: the name of the rule's own port
and the options, or the options alone if that name ends with the letter. -/
def CountedRule.Matched (probability : BitVec 32 → String) (ingress : Bool) (port : String)
    (r : CountedRule) : Prop :=
  (r.rule.filter = ifFilter ingress ∧
    matchesHere port.toList ([' '].intercalate (r.rule.port.toList :: r.options probability)) = true) ∨
  (r.rule.port.toList.getLast? = some (if ingress then 'i' else 'o') ∧
    matchesHere port.toList ([' '].intercalate (r.options probability)) = true)

instance (probability : BitVec 32 → String) (ingress : Bool) (port : String) (r : CountedRule) :
    Decidable (r.Matched probability ingress port) := inferInstanceAs (Decidable (_ ∨ _))

/-! ## Lines -/

section Lines

variable {probability : BitVec 32 → String} {r : CountedRule} {port : String} {ingress : Bool}

theorem PlainName.blank_not_mem (h : PlainName port) : ' ' ∉ port.toList := by
  intro hmem
  have hblank := (h.2 ' ' hmem).1
  revert hblank
  decide

theorem repr_word {d : Char} (hd : d.isDigit = false) (n : ℕ) :
    n.repr.toList ≠ [] ∧ ' ' ∉ n.repr.toList ∧ n.repr.toList.getLast? ≠ some d := by
  refine ⟨?_, Words.notMem_repr rfl n, ?_⟩
  · rw [Nat.toList_repr]
    exact Nat.toDigits_ne_nil
  · intro hlast
    exact Words.notMem_repr hd n (List.mem_of_getLast? hlast)

theorem IsFraction.word {s : String} {d : Char} (h : IsFraction s) (hd : d.isDigit = false)
    (hdot : d ≠ '.') : s.toList ≠ [] ∧ ' ' ∉ s.toList ∧ s.toList.getLast? ≠ some d := by
  have hmem : ∀ c, c.isDigit = false → c ≠ '.' → c ∉ s.toList := by
    intro c hc hdot hmem
    rcases h.2 c hmem with hdigit | hdot'
    · rw [hc] at hdigit
      cases hdigit
    · exact hdot hdot'
  refine ⟨h.1, hmem ' ' rfl (by decide), fun hlast => ?_⟩
  exact hmem d hd hdot (List.mem_of_getLast? hlast)

/-- No word behind the port ends with a letter of a direction. -/
theorem CountedRule.mem_options (hprob : IsFraction (probability r.rule.samplingRate)) :
    ∀ w ∈ r.options probability, w ≠ [] ∧ ' ' ∉ w ∧ w.getLast? ≠ some 'i' ∧ w.getLast? ≠ some 'o' := by
  have hi := hprob.word (d := 'i') rfl (by decide)
  have ho := hprob.word (d := 'o') rfl (by decide)
  have hpkts := repr_word (d := 'i') rfl r.pkts
  have hpkts' := repr_word (d := 'o') rfl r.pkts
  have hbytes := repr_word (d := 'i') rfl r.bytes
  have hbytes' := repr_word (d := 'o') rfl r.bytes
  simp only [CountedRule.options, List.map_cons, List.map_nil, List.forall_mem_cons]
  refine ⟨by decide, by decide, by decide, by decide, by decide, ?_, by decide, ?_, ?_, by decide,
    by decide, by decide, by decide, by decide, by decide, ?_⟩
  · exact ⟨hi.1, hi.2.1, hi.2.2, ho.2.2⟩
  · exact ⟨hpkts.1, hpkts.2.1, hpkts.2.2, hpkts'.2.2⟩
  · exact ⟨hbytes.1, hbytes.2.1, hbytes.2.2, hbytes'.2.2⟩
  · exact fun _ h => absurd h List.not_mem_nil

theorem CountedRule.mem_words (hport : PlainName r.rule.port)
    (hprob : IsFraction (probability r.rule.samplingRate)) :
    ∀ w ∈ r.words probability, w ≠ [] ∧ ' ' ∉ w := by
  intro w hw
  rcases List.mem_append.mp hw with hw | hw
  · have hchain : (chainName r.rule.chain).toList ≠ [] ∧ ' ' ∉ (chainName r.rule.chain).toList := by
      cases r.rule.chain <;> decide
    have hflag : (filterFlag r.rule.filter).toList ≠ [] ∧
        ' ' ∉ (filterFlag r.rule.filter).toList := by
      cases r.rule.filter <;> decide
    have hfirst : ∀ w ∈ ["-A", chainName r.rule.chain, filterFlag r.rule.filter,
        r.rule.port].map String.toList, w ≠ [] ∧ ' ' ∉ w := by
      simp only [List.map_cons, List.map_nil, List.forall_mem_cons]
      exact ⟨by decide, hchain, hflag, ⟨hport.1, hport.blank_not_mem⟩,
        fun _ h => absurd h List.not_mem_nil⟩
    exact hfirst w hw
  · obtain ⟨hne, hblank, -⟩ := CountedRule.mem_options hprob w hw
    exact ⟨hne, hblank⟩

/-- The pattern finds the lines of the rules that it matches behind the letter. -/
theorem CountedRule.selects_line_iff (hport : PlainName r.rule.port)
    (hprob : IsFraction (probability r.rule.samplingRate)) :
    selects (portPattern ingress port) (r.line probability) = true ↔
      r.Matched probability ingress port := by
  let d : Char := if ingress then 'i' else 'o'
  have hd : d = 'i' ∨ d = 'o' := by cases ingress <;> simp [d]
  have hdot : d ≠ '.' := by rcases hd with hd | hd <;> rw [hd] <;> decide
  have hblank : d ≠ ' ' := by rcases hd with hd | hd <;> rw [hd] <;> decide
  have hchain : (chainName r.rule.chain).toList.getLast? ≠ some d ∧
      ' ' ∉ (chainName r.rule.chain).toList := by
    rcases hd with hd | hd <;> rw [hd] <;> cases r.rule.chain <;> decide
  have hcommand : "-A".toList.getLast? ≠ some d := by
    rcases hd with hd | hd <;> rw [hd] <;> decide
  have hflag : (filterFlag r.rule.filter).toList.getLast? = some d ↔
      r.rule.filter = ifFilter ingress := by
    cases ingress <;> cases r.rule.filter <;> decide
  have hflagBlank : ' ' ∉ (filterFlag r.rule.filter).toList := by
    cases r.rule.filter <;> decide
  -- behind the port, no word ends with the letter
  have hoptions : selects (d :: ' ' :: port.toList) ([' '].intercalate (r.options probability)) =
      false := by
    apply selects_words_eq_false hdot hblank
    intro w hw
    obtain ⟨-, hw, hi, ho⟩ := CountedRule.mem_options hprob w hw
    refine ⟨hw, ?_⟩
    rcases hd with hd | hd <;> rw [hd]
    · exact hi
    · exact ho
  have hne : r.options probability ≠ [] := List.cons_ne_nil _ _
  have hline : r.line probability = [' '].intercalate ("-A".toList ::
      (chainName r.rule.chain).toList :: (filterFlag r.rule.filter).toList ::
      r.rule.port.toList :: r.options probability) := rfl
  rw [portPattern, hline, selects_words hdot hblank (by decide) (List.cons_ne_nil _ _),
    selects_words hdot hblank hchain.2 (List.cons_ne_nil _ _),
    selects_words hdot hblank hflagBlank (List.cons_ne_nil _ _),
    selects_words hdot hblank hport.blank_not_mem hne, hoptions, hflag]
  simp only [hcommand, hchain.1, false_and, false_or, Bool.false_eq_true, or_false]
  rfl

/-- The rules of the port itself are found. -/
theorem CountedRule.Own.matched (h : r.Own ingress port) : r.Matched probability ingress port := by
  refine .inl ⟨h.1, ?_⟩
  have hne : r.options probability ≠ [] := List.cons_ne_nil _ _
  rw [h.2, List.intercalate_cons_of_ne_nil hne, List.append_assoc]
  exact matchesHere_append _ _

theorem CountedRule.selects_sflow (r : CountedRule) :
    selects "SFLOW".toList (r.line probability) = true := by
  have hwords : r.words probability = (r.words probability).take 16 ++
      ["SFLOW", "--nflog-group", toString hostsflowNflogGrp].map String.toList := rfl
  rw [CountedRule.line, hwords]
  apply selects_append_words
  exact selects_of_matchesHere (matchesHere_append _ _)

/-- The fields with the counters. -/
theorem CountedRule.awkField_line (hport : PlainName r.rule.port)
    (hprob : IsFraction (probability r.rule.samplingRate)) (n : ℕ) :
    awkField n (r.line probability) = (r.words probability)[n - 1]?.getD [] := by
  have hwords := CountedRule.mem_words hport hprob
  have hsplit : (r.line probability).splitOn ' ' = r.words probability :=
    List.splitOn_intercalate ' ' (fun w hw => (hwords w hw).2) (List.cons_ne_nil _ _)
  have hfilter : (r.words probability).filter (· ≠ []) = r.words probability :=
    List.filter_eq_self.mpr fun w hw => decide_eq_true (hwords w hw).1
  rw [awkField, hsplit, hfilter]

theorem CountedRule.pkts_field (hport : PlainName r.rule.port)
    (hprob : IsFraction (probability r.rule.samplingRate)) :
    (Words.parseNat (awkField 12 (r.line probability))).getD 0 = r.pkts := by
  rw [CountedRule.awkField_line hport hprob]
  exact congrArg (Option.getD · 0) (Words.parseNat_repr r.pkts)

theorem CountedRule.bytes_field (hport : PlainName r.rule.port)
    (hprob : IsFraction (probability r.rule.samplingRate)) :
    (Words.parseNat (awkField 13 (r.line probability))).getD 0 = r.bytes := by
  rw [CountedRule.awkField_line hport hprob]
  exact congrArg (Option.getD · 0) (Words.parseNat_repr r.bytes)

end Lines

/-! ## Sums -/

theorem sum_filter_eq {α : Type*} {P Q : α → Prop} [DecidablePred P] [DecidablePred Q]
    (hPQ : ∀ x, Q x → P x) (f : α → ℕ) (l : List α) :
    ((l.filter P).map f).sum =
      ((l.filter Q).map f).sum + ((l.filter fun x => P x ∧ ¬ Q x).map f).sum := by
  induction l with
  | nil => rfl
  | cons x l ih =>
    simp only [List.filter_cons]
    by_cases hQ : Q x
    · simp only [hPQ x hQ, hQ, decide_true, if_true, not_true, and_false, decide_false,
        Bool.false_eq_true, if_false, List.map_cons, List.sum_cons, ih]
      omega
    · by_cases hP : P x
      · simp only [hP, hQ, decide_true, if_true, not_false_iff, and_self, decide_false,
          Bool.false_eq_true, if_false, List.map_cons, List.sum_cons, ih]
        omega
      · simp only [hP, hQ, decide_false, Bool.false_eq_true, if_false, false_and, ih]

/-- A sum over more elements is the same exactly if the additional ones are zero. -/
theorem sum_filter_eq_iff {α : Type*} {P Q : α → Prop} [DecidablePred P] [DecidablePred Q]
    (hPQ : ∀ x, Q x → P x) (f : α → ℕ) (l : List α) :
    ((l.filter P).map f).sum = ((l.filter Q).map f).sum ↔ ∀ x ∈ l, P x → ¬ Q x → f x = 0 := by
  rw [sum_filter_eq hPQ, Nat.add_eq_left, List.sum_eq_zero_iff_forall_eq_nat]
  constructor
  · intro h x hx hP hQ
    apply h
    exact List.mem_map.mpr ⟨x, List.mem_filter.mpr ⟨hx, decide_eq_true ⟨hP, hQ⟩⟩, rfl⟩
  · intro h n hn
    obtain ⟨x, hx, rfl⟩ := List.mem_map.mp hn
    obtain ⟨hx, hPQ⟩ := List.mem_filter.mp hx
    obtain ⟨hP, hQ⟩ := of_decide_eq_true hPQ
    exact h x hx hP hQ

theorem atoll_awkSum {fields : List (List Char)}
    (h : (fields.map fun field => (Words.parseNat field).getD 0).sum < 10 ^ 15) :
    atoll (fgetsBuffer (awkSum fields)) =
      (fields.map fun field => (Words.parseNat field).getD 0).sum := by
  rw [awkSum]
  split
  case isTrue hnil =>
    rw [hnil]
    decide
  case isFalse => exact atoll_sumLine h

/-! ## Attribution -/

/-- What `iptables -S -v` prints: lines without `SFLOW` and the rules. -/
def tableLines (probability : BitVec 32 → String) (others : List (List Char))
    (table : List CountedRule) : List (List Char) :=
  others ++ table.map (·.line probability)

/-- The counters of the port and the direction are the sums over its own rules. -/
def Attributed (lines : List (List Char)) (table : List CountedRule) (port : String)
    (ingress : Bool) : Prop :=
  getIptableStats lines port ingress =
    (.ofNat (((table.filter (·.Own ingress port)).map (·.pkts)).sum),
      .ofNat (((table.filter (·.Own ingress port)).map (·.bytes)).sum))

instance (lines : List (List Char)) (table : List CountedRule) (port : String) (ingress : Bool) :
    Decidable (Attributed lines table port ingress) := inferInstanceAs (Decidable (_ = _))

/-- What the output is assumed to look like: the names are plain, the probabilities are decimal
fractions, and the other lines have no `SFLOW` in them. -/
structure WellPrinted (probability : BitVec 32 → String) (others : List (List Char))
    (table : List CountedRule) (port : String) : Prop where
  port : PlainName port
  ports : ∀ r ∈ table, PlainName r.rule.port
  probability : ∀ r ∈ table, IsFraction (probability r.rule.samplingRate)
  others : ∀ line ∈ others, selects "SFLOW".toList line = false

section Attribution

variable {probability : BitVec 32 → String} {others : List (List Char)} {table : List CountedRule}
  {port : String} {ingress : Bool}

/-- What is found are the lines of the rules that the pattern matches. -/
theorem WellPrinted.found (h : WellPrinted probability others table port) :
    (((tableLines probability others table).filter (selects "SFLOW".toList)).filter
        (selects (portPattern ingress port))) =
      (table.filter (·.Matched probability ingress port)).map (·.line probability) := by
  have hothers : others.filter (selects "SFLOW".toList) = [] :=
    List.filter_eq_nil_iff.mpr fun line hline => Bool.eq_false_iff.mp (h.others line hline)
  have hrules : (table.map (·.line probability)).filter (selects "SFLOW".toList) =
      table.map (·.line probability) := by
    apply List.filter_eq_self.mpr
    intro line hline
    obtain ⟨r, -, rfl⟩ := List.mem_map.mp hline
    exact r.selects_sflow
  rw [tableLines, List.filter_append, hothers, hrules, List.nil_append, List.filter_map]
  congr 1
  apply List.filter_congr
  intro r hr
  rw [Function.comp_apply, Bool.eq_iff_iff, decide_eq_true_iff]
  exact CountedRule.selects_line_iff (h.ports r hr) (h.probability r hr)

/-- The sum of a field over the rules that the pattern matches. -/
theorem WellPrinted.sum_field (h : WellPrinted probability others table port) {n : ℕ}
    {f : CountedRule → ℕ}
    (hf : ∀ r ∈ table, (Words.parseNat (awkField n (r.line probability))).getD 0 = f r)
    (hfits : ((table.filter (·.Matched probability ingress port)).map f).sum < 10 ^ 15) :
    atoll (fgetsBuffer (statsOutput (tableLines probability others table) ingress port n)) =
      ((table.filter (·.Matched probability ingress port)).map f).sum := by
  have hsum : (((table.filter (·.Matched probability ingress port)).map
      fun r => awkField n (r.line probability)).map
        fun field => (Words.parseNat field).getD 0) =
      (table.filter (·.Matched probability ingress port)).map f := by
    rw [List.map_map]
    exact List.map_congr_left fun r hr => hf r (List.mem_of_mem_filter hr)
  rw [statsOutput, h.found, List.map_map, Function.comp_def, atoll_awkSum, hsum]
  rw [hsum]
  exact hfits

/-- The rules that the pattern matches. -/
def matchedRules (probability : BitVec 32 → String) (table : List CountedRule) (port : String)
    (ingress : Bool) : List CountedRule := table.filter (·.Matched probability ingress port)

/-- The counters are those of the port exactly if no rule of another port or direction that the name
matches has counted anything. -/
theorem sflow_counters_attributed_iff (h : WellPrinted probability others table port)
    (hpkts : ((matchedRules probability table port ingress).map (·.pkts)).sum < 10 ^ 15)
    (hbytes : ((matchedRules probability table port ingress).map (·.bytes)).sum < 10 ^ 15) :
    Attributed (tableLines probability others table) table port ingress ↔
      ∀ r ∈ table, r.Matched probability ingress port → ¬ r.Own ingress port →
        r.pkts = 0 ∧ r.bytes = 0 := by
  have hown : ∀ r : CountedRule, r.Own ingress port → r.Matched probability ingress port :=
    fun r hr => hr.matched
  have hsum : ∀ f : CountedRule → ℕ,
      ((matchedRules probability table port ingress).map f).sum < 10 ^ 15 →
      (UInt64.ofNat ((matchedRules probability table port ingress).map f).sum =
          .ofNat ((table.filter (·.Own ingress port)).map f).sum ↔
        ∀ r ∈ table, r.Matched probability ingress port → ¬ r.Own ingress port → f r = 0) := by
    intro f hf
    have hle := sum_filter_eq hown f table
    rw [← sum_filter_eq_iff hown f table, ← UInt64.toNat_inj, toNat_ofNat_of_fits hf,
      toNat_ofNat_of_fits (by rw [matchedRules] at hf; omega)]
    rfl
  rw [Attributed, getIptableStats, netdevSimGetIptableStats,
    h.sum_field (fun r hr => CountedRule.pkts_field (h.ports r hr) (h.probability r hr)) hpkts,
    h.sum_field (fun r hr => CountedRule.bytes_field (h.ports r hr) (h.probability r hr)) hbytes,
    Prod.mk.injEq]
  have hpkts := hsum _ hpkts
  have hbytes := hsum _ hbytes
  rw [matchedRules] at hpkts hbytes
  rw [hpkts, hbytes]
  constructor
  · intro hzero r hr hmatched hother
    exact ⟨hzero.1 r hr hmatched hother, hzero.2 r hr hmatched hother⟩
  · intro hzero
    exact ⟨fun r hr hmatched hother => (hzero r hr hmatched hother).1,
      fun r hr hmatched hother => (hzero r hr hmatched hother).2⟩

/-- A name without dots matches the names that it is a prefix of. -/
theorem CountedRule.matched_iff_prefix {r : CountedRule} (hport : PlainName port)
    (hdots : '.' ∉ port.toList) (hhyphen : port.toList.head? ≠ some '-') :
    r.Matched probability ingress port ↔
      r.rule.filter = ifFilter ingress ∧ port.toList <+: r.rule.port.toList := by
  have hoptions : ¬ port.toList <+: [' '].intercalate (r.options probability) := by
    intro hprefix
    obtain ⟨c, cs, hcs⟩ := List.exists_cons_of_ne_nil hport.1
    rw [hcs] at hprefix hhyphen
    obtain ⟨rest, hrest⟩ := hprefix
    exact hhyphen (congrArg List.head? hrest)
  have hne : r.options probability ≠ [] := List.cons_ne_nil _ _
  rw [CountedRule.Matched, matchesHere_iff_prefix hdots, matchesHere_iff_prefix hdots,
    List.intercalate_cons_of_ne_nil hne, List.append_assoc, List.singleton_append,
    prefix_append_cons_iff hport.blank_not_mem]
  simp [hoptions]

end Attribution

/-! ## Two ports -/

/-- The rules are those that `sflow_iptable_add` installs for the names in a machine without rules. -/
def InstalledFor (env : Env) (cfg : SimSflowCfg) (w : World) (names : List String)
    (table : List CountedRule) : Prop :=
  w.machine.rules = [] ∧
    table.map (·.rule) = (names.foldl (sflowIptableAdd env cfg) w).machine.rules

/-- The rules of the ports, with 5 packets of 100 bytes in the first chain of each. -/
def countedTable (ports : List String) : List CountedRule :=
  (ports.reverse.flatMap fun port => (ruleSet 1000 port).reverse).map fun rule =>
    if rule.chain = .input then ⟨rule, 5, 500⟩ else ⟨rule, 0, 0⟩

def millesimal : BitVec 32 → String := fun _ => "0.00100000005"

/-- Neither of two names is a prefix of the other. -/
theorem sflow_counters_attributed_two_ports :
    Attributed (tableLines millesimal ["-P INPUT ACCEPT -c 7 700".toList] (countedTable ["1", "2"]))
      (countedTable ["1", "2"]) "1" true := by
  have hprinted : WellPrinted millesimal ["-P INPUT ACCEPT -c 7 700".toList]
      (countedTable ["1", "2"]) "1" :=
    ⟨by decide, by decide +kernel, by decide +kernel, by decide⟩
  exact (sflow_counters_attributed_iff hprinted (by decide +kernel) (by decide +kernel)).mpr
    (by decide +kernel)

/-- The packets of port 10 are counted for port 1. -/
theorem sflow_counters_of_longer_name : ¬ ∀ (env : Env) (cfg : SimSflowCfg) (w : World)
    (names : List String) (probability : BitVec 32 → String) (others : List (List Char))
    (table : List CountedRule), env.Healthy → names.Nodup → InstalledFor env cfg w names table →
    ∀ port ∈ names, WellPrinted probability others table port → ∀ ingress,
      Attributed (tableLines probability others table) table port ingress := by
  intro h
  have hinstalled : InstalledFor sortedEnv (rememberingCfg []) emptyWorld ["1", "10"]
      (countedTable ["1", "10"]) := ⟨rfl, by decide +kernel⟩
  have hprinted : WellPrinted millesimal [] (countedTable ["1", "10"]) "1" :=
    ⟨by decide, by decide +kernel, by decide +kernel, by decide⟩
  have hattributed := h sortedEnv (rememberingCfg []) emptyWorld ["1", "10"] millesimal []
    (countedTable ["1", "10"]) (fun _ _ => rfl) (by decide) hinstalled "1" (by decide) hprinted true
  revert hattributed
  decide +kernel

end ContainerPlugin.Sflow
