import Mathlib.Data.List.Induction
import Mathlib.Data.UInt
import Mathlib.Logic.Function.Basic
import Mathlib.Logic.Relation
import ContainerPlugin.Lib.Outcome
import ContainerPlugin.Lib.Words
import ContainerPlugin.Netdev.L3Rules

/-!
# Reading the L3 statistics

`netdev_sim_get_kernel_l3_stats` takes the lines of an interface in the order in which the tables are
printed for unicast, multicast, unicast and multicast packets, without looking at the types.
-/

namespace ContainerPlugin.Netdev

/-! ## The reader -/

structure XtCounters where
  packets : UInt64
  bytes : UInt64
  deriving DecidableEq

/-- What is printed of a table, in this order. -/
def XtablesWorld.listed (w : XtablesWorld) (x : Xtables) : List Rule :=
  w.rules x .input ++ w.rules x .forward ++ w.rules x .output

/-- `$10,$11` -/
def counterLine (c : XtCounters) : List Char :=
  c.packets.toNat.repr.toList ++ ' ' :: c.bytes.toNat.repr.toList

/-- The type of packets of the rules with `$3 == "-i" && $4 == IF && $6 == "pkttype"`, or `-o`. -/
def awkMatch (ifName : String) (filter : IfFilter) : Rule → Option PktType
  | .pkttype f name type => if f = filter ∧ name = ifName then some type else none
  | .other _ => none

def awkLines (ifName : String) (filter : IfFilter) (listing : List (Rule × XtCounters)) :
    List (List Char) :=
  (listing.filter fun r => (awkMatch ifName filter r.1).isSome).map fun r => counterLine r.2

/-- `netdev_sim_parse_iptables_stats_line`, and the lines that are left. -/
def netdevSimParseIptablesStatsLine : List (List Char) → XtCounters × List (List Char)
  | [] => (⟨0, 0⟩, [])
  | line :: fp =>
    match Words.parseNats ' ' line with
    | some (packets :: bytes :: _) => (⟨.ofNat packets, .ofNat bytes⟩, fp)
    | _ => (⟨0, 0⟩, fp)

/-- `struct kernel_l3_stats` -/
structure KernelL3Stats where
  ucPackets : UInt64
  ucBytes : UInt64
  mcPackets : UInt64
  mcBytes : UInt64

/-- `netdev_sim_parse_xtables_l3_stats`; the pipe is `none` if `popen` fails. -/
def netdevSimParseXtablesL3Stats (pipe : Option (List (List Char))) : Option KernelL3Stats := do
  let fp ← pipe
  let (uc, fp) := netdevSimParseIptablesStatsLine fp
  let (mc, fp) := netdevSimParseIptablesStatsLine fp
  let (ucForward, fp) := netdevSimParseIptablesStatsLine fp
  let (mcForward, _) := netdevSimParseIptablesStatsLine fp
  some ⟨uc.packets + ucForward.packets, uc.bytes + ucForward.bytes,
    mc.packets + mcForward.packets, mc.bytes + mcForward.bytes⟩

def KernelL3Stats.get (s : KernelL3Stats) : PktType → XtCounters
  | .unicast => ⟨s.ucPackets, s.ucBytes⟩
  | .multicast => ⟨s.mcPackets, s.mcBytes⟩

/-- The prefixes of the L3 members of `struct netdev_stats`. -/
inductive L3Group where
  | ipv4
  | ipv6
  | l3
  deriving DecidableEq

/-- The L3 members of `struct netdev_stats`. -/
abbrev L3Members := L3Group → PktType → IfFilter → XtCounters

/-- The members of a group and a direction get what was read. -/
def L3Members.set (l3 : L3Members) (group : L3Group) (filter : IfFilter) (stats : KernelL3Stats) :
    L3Members :=
  fun g type f => if g = group ∧ f = filter then stats.get type else l3 g type f

/-- The part of `netdev_sim_get_kernel_l3_stats` about a group and a direction. An error has the
members as they are when the function returns. -/
def readL3Members (pipe : Option (List (List Char))) (group : L3Group) (filter : IfFilter)
    (l3 : L3Members) : Except L3Members L3Members :=
  match netdevSimParseXtablesL3Stats pipe with
  | none => .error l3
  | some stats => .ok (l3.set group filter stats)

/-- `netdev_sim_get_kernel_l3_stats` with the members it is given -/
def netdevSimGetKernelL3Stats (popen : Xtables → IfFilter → Option (List (List Char)))
    (l3 : L3Members) : Except L3Members L3Members := do
  let l3 ← readL3Members (popen .iptables .i) .ipv4 .i l3
  let l3 ← readL3Members (popen .iptables .o) .ipv4 .o l3
  let l3 ← readL3Members (popen .ip6tables .i) .ipv6 .i l3
  let l3 ← readL3Members (popen .ip6tables .o) .ipv6 .o l3
  .ok fun group type filter =>
    if group = .l3 then
      ⟨(l3 .ipv4 type filter).packets + (l3 .ipv6 type filter).packets,
        (l3 .ipv4 type filter).bytes + (l3 .ipv6 type filter).bytes⟩
    else l3 group type filter

/-! ## Attribution -/

def totals (cs : List XtCounters) : XtCounters := ⟨(cs.map (·.packets)).sum, (cs.map (·.bytes)).sum⟩

/-- The counters of the rules of the interface for a type of packets and a direction. -/
def ownCounters (ifName : String) (type : PktType) (filter : IfFilter)
    (listing : List (Rule × XtCounters)) : List XtCounters :=
  (listing.filter (·.1 = .pkttype filter ifName type)).map (·.2)

/-- Every member becomes the sum over the rules that it is about. -/
def L3Attributed (ifName : String) (listing : Xtables → List (Rule × XtCounters)) : Prop :=
  ∀ l3, ∃ stats,
    netdevSimGetKernelL3Stats (fun x filter => some (awkLines ifName filter (listing x))) l3 =
      .ok stats ∧
    ∀ type filter,
      stats .ipv4 type filter = totals (ownCounters ifName type filter (listing .iptables)) ∧
      stats .ipv6 type filter = totals (ownCounters ifName type filter (listing .ip6tables)) ∧
      (stats .l3 type filter).packets =
        (stats .ipv4 type filter).packets + (stats .ipv6 type filter).packets ∧
      (stats .l3 type filter).bytes =
        (stats .ipv4 type filter).bytes + (stats .ipv6 type filter).bytes

/-- The tables are printed with some counters. -/
def IsListing (w : XtablesWorld) (listing : Xtables → List (Rule × XtCounters)) : Prop :=
  ∀ x, (listing x).map (·.1) = w.listed x

/-- The order in which the lines are taken. -/
def readOrder : List PktType := [.unicast, .multicast, .unicast, .multicast]

/-- The types of the rules of the interface are printed in the order in which they are read. -/
def Aligned (ifName : String) (w : XtablesWorld) : Prop :=
  ∀ x filter, (w.listed x).filterMap (awkMatch ifName filter) <+: readOrder

/-! ## Lines -/

section Lines

variable {ifName : String} {type : PktType} {filter : IfFilter}

theorem parse_counterLine (c : XtCounters) (fp : List (List Char)) :
    netdevSimParseIptablesStatsLine (counterLine c :: fp) = (c, fp) := by
  have hparse : Words.parseNats ' ' (counterLine c) = some [c.packets.toNat, c.bytes.toNat] := by
    have hblank : ' '.isDigit = false := rfl
    have hprinted := Words.parseNats_reprs hblank c.packets.toNat [c.bytes.toNat]
    rw [List.map_singleton, List.flatten_singleton] at hprinted
    exact hprinted
  simp [netdevSimParseIptablesStatsLine, hparse]

/-- The lines of the interface with their types. -/
def matched (ifName : String) (filter : IfFilter) (listing : List (Rule × XtCounters)) :
    List (PktType × XtCounters) :=
  listing.filterMap fun r => (awkMatch ifName filter r.1).map (·, r.2)

theorem awkLines_eq (listing : List (Rule × XtCounters)) :
    awkLines ifName filter listing =
      (matched ifName filter listing).map fun m => counterLine m.2 := by
  simp only [awkLines, matched]
  induction listing with
  | nil => rfl
  | cons r listing ih =>
    rw [List.filter_cons, List.filterMap_cons]
    cases awkMatch ifName filter r.1 with
    | none => simpa using ih
    | some type => simpa using ih

theorem awkMatch_eq_some_iff {rule : Rule} :
    awkMatch ifName filter rule = some type ↔ rule = .pkttype filter ifName type := by
  cases rule with
  | pkttype f name t =>
    rw [awkMatch, Rule.pkttype.injEq]
    split
    case isTrue h => simp [h]
    case isFalse h => exact iff_of_false nofun fun heq => h ⟨heq.1, heq.2.1⟩
  | other spec => exact iff_of_false nofun nofun

theorem ownCounters_eq (listing : List (Rule × XtCounters)) :
    ownCounters ifName type filter listing =
      ((matched ifName filter listing).filter (·.1 = type)).map (·.2) := by
  simp only [ownCounters, matched, ← awkMatch_eq_some_iff]
  induction listing with
  | nil => rfl
  | cons r listing ih =>
    rw [List.filter_cons, List.filterMap_cons]
    cases awkMatch ifName filter r.1 with
    | none => simpa using ih
    | some t =>
      by_cases ht : t = type
      · simpa [ht] using ih
      · simpa [ht] using ih

theorem types_matched (listing : List (Rule × XtCounters)) :
    (matched ifName filter listing).map (·.1) =
      (listing.map (·.1)).filterMap (awkMatch ifName filter) := by
  rw [matched, List.map_filterMap, List.filterMap_map]
  congr 1
  funext r
  simp [Function.comp_def]

/-- What is read for a type of packets if the lines have the counters: the first and the third, or
the second and the fourth. -/
def readAt (cs : List XtCounters) : PktType → List XtCounters
  | .unicast => [cs[0]?.getD ⟨0, 0⟩, cs[2]?.getD ⟨0, 0⟩]
  | .multicast => [cs[1]?.getD ⟨0, 0⟩, cs[3]?.getD ⟨0, 0⟩]

theorem parse_lines (cs : List XtCounters) :
    ∃ s, netdevSimParseXtablesL3Stats (some (cs.map counterLine)) = some s ∧
      ∀ type, s.get type = totals (readAt cs type) := by
  have hline : ∀ cs : List XtCounters,
      netdevSimParseIptablesStatsLine (cs.map counterLine) =
        (cs[0]?.getD ⟨0, 0⟩, cs.tail.map counterLine) := by
    intro cs
    cases cs with
    | nil => rfl
    | cons c cs => exact parse_counterLine c _
  simp only [netdevSimParseXtablesL3Stats, Option.bind_eq_bind, Option.bind_some, hline]
  refine ⟨_, rfl, fun type => ?_⟩
  cases type <;> simp [KernelL3Stats.get, readAt, totals]

/-- What is read for a type of packets is the sum over the lines with that type. -/
def ReadRight (ms : List (PktType × XtCounters)) : Prop :=
  ∀ type, totals (readAt (ms.map (·.2)) type) = totals ((ms.filter (·.1 = type)).map (·.2))

theorem l3Attributed_iff {listing : Xtables → List (Rule × XtCounters)} :
    L3Attributed ifName listing ↔ ∀ x filter, ReadRight (matched ifName filter (listing x)) := by
  have hparse : ∀ x filter, ∃ s : KernelL3Stats,
      netdevSimParseXtablesL3Stats (some (awkLines ifName filter (listing x))) = some s ∧
        ∀ type, s.get type =
          totals (readAt ((matched ifName filter (listing x)).map (·.2)) type) := by
    intro x filter
    rw [awkLines_eq, ← Function.comp_def counterLine, ← List.map_map]
    exact parse_lines _
  choose s hs hget using hparse
  have hstats : ∀ l3, netdevSimGetKernelL3Stats
      (fun x filter => some (awkLines ifName filter (listing x))) l3 =
      .ok fun group type filter =>
        match group with
        | .ipv4 => (s .iptables filter).get type
        | .ipv6 => (s .ip6tables filter).get type
        | .l3 => ⟨((s .iptables filter).get type).packets + ((s .ip6tables filter).get type).packets,
            ((s .iptables filter).get type).bytes + ((s .ip6tables filter).get type).bytes⟩ := by
    intro l3
    simp only [netdevSimGetKernelL3Stats, readL3Members, hs, Except.ok_bind]
    congr 1
    funext group type filter
    cases group <;> cases filter <;> rfl
  simp only [ReadRight, ← hget, ← ownCounters_eq]
  constructor
  · intro h x filter type
    obtain ⟨stats, hresult, hsums⟩ := h fun _ _ _ => ⟨0, 0⟩
    rw [hstats, Except.ok.injEq] at hresult
    subst hresult
    cases x with
    | iptables => exact (hsums type filter).1
    | ip6tables => exact (hsums type filter).2.1
  · intro h l3
    exact ⟨_, hstats l3, fun type filter => ⟨h .iptables filter type, h .ip6tables filter type, rfl, rfl⟩⟩

/-- Lines whose types come in the right order are read right. -/
theorem ReadRight.of_prefix {ms : List (PktType × XtCounters)}
    (h : ms.map (·.1) <+: readOrder) : ReadRight ms := by
  rcases ms with _ | ⟨⟨t₀, c₀⟩, _ | ⟨⟨t₁, c₁⟩, _ | ⟨⟨t₂, c₂⟩, _ | ⟨⟨t₃, c₃⟩, _ | ⟨m, ms⟩⟩⟩⟩⟩
  all_goals
    simp only [readOrder, List.map_cons, List.map_nil, List.cons_prefix_cons, List.nil_prefix,
      List.prefix_nil, and_true, reduceCtorEq, and_false] at h
  · intro type
    cases type <;> rfl
  · subst h
    intro type
    cases type <;> simp [readAt, totals]
  · obtain ⟨rfl, rfl⟩ := h
    intro type
    cases type <;> simp [readAt, totals]
  · obtain ⟨rfl, rfl, rfl⟩ := h
    intro type
    cases type <;> simp [readAt, totals]
  · obtain ⟨rfl, rfl, rfl, rfl⟩ := h
    intro type
    cases type <;> simp [readAt, totals]

/-- A sequence that is not a prefix has a first element that does not fit. -/
theorem exists_misplaced {α : Type*} {order ts : List α} (h : ¬ ts <+: order) :
    ∃ before t after, ts = before ++ t :: after ∧ before <+: order ∧ ¬ before ++ [t] <+: order := by
  induction ts using List.reverseRecOn with
  | nil => exact absurd List.nil_prefix h
  | append_singleton ts t ih =>
    by_cases hts : ts <+: order
    · exact ⟨ts, t, [], rfl, hts, h⟩
    · obtain ⟨before, t', after, rfl, hbefore, hmisplaced⟩ := ih hts
      exact ⟨before, t', after ++ [t], by simp, hbefore, hmisplaced⟩

section OnePacket

variable {before after ms : List (PktType × XtCounters)} {t : PktType}

/-- Of the types that do not go on in the order of the reader, the last is not the one it expects. -/
theorem getElem?_readOrder_ne (hbefore : before.map (·.1) <+: readOrder)
    (ht : ¬ before.map (·.1) ++ [t] <+: readOrder) : readOrder[before.length]? ≠ some t := by
  intro hsome
  apply ht
  have htypes := List.prefix_iff_eq_take.mp hbefore
  rw [List.length_map] at htypes
  obtain ⟨hlt, rfl⟩ := List.getElem?_eq_some_iff.mp hsome
  rw [htypes, List.take_append_getElem hlt]
  exact List.take_prefix _ _

theorem getD_counters_zero (hzero : ∀ m ∈ ms, m.2 = ⟨0, 0⟩) (i : ℕ) :
    (ms.map (·.2))[i]?.getD ⟨0, 0⟩ = ⟨0, 0⟩ := by
  cases hsome : (ms.map (·.2))[i]? with
  | none => rfl
  | some c =>
    obtain ⟨m, hm, rfl⟩ := List.mem_map.mp (List.mem_of_getElem? hsome)
    exact hzero m hm

/-- The packet is read in its own place only. -/
theorem getD_counters_onePacket (hbefore : ∀ m ∈ before, m.2 = ⟨0, 0⟩)
    (hafter : ∀ m ∈ after, m.2 = ⟨0, 0⟩) {i : ℕ} (hi : i ≠ before.length) :
    ((before ++ (t, ⟨1, 0⟩) :: after).map (·.2))[i]?.getD ⟨0, 0⟩ = ⟨0, 0⟩ := by
  rw [List.map_append, List.getElem?_append, List.length_map]
  split
  · exact getD_counters_zero hbefore i
  · obtain ⟨j, hj⟩ : ∃ j, i - before.length = j + 1 := ⟨i - before.length - 1, by omega⟩
    rw [hj, List.map_cons, List.getElem?_cons_succ]
    exact getD_counters_zero hafter j

theorem sum_packets_append (rest : List (PktType × XtCounters)) (hzero : ∀ m ∈ ms, m.2 = ⟨0, 0⟩) :
    ((((ms ++ rest).filter (·.1 = t)).map (·.2)).map (·.packets)).sum =
      (((rest.filter (·.1 = t)).map (·.2)).map (·.packets)).sum := by
  induction ms with
  | nil => rfl
  | cons m ms ih =>
    obtain ⟨hm, hzero⟩ := List.forall_mem_cons.mp hzero
    rw [List.cons_append, List.filter_cons]
    split
    · rw [List.map_cons, List.map_cons, List.sum_cons, hm, ih hzero, UInt64.zero_add]
    · exact ih hzero

/-- The packet is one of its type. -/
theorem packets_own_onePacket (hbefore : ∀ m ∈ before, m.2 = ⟨0, 0⟩)
    (hafter : ∀ m ∈ after, m.2 = ⟨0, 0⟩) :
    (totals (((before ++ (t, ⟨1, 0⟩) :: after).filter (·.1 = t)).map (·.2))).packets = 1 := by
  have hrest := sum_packets_append (t := t) [] hafter
  rw [List.append_nil] at hrest
  rw [totals, sum_packets_append _ hbefore, List.filter_cons_of_pos (by simp), List.map_cons,
    List.map_cons, List.sum_cons, hrest]
  rfl

/-- One packet of a type that is not expected is not read as one of that type. -/
theorem not_readRight (hbefore : before.map (·.1) <+: readOrder)
    (ht : ¬ before.map (·.1) ++ [t] <+: readOrder) (hzero : ∀ m ∈ before ++ after, m.2 = ⟨0, 0⟩) :
    ¬ ReadRight (before ++ (t, ⟨1, 0⟩) :: after) := by
  have hplace := getElem?_readOrder_ne hbefore ht
  obtain ⟨hzeroBefore, hzeroAfter⟩ := List.forall_mem_append.mp hzero
  have hnone : (totals (readAt ((before ++ (t, ⟨1, 0⟩) :: after).map (·.2)) t)).packets = 0 := by
    cases t with
    | unicast =>
      have hfirst : 0 ≠ before.length := fun heq => hplace (heq ▸ rfl)
      have hthird : 2 ≠ before.length := fun heq => hplace (heq ▸ rfl)
      rw [readAt, getD_counters_onePacket hzeroBefore hzeroAfter hfirst,
        getD_counters_onePacket hzeroBefore hzeroAfter hthird]
      rfl
    | multicast =>
      have hsecond : 1 ≠ before.length := fun heq => hplace (heq ▸ rfl)
      have hfourth : 3 ≠ before.length := fun heq => hplace (heq ▸ rfl)
      rw [readAt, getD_counters_onePacket hzeroBefore hzeroAfter hsecond,
        getD_counters_onePacket hzeroBefore hzeroAfter hfourth]
      rfl
  intro hright
  rw [hright t, packets_own_onePacket hzeroBefore hzeroAfter] at hnone
  exact absurd hnone (by decide)

end OnePacket

/-- Rules that have counted nothing. -/
def unused (rules : List Rule) : List (Rule × XtCounters) := rules.map (·, ⟨0, 0⟩)

theorem map_unused (rules : List Rule) : (unused rules).map (·.1) = rules := by
  rw [unused, List.map_map]
  exact List.map_id rules

theorem types_unused (rules : List Rule) :
    (matched ifName filter (unused rules)).map (·.1) =
      rules.filterMap (awkMatch ifName filter) := by
  rw [types_matched, map_unused]

theorem mem_matched_unused {rules : List Rule} {m : PktType × XtCounters}
    (h : m ∈ matched ifName filter (unused rules)) : m.2 = ⟨0, 0⟩ := by
  obtain ⟨r, hr, hm⟩ := List.mem_filterMap.mp h
  obtain ⟨rule, -, rfl⟩ := List.mem_map.mp hr
  obtain ⟨t, -, rfl⟩ := Option.map_eq_some_iff.mp hm
  rfl

/-- The rules of an interface are read right, whatever they have counted, exactly if their types are
printed in the order in which they are read. -/
theorem l3_attributed_iff_aligned {w : XtablesWorld} :
    (∀ listing, IsListing w listing → L3Attributed ifName listing) ↔ Aligned ifName w := by
  constructor
  · intro h x filter
    by_contra hmisplaced
    obtain ⟨before, t, after, htypes, hbefore, ht⟩ := exists_misplaced hmisplaced
    obtain ⟨rulesBefore, rules, hrules, rfl, hrest⟩ := List.filterMap_eq_append_iff.mp htypes
    obtain ⟨between, rule, rulesAfter, rfl, hnone, hrule, rfl⟩ :=
      List.filterMap_eq_cons_iff.mp hrest
    -- all packets are counted by the rule that is out of place
    let listing : Xtables → List (Rule × XtCounters) := fun y =>
      if y = x then unused (rulesBefore ++ between) ++ (rule, ⟨1, 0⟩) :: unused rulesAfter
      else unused (w.listed y)
    have hlisting : IsListing w listing := by
      intro y
      by_cases hy : y = x
      · subst hy
        simp only [listing, if_true, List.map_append, List.map_cons, map_unused, hrules,
          List.append_assoc]
      · simp only [listing, hy, if_false, map_unused]
    have hright := l3Attributed_iff.mp (h listing hlisting) x filter
    have hbetween : between.filterMap (awkMatch ifName filter) = [] :=
      List.filterMap_eq_nil_iff.mpr hnone
    have hmatched : matched ifName filter (listing x) =
        matched ifName filter (unused (rulesBefore ++ between)) ++
          (t, ⟨1, 0⟩) :: matched ifName filter (unused rulesAfter) := by
      simp only [listing, if_true, matched, List.filterMap_append, List.filterMap_cons, hrule,
        Option.map_some]
    have hbeforeTypes : (matched ifName filter (unused (rulesBefore ++ between))).map (·.1) =
        rulesBefore.filterMap (awkMatch ifName filter) := by
      rw [types_unused, List.filterMap_append, hbetween, List.append_nil]
    rw [hmatched] at hright
    rw [← hbeforeTypes] at hbefore ht
    refine not_readRight hbefore ht (fun m hm => ?_) hright
    rcases List.mem_append.mp hm with hm | hm
    · exact mem_matched_unused hm
    · exact mem_matched_unused hm
  · intro h listing hlisting
    rw [l3Attributed_iff]
    intro x filter
    apply ReadRight.of_prefix
    rw [types_matched, hlisting x]
    exact h x filter

end Lines

end ContainerPlugin.Netdev
