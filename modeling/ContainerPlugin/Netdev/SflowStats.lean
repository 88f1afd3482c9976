import Mathlib.Algebra.BigOperators.Group.List.Basic
import Mathlib.Algebra.BigOperators.Pi
import Mathlib.Algebra.Order.Ring.Int
import ContainerPlugin.Lib.Runs
import ContainerPlugin.Netdev.IptableStats

/-!
# The sFlow counters of a netdev

The counters of the `SFLOW` rules start at zero whenever the rules are installed, while the counters
that `netdev-sim.c` publishes have to keep growing. A poll adds what the rules have counted since the
previous poll; `sflow_resets` and a comparison of the packet counters tell it whether the rules are
still those of the previous poll. What it reads are the first 15 digits of a counter.
-/

namespace ContainerPlugin.Netdev

open Runs

/-- The members of `struct netdev_sim` that sFlow uses. -/
structure NetdevSim where
  sflowStatsEnabled : Bool
  sflowResets : UInt32
  sflowPrev : Counter → UInt64
  /-- The sFlow counters in `stats`. -/
  stats : Counter → UInt64

/-- `netdev_sim_construct` -/
def netdevSimConstruct : NetdevSim := ⟨false, 0, fun _ => 0, fun _ => 0⟩

def netdevSflowReset (netdev : NetdevSim) : NetdevSim :=
  { netdev with sflowResets := netdev.sflowResets + 1 }

def netdevSflowStatsEnable (netdev : NetdevSim) (enabled : Bool) : NetdevSim :=
  { netdev with sflowStatsEnabled := enabled }

/-- `netdev_sim_update_sflow_stats`; `read` is what the two calls of `netdev_sim_get_iptable_stats`
return. -/
def netdevSimUpdateSflowStats (read : Counter → UInt64) (netdev : NetdevSim) : NetdevSim :=
  let cur : Counter → UInt64 := if netdev.sflowStatsEnabled then read else fun _ => 0
  let stats : Counter → UInt64 :=
    if netdev.sflowResets > 0 ∨ netdev.sflowPrev .ingressPkts > cur .ingressPkts ∨
        netdev.sflowPrev .egressPkts > cur .egressPkts then
      fun k => netdev.stats k + cur k
    else fun k => netdev.stats k + (cur k - netdev.sflowPrev k)
  { netdev with stats := stats, sflowPrev := cur, sflowResets := 0 }

/-! ## Events -/

/-- A netdev, the `SFLOW` rules of its port and what happened to them. -/
structure Monitor where
  netdev : NetdevSim
  installed : Bool
  /-- What the installed rules have counted; zero when there are none. -/
  counters : Counter → ℕ
  /-- For every generation of rules, the latest first, the values polled last. -/
  polled : List (Counter → ℕ)
  /-- All that rules of any generation have counted. -/
  counted : Counter → ℕ

def Monitor.initial : Monitor := ⟨netdevSimConstruct, false, 0, [], 0⟩

/-- The line that is read for a counter; without rules there is no sum to print. -/
def Monitor.output (m : Monitor) (k : Counter) : List Char :=
  if m.installed then sumLine (m.counters k) else ['\n']

/-- What a poll gets, with reads that succeed. -/
def Monitor.read (m : Monitor) : Counter → UInt64 := readCounters fun k => some (m.output k)

inductive Event where
  | sample (counts : Counter → ℕ)
  /-- Rules go with `sflow_iptable_del`, after the statistics are disabled, or with
  `sflow_iptable_del_all`. -/
  | remove (disable : Bool)
  | install
  | poll

def Monitor.step (m : Monitor) : Event → Monitor
  | .sample counts =>
    if m.installed then
      { m with counters := m.counters + counts, counted := m.counted + counts }
    else m
  | .remove disable =>
    { m with
      netdev := if disable then netdevSflowStatsEnable m.netdev false else m.netdev
      installed := false
      counters := 0 }
  | .install =>
    { m with
      netdev := netdevSflowStatsEnable (netdevSflowReset m.netdev) true
      installed := true
      counters := 0
      polled := 0 :: m.polled }
  | .poll =>
    { m with
      netdev := netdevSimUpdateSflowStats m.read m.netdev
      polled := if m.installed then m.counters :: m.polled.tail else m.polled }

/-- The sum, over all generations, of the values polled last. -/
def Monitor.total (m : Monitor) : Counter → ℕ := m.polled.sum

/-- The packets and the bytes of a direction are zero together. -/
def ZeroTogether (counters : Counter → ℕ) : Prop :=
  (counters .ingressPkts = 0 ↔ counters .ingressBytes = 0) ∧
    (counters .egressPkts = 0 ↔ counters .egressBytes = 0)

instance (counters : Counter → ℕ) : Decidable (ZeroTogether counters) :=
  inferInstanceAs (Decidable (_ ∧ _))

/-- What the kernel guarantees: packets come with bytes, and no total needs more than 64 bits. -/
def Event.Regular (m : Monitor) : Event → Prop
  | .sample counts => m.installed → ZeroTogether (m.counters + counts)
  | .poll => ∀ k, (m.step .poll).total k < 2 ^ 64
  | _ => True

instance (m : Monitor) : ∀ e : Event, Decidable (e.Regular m)
  | .sample counts => inferInstanceAs (Decidable (m.installed → ZeroTogether (m.counters + counts)))
  | .poll => inferInstanceAs (Decidable (∀ k, (m.step .poll).total k < 2 ^ 64))
  | .remove _ | .install => inferInstanceAs (Decidable True)

/-- The rules are not installed when `sflow_resets` has its largest value, and no counter is polled that
needs more than the 15 digits of the buffer. -/
def Event.Counted (m : Monitor) : Event → Prop
  | .install => m.netdev.sflowResets + 1 ≠ 0
  | .poll => ∀ k, m.counters k < 10 ^ 15
  | _ => True

instance (m : Monitor) : ∀ e : Event, Decidable (e.Counted m)
  | .install => inferInstanceAs (Decidable (m.netdev.sflowResets + 1 ≠ 0))
  | .poll => inferInstanceAs (Decidable (∀ k, m.counters k < 10 ^ 15))
  | .sample _ | .remove _ => inferInstanceAs (Decidable True)

/-- The published counters are the totals, and no more than was counted. -/
def Monitor.Exact (m : Monitor) : Prop :=
  ∀ k, (m.netdev.stats k).toNat = m.total k ∧ (m.netdev.stats k).toNat ≤ m.counted k

/-- No published counter decreases in the step. -/
def Event.Grows (m : Monitor) (e : Event) : Prop :=
  ∀ k, m.netdev.stats k ≤ (m.step e).netdev.stats k

/-! ## The invariant -/

/-- The latest generation of rules: `g` was polled last, and is zero or `prev` depending on whether
the rules were installed since the previous poll; `gs` are the earlier generations. -/
structure Monitor.Latest (m : Monitor) (prev g : Counter → ℕ) (gs : List (Counter → ℕ)) :
    Prop where
  polled : m.polled = g :: gs
  kept : m.netdev.sflowResets = 0 → g = prev
  fresh : m.netdev.sflowResets ≠ 0 → g = 0
  grown : ∀ k, g k ≤ m.counters k
  counted : ∀ k, gs.sum k + m.counters k ≤ m.counted k

/-- What the saved values say about the generations; `prev` are the values read by the previous
poll. -/
structure Monitor.Inv (m : Monitor) (prev : Counter → ℕ) : Prop where
  published : ∀ k, m.netdev.stats k = .ofNat (m.total k)
  saved : ∀ k, m.netdev.sflowPrev k = .ofNat (prev k)
  total_lt : ∀ k, m.total k < 2 ^ 64
  prev_lt : ∀ k, prev k < 2 ^ 64
  zero : ZeroTogether m.counters
  prevZero : ZeroTogether prev
  enabled : m.installed = true → m.netdev.sflowStatsEnabled = true
  idle : m.installed = false → m.counters = 0
  latest : m.installed = true → ∃ g gs, m.Latest prev g gs
  bounded : ∀ k, m.total k ≤ m.counted k

theorem zeroTogether_zero : ZeroTogether 0 := ⟨Iff.rfl, Iff.rfl⟩

theorem Monitor.Inv.initial : Monitor.initial.Inv 0 where
  published _ := rfl
  saved _ := rfl
  total_lt _ := Nat.two_pow_pos 64
  prev_lt _ := Nat.two_pow_pos 64
  zero := zeroTogether_zero
  prevZero := zeroTogether_zero
  enabled h := nomatch h
  idle _ := rfl
  latest h := nomatch h
  bounded _ := le_rfl

section Step

variable {m : Monitor} {prev : Counter → ℕ}

theorem Monitor.Inv.toNat_stats (h : m.Inv prev) (k : Counter) :
    (m.netdev.stats k).toNat = m.total k := by
  rw [h.published k, UInt64.toNat_ofNat']
  exact Nat.mod_eq_of_lt (h.total_lt k)

theorem Monitor.Inv.exact (h : m.Inv prev) : m.Exact :=
  fun k => ⟨h.toNat_stats k, (h.toNat_stats k).trans_le (h.bounded k)⟩

theorem Monitor.Inv.sample (h : m.Inv prev) {counts : Counter → ℕ}
    (hzero : m.installed = true → ZeroTogether (m.counters + counts)) :
    (m.step (.sample counts)).Inv prev := by
  rw [Monitor.step]
  split
  · rename_i hinst
    refine { h with
      zero := hzero hinst
      idle := fun hidle => absurd hidle (by simp [hinst])
      latest := fun _ => ?_
      bounded := fun k => (h.bounded k).trans (Nat.le_add_right _ _) }
    obtain ⟨g, gs, hg⟩ := h.latest hinst
    refine ⟨g, gs, { hg with
      grown := fun k => (hg.grown k).trans (Nat.le_add_right _ _)
      counted := fun k => ?_ }⟩
    have hcounted := hg.counted k
    simp only [Pi.add_apply]
    omega
  · exact h

theorem Monitor.Inv.remove (h : m.Inv prev) (disable : Bool) :
    (m.step (.remove disable)).Inv prev := by
  have hstats : ∀ k, (m.step (.remove disable)).netdev.stats k = m.netdev.stats k ∧
      (m.step (.remove disable)).netdev.sflowPrev k = m.netdev.sflowPrev k := by
    intro k
    cases disable with
    | false => exact ⟨rfl, rfl⟩
    | true => exact ⟨rfl, rfl⟩
  exact { h with
    published := fun k => (hstats k).1.trans (h.published k)
    saved := fun k => (hstats k).2.trans (h.saved k)
    zero := zeroTogether_zero
    enabled := nofun
    idle := fun _ => rfl
    latest := nofun }

theorem Monitor.Inv.install (h : m.Inv prev) (hresets : m.netdev.sflowResets + 1 ≠ 0) :
    (m.step .install).Inv prev := by
  have htotal : (m.step .install).total = m.total := zero_add m.total
  refine { h with
    published := fun k => by rw [htotal]; exact h.published k
    total_lt := fun k => by rw [htotal]; exact h.total_lt k
    zero := zeroTogether_zero
    enabled := fun _ => rfl
    idle := nofun
    latest := fun _ => ⟨0, m.polled, rfl, fun hzero => absurd hzero hresets, fun _ => rfl,
      fun _ => le_rfl, fun k => h.bounded k⟩
    bounded := fun k => by rw [htotal]; exact h.bounded k }

theorem ofNat_lt_ofNat_iff {a b : ℕ} (ha : a < 2 ^ 64) (hb : b < 2 ^ 64) :
    UInt64.ofNat a < UInt64.ofNat b ↔ a < b := by
  rw [UInt64.lt_iff_toNat_lt, UInt64.toNat_ofNat', UInt64.toNat_ofNat', Nat.mod_eq_of_lt ha,
    Nat.mod_eq_of_lt hb]

theorem Monitor.read_eq (hidle : m.installed = false → m.counters = 0)
    (hprinted : ∀ k, m.counters k < 10 ^ 15) : m.read = fun k => .ofNat (m.counters k) := by
  refine readCounters_some fun k => ?_
  rw [Monitor.output]
  cases hinst : m.installed with
  | true => exact atoll_sumLine (hprinted k)
  | false =>
    rw [hidle hinst]
    rfl

/-- Whether or not the statistics are enabled, a poll works with what the installed rules have
counted. -/
theorem Monitor.Inv.cur_eq (h : m.Inv prev) (hprinted : ∀ k, m.counters k < 10 ^ 15) :
    (if m.netdev.sflowStatsEnabled then m.read else fun _ => 0) =
      fun k => UInt64.ofNat (m.counters k) := by
  rw [Monitor.read_eq h.idle hprinted]
  cases hinst : m.installed with
  | true => rw [if_pos (h.enabled hinst)]
  | false =>
    rw [h.idle hinst]
    split
    · rfl
    · rfl

theorem Monitor.Latest.total_poll {g : Counter → ℕ} {gs : List (Counter → ℕ)}
    (hg : m.Latest prev g gs) (hinst : m.installed = true) :
    (m.step .poll).total = m.counters + gs.sum ∧ m.total = g + gs.sum := by
  constructor
  · simp only [Monitor.total, Monitor.step, hinst, hg.polled, if_true, List.tail_cons,
      List.sum_cons]
  · rw [Monitor.total, hg.polled, List.sum_cons]

theorem Monitor.total_poll_of_idle (m : Monitor) (hinst : m.installed = false) :
    (m.step .poll).total = m.total := by
  simp [Monitor.total, Monitor.step, hinst]

theorem Monitor.Inv.counters_lt (h : m.Inv prev) (htotal : ∀ k, (m.step .poll).total k < 2 ^ 64)
    (k : Counter) : m.counters k < 2 ^ 64 := by
  cases hinst : m.installed with
  | true =>
    obtain ⟨g, gs, hg⟩ := h.latest hinst
    have hlt := htotal k
    rw [(hg.total_poll hinst).1] at hlt
    exact (Nat.le_add_right _ _).trans_lt hlt
  | false =>
    rw [h.idle hinst]
    exact Nat.two_pow_pos 64

/-- A poll adds exactly what the latest generation has counted since it was polled last. -/
theorem Monitor.Inv.published_poll (h : m.Inv prev) (hprinted : ∀ k, m.counters k < 10 ^ 15)
    (htotal : ∀ k, (m.step .poll).total k < 2 ^ 64) (k : Counter) :
    (m.step .poll).netdev.stats k = .ofNat ((m.step .poll).total k) := by
  have hlt := h.counters_lt htotal
  have hstats : (m.step .poll).netdev.stats k =
      if m.netdev.sflowResets ≠ 0 ∨ m.counters .ingressPkts < prev .ingressPkts ∨
          m.counters .egressPkts < prev .egressPkts then
        UInt64.ofNat (m.total k) + .ofNat (m.counters k)
      else UInt64.ofNat (m.total k) + (.ofNat (m.counters k) - .ofNat (prev k)) := by
    simp only [Monitor.step, netdevSimUpdateSflowStats, h.cur_eq hprinted, h.saved, gt_iff_lt,
      ofNat_lt_ofNat_iff (hlt _) (h.prev_lt _), UInt32.pos_iff_ne_zero, ← h.published]
    split
    · rfl
    · rfl
  rw [hstats]
  cases hinst : m.installed with
  | true =>
    obtain ⟨g, gs, hg⟩ := h.latest hinst
    obtain ⟨hpoll, hold⟩ := hg.total_poll hinst
    rw [hpoll, hold, Pi.add_apply, Pi.add_apply, UInt64.ofNat_add, UInt64.ofNat_add]
    by_cases hresets : m.netdev.sflowResets = 0
    · -- the rules are those of the previous poll, so none of their counters went down
      have hgrown : ∀ k, prev k ≤ m.counters k := hg.kept hresets ▸ hg.grown
      rw [if_neg (by simp [hresets, hgrown]), hg.kept hresets]
      grind
    · rw [if_pos (.inl hresets), hg.fresh hresets]
      show UInt64.ofNat 0 + _ + _ = _
      grind
  | false =>
    rw [m.total_poll_of_idle hinst, h.idle hinst]
    split
    · simp
    · rename_i hkept
      -- the rules of the previous poll had counted nothing
      simp only [not_or, not_lt] at hkept
      have hprev : prev k = 0 := by
        obtain ⟨-, hin, hout⟩ := hkept
        have hin : prev .ingressPkts = 0 := Nat.le_zero.mp hin
        have hout : prev .egressPkts = 0 := Nat.le_zero.mp hout
        cases k with
        | ingressPkts => exact hin
        | ingressBytes => exact h.prevZero.1.mp hin
        | egressPkts => exact hout
        | egressBytes => exact h.prevZero.2.mp hout
      simp [hprev]

theorem Monitor.Inv.poll (h : m.Inv prev) (hprinted : ∀ k, m.counters k < 10 ^ 15)
    (htotal : ∀ k, (m.step .poll).total k < 2 ^ 64) : (m.step .poll).Inv m.counters := by
  refine { h with
    published := h.published_poll hprinted htotal
    saved := fun k => congrFun (h.cur_eq hprinted) k
    total_lt := htotal
    prev_lt := h.counters_lt htotal
    prevZero := h.zero
    latest := fun hinst => ?_
    bounded := fun k => ?_ }
  · obtain ⟨g, gs, hg⟩ := h.latest hinst
    refine ⟨m.counters, gs, ?_, fun _ => rfl, fun hresets => absurd rfl hresets, fun _ => le_rfl,
      hg.counted⟩
    have hinst : m.installed = true := hinst
    simp only [Monitor.step, hinst, if_true, hg.polled, List.tail_cons]
  · cases hinst : m.installed with
    | true =>
      obtain ⟨g, gs, hg⟩ := h.latest hinst
      rw [(hg.total_poll hinst).1, Pi.add_apply, Nat.add_comm]
      exact hg.counted k
    | false =>
      rw [m.total_poll_of_idle hinst]
      exact h.bounded k

/-- One event keeps the invariant. -/
theorem Monitor.Inv.step (h : m.Inv prev) {e : Event} (hregular : e.Regular m)
    (hcounted : e.Counted m) : ∃ prev', (m.step e).Inv prev' := by
  cases e with
  | sample counts => exact ⟨prev, h.sample hregular⟩
  | remove disable => exact ⟨prev, h.remove disable⟩
  | install => exact ⟨prev, h.install hcounted⟩
  | poll => exact ⟨m.counters, h.poll hcounted hregular⟩

theorem Monitor.Inv.total_mono (h : m.Inv prev) (e : Event) (k : Counter) :
    m.total k ≤ (m.step e).total k := by
  cases e with
  | sample counts =>
    rw [Monitor.step]
    split
    · exact le_rfl
    · exact le_rfl
  | remove => exact le_rfl
  | install => exact (congrFun (zero_add m.total) k).ge
  | poll =>
    cases hinst : m.installed with
    | true =>
      obtain ⟨g, gs, hg⟩ := h.latest hinst
      rw [(hg.total_poll hinst).1, (hg.total_poll hinst).2]
      exact Nat.add_le_add_right (hg.grown k) _
    | false =>
      rw [m.total_poll_of_idle hinst]

end Step

/-- Along every run in which the rules are never installed at the largest value of `sflow_resets` and
no counter outgrows the buffer when it is polled, the published counters are the sums, over the
generations of rules, of the values polled last; they never decrease and never exceed what was
counted. -/
theorem sflow_counters_telescope {es : List Event}
    (h : Along Monitor.step (fun m e => e.Regular m ∧ e.Counted m) .initial es) :
    Always Monitor.step Monitor.Exact .initial es ∧
      Along Monitor.step Event.Grows .initial es := by
  have hinv : Always Monitor.step (fun m => ∃ prev, m.Inv prev) .initial es := by
    refine .of_along ?_ ⟨0, .initial⟩ h
    rintro m e ⟨prev, hm⟩ ⟨hregular, hcounted⟩
    exact hm.step hregular hcounted
  refine ⟨hinv.mono fun m ⟨prev, hm⟩ => hm.exact, Along.of_always ?_ hinv h⟩
  rintro m e - ⟨prev, hm⟩ ⟨hregular, hcounted⟩ k
  obtain ⟨prev', hm'⟩ := hm.step hregular hcounted
  rw [UInt64.le_iff_toNat_le, hm.toNat_stats k, hm'.toNat_stats k]
  exact hm.total_mono e k

/-- Incoming packets of 100 bytes. -/
def packets (n : ℕ) : Counter → ℕ
  | .ingressPkts => n
  | .ingressBytes => 100 * n
  | .egressPkts | .egressBytes => 0

theorem Monitor.read_packets (netdev : NetdevSim) {n : ℕ} (hn : n < 10 ^ 12)
    (polled : List (Counter → ℕ)) (counted : Counter → ℕ) :
    (Monitor.mk netdev true (packets n) polled counted).read = fun k => .ofNat (packets n k) := by
  refine Monitor.read_eq nofun fun k => ?_
  cases k <;> simp only [packets] <;> omega

/-- Two generations, of 5 and of 7 packets. -/
theorem sflow_counters_telescope_two_generations :
    Monitor.Exact ([.install, .sample (packets 5), .poll, .remove false, .install,
      .sample (packets 7), .poll].foldl Monitor.step .initial) :=
  (sflow_counters_telescope (by decide +kernel)).1.last

/-- Of `10 ^ 15` bytes the buffer keeps 15 digits. -/
example : (([.install, .sample (packets (10 ^ 13)), .poll].foldl Monitor.step .initial).netdev.stats
    .ingressBytes) = 10 ^ 14 := by
  decide +kernel

/-! ## Overflow of `sflow_resets` -/

theorem foldl_install (m : Monitor) (n : ℕ) :
    (List.replicate (n + 1) Event.install).foldl Monitor.step m =
      { m with
        netdev := { m.netdev with
          sflowStatsEnabled := true
          sflowResets := m.netdev.sflowResets + .ofNat (n + 1) }
        installed := true
        counters := 0
        polled := List.replicate (n + 1) 0 ++ m.polled } := by
  induction n generalizing m with
  | zero => rfl
  | succ n ih =>
    rw [List.replicate_succ, List.foldl_cons, ih]
    simp only [Monitor.step, netdevSflowReset, netdevSflowStatsEnable, Monitor.mk.injEq,
      NetdevSim.mk.injEq, and_true, true_and]
    constructor
    · rw [UInt32.ofNat_add (n + 1) 1, UInt32.add_assoc, UInt32.add_comm 1]
      rfl
    · rw [List.append_cons, ← List.replicate_succ']

/-- The state after 5 packets were polled and the rules were then installed `n + 1` times, where
`n + 1` is a multiple of `2 ^ 32`. -/
def Monitor.overrun (n : ℕ) : Monitor where
  netdev := ⟨true, 0, fun k => .ofNat (packets 5 k), fun k => .ofNat (packets 5 k)⟩
  installed := true
  counters := 0
  polled := List.replicate (n + 1) 0 ++ [packets 5]
  counted := packets 5

theorem Monitor.overrun_total (n : ℕ) :
    (((Monitor.overrun n).step (.sample (packets 7))).step .poll).total = packets 7 + packets 5 := by
  simp [Monitor.overrun, Monitor.step, Monitor.total, List.replicate_succ]

/-- After 5 packets were polled, the rules are installed `2 ^ 32` times before 7 packets are: the poll
takes the 7 for 2 more. -/
theorem sflow_counters_lost_by_resets : ¬ ∀ es : List Event,
    Along Monitor.step Event.Regular .initial es →
      Always Monitor.step Monitor.Exact .initial es ∧
        Along Monitor.step Event.Grows .initial es := by
  intro hall
  -- the number of installations stays a variable, so that nothing is tempted to run them
  obtain ⟨n, hn⟩ : ∃ n : ℕ, UInt32.ofNat (n + 1) = 0 := ⟨2 ^ 32 - 1, rfl⟩
  let before : List Event := [.install, .sample (packets 5), .poll]
  let after : List Event := [.sample (packets 7), .poll]
  have hstate : (List.replicate (n + 1) Event.install).foldl Monitor.step
      (before.foldl Monitor.step .initial) = .overrun n := by
    rw [foldl_install, hn]
    simp [before, Monitor.step, Monitor.overrun, Monitor.initial, netdevSimConstruct,
      netdevSflowReset, netdevSflowStatsEnable, netdevSimUpdateSflowStats, Monitor.read_packets]
  have hregular : Along Monitor.step Event.Regular .initial
      (before ++ (List.replicate (n + 1) .install ++ after)) := by
    refine along_append.mpr ⟨by decide +kernel, along_append.mpr ⟨.of_forall fun m e he => ?_, ?_⟩⟩
    · rw [List.eq_of_mem_replicate he]
      trivial
    · rw [hstate]
      have hzero : ZeroTogether (0 + packets 7) := by decide
      refine ⟨fun _ => hzero, fun k => ?_, trivial⟩
      rw [Monitor.overrun_total]
      revert k
      decide
  have hexact := ((hall _ hregular).1.last .ingressPkts).1
  rw [List.foldl_append, List.foldl_append, hstate] at hexact
  have hseven : ((after.foldl Monitor.step (.overrun n)).netdev.stats .ingressPkts).toNat = 7 := by
    simp [after, Monitor.step, Monitor.overrun, netdevSimUpdateSflowStats, Monitor.read_packets, packets]
  rw [hseven] at hexact
  exact absurd (hexact.trans (congrFun (Monitor.overrun_total n) .ingressPkts)) (by decide)

end ContainerPlugin.Netdev
