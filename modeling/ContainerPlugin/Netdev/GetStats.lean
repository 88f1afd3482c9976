import ContainerPlugin.Lib.Outcome
import ContainerPlugin.Netdev.L3Kernel
import ContainerPlugin.Netdev.LinkReply
import ContainerPlugin.Netdev.SflowStats

/-!
# The statistics that a netdev publishes

`netdev_sim_get_stats` asks the kernel for the counters of the link, then reads the rules for the L3
statistics if they are enabled, and then the sFlow rules. It gives up at the first part that fails,
and what it has read by then stays in the netdev. The sFlow counters come last, so that a call that
gives up has not touched them.
-/

namespace ContainerPlugin.Netdev

open Loop Runs

/-! ## The three parts -/

/-- The members of `struct netdev_sim` that the function uses; those that sFlow uses are in `sflow`. -/
structure StatsNetdev where
  linuxIntfName : String
  kernel : NetdevStats
  l3 : L3Members
  l3StatsEnabled : Bool
  sflow : NetdevSim

/-- What is copied to `stats`. -/
structure PublishedStats where
  kernel : NetdevStats
  l3 : L3Members
  sflow : Counter → UInt64

/-- `netdev_sim_get_stats`, with fuel for the replies of the kernel: what it publishes, or `none` if
it returns -1, and the netdev. -/
def netdevSimGetStats (netlink : NetlinkEnv) (popen : Xtables → IfFilter → Option (List (List Char)))
    (read : Counter → UInt64) (fuel : ℕ) (dev : StatsNetdev) :
    Option (Option PublishedStats × StatsNetdev) := do
  let (rc, kernel) ← netdevGetKernelStats netlink fuel dev.kernel
  let dev := { dev with kernel := kernel }
  if rc < 0 then some (none, dev)
  else
    match if dev.l3StatsEnabled then netdevSimGetKernelL3Stats popen dev.l3 else .ok dev.l3 with
    | .error l3 => some (none, { dev with l3 := l3 })
    | .ok l3 =>
      let sflow := netdevSimUpdateSflowStats read dev.sflow
      some (some ⟨kernel, l3, sflow.stats⟩, { dev with l3 := l3, sflow := sflow })

section Kernel

variable {netlink : NetlinkEnv} {stats : NetdevStats}

/-- The kernel has answered after a number of replies, and these are the counters. -/
def NetlinkEnv.Answers (netlink : NetlinkEnv) (stats stats' : NetdevStats) : Prop :=
  netlink.opened = true ∧ ∃ n, EndsAt netlink.recvmsg n ∧
    stats' = ((counters netlink.recvmsg (n + 1)).getLast?).getD stats

/-- After so many replies `recvmsg` fails. -/
def NetlinkEnv.StopsAt (netlink : NetlinkEnv) (n : ℕ) : Prop :=
  ∀ i, n ≤ i → netlink.recvmsg i = .failed

/-- With finitely many replies the function returns: 0 if the kernel has answered, and -1 if not. -/
theorem NetlinkEnv.StopsAt.netdevGetKernelStats {n : ℕ} (h : netlink.StopsAt n)
    (stats : NetdevStats) :
    ∃ rc stats', netdevGetKernelStats netlink (n + 1) stats = some (rc, stats') ∧
      (rc = 0 ∧ netlink.Answers stats stats' ∨
        rc = -1 ∧ ∀ stats', ¬ netlink.Answers stats stats') := by
  cases hopened : netlink.opened with
  | false =>
    refine ⟨-1, stats, netdevGetKernelStats_not_opened hopened _ stats, .inr ⟨rfl, ?_⟩⟩
    rintro stats' ⟨hopened', -⟩
    rw [hopened] at hopened'
    cases hopened'
  | true =>
    have hround : ∀ st st' : ReceiveLoop, True → receiveRound netlink.recvmsg st = .inl st' →
        True ∧ n - st'.received < n - st.received := by
      intro st st' _ hst
      by_cases hstops : n ≤ st.received
      · rw [receiveRound, h _ hstops] at hst
        cases hst
      · rw [receiveRound] at hst
        split at hst
        · cases hst
        · simp only at hst
          split at hst
          · cases hst
          · cases hst
            have hless : n - (st.received + 1) < n - st.received := by omega
            exact ⟨trivial, hless⟩
    obtain ⟨rounds, ⟨rc, stats'⟩, hruns, hlength⟩ := exists_runs (I := fun _ => True)
      (fun st : ReceiveLoop => n - st.received) hround (s := ⟨0, stats⟩) trivial
    have hresult : Netdev.netdevGetKernelStats netlink (n + 1) stats = some (rc, stats') := by
      rw [netdevGetKernelStats_opened hopened]
      exact hruns.run_eq hlength
    refine ⟨rc, stats', hresult, ?_⟩
    rcases receive_result hruns with hfailed | ⟨m, hends, heq⟩
    · refine .inr ⟨hfailed, ?_⟩
      rintro stats'' ⟨-, m, hends, -⟩
      obtain ⟨rounds', hruns'⟩ := hends.exists_runs stats
      have heq := hruns.yields.unique hruns'.yields
      obtain rfl : rc = 0 := congrArg Prod.fst heq
      cases hfailed
    · obtain ⟨rfl, rfl⟩ := Prod.mk.inj heq
      exact .inl ⟨rfl, hopened, m, hends, rfl⟩

end Kernel

section L3

variable {ifName : String} {filter : IfFilter}
  {tables : Xtables → IfFilter → List (Rule × XtCounters)}
  {popen : Xtables → IfFilter → Option (List (List Char))}

/-- What is read of lines whose types come in the right order. -/
theorem parse_awkLines {listing : List (Rule × XtCounters)}
    (h : (listing.map (·.1)).filterMap (awkMatch ifName filter) <+: readOrder) :
    ∃ stats, netdevSimParseXtablesL3Stats (some (awkLines ifName filter listing)) = some stats ∧
      ∀ type, stats.get type = totals (ownCounters ifName type filter listing) := by
  obtain ⟨stats, hparse, hget⟩ := parse_lines ((matched ifName filter listing).map (·.2))
  rw [List.map_map] at hparse
  refine ⟨stats, (congrArg _ (congrArg some (awkLines_eq listing))).trans hparse, fun type => ?_⟩
  rw [hget, ownCounters_eq]
  rw [← types_matched] at h
  exact ReadRight.of_prefix h type

/-- The members are the sums over the rules of the interface. -/
structure L3Members.SumsOf (l3 : L3Members) (ifName : String)
    (tables : Xtables → IfFilter → List (Rule × XtCounters)) : Prop where
  ipv4 : ∀ type filter,
    l3 .ipv4 type filter = totals (ownCounters ifName type filter (tables .iptables filter))
  ipv6 : ∀ type filter,
    l3 .ipv6 type filter = totals (ownCounters ifName type filter (tables .ip6tables filter))
  l3 : ∀ type filter, l3 .l3 type filter =
    ⟨(l3 .ipv4 type filter).packets + (l3 .ipv6 type filter).packets,
      (l3 .ipv4 type filter).bytes + (l3 .ipv6 type filter).bytes⟩

/-- All members are read, or one of the pipes cannot be opened. -/
theorem netdevSimGetKernelL3Stats_cases (l3 : L3Members)
    (hpopen : ∀ x filter, popen x filter = none ∨
      popen x filter = some (awkLines ifName filter (tables x filter)))
    (haligned : ∀ x filter,
      ((tables x filter).map (·.1)).filterMap (awkMatch ifName filter) <+: readOrder) :
    (netdevSimGetKernelL3Stats popen l3).Ensures (fun _ => ∃ x filter, popen x filter = none)
      fun l3' => (∀ x filter, popen x filter ≠ none) ∧ l3'.SumsOf ifName tables := by
  have hread : ∀ x group filter l3, (readL3Members (popen x filter) group filter l3).Ensures
      (fun _ => ∃ x filter, popen x filter = none) fun l3' => popen x filter ≠ none ∧
        ∃ stats : KernelL3Stats, l3' = l3.set group filter stats ∧
          ∀ type, stats.get type = totals (ownCounters ifName type filter (tables x filter)) := by
    intro x group filter l3
    rcases hpopen x filter with hnone | hsome
    · rw [hnone]
      exact ⟨x, filter, hnone⟩
    · obtain ⟨stats, hparse, hget⟩ := parse_awkLines (haligned x filter)
      rw [readL3Members, hsome, hparse]
      exact ⟨Option.some_ne_none _, stats, rfl, hget⟩
  refine (hread .iptables .ipv4 .i l3).bind fun l3₁ h₁ => ?_
  refine (hread .iptables .ipv4 .o l3₁).bind fun l3₂ h₂ => ?_
  refine (hread .ip6tables .ipv6 .i l3₂).bind fun l3₃ h₃ => ?_
  refine (hread .ip6tables .ipv6 .o l3₃).bind fun l3₄ h₄ => ?_
  obtain ⟨hopen₁, stats₁, rfl, hget₁⟩ := h₁
  obtain ⟨hopen₂, stats₂, rfl, hget₂⟩ := h₂
  obtain ⟨hopen₃, stats₃, rfl, hget₃⟩ := h₃
  obtain ⟨hopen₄, stats₄, rfl, hget₄⟩ := h₄
  refine ⟨fun x filter => ?_, ?_, ?_, fun type filter => rfl⟩
  · cases x <;> cases filter <;> assumption
  · intro type filter
    cases filter with
    | i => exact hget₁ type
    | o => exact hget₂ type
  · intro type filter
    cases filter with
    | i => exact hget₃ type
    | o => exact hget₄ type

end L3

/-! ## Calls of a netdev -/

/-- What a call meets: whether the first system calls succeed and the replies after which `recvmsg`
fails, the tables that the four pipes print and which of them cannot be opened. -/
structure StatsEnv where
  socket : Bool
  bind : Bool
  sendmsg : Bool
  replies : List Reply
  tables : Xtables → IfFilter → List (Rule × XtCounters)
  popenFails : Xtables → IfFilter → Bool

def StatsEnv.netlink (env : StatsEnv) : NetlinkEnv :=
  ⟨env.socket, env.bind, env.sendmsg, fun i => env.replies.getD i .failed⟩

def StatsEnv.popen (env : StatsEnv) (ifName : String) (x : Xtables) (filter : IfFilter) :
    Option (List (List Char)) :=
  if env.popenFails x filter then none else some (awkLines ifName filter (env.tables x filter))

/-- A netdev and the `SFLOW` rules of its port, which are read without failures. -/
structure StatsMonitor where
  linuxIntfName : String
  kernel : NetdevStats
  l3 : L3Members
  l3StatsEnabled : Bool
  monitor : Monitor

/-- `netdev_sim_construct`, after `netdev_sim_alloc` has set everything to zero -/
def StatsMonitor.initial (ifName : String) : StatsMonitor :=
  ⟨ifName, ⟨0, 0, 0, 0, 0, 0, 0, 0, 0, 0, 0⟩, fun _ _ _ => ⟨0, 0⟩, false, .initial⟩

def StatsMonitor.dev (s : StatsMonitor) : StatsNetdev :=
  ⟨s.linuxIntfName, s.kernel, s.l3, s.l3StatsEnabled, s.monitor.netdev⟩

def StatsMonitor.getStats (s : StatsMonitor) (env : StatsEnv) :
    Option (Option PublishedStats × StatsNetdev) :=
  netdevSimGetStats env.netlink (env.popen s.linuxIntfName) s.monitor.read
    (env.replies.length + 1) s.dev

def Event.isPoll : Event → Bool
  | .poll => true
  | .sample _ | .remove _ | .install => false

inductive StatsEvent where
  /-- Packets, or a change of the `SFLOW` rules. -/
  | sflow (e : Event) (hpoll : e.isPoll = false)
  /-- A thread has created or deleted the rules for the L3 statistics. -/
  | l3stats (enabled : Bool)
  | getStats (env : StatsEnv)

/-- The values of the `SFLOW` rules count as polled if the call returns 0. -/
def StatsMonitor.step (s : StatsMonitor) : StatsEvent → StatsMonitor
  | .sflow e _ => { s with monitor := s.monitor.step e }
  | .l3stats enabled => { s with l3StatsEnabled := enabled }
  | .getStats env =>
    match s.getStats env with
    | none => s
    | some (stats, dev) =>
      { s with
        kernel := dev.kernel
        l3 := dev.l3
        monitor :=
          { if stats.isSome then s.monitor.step .poll else s.monitor with netdev := dev.sflow } }

/-- Every line of the `SFLOW` rules fits its buffer and their totals fit 64 bits, and the rules for
the L3 statistics are printed in the order in which they are read. -/
def StatsEvent.Regular (s : StatsMonitor) : StatsEvent → Prop
  | .sflow e _ => e.Regular s.monitor ∧ e.Counted s.monitor
  | .l3stats _ => True
  | .getStats env => (∀ k, s.monitor.counters k < 10 ^ 15) ∧
    (∀ k, (s.monitor.step .poll).total k < 2 ^ 64) ∧ ∀ x filter,
      ((env.tables x filter).map (·.1)).filterMap (awkMatch s.linuxIntfName filter) <+: readOrder

instance : Fintype Xtables where
  elems := {.iptables, .ip6tables}
  complete x := by cases x <;> decide

instance : Fintype IfFilter where
  elems := {.i, .o}
  complete filter := by cases filter <;> decide

instance StatsEvent.decidableRegular (s : StatsMonitor) : ∀ e : StatsEvent, Decidable (e.Regular s)
  | .sflow _ _ => inferInstanceAs (Decidable (_ ∧ _))
  | .l3stats _ => inferInstanceAs (Decidable True)
  | .getStats _ => inferInstanceAs (Decidable (_ ∧ _ ∧ _))

/-- The kernel answers, and if the L3 statistics are enabled all pipes can be opened. -/
def StatsEnv.Readable (env : StatsEnv) (s : StatsMonitor) : Prop :=
  (∃ stats, env.netlink.Answers s.kernel stats) ∧
    (s.l3StatsEnabled = true → ∀ x filter, env.popenFails x filter = false)

/-- What is published: the counters of the link that the kernel has sent last, the sums over the L3
rules of the interface if they are enabled, and for sFlow the sums, over the generations of rules, of
what was read last by a call that returned 0. The sFlow counters are no less than those published
before and no more than was counted. -/
structure StatsEnv.Publishes (env : StatsEnv) (s : StatsMonitor) (stats : PublishedStats) : Prop where
  kernel : env.netlink.Answers s.kernel stats.kernel
  l3 : s.l3StatsEnabled = true → stats.l3.SumsOf s.linuxIntfName env.tables
  disabled : s.l3StatsEnabled = false → stats.l3 = s.l3
  sflow : ∀ k, (stats.sflow k).toNat = (s.monitor.step .poll).total k
  grows : ∀ k, s.monitor.netdev.stats k ≤ stats.sflow k
  counted : ∀ k, (stats.sflow k).toNat ≤ s.monitor.counted k

/-- The call returns, and it publishes exactly if everything can be read. -/
def StatsEvent.Exact (s : StatsMonitor) : StatsEvent → Prop
  | .getStats env => ∃ stats dev, s.getStats env = some (stats, dev) ∧
    (stats.isSome = true ↔ env.Readable s) ∧ ∀ published ∈ stats, env.Publishes s published
  | .sflow .. | .l3stats _ => True

section Calls

variable {s : StatsMonitor} {env : StatsEnv}

theorem StatsEnv.stopsAt (env : StatsEnv) : env.netlink.StopsAt env.replies.length := by
  intro i hi
  simp [StatsEnv.netlink, List.getElem?_eq_none hi]

theorem StatsEnv.popen_eq_none_iff {ifName : String} {x : Xtables} {filter : IfFilter} :
    env.popen ifName x filter = none ↔ env.popenFails x filter = true := by
  rw [StatsEnv.popen]
  split
  case isTrue h => exact iff_of_true rfl h
  case isFalse h => exact iff_of_false (Option.some_ne_none _) h

/-- What a call does that publishes: the sFlow members are those that the poll leaves. -/
structure StatsEnv.Succeeds (env : StatsEnv) (s : StatsMonitor) (stats : PublishedStats)
    (dev : StatsNetdev) : Prop where
  readable : env.Readable s
  kernel : env.netlink.Answers s.kernel stats.kernel
  l3 : s.l3StatsEnabled = true → stats.l3.SumsOf s.linuxIntfName env.tables
  disabled : s.l3StatsEnabled = false → stats.l3 = s.l3
  published : stats.sflow = (s.monitor.step .poll).netdev.stats
  sflow : dev.sflow = (s.monitor.step .poll).netdev

/-- A call publishes, or something cannot be read and the sFlow members stay as they are. -/
theorem StatsMonitor.getStats_cases (hregular : (StatsEvent.getStats env).Regular s) :
    ∃ stats dev, s.getStats env = some (stats, dev) ∧
      ((stats = none ∧ ¬ env.Readable s ∧ dev.sflow = s.monitor.netdev) ∨
        ∃ published, stats = some published ∧ env.Succeeds s published dev) := by
  obtain ⟨-, -, haligned⟩ := hregular
  have hpopen : ∀ x filter, env.popen s.linuxIntfName x filter = none ∨
      env.popen s.linuxIntfName x filter =
        some (awkLines s.linuxIntfName filter (env.tables x filter)) := by
    intro x filter
    rw [StatsEnv.popen]
    split
    · exact .inl rfl
    · exact .inr rfl
  have hset := netdevSimGetKernelL3Stats_cases s.l3 hpopen haligned
  obtain ⟨rc, kernel, hresult, ⟨rfl, hanswers⟩ | ⟨rfl, hnone⟩⟩ :=
    env.stopsAt.netdevGetKernelStats s.kernel
  · have hkernel : netdevGetKernelStats env.netlink (env.replies.length + 1) s.dev.kernel =
        some (0, kernel) := hresult
    simp only [StatsMonitor.getStats, netdevSimGetStats, hkernel, Option.bind_eq_bind,
      Option.bind_some, lt_irrefl, if_false]
    cases hl3 : s.l3StatsEnabled with
    | false =>
      have hdev : s.dev.l3StatsEnabled = false := hl3
      simp only [hdev, Bool.false_eq_true, if_false]
      refine ⟨_, _, rfl, .inr ⟨_, rfl, ⟨⟨kernel, hanswers⟩, ?_⟩, hanswers, ?_, fun _ => rfl, rfl,
        rfl⟩⟩
      · exact fun henabled => absurd (hl3.symm.trans henabled) Bool.false_ne_true
      · exact fun henabled => absurd (hl3.symm.trans henabled) Bool.false_ne_true
    | true =>
      have hdev : s.dev.l3StatsEnabled = true := hl3
      simp only [hdev, if_true]
      cases hread : netdevSimGetKernelL3Stats (env.popen s.linuxIntfName) s.l3 with
      | error l3 =>
        obtain ⟨x, filter, hfails⟩ := hset.of_error hread
        have hdevRead : netdevSimGetKernelL3Stats (env.popen s.linuxIntfName) s.dev.l3 = .error l3 :=
          hread
        simp only [hdevRead]
        refine ⟨_, _, rfl, .inl ⟨rfl, fun hreadable => ?_, rfl⟩⟩
        have hopen := hreadable.2 hl3 x filter
        rw [StatsEnv.popen_eq_none_iff.mp hfails] at hopen
        cases hopen
      | ok l3 =>
        obtain ⟨hopen, hsums⟩ := hset.of_ok hread
        have hdevRead : netdevSimGetKernelL3Stats (env.popen s.linuxIntfName) s.dev.l3 = .ok l3 :=
          hread
        simp only [hdevRead]
        refine ⟨_, _, rfl, .inr ⟨_, rfl, ⟨⟨kernel, hanswers⟩, fun _ x filter => ?_⟩, hanswers,
          fun _ => hsums, ?_, rfl, rfl⟩⟩
        · rw [← Bool.not_eq_true, ← StatsEnv.popen_eq_none_iff]
          exact hopen x filter
        · exact fun hdisabled => absurd (hl3.symm.trans hdisabled) Bool.false_ne_true.symm
  · have hkernel : netdevGetKernelStats env.netlink (env.replies.length + 1) s.dev.kernel =
        some (-1, kernel) := hresult
    have hneg : (-1 : ℤ) < 0 := by decide
    simp only [StatsMonitor.getStats, netdevSimGetStats, hkernel, Option.bind_eq_bind,
      Option.bind_some, hneg, if_true]
    refine ⟨_, _, rfl, .inl ⟨rfl, fun hreadable => ?_, rfl⟩⟩
    obtain ⟨stats, hstats⟩ := hreadable.1
    exact hnone stats hstats

/-- For sFlow a call that publishes is a poll, and a call that gives up never was. -/
theorem StatsMonitor.monitor_getStats (hregular : (StatsEvent.getStats env).Regular s) :
    (s.step (.getStats env)).monitor = s.monitor ∨
      (s.step (.getStats env)).monitor = s.monitor.step .poll := by
  obtain ⟨stats, dev, hstats, ⟨rfl, -, hsflow⟩ | ⟨published, rfl, hsucceeds⟩⟩ :=
    StatsMonitor.getStats_cases hregular
  · refine .inl ?_
    simp only [StatsMonitor.step, hstats, hsflow]
    rfl
  · refine .inr ?_
    simp only [StatsMonitor.step, hstats, hsucceeds.sflow]
    rfl

variable {prev : Counter → ℕ} {e : StatsEvent}

theorem StatsMonitor.inv_step (h : s.monitor.Inv prev) (hregular : e.Regular s) :
    ∃ prev', (s.step e).monitor.Inv prev' := by
  cases e with
  | sflow e hpoll => exact h.step hregular.1 hregular.2
  | l3stats enabled => exact ⟨prev, h⟩
  | getStats env =>
    rcases StatsMonitor.monitor_getStats hregular with hmonitor | hmonitor
    · exact ⟨prev, hmonitor.symm ▸ h⟩
    · exact ⟨s.monitor.counters, hmonitor.symm ▸ h.poll hregular.1 hregular.2.1⟩

/-- What a call publishes of sFlow are the totals after the poll. -/
theorem StatsEnv.Succeeds.publishes {stats : PublishedStats} {dev : StatsNetdev}
    (hsucceeds : env.Succeeds s stats dev) (h : s.monitor.Inv prev)
    (hprinted : ∀ k, s.monitor.counters k < 10 ^ 15)
    (htotal : ∀ k, (s.monitor.step .poll).total k < 2 ^ 64) : env.Publishes s stats := by
  have hpoll := h.poll hprinted htotal
  have hsflow : ∀ k, (stats.sflow k).toNat = (s.monitor.step .poll).total k := by
    intro k
    rw [hsucceeds.published, hpoll.toNat_stats k]
  refine ⟨hsucceeds.kernel, hsucceeds.l3, hsucceeds.disabled, hsflow, fun k => ?_, fun k => ?_⟩
  · rw [UInt64.le_iff_toNat_le, h.toNat_stats k, hsflow k]
    exact h.total_mono .poll k
  · rw [hsflow k]
    exact hpoll.bounded k

theorem StatsEvent.exact_of_inv (h : s.monitor.Inv prev) (hregular : e.Regular s) : e.Exact s := by
  cases e with
  | sflow e hpoll => trivial
  | l3stats enabled => trivial
  | getStats env =>
    obtain ⟨stats, dev, hstats, ⟨rfl, hreadable, -⟩ | ⟨published, rfl, hsucceeds⟩⟩ :=
      StatsMonitor.getStats_cases hregular
    · refine ⟨none, dev, hstats, iff_of_false Bool.false_ne_true hreadable, ?_⟩
      rintro _ ⟨⟩
    · refine ⟨some published, dev, hstats, iff_of_true rfl hsucceeds.readable, ?_⟩
      rintro _ ⟨⟩
      exact hsucceeds.publishes h hregular.1 hregular.2.1

end Calls

/-- Along every run of packets, changes of the rules and calls, in which any part of a call may fail,
each call publishes exactly if all that it is to read can be read, and then it publishes the counters
of the link, the sums over the L3 rules and all that sFlow has counted up to the call. -/
theorem published_stats_exact (ifName : String) {es : List StatsEvent}
    (h : Along StatsMonitor.step StatsEvent.Regular (.initial ifName) es) :
    Along StatsMonitor.step StatsEvent.Exact (.initial ifName) es := by
  have hinv : Always StatsMonitor.step (fun s => ∃ prev, s.monitor.Inv prev) (.initial ifName)
      es := by
    refine .of_along ?_ ⟨0, .initial⟩ h
    rintro s e ⟨prev, hs⟩ hregular
    exact StatsMonitor.inv_step hs hregular
  refine Along.of_always ?_ hinv h
  rintro s e - ⟨prev, hs⟩ hregular
  exact StatsEvent.exact_of_inv hs hregular

/-- The answer of the kernel, and a table with rules of the interface `1` among others. -/
def sampleStatsEnv : StatsEnv where
  socket := true
  bind := true
  sendmsg := true
  replies := [Datagram.reply linkDatagram]
  tables _ filter := [(.other "-j ACCEPT", ⟨9, 900⟩), (.pkttype filter "1" .unicast, ⟨3, 300⟩),
    (.pkttype filter "2" .unicast, ⟨5, 500⟩), (.pkttype filter "1" .multicast, ⟨1, 60⟩)]
  popenFails _ _ := false

/-- Two calls that give up between two that publish. -/
theorem published_stats_exact_after_failures :
    Along StatsMonitor.step StatsEvent.Exact (.initial "1")
      [.sflow .install rfl, .sflow (.sample (packets 5)) rfl, .getStats sampleStatsEnv,
        .sflow (.sample (packets 7)) rfl, .getStats { sampleStatsEnv with replies := [] },
        .l3stats true, .getStats { sampleStatsEnv with popenFails := fun x _ => x = .ip6tables },
        .getStats sampleStatsEnv] :=
  published_stats_exact "1" (by decide +kernel)

end ContainerPlugin.Netdev
