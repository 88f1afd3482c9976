import ContainerPlugin.Netdev.SflowStats

/-!
# sFlow counters that cannot be read

`netdev_sim_get_iptable_stats` leaves a value at zero when its read fails, and that is how a poll
recognises rules that were installed again.
-/

namespace ContainerPlugin.Netdev

open Runs

/-! ## Polls with failing reads -/

/-- The counters of the rules when they are read, and for which of them `fgets` returns NULL. -/
structure Poll where
  counters : Counter → ℕ
  fails : Counter → Bool

def Poll.output (p : Poll) (k : Counter) : Option (List Char) :=
  if p.fails k then none else some (sumLine (p.counters k))

def Poll.read (p : Poll) : Counter → UInt64 := readCounters p.output

/-- The poll does not get the counter: its read fails, or the one before it in the same call. -/
def Poll.lost (p : Poll) : Counter → Bool
  | .ingressPkts => p.fails .ingressPkts
  | .ingressBytes => p.fails .ingressPkts || p.fails .ingressBytes
  | .egressPkts => p.fails .egressPkts
  | .egressBytes => p.fails .egressPkts || p.fails .egressBytes

/-- Every counter fits the buffer. -/
def Poll.Printed (p : Poll) : Prop := ∀ k, p.counters k < 10 ^ 15

instance (p : Poll) : Decidable p.Printed := inferInstanceAs (Decidable (∀ _, _))

theorem Poll.read_eq {p : Poll} (hprinted : p.Printed) (k : Counter) :
    p.read k = if p.lost k then 0 else .ofNat (p.counters k) := by
  have hin := netdevSimGetIptableStats_sums (hprinted .ingressPkts) (hprinted .ingressBytes)
    (p.fails .ingressPkts) (p.fails .ingressBytes)
  have hout := netdevSimGetIptableStats_sums (hprinted .egressPkts) (hprinted .egressBytes)
    (p.fails .egressPkts) (p.fails .egressBytes)
  cases k with
  | ingressPkts => exact congrArg Prod.fst hin
  | ingressBytes => exact congrArg Prod.snd hin
  | egressPkts => exact congrArg Prod.fst hout
  | egressBytes => exact congrArg Prod.snd hout

/-- A netdev and the counters of its rules when they were read last. -/
structure Polled where
  netdev : NetdevSim
  counters : Counter → ℕ

def Polled.step (s : Polled) (p : Poll) : Polled :=
  ⟨netdevSimUpdateSflowStats p.read s.netdev, p.counters⟩

/-- The rules were installed, and nothing has been read of them. -/
structure NetdevSim.Fresh (netdev : NetdevSim) : Prop where
  enabled : netdev.sflowStatsEnabled = true
  prev : ∀ k, netdev.sflowPrev k = 0
  stats : ∀ k, netdev.stats k = 0

/-- The counters of one generation of rules never decrease, and need no more than 64 bits. -/
def Poll.Regular (s : Polled) (p : Poll) : Prop :=
  ∀ k, s.counters k ≤ p.counters k ∧ p.counters k < 2 ^ 64

instance (s : Polled) (p : Poll) : Decidable (p.Regular s) := inferInstanceAs (Decidable (∀ _, _))

/-- No published counter exceeds the one of the rules. -/
def Polled.Bounded (s : Polled) : Prop := ∀ k, (s.netdev.stats k).toNat ≤ s.counters k

instance (s : Polled) : Decidable s.Bounded := inferInstanceAs (Decidable (∀ _, _))

/-- No published counter decreases in the poll. -/
def Poll.Grows (s : Polled) (p : Poll) : Prop :=
  ∀ k, s.netdev.stats k ≤ (s.step p).netdev.stats k

/-- Packets that the previous poll has read are lost. -/
def Poll.LosesPackets (s : Polled) (p : Poll) : Prop :=
  p.lost .ingressPkts = true ∧ s.netdev.sflowPrev .ingressPkts ≠ 0 ∨
    p.lost .egressPkts = true ∧ s.netdev.sflowPrev .egressPkts ≠ 0

instance (s : Polled) (p : Poll) : Decidable (p.LosesPackets s) :=
  inferInstanceAs (Decidable (_ ∨ _))

/-- Of the counters that are published, the poll loses those that the previous poll has lost and no
others, unless it loses packets that the previous poll has read: then it loses all of them. -/
def Poll.Safe (s : Polled) (p : Poll) : Prop :=
  ∀ k, s.netdev.stats k ≠ 0 →
    (p.lost k = true ↔ p.LosesPackets s ∨ s.netdev.sflowPrev k = 0)

instance (s : Polled) (p : Poll) : Decidable (p.Safe s) := inferInstanceAs (Decidable (∀ _, _))

/-! ## The invariant -/

/-- Of every counter, the last poll has read what is published, or nothing. -/
structure Polled.Inv (s : Polled) : Prop where
  enabled : s.netdev.sflowStatsEnabled = true
  prev : ∀ k, s.netdev.sflowPrev k = s.netdev.stats k ∨ s.netdev.sflowPrev k = 0
  fresh : s.netdev.sflowResets ≠ 0 → ∀ k, s.netdev.stats k = 0
  bounded : s.Bounded

theorem NetdevSim.Fresh.inv {netdev : NetdevSim} (h : netdev.Fresh) : Polled.Inv ⟨netdev, 0⟩ where
  enabled := h.enabled
  prev k := .inr (h.prev k)
  fresh _ := h.stats
  bounded k := by simp [h.stats k]

section Step

variable {s : Polled} {p : Poll}

/-- The poll takes the rules for new ones. -/
def Poll.SeesReset (s : Polled) (p : Poll) : Prop :=
  s.netdev.sflowResets > 0 ∨ s.netdev.sflowPrev .ingressPkts > p.read .ingressPkts ∨
    s.netdev.sflowPrev .egressPkts > p.read .egressPkts

instance (s : Polled) (p : Poll) : Decidable (p.SeesReset s) := inferInstanceAs (Decidable (_ ∨ _))

theorem Polled.Inv.stats_step (h : s.Inv) (p : Poll) (k : Counter) :
    (s.step p).netdev.stats k = s.netdev.stats k +
      (p.read k - if p.SeesReset s then 0 else s.netdev.sflowPrev k) := by
  simp only [Polled.step, netdevSimUpdateSflowStats, h.enabled, if_true]
  split
  case isTrue hreset =>
    have hreset : p.SeesReset s := hreset
    rw [if_pos hreset]
    grind
  case isFalse hreset =>
    have hreset : ¬ p.SeesReset s := hreset
    rw [if_neg hreset]

theorem Polled.Inv.sflowPrev_step (h : s.Inv) (p : Poll) (k : Counter) :
    (s.step p).netdev.sflowPrev k = p.read k := by
  simp only [Polled.step, netdevSimUpdateSflowStats, h.enabled, if_true]

/-- What is read is at least what the previous poll has read, or nothing. -/
theorem Polled.Inv.read_lt_iff (h : s.Inv) (hregular : p.Regular s) (hprinted : p.Printed)
    (k : Counter) : p.read k < s.netdev.sflowPrev k ↔ p.lost k = true ∧ s.netdev.sflowPrev k ≠ 0 := by
  have hread := Poll.read_eq hprinted k
  have hle : (s.netdev.sflowPrev k).toNat ≤ p.counters k := by
    rcases h.prev k with hprev | hprev
    · rw [hprev]
      exact (h.bounded k).trans (hregular k).1
    · rw [hprev]
      exact Nat.zero_le _
  rw [UInt64.lt_iff_toNat_lt, hread]
  cases hlost : p.lost k with
  | true =>
    have hzero : s.netdev.sflowPrev k ≠ 0 ↔ (s.netdev.sflowPrev k).toNat ≠ 0 := by
      rw [ne_eq, ← UInt64.toNat_inj]
      rfl
    simp only [hzero, if_true, true_and, UInt64.toNat_zero]
    omega
  | false =>
    have hlt := (hregular k).2
    simp only [Bool.false_eq_true, if_false, false_and, iff_false, UInt64.toNat_ofNat',
      Nat.mod_eq_of_lt hlt]
    omega

/-- From the second poll on, the rules look new exactly if packets are lost. -/
theorem Polled.Inv.seesReset_iff (h : s.Inv) (hregular : p.Regular s) (hprinted : p.Printed)
    (hresets : s.netdev.sflowResets = 0) : p.SeesReset s ↔ p.LosesPackets s := by
  have hzero : ¬ s.netdev.sflowResets > 0 := by simp [hresets]
  rw [Poll.SeesReset, Poll.LosesPackets, ← h.read_lt_iff hregular hprinted,
    ← h.read_lt_iff hregular hprinted]
  exact or_iff_right hzero

section Added

variable {stats prev cur : UInt64} {lost : Bool} {old new : ℕ}

/-- A published counter grows to at most its new value if it is lost exactly when what is taken for
its old value is zero. -/
theorem added_iff (hprev : prev = stats ∨ prev = 0)
    (hcur : cur = if lost then 0 else .ofNat new) (hold : stats.toNat ≤ old) (hle : old ≤ new)
    (hlt : new < 10 ^ 15) :
    ((stats + (cur - prev)).toNat ≤ new ∧ stats ≤ stats + (cur - prev)) ↔
      (stats ≠ 0 → (lost = true ↔ prev = 0)) := by
  have hnew := toNat_ofNat_of_fits hlt
  have hzero : stats = 0 ↔ stats.toNat = 0 := by
    rw [← UInt64.toNat_inj]
    rfl
  rw [UInt64.le_iff_toNat_le, ne_eq, hzero]
  cases lost with
  | true =>
    obtain rfl : cur = 0 := hcur
    rcases hprev with rfl | rfl
    · -- the counter falls back to zero
      have hadded : (prev + (0 - prev)).toNat = 0 := by
        have hsum : prev + (0 - prev) = 0 := by grind
        rw [hsum]
        rfl
      simp only [hadded, hzero, eq_self, true_iff]
      omega
    · have hadded : stats + (0 - 0) = stats := by grind
      rw [hadded]
      exact iff_of_true ⟨hold.trans hle, le_rfl⟩ fun _ => iff_of_true rfl rfl
  | false =>
    obtain rfl : cur = .ofNat new := hcur
    rcases hprev with rfl | rfl
    · have hadded : prev + (UInt64.ofNat new - prev) = .ofNat new := by grind
      rw [hadded, hnew, hzero]
      exact iff_of_true ⟨le_rfl, hold.trans hle⟩ fun hne => iff_of_false nofun hne
    · -- what was published is counted a second time
      have hadded : (stats + (UInt64.ofNat new - 0)).toNat = stats.toNat + new := by
        rw [UInt64.sub_zero, UInt64.toNat_add, hnew]
        exact Nat.mod_eq_of_lt (by omega)
      rw [hadded]
      constructor
      · rintro ⟨hle, -⟩ hne
        omega
      · intro h
        have hstats : stats.toNat = 0 := by
          by_contra hne
          exact absurd ((h hne).mpr rfl) nofun
        omega

/-- Then what was read is what is published, or nothing. -/
theorem read_eq_added (hprev : prev = stats ∨ prev = 0)
    (hcur : cur = if lost then 0 else .ofNat new)
    (hlost : stats ≠ 0 → (lost = true ↔ prev = 0)) : cur = stats + (cur - prev) ∨ cur = 0 := by
  cases lost with
  | true => exact .inr hcur
  | false =>
    have hsame : prev = stats := by
      rcases hprev with hprev | hprev
      · exact hprev
      · by_contra hne
        have hstats : stats ≠ 0 := fun hstats => hne (hprev.trans hstats.symm)
        exact absurd ((hlost hstats).mpr hprev) nofun
    rw [hsame]
    exact .inl (by grind)

end Added

/-- What a poll takes for the previous reading is what is published, or zero. -/
theorem Polled.Inv.taken (h : s.Inv) (k : Counter) :
    (if p.SeesReset s then 0 else s.netdev.sflowPrev k) = s.netdev.stats k ∨
      (if p.SeesReset s then 0 else s.netdev.sflowPrev k) = 0 := by
  split
  · exact .inr rfl
  · exact h.prev k

/-- A safe poll is one that takes zero for the previous readings exactly where it loses a counter. -/
theorem Polled.Inv.safe_eq (h : s.Inv) (hregular : p.Regular s) (hprinted : p.Printed)
    (k : Counter) :
    (s.netdev.stats k ≠ 0 →
        (p.lost k = true ↔ (if p.SeesReset s then 0 else s.netdev.sflowPrev k) = 0)) ↔
      (s.netdev.stats k ≠ 0 → (p.lost k = true ↔ p.LosesPackets s ∨ s.netdev.sflowPrev k = 0)) := by
  by_cases hresets : s.netdev.sflowResets = 0
  · rw [← h.seesReset_iff hregular hprinted hresets]
    by_cases hsees : p.SeesReset s
    · simp [hsees]
    · simp [hsees]
  · have hstats := h.fresh hresets k
    exact iff_of_true (fun hne => absurd hstats hne) fun hne => absurd hstats hne

theorem Polled.Inv.safe_iff (h : s.Inv) (hregular : p.Regular s) (hprinted : p.Printed) :
    (s.step p).Bounded ∧ p.Grows s ↔ p.Safe s := by
  rw [Polled.Bounded, Poll.Grows, ← forall_and, Poll.Safe]
  apply forall_congr'
  intro k
  rw [h.stats_step, ← h.safe_eq hregular hprinted]
  exact added_iff (h.taken k) (Poll.read_eq hprinted k) (h.bounded k) (hregular k).1 (hprinted k)

/-- A safe poll keeps the invariant. -/
theorem Polled.Inv.step (h : s.Inv) (hregular : p.Regular s) (hprinted : p.Printed)
    (hsafe : p.Safe s) : (s.step p).Inv where
  enabled := h.enabled
  prev k := by
    rw [h.sflowPrev_step, h.stats_step]
    have hlost := (h.safe_eq hregular hprinted k).mpr (hsafe k)
    exact read_eq_added (h.taken k) (Poll.read_eq hprinted k) hlost
  fresh hresets := absurd rfl hresets
  bounded := ((h.safe_iff hregular hprinted).mpr hsafe).1

end Step

/-- Along a run of polls the published counters never decrease and never exceed those of the rules,
if and only if every poll is safe. -/
theorem failed_reads_harmless_iff {netdev : NetdevSim} (hfresh : netdev.Fresh) {polls : List Poll}
    (hregular : Along Polled.step Poll.Regular ⟨netdev, 0⟩ polls)
    (hprinted : ∀ p ∈ polls, p.Printed) :
    Always Polled.step Polled.Bounded ⟨netdev, 0⟩ polls ∧
        Along Polled.step Poll.Grows ⟨netdev, 0⟩ polls ↔
      Along Polled.step Poll.Safe ⟨netdev, 0⟩ polls := by
  have hinv : ∀ s, ∀ p ∈ polls, Polled.Inv s → p.Regular s → p.Safe s → (s.step p).Inv :=
    fun s p hp h hregular hsafe => h.step hregular (hprinted p hp) hsafe
  have hstep : ∀ s, ∀ p ∈ polls, Polled.Inv s → p.Regular s →
      ((s.step p).Bounded ∧ p.Grows s ↔ p.Safe s) :=
    fun s p hp h hregular => h.safe_iff hregular (hprinted p hp)
  exact always_and_along_iff hinv hstep hfresh.inv hfresh.inv.bounded hregular

/-- A netdev whose rules were just installed. -/
def freshNetdev : NetdevSim := netdevSflowStatsEnable (netdevSflowReset netdevSimConstruct) true

theorem freshNetdev_fresh : freshNetdev.Fresh := ⟨rfl, fun _ => rfl, fun _ => rfl⟩

/-- A poll of incoming packets of 100 bytes in which the reads `failed` fail. -/
def Poll.ofPackets (n : ℕ) (failed : List Counter) : Poll := ⟨packets n, (· ∈ failed)⟩

/-- Nothing can be read before the first packet, and outgoing packets never. -/
theorem failed_reads_before_packets :
    let polls : List Poll := [.ofPackets 0 [.ingressPkts], .ofPackets 5 [.egressPkts],
      .ofPackets 7 [.egressBytes]]
    Always Polled.step Polled.Bounded ⟨freshNetdev, 0⟩ polls ∧
      Along Polled.step Poll.Grows ⟨freshNetdev, 0⟩ polls :=
  (failed_reads_harmless_iff freshNetdev_fresh (by decide +kernel) (by decide +kernel)).mpr
    (by decide +kernel)

/-- One failed read between two others: all packets are counted twice. -/
theorem packets_counted_twice : ¬ ∀ (netdev : NetdevSim) (polls : List Poll), netdev.Fresh →
    Along Polled.step Poll.Regular ⟨netdev, 0⟩ polls →
    Always Polled.step Polled.Bounded ⟨netdev, 0⟩ polls ∧
      Along Polled.step Poll.Grows ⟨netdev, 0⟩ polls := by
  intro h
  let polls : List Poll := [.ofPackets 5 [], .ofPackets 5 [.ingressPkts], .ofPackets 5 []]
  have hbounded := (h freshNetdev polls freshNetdev_fresh (by decide +kernel)).1.last
  revert hbounded
  decide +kernel

end ContainerPlugin.Netdev
