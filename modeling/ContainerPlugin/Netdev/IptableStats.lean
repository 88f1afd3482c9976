import Mathlib.Data.Fintype.Basic
import Mathlib.Data.Nat.Digits.Defs
import ContainerPlugin.Lib.Words

/-!
# Reading the `SFLOW` rules

`netdev_sim_get_iptable_stats` reads the packets of a direction and then the bytes, each as a line with
the sum over the rules, into a buffer that takes 15 characters of it.
-/

namespace ContainerPlugin.Netdev

inductive Counter where
  | ingressPkts
  | ingressBytes
  | egressPkts
  | egressBytes
  deriving DecidableEq

instance : Fintype Counter where
  elems := {.ingressPkts, .ingressBytes, .egressPkts, .egressBytes}
  complete k := by cases k <;> decide

/-- What `fgets` leaves of a line in `char buffer[16]`, without the end of the line. -/
def fgetsBuffer (output : List Char) : List Char := (output.take 15).takeWhile (· ≠ '\n')

/-- `atoll` of a line without blanks and signs -/
def atoll (line : List Char) : ℕ := Nat.ofDigitChars 10 (line.takeWhile (·.isDigit)) 0

/-- `netdev_sim_get_iptable_stats`: the packets and the bytes of a direction. The arguments are the
outputs of the two commands, or `none` where `fgets` returns NULL. -/
def netdevSimGetIptableStats (pktsOutput bytesOutput : Option (List Char)) : UInt64 × UInt64 :=
  match pktsOutput with
  | none => (0, 0)
  | some pkts =>
    match bytesOutput with
    | none => (.ofNat (atoll (fgetsBuffer pkts)), 0)
    | some bytes => (.ofNat (atoll (fgetsBuffer pkts)), .ofNat (atoll (fgetsBuffer bytes)))

/-- What the calls for the two directions return; an output is `none` where `fgets` returns NULL. -/
def readCounters (output : Counter → Option (List Char)) : Counter → UInt64
  | .ingressPkts => (netdevSimGetIptableStats (output .ingressPkts) (output .ingressBytes)).1
  | .ingressBytes => (netdevSimGetIptableStats (output .ingressPkts) (output .ingressBytes)).2
  | .egressPkts => (netdevSimGetIptableStats (output .egressPkts) (output .egressBytes)).1
  | .egressBytes => (netdevSimGetIptableStats (output .egressPkts) (output .egressBytes)).2

/-- The line that `awk` prints for a sum. -/
def sumLine (n : ℕ) : List Char := n.repr.toList ++ ['\n']

/-- A number with at most 15 digits fits the buffer. -/
theorem atoll_sumLine {n : ℕ} (h : n < 10 ^ 15) : atoll (fgetsBuffer (sumLine n)) = n := by
  have hlength : n.repr.toList.length ≤ 15 := by
    rw [Nat.toList_repr]
    exact Nat.toDigits_length 10 n 15 (by omega) h
  have hnewline : ∀ c ∈ n.repr.toList, (decide (c ≠ '\n')) = true := by
    intro c hc
    exact decide_eq_true fun heq => Words.notMem_repr rfl n (heq ▸ hc)
  have hdigits : ∀ c ∈ n.repr.toList, c.isDigit = true := fun c hc => Words.isDigit_of_mem_repr hc
  -- at most the newline is cut off
  have hline : fgetsBuffer (sumLine n) = n.repr.toList := by
    rw [fgetsBuffer, sumLine, List.take_append, List.take_of_length_le hlength,
      List.takeWhile_append_of_pos hnewline]
    cases 15 - n.repr.toList.length <;> simp
  have hall : n.repr.toList.takeWhile (·.isDigit) = n.repr.toList := by
    rw [← List.append_nil n.repr.toList, List.takeWhile_append_of_pos hdigits]
    rfl
  rw [hline, atoll, hall, Nat.toList_repr, Nat.ofDigitChars_ten_toDigits]

theorem toNat_ofNat_of_fits {n : ℕ} (h : n < 10 ^ 15) : (UInt64.ofNat n).toNat = n := by
  rw [UInt64.toNat_ofNat']
  exact Nat.mod_eq_of_lt (by omega)

/-- A failed read of the packets makes the bytes zero as well. -/
theorem netdevSimGetIptableStats_sums {pkts bytes : ℕ} (hpkts : pkts < 10 ^ 15)
    (hbytes : bytes < 10 ^ 15) (failsPkts failsBytes : Bool) :
    netdevSimGetIptableStats (if failsPkts then none else some (sumLine pkts))
        (if failsBytes then none else some (sumLine bytes)) =
      (if failsPkts then 0 else .ofNat pkts,
        if failsPkts || failsBytes then 0 else .ofNat bytes) := by
  cases failsPkts with
  | true => rfl
  | false =>
    cases failsBytes with
    | true => simp [netdevSimGetIptableStats, atoll_sumLine hpkts]
    | false => simp [netdevSimGetIptableStats, atoll_sumLine hpkts, atoll_sumLine hbytes]

/-- Lines that are all read are taken for the numbers in the buffer. -/
theorem readCounters_some {output : Counter → List Char} {counters : Counter → ℕ}
    (h : ∀ k, atoll (fgetsBuffer (output k)) = counters k) :
    readCounters (fun k => some (output k)) = fun k => .ofNat (counters k) := by
  funext k
  cases k <;> simp only [readCounters, netdevSimGetIptableStats, h]

end ContainerPlugin.Netdev
