import Mathlib.Algebra.BigOperators.Group.List.Basic
import Mathlib.Algebra.Order.Ring.Int
import ContainerPlugin.Copp.Basic

/-!
# The totals over `/proc/net/dev`

The file has two lines of headings and a row for each interface. With names that leave room for the
colon and the terminator in `devName`, the statistics are the sums over the rows that are not
ignored, whatever their order.
-/

namespace ContainerPlugin.Copp

open Scan Loop

/-- A counter as the kernel prints it, behind at least one blank. -/
structure Field where
  pad : ℕ
  value : ℕ
  value_lt : value < 2 ^ 64

def Field.text (f : Field) : List Char := List.replicate (f.pad + 1) ' ' ++ f.value.repr.toList

/-- A character of the name of an interface. -/
def isNameChar (c : Char) : Bool := !isSpace c && c != '\x00'

/-- A row as the kernel prints it: the name of an interface has 1 to 15 characters, none of them a
blank. -/
structure DevRow where
  pad : ℕ
  name : List Char
  rxBytes : Field
  rxPkts : Field
  rxErrs : Field
  rxDrop : Field
  others : List Field
  name_ne : name ≠ []
  name_le : name.length ≤ 15
  name_plain : name.all isNameChar = true

/-- What follows the colon. -/
def DevRow.counters (row : DevRow) : List Char :=
  row.rxBytes.text ++ (row.rxPkts.text ++ (row.rxErrs.text ++ (row.rxDrop.text ++
    row.others.flatMap Field.text)))

def DevRow.line (row : DevRow) : List Char :=
  List.replicate row.pad ' ' ++ (row.name ++ [':'] ++ row.counters)

/-- The lines of a file; the last one may lack its newline. -/
def textOf (newline : Bool) : List (List Char) → List Char
  | [] => []
  | line :: lines =>
    if lines = [] ∧ newline = false then line else line ++ '\n' :: textOf newline lines

/-- `/proc/net/dev` -/
def procNetDev (newline : Bool) (heading heading' : List Char) (rows : List DevRow) : List Char :=
  textOf newline (heading :: heading' :: rows.map DevRow.line)

/-- The interface is none of those that are left out. -/
def DevRow.Counted (row : DevRow) : Prop :=
  row.name ∉ ["ovs-netdev".toList, "bridge_normal".toList, "lo".toList]

instance (row : DevRow) : Decidable row.Counted := inferInstanceAs (Decidable (_ ∉ _))

/-- The sum of a column over the interfaces that count, modulo `2 ^ 64`. -/
def columnSum (column : DevRow → Field) (rows : List DevRow) : UInt64 :=
  .ofNat ((rows.filter fun row => row.Counted).map fun row => (column row).value).sum

def totals (rows : List DevRow) : ProtocolStats :=
  ⟨columnSum (·.rxPkts) rows, columnSum (·.rxBytes) rows, columnSum (·.rxDrop) rows, -1⟩

/-- The statistics of the rows, in whatever order the file has them, with no name that is too long
for `devName`. -/
structure CoppTotals (newline : Bool) (heading heading' : List Char) (rows : List DevRow) :
    Prop where
  stored : ∀ row ∈ rows, devNameBytes row.line ≤ ifNamesize
  result : ∀ rows', rows'.Perm rows → ∀ stats, Yields (fun fuel => simCoppStatsGet fuel
    (.ok (procNetDev newline heading heading' rows')) .defaultUnknown stats) (.ok (0, totals rows))

/-! ## One row -/

section Row

variable {row : DevRow} {rest : List Char}

theorem DevRow.isSpace_of_mem_name (row : DevRow) {c : Char} (hc : c ∈ row.name) :
    isSpace c = false := by
  have hplain := List.all_eq_true.mp row.name_plain c hc
  rw [isNameChar, Bool.and_eq_true, Bool.not_eq_true'] at hplain
  exact hplain.1

theorem isSpace_of_mem_replicate {n : ℕ} {c : Char} (h : c ∈ List.replicate n ' ') :
    isSpace c = true := by
  rw [List.eq_of_mem_replicate h]
  rfl

theorem Field.stops_text (f : Field) : Stops Char.isDigit (f.text ++ rest) := by
  intro c hc
  rw [Field.text, List.replicate_succ] at hc
  cases hc
  rfl

theorem stops_fields (hrest : Stops Char.isDigit rest) (fs : List Field) :
    Stops Char.isDigit (fs.flatMap Field.text ++ rest) := by
  cases fs with
  | nil => exact hrest
  | cons f fs =>
    rw [List.flatMap_cons, List.append_assoc]
    exact f.stops_text

theorem Field.scanUlong_text (f : Field) (hrest : Stops Char.isDigit rest) :
    scanUlong (f.text ++ rest) = some (UInt64.ofNat f.value, rest) := by
  rw [Field.text, List.append_assoc]
  exact scanUlong_repr (fun _ hc => isSpace_of_mem_replicate hc) f.value_lt hrest

theorem DevRow.scanCounters_counters (hrest : Stops Char.isDigit rest) :
    scanCounters (row.counters ++ rest) = some (.ofNat row.rxBytes.value, .ofNat row.rxPkts.value,
      .ofNat row.rxErrs.value, .ofNat row.rxDrop.value) := by
  simp only [scanCounters, DevRow.counters, List.append_assoc, Field.stops_text,
    Field.scanUlong_text, stops_fields hrest, Option.bind_eq_bind, Option.bind_some]
  rfl

/-- `%s` reads the name with its colon. -/
theorem DevRow.scanWord_line (row : DevRow) (rest : List Char) :
    scanWord (row.line ++ rest) = some (row.name ++ [':'], row.counters ++ rest) := by
  have hword : ∀ c ∈ row.name ++ [':'], isSpace c = false := by
    intro c hc
    rcases List.mem_append.mp hc with hc | hc
    · exact row.isSpace_of_mem_name hc
    · rw [List.mem_singleton.mp hc]
      rfl
  have hne : row.name ++ [':'] ≠ [] := List.append_ne_nil_of_right_ne_nil _ (List.cons_ne_nil _ _)
  have hstops : Stops (!isSpace ·) (row.counters ++ rest) := by
    intro c hc
    rw [DevRow.counters, Field.text, List.replicate_succ] at hc
    cases hc
    rfl
  rw [DevRow.line, List.append_assoc, List.append_assoc _ row.counters]
  exact scanWord_append (fun _ hc => isSpace_of_mem_replicate hc) hne hword hstops

theorem DevRow.devNameBytes_line (row : DevRow) (rest : List Char) :
    devNameBytes (row.line ++ rest) = row.name.length + 2 := by
  simp only [devNameBytes, row.scanWord_line, List.length_append, List.length_singleton]

theorem strncmpEq_iff {s t : List Char} {n : ℕ} (hs : s.length < n) (ht : t.length < n) :
    strncmpEq s t n = true ↔ s = t := by
  have hlength : ∀ u : List Char, u.length < n → (u ++ ['\x00']).take n = u ++ ['\x00'] := by
    intro u hu
    apply List.take_of_length_le
    rw [List.length_append, List.length_singleton]
    omega
  rw [strncmpEq, hlength s hs, hlength t ht, decide_eq_true_iff, List.append_left_inj]

/-- A name with an ignored name as its beginning is not ignored. -/
theorem DevRow.isIgnoreRow_iff (hname : row.name.length ≤ 14) :
    isIgnoreRow (row.name ++ [':']) rowIgnoreList = true ↔ ¬ row.Counted := by
  have hlength : (row.name ++ [':']).length < ifNamesize := by
    rw [List.length_append, List.length_singleton]
    exact Nat.lt_succ_of_le (Nat.succ_le_succ hname)
  have hignored : rowIgnoreList =
      ["ovs-netdev".toList, "bridge_normal".toList, "lo".toList].map (· ++ [':']) := by decide
  have hshort : ∀ name ∈ ["ovs-netdev".toList, "bridge_normal".toList, "lo".toList],
      (name ++ [':']).length < ifNamesize := by decide
  rw [DevRow.Counted, not_not, isIgnoreRow, hignored, List.any_map, List.any_eq_true]
  constructor
  · rintro ⟨name, hmem, hcmp⟩
    have heq := (strncmpEq_iff hlength (hshort name hmem)).mp hcmp
    rw [List.append_left_inj] at heq
    rw [heq]
    exact hmem
  · intro hmem
    exact ⟨row.name, hmem, (strncmpEq_iff hlength hlength).mpr rfl⟩

/-- What a row adds. -/
def ProtocolStats.addRow (stats : ProtocolStats) (row : DevRow) : ProtocolStats :=
  if row.Counted then
    { stats with
      packetsPassed := stats.packetsPassed + .ofNat row.rxPkts.value
      bytesPassed := stats.bytesPassed + .ofNat row.rxBytes.value
      packetsDropped := stats.packetsDropped + .ofNat row.rxDrop.value }
  else stats

theorem DevRow.parseCoppStats_line (hname : row.name.length ≤ 14)
    (hrest : Stops Char.isDigit rest) (stats : ProtocolStats) :
    parseCoppStats (row.line ++ rest) stats = .ok (stats.addRow row) := by
  have hbytes : ¬ ifNamesize < devNameBytes (row.line ++ rest) := by
    rw [row.devNameBytes_line]
    exact Nat.not_lt.mpr (Nat.add_le_add_right hname 2)
  simp only [parseCoppStats, row.scanWord_line, hbytes, if_false, row.isIgnoreRow_iff hname,
    DevRow.scanCounters_counters hrest, ProtocolStats.addRow]
  by_cases hcounted : row.Counted
  · simp only [hcounted, not_true_eq_false, if_false, if_true]
  · simp only [hcounted, not_false_eq_true, if_true, if_false]

end Row

/-! ## The loop -/

section Rows

variable {newline : Bool} {line heading heading' : List Char} {lines : List (List Char)}
  {rows : List DevRow} {n : ℕ} {stats stats' : ProtocolStats}

/-- The next line is read; it ends the loop only if it is the last one and lacks its newline. -/
theorem RowLoop.step_line (newline : Bool) (lines : List (List Char)) (hline : '\n' ∉ line)
    (hne : line ≠ [] ∨ ¬ (lines = [] ∧ newline = false))
    (hparse : ∀ rest, rest = [] ∨ rest = ['\n'] →
      (if n + 1 < 3 then .ok stats else parseCoppStats (line ++ rest) stats) = .ok stats') :
    RowLoop.step ⟨n, ⟨textOf newline (line :: lines), false⟩, stats⟩ =
      if lines = [] ∧ newline = false then .inr (finish stats')
      else .inl ⟨n + 1, ⟨textOf newline lines, false⟩, stats'⟩ := by
  rw [textOf]
  by_cases hlast : lines = [] ∧ newline = false
  · have hparsed := hparse [] (.inl rfl)
    have hne := hne.resolve_right (not_not_intro hlast)
    rw [List.append_nil] at hparsed
    simp only [RowLoop.step, if_pos hlast, Stream.getline_last hline, if_neg hne, hparsed, if_true]
  · have hparsed := hparse ['\n'] (.inr rfl)
    simp only [RowLoop.step, if_neg hlast, Stream.getline_line hline, hparsed,
      Bool.false_eq_true, if_false]

/-- Behind the last newline. -/
theorem RowLoop.step_nil (hn : 0 < n) :
    RowLoop.step ⟨n, ⟨[], false⟩, stats⟩ = .inr (finish stats) := by
  have hnum : ¬ n + 1 ≤ 1 := by omega
  simp only [RowLoop.step, Stream.getline, List.dropWhile_nil, if_true, if_neg hnum]

/-- A row is a line of its own. -/
theorem DevRow.newline_notMem_line (row : DevRow) : '\n' ∉ row.line := by
  have hfield : ∀ f : Field, '\n' ∉ f.text := by
    intro f hmem
    rcases List.mem_append.mp hmem with hmem | hmem
    · cases List.eq_of_mem_replicate hmem
    · exact Words.notMem_repr rfl _ hmem
  have hothers : '\n' ∉ row.others.flatMap Field.text := by
    intro hmem
    obtain ⟨f, -, hmem⟩ := List.mem_flatMap.mp hmem
    exact hfield f hmem
  have hname : '\n' ∉ row.name := by
    intro hmem
    cases row.isSpace_of_mem_name hmem
  have hpad : '\n' ∉ List.replicate row.pad ' ' := fun hmem => nomatch List.eq_of_mem_replicate hmem
  simp only [DevRow.line, DevRow.counters, List.mem_append, List.mem_singleton, hfield, hothers,
    hname, hpad, or_self, not_false_eq_true, Char.reduceEq]

theorem DevRow.line_ne_nil (row : DevRow) : row.line ≠ [] := by
  rw [DevRow.line, List.append_assoc]
  exact List.append_ne_nil_of_right_ne_nil _ (List.append_ne_nil_of_left_ne_nil row.name_ne _)

/-- The rest of the loop, where the headings have been read. -/
theorem runs_rows (newline : Bool) (stats : ProtocolStats) (hn : 2 ≤ n)
    (hnames : ∀ row ∈ rows, row.name.length ≤ 14) :
    ∃ rounds, Runs RowLoop.step ⟨n, ⟨textOf newline (rows.map DevRow.line), false⟩, stats⟩ rounds
      (finish (rows.foldl ProtocolStats.addRow stats)) := by
  induction rows generalizing n stats with
  | nil => exact ⟨_, .done (RowLoop.step_nil (by omega))⟩
  | cons row rows ih =>
    obtain ⟨hname, hnames⟩ := List.forall_mem_cons.mp hnames
    have hparse : ∀ rest, rest = [] ∨ rest = ['\n'] →
        (if n + 1 < 3 then .ok stats else parseCoppStats (row.line ++ rest) stats) =
          .ok (stats.addRow row) := by
      intro rest hrest
      rw [if_neg (by omega)]
      apply row.parseCoppStats_line hname
      rcases hrest with rfl | rfl
      · exact fun c hc => nomatch hc
      · intro c hc
        cases hc
        rfl
    have hstep := RowLoop.step_line newline (rows.map DevRow.line)
      row.newline_notMem_line (.inl row.line_ne_nil) hparse
    rw [List.map_cons, List.foldl_cons]
    split at hstep
    · rename_i hlast
      have hrows := List.map_eq_nil_iff.mp hlast.1
      subst hrows
      exact ⟨_, .done hstep⟩
    · obtain ⟨rounds, hruns⟩ := ih (n := n + 1) (stats.addRow row) (by omega) hnames
      exact ⟨_, .next hstep hruns⟩

/-- The headings are passed over. -/
theorem runs_procNetDev (newline : Bool) (stats : ProtocolStats)
    (hheading : '\n' ∉ heading) (hheading' : '\n' ∉ heading')
    (hnames : ∀ row ∈ rows, row.name.length ≤ 14) :
    ∃ rounds, Runs RowLoop.step ⟨0, ⟨procNetDev newline heading heading' rows, false⟩, stats⟩ rounds
      (finish (rows.foldl ProtocolStats.addRow stats)) := by
  have hskip : ∀ n line, n < 2 → ∀ rest : List Char, rest = [] ∨ rest = ['\n'] →
      (if n + 1 < 3 then .ok stats else parseCoppStats (line ++ rest) stats) = .ok stats :=
    fun n line hn rest _ => if_pos (by omega)
  have hfirst := RowLoop.step_line newline (heading' :: rows.map DevRow.line)
    hheading (.inr fun h => nomatch h.1) (hskip 0 heading (by decide))
  rw [if_neg fun h => nomatch h.1] at hfirst
  suffices hrest : ∃ rounds, Runs RowLoop.step
      ⟨1, ⟨textOf newline (heading' :: rows.map DevRow.line), false⟩, stats⟩ rounds
      (finish (rows.foldl ProtocolStats.addRow stats)) by
    obtain ⟨rounds, hruns⟩ := hrest
    exact ⟨_, .next hfirst hruns⟩
  by_cases hempty : heading' = [] ∧ rows = [] ∧ newline = false
  · -- the second heading is an empty line without a newline
    obtain ⟨rfl, rfl, rfl⟩ := hempty
    exact ⟨_, .done (RowLoop.step_nil (by decide))⟩
  · have hne : heading' ≠ [] ∨ ¬ (rows.map DevRow.line = [] ∧ newline = false) := by
      by_contra hnot
      obtain ⟨hnil, hlast⟩ := not_or.mp hnot
      rw [not_not, List.map_eq_nil_iff] at hlast
      exact hempty ⟨not_not.mp hnil, hlast⟩
    have hsecond := RowLoop.step_line newline (rows.map DevRow.line) hheading' hne
      (hskip 1 heading' (by decide))
    split at hsecond
    · rename_i hlast
      have hrows := List.map_eq_nil_iff.mp hlast.1
      subst hrows
      exact ⟨_, .done hsecond⟩
    · obtain ⟨rounds, hruns⟩ := runs_rows newline stats le_rfl hnames
      exact ⟨_, .next hsecond hruns⟩

/-- The rows that count are added up. -/
theorem foldl_addRow (rows : List DevRow) (stats : ProtocolStats) :
    rows.foldl ProtocolStats.addRow stats = { stats with
      packetsPassed := stats.packetsPassed + columnSum (·.rxPkts) rows
      bytesPassed := stats.bytesPassed + columnSum (·.rxBytes) rows
      packetsDropped := stats.packetsDropped + columnSum (·.rxDrop) rows } := by
  induction rows generalizing stats with
  | nil => simp [columnSum]
  | cons row rows ih =>
    rw [List.foldl_cons, ih, ProtocolStats.addRow]
    by_cases hcounted : row.Counted
    · simp [columnSum, hcounted, UInt64.add_assoc]
    · simp [columnSum, hcounted]

theorem columnSum_perm {rows' : List DevRow} (h : rows'.Perm rows) (column : DevRow → Field) :
    columnSum column rows' = columnSum column rows := by
  rw [columnSum, columnSum, ((h.filter _).map _).sum_eq]

theorem totals_perm {rows' : List DevRow} (h : rows'.Perm rows) : totals rows' = totals rows := by
  simp only [totals, columnSum_perm h]

end Rows

/-- The statistics are right if and only if every name leaves room for the colon and the terminator
in `devName`: it has at most 14 characters. -/
theorem copp_totals_iff {newline : Bool} {heading heading' : List Char} {rows : List DevRow}
    (hheading : '\n' ∉ heading) (hheading' : '\n' ∉ heading') :
    CoppTotals newline heading heading' rows ↔ ∀ row ∈ rows, row.name.length ≤ 14 := by
  constructor
  · intro h row hrow
    have hstored := h.stored row hrow
    have hbytes := row.devNameBytes_line []
    rw [List.append_nil] at hbytes
    rw [hbytes, ifNamesize] at hstored
    omega
  · intro hnames
    refine ⟨fun row hrow => ?_, fun rows' hperm stats => ?_⟩
    · have hbytes := row.devNameBytes_line []
      rw [List.append_nil] at hbytes
      rw [hbytes, ifNamesize]
      exact Nat.add_le_add_right (hnames row hrow) 2
    · have hnames' : ∀ row ∈ rows', row.name.length ≤ 14 :=
        fun row hrow => hnames row (hperm.mem_iff.mp hrow)
      obtain ⟨rounds, hruns⟩ := runs_procNetDev newline { stats with
        bytesPassed := 0, packetsPassed := 0, packetsDropped := 0 } hheading hheading' hnames'
      rw [foldl_addRow] at hruns
      have hresult : finish { stats with
          packetsPassed := 0 + columnSum (·.rxPkts) rows'
          bytesPassed := 0 + columnSum (·.rxBytes) rows'
          packetsDropped := 0 + columnSum (·.rxDrop) rows' } = .ok (0, totals rows) := by
        rw [← totals_perm hperm]
        simp [finish, totals]
      rw [hresult] at hruns
      exact hruns.yields

def headings : List (List Char) :=
  ["Inter-|   Receive                                                |  Transmit".toList,
    " face |bytes    packets errs drop fifo frame compressed multicast|bytes".toList]

/-- A field of the width of the kernel, as far as one digit is concerned. -/
def digit (value : Fin 10) : Field := ⟨6, value, by omega⟩

/-- The ignored loopback interface. -/
def loopback : DevRow where
  pad := 4
  name := "lo".toList
  rxBytes := digit 8
  rxPkts := digit 1
  rxErrs := digit 0
  rxDrop := digit 0
  others := [digit 8, digit 1]
  name_ne := by decide +kernel
  name_le := by decide +kernel
  name_plain := by decide +kernel

/-- An interface with a name of 14 characters, which begins like an ignored one. -/
def loopPort : DevRow where
  pad := 0
  name := "lo123456789012".toList
  rxBytes := digit 7
  rxPkts := digit 2
  rxErrs := digit 0
  rxDrop := digit 1
  others := []
  name_ne := by decide +kernel
  name_le := by decide +kernel
  name_plain := by decide +kernel

/-- Only the second interface counts. -/
theorem copp_totals_of_loopback :
    CoppTotals false headings[0] headings[1] [loopback, loopPort] ∧
      totals [loopback, loopPort] = ⟨2, 7, 1, -1⟩ := by
  have hnames : ∀ row ∈ [loopback, loopPort], row.name.length ≤ 14 := by decide +kernel
  exact ⟨(copp_totals_iff (by decide +kernel) (by decide +kernel)).mpr hnames, by decide +kernel⟩

/-- An interface with a name of 15 characters. -/
def longPort : DevRow where
  pad := 0
  name := "interface123456".toList
  rxBytes := digit 7
  rxPkts := digit 2
  rxErrs := digit 0
  rxDrop := digit 1
  others := []
  name_ne := by decide +kernel
  name_le := by decide +kernel
  name_plain := by decide +kernel

/-- With the colon and the terminator it takes 17 bytes. -/
theorem longest_name_overflows : ¬ ∀ (newline : Bool) (heading heading' : List Char)
    (rows : List DevRow), '\n' ∉ heading → '\n' ∉ heading' →
    CoppTotals newline heading heading' rows := by
  intro h
  have hstored := (h true headings[0] headings[1] [longPort] (by decide +kernel)
    (by decide +kernel)).stored longPort List.mem_cons_self
  revert hstored
  decide +kernel

end ContainerPlugin.Copp
