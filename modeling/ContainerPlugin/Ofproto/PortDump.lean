import Mathlib.Data.Finset.Basic
import ContainerPlugin.Lib.Loop

/-!
# Dumping the ports

`port_dump_next` returns one port at a time: those of `ports`, then those of `ghost_ports`, without
the names that no device has. Between the calls the state of the dump tells which set is enumerated
and at which position; the enumeration itself is `sset_at_position` of OVS.
-/

namespace ContainerPlugin.Ofproto.PortDump

open Loop

/-- `struct ofproto_port` -/
structure OfprotoPort where
  name : String
  type : String
  ofpPort : ℕ
  deriving DecidableEq

/-- `OFPP_NONE` -/
def ofppNone : ℕ := 0xffff

def enodev : ℤ := 19

/-- `EOF` -/
def eof : ℤ := -1

/-- What the dump sees of a `struct sim_provider_node`; `portByName` is that of `up`. -/
structure SimProviderNode (Sset : Type*) where
  ports : Sset
  ghostPorts : Sset
  portByName : String → Option ℕ

/-- `struct sim_provider_port_dump_state`; the port is `none` as long as it is zeroed. -/
structure SimProviderPortDumpState where
  bucket : ℕ
  offset : ℕ
  ghost : Bool
  port : Option OfprotoPort
  hasPort : Bool

/-- What is called of OVS. -/
structure Env (Sset : Type*) where
  netdevGetTypeFromName : String → Option String
  ssetAtPosition : Sset → ℕ × ℕ → Option String × ℕ × ℕ

variable {Sset : Type*} (env : Env Sset) (ofproto : SimProviderNode Sset)

/-- `port_query_by_name`: the error, and the port if there is none. -/
def portQueryByName (devname : String) : ℤ × Option OfprotoPort :=
  match env.netdevGetTypeFromName devname with
  | some type =>
    let ofport := ofproto.portByName devname
    (0, some ⟨devname, type, ofport.getD ofppNone⟩)
  | none => (enodev, none)

/-- `port_dump_start` -/
def portDumpStart : SimProviderPortDumpState := ⟨0, 0, false, none, false⟩

/-- A round of the loop over a set. The loop ends with the value that the function returns, or with
`none` at the end of the set. -/
def dumpRound (sset : Sset) (state : SimProviderPortDumpState) :
    SimProviderPortDumpState ⊕ (SimProviderPortDumpState × Option ℤ) :=
  let (node, bucket, offset) := env.ssetAtPosition sset (state.bucket, state.offset)
  let state := { state with bucket := bucket, offset := offset }
  match node with
  | none => .inr (state, none)
  | some name =>
    let (error, port) := portQueryByName env ofproto name
    if error = 0 then .inr ({ state with port := port, hasPort := true }, some 0)
    else if error ≠ enodev then .inr (state, some error)
    else .inl state

/-- `port_dump_next`: the value that is returned, and what `*port` is set to. The fuel is for the
rounds of the loop and for the recursion. -/
def portDumpNext : ℕ → SimProviderPortDumpState →
    Option (SimProviderPortDumpState × ℤ × Option OfprotoPort)
  | 0, _ => none
  | fuel + 1, state => do
    let sset := if state.ghost then ofproto.ghostPorts else ofproto.ports
    let (state, ret) ← run (dumpRound env ofproto sset) fuel { state with hasPort := false }
    match ret with
    | some error => some (state, error, if error = 0 then state.port else none)
    | none =>
      if state.ghost then some (state, eof, none)
      else portDumpNext fuel { state with ghost := true, bucket := 0, offset := 0 }

/-- `port_dump_next` is called until it does not return 0: the ports that it has returned, and the
last value. -/
def portDump : ℕ → SimProviderPortDumpState → Option (List OfprotoPort × ℤ)
  | 0, _ => none
  | fuel + 1, state => do
    let (state, error, port) ← portDumpNext env ofproto fuel state
    if error = 0 then
      let (ports, error) ← portDump fuel state
      some (port.toList ++ ports, error)
    else some ([], error)

/-! ## The enumeration of a set -/

/-- From a position on, `at_position` gives the names of the list and then a null pointer. -/
inductive Visits (atPosition : ℕ × ℕ → Option String × ℕ × ℕ) : ℕ × ℕ → List String → Prop
  | done {position : ℕ × ℕ} (h : (atPosition position).1 = none) : Visits atPosition position []
  | next {position position' : ℕ × ℕ} {name : String} {names : List String}
    (h : atPosition position = (some name, position')) (hrest : Visits atPosition position' names) :
    Visits atPosition position (name :: names)

/-- From the start, `at_position` visits each element of the set once. -/
structure Enumerates (atPosition : ℕ × ℕ → Option String × ℕ × ℕ) (elements : Finset String) :
    Prop where
  exists_visits : ∃ names, Visits atPosition (0, 0) names ∧ names.Nodup ∧
    ∀ name, name ∈ names ↔ name ∈ elements

section Dump

variable {env : Env Sset} {ofproto : SimProviderNode Sset} {state : SimProviderPortDumpState}
  {sset : Sset} {names : List String}

theorem portQueryByName_cases (env : Env Sset) (ofproto : SimProviderNode Sset) (name : String) :
    (∃ port, portQueryByName env ofproto name = (0, some port)) ∨
      portQueryByName env ofproto name = (enodev, none) := by
  rw [portQueryByName]
  cases env.netdevGetTypeFromName name with
  | none => exact .inr rfl
  | some type => exact .inl ⟨_, rfl⟩

/-- The ports that the names are reported with. -/
def reported (env : Env Sset) (ofproto : SimProviderNode Sset) (names : List String) :
    List OfprotoPort :=
  names.filterMap fun name => (portQueryByName env ofproto name).2

theorem map_name_reported (names : List String) :
    (reported env ofproto names).map (·.name) =
      names.filter fun name => (env.netdevGetTypeFromName name).isSome := by
  rw [reported]
  induction names with
  | nil => rfl
  | cons name names ih =>
    cases htype : env.netdevGetTypeFromName name with
    | none =>
      rw [List.filterMap_cons_none (by rw [portQueryByName, htype]), ih,
        List.filter_cons_of_neg (by simp [htype])]
    | some type =>
      rw [List.filterMap_cons_some (by rw [portQueryByName, htype]), List.map_cons, ih,
        List.filter_cons_of_pos (by simp [htype])]

/-- One round: the end of the set, a port to be reported, or a name to be skipped. -/
theorem dumpRound_done (ofproto : SimProviderNode Sset)
    (h : (env.ssetAtPosition sset (state.bucket, state.offset)).1 = none) :
    ∃ state', dumpRound env ofproto sset state = .inr (state', none) ∧
      state'.ghost = state.ghost := by
  simp only [dumpRound]
  rw [h]
  exact ⟨_, rfl, rfl⟩

theorem dumpRound_next (ofproto : SimProviderNode Sset) {name : String} {position : ℕ × ℕ}
    (h : env.ssetAtPosition sset (state.bucket, state.offset) = (some name, position)) :
    dumpRound env ofproto sset state =
      match (portQueryByName env ofproto name).2 with
      | some port => .inr (⟨position.1, position.2, state.ghost, some port, true⟩, some 0)
      | none => .inl { state with bucket := position.1, offset := position.2 } := by
  simp only [dumpRound, h]
  obtain ⟨port, hport⟩ | hnone := portQueryByName_cases env ofproto name
  · rw [hport]
    rfl
  · rw [hnone]
    rfl

/-- The loop over a set, where the names are still to come, ends with a null pointer if no port is to
be reported, and otherwise with the first port, the others still to come. -/
theorem exists_runs_dumpRound (ofproto : SimProviderNode Sset) (state : SimProviderPortDumpState)
    (h : Visits (env.ssetAtPosition sset) (state.bucket, state.offset) names) :
    ∃ rounds state' ret, Runs (dumpRound env ofproto sset) state rounds (state', ret) ∧
      state'.ghost = state.ghost ∧
      match reported env ofproto names with
      | [] => ret = none
      | port :: ports => ret = some 0 ∧ state'.port = some port ∧
        ∃ names', Visits (env.ssetAtPosition sset) (state'.bucket, state'.offset) names' ∧
          reported env ofproto names' = ports := by
  induction names generalizing state with
  | nil =>
    cases h with
    | done h =>
      obtain ⟨state', hround, hghost⟩ := dumpRound_done ofproto h
      exact ⟨[state], state', none, .done hround, hghost, rfl⟩
  | cons name names ih =>
    cases h with
    | @next _ position _ _ h hrest =>
      have hround := dumpRound_next ofproto h
      cases hquery : (portQueryByName env ofproto name).2 with
      | none =>
        rw [hquery] at hround
        obtain ⟨rounds, state', ret, hruns, hghost, hret⟩ :=
          ih ⟨position.1, position.2, state.ghost, state.port, state.hasPort⟩ hrest
        have hreported : reported env ofproto (name :: names) = reported env ofproto names :=
          List.filterMap_cons_none hquery
        rw [hreported]
        exact ⟨state :: rounds, state', ret, .next hround hruns, hghost, hret⟩
      | some port =>
        rw [hquery] at hround
        have hreported : reported env ofproto (name :: names) =
            port :: reported env ofproto names := List.filterMap_cons_some hquery
        rw [hreported]
        exact ⟨[state], _, some 0, .done hround, rfl, rfl, rfl, names, hrest, rfl⟩

/-! ## Calls -/

/-- The ports that the dump has still to report: those of the rest of the current set, and before the
switch those of all ghost ports. -/
inductive Remaining (env : Env Sset) (ofproto : SimProviderNode Sset) :
    SimProviderPortDumpState → List OfprotoPort → Prop
  | ports {state : SimProviderPortDumpState} {names ghostNames : List String}
    (hghost : state.ghost = false)
    (h : Visits (env.ssetAtPosition ofproto.ports) (state.bucket, state.offset) names)
    (hrest : Visits (env.ssetAtPosition ofproto.ghostPorts) (0, 0) ghostNames) :
    Remaining env ofproto state (reported env ofproto names ++ reported env ofproto ghostNames)
  | ghostPorts {state : SimProviderPortDumpState} {names : List String}
    (hghost : state.ghost = true)
    (h : Visits (env.ssetAtPosition ofproto.ghostPorts) (state.bucket, state.offset) names) :
    Remaining env ofproto state (reported env ofproto names)

/-- A call reports the first of the ports, and the others remain; if there is none, it returns
`EOF`. -/
def Reports (env : Env Sset) (ofproto : SimProviderNode Sset) (state : SimProviderPortDumpState) :
    List OfprotoPort → Prop
  | [] => ∃ state', Yields (portDumpNext env ofproto · state) (state', eof, none)
  | port :: ports => ∃ state', Yields (portDumpNext env ofproto · state) (state', 0, some port) ∧
      Remaining env ofproto state' ports

/-- A call is its loop, and what is done after it. -/
theorem yields_portDumpNext {rounds : List SimProviderPortDumpState}
    {state' : SimProviderPortDumpState} {ret : Option ℤ}
    {result : SimProviderPortDumpState × ℤ × Option OfprotoPort}
    (hsset : sset = if state.ghost then ofproto.ghostPorts else ofproto.ports)
    (hruns : Runs (dumpRound env ofproto sset) { state with hasPort := false } rounds (state', ret))
    (hrest : Yields (fun fuel =>
      match ret with
      | some error => some (state', error, if error = 0 then state'.port else none)
      | none =>
        if state'.ghost then some (state', eof, none)
        else portDumpNext env ofproto fuel { state' with ghost := true, bucket := 0, offset := 0 })
      result) :
    Yields (portDumpNext env ofproto · state) result := by
  subst hsset
  exact .of_succ (fun fuel => rfl) (hruns.yields.bind hrest)

theorem Reports.of_yields {state' : SimProviderPortDumpState} {ports : List OfprotoPort}
    (h : Reports env ofproto state' ports)
    (hcall : ∀ {result}, Yields (portDumpNext env ofproto · state') result →
      Yields (portDumpNext env ofproto · state) result) : Reports env ofproto state ports := by
  cases ports with
  | nil =>
    obtain ⟨state'', hresult⟩ := h
    exact ⟨state'', hcall hresult⟩
  | cons port ports =>
    obtain ⟨state'', hresult, hrest⟩ := h
    exact ⟨state'', hcall hresult, hrest⟩

theorem reports_ghostPorts (hghost : state.ghost = true)
    (h : Visits (env.ssetAtPosition ofproto.ghostPorts) (state.bucket, state.offset) names) :
    Reports env ofproto state (reported env ofproto names) := by
  obtain ⟨rounds, state', ret, hruns, hghost', hret⟩ := exists_runs_dumpRound ofproto
    { state with hasPort := false } h
  replace hghost' : state'.ghost = true := hghost'.trans hghost
  have hsset : ofproto.ghostPorts = if state.ghost then ofproto.ghostPorts else ofproto.ports := by
    rw [hghost, if_pos rfl]
  cases hnames : reported env ofproto names with
  | nil =>
    rw [hnames] at hret
    subst hret
    refine ⟨state', yields_portDumpNext hsset hruns ?_⟩
    simp only [hghost', if_true]
    exact .some _
  | cons port ports =>
    rw [hnames] at hret
    obtain ⟨rfl, hport, names', hrest, rfl⟩ := hret
    refine ⟨state', yields_portDumpNext hsset hruns ?_, .ghostPorts hghost' hrest⟩
    simp only [hport, if_true]
    exact .some _

/-- The switch to the ghost ports is made by a recursive call, when no port of the first set is left
to be reported. -/
theorem Remaining.reports {ports : List OfprotoPort} (h : Remaining env ofproto state ports) :
    Reports env ofproto state ports := by
  cases h with
  | ghostPorts hghost h => exact reports_ghostPorts hghost h
  | @ports names ghostNames hghost h hrest =>
    obtain ⟨rounds, state', ret, hruns, hghost', hret⟩ := exists_runs_dumpRound ofproto
      { state with hasPort := false } h
    replace hghost' : state'.ghost = false := hghost'.trans hghost
    have hsset : ofproto.ports = if state.ghost then ofproto.ghostPorts else ofproto.ports := by
      rw [hghost, if_neg Bool.false_ne_true]
    cases hnames : reported env ofproto names with
    | nil =>
      rw [hnames] at hret
      subst hret
      have hghosts : Reports env ofproto { state' with ghost := true, bucket := 0, offset := 0 }
          (reported env ofproto ghostNames) := reports_ghostPorts rfl hrest
      refine hghosts.of_yields fun hresult => yields_portDumpNext hsset hruns ?_
      simp only [hghost', Bool.false_eq_true, if_false]
      exact hresult
    | cons port ports =>
      rw [hnames] at hret
      obtain ⟨rfl, hport, names', hnames', rfl⟩ := hret
      refine ⟨state', yields_portDumpNext hsset hruns ?_, .ports hghost' hnames' hrest⟩
      simp only [hport, if_true]
      exact .some _

/-- Call after call, the dump reports the ports that remain, and then `EOF`. -/
theorem Remaining.yields_portDump {ports : List OfprotoPort}
    (h : Remaining env ofproto state ports) :
    Yields (portDump env ofproto · state) (ports, eof) := by
  induction ports generalizing state with
  | nil =>
    obtain ⟨state', hcall⟩ := h.reports
    exact .of_succ (fun fuel => rfl) (hcall.bind (.some _))
  | cons port ports ih =>
    obtain ⟨state', hcall, hrest⟩ := h.reports
    have hports : Yields (fun fuel => (portDump env ofproto fuel state').bind fun result =>
        some (port :: result.1, result.2)) (port :: ports, eof) :=
      (ih hrest).bind (.some _)
    exact .of_succ (fun fuel => rfl) (hcall.bind hports)

/-- The dump ends after finitely many calls, each of which ends, and reports each name of `ports`
that has a device once, and then each such name of `ghost_ports` once. -/
theorem port_dump_exact {elements ghostElements : Finset String}
    (hports : Enumerates (env.ssetAtPosition ofproto.ports) elements)
    (hghosts : Enumerates (env.ssetAtPosition ofproto.ghostPorts) ghostElements) :
    ∃ dumped ghosts : List OfprotoPort,
      Yields (portDump env ofproto · portDumpStart) (dumped ++ ghosts, eof) ∧
        ((dumped.map (·.name)).Nodup ∧ ∀ name, name ∈ dumped.map (·.name) ↔
          name ∈ elements ∧ (env.netdevGetTypeFromName name).isSome) ∧
        (ghosts.map (·.name)).Nodup ∧ ∀ name, name ∈ ghosts.map (·.name) ↔
          name ∈ ghostElements ∧ (env.netdevGetTypeFromName name).isSome := by
  obtain ⟨names, hvisits, hnodup, hnames⟩ := hports
  obtain ⟨ghostNames, hghostVisits, hghostNodup, hghostNames⟩ := hghosts
  have hstart : Remaining env ofproto portDumpStart
      (reported env ofproto names ++ reported env ofproto ghostNames) :=
    .ports rfl hvisits hghostVisits
  refine ⟨_, _, hstart.yields_portDump, ?_, ?_⟩
  · rw [map_name_reported]
    refine ⟨hnodup.filter _, fun name => ?_⟩
    rw [List.mem_filter, hnames]
  · rw [map_name_reported]
    refine ⟨hghostNodup.filter _, fun name => ?_⟩
    rw [List.mem_filter, hghostNames]

end Dump

/-- A walk over buckets as in OVS, which starts at `offset` in the first of them. -/
def atPositionFrom : List (List String) → ℕ → ℕ → Option String × ℕ × ℕ
  | [], _, _ => (none, 0, 0)
  | nodes :: buckets, bucket, offset =>
    match nodes[offset]? with
    | some name =>
      (some name, if offset + 1 < nodes.length then (bucket, offset + 1) else (bucket + 1, 0))
    | none => atPositionFrom buckets (bucket + 1) 0

/-- Sets are lists of buckets, and only the ports "1" and "2" have a device. -/
def bucketEnv : Env (List (List String)) where
  netdevGetTypeFromName name := if name = "1" ∨ name = "2" then some "system" else none
  ssetAtPosition buckets position := atPositionFrom (buckets.drop position.1) position.1 position.2

/-- Port "3" is skipped between the other two, and the ghost port has no device. -/
theorem port_dump_exact_of_buckets :
    let ofproto : SimProviderNode (List (List String)) :=
      ⟨[["1", "3"], [], ["2"]], [["vlan10"]], fun _ => none⟩
    ∃ dumped ghosts : List OfprotoPort,
      Yields (portDump bucketEnv ofproto · portDumpStart) (dumped ++ ghosts, eof) ∧
        ((dumped.map (·.name)).Nodup ∧ ∀ name, name ∈ dumped.map (·.name) ↔
          name ∈ ({"1", "2", "3"} : Finset String) ∧
            (bucketEnv.netdevGetTypeFromName name).isSome) ∧
        (ghosts.map (·.name)).Nodup ∧ ∀ name, name ∈ ghosts.map (·.name) ↔
          name ∈ ({"vlan10"} : Finset String) ∧
            (bucketEnv.netdevGetTypeFromName name).isSome :=
  port_dump_exact
    ⟨["1", "3", "2"], .next rfl (.next rfl (.next rfl (.done rfl))), by decide, by simp [or_comm]⟩
    ⟨["vlan10"], .next rfl (.done rfl), by decide, by simp⟩

end ContainerPlugin.Ofproto.PortDump
