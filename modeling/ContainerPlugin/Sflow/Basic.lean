import Mathlib.Data.BitVec
import Mathlib.Data.Finset.Dedup
import ContainerPlugin.Ofproto.Basic
import ContainerPlugin.Netdev.L3Stats
import ContainerPlugin.Netdev.SflowStats

/-!
# sFlow

`set_sflow` of `ofproto-sim-provider.c`. On a bridge it configures the Open vSwitch that simulates
the ASIC; on a VRF it installs `iptables` rules that copy packets to the host sFlow agent and
configures that agent. A copy of the last options decides whether a request is skipped.
-/

namespace ContainerPlugin.Sflow

open Ofproto Netdev

/-- `struct ofproto_sflow_options`. A `struct sset` is its set of strings, and one that has been
destroyed counts as empty. -/
@[ext]
structure OfprotoSflowOptions where
  targets : Finset String
  samplingRate : BitVec 32
  pollingInterval : BitVec 32
  headerLen : BitVec 32
  maxDatagram : BitVec 32
  agentDevice : Option String
  agentIp : Option String
  deriving DecidableEq

/-- A `char *` that owns its string. -/
inductive CString where
  | null
  | live (s : String)
  | freed
  deriving DecidableEq

/-- `struct sim_sflow_cfg` -/
structure SimSflowCfg where
  ports : Finset String
  targets : Finset String
  samplingRate : BitVec 32
  pollingInterval : BitVec 32
  headerLen : BitVec 32
  maxDatagram : BitVec 32
  agentDevice : CString
  agentIp : CString
  set : Bool
  disabled : Bool

/-- The configuration in an ofproto fresh from `xzalloc`. -/
def SimSflowCfg.zero : SimSflowCfg := ⟨∅, ∅, 0, 0, 0, 0, .null, .null, false, false⟩

/-- What `set_sflow` reads of a bundle; `ports` are the names of the netdevs of its ports. -/
structure SflowBundle where
  name : String
  isSflowEnabled : Bool
  ports : List String
  deriving DecidableEq

/-- What `set_sflow` uses of a `struct sim_provider_node`. -/
structure Node where
  name : String
  vrf : Bool
  /-- The bundles, in the order in which a walk over the hash map meets them. -/
  bundles : List SflowBundle
  sflow : SimSflowCfg

/-! ## Commands and the world -/

/-- An `NFLOG` rule of a chain for packets of one port, sampled at a rate. -/
structure SflowRule where
  chain : Netdev.Chain
  filter : IfFilter
  port : String
  samplingRate : BitVec 32
  deriving DecidableEq

inductive Cmd where
  | iptablesDelAll
  | iptables (insert : Bool) (rule : SflowRule)
  | hostSflow (restart : Bool)
  | ovsDelete (bridge : String)
  /-- The targets are those of the options, in the order of the walk over the set. -/
  | ovsConfigure (bridge : String) (agent : Option String) (targets : List String)
      (header sampling polling : ℤ)
  deriving DecidableEq

/-- The `sFlow` record of a bridge in the ASIC. -/
structure SflowRow where
  agent : Option String
  targets : Finset String
  header : ℤ
  sampling : ℤ
  polling : ℤ
  deriving DecidableEq

/-- The tokens that successive calls of `strtok` find. -/
def strtok (s : String) (delim : Char) : List String :=
  ((s.toList.splitOn delim).filter (· ≠ [])).map String.ofList

/-- The collector that a target names: `ip:port`, `ip`, or nothing. -/
def targetItem (target : String) : Option String :=
  match strtok target '/' with
  | ip :: port :: _ => some (ip ++ ":" ++ port)
  | [ip] => some ip
  | [] => none

def quotedItem (item : String) : String := "\\\"" ++ item ++ "\\\","

def sflowHead : String := ovsVsctl ++ " -- --id=@sflow create sflow "

def agentPieces (agent : Option String) : List String :=
  agent.toList.map fun device => "agent=" ++ device ++ " "

/-- What is printed for the targets before the last character is given up. -/
def targetPieces (targets : List String) : List String :=
  "target=" :: targets.filterMap fun target => (targetItem target).map quotedItem

def columnsPiece (bridge : String) (header sampling polling : ℤ) : String :=
  " header=" ++ toString header ++ " sampling=" ++ toString sampling ++ " polling=" ++
    toString polling ++ " -- set bridge " ++ bridge ++ " sflow=@sflow"

/-- `cmd_len--` -/
def dropLast (text : String) : String := String.ofList text.toList.dropLast

def chainName : Netdev.Chain → String
  | .input => "INPUT"
  | .output => "OUTPUT"
  | .forward => "FORWARD"

def filterFlag : IfFilter → String
  | .i => "-i"
  | .o => "-o"

/-- `HOSTSFLOW_NFLOG_GRP` -/
def hostsflowNflogGrp : ℕ := 5

/-- `probability` prints `1 / rate` with `%0.12f`. -/
def Cmd.text (probability : BitVec 32 → String) : Cmd → String
  | .iptablesDelAll => "iptables -S -w | sed \"/SFLOW/s/-A/iptables -w -D/e\""
  | .iptables insert rule =>
    swnsExec ++ " iptables " ++ (if insert then "-I " else "-D ") ++ chainName rule.chain ++ " " ++
      filterFlag rule.filter ++ " " ++ rule.port ++
      " -m statistic --mode random --probability " ++ probability rule.samplingRate ++
      " -j NFLOG --nflog-prefix SFLOW --nflog-group " ++ toString hostsflowNflogGrp ++ " -w"
  | .hostSflow true => "systemctl restart host-sflow"
  | .hostSflow false => "systemctl stop host-sflow"
  | .ovsDelete bridge =>
    ovsVsctl ++ " list bridge " ++ bridge ++
      " | grep sflow | awk -F ': ' '\x7bprint $2\x7d' | xargs " ++ ovsVsctl ++ " remove bridge " ++
      bridge ++ " sflow"
  | .ovsConfigure bridge agent targets header sampling polling =>
    let text := printed sflowHead (agentPieces agent)
    let text := if targets = [] then text else dropLast (printed text (targetPieces targets))
    text ++ columnsPiece bridge header sampling polling

/-- The `sFlow` records of the bridges, the `SFLOW` rules and whether the host sFlow agent runs. -/
structure Machine where
  bridges : String → Option SflowRow
  rules : List SflowRule
  agentRunning : Bool

/-- The commands that were run and whether they returned 0, the machine, the configuration file of
the agent and the netdevs. -/
structure World where
  log : List (Cmd × Bool)
  machine : Machine
  conf : String
  netdevs : String → NetdevSim

/-- What a command does if it can be carried out. The daemon runs in the namespace `swns`, so the
command that deletes the rules of all ports finds those that were inserted there. Without a
collector the text for `ovs-vsctl` has a column without a value. -/
def Machine.exec (m : Machine) : Cmd → Option Machine
  | .iptablesDelAll => some { m with rules := [] }
  | .iptables true rule => some { m with rules := rule :: m.rules }
  | .iptables false rule =>
    if rule ∈ m.rules then some { m with rules := m.rules.erase rule } else none
  | .hostSflow restart => some { m with agentRunning := restart }
  | .ovsDelete bridge => some { m with bridges := Function.update m.bridges bridge none }
  | .ovsConfigure bridge agent targets header sampling polling =>
    if targets.filterMap targetItem = [] then none
    else
      let row := ⟨agent, (targets.filterMap targetItem).toFinset, header, sampling, polling⟩
      some { m with bridges := Function.update m.bridges bridge (some row) }

/-- What the program does not decide: which commands fail although they could be carried out, what
becomes of a command whose text was cut off, whether the configuration file opens, the order in
which a set of strings is walked, and how `1 / rate` is printed. -/
structure Env where
  fails : List (Cmd × Bool) → Cmd → Bool
  cut : List (Cmd × Bool) → Cmd → Machine → Machine × Bool
  opens : List (Cmd × Bool) → Bool
  order : List (Cmd × Bool) → Finset String → List String
  order_nodup : ∀ log set, (order log set).Nodup
  mem_order : ∀ log set name, name ∈ order log set ↔ name ∈ set
  probability : BitVec 32 → String

def Cmd.Fits (env : Env) (c : Cmd) : Prop := strlen (c.text env.probability) < maxCmdLen

instance (env : Env) (c : Cmd) : Decidable (c.Fits env) := inferInstanceAs (Decidable (_ < _))

variable (env : Env)

/-- What `system(cmd)` does to the machine, and whether it returns 0. -/
def Machine.system (m : Machine) (log : List (Cmd × Bool)) (c : Cmd) : Machine × Bool :=
  if ¬ c.Fits env then env.cut log c m
  else if env.fails log c then (m, false)
  else
    match m.exec c with
    | some m' => (m', true)
    | none => (m, false)

def World.system (w : World) (c : Cmd) : World × Bool :=
  let (machine, ok) := w.machine.system env w.log c
  ({ w with log := w.log ++ [(c, ok)], machine := machine }, ok)

/-! ## The stored configuration -/

/-- `free`, where the pointer keeps its value. -/
def CString.free : CString → Except Fault CString
  | .null => .ok .null
  | .live _ => .ok .freed
  | .freed => .error .useAfterFree

def CString.strdup : Option String → CString
  | none => .null
  | some s => .live s

/-- `string_is_equal`: only two pointers that are not NULL are followed. -/
def stringIsEqual (str1 : Option String) (str2 : CString) : Except Fault Bool :=
  match str1, str2 with
  | some s, .live t => .ok (s = t)
  | some _, .freed => .error .useAfterFree
  | none, .null => .ok true
  | none, _ | some _, .null => .ok false

def sflowCfgClear (cfg : SimSflowCfg) : Except Fault SimSflowCfg :=
  if cfg.set then do
    let agentDevice ← cfg.agentDevice.free
    let agentIp ← cfg.agentIp.free
    .ok { cfg with
      ports := ∅
      targets := ∅
      agentDevice := agentDevice
      agentIp := agentIp
      set := false }
  else .ok cfg

/-- The strings are compared last, and only if everything else is equal. -/
def sflowCfgEqual (options : OfprotoSflowOptions) (cfg : SimSflowCfg) : Except Fault Bool :=
  if options.targets = cfg.targets ∧ options.samplingRate = cfg.samplingRate ∧
      options.pollingInterval = cfg.pollingInterval ∧ options.headerLen = cfg.headerLen ∧
      options.maxDatagram = cfg.maxDatagram then do
    if ← stringIsEqual options.agentDevice cfg.agentDevice then
      stringIsEqual options.agentIp cfg.agentIp
    else .ok false
  else .ok false

def sflowCfgSet (options : OfprotoSflowOptions) (cfg : SimSflowCfg) : SimSflowCfg :=
  { cfg with
    samplingRate := options.samplingRate
    pollingInterval := options.pollingInterval
    headerLen := options.headerLen
    maxDatagram := options.maxDatagram
    ports := ∅
    targets := options.targets
    agentDevice := .strdup options.agentDevice
    agentIp := .strdup options.agentIp
    set := true }

/-! ## `iptables` rules -/

/-- The four rules of a port. -/
def ruleSet (samplingRate : BitVec 32) (port : String) : List SflowRule :=
  [⟨.input, .i, port, samplingRate⟩, ⟨.output, .o, port, samplingRate⟩,
    ⟨.forward, .i, port, samplingRate⟩, ⟨.forward, .o, port, samplingRate⟩]

/-- Runs the commands up to the first that fails. -/
def World.systemAll (w : World) : List Cmd → World
  | [] => w
  | c :: cs =>
    let (w, ok) := w.system env c
    if ok then World.systemAll w cs else w

/-- `sflow_iptable_add` -/
def sflowIptableAdd (cfg : SimSflowCfg) (w : World) (port : String) : World :=
  w.systemAll env ((ruleSet cfg.samplingRate port).map (.iptables true))

/-- `sflow_iptable_del` -/
def sflowIptableDel (cfg : SimSflowCfg) (w : World) (port : String) : World :=
  w.systemAll env ((ruleSet cfg.samplingRate port).map (.iptables false))

def World.modifyNetdev (w : World) (f : NetdevSim → NetdevSim) (port : String) : World :=
  { w with netdevs := Function.update w.netdevs port (f (w.netdevs port)) }

/-- `sflow_port_reset` -/
def sflowPortReset (bundle : SflowBundle) (w : World) : World :=
  bundle.ports.foldl (World.modifyNetdev · netdevSflowReset) w

/-- `sflow_port_stats_enable` -/
def sflowPortStatsEnable (bundle : SflowBundle) (enabled : Bool) (w : World) : World :=
  bundle.ports.foldl (World.modifyNetdev · (netdevSflowStatsEnable · enabled)) w

/-- The body of the loop that adds rules. -/
def addBundleRules (cfg : SimSflowCfg) (w : World) (bundle : SflowBundle) : World :=
  if bundle.isSflowEnabled ∧ bundle.name ∉ cfg.ports then
    sflowIptableAdd env cfg (sflowPortStatsEnable bundle true (sflowPortReset bundle w)) bundle.name
  else w

/-- The body of the loop that deletes rules. When no bundle has the name, `bundle` is NULL. -/
def delPortRules (cfg : SimSflowCfg) (bundles : List SflowBundle) (w : World) (port : String) :
    Except Fault World :=
  match bundles.find? (·.name = port) with
  | none => .error .nullDeref
  | some bundle =>
    if bundle.isSflowEnabled then .ok w
    else .ok (sflowIptableDel env cfg (sflowPortStatsEnable bundle false w) port)

/-- The names of the bundles with sFlow. -/
def sflowNames (bundles : List SflowBundle) : Finset String :=
  ((bundles.filter (·.isSflowEnabled)).map (·.name)).toFinset

/-- `sflow_iptables_reconfigure` -/
def sflowIptablesReconfigure (w : World) (bundles : List SflowBundle) (cfg : SimSflowCfg) :
    Except Fault (World × SimSflowCfg) := do
  let w := bundles.foldl (addBundleRules env cfg) w
  let w ← (env.order w.log cfg.ports).foldlM (delPortRules env cfg bundles) w
  .ok (w, { cfg with ports := sflowNames bundles })

/-! ## The ASIC and the agent -/

/-- The targets are copied to a buffer of the size of a command, whose terminator `strtok` needs. -/
def targetsCopied (targets : List String) : Except Fault Unit :=
  if ∀ target ∈ targets, strlen target < maxCmdLen then .ok () else .error .cmdOverflow

/-- `sflow_ovs_configure` -/
def sflowOvsConfigure (w : World) (bridge : String) (options : OfprotoSflowOptions) :
    Except Fault World := do
  let targets := env.order w.log options.targets
  let text ← (agentPieces options.agentDevice).foldlM appendText sflowHead
  let text ← (if targets = [] then .ok text
    else do
      let _ ← targetsCopied targets
      let text ← (targetPieces targets).foldlM appendText text
      .ok (dropLast text))
  let _ ← appendText text (columnsPiece bridge options.headerLen.toInt options.samplingRate.toInt
    options.pollingInterval.toInt)
  .ok (w.system env (.ovsConfigure bridge options.agentDevice targets options.headerLen.toInt
    options.samplingRate.toInt options.pollingInterval.toInt)).1

def collectorPieces (target : String) : List String :=
  "collector \x7b\n" ::
    (match strtok target '/' with
      | ip :: port :: _ => ["ip = " ++ ip ++ "\n", "udpport = " ++ port ++ "\n"]
      | [ip] => ["ip = " ++ ip ++ "\n"]
      | [] => []) ++ ["\x7d\n"]

/-- The contents of the agent's configuration file after `"sflow {"`. -/
def hostSflowPieces (targets : List String) (options : OfprotoSflowOptions) : List String :=
  (options.agentDevice.toList.map fun device => "agent = " ++ device ++ "\n") ++
    ["DNSSD = off\n", "sampling = " ++ toString options.samplingRate.toInt ++ "\n",
      "polling = " ++ toString options.pollingInterval.toInt ++ "\n",
      "headerBytes = " ++ toString options.headerLen.toInt ++ "\n",
      "datagramBytes = " ++ toString options.maxDatagram.toInt ++ "\n"] ++
    targets.flatMap collectorPieces ++
    ["nflogGroup = " ++ toString hostsflowNflogGrp ++ "\n",
      "nflogProbability = " ++ env.probability options.samplingRate ++ "\n", "\x7d\n"]

/-- What `snprintf` leaves of an ASCII text. -/
def truncated (text : String) : String := String.ofList (text.toList.take (maxCmdLen - 1))

/-- `sflow_hostsflow_agent_configure` -/
def sflowHostsflowAgentConfigure (w : World) (options : OfprotoSflowOptions) :
    Except Fault World :=
  if env.opens w.log then do
    let targets := env.order w.log options.targets
    let _ ← targetsCopied targets
    let text ← (hostSflowPieces env targets options).foldlM appendText "sflow \x7b\n"
    .ok ({ w with conf := truncated text }.system env (.hostSflow true)).1
  else .ok w

/-! ## `set_sflow` -/

def sflowDisable (w : World) (node : Node) : Except Fault (World × Node) :=
  if node.sflow.disabled then .ok (w, node)
  else do
    let cfg ← sflowCfgClear node.sflow
    let w :=
      if node.vrf then ((w.system env .iptablesDelAll).1.system env (.hostSflow false)).1
      else (w.system env (.ovsDelete node.name)).1
    .ok (w, { node with sflow := { cfg with disabled := true } })

/-- The request asks for sampling. -/
def OfprotoSflowOptions.Enabling (options : OfprotoSflowOptions) : Prop :=
  options.targets ≠ ∅ ∧ options.samplingRate ≠ 0

instance (options : OfprotoSflowOptions) : Decidable options.Enabling :=
  inferInstanceAs (Decidable (_ ∧ _))

/-- The part of `set_sflow` for options that enable sFlow and differ from the stored ones. -/
def sflowApply (w : World) (node : Node) (options : OfprotoSflowOptions) :
    Except Fault (World × Node) := do
  let cfg ← sflowCfgClear node.sflow
  let cfg := { sflowCfgSet options cfg with disabled := false }
  if node.vrf then do
    let w := (w.system env .iptablesDelAll).1
    let (w, cfg) ← sflowIptablesReconfigure env w node.bundles { cfg with ports := ∅ }
    let w ← sflowHostsflowAgentConfigure env w options
    .ok (w, { node with sflow := cfg })
  else do
    let w := (w.system env (.ovsDelete node.name)).1
    let w ← sflowOvsConfigure env w node.name options
    .ok (w, { node with sflow := cfg })

/-- `set_sflow`; `none` is a NULL pointer. -/
def setSflow (w : World) (node : Node) (options : Option OfprotoSflowOptions) :
    Except Fault (World × Node) :=
  match options with
  | none => sflowDisable env w node
  | some options =>
    if options.Enabling then do
      if ← sflowCfgEqual options node.sflow then
        if node.vrf then do
          let (w, cfg) ← sflowIptablesReconfigure env w node.bundles node.sflow
          .ok (w, { node with sflow := cfg })
        else .ok (w, node)
      else sflowApply env w node options
    else sflowDisable env w node

end ContainerPlugin.Sflow
