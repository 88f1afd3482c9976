import Mathlib.Data.Finset.Basic
import ContainerPlugin.Lib.Hmap

/-!
# The common spanning tree

`mstp_cist_update` of `sim-stp-plugin.c`. The ports of the common instance are kept in a hash map
that every call brings up to date with the rows of the database, and the kernel bridge follows. Port
names are names of network interfaces, so that every command fits its buffer. The count of the ports
is an unbounded integer here and an `int` in the source, which a deletion of a port that was never
counted makes smaller.
-/

namespace ContainerPlugin.Stp

/-- `enum mstp_instance_port_state` -/
inductive PortState where
  | disabled
  | listening
  | learning
  | forwarding
  | blocked
  | invalid
  deriving DecidableEq

/-- The value of the enumerator, which is also what the kernel calls the state. -/
def PortState.code : PortState → ℕ
  | .disabled => 0
  | .listening => 1
  | .learning => 2
  | .forwarding => 3
  | .blocked => 4
  | .invalid => 5

/-- The strings for port states in the generated `vswitch-idl.h`. -/
structure StateNames where
  blocking : String
  disabled : String
  learning : String
  forwarding : String

/-- `struct ovsrec_mstp_common_instance_port`; a port is its name. -/
structure PortRow where
  port : Option String
  portState : Option String
  deriving DecidableEq

/-- `struct mstp_instance_port` -/
structure MstpInstancePort where
  name : String
  stpState : PortState
  cfg : PortRow
  deriving DecidableEq

/-- What is used of the `struct mstp_instance` of the CIST. -/
structure MstpInstance where
  ports : Hmap MstpInstancePort
  nbPorts : ℤ

/-- A `struct shash` that maps names to rows, in the order of insertion. -/
abbrev Shash := List (String × PortRow)

/-! ## Commands and the kernel -/

/-- `CIST_BR_NAME` -/
def cistBrName : String := "bridge-sim"

inductive Cmd where
  | ipLinkAdd
  | ipLinkUp
  | ipLinkSet (port : String) (add : Bool)
  | bridgeLinkSet (port : String) (state : PortState)
  deriving DecidableEq

def Cmd.text : Cmd → String
  | .ipLinkAdd => "ip link add " ++ cistBrName ++ " type bridge"
  | .ipLinkUp => "ip link set dev " ++ cistBrName ++ " up"
  | .ipLinkSet port add =>
    "ip link set " ++ port ++ " " ++ (if add then "master" else "nomaster") ++ " " ++ cistBrName
  | .bridgeLinkSet port state =>
    "bridge link set dev " ++ port ++ " state " ++ toString state.code

/-- The ports enslaved to the bridge, and the state that was last set for a port. -/
structure Kernel where
  slaves : Finset String
  linkState : String → Option PortState

def Kernel.exec (k : Kernel) : Cmd → Kernel
  | .ipLinkAdd | .ipLinkUp => k
  | .ipLinkSet port true => { k with slaves := insert port k.slaves }
  | .ipLinkSet port false => { k with slaves := k.slaves.erase port }
  | .bridgeLinkSet port state =>
    { k with linkState := Function.update k.linkState port (some state) }

/-- `brSets` counts the calls of `br_set`. -/
structure World where
  log : List Cmd
  brSets : ℕ
  kernel : Kernel

/-- What the program does not decide: the strings of the database, the hash of a name and the order
of the nodes in hash maps, whether a command returns 0, and what the calls made by the `n`-th
`br_set` return. -/
structure Env where
  names : StateNames
  hashString : String → ℕ
  layout : Hmap.Layout MstpInstancePort
  order : Shash → Shash
  order_perm : ∀ sh, (order sh).Perm sh
  system : List Cmd → String → Bool
  socket : ℕ → Bool
  fopen : ℕ → Bool
  fprintf : ℕ → String → ℤ
  ioctl : ℕ → ℤ

variable (env : Env)

/-- `system(cmd)`, and whether it returned 0. -/
def World.system (w : World) (c : Cmd) : World × Bool :=
  let ok := env.system w.log c.text
  let kernel := if ok then w.kernel.exec c else w.kernel
  ({ w with log := w.log ++ [c], kernel := kernel }, ok)

/-- `br_set(CIST_BR_NAME, "stp_state", 1, BRCTL_SET_BRIDGE_STP_STATE)` -/
def brSet (w : World) : World × ℤ :=
  let ret :=
    if env.socket w.brSets then
      if env.fopen w.brSets then env.fprintf w.brSets "1\n" else env.ioctl w.brSets
    else 1
  ({ w with brSets := w.brSets + 1 }, ret)

/-! ## Ports -/

/-- `get_port_state_from_string`: the state, or `none` where the function returns false. -/
def getPortStateFromString (portstateStr : Option String) : Option PortState :=
  match portstateStr with
  | none => none
  | some s =>
    if s = env.names.blocking then some .blocked
    else if s = env.names.disabled then some .disabled
    else if s = env.names.learning then some .learning
    else if s = env.names.forwarding then some .forwarding
    else none

/-- `mstp_cist_add_del_port` -/
def mstpCistAddDelPort (w : World) (port : String) (add : Bool) : World :=
  (w.system env (.ipLinkSet port add)).1

/-- `mstp_cist_set_port` -/
def mstpCistSetPort (w : World) (port : String) (state : PortState) : World :=
  (w.system env (.bridgeLinkSet port state)).1

/-- `mstp_cist_and_instance_port_lookup` -/
def mstpCistAndInstancePortLookup (msti : MstpInstance) (name : String) :
    Option MstpInstancePort :=
  (msti.ports.withHash (env.hashString name)).find? (·.name == name)

/-- `mstp_cist_port_add`, for a row with a port of the name. STP is enabled when the count reaches
1, and a result of `br_set` other than 0 ends the function. -/
def mstpCistPortAdd (msti : MstpInstance) (w : World) (name : String) (cistPortCfg : PortRow) :
    MstpInstance × World :=
  let insert (state : PortState) : Hmap MstpInstancePort :=
    msti.ports.insert env.layout (env.hashString name) ⟨name, state, cistPortCfg⟩
  match getPortStateFromString env cistPortCfg.portState with
  | none => ({ msti with ports := insert .invalid }, w)
  | some state =>
    let nbPorts := msti.nbPorts + 1
    let (w, ret) := if nbPorts = 1 then brSet env w else (w, 0)
    let w :=
      if ret ≠ 0 then w
      else mstpCistSetPort env (mstpCistAddDelPort env w name true) name state
    (⟨insert state, nbPorts⟩, w)

/-! ## Reconciliation -/

/-- `shash_add_once` -/
def shashAddOnce (sh : Shash) (name : String) (row : PortRow) : Shash :=
  if name ∈ sh.map (·.1) then sh else sh ++ [(name, row)]

/-- `shash_find_data` -/
def shashFindData (sh : Shash) (name : String) : Option PortRow :=
  (sh.find? (·.1 == name)).map (·.2)

/-- The body of the loop that collects the rows. -/
def collectPort (sh : Shash) (row : PortRow) : Shash :=
  match row.port with
  | none => sh
  | some name => shashAddOnce sh name row

/-- The rows that have a port, the first for each name. -/
def collectPorts (rows : List PortRow) : Shash := rows.foldl collectPort []

/-- A tracked port gets its row, or is deleted as in `mstp_cist_and_instance_port_delete`. -/
def deleteOrRefresh (sh : Shash) (st : World × ℤ) (port : MstpInstancePort) :
    (World × ℤ) × Option MstpInstancePort :=
  match shashFindData sh port.name with
  | none => ((mstpCistAddDelPort env st.1 port.name false, st.2 - 1), none)
  | some row => (st, some { port with cfg := row })

/-- The loop "Delete old Instance Ports". -/
def deleteOldPorts (sh : Shash) (msti : MstpInstance) (w : World) : MstpInstance × World :=
  let ((w, nbPorts), nodes) :=
    Hmap.walkSafe (deleteOrRefresh env sh) (w, msti.nbPorts) msti.ports.nodes
  (⟨{ msti.ports with nodes := nodes }, nbPorts⟩, w)

def addIfNew (st : MstpInstance × World) (entry : String × PortRow) : MstpInstance × World :=
  match mstpCistAndInstancePortLookup env st.1 entry.1 with
  | none => mstpCistPortAdd env st.1 st.2 entry.1 entry.2
  | some _ => st

/-- The loop "Add new Instance ports". -/
def addNewPorts (sh : Shash) (msti : MstpInstance) (w : World) : MstpInstance × World :=
  (env.order sh).foldl (addIfNew env) (msti, w)

/-- A row with an invalid state ends the walk over the ports. -/
def checkPortState (w : World) (port : MstpInstancePort) : Option (World × MstpInstancePort) :=
  match getPortStateFromString env port.cfg.portState with
  | none => none
  | some state =>
    if state ≠ port.stpState then
      some (mstpCistSetPort env w port.name state, { port with stpState := state })
    else some (w, port)

/-- The loop "Check for changes in the port row entries". -/
def checkPorts (msti : MstpInstance) (w : World) : MstpInstance × World :=
  let (w, nodes) := Hmap.walkUntil (checkPortState env) w msti.ports.nodes
  ({ msti with ports := { msti.ports with nodes := nodes } }, w)

/-- `mstp_cist_configure_ports` -/
def mstpCistConfigurePorts (msti : MstpInstance) (w : World) (rows : List PortRow) :
    MstpInstance × World :=
  let sh := collectPorts rows
  let (msti, w) := deleteOldPorts env sh msti w
  let (msti, w) := addNewPorts env sh msti w
  checkPorts env msti w

/-- `mstp_cist_add_del_bridge(true)` -/
def mstpCistAddBridge (w : World) : World :=
  let (w, ok) := w.system env .ipLinkAdd
  if ok then (w.system env .ipLinkUp).1 else w

/-- The state of the plug-in; `cist` is the CIST in `all_mstp_instances`. -/
structure Plugin where
  cist : Option MstpInstance
  world : World

/-- `mstp_cist_create` -/
def mstpCistCreate (w : World) (rows : List PortRow) : Plugin :=
  let (msti, w) := mstpCistConfigurePorts env ⟨.empty, 0⟩ (mstpCistAddBridge env w) rows
  ⟨some msti, w⟩

/-- `mstp_cist_update`; the bridge may have no common instance. -/
def mstpCistUpdate (s : Plugin) (mstpCommonInstance : Option (List PortRow)) : Plugin :=
  match mstpCommonInstance with
  | none => s
  | some rows =>
    match s.cist with
    | none => mstpCistCreate env s.world rows
    | some msti =>
      let (msti, w) := mstpCistConfigurePorts env msti s.world rows
      ⟨some msti, w⟩

end ContainerPlugin.Stp
