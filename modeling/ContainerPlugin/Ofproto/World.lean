import Mathlib.Algebra.Order.Ring.Int
import Mathlib.Data.Finset.Erase
import Mathlib.Data.Finset.Dedup
import Mathlib.Data.Finset.Insert
import Mathlib.Data.List.Perm.Basic

/-!
# The commands of the provider and the world they change

`ofproto-sim-provider.c` acts on the machine only through `system()`: it runs `ovs-vsctl` against
the Open vSwitch that simulates the ASIC and `iptables` in the namespace `swns`. A `Cmd` is one such
command line, `Cmd.text` is the text that the source prints for it, and `World.exec` is what the
command does when it can be carried out.
-/

namespace ContainerPlugin.Ofproto

def ovsVsctl : String := "/opt/openvswitch/bin/ovs-vsctl"

def swnsExec : String := "/sbin/ip netns exec swns"

/-- `MAX_CMD_LEN`: the size of every command buffer, terminator included. -/
def maxCmdLen : ℕ := 2048

/-- The number of bytes before the terminator. -/
def strlen (s : String) : ℕ := s.utf8ByteSize

@[simp] theorem strlen_append (s t : String) : strlen (s ++ t) = strlen s + strlen t :=
  String.utf8ByteSize_append

inductive PortVlanMode where
  | access
  | trunk
  | nativeTagged
  | nativeUntagged
  deriving DecidableEq

/-- The columns of a `Port` record that the provider writes. -/
structure PortColumns where
  tag : Option ℤ
  trunks : List ℕ
  vlanMode : PortVlanMode
  deriving DecidableEq

inductive Chain where
  | input
  | forward
  deriving DecidableEq

inductive IptablesOp where
  | check
  | append
  | delete
  deriving DecidableEq

/-- A `Mirror` record, with the names of the ports it selects and of its output port. -/
structure MirrorRow where
  name : String
  srcs : List String
  dsts : List String
  out : Option String
  deriving DecidableEq

inductive Cmd where
  | addPort (bridge name : String) (columns : PortColumns)
  | delPort (name : String)
  | setPortTrunks (bridge : String) (trunks : List ℕ)
  | iptables (op : IptablesOp) (chain : Chain) (dev : String)
  | createMirror (row : MirrorRow)
  | removeMirror (name : String)
  deriving DecidableEq

/-! ## Texts -/

/-- `" trunks=%d"` for the first VLAN, `",%d"` for every other one. -/
def trunkPieces : List ℕ → List String
  | [] => []
  | i :: is => (" trunks=" ++ toString i) :: is.map ("," ++ toString ·)

def addPortHead (bridge name : String) : String :=
  ovsVsctl ++ " --may-exist add-port " ++ bridge ++ " " ++ name

def tagPiece (vlan : ℤ) : String := " tag=" ++ toString vlan

def vlanModePiece : PortVlanMode → String
  | .access => " vlan_mode=access"
  | .trunk => " vlan_mode=trunk"
  | .nativeUntagged => " vlan_mode=native-untagged"
  | .nativeTagged => " vlan_mode=native-tagged"

def setPortTrunksHead (bridge : String) : String := ovsVsctl ++ " set port " ++ bridge ++ " "

def createMirrorHead (name : String) : String :=
  ovsVsctl ++ " -- --id=@m create mirror name=" ++ name ++
    " -- add bridge bridge_normal mirrors @m"

/-- The pieces that select the ports `names`: `id` is `srx` or `stx`, `column` the column set. -/
def selectPieces (mirror id column : String) (names : List String) : List String :=
  if names = [] then []
  else
    names.map (fun n => " -- --id=@" ++ id ++ n ++ " get port " ++ n) ++
      [" -- set mirror " ++ mirror ++ " " ++ column ++ "="] ++
      (names.map fun n => "@" ++ id ++ n).intersperse ","

def outputPieces (mirror : String) : Option String → List String
  | none => []
  | some out =>
    [" -- --id=@out get port " ++ out, " -- set mirror " ++ mirror ++ " output-port=@out "]

def MirrorRow.pieces (row : MirrorRow) : List String :=
  selectPieces row.name "srx" "select-src-port" row.srcs ++
    selectPieces row.name "stx" "select-dst-port" row.dsts ++ outputPieces row.name row.out

def IptablesOp.flag : IptablesOp → String
  | .check => "-C"
  | .append => "-A"
  | .delete => "-D"

def Chain.name : Chain → String
  | .input => "INPUT"
  | .forward => "FORWARD"

/-- A text to which pieces are appended. -/
def printed (head : String) (pieces : List String) : String := pieces.foldl (· ++ ·) head

def Cmd.text : Cmd → String
  | .addPort bridge name columns =>
    printed (addPortHead bridge name)
      (columns.tag.toList.map tagPiece ++ trunkPieces columns.trunks ++
        [vlanModePiece columns.vlanMode])
  | .delPort name => ovsVsctl ++ " del-port " ++ name
  | .setPortTrunks bridge trunks => printed (setPortTrunksHead bridge) (trunkPieces trunks)
  | .iptables op chain dev =>
    swnsExec ++ " iptables " ++ op.flag ++ " " ++ chain.name ++ " -i " ++ dev ++ " -j DROP -w"
  | .createMirror row => printed (createMirrorHead row.name) row.pieces
  | .removeMirror name =>
    ovsVsctl ++ " -- --id=@m get mirror " ++ name ++ " -- remove bridge bridge_normal mirrors @m"

/-- The text and its terminator fit a command buffer. -/
def Cmd.Fits (c : Cmd) : Prop := strlen c.text < maxCmdLen

instance (c : Cmd) : Decidable c.Fits := inferInstanceAs (Decidable (_ < _))

/-! ## The world -/

/-- What the provider keeps in the ASIC: the ports it added to the bridge, the trunks of the port
that the bridge itself is, and the mirrors. -/
structure Asic where
  ports : String → Option PortColumns
  bridgeTrunks : List ℕ
  mirrors : List MirrorRow

/-- A rule `-i dev -j DROP` of a chain. -/
abbrev DropRule := Chain × String

/-- The history of commands, the ASIC, the `DROP` rules, and the L3 statistics rules that were asked
for (`true`) and given up (`false`) by device. -/
structure World where
  log : List Cmd
  asic : Asic
  iptables : List DropRule
  l3stats : List (String × Bool)

/-- `ovs-vsctl` carries a command out as one transaction. With `--may-exist` a port that is there is
left as it is; a port that is not there cannot be deleted; `set mirror` and `get mirror` need a name
that a single record has. That the bridge and the ports of a mirror are there is not looked at: a
command that fails for want of one is a command that fails. -/
def Asic.exec (a : Asic) : Cmd → Option Asic
  | .addPort _ name columns =>
    match a.ports name with
    | some _ => some a
    | none => some { a with ports := Function.update a.ports name (some columns) }
  | .delPort name =>
    match a.ports name with
    | some _ => some { a with ports := Function.update a.ports name none }
    | none => none
  | .setPortTrunks _ trunks => some { a with bridgeTrunks := trunks }
  | .createMirror row =>
    if row.pieces ≠ [] ∧ row.name ∈ a.mirrors.map (·.name) then none
    else some { a with mirrors := a.mirrors ++ [row] }
  | .removeMirror name =>
    if (a.mirrors.map (·.name)).count name = 1 then
      some { a with mirrors := a.mirrors.filter (·.name ≠ name) }
    else none
  | .iptables .. => none

def execIptables (rules : List DropRule) (op : IptablesOp) (rule : DropRule) :
    Option (List DropRule) :=
  match op with
  | .check => if rule ∈ rules then some rules else none
  | .append => some (rules ++ [rule])
  | .delete => if rule ∈ rules then some (rules.erase rule) else none

end ContainerPlugin.Ofproto
