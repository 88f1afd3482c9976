import ContainerPlugin.Lib.Ring
import ContainerPlugin.Ofproto.World

/-!
# The provider's state

`struct sim_provider_node` with the objects it owns. Bundles and mirror bundles are heap objects: a
list holds the addresses that are in the hash map, a function holds the objects' contents, and
freeing an object takes its address off the list. An operation is a function into `Except Fault`: a
`Fault` is a place where the C program reads or writes memory it must not, or aborts.
-/

namespace ContainerPlugin.Ofproto

/-- An address. The `aux` keys of the client are addresses too. -/
abbrev Ptr := ℕ

abbrev OfpPort := ℕ

/-- A bitmap of `VLAN_BITMAP_SIZE` bits, as the set of its 1-bits. -/
abbrev VlanBitmap := Finset ℕ

def vlanBitmapSize : ℕ := 4096

inductive Fault where
  | useAfterFree
  | nullDeref
  /-- A list does not lead back to its head, or leads to the head of another list. -/
  | listCorrupt
  | assertFailed
  /-- Writing past the end of a command buffer, or the assertion that forbids it. -/
  | cmdOverflow
  | bitmapIndex
  deriving DecidableEq

/-- The faults that depend on the sizes of the caller's arguments, not on the state of memory. -/
def Fault.OfInput (e : Fault) : Prop := e = .cmdOverflow ∨ e = .bitmapIndex

inductive NetdevType where
  | system
  | internal
  | vlansubint
  | loopback
  deriving DecidableEq

/-- `struct ovs_list`: the list of a bundle, or the node of a port. -/
inductive ListNode where
  | ports (bundle : Ptr)
  | bundleNode (port : OfpPort)
  deriving DecidableEq

/-- `struct sim_provider_ofport`, with the name and the type of its netdev. -/
structure SimProviderOfport where
  name : String
  type : NetdevType
  bundle : Option Ptr
  iptableRulesAdded : Bool

structure Ofbundle where
  aux : Ptr
  name : String
  vlanMode : PortVlanMode
  vlan : ℤ
  trunks : Option VlanBitmap
  isAddedToSimOvs : Bool
  isVlanRoutingEnabled : Bool
  isBridgeBundle : Bool
  isSflowEnabled : Bool
  bondHwHandle : ℤ

def maxMirrors : ℕ := 32

def maxMirrorNameLen : ℕ := 64

/-- `struct mirror`; `srcs`, `dsts` and `out` are addresses of mirror bundles. -/
structure Mirror where
  idx : Fin maxMirrors
  aux : Ptr
  srcs : Finset Ptr
  dsts : Finset Ptr
  out : Option Ptr
  name : String

/-- `struct mbridge`. The contents of a mirror bundle are the address of its `ofbundle`. -/
structure Mbridge where
  mirrors : Fin maxMirrors → Option Mirror
  mbundles : List Ptr
  mbundle : Ptr → Ptr
  needRevalidate : Bool
  hasMirrors : Bool

/-- `struct sim_provider_node`, the links of its lists, and the world. -/
structure State where
  /-- The address of `up`, the `struct ofproto` that clients see. -/
  up : Ptr
  name : String
  vrf : Bool
  ports : List OfpPort
  port : OfpPort → SimProviderOfport
  bundles : List Ptr
  bundle : Ptr → Ofbundle
  links : Links ListNode
  mbridge : Mbridge
  vlansBmp : VlanBitmap
  vlanIntfBmp : VlanBitmap
  world : World

/-- What the program does not decide: which commands fail although they could be carried out and what
`errno` is after a command has failed, what `ovs-vsctl` and `iptables` make of a text that was cut off,
the addresses `malloc` returns, the order in which a hash map is walked, and `smap_get_bool` of the
library. -/
structure Env where
  fails : List Cmd → Cmd → Bool
  /-- `system` sets `errno` only if it cannot run the command; otherwise it is any earlier value. -/
  errno : List Cmd → Cmd → ℤ
  cutOvs : List Cmd → Cmd → Asic → Asic × Bool
  cutIptables : List Cmd → Cmd → List DropRule → List DropRule × Bool
  malloc : State → List Ptr → Ptr
  malloc_fresh : ∀ s live, malloc s live ∉ live
  order : State → List Ptr
  order_perm : ∀ s, (order s).Perm s.bundles
  smapGetBool : List (String × String) → String → Bool → Bool

/-- No command fails that could be carried out. -/
def Env.Healthy (env : Env) : Prop := ∀ log c, env.fails log c = false

/-- An `iptables` command is carried out if it can be. -/
def Env.IptablesHealthy (env : Env) : Prop :=
  ∀ log op chain dev, env.fails log (.iptables op chain dev) = false

/-! ## `system` -/

def World.ovs (env : Env) (w : World) (c : Cmd) : Asic × Bool :=
  if ¬ c.Fits then env.cutOvs w.log c w.asic
  else if env.fails w.log c then (w.asic, false)
  else
    match w.asic.exec c with
    | some a => (a, true)
    | none => (w.asic, false)

def World.ipt (env : Env) (w : World) (op : IptablesOp) (chain : Chain) (dev : String) :
    List DropRule × Bool :=
  if ¬ (Cmd.iptables op chain dev).Fits then
    env.cutIptables w.log (.iptables op chain dev) w.iptables
  else if env.fails w.log (.iptables op chain dev) then (w.iptables, false)
  else
    match execIptables w.iptables op (chain, dev) with
    | some rules => (rules, true)
    | none => (w.iptables, false)

/-- `system(cmd)`, and whether it returned 0. -/
def World.system (env : Env) (w : World) (c : Cmd) : World × Bool :=
  match c with
  | .iptables op chain dev =>
    ({ w with log := w.log ++ [c], iptables := (w.ipt env op chain dev).1 },
      (w.ipt env op chain dev).2)
  | c => ({ w with log := w.log ++ [c], asic := (w.ovs env c).1 }, (w.ovs env c).2)

/-- `system(cmd)` where a failure is only logged. -/
def State.system (env : Env) (s : State) (c : Cmd) : State :=
  { s with world := (s.world.system env c).1 }

/-! ## Objects -/

def State.modifyBundle (s : State) (q : Ptr) (f : Ofbundle → Ofbundle) : State :=
  { s with bundle := Function.update s.bundle q (f (s.bundle q)) }

/-- Reading a bundle through a pointer. -/
def State.derefBundle (s : State) (q : Ptr) : Except Fault Ofbundle :=
  if q ∈ s.bundles then .ok (s.bundle q) else .error .useAfterFree

/-- `bundle_lookup` -/
def State.bundleLookup (s : State) (aux : Ptr) : Option Ptr :=
  s.bundles.find? fun q => (s.bundle q).aux = aux

/-- `get_ofp_port` -/
def State.getOfpPort (s : State) (p : OfpPort) : Option SimProviderOfport :=
  if p ∈ s.ports then some (s.port p) else none

/-- A walk that takes more steps than this will never end: between two removals it meets every
port at most once, and a port is removed at most once. -/
def State.listFuel (s : State) : ℕ := (s.ports.length + 1) ^ 2

/-- `CONTAINER_OF(node, struct sim_provider_ofport, bundle_node)` -/
def State.portOfNode (s : State) : ListNode → Except Fault OfpPort
  | .bundleNode p => if p ∈ s.ports then .ok p else .error .listCorrupt
  | .ports _ => .error .listCorrupt

/-- A `LIST_FOR_EACH` over `bundle->ports` whose body does not touch the list. -/
def State.bundlePorts (s : State) (q : Ptr) : Except Fault (List OfpPort) := do
  let _ ← s.derefBundle q
  match s.links.walk (.ports q) s.listFuel (s.links.next (.ports q)) with
  | some nodes => nodes.mapM s.portOfNode
  | none => .error .listCorrupt

/-- A `LIST_FOR_EACH_SAFE` over `bundle->ports`. -/
def State.forEachPortSafe (s : State) (q : Ptr) (body : State → OfpPort → Except Fault State) :
    Except Fault State := do
  let _ ← s.derefBundle q
  Links.forEachSafe State.links .listCorrupt (.ports q)
    (fun s n => do
      let p ← s.portOfNode n
      body s p)
    s.listFuel s (s.links.next (.ports q))

/-! ## Bitmaps -/

def bitmapIsSet (bmp : VlanBitmap) (i : ℤ) : Except Fault Bool :=
  if 0 ≤ i ∧ i < vlanBitmapSize then .ok (i.toNat ∈ bmp) else .error .bitmapIndex

/-- `bitmap_set1` or `bitmap_set0`. -/
def bitmapSet (bmp : VlanBitmap) (i : ℤ) (value : Bool) : VlanBitmap :=
  if value then insert i.toNat bmp else bmp.erase i.toNat

/-- `for (i = 1; i < 4095; i++)`, restricted to the VLANs that pass the test of the body. -/
def vids (test : ℕ → Bool) : List ℕ := (List.range' 1 4094).filter test

/-! ## Command texts -/

/-- `n += snprintf(&cmd_str[n], MAX_CMD_LEN - n, ...)` where `text` is what has been printed so far,
also the part that did not fit: with `n` past the end the size wraps to a huge one. The offset is the
length of `text`, a natural number; `createOffsets` follows the `int` that the source keeps. -/
def appendText (text piece : String) : Except Fault String :=
  if strlen text ≤ maxCmdLen then .ok (text ++ piece) else .error .cmdOverflow

/-- The same followed by `ovs_assert(n <= MAX_CMD_LEN)`. -/
def appendAsserted (text piece : String) : Except Fault String := do
  let text ← appendText text piece
  if strlen text ≤ maxCmdLen then .ok text else .error .cmdOverflow

end ContainerPlugin.Ofproto
