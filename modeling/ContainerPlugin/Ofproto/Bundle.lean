import ContainerPlugin.Ofproto.Basic

/-!
# Bundles

The bundle operations of `ofproto-sim-provider.c`: `bundle_set`, `bundle_remove` and `set_vlan`, with
the functions they share.
-/

namespace ContainerPlugin.Ofproto

variable (env : Env)

/-! ## `iptables` -/

/-- Lets the kernel route the traffic of a port again. -/
def enablePortInIptables (w : World) (dev : String) : World :=
  let w := (w.system env (.iptables .delete .input dev)).1
  (w.system env (.iptables .delete .forward dev)).1

/-- The rules of both chains are taken to be there when the one of `INPUT` is. -/
def disablePortInIptables (w : World) (dev : String) : World :=
  let (w, found) := w.system env (.iptables .check .input dev)
  if found then w
  else
    let w := (w.system env (.iptables .append .input dev)).1
    (w.system env (.iptables .append .forward dev)).1

/-- `netdev_sim_l3stats_xtables_rules_create` and `..._delete` hand the work to a thread. -/
def l3statsXtablesRules (w : World) (dev : String) (create : Bool) : World :=
  { w with l3stats := w.l3stats ++ [(dev, create)] }

/-! ## Mirror bundles and mirror slots -/

/-- `mbundle_lookup` -/
def Mbridge.mbundleLookup (m : Mbridge) (ofbundle : Ptr) : Option Ptr :=
  m.mbundles.find? fun b => m.mbundle b = ofbundle

/-- `mbridge_register_bundle` -/
def Mbridge.registerBundle (m : Mbridge) (mbundle ofbundle : Ptr) : Mbridge :=
  { m with
    mbundles := mbundle :: m.mbundles
    mbundle := Function.update m.mbundle mbundle ofbundle }

/-- `mirror_lookup`: the slot of the first mirror with this key. -/
def Mbridge.mirrorLookup (m : Mbridge) (aux : Ptr) : Option (Fin maxMirrors) :=
  (List.finRange maxMirrors).find? fun i => (m.mirrors i).any fun mirror => mirror.aux = aux

/-- `mirror_scan` -/
def Mbridge.mirrorScan (m : Mbridge) : Option (Fin maxMirrors) :=
  (List.finRange maxMirrors).find? fun i => (m.mirrors i).isNone

/-- `mirror_destroy`: the mirror is found by its key, the slot cleared is the one it names. -/
def Mbridge.mirrorDestroy (m : Mbridge) (aux : Ptr) : Mbridge :=
  match (m.mirrorLookup aux).bind m.mirrors with
  | none => m
  | some mirror =>
    let mirrors := Function.update m.mirrors mirror.idx none
    { m with
      mirrors := mirrors
      hasMirrors := (List.finRange maxMirrors).any fun i => (mirrors i).isSome }

/-- The body of the loop of `mbridge_unregister_bundle`. A bundle that is both a source and a
destination is only taken out of the sources. -/
def Mbridge.unregisterFrom (mbundle : Ptr) (m : Mbridge) (i : Fin maxMirrors) : Mbridge :=
  match m.mirrors i with
  | none => m
  | some mirror =>
    if mirror.out = some mbundle then m.mirrorDestroy mirror.aux
    else if mbundle ∈ mirror.srcs then
      { m with
        mirrors := Function.update m.mirrors i
          (some { mirror with srcs := mirror.srcs.erase mbundle })
        needRevalidate := true }
    else if mbundle ∈ mirror.dsts then
      { m with
        mirrors := Function.update m.mirrors i
          (some { mirror with dsts := mirror.dsts.erase mbundle })
        needRevalidate := true }
    else m

/-- `mbridge_unregister_bundle` -/
def Mbridge.unregisterBundle (m : Mbridge) (ofbundle : Ptr) : Mbridge :=
  match m.mbundleLookup ofbundle with
  | none => m
  | some mbundle =>
    let m := (List.finRange maxMirrors).foldl (unregisterFrom mbundle) m
    { m with mbundles := m.mbundles.erase mbundle }

/-! ## Ports of a bundle -/

/-- Unlinks a port and lets the kernel have its traffic. -/
def detachPort (s : State) (p : OfpPort) : State :=
  let port := s.port p
  let w := if port.iptableRulesAdded then enablePortInIptables env s.world port.name else s.world
  { s with
    links := s.links.remove (.bundleNode p)
    port := Function.update s.port p { port with bundle := none, iptableRulesAdded := false }
    world := if s.vrf then l3statsXtablesRules w port.name false else w }

/-- `bundle_del_port`. The bundle is read for the `vrf` flag of its ofproto. -/
def bundleDelPort (s : State) (p : OfpPort) : Except Fault State :=
  match (s.port p).bundle with
  | none => .error .nullDeref
  | some q => do
    let _ ← s.derefBundle q
    .ok (detachPort env s p)

/-! ## The trunks of the bridge -/

/-- The trunks of the bridge's port: the VLANs of the bitmap, or 0 if it has none. -/
def bridgeTrunks (vlanIntfBmp : VlanBitmap) : List ℕ :=
  if vids (· ∈ vlanIntfBmp) = [] then [0] else vids (· ∈ vlanIntfBmp)

/-- The command of `sim_bridge_vlan_routing_update`, once the bitmap is changed. -/
def bridgeTrunksUpdate (s : State) : Except Fault State := do
  let trunks := vids (· ∈ s.vlanIntfBmp)
  let text ← (trunkPieces trunks).foldlM appendAsserted (setPortTrunksHead s.name)
  let _ ← (if trunks = [] then appendText text " trunks=0" else .ok text)
  .ok (s.system env (.setPortTrunks s.name (bridgeTrunks s.vlanIntfBmp)))

/-- `sim_bridge_vlan_routing_update` -/
def simBridgeVlanRoutingUpdate (s : State) (vlan : ℤ) (add : Bool) : Except Fault State := do
  if (← bitmapIsSet s.vlanIntfBmp vlan) = add then .ok s
  else bridgeTrunksUpdate env { s with vlanIntfBmp := bitmapSet s.vlanIntfBmp vlan add }

/-! ## `bundle_destroy` -/

/-- Takes the port that the bundle was added with out of the ASIC. -/
def delFromSimOvs (s : State) (q : Ptr) : State :=
  if (s.bundle q).isAddedToSimOvs then
    (s.system env (.delPort (s.bundle q).name)).modifyBundle q fun b =>
      { b with isAddedToSimOvs := false }
  else s

/-- Takes the VLAN of a routing bundle off the bridge's trunks. -/
def stopVlanRouting (s : State) (q : Ptr) : Except Fault State :=
  if (s.bundle q).isVlanRoutingEnabled then do
    let s ← simBridgeVlanRoutingUpdate env s (s.bundle q).vlan false
    .ok (s.modifyBundle q fun b => { b with isVlanRoutingEnabled := false })
  else .ok s

/-- `bundle_destroy` of a bundle that is not NULL. -/
def bundleDestroy (s : State) (q : Ptr) : Except Fault State := do
  let _ ← s.derefBundle q
  let s := { s with mbridge := s.mbridge.unregisterBundle q }
  let s := delFromSimOvs env s q
  let s ← stopVlanRouting env s q
  let s ← s.forEachPortSafe q (bundleDelPort env)
  .ok { s with bundles := s.bundles.erase q }

/-- `bundle_remove`: a bundle that is not a LAG is destroyed with its port, a LAG is left alone. -/
def bundleRemove (s : State) (p : OfpPort) : Except Fault State :=
  match (s.port p).bundle with
  | none => .ok s
  | some q => do
    let bundle ← s.derefBundle q
    if bundle.bondHwHandle = -1 then do
      let s ← bundleDelPort env s p
      bundleDestroy env s q
    else .ok s

/-- `port->bundle = bundle` and what follows it. -/
def attachPort (s : State) (q : Ptr) (p : OfpPort) : State :=
  let port := s.port p
  { s with
    port := Function.update s.port p { port with bundle := some q }
    links := s.links.pushBack (.ports q) (.bundleNode p)
    world := if s.vrf then l3statsXtablesRules s.world port.name true else s.world }

/-- `bundle_add_port` -/
def bundleAddPort (s : State) (q : Ptr) (p : OfpPort) : Except Fault (State × Bool) := do
  let _ ← s.derefBundle q
  match s.getOfpPort p with
  | none => .ok (s, false)
  | some port =>
    if port.bundle = some q then .ok (s, true)
    else do
      let s ← bundleRemove env s p
      let _ ← s.derefBundle q
      .ok (attachPort s q p, true)

/-! ## `bundle_configure` -/

/-- The VLANs that the trunk of a bundle carries. -/
def trunkVids (vlansBmp : VlanBitmap) (trunks : Option VlanBitmap) : List ℕ :=
  vids fun i => i ∈ vlansBmp ∧ ∀ t ∈ trunks, i ∈ t

/-- Appends the tag. `none` is `goto done`. -/
def configureTag (vlansBmp : VlanBitmap) (bundle : Ofbundle) (text : String) :
    Except Fault (Option (String × Option ℤ)) := do
  if bundle.vlanMode = .trunk then .ok (some (text, none))
  else if 0 < bundle.vlan then
    if ← bitmapIsSet vlansBmp bundle.vlan then do
      let text ← appendAsserted text (tagPiece bundle.vlan)
      .ok (some (text, some bundle.vlan))
    else .ok none
  else .ok none

/-- Appends the trunks. `none` is `goto done`. -/
def configureTrunks (vlansBmp : VlanBitmap) (bundle : Ofbundle) (text : String) :
    Except Fault (Option (String × List ℕ)) := do
  if bundle.vlanMode = .access then .ok (some (text, []))
  else
    let trunks := trunkVids vlansBmp bundle.trunks
    let text ← (trunkPieces trunks).foldlM appendAsserted text
    if trunks = [] then .ok none else .ok (some (text, trunks))

/-- Prints the `add-port` command, and gives the columns it sets. -/
def configureColumns (bridge : String) (vlansBmp : VlanBitmap) (bundle : Ofbundle) :
    Except Fault (Option PortColumns) := do
  match ← configureTag vlansBmp bundle (addPortHead bridge bundle.name) with
  | none => .ok none
  | some (text, tag) =>
    match ← configureTrunks vlansBmp bundle text with
    | none => .ok none
    | some (text, trunks) => do
      let _ ← appendAsserted text (vlanModePiece bundle.vlanMode)
      .ok (some ⟨tag, trunks, bundle.vlanMode⟩)

/-- Runs the `add-port` command. -/
def addToSimOvs (s : State) (q : Ptr) (columns : PortColumns) : State :=
  let added := s.world.system env (.addPort s.name (s.bundle q).name columns)
  let s := { s with world := added.1 }
  if added.2 then s.modifyBundle q fun b => { b with isAddedToSimOvs := true } else s

/-- Adds the port of a bundle to the ASIC if its VLANs are enabled. -/
def configurePort (s : State) (q : Ptr) : Except Fault State := do
  match ← configureColumns s.name s.vlansBmp (s.bundle q) with
  | none => .ok s
  | some columns => .ok (addToSimOvs env s q columns)

/-- The loop at the label `done`, for one port. -/
def blockPort (s : State) (p : OfpPort) : State :=
  let port := s.port p
  if port.iptableRulesAdded then s
  else
    { s with
      port := Function.update s.port p { port with iptableRulesAdded := true }
      world := disablePortInIptables env s.world port.name }

/-- The Linux bonding driver wants the interfaces of a bond for itself. -/
def delMembersFromSimOvs (s : State) (members : List OfpPort) : State :=
  if members.length > 1 then
    members.foldl (fun s p => s.system env (.delPort (s.port p).name)) s
  else s

/-- `bundle_configure` -/
def bundleConfigure (s : State) (q : Ptr) : Except Fault State := do
  let _ ← s.derefBundle q
  let s := delFromSimOvs env s q
  if s.vrf then .ok s
  else
    let members ← s.bundlePorts q
    if members = [] then .ok s
    else
      let s := delMembersFromSimOvs env s members
      let s ← configurePort env s q
      .ok (members.foldl (blockPort env) s)

/-! ## `bundle_set` -/

/-- `struct ofproto_bundle_settings`, as far as it is read. -/
structure OfprotoBundleSettings where
  name : String
  slaves : List OfpPort
  slavesEntered : ℕ
  vlanMode : PortVlanMode
  vlan : ℤ
  trunks : Option VlanBitmap
  /-- `port_options[PORT_OTHER_CONFIG]` -/
  otherConfig : List (String × String)
  hwBondShouldExist : Bool

/-- Return values. `errno` carries the number that is left when `system()` has failed. -/
inductive Rc where
  | ok
  | einval
  | efbig
  | emsgsize
  | errno (n : ℤ)
  deriving DecidableEq

/-- The `int` that the caller gets. -/
def Rc.toInt : Rc → ℤ
  | .ok => 0
  | .einval => 22
  | .efbig => 27
  | .emsgsize => 90
  | .errno n => n

/-- A new bundle for the key `aux`. -/
def Ofbundle.fresh (aux : Ptr) : Ofbundle where
  aux := aux
  name := ""
  vlanMode := .access
  vlan := -1
  trunks := none
  isAddedToSimOvs := false
  isVlanRoutingEnabled := false
  isBridgeBundle := false
  isSflowEnabled := true
  bondHwHandle := -1

/-- Allocates the bundle of `aux` and its mirror bundle. -/
def createBundle (s : State) (aux : Ptr) : State × Ptr :=
  let q := env.malloc s s.bundles
  ({ s with
      bundles := q :: s.bundles
      bundle := Function.update s.bundle q (.fresh aux)
      links := s.links.init (.ports q)
      mbridge := s.mbridge.registerBundle (env.malloc s s.mbridge.mbundles) q }, q)

def findOrCreateBundle (s : State) (aux : Ptr) : State × Ptr :=
  match s.bundleLookup aux with
  | some q => (s, q)
  | none => createBundle env s aux

/-- The name and the LAG handle. -/
def Ofbundle.withSettings (b : Ofbundle) (settings : OfprotoBundleSettings) : Ofbundle :=
  { b with
    name := settings.name
    bondHwHandle := if b.bondHwHandle = -1 ∧ settings.hwBondShouldExist then 123
      else b.bondHwHandle }

/-- "destroy the LAG" -/
def destroyLag (s : State) (q : Ptr) (settings : OfprotoBundleSettings) : Except Fault State :=
  if (s.bundle q).bondHwHandle ≠ -1 ∧ settings.hwBondShouldExist = false then bundleDestroy env s q
  else .ok s

/-- The loop over `s->slaves`. -/
def addSlaves (s : State) (q : Ptr) (slaves : List OfpPort) : Except Fault (State × Bool) :=
  slaves.foldlM
    (fun acc p => do
      let (s, added) ← bundleAddPort env acc.1 q p
      .ok (s, acc.2 && added))
    (s, true)

/-- Deletes the ports that are not slaves. -/
def delOtherPorts (s : State) (q : Ptr) (slaves : List OfpPort) (ok : Bool) :
    Except Fault State := do
  let same ← (if ok then do
      let members ← s.bundlePorts q
      .ok (members.length = slaves.length : Bool)
    else .ok false)
  if same then .ok s
  else s.forEachPortSafe q fun s p => if p ∈ slaves then .ok s else bundleDelPort env s p

/-- "Update set of ports." -/
def updatePorts (s : State) (q : Ptr) (slaves : List OfpPort) : Except Fault State := do
  let (s, ok) ← addSlaves env s q slaves
  delOtherPorts env s q slaves ok

/-- Copies the VLAN settings. -/
def Ofbundle.withVlans (b : Ofbundle) (settings : OfprotoBundleSettings) : Ofbundle :=
  { b with
    vlanMode := settings.vlanMode
    vlan := if 0 < settings.vlan ∧ settings.vlan < 4095 then settings.vlan else -1
    trunks := settings.trunks }

/-- `type` of the only slave is `internal`. -/
def State.isInternal (s : State) (slaves : List OfpPort) : Bool :=
  match slaves with
  | [p] => (s.getOfpPort p).any fun port => port.type = .internal
  | _ => false

/-- `bundle_set` after the update of the ports. -/
def bundleApply (s : State) (q : Ptr) (settings : OfprotoBundleSettings) : Except Fault State := do
  let bundle ← s.derefBundle q
  if bundle.isBridgeBundle then .ok s
  else
    let s := s.modifyBundle q fun b =>
      { b with isSflowEnabled := env.smapGetBool settings.otherConfig "sflow-enabled" true }
    if s.isInternal settings.slaves ∧ settings.vlan ≠ 0 ∧ bundle.name ≠ s.name ∧ s.vrf = false then do
      let s ← simBridgeVlanRoutingUpdate env s settings.vlan true
      .ok (s.modifyBundle q fun b =>
        { b with vlan := settings.vlan, isVlanRoutingEnabled := true })
    else if s.isInternal settings.slaves ∧ bundle.name = s.name ∧ s.vrf = false then
      .ok (s.modifyBundle q fun b => { b with isBridgeBundle := true })
    else if s.vrf then .ok s
    else if settings.slavesEntered > 1 ∧ settings.slaves.length ≤ 1 then .ok s
    else bundleConfigure env (s.modifyBundle q (·.withVlans settings)) q

/-- `bundle_set`; `none` is a NULL settings pointer. -/
def bundleSet (s : State) (aux : Ptr) : Option OfprotoBundleSettings → Except Fault (State × Rc)
  | none =>
    match s.bundleLookup aux with
    | none => .ok (s, .ok)
    | some q => do
      let s ← bundleDestroy env s q
      .ok (s, .ok)
  | some settings => do
    let (s, q) := findOrCreateBundle env s aux
    let s := s.modifyBundle q (·.withSettings settings)
    let s ← destroyLag env s q settings
    let s ← updatePorts env s q settings.slaves
    let members ← s.bundlePorts q
    if members.length ≤ settings.slaves.length then
      if members = [] then do
        let s ← bundleDestroy env s q
        .ok (s, .einval)
      else do
        let s ← bundleApply env s q settings
        .ok (s, .ok)
    else .error .assertFailed

/-! ## `set_vlan` -/

/-- The body of the loop of `bundle_set_reconfigure`. -/
def reconfigureBundle (s : State) (q : Ptr) : Except Fault State := do
  let bundle ← s.derefBundle q
  if bundle.isVlanRoutingEnabled ∨ bundle.isBridgeBundle then .ok s
  else bundleConfigure env s q

/-- `bundle_set_reconfigure` -/
def bundleSetReconfigure (s : State) : Except Fault State :=
  (env.order s).foldlM (reconfigureBundle env) s

def setVlan (s : State) (vid : ℤ) (add : Bool) : Except Fault State := do
  if (← bitmapIsSet s.vlansBmp vid) = add then .ok s
  else
    let s := { s with vlansBmp := bitmapSet s.vlansBmp vid add }
    if s.vrf then .ok s else bundleSetReconfigure env s

end ContainerPlugin.Ofproto
