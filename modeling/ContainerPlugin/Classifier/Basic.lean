import ContainerPlugin.Lib.Hmap
import Mathlib.Data.BitVec

/-!
# The classifier plug-in

The two private tables of `ops-classifier-sim.c`, `all_acls` and `all_port_applications`, and the
operations that change them. Both are OVS hash maps keyed by `uuid_hash` of a list id; the hash
function is a parameter of every operation and the arrangement of the two maps is a parameter of
every insertion.
-/

namespace ContainerPlugin.Classifier

abbrev Uuid := BitVec 128

/-- The bytes of a `struct ops_cls_list_entry`; the store only ever copies them. -/
abbrev ClsListEntry := List UInt8

/-- The bytes of a `struct ops_cls_interface_info`. -/
abbrev InterfaceInfo := List UInt8

/-- `struct ops_cls_list`: `num_entries` is an `uint16_t`. -/
structure ClsList where
  listId : Uuid
  listName : String
  listType : ℕ
  entries : List ClsListEntry
  entries_lt : entries.length < 2 ^ 16

def ClsList.numEntries (list : ClsList) : ℕ := list.entries.length

inductive Direction where
  | invalid
  | ingress
  | egress
  deriving DecidableEq

inductive LagUpdateAction where
  | memberIntfAdd
  | memberIntfDel
  deriving DecidableEq

inductive StatusCode where
  | success
  | hwFullErr
  | hwNotFoundErr
  | hwPortErr
  deriving DecidableEq

def maxAcePerAcl : ℕ := 512

def maxAceInHashmap : ℕ := maxAcePerAcl

def lagRollbackTestAclName : String := "LAGRollbackACL"

structure Statistics where
  statsEnabled : Bool
  hitcounts : UInt64

/-- `struct acl_port_bindings` -/
structure AclPortBinding where
  listId : Uuid
  interfaceName : String
  portName : String
  interfaceInfo : InterfaceInfo
  direction : Direction
  stats : Fin maxAcePerAcl → Statistics

/-- What identifies a binding. -/
def AclPortBinding.key (b : AclPortBinding) : Uuid × String × Direction :=
  (b.listId, b.interfaceName, b.direction)

/-- What the classifier reads of a member port: `up.ofp_port` and `up.pp.name`. -/
structure BundlePort where
  ofpPort : ℕ
  name : String

/-- What the classifier reads of the bundle that `bundle_lookup` finds. The ports belong to one
`struct ofproto`, which keeps at most one port of a name (`port_by_name`). -/
structure Bundle where
  name : String
  ports : List BundlePort
  ports_nodup : (ports.map (·.name)).Nodup

structure State where
  allAcls : Hmap ClsList
  allPortApplications : Hmap AclPortBinding

def State.empty : State := ⟨.empty, .empty⟩

def State.acls (s : State) : List ClsList := s.allAcls.values

def State.bindings (s : State) : List AclPortBinding := s.allPortApplications.values

/-- The arrangements that the two maps take on insertion. -/
structure Layouts where
  acls : Hmap.Layout ClsList
  bindings : Hmap.Layout AclPortBinding

/-- What a call leaves: the tables, its return value and the code written to `pd_status`. -/
structure Result where
  state : State
  rc : ℤ
  status : Option StatusCode

/-! ## The ACL table -/

variable (uuidHash : Uuid → ℕ)

def aclLookupByUuid (s : State) (uuid : Uuid) : Option ClsList :=
  (s.allAcls.withHash (uuidHash uuid)).find? (·.listId == uuid)

/-- The sum is accumulated in an `uint16_t`. -/
def aclGetCurrentAceEntriesCount (s : State) : ℕ :=
  s.acls.foldl (fun count acl => (count + acl.numEntries) % 2 ^ 16) 0

def aclListEntriesFitInHashmap (s : State) (newList : ClsList) : Bool :=
  let numCurrentEntries := aclGetCurrentAceEntriesCount s
  if numCurrentEntries = maxAceInHashmap then false
  else if numCurrentEntries < maxAceInHashmap then
    decide (newList.numEntries ≤ maxAceInHashmap - numCurrentEntries)
  else false

def aclListIsRollbackTestList (list : ClsList) : Bool :=
  list.listName == lagRollbackTestAclName

/-- Whether or not `num_entries` changes, the entry ends up with the entries of `source`. -/
def aclCopy (acl source : ClsList) : ClsList :=
  { acl with
    listId := source.listId
    listName := source.listName
    listType := source.listType
    entries := source.entries
    entries_lt := source.entries_lt }

def aclCreate (L : Layouts) (s : State) (list : ClsList) : State :=
  { s with allAcls := s.allAcls.insert L.acls (uuidHash list.listId) list }

def aclCreateOrUpdateEntry (L : Layouts) (s : State) (entry : ClsList) : State :=
  match aclLookupByUuid uuidHash s entry.listId with
  | some _ =>
    { s with
      allAcls := s.allAcls.updateWithHash (uuidHash entry.listId) (·.listId == entry.listId)
        (aclCopy · entry) }
  | none => aclCreate uuidHash L s entry

def aclListDelete (s : State) (uuid : Uuid) : State :=
  { s with allAcls := s.allAcls.removeWithHash (uuidHash uuid) (·.listId == uuid) }

/-! ## The binding table -/

/-- The binding that `ops_cls_pd_apply` and `ops_cls_pd_lag_update` allocate. -/
def newBinding (listId : Uuid) (bundleName : String) (interfaceInfo : InterfaceInfo)
    (direction : Direction) (port : BundlePort) : AclPortBinding where
  listId := listId
  interfaceName := port.name
  portName := bundleName
  interfaceInfo := interfaceInfo
  direction := direction
  stats := fun _ => ⟨true, 0⟩

def insertBinding (L : Layouts) (s : State) (b : AclPortBinding) : State :=
  { s with
    allPortApplications := s.allPortApplications.insert L.bindings (uuidHash b.listId) b }

/-- The test `ops_cls_pd_apply` and `ops_cls_pd_lag_update` make before they bind a port. It walks
the bucket of the list and compares the interface name and the direction. -/
def portAlreadyBound (s : State) (listId : Uuid) (name : String) (direction : Direction) : Bool :=
  (s.allPortApplications.bucket (uuidHash listId)).any fun b =>
    b.interfaceName == name && b.direction == direction

/-- Unlink the binding at which the search of `ops_cls_pd_remove` and of the delete action of
`ops_cls_pd_lag_update` stops. It walks the bucket of the list and compares the interface name. -/
def removeBinding (s : State) (listId : Uuid) (name : String) : State :=
  { s with
    allPortApplications :=
      s.allPortApplications.removeInBucket (uuidHash listId) (·.interfaceName == name) }

/-! ## The plug-in interface -/

/-- One turn of the port loop of `ops_cls_pd_apply`; the flag is `port_found`. -/
def applyPort (L : Layouts) (listId : Uuid) (bundleName : String) (interfaceInfo : InterfaceInfo)
    (direction : Direction) (st : State × Bool) (port : BundlePort) : State × Bool :=
  if portAlreadyBound uuidHash st.1 listId port.name direction then st
  else
    (insertBinding uuidHash L st.1 (newBinding listId bundleName interfaceInfo direction port),
      true)

/-- The part of `ops_cls_pd_apply` after the list has been found or created. -/
def applyToBundle (L : Layouts) (s : State) (list : ClsList) (bundle : Option Bundle)
    (interfaceInfo : InterfaceInfo) (direction : Direction) : Result :=
  match bundle with
  | none => ⟨s, -1, some .hwNotFoundErr⟩
  | some bundle =>
    let st := bundle.ports.foldl
      (applyPort uuidHash L list.listId bundle.name interfaceInfo direction) (s, false)
    if st.2 then ⟨st.1, 0, none⟩ else ⟨st.1, -1, some .hwPortErr⟩

def opsClsPdApply (L : Layouts) (s : State) (list : Option ClsList) (bundle : Option Bundle)
    (interfaceInfo : InterfaceInfo) (direction : Direction) : Result :=
  match list with
  | none => ⟨s, -1, none⟩
  | some list =>
    match aclLookupByUuid uuidHash s list.listId with
    | some _ => applyToBundle uuidHash L s list bundle interfaceInfo direction
    | none =>
      if aclListEntriesFitInHashmap s list then
        applyToBundle uuidHash L (aclCreate uuidHash L s list) list bundle interfaceInfo direction
      else ⟨s, -1, some .hwFullErr⟩

/-- One turn of the port loop of `ops_cls_pd_remove`. -/
def removePort (listId : Uuid) (s : State) (port : BundlePort) : State :=
  let s := removeBinding uuidHash s listId port.name
  -- `hmap_first_in_bucket`: the list goes once its bucket of bindings is empty
  if (s.allPortApplications.bucket (uuidHash listId)).isEmpty then aclListDelete uuidHash s listId
  else s

/-- The direction is a parameter of the source function that its body does not read. -/
def opsClsPdRemove (s : State) (listId : Uuid) (bundle : Option Bundle)
    (_direction : Direction) : Result :=
  match aclLookupByUuid uuidHash s listId with
  | none => ⟨s, -1, none⟩
  | some _ =>
    match bundle with
    | none => ⟨s, -1, none⟩
    | some bundle => ⟨bundle.ports.foldl (removePort uuidHash listId) s, 0, none⟩

/-- The part of `ops_cls_pd_lag_update` after the member port has been found. -/
def lagUpdateMember (L : Layouts) (s : State) (list : ClsList) (bundleName : String)
    (port : BundlePort) (action : LagUpdateAction) (interfaceInfo : InterfaceInfo)
    (direction : Direction) : State :=
  match action with
  | .memberIntfAdd =>
    if portAlreadyBound uuidHash s list.listId port.name direction then s
    else
      insertBinding uuidHash L s
        (newBinding list.listId bundleName interfaceInfo direction port)
  | .memberIntfDel => removeBinding uuidHash s list.listId port.name

def opsClsPdLagUpdate (L : Layouts) (s : State) (list : Option ClsList) (bundle : Option Bundle)
    (ofpPort : ℕ) (action : LagUpdateAction) (interfaceInfo : InterfaceInfo)
    (direction : Direction) : Result :=
  match list with
  | none => ⟨s, -1, none⟩
  | some list =>
    if direction = .egress ∧ action = .memberIntfAdd ∧ aclListIsRollbackTestList list then
      ⟨s, -1, some .hwNotFoundErr⟩
    else
      match aclLookupByUuid uuidHash s list.listId with
      | none => ⟨s, -1, none⟩
      | some _ =>
        match bundle with
        | none => ⟨s, -1, none⟩
        | some bundle =>
          match bundle.ports.find? (·.ofpPort == ofpPort) with
          | none => ⟨s, -1, none⟩
          | some port =>
            ⟨lagUpdateMember uuidHash L s list bundle.name port action interfaceInfo direction,
              0, none⟩

def opsClsPdReplace (L : Layouts) (s : State) (listIdOrig : Uuid) (listNew : ClsList)
    (bundle : Option Bundle) (interfaceInfo : InterfaceInfo) (direction : Direction) : Result :=
  let removed := opsClsPdRemove uuidHash s listIdOrig bundle direction
  if removed.rc ≠ 0 then { removed with rc := -1 }
  else opsClsPdApply uuidHash L removed.state (some listNew) bundle interfaceInfo direction

def opsClsPdListUpdate (L : Layouts) (s : State) (list : ClsList) : Result :=
  ⟨aclCreateOrUpdateEntry uuidHash L s list, 0, some .success⟩

/-! ## Runs -/

/-- A call of one of the operations that change the tables. -/
inductive Call where
  | apply (list : Option ClsList) (bundle : Option Bundle) (interfaceInfo : InterfaceInfo)
      (direction : Direction)
  | remove (listId : Uuid) (bundle : Option Bundle) (direction : Direction)
  | lagUpdate (list : Option ClsList) (bundle : Option Bundle) (ofpPort : ℕ)
      (action : LagUpdateAction) (interfaceInfo : InterfaceInfo) (direction : Direction)
  | replace (listIdOrig : Uuid) (listNew : ClsList) (bundle : Option Bundle)
      (interfaceInfo : InterfaceInfo) (direction : Direction)
  | listUpdate (list : ClsList)

def call (L : Layouts) (s : State) : Call → Result
  | .apply list bundle info direction => opsClsPdApply uuidHash L s list bundle info direction
  | .remove listId bundle direction => opsClsPdRemove uuidHash s listId bundle direction
  | .lagUpdate list bundle ofpPort action info direction =>
    opsClsPdLagUpdate uuidHash L s list bundle ofpPort action info direction
  | .replace orig list bundle info direction =>
    opsClsPdReplace uuidHash L s orig list bundle info direction
  | .listUpdate list => opsClsPdListUpdate uuidHash L s list

/-- A run of calls; every call brings the arrangements the maps take while it runs. -/
def run : State → List (Layouts × Call) → State
  | s, [] => s
  | s, (L, c) :: cs => run (call uuidHash L s c).state cs

end ContainerPlugin.Classifier
