import ContainerPlugin.Ofproto.Bundle

/-!
# Mirrors

`mirror_set` of `ofproto-sim-provider.c`.
-/

namespace ContainerPlugin.Ofproto

/-- `struct ofproto_mirror_bundle` -/
structure OfprotoMirrorBundle where
  ofproto : Ptr
  aux : Ptr

/-- `struct ofproto_mirror_settings`, as far as it is read. -/
structure OfprotoMirrorSettings where
  name : String
  srcs : List OfprotoMirrorBundle
  dsts : List OfprotoMirrorBundle
  outBundle : Option OfprotoMirrorBundle

/-- `strncpy` into a zeroed buffer of one more byte. -/
def truncateName (name : String) : String := String.ofList (name.toList.take maxMirrorNameLen)

variable (env : Env)

/-- A new mirror in the slot `i`. -/
def Mirror.fresh (i : Fin maxMirrors) (aux : Ptr) (name : String) : Mirror where
  idx := i
  aux := aux
  srcs := ∅
  dsts := ∅
  out := none
  name := truncateName name

/-- `mirrors[i] = mirror` -/
def State.setMirror (s : State) (i : Fin maxMirrors) (mirror : Mirror) : State :=
  { s with mbridge := { s.mbridge with mirrors := Function.update s.mbridge.mirrors i (some mirror) } }

def State.mirrorDestroy (s : State) (aux : Ptr) : State :=
  { s with mbridge := s.mbridge.mirrorDestroy aux }

/-- The bundles a list of the settings stands for. `none` if one is of another ofproto; a NULL
pointer stands for a bundle that does not exist. -/
def State.mirrorBundles (s : State) (bundles : List OfprotoMirrorBundle) :
    Option (List (Option Ptr)) :=
  bundles.mapM fun b => if b.ofproto = s.up then some (s.bundleLookup b.aux) else none

/-- `mbundle_lookup_multiple` -/
def Mbridge.mbundleLookupMultiple (m : Mbridge) (bundles : List (Option Ptr)) : Finset Ptr :=
  (bundles.filterMap fun b => b.bind m.mbundleLookup).toFinset

/-- What `mirror_set` finds for its settings. -/
structure MirrorSelection where
  srcs : List (Option Ptr)
  dsts : List (Option Ptr)
  outBundle : Option Ptr
  out : Option Ptr

/-- The lookups of `mirror_set`; `none` is a rejection with `EINVAL`. -/
def State.mirrorSelect (s : State) (settings : OfprotoMirrorSettings) : Option MirrorSelection := do
  let outBundle ←
    match settings.outBundle with
    | none => some none
    | some b => if b.ofproto = s.up then some (s.bundleLookup b.aux) else none
  let out ←
    match outBundle with
    | none => some none
    | some q => (s.mbridge.mbundleLookup q).map some
  let srcs ← s.mirrorBundles settings.srcs
  let dsts ← s.mirrorBundles settings.dsts
  some ⟨srcs, dsts, outBundle, out⟩

/-- "If the configuration has not changed, do nothing." -/
def Mirror.unchanged (m : Mirror) (mbridge : Mbridge) (sel : MirrorSelection) : Bool :=
  mbridge.mbundleLookupMultiple sel.srcs = m.srcs ∧
    mbridge.mbundleLookupMultiple sel.dsts = m.dsts ∧ m.out = sel.out

def Mirror.withSelection (m : Mirror) (mbridge : Mbridge) (sel : MirrorSelection) : Mirror :=
  { m with
    srcs := mbridge.mbundleLookupMultiple sel.srcs
    dsts := mbridge.mbundleLookupMultiple sel.dsts
    out := sel.out }

/-! ## The command -/

/-- `bndl[i]->name` for all `i`. -/
def State.bundleNames (s : State) (bundles : List (Option Ptr)) : Except Fault (List String) :=
  bundles.mapM fun b =>
    match b with
    | none => .error .nullDeref
    | some q => do
      let bundle ← s.derefBundle q
      .ok bundle.name

/-- A comma goes before every name but the first, if there is room for it. -/
def appendNames (text : String) : List String → Except Fault String
  | [] => .ok text
  | name :: names => do
    let text ← appendText text name
    names.foldlM
      (fun text name => appendText (if strlen text < maxCmdLen then text ++ "," else text) name)
      text

/-- "Add the ingress ports" and "Add the egress ports". -/
def appendSelect (text mirror id column : String) (names : List String) : Except Fault String :=
  if names = [] then .ok text
  else do
    let text ← (names.map fun n => " -- --id=@" ++ id ++ n ++ " get port " ++ n).foldlM
      appendText text
    let text ← appendText text (" -- set mirror " ++ mirror ++ " " ++ column ++ "=")
    appendNames text (names.map fun n => "@" ++ id ++ n)

/-- The test of the remaining space, as the compiler reads it: `?:` binds looser than `+` and `==`,
so that `MIRROR_OUTPUT_PORT_CMD_MIN_LEN + NULL == out_bundle` is the condition, which is false, and
`strlen(out_bundle->name) + strlen(s->name)` is what the space is compared with. The comparison is
one of unsigned numbers. -/
def mirrorCmdExceeds (text : String) (out mirror : String) : Bool :=
  strlen text ≤ maxCmdLen ∧ maxCmdLen - strlen text < strlen out + strlen mirror

/-- `create mirror`. The result says whether the command was run and how it ended. The offsets are the
lengths of the texts here, as natural numbers. -/
def mirrorCreate (s : State) (name : String) (sel : MirrorSelection) :
    Except Fault (State × Rc) := do
  let srcs ← s.bundleNames sel.srcs
  let dsts ← s.bundleNames sel.dsts
  let text ← appendSelect (createMirrorHead name) name "srx" "select-src-port" srcs
  let text ← appendSelect text name "stx" "select-dst-port" dsts
  match sel.outBundle with
  | none => .error .nullDeref
  | some q => do
    let bundle ← s.derefBundle q
    if mirrorCmdExceeds text bundle.name name then .ok (s, .emsgsize)
    else do
      let _ ← (outputPieces name (some bundle.name)).foldlM appendText text
      let row : MirrorRow := ⟨name, srcs, dsts, some bundle.name⟩
      let created := s.world.system env (.createMirror row)
      .ok ({ s with world := created.1 },
        if created.2 then .ok else .errno (env.errno s.world.log (.createMirror row)))

/-- `mirror_set` from the swap of the maps up to the deletion of the old mirror. -/
def mirrorPrepare (s : State) (i : Fin maxMirrors) (mirror : Mirror) (modify : Bool)
    (sel : MirrorSelection) : State :=
  let s := s.setMirror i (mirror.withSelection s.mbridge sel)
  let s := { s with mbridge := { s.mbridge with hasMirrors := true } }
  if modify then s.system env (.removeMirror mirror.name) else s

/-- Creates the new mirror, and gives the slot up if that fails, whatever `errno` is then. -/
def mirrorInstall (s : State) (mirror : Mirror) (settings : OfprotoMirrorSettings)
    (sel : MirrorSelection) : Except Fault (State × Rc) := do
  let (s, rc) ← mirrorCreate env s settings.name sel
  if rc = .ok then .ok (s, rc) else .ok (s.mirrorDestroy mirror.aux, rc)

/-- `mirror_set` once the mirror's slot is known. -/
def mirrorUpdate (s : State) (i : Fin maxMirrors) (mirror : Mirror) (modify : Bool)
    (settings : OfprotoMirrorSettings) : Except Fault (State × Rc) :=
  match s.mirrorSelect settings with
  | none => .ok (s.mirrorDestroy mirror.aux, .einval)
  | some sel =>
    if mirror.unchanged s.mbridge sel then .ok (s, .ok)
    else mirrorInstall env (mirrorPrepare env s i mirror modify sel) mirror settings sel

/-- `mirror_set`; `none` is a NULL settings pointer. -/
def mirrorSet (s : State) (aux : Ptr) : Option OfprotoMirrorSettings → Except Fault (State × Rc)
  | some settings =>
    match s.mbridge.mirrorLookup aux with
    | some i =>
      match s.mbridge.mirrors i with
      | some mirror => mirrorUpdate env s i mirror true settings
      | none => .error .nullDeref
    | none =>
      match s.mbridge.mirrorScan with
      | none => .ok (s, .efbig)
      | some i =>
        let mirror := Mirror.fresh i aux settings.name
        mirrorUpdate env (s.setMirror i mirror) i mirror false settings
  | none =>
    match (s.mbridge.mirrorLookup aux).bind s.mbridge.mirrors with
    | none => .ok (s, .ok)
    | some mirror =>
      let removed := s.world.system env (.removeMirror mirror.name)
      .ok ({ s with world := removed.1 }.mirrorDestroy aux,
        if removed.2 then .ok else .errno (env.errno s.world.log (.removeMirror mirror.name)))

end ContainerPlugin.Ofproto
