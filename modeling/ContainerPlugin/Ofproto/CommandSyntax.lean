import ContainerPlugin.Lib.Words
import ContainerPlugin.Ofproto.CommandLength

/-!
# Reading the VLAN commands back

`bundle_configure` and `sim_bridge_vlan_routing_update` print their commands piece by piece into a
buffer, with a scan over the VLANs in the middle. `configureCommand` and `bridgeTrunksCommand` follow
the buffer, and `parsePortCommand` reads a text the way `ovs-vsctl` does: it gives back the names and
exactly the columns that were asked for.
-/

namespace ContainerPlugin.Ofproto

open Words

/-! ## Reading -/

/-- The columns that the words after the names set. -/
structure ColumnSettings where
  tag : Option ℤ
  trunks : Option (List ℕ)
  vlanMode : Option PortVlanMode
  deriving DecidableEq

inductive PortCommand where
  | addPort (bridge name : String) (columns : ColumnSettings)
  | setPort (name : String) (columns : ColumnSettings)
  deriving DecidableEq

def parseVlanMode (w : List Char) : Option PortVlanMode :=
  if w = "access".toList then some .access
  else if w = "trunk".toList then some .trunk
  else if w = "native-untagged".toList then some .nativeUntagged
  else if w = "native-tagged".toList then some .nativeTagged
  else none

/-- A word `column=value`. -/
def parseColumn (columns : ColumnSettings) (w : List Char) : Option ColumnSettings :=
  match w.splitOn '=' with
  | [column, value] =>
    if column = "tag".toList then
      (parseNat value).map fun (tag : ℕ) => { columns with tag := some (tag : ℤ) }
    else if column = "trunks".toList then
      (parseNats ',' value).map fun trunks => { columns with trunks := some trunks }
    else if column = "vlan_mode".toList then
      (parseVlanMode value).map fun mode => { columns with vlanMode := some mode }
    else none
  | _ => none

/-- Several spaces in a row separate the columns as well as one. -/
def parseColumns (ws : List (List Char)) : Option ColumnSettings :=
  (ws.filter (· ≠ [])).foldlM parseColumn ⟨none, none, none⟩

/-- `ovs-vsctl --may-exist add-port BRIDGE PORT COLUMN=VALUE...` or
`ovs-vsctl set port PORT COLUMN=VALUE...`. -/
def parsePortCommand (text : String) : Option PortCommand :=
  match text.toList.splitOn ' ' with
  | exe :: w₁ :: w₂ :: name :: ws =>
    if exe ≠ ovsVsctl.toList then none
    else if w₁ = "--may-exist".toList ∧ w₂ = "add-port".toList then
      match ws with
      | port :: ws => (parseColumns ws).map (.addPort (.ofList name) (.ofList port))
      | [] => none
    else if w₁ = "set".toList ∧ w₂ = "port".toList then
      (parseColumns ws).map (.setPort (.ofList name))
    else none
  | _ => none

/-! ## Printing -/

/-- The body of the loop over the VLANs; the second component is `vlan_count`. -/
def scanVid (test : ℕ → Bool) (acc : String × ℕ) (i : ℕ) : Except Fault (String × ℕ) :=
  if test i then do
    let text ← appendAsserted acc.1 ((if acc.2 = 0 then " trunks=" else ",") ++ toString i)
    .ok (text, acc.2 + 1)
  else .ok acc

/-- `for (i = 1; i < 4095; i++)` -/
def scanVids (test : ℕ → Bool) (text : String) : Except Fault (String × ℕ) :=
  (List.range' 1 4094).foldlM (scanVid test) (text, 0)

/-- What `bundle_configure` prints after the names, up to `vlan_mode`. `none` is `goto done`. -/
def configureVlans (vlansBmp : VlanBitmap) (bundle : Ofbundle) (text : String) :
    Except Fault (Option String) := do
  if bundle.vlanMode = .access then .ok (some text)
  else do
    let (text, vlanCount) ← scanVids (fun i => i ∈ vlansBmp ∧ ∀ t ∈ bundle.trunks, i ∈ t) text
    if vlanCount = 0 then .ok none else .ok (some text)

/-- The text that `bundle_configure` hands to `system`. `none` is `goto done`. -/
def configureCommand (bridge : String) (vlansBmp : VlanBitmap) (bundle : Ofbundle) :
    Except Fault (Option String) := do
  match ← configureTag vlansBmp bundle (addPortHead bridge bundle.name) with
  | none => .ok none
  | some (text, _) =>
    match ← configureVlans vlansBmp bundle text with
    | none => .ok none
    | some text => do
      let text ← appendAsserted text (vlanModePiece bundle.vlanMode)
      .ok (some text)

/-- The text that `sim_bridge_vlan_routing_update` hands to `system`. -/
def bridgeTrunksCommand (bridge : String) (vlanIntfBmp : VlanBitmap) : Except Fault String := do
  let (text, vlanCount) ← scanVids (· ∈ vlanIntfBmp) (setPortTrunksHead bridge)
  if vlanCount = 0 then appendText text " trunks=0" else .ok text

section Scan

variable {test : ℕ → Bool} {text : String}

/-- Once a VLAN has been printed the others come with a comma. -/
theorem foldlM_scanVid_of_pos (l : List ℕ) {n : ℕ} (hn : n ≠ 0) :
    l.foldlM (scanVid test) (text, n) =
      ((l.filter test).map ("," ++ toString ·)).foldlM appendAsserted text >>= fun text =>
        .ok (text, n + (l.filter test).length) := by
  induction l generalizing text n with
  | nil => rfl
  | cons i l ih =>
    rw [List.foldlM_cons, scanVid]
    cases htest : test i with
    | true =>
      rw [List.filter_cons_of_pos htest, List.map_cons, List.foldlM_cons, List.length_cons]
      simp only [if_true, if_neg hn, bind_assoc, Except.ok_bind]
      congr 1
      funext text'
      rw [ih (Nat.succ_ne_zero n)]
      congr 1
      funext text''
      rw [Nat.succ_add_eq_add_succ]
    | false =>
      rw [List.filter_cons_of_neg (by simp [htest])]
      exact ih hn

theorem foldlM_scanVid (l : List ℕ) :
    l.foldlM (scanVid test) (text, 0) =
      (trunkPieces (l.filter test)).foldlM appendAsserted text >>= fun text =>
        .ok (text, (l.filter test).length) := by
  induction l generalizing text with
  | nil => rfl
  | cons i l ih =>
    rw [List.foldlM_cons, scanVid]
    cases htest : test i with
    | true =>
      rw [List.filter_cons_of_pos htest, trunkPieces, List.foldlM_cons, List.length_cons]
      simp only [if_true, bind_assoc, Except.ok_bind]
      congr 1
      funext text'
      rw [foldlM_scanVid_of_pos l (Nat.succ_ne_zero 0)]
      congr 1
      funext text''
      rw [Nat.add_comm]
    | false =>
      rw [List.filter_cons_of_neg (by simp [htest])]
      exact ih

/-- The scan prints the VLANs of `vids` and counts them. -/
theorem scanVids_eq (test : ℕ → Bool) (text : String) :
    scanVids test text = (trunkPieces (vids test)).foldlM appendAsserted text >>= fun text =>
      .ok (text, (vids test).length) :=
  foldlM_scanVid _

end Scan

section Command

variable {bridge : String} {vlansBmp : VlanBitmap} {b : Ofbundle} {text : String}

theorem configureVlans_eq :
    configureVlans vlansBmp b text = configureTrunks vlansBmp b text >>= fun r =>
      .ok (r.map Prod.fst) := by
  rw [configureVlans, configureTrunks]
  split
  · rfl
  · rw [scanVids_eq, bind_assoc, bind_assoc]
    congr 1
    funext text'
    rw [Except.ok_bind]
    by_cases hvids : trunkVids vlansBmp b.trunks = []
    · rw [if_pos hvids]
      exact if_pos (List.length_eq_zero_iff.mpr hvids)
    · rw [if_neg hvids]
      exact if_neg fun hlength => hvids (List.length_eq_zero_iff.mp hlength)

/-- The buffer holds the pieces, one after the other. -/
theorem configureCommand_eq (hvlan : b.vlanMode ≠ .trunk → b.vlan < vlanBitmapSize) :
    configureCommand bridge vlansBmp b =
      (configurePieces vlansBmp b).foldlM appendAsserted (addPortHead bridge b.name) >>=
        fun text => .ok ((wantedColumns vlansBmp b).map fun _ => text) := by
  rw [configureCommand, wantedColumns, configurePieces]
  by_cases htag : b.vlanMode = .trunk ∨ 0 < b.vlan ∧ b.vlan.toNat ∈ vlansBmp
  · rw [configureTag_eq hvlan htag, if_pos htag, List.foldlM_append, List.foldlM_append, bind_assoc,
      bind_assoc, bind_assoc]
    congr 1
    funext text
    rw [Except.ok_bind]
    dsimp only
    rw [configureVlans_eq, configureTrunks_eq, bind_assoc, bind_assoc]
    congr 1
    funext text'
    by_cases htrunks : b.vlanMode = .access ∨ trunkVids vlansBmp b.trunks ≠ []
    · simp only [if_pos htrunks, if_pos (And.intro htag htrunks), Except.ok_bind, Option.map_some,
        List.foldlM_cons, List.foldlM_nil, bind_assoc, pure_bind]
    · simp only [if_neg htrunks, if_neg fun h => htrunks (And.right h), Except.ok_bind,
        Option.map_none, List.foldlM_nil, pure_bind]
  · rw [configureTag_eq_none hvlan htag, if_neg htag, if_neg fun h => htag (And.left h)]
    rfl

/-- The text that is handed to `system` is the one of the command that is run. -/
theorem configureCommand_of_columns {columns : PortColumns}
    (h : configureColumns bridge vlansBmp b = .ok (some columns)) :
    wantedColumns vlansBmp b = some columns ∧
      configureCommand bridge vlansBmp b = .ok (some (Cmd.addPort bridge b.name columns).text) := by
  have hvlan : b.vlanMode ≠ .trunk → b.vlan < vlanBitmapSize := by
    intro hmode
    by_contra hlarge
    have hpos : 0 < b.vlan := by
      simp only [vlanBitmapSize] at hlarge
      omega
    have htest : bitmapIsSet vlansBmp b.vlan = .error .bitmapIndex := if_neg fun h => hlarge h.2
    simp only [configureColumns, configureTag, if_neg hmode, if_pos hpos, htest] at h
    cases h
  rw [configureColumns_eq_foldlM hvlan] at h
  obtain ⟨text, htext, hcolumns⟩ := Except.exists_of_bind_eq_ok h
  have hwanted : wantedColumns vlansBmp b = some columns := Except.ok.inj hcolumns
  have hprinted : text = configureText bridge vlansBmp b :=
    ((foldlM_appendAsserted_returns _ _).of_ok htext).1
  rw [configureCommand_eq hvlan, htext, Except.ok_bind, hwanted, hprinted, text_addPort hwanted]
  exact ⟨rfl, rfl⟩

theorem bridgeTrunksCommand_eq :
    bridgeTrunksCommand bridge vlansBmp =
      (trunkPieces (vids (· ∈ vlansBmp))).foldlM appendAsserted (setPortTrunksHead bridge) >>=
        fun text => if vids (· ∈ vlansBmp) = [] then appendText text " trunks=0" else .ok text := by
  rw [bridgeTrunksCommand, scanVids_eq, bind_assoc]
  congr 1
  funext text
  simp only [Except.ok_bind, List.length_eq_zero_iff]

end Command

/-! ## Words -/

/-- The word `trunks=...` of the VLANs `i :: is`. -/
def trunksWord (i : ℕ) (is : List ℕ) : List Char :=
  "trunks".toList ++ '=' :: (i.repr.toList ++ (is.map fun j => ',' :: j.repr.toList).flatten)

def vlanModeName : PortVlanMode → String
  | .access => "access"
  | .trunk => "trunk"
  | .nativeUntagged => "native-untagged"
  | .nativeTagged => "native-tagged"

/-- The words that set the columns of a port. -/
def columnWords (columns : PortColumns) : List (List Char) :=
  columns.tag.toList.map (fun tag => "tag".toList ++ '=' :: (toString tag).toList) ++
    (match columns.trunks with
      | [] => []
      | i :: is => [trunksWord i is]) ++
    ["vlan_mode".toList ++ '=' :: (vlanModeName columns.vlanMode).toList]

section Words

variable {columns : PortColumns} {bridge name : String}

theorem toList_printed (head : String) (pieces : List String) :
    (printed head pieces).toList = head.toList ++ (pieces.map String.toList).flatten := by
  induction pieces generalizing head with
  | nil => exact (List.append_nil _).symm
  | cons piece pieces ih =>
    have hstep : (printed head (piece :: pieces)).toList =
        (head ++ piece).toList ++ (pieces.map String.toList).flatten := ih (head ++ piece)
    rw [hstep, String.toList_append, List.append_assoc, List.map_cons, List.flatten_cons]

/-- The pieces of the VLANs make up one word. -/
theorem flatten_trunkPieces (i : ℕ) (is : List ℕ) :
    ((trunkPieces (i :: is)).map String.toList).flatten = ' ' :: trunksWord i is := by
  have hrest : (is.map ("," ++ toString ·)).map String.toList =
      is.map fun j => ',' :: j.repr.toList := by
    rw [List.map_map]
    refine List.map_congr_left fun j _ => ?_
    rw [Function.comp_apply, String.toList_append]
    rfl
  rw [trunkPieces, List.map_cons, List.flatten_cons, hrest, String.toList_append]
  rfl

theorem toList_vlanModePiece (mode : PortVlanMode) :
    (vlanModePiece mode).toList = ' ' :: ("vlan_mode".toList ++ '=' :: (vlanModeName mode).toList) := by
  cases mode <;> rfl

theorem toList_tagPiece (tag : ℤ) :
    (tagPiece tag).toList = ' ' :: ("tag".toList ++ '=' :: (toString tag).toList) := by
  rw [tagPiece, String.toList_append]
  rfl

/-- The text of an `add-port` command, word by word. -/
theorem toList_addPort (bridge name : String) (columns : PortColumns) :
    (Cmd.addPort bridge name columns).text.toList = ovsVsctl.toList ++
      (("--may-exist".toList :: "add-port".toList :: bridge.toList :: name.toList ::
        columnWords columns).map (' ' :: ·)).flatten := by
  have hhead : (addPortHead bridge name).toList = ovsVsctl.toList ++ ' ' :: ("--may-exist".toList ++
      ' ' :: ("add-port".toList ++ ' ' :: (bridge.toList ++ ' ' :: name.toList))) := by
    simp only [addPortHead, String.toList_append, List.append_assoc]
    rfl
  have hpieces : ((columns.tag.toList.map tagPiece ++ trunkPieces columns.trunks ++
      [vlanModePiece columns.vlanMode]).map String.toList).flatten =
      ((columnWords columns).map (' ' :: ·)).flatten := by
    have htag : ((columns.tag.toList.map tagPiece).map String.toList).flatten =
        ((columns.tag.toList.map fun tag => "tag".toList ++ '=' :: (toString tag).toList).map
          (' ' :: ·)).flatten := by
      rw [List.map_map, List.map_map]
      congr 1
      exact List.map_congr_left fun tag _ => toList_tagPiece tag
    simp only [columnWords, List.map_append, List.flatten_append, htag, List.map_cons, List.map_nil,
      List.flatten_cons, List.flatten_nil, List.append_nil, toList_vlanModePiece]
    cases columns.trunks with
    | nil => rfl
    | cons i is => rw [flatten_trunkPieces]; simp
  rw [Cmd.text, toList_printed, hpieces, hhead]
  simp

theorem toList_setPortTrunks (bridge : String) (i : ℕ) (is : List ℕ) :
    (Cmd.setPortTrunks bridge (i :: is)).text.toList = ovsVsctl.toList ++
      (["set".toList, "port".toList, bridge.toList, [], trunksWord i is].map (' ' :: ·)).flatten := by
  have hhead : (setPortTrunksHead bridge).toList = ovsVsctl.toList ++ ' ' :: ("set".toList ++
      ' ' :: ("port".toList ++ ' ' :: (bridge.toList ++ [' ']))) := by
    simp only [setPortTrunksHead, String.toList_append, List.append_assoc]
    rfl
  rw [Cmd.text, toList_printed, flatten_trunkPieces, hhead]
  simp

end Words

/-! ## The columns are read back -/

section Columns

variable {set : ColumnSettings} {columns : PortColumns} {c : Char}

theorem notMem_toString {tag : ℤ} (hc : c.isDigit = false) (htag : 0 ≤ tag) :
    c ∉ (toString tag).toList := by
  obtain ⟨n, rfl⟩ := Int.eq_ofNat_of_zero_le htag
  exact notMem_repr hc n

/-- A character other than a comma and the digits is in no list of VLANs. -/
theorem notMem_vids (hc : c.isDigit = false) (hcomma : c ≠ ',') (i : ℕ) (is : List ℕ) :
    c ∉ i.repr.toList ++ (is.map fun j => ',' :: j.repr.toList).flatten := by
  simp only [List.mem_append, List.mem_flatten, List.mem_map, not_or, not_exists, not_and]
  refine ⟨notMem_repr hc i, ?_⟩
  rintro _ ⟨j, -, rfl⟩ hmem
  exact (List.mem_cons.mp hmem).elim hcomma (notMem_repr hc j)

theorem splitOn_column {column value : List Char} (hcolumn : '=' ∉ column) (hvalue : '=' ∉ value) :
    (column ++ '=' :: value).splitOn '=' = [column, value] := by
  have hsplit := splitOn_words (w := column) hcolumn (List.forall_mem_singleton.mpr hvalue)
  simpa using hsplit

theorem parseColumn_tag {tag : ℤ} (htag : 0 ≤ tag) :
    parseColumn set ("tag".toList ++ '=' :: (toString tag).toList) =
      some { set with tag := some tag } := by
  have hsplit : ("tag".toList ++ '=' :: (toString tag).toList).splitOn '=' = _ :=
    splitOn_column (by decide) (notMem_toString (by decide) htag)
  obtain ⟨n, rfl⟩ := Int.eq_ofNat_of_zero_le htag
  have hvalue : parseNat (toString (n : ℤ)).toList = some n := parseNat_repr n
  rw [parseColumn, hsplit]
  simp only [if_true, hvalue, Option.map_some]

theorem parseColumn_trunks (i : ℕ) (is : List ℕ) :
    parseColumn set (trunksWord i is) = some { set with trunks := some (i :: is) } := by
  have hsplit : (trunksWord i is).splitOn '=' = _ :=
    splitOn_column (by decide) (notMem_vids (by decide) (by decide) i is)
  have hother : "trunks".toList ≠ "tag".toList := by decide
  have hcomma : (',').isDigit = false := by decide
  rw [parseColumn, hsplit]
  simp only [if_neg hother, if_true, parseNats_reprs hcomma i is, Option.map_some]

theorem parseColumn_vlanMode (mode : PortVlanMode) :
    parseColumn set ("vlan_mode".toList ++ '=' :: (vlanModeName mode).toList) =
      some { set with vlanMode := some mode } := by
  have hsplit : ("vlan_mode".toList ++ '=' :: (vlanModeName mode).toList).splitOn '=' = _ :=
    splitOn_column (by decide) (by cases mode <;> decide)
  have hvalue : parseVlanMode (vlanModeName mode).toList = some mode := by cases mode <;> decide
  have hother : "vlan_mode".toList ≠ "tag".toList ∧ "vlan_mode".toList ≠ "trunks".toList := by decide
  rw [parseColumn, hsplit]
  simp only [if_neg hother.1, if_neg hother.2, if_true, hvalue, Option.map_some]

/-- What is read of the columns of a port: no word names an empty list of trunks. -/
def PortColumns.settings (columns : PortColumns) : ColumnSettings where
  tag := columns.tag
  trunks := if columns.trunks = [] then none else some columns.trunks
  vlanMode := some columns.vlanMode

theorem ne_nil_of_mem_columnWords {w : List Char} (hw : w ∈ columnWords columns) : w ≠ [] := by
  rw [columnWords, List.mem_append, List.mem_append] at hw
  rcases hw with (hw | hw) | hw
  · obtain ⟨tag, -, rfl⟩ := List.mem_map.mp hw
    nofun
  · split at hw
    · cases hw
    · rw [List.mem_singleton.mp hw]
      nofun
  · rw [List.mem_singleton.mp hw]
    nofun

theorem parseColumns_columnWords (htag : ∀ tag ∈ columns.tag, 0 ≤ tag) :
    parseColumns (columnWords columns) = some columns.settings := by
  have hwords : (columnWords columns).filter (· ≠ []) = columnWords columns :=
    List.filter_eq_self.mpr fun w hw => decide_eq_true (ne_nil_of_mem_columnWords hw)
  obtain ⟨tag, trunks, mode⟩ := columns
  have hfirst : (tag.toList.map fun tag => "tag".toList ++ '=' :: (toString tag).toList).foldlM
      parseColumn ⟨none, none, none⟩ = some ⟨tag, none, none⟩ := by
    cases tag with
    | none => rfl
    | some tag =>
      rw [Option.toList_some, List.map_singleton, List.foldlM_cons, parseColumn_tag (htag tag rfl)]
      rfl
  have hlast (set : ColumnSettings) : ["vlan_mode".toList ++ '=' :: (vlanModeName mode).toList].foldlM
      parseColumn set = some { set with vlanMode := some mode } := by
    rw [List.foldlM_cons, parseColumn_vlanMode]
    rfl
  rw [parseColumns, hwords, columnWords, List.foldlM_append, List.foldlM_append, hfirst]
  cases trunks with
  | nil => exact hlast ⟨tag, none, none⟩
  | cons i is =>
    have htrunks : [trunksWord i is].foldlM parseColumn ⟨tag, none, none⟩ =
        some ⟨tag, some (i :: is), none⟩ := by
      rw [List.foldlM_cons, parseColumn_trunks]
      rfl
    exact (congrArg (· >>= _) htrunks).trans (hlast ⟨tag, some (i :: is), none⟩)

end Columns

/-! ## The commands are read back -/

section Commands

variable {bridge name : String} {columns : PortColumns}

theorem space_notMem_column {column value : List Char} (hcolumn : ' ' ∉ column)
    (hvalue : ' ' ∉ value) : ' ' ∉ column ++ '=' :: value := by
  rw [List.mem_append, List.mem_cons]
  rintro (hmem | heq | hmem)
  · exact hcolumn hmem
  · cases heq
  · exact hvalue hmem

theorem space_notMem_trunksWord (i : ℕ) (is : List ℕ) : ' ' ∉ trunksWord i is :=
  space_notMem_column (by decide) (notMem_vids (by decide) (by decide) i is)

theorem space_notMem_columnWords (htag : ∀ tag ∈ columns.tag, 0 ≤ tag) :
    ∀ w ∈ columnWords columns, ' ' ∉ w := by
  intro w hw
  rw [columnWords, List.mem_append, List.mem_append] at hw
  rcases hw with (hw | hw) | hw
  · obtain ⟨tag, hmem, rfl⟩ := List.mem_map.mp hw
    have hvalue := notMem_toString (c := ' ') (by decide) (htag tag (Option.mem_toList.mp hmem))
    exact space_notMem_column (by decide) hvalue
  · split at hw
    · cases hw
    · rw [List.mem_singleton.mp hw]
      exact space_notMem_trunksWord _ _
  · rw [List.mem_singleton.mp hw]
    exact space_notMem_column (by decide) (by cases columns.vlanMode <;> decide)

theorem parsePortCommand_addPort (hbridge : ' ' ∉ bridge.toList) (hname : ' ' ∉ name.toList)
    (htag : ∀ tag ∈ columns.tag, 0 ≤ tag) :
    parsePortCommand (Cmd.addPort bridge name columns).text =
      some (.addPort bridge name columns.settings) := by
  have hwords : ∀ w ∈ "--may-exist".toList :: "add-port".toList :: bridge.toList :: name.toList ::
      columnWords columns, ' ' ∉ w := by
    simp only [List.forall_mem_cons]
    exact ⟨by decide, by decide, hbridge, hname, space_notMem_columnWords htag⟩
  have hsplit := splitOn_words (w := ovsVsctl.toList) (by decide) hwords
  rw [← toList_addPort] at hsplit
  rw [parsePortCommand, hsplit]
  simp only [ne_eq, not_true_eq_false, if_false, and_self, if_true, parseColumns_columnWords htag,
    Option.map_some, String.ofList_toList]

theorem parsePortCommand_setPortTrunks (hbridge : ' ' ∉ bridge.toList) (i : ℕ) (is : List ℕ) :
    parsePortCommand (Cmd.setPortTrunks bridge (i :: is)).text =
      some (.setPort bridge ⟨none, some (i :: is), none⟩) := by
  have hwords : ∀ w ∈ ["set".toList, "port".toList, bridge.toList, [], trunksWord i is],
      ' ' ∉ w := by
    simp only [List.forall_mem_cons]
    exact ⟨by decide, by decide, hbridge, by decide, space_notMem_trunksWord i is, nofun⟩
  have hsplit := splitOn_words (w := ovsVsctl.toList) (by decide) hwords
  rw [← toList_setPortTrunks] at hsplit
  have hcolumns : parseColumns [[], trunksWord i is] = some ⟨none, some (i :: is), none⟩ :=
    (bind_pure _).trans (parseColumn_trunks i is)
  have hother : ¬ ("set".toList = "--may-exist".toList ∧ "port".toList = "add-port".toList) := by
    decide
  rw [parsePortCommand, hsplit]
  simp only [ne_eq, not_true_eq_false, if_false, if_neg hother, and_self, if_true, hcolumns,
    Option.map_some, String.ofList_toList]

end Commands

/-! ## Every command that is run is read back -/

def Cmd.isAddPort : Cmd → Bool
  | .addPort .. => true
  | _ => false

/-- All VLANs from 1 to 4094 with `P`, in increasing order. -/
def ListsVids (P : ℕ → Prop) (is : List ℕ) : Prop :=
  is.Pairwise (· < ·) ∧ ∀ i, i ∈ is ↔ (1 ≤ i ∧ i ≤ 4094) ∧ P i

/-- The text reads as the `add-port` command that the bundle is to have. -/
def ReadsAddPort (bridge : String) (vlansBmp : VlanBitmap) (b : Ofbundle) (text : String) : Prop :=
  ∃ trunks, ListsVids (fun i => i ∈ vlansBmp ∧ ∀ t ∈ b.trunks, i ∈ t) trunks ∧
    parsePortCommand text = some (.addPort bridge b.name {
      tag := if b.vlanMode = .trunk then none else some b.vlan
      trunks := if b.vlanMode = .access then none else some trunks
      vlanMode := some b.vlanMode })

/-- The text reads as the command that sets the trunks of the bridge. -/
def ReadsTrunks (bridge : String) (vlanIntfBmp : VlanBitmap) (text : String) : Prop :=
  ∃ trunks, ListsVids (· ∈ vlanIntfBmp) trunks ∧
    parsePortCommand text =
      some (.setPort bridge ⟨none, some (if trunks = [] then [0] else trunks), none⟩)

section Run

variable {env : Env} {s s' : State} {q : Ptr}

theorem listsVids_vids {P : ℕ → Prop} [DecidablePred P] : ListsVids P (vids fun i => P i) := by
  refine ⟨List.Pairwise.filter _ List.pairwise_lt_range', fun i => ?_⟩
  rw [mem_vids, decide_eq_true_eq, and_assoc]

theorem readsAddPort_of_wanted {bridge : String} {vlansBmp : VlanBitmap} {b : Ofbundle}
    {columns : PortColumns} (hbridge : ' ' ∉ bridge.toList) (hname : ' ' ∉ b.name.toList)
    (h : wantedColumns vlansBmp b = some columns) :
    ReadsAddPort bridge vlansBmp b (Cmd.addPort bridge b.name columns).text := by
  refine ⟨trunkVids vlansBmp b.trunks, listsVids_vids, ?_⟩
  rw [wantedColumns] at h
  split at h
  case isFalse => cases h
  rename_i hwanted
  obtain ⟨htag, htrunks⟩ := hwanted
  obtain rfl := Option.some.inj h
  rw [parsePortCommand_addPort hbridge hname, PortColumns.settings]
  · by_cases hmode : b.vlanMode = .access
    · simp only [hmode, if_true]
    · simp only [if_neg hmode, if_neg (htrunks.resolve_left hmode)]
  · intro tag hmem
    dsimp only at hmem
    split at hmem
    · cases hmem
    · rename_i hmode
      obtain rfl := Option.some.inj hmem
      exact (htag.resolve_left hmode).1.le

/-- The commands that `bundle_configure` runs: at most one is an `add-port` command. -/
theorem bundleConfigure_ran {P : Cmd → Prop} (hdel : ∀ name, P (.delPort name))
    (hipt : ∀ op chain dev, P (.iptables op chain dev))
    (hadd : ∀ columns, configureColumns s.name s.vlansBmp (s.bundle q) = .ok (some columns) →
      P (.addPort s.name (s.bundle q).name columns)) :
    (bundleConfigure env s q).Ensures (fun _ => True) fun s' => s.world.Ran P s'.world := by
  have hfirst : s.world.Ran P (delFromSimOvs env s q).world := delFromSimOvs_ran env (hdel _)
  rw [bundleConfigure]
  refine (Except.ensures_true _).bind fun _ _ => ?_
  dsimp only
  split
  · exact hfirst
  refine (Except.ensures_true _).bind fun ps _ => ?_
  split
  · exact hfirst
  have hcleared : s.world.Ran P (cleared env s q ps).world := cleared_ran (hdel _) fun p _ => hdel _
  have hblocked (s : State) : s.world.Ran P (ps.foldl (blockPort env) s).world :=
    blockPorts_ran fun p _ => by
      simp only [memberCmds, List.forall_mem_cons]
      exact ⟨hdel _, hipt _ _ _, hipt _ _ _, hipt _ _ _, List.forall_mem_nil _⟩
  obtain ⟨w, hs⟩ := cleared_spec env s q ps
  have hcolumns : configureColumns (cleared env s q ps).name (cleared env s q ps).vlansBmp
      ((cleared env s q ps).bundle q) = configureColumns s.name s.vlansBmp (s.bundle q) := by
    rw [hs]
    simp [configureColumns, configureTag, configureTrunks]
  have hport : (configurePort env (cleared env s q ps) q).Ensures (fun _ => True)
      fun s₃ => s.world.Ran P s₃.world := by
    rw [configurePort, hcolumns]
    cases hc : configureColumns s.name s.vlansBmp (s.bundle q) with
    | error e => trivial
    | ok r =>
      cases r with
      | none => exact hcleared
      | some columns =>
        refine hcleared.trans ?_
        rw [world_addToSimOvs, hs]
        exact .of_system env w (by simpa using hadd columns hc)
  exact hport.bind fun s₃ hs₃ => hs₃.trans (hblocked s₃)

/-- The command of a change of the bridge's trunks, and its text. -/
theorem bridgeTrunksUpdate_eq (h : bridgeTrunksUpdate env s = .ok s') :
    s' = s.system env (.setPortTrunks s.name (bridgeTrunks s.vlanIntfBmp)) ∧
      bridgeTrunksCommand s.name s.vlanIntfBmp =
        .ok (Cmd.setPortTrunks s.name (bridgeTrunks s.vlanIntfBmp)).text := by
  obtain ⟨text, htext, hrest⟩ := Except.exists_of_bind_eq_ok h
  obtain rfl : text = _ := ((foldlM_appendAsserted_returns _ _).of_ok htext).1
  rw [bridgeTrunksCommand_eq, htext, Except.ok_bind]
  by_cases hvids : vids (· ∈ s.vlanIntfBmp) = []
  · rw [if_pos hvids, hvids, appendText] at hrest ⊢
    split at hrest
    · rename_i hhead
      refine ⟨(Except.ok.inj hrest).symm, ?_⟩
      rw [if_pos hhead, bridgeTrunks, if_pos hvids]
      rfl
    · cases hrest
  · rw [if_neg hvids] at hrest ⊢
    refine ⟨(Except.ok.inj hrest).symm, ?_⟩
    rw [Cmd.text, bridgeTrunks, if_neg hvids]

theorem readsTrunks_bridgeTrunks {bridge : String} {vlanIntfBmp : VlanBitmap}
    (hbridge : ' ' ∉ bridge.toList) :
    ReadsTrunks bridge vlanIntfBmp (Cmd.setPortTrunks bridge (bridgeTrunks vlanIntfBmp)).text := by
  refine ⟨vids (· ∈ vlanIntfBmp), listsVids_vids, ?_⟩
  rw [bridgeTrunks]
  cases hvids : vids (· ∈ vlanIntfBmp) with
  | nil => exact parsePortCommand_setPortTrunks hbridge 0 []
  | cons i is => exact parsePortCommand_setPortTrunks hbridge i is

end Run

/-- The commands with VLANs that `bundle_configure` and `sim_bridge_vlan_routing_update` run are read
back as what they were printed from. -/
theorem vlan_commands_read_back (env : Env) (s s' : State) (hbridge : ' ' ∉ s.name.toList) :
    (∀ q, ' ' ∉ (s.bundle q).name.toList → bundleConfigure env s q = .ok s' →
      s.world.Ran (fun c => c.isAddPort = true → strlen c.text ≤ maxCmdLen - 1 →
        configureCommand s.name s.vlansBmp (s.bundle q) = .ok (some c.text) ∧
          ReadsAddPort s.name s.vlansBmp (s.bundle q) c.text) s'.world) ∧
    ∀ vlan add, simBridgeVlanRoutingUpdate env s vlan add = .ok s' → s' = s ∨
      ∃ c, s'.world.log = s.world.log ++ [c] ∧ (strlen c.text ≤ maxCmdLen - 1 →
        bridgeTrunksCommand s.name s'.vlanIntfBmp = .ok c.text ∧
          ReadsTrunks s.name s'.vlanIntfBmp c.text) := by
  constructor
  · intro q hname h
    refine (bundleConfigure_ran (fun _ => nofun) (fun _ _ _ => nofun)
      fun columns hcolumns _ _ => ?_).of_ok h
    obtain ⟨hwanted, htext⟩ := configureCommand_of_columns hcolumns
    exact ⟨htext, readsAddPort_of_wanted hbridge hname hwanted⟩
  · intro vlan add h
    obtain ⟨isSet, -, hrest⟩ := Except.exists_of_bind_eq_ok h
    split at hrest
    · exact .inl (Except.ok.inj hrest).symm
    · obtain ⟨rfl, htext⟩ := bridgeTrunksUpdate_eq hrest
      exact .inr ⟨_, World.log_system .., fun _ => ⟨htext, readsTrunks_bridgeTrunks hbridge⟩⟩

/-- A port that trunks VLAN 20 and has VLAN 10 untagged. -/
private def nativeOps : List Op :=
  [.setVlan 10 true, .setVlan 20 true,
    .bundleSet 100 (some { sampleSettings "eth1" [1] false with vlanMode := .nativeUntagged })]

theorem vlan_commands_read_back_of_native : ∃ s, run sampleEnv (sampleState false) nativeOps = .ok s ∧
    (∃ q ∈ s.bundles, ∃ s', bundleConfigure sampleEnv s q = .ok s' ∧
      ∃ c ∈ s'.world.log, ReadsAddPort s.name s.vlansBmp (s.bundle q) c.text) ∧
    ∃ s', simBridgeVlanRoutingUpdate sampleEnv s 30 true = .ok s' ∧
      ∃ c ∈ s'.world.log, ReadsTrunks s.name s'.vlanIntfBmp c.text := by
  have hobs : (run sampleEnv (sampleState false) nativeOps).toOption.map (fun s =>
      (decide (' ' ∉ s.name.toList ∧ 1 ∈ s.bundles ∧ ' ' ∉ (s.bundle 1).name.toList),
        (bundleConfigure sampleEnv s 1).toOption.map fun s' =>
          (s'.world.log.drop s.world.log.length).any fun c => c.isAddPort ∧ c.Fits,
        (simBridgeVlanRoutingUpdate sampleEnv s 30 true).toOption.map fun s' =>
          (s'.world.log.drop s.world.log.length).map fun c => decide c.Fits)) =
      some (true, some true, some [true]) := by
    decide +kernel
  obtain ⟨s, hrun, hs⟩ := Option.map_eq_some_iff.mp hobs
  obtain ⟨hnames, hlogs⟩ := Prod.mk.inj hs
  obtain ⟨hconfigure, hupdate⟩ := Prod.mk.inj hlogs
  obtain ⟨hbridge, hq, hname⟩ := of_decide_eq_true hnames
  obtain ⟨s₁, hs₁, hadded⟩ := Option.map_eq_some_iff.mp hconfigure
  obtain ⟨s₂, hs₂, hset⟩ := Option.map_eq_some_iff.mp hupdate
  have hconf : bundleConfigure sampleEnv s 1 = .ok s₁ := Except.eq_ok_of_toOption hs₁
  have hupd : simBridgeVlanRoutingUpdate sampleEnv s 30 true = .ok s₂ := Except.eq_ok_of_toOption hs₂
  refine ⟨s, Except.eq_ok_of_toOption hrun, ⟨1, hq, s₁, hconf, ?_⟩, s₂, hupd, ?_⟩
  · obtain ⟨cmds, hlog, hcmds⟩ := (vlan_commands_read_back sampleEnv s s₁ hbridge).1 1 hname hconf
    rw [hlog, List.drop_left] at hadded
    obtain ⟨c, hc, hkind⟩ := List.any_eq_true.mp hadded
    obtain ⟨hadd, hfits⟩ := of_decide_eq_true hkind
    exact ⟨c, hlog ▸ List.mem_append_right _ hc, (hcmds c hc hadd (Nat.le_sub_one_of_lt hfits)).2⟩
  · rcases (vlan_commands_read_back sampleEnv s s₂ hbridge).2 30 true hupd with rfl | ⟨c, hlog, hc⟩
    · rw [List.drop_length] at hset
      cases hset
    · rw [hlog, List.drop_left] at hset
      have hfits : c.Fits := of_decide_eq_true (List.cons.inj hset).1
      refine ⟨c, hlog ▸ List.mem_append_right _ (List.mem_singleton_self c), ?_⟩
      exact (hc (Nat.le_sub_one_of_lt hfits)).2

end ContainerPlugin.Ofproto
