import Mathlib.Algebra.BigOperators.Group.Finset.Basic
import Mathlib.Algebra.Order.BigOperators.Group.Finset
import ContainerPlugin.Lib.Address
import ContainerPlugin.Ofproto.CommandLength
import ContainerPlugin.Sflow.Bridge
import ContainerPlugin.Sflow.Vrf

/-!
# The collectors of sFlow

A target names an address, or an address and a port, or these and a VRF. The command for the ASIC
joins address and port by a colon, and the file of the host agent gives each a line of its own.
-/

namespace ContainerPlugin.Sflow

open Ofproto Address

/-- An address and perhaps a port. -/
abbrev Collector := String × Option String

inductive Target where
  | address (ip : String)
  | withPort (ip port : String)
  | withVrf (ip port vrf : String)
  deriving DecidableEq

def Target.text : Target → String
  | .address ip => ip
  | .withPort ip port => ip ++ "/" ++ port
  | .withVrf ip port vrf => ip ++ "/" ++ port ++ "/" ++ vrf

def Target.collector : Target → Collector
  | .address ip => (ip, none)
  | .withPort ip port | .withVrf ip port _ => (ip, some port)

/-- A decimal number. -/
def isPort (s : String) : Bool := s.toList ≠ [] ∧ s.toList.all Char.isDigit

/-- The address is a literal and the port a number. -/
def Collector.Valid (c : Collector) : Prop := isIp c.1 = true ∧ ∀ port ∈ c.2, isPort port = true

instance (c : Collector) : Decidable (Collector.Valid c) := inferInstanceAs (Decidable (_ ∧ _))

/-- What the command for the ASIC has for a collector. -/
def collectorItem : Collector → String
  | (ip, none) => ip
  | (ip, some port) => ip ++ ":" ++ port

/-- An address without a port that reads as an address and a port as well, or the other way round. -/
def Ambiguous : Collector → Prop
  | (ip, none) => ∃ ip' port, isIp ip' = true ∧ isPort port = true ∧ ip = ip' ++ ":" ++ port
  | (ip, some port) => isIp (ip ++ ":" ++ port) = true

/-- The block of a collector in the file of the agent. -/
def collectorBlock (c : Collector) : List String :=
  ["collector \x7b\n", "ip = " ++ c.1 ++ "\n"] ++
    (c.2.toList.map fun port => "udpport = " ++ port ++ "\n") ++ ["\x7d\n"]

/-! ## Tokens -/

section Tokens

variable {c c' : Collector} {t t' : Target} {s : String}

theorem slash_not_mem_of_isIp (h : isIp s = true) : '/' ∉ s.toList := by
  intro hmem
  rcases isAddressChar_of_isIp h hmem with hchar | hchar | hchar
  · revert hchar
    decide
  · cases hchar
  · cases hchar

theorem not_mem_of_isPort {x : Char} (hx : x.isDigit = false) (h : isPort s = true) :
    x ∉ s.toList := by
  intro hmem
  have hdigit := List.all_eq_true.mp (of_decide_eq_true h).2 x hmem
  rw [hx] at hdigit
  cases hdigit

/-- The parts of a target between its slashes. -/
def Target.words : Target → List (List Char)
  | .address ip => [ip.toList]
  | .withPort ip port => [ip.toList, port.toList]
  | .withVrf ip port vrf => ip.toList :: port.toList :: vrf.toList.splitOn '/'

theorem Target.splitOn_text (h : Collector.Valid t.collector) :
    t.text.toList.splitOn '/' = t.words := by
  cases t with
  | address ip => exact List.splitOn_eq_singleton (slash_not_mem_of_isIp h.1)
  | withPort ip port =>
    have hip : '/' ∉ ip.toList := slash_not_mem_of_isIp h.1
    have hport : '/' ∉ port.toList := not_mem_of_isPort rfl (h.2 port rfl)
    have htext : (Target.withPort ip port).text.toList = ip.toList ++ '/' :: port.toList := by
      simp [Target.text]
    rw [htext, List.splitOn_append_cons_self_of_not_mem hip, List.splitOn_eq_singleton hport]
    rfl
  | withVrf ip port vrf =>
    have hip : '/' ∉ ip.toList := slash_not_mem_of_isIp h.1
    have hport : '/' ∉ port.toList := not_mem_of_isPort rfl (h.2 port rfl)
    have htext : (Target.withVrf ip port vrf).text.toList =
        ip.toList ++ '/' :: (port.toList ++ '/' :: vrf.toList) := by
      simp [Target.text]
    rw [htext, List.splitOn_append_cons_self_of_not_mem hip,
      List.splitOn_append_cons_self_of_not_mem hport]
    rfl

/-- A valid target is determined by its text. -/
theorem Target.text_injective (h : Collector.Valid t.collector) (h' : Collector.Valid t'.collector)
    (htext : t.text = t'.text) : t = t' := by
  have hwords : t.words = t'.words := by rw [← splitOn_text h, ← splitOn_text h', htext]
  cases t <;> cases t' <;>
    simp only [Target.words, List.cons.injEq, String.toList_inj, and_true, reduceCtorEq, and_false,
      List.splitOn_ne_nil] at hwords
  case address.address => rw [hwords]
  case withPort.withPort => rw [hwords.1, hwords.2]
  case withVrf.withVrf ip port vrf ip' port' vrf' =>
    obtain ⟨rfl, rfl, -⟩ := hwords
    rw [Target.text, Target.text, String.append_right_inj] at htext
    rw [htext]
  all_goals simp at hwords

theorem toList_ne_nil_of_isPort (h : isPort s = true) : s.toList ≠ [] := (of_decide_eq_true h).1

/-- The tokens of a target begin with the address and the port. -/
theorem Target.strtok_text (h : Collector.Valid t.collector) :
    strtok t.text '/' = match t with
      | .address ip => [ip]
      | .withPort ip port => [ip, port]
      | .withVrf ip port vrf => ip :: port :: strtok vrf '/' := by
  rw [strtok, splitOn_text h]
  cases t with
  | address ip =>
    have hip : ip.toList ≠ [] := toList_ne_nil_of_isIp h.1
    simp [Target.words, List.filter_cons_of_pos, hip]
  | withPort ip port =>
    have hip : ip.toList ≠ [] := toList_ne_nil_of_isIp h.1
    have hport : port.toList ≠ [] := toList_ne_nil_of_isPort (h.2 port rfl)
    simp [Target.words, List.filter_cons_of_pos, hip, hport]
  | withVrf ip port vrf =>
    have hip : ip.toList ≠ [] := toList_ne_nil_of_isIp h.1
    have hport : port.toList ≠ [] := toList_ne_nil_of_isPort (h.2 port rfl)
    simp [Target.words, List.filter_cons_of_pos, hip, hport, strtok]

theorem targetItem_text (h : Collector.Valid t.collector) :
    targetItem t.text = some (collectorItem t.collector) := by
  rw [targetItem, Target.strtok_text h]
  cases t <;> rfl

theorem collectorPieces_text (h : Collector.Valid t.collector) :
    collectorPieces t.text = collectorBlock t.collector := by
  rw [collectorPieces, Target.strtok_text h]
  cases t <;> rfl

end Tokens

/-! ## Ambiguous collectors -/

section Ambiguous

variable {c c' : Collector}

/-- Two collectors with one item are equal or ambiguous. -/
theorem collectorItem_inj (h : Collector.Valid c) (h' : Collector.Valid c')
    (hitem : collectorItem c = collectorItem c') : c = c' ∨ Ambiguous c ∧ Ambiguous c' := by
  obtain ⟨ip, port⟩ := c
  obtain ⟨ip', port'⟩ := c'
  cases port with
  | none =>
    cases port' with
    | none => exact .inl (Prod.ext hitem rfl)
    | some port' =>
      have hip : ip = ip' ++ ":" ++ port' := hitem
      subst hip
      exact .inr ⟨⟨ip', port', h'.1, h'.2 port' rfl, rfl⟩, h.1⟩
  | some port =>
    cases port' with
    | none =>
      have hip : ip' = ip ++ ":" ++ port := hitem.symm
      subst hip
      exact .inr ⟨h'.1, ⟨ip, port, h.1, h.2 port rfl, rfl⟩⟩
    | some port' =>
      -- a port has no colon, so the last colon of the item stands before the port
      have hport : ':' ∉ port.toList := not_mem_of_isPort rfl (h.2 port rfl)
      have hport' : ':' ∉ port'.toList := not_mem_of_isPort rfl (h'.2 port' rfl)
      have hitem : ip.toList ++ ':' :: port.toList = ip'.toList ++ ':' :: port'.toList := by
        have htoList := congrArg String.toList hitem
        simpa [collectorItem] using htoList
      obtain ⟨hip, hport⟩ := Words.append_cons_inj hport hport' hitem
      rw [String.toList_inj.mp hip, String.toList_inj.mp hport]
      exact .inl rfl

/-- A target without a VRF. -/
def Collector.target : Collector → Target
  | (ip, none) => .address ip
  | (ip, some port) => .withPort ip port

@[simp] theorem Collector.collector_target (c : Collector) : c.target.collector = c := by
  obtain ⟨ip, _ | port⟩ := c <;> rfl

/-- An ambiguous collector has a partner with the same item. -/
theorem Ambiguous.exists_partner (h : Collector.Valid c) (hambiguous : Ambiguous c) :
    ∃ c' : Collector, c'.Valid ∧ c' ≠ c ∧ collectorItem c' = collectorItem c := by
  obtain ⟨ip, _ | port⟩ := c
  · obtain ⟨ip', port', hip', hport', rfl⟩ := hambiguous
    have hvalid : Collector.Valid (ip', some port') := by
      refine ⟨hip', ?_⟩
      rintro _ ⟨rfl⟩
      exact hport'
    exact ⟨(ip', some port'), hvalid, by simp, rfl⟩
  · have hvalid : Collector.Valid (ip ++ ":" ++ port, none) := ⟨hambiguous, nofun⟩
    exact ⟨(ip ++ ":" ++ port, none), hvalid, by simp, rfl⟩

/-- The slash of a target is as long as the colon of its item, and a VRF makes it longer. -/
theorem strlen_collectorItem_le (t : Target) : strlen (collectorItem t.collector) ≤ strlen t.text := by
  have hsep : strlen "/" = strlen ":" := rfl
  cases t with
  | address ip => exact le_rfl
  | withPort ip port => simp [Target.collector, Target.text, collectorItem, hsep]
  | withVrf ip port vrf =>
    simp only [Target.collector, Target.text, collectorItem, strlen_append, hsep]
    omega

theorem strlen_text_target (c : Collector) : strlen c.target.text = strlen (collectorItem c) := by
  have hsep : strlen "/" = strlen ":" := rfl
  obtain ⟨ip, _ | port⟩ := c
  · rfl
  · simp [Collector.target, Target.text, collectorItem, hsep]

end Ambiguous

/-! ## The command and the file -/

/-- The options with the targets instead of their own. -/
def OfprotoSflowOptions.withTargets (options : OfprotoSflowOptions) (ts : Finset Target) :
    OfprotoSflowOptions :=
  { options with targets := ts.image Target.text }

/-- A list of the set in some order. -/
def IsOrder (ts : Finset Target) (order : List Target) : Prop := order.Nodup ∧ order.toFinset = ts

/-- The item of a target with its quotes. -/
def Target.item (t : Target) : String := "\\\"" ++ collectorItem t.collector ++ "\\\""

/-- The command of `sflow_ovs_configure` with the items one after the other. -/
def itemsCommand (bridge : String) (options : OfprotoSflowOptions) (order : List Target) : String :=
  printed sflowHead (agentPieces options.agentDevice) ++ "target=" ++
    ",".intercalate (order.map Target.item) ++
    columnsPiece bridge options.headerLen.toInt options.samplingRate.toInt
      options.pollingInterval.toInt

/-- What the agent's file has before the collectors. -/
def settingPieces (options : OfprotoSflowOptions) : List String :=
  (options.agentDevice.toList.map fun device => "agent = " ++ device ++ "\n") ++
    ["DNSSD = off\n", "sampling = " ++ toString options.samplingRate.toInt ++ "\n",
      "polling = " ++ toString options.pollingInterval.toInt ++ "\n",
      "headerBytes = " ++ toString options.headerLen.toInt ++ "\n",
      "datagramBytes = " ++ toString options.maxDatagram.toInt ++ "\n"]

/-- What it has after them. -/
def nflogPieces (env : Env) (options : OfprotoSflowOptions) : List String :=
  ["nflogGroup = " ++ toString hostsflowNflogGrp ++ "\n",
    "nflogProbability = " ++ env.probability options.samplingRate ++ "\n", "\x7d\n"]

/-- The agent's file with the blocks of the collectors one after the other. -/
def collectorsFile (env : Env) (options : OfprotoSflowOptions) (order : List Target) : String :=
  printed "sflow \x7b\n" (settingPieces options ++
    order.flatMap (collectorBlock ·.collector) ++ nflogPieces env options)

/-- The collectors of the targets can be read off the command and off the agent's file. -/
structure CollectorsSurvive (env : Env) (bridge : String) (options : OfprotoSflowOptions)
    (ts : Finset Target) : Prop where
  command w : (sflowOvsConfigure env w bridge (options.withTargets ts)).Returns fun w' =>
    ∃ c order, w' = (w.system env c).1 ∧ IsOrder ts order ∧
      c.text env.probability = itemsCommand bridge options order
  decodable ts' : ts'.Nonempty → (∀ t ∈ ts', Collector.Valid t.collector) →
    FitsBuffers env bridge (options.withTargets ts') → ts'.image Target.item = ts.image Target.item →
    ts'.image Target.collector = ts.image Target.collector
  file w : env.opens w.log →
    (sflowHostsflowAgentConfigure env w (options.withTargets ts)).Returns fun w' =>
      ∃ order, IsOrder ts order ∧ w'.conf = collectorsFile env options order

section Rendering

variable {env : Env} {bridge : String} {options : OfprotoSflowOptions} {ts ts' : Finset Target}

theorem IsOrder.mem_iff {order : List Target} (h : IsOrder ts order) {t : Target} :
    t ∈ order ↔ t ∈ ts := by
  rw [← h.2, List.mem_toFinset]

/-- Every walk over the texts is a walk over the targets. -/
theorem exists_isOrder (env : Env) (options : OfprotoSflowOptions)
    (hvalid : ∀ t ∈ ts, Collector.Valid t.collector) (log : List (Cmd × Bool)) :
    ∃ order, IsOrder ts order ∧
      env.order log (options.withTargets ts).targets = order.map Target.text := by
  have hmem := env.mem_order log (options.withTargets ts).targets
  have hnodup := env.order_nodup log (options.withTargets ts).targets
  have hrange : env.order log (options.withTargets ts).targets ∈
      Set.range (List.map fun t : ts => t.1.text) := by
    rw [Set.range_list_map]
    intro s hs
    obtain ⟨t, ht, rfl⟩ := Finset.mem_image.mp ((hmem s).mp hs)
    exact ⟨⟨t, ht⟩, rfl⟩
  obtain ⟨order, horder⟩ := hrange
  have htexts : env.order log (options.withTargets ts).targets =
      (order.map Subtype.val).map Target.text := by
    rw [← horder, List.map_map]
    rfl
  refine ⟨order.map Subtype.val, ⟨?_, ?_⟩, htexts⟩
  · rw [htexts] at hnodup
    exact hnodup.of_map _
  · ext t
    rw [List.mem_toFinset]
    constructor
    · intro ht
      obtain ⟨t, -, rfl⟩ := List.mem_map.mp ht
      exact t.2
    · intro ht
      have htext := (hmem t.text).mpr (Finset.mem_image_of_mem _ ht)
      rw [htexts] at htext
      obtain ⟨t', ht', heq⟩ := List.mem_map.mp htext
      obtain ⟨t'', -, rfl⟩ := List.mem_map.mp ht'
      rw [← Target.text_injective (hvalid _ t''.2) (hvalid t ht) heq]
      exact ht'

/-- The separator after the last item is the character that is given up. -/
theorem dropLast_printed (head : String) (item : String) (items : List String) :
    dropLast (printed head ((item :: items).map (· ++ ","))) =
      head ++ ",".intercalate (item :: items) := by
  induction items generalizing head item with
  | nil =>
    have htoList : (head ++ (item ++ ",")).toList = (head ++ item).toList ++ [','] := by simp
    show dropLast (head ++ (item ++ ",")) = _
    rw [dropLast, htoList, List.dropLast_concat, String.ofList_toList,
      String.intercalate_singleton]
  | cons next items ih =>
    show dropLast (printed (head ++ (item ++ ",")) ((next :: items).map (· ++ ","))) = _
    rw [ih, String.intercalate_cons_cons]
    simp only [String.append_assoc]

theorem quotedItem_collectorItem (t : Target) :
    quotedItem (collectorItem t.collector) = t.item ++ "," := by
  have hquote : "\\\"," = "\\\"" ++ "," := rfl
  rw [quotedItem, Target.item, hquote]
  simp only [String.append_assoc]

theorem targetPieces_texts {order : List Target}
    (hvalid : ∀ t ∈ order, Collector.Valid t.collector) :
    targetPieces (order.map Target.text) =
      "target=" :: (order.map Target.item).map (· ++ ",") := by
  rw [targetPieces, List.filterMap_map, List.map_map]
  congr 1
  rw [← List.filterMap_eq_map]
  apply List.filterMap_congr
  intro t ht
  rw [Function.comp_apply, targetItem_text (hvalid t ht), Option.map_some, quotedItem_collectorItem]
  rfl

/-- Of the command, one comma for each target but the last is left. -/
theorem exists_itemsCommand (env : Env) (bridge : String) (options : OfprotoSflowOptions)
    (hne : ts.Nonempty) (hvalid : ∀ t ∈ ts, Collector.Valid t.collector) (log : List (Cmd × Bool)) :
    ∃ order, IsOrder ts order ∧
      (configureCmd env log bridge (options.withTargets ts)).text env.probability =
        itemsCommand bridge options order := by
  obtain ⟨order, horder, htexts⟩ := exists_isOrder env options hvalid log
  refine ⟨order, horder, ?_⟩
  have hvalid : ∀ t ∈ order, Collector.Valid t.collector :=
    fun t ht => hvalid t (horder.mem_iff.mp ht)
  simp only [configureCmd, htexts, Cmd.text]
  cases order with
  | nil =>
    rw [← horder.2] at hne
    cases hne.ne_empty rfl
  | cons t order =>
    have hcons : (t :: order).map Target.text ≠ [] := List.cons_ne_nil _ _
    rw [if_neg hcons, targetPieces_texts hvalid]
    have hlast := dropLast_printed
      (printed sflowHead (agentPieces options.agentDevice) ++ "target=") t.item
      (order.map Target.item)
    rw [itemsCommand, List.map_cons, ← hlast]
    rfl

theorem strlen_intercalate_comma (item : String) (items : List String) :
    strlen (",".intercalate (item :: items)) + 1 =
      ((item :: items).map (strlen · + 1)).sum := by
  induction items generalizing item with
  | nil => simp
  | cons next items ih =>
    have hcomma : strlen "," = 1 := rfl
    rw [String.intercalate_cons_cons, strlen_append, strlen_append, hcomma, List.map_cons,
      List.sum_cons, ← ih next]
    omega

/-- The length of the command depends on the targets only through the sum over their items. -/
theorem strlen_itemsCommand (bridge : String) (options : OfprotoSflowOptions) (hne : ts.Nonempty)
    {order : List Target} (horder : IsOrder ts order) :
    strlen (itemsCommand bridge options order) + 1 =
      strlen (printed sflowHead (agentPieces options.agentDevice)) + strlen "target=" +
        ∑ t ∈ ts, (strlen t.item + 1) +
        strlen (columnsPiece bridge options.headerLen.toInt options.samplingRate.toInt
          options.pollingInterval.toInt) := by
  obtain ⟨hnodup, rfl⟩ := horder
  rw [List.sum_toFinset _ hnodup, itemsCommand, strlen_append, strlen_append, strlen_append]
  cases order with
  | nil => cases hne.ne_empty rfl
  | cons t order =>
    have hitems := strlen_intercalate_comma t.item (order.map Target.item)
    rw [← List.map_cons, List.map_map] at hitems
    rw [Function.comp_def] at hitems
    omega

/-- Targets with shorter items fit if the others do. -/
theorem FitsBuffers.of_sum_le (h : FitsBuffers env bridge (options.withTargets ts))
    (hne : ts.Nonempty) (hvalid : ∀ t ∈ ts, Collector.Valid t.collector) (hne' : ts'.Nonempty)
    (hvalid' : ∀ t ∈ ts', Collector.Valid t.collector)
    (hsum : ∑ t ∈ ts', (strlen t.item + 1) ≤ ∑ t ∈ ts, (strlen t.item + 1))
    (hcopied : ∀ t ∈ ts', strlen t.text < maxCmdLen) :
    FitsBuffers env bridge (options.withTargets ts') := by
  constructor
  · intro target htarget
    obtain ⟨t, ht, rfl⟩ := Finset.mem_image.mp htarget
    exact hcopied t ht
  · intro log
    have hfits := h.2 log
    obtain ⟨order, horder, htext⟩ := exists_itemsCommand env bridge options
      hne hvalid log
    obtain ⟨order', horder', htext'⟩ := exists_itemsCommand env bridge options
      hne' hvalid' log
    have hlen := strlen_itemsCommand bridge options hne horder
    have hlen' := strlen_itemsCommand bridge options hne' horder'
    rw [Cmd.Fits, htext] at hfits
    rw [Cmd.Fits, htext']
    omega

theorem length_le_strlen (cs : List Char) : cs.length ≤ strlen (String.ofList cs) := by
  induction cs with
  | nil => exact Nat.zero_le _
  | cons c cs ih =>
    have hc : 0 < c.utf8Size := c.utf8Size_pos
    have hcons : String.ofList (c :: cs) = String.singleton c ++ String.ofList cs := by
      rw [← List.singleton_append, String.ofList_append, String.singleton_eq_ofList]
    have hsingleton : strlen (String.singleton c) = c.utf8Size := String.utf8ByteSize_singleton
    rw [hcons, strlen_append, hsingleton, List.length_cons]
    omega

/-- A text that fits is written as it is. -/
theorem truncated_of_lt {text : String} (h : strlen text < maxCmdLen) : truncated text = text := by
  have hlength := length_le_strlen text.toList
  rw [String.ofList_toList] at hlength
  rw [truncated, List.take_of_length_le (by omega), String.ofList_toList]

theorem hostSflowPieces_texts {order : List Target}
    (hvalid : ∀ t ∈ order, Collector.Valid t.collector) :
    hostSflowPieces env (order.map Target.text) (options.withTargets ts) =
      settingPieces options ++ order.flatMap (collectorBlock ·.collector) ++
        nflogPieces env options := by
  have hblocks : (order.map Target.text).flatMap collectorPieces =
      order.flatMap (collectorBlock ·.collector) := by
    rw [List.flatMap_map]
    exact List.flatMap_congr fun t ht => collectorPieces_text (hvalid t ht)
  rw [hostSflowPieces, hblocks]
  rfl

/-- The file of the agent has a block for each target. -/
theorem sflowHostsflowAgentConfigure_file (hvalid : ∀ t ∈ ts, Collector.Valid t.collector)
    (hconf : ConfFits env (options.withTargets ts)) (w : World) (hopens : env.opens w.log) :
    (sflowHostsflowAgentConfigure env w (options.withTargets ts)).Returns fun w' =>
      ∃ order, IsOrder ts order ∧ w'.conf = collectorsFile env options order := by
  obtain ⟨order, horder, htexts⟩ := exists_isOrder env options hvalid w.log
  have hlength := hconf.2 w.log
  have hvalid : ∀ t ∈ order, Collector.Valid t.collector :=
    fun t ht => hvalid t (horder.mem_iff.mp ht)
  have hcopied : targetsCopied (env.order w.log (options.withTargets ts).targets) = .ok () := by
    apply if_pos
    intro target htarget
    exact hconf.1 target ((env.mem_order _ _ _).mp htarget)
  rw [htexts] at hcopied
  rw [htexts, hostSflowPieces_texts hvalid] at hlength
  rw [sflowHostsflowAgentConfigure, if_pos hopens]
  simp only [hcopied, htexts, hostSflowPieces_texts hvalid, foldlM_appendText hlength.le,
    Except.ok_bind]
  exact ⟨order, horder, truncated_of_lt hlength⟩

/-- The command of the ASIC has an item for each target. -/
theorem sflowOvsConfigure_items (hne : ts.Nonempty)
    (hvalid : ∀ t ∈ ts, Collector.Valid t.collector)
    (hfits : FitsBuffers env bridge (options.withTargets ts)) (w : World) :
    (sflowOvsConfigure env w bridge (options.withTargets ts)).Returns fun w' =>
      ∃ c order, w' = (w.system env c).1 ∧ IsOrder ts order ∧
        c.text env.probability = itemsCommand bridge options order := by
  obtain ⟨order, horder, htext⟩ := exists_itemsCommand env bridge options
      hne hvalid w.log
  rw [sflowOvsConfigure_eq hfits]
  exact ⟨_, order, rfl, horder, htext⟩

theorem Target.item_eq_iff {t t' : Target} :
    t.item = t'.item ↔ collectorItem t.collector = collectorItem t'.collector := by
  rw [Target.item, Target.item, String.append_left_inj, String.append_right_inj]

/-- Collectors that are not ambiguous are found among all others with the same items. -/
theorem collectors_of_items (hvalid : ∀ t ∈ ts, Collector.Valid t.collector)
    (hvalid' : ∀ t ∈ ts', Collector.Valid t.collector)
    (hunambiguous : ∀ t ∈ ts, ¬ Ambiguous t.collector)
    (hitems : ts'.image Target.item = ts.image Target.item) :
    ts'.image Target.collector = ts.image Target.collector := by
  have heq : ∀ t ∈ ts, ∀ t' ∈ ts', t'.item = t.item → t'.collector = t.collector := by
    intro t ht t' ht' hitem
    rcases collectorItem_inj (hvalid' t' ht') (hvalid t ht) (Target.item_eq_iff.mp hitem) with
      heq | ⟨-, hambiguous⟩
    · exact heq
    · exact absurd hambiguous (hunambiguous t ht)
  ext c
  simp only [Finset.mem_image]
  constructor
  · rintro ⟨t', ht', rfl⟩
    have hitem : t'.item ∈ ts.image Target.item := hitems ▸ Finset.mem_image_of_mem _ ht'
    obtain ⟨t, ht, hitem⟩ := Finset.mem_image.mp hitem
    exact ⟨t, ht, (heq t ht t' ht' hitem.symm).symm⟩
  · rintro ⟨t, ht, rfl⟩
    have hitem : t.item ∈ ts'.image Target.item := hitems ▸ Finset.mem_image_of_mem _ ht
    obtain ⟨t', ht', hitem⟩ := Finset.mem_image.mp hitem
    exact ⟨t', ht', heq t ht t' ht' hitem⟩

/-- The targets in which the one with another collector stands for those with the collector `c`. -/
def replaceCollector (ts : Finset Target) (c c' : Collector) : Finset Target :=
  insert c'.target (ts.filter (·.collector ≠ c))

section Replace

variable {c c' : Collector} {t : Target}

theorem mem_replaceCollector :
    t ∈ replaceCollector ts c c' ↔ t = c'.target ∨ t ∈ ts ∧ t.collector ≠ c := by
  rw [replaceCollector, Finset.mem_insert, Finset.mem_filter]

theorem target_mem_replaceCollector (ts : Finset Target) (c c' : Collector) :
    c'.target ∈ replaceCollector ts c c' := mem_replaceCollector.mpr (.inl rfl)

/-- What holds of the new target and of the old ones holds of all that are left. -/
theorem forall_mem_replaceCollector {P : Target → Prop} (hnew : P c'.target) (h : ∀ t ∈ ts, P t) :
    ∀ t ∈ replaceCollector ts c c', P t := by
  intro t ht
  rcases mem_replaceCollector.mp ht with rfl | ⟨ht, -⟩
  · exact hnew
  · exact h t ht

theorem sum_insert_le (f : Target → ℕ) (t : Target) (ts : Finset Target) :
    ∑ u ∈ insert t ts, f u ≤ f t + ∑ u ∈ ts, f u := by
  by_cases ht : t ∈ ts
  · rw [Finset.insert_eq_of_mem ht]
    exact Nat.le_add_left _ _
  · rw [Finset.sum_insert ht]

/-- A new target that adds no more than the one that is gone does not raise a sum. -/
theorem sum_replaceCollector_le {f : Target → ℕ} (ht : t ∈ ts) (hnew : f c'.target = f t) :
    ∑ u ∈ replaceCollector ts t.collector c', f u ≤ ∑ u ∈ ts, f u := by
  have hrest : t ∉ ts.filter (·.collector ≠ t.collector) := by simp
  calc ∑ u ∈ replaceCollector ts t.collector c', f u
      ≤ f c'.target + ∑ u ∈ ts.filter (·.collector ≠ t.collector), f u := sum_insert_le _ _ _
    _ = ∑ u ∈ insert t (ts.filter (·.collector ≠ t.collector)), f u := by
        rw [Finset.sum_insert hrest, hnew]
    _ ≤ ∑ u ∈ ts, f u := by
        apply Finset.sum_le_sum_of_subset
        intro u hu
        rcases Finset.mem_insert.mp hu with rfl | hu
        · exact ht
        · exact (Finset.mem_filter.mp hu).1

/-- The items stay the same when the new target has the item of the one that is gone. -/
theorem image_item_replaceCollector (ht : t ∈ ts) (hitem : c'.target.item = t.item) :
    (replaceCollector ts t.collector c').image Target.item = ts.image Target.item := by
  ext item
  simp only [Finset.mem_image]
  constructor
  · rintro ⟨u, hu, rfl⟩
    rcases mem_replaceCollector.mp hu with rfl | ⟨hu, -⟩
    · exact ⟨t, ht, hitem.symm⟩
    · exact ⟨u, hu, rfl⟩
  · rintro ⟨u, hu, rfl⟩
    by_cases hcollector : u.collector = t.collector
    · refine ⟨c'.target, target_mem_replaceCollector _ _ _, ?_⟩
      rw [hitem, Target.item_eq_iff, hcollector]
    · exact ⟨u, mem_replaceCollector.mpr (.inr ⟨hu, hcollector⟩), rfl⟩

/-- The collector that is replaced is gone. -/
theorem notMem_collectors_replaceCollector (hne : c' ≠ c) :
    c ∉ (replaceCollector ts c c').image Target.collector := by
  intro hmem
  obtain ⟨u, hu, heq⟩ := Finset.mem_image.mp hmem
  rcases mem_replaceCollector.mp hu with rfl | ⟨-, hother⟩
  · rw [Collector.collector_target] at heq
    exact hne heq
  · exact hother heq

end Replace

/-- The partner of an ambiguous collector takes its place, which no item tells. -/
theorem exists_same_items (hvalid : ∀ t ∈ ts, Collector.Valid t.collector)
    (hfits : FitsBuffers env bridge (options.withTargets ts)) {t : Target} (ht : t ∈ ts)
    (hambiguous : Ambiguous t.collector) :
    ∃ ts', ts'.Nonempty ∧ (∀ t ∈ ts', Collector.Valid t.collector) ∧
      FitsBuffers env bridge (options.withTargets ts') ∧
      ts'.image Target.item = ts.image Target.item ∧
      ts'.image Target.collector ≠ ts.image Target.collector := by
  obtain ⟨c', hc', hne, hitem⟩ := hambiguous.exists_partner (hvalid t ht)
  have hitem' : c'.target.item = t.item := by
    rw [Target.item_eq_iff, Collector.collector_target, hitem]
  have hnonempty : (replaceCollector ts t.collector c').Nonempty :=
    ⟨_, target_mem_replaceCollector _ _ _⟩
  have hvalid' : ∀ u ∈ replaceCollector ts t.collector c', Collector.Valid u.collector := by
    apply forall_mem_replaceCollector _ hvalid
    rw [Collector.collector_target]
    exact hc'
  have hcopied : ∀ u ∈ replaceCollector ts t.collector c', strlen u.text < maxCmdLen := by
    have hlen : ∀ u ∈ ts, strlen u.text < maxCmdLen :=
      fun u hu => hfits.1 u.text (Finset.mem_image_of_mem _ hu)
    apply forall_mem_replaceCollector _ hlen
    rw [strlen_text_target, hitem]
    exact lt_of_le_of_lt (strlen_collectorItem_le t) (hlen t ht)
  have hsum := sum_replaceCollector_le (f := fun u => strlen u.item + 1) ht (by rw [hitem'])
  refine ⟨_, hnonempty, hvalid',
    hfits.of_sum_le ⟨t, ht⟩ hvalid hnonempty hvalid' hsum hcopied,
    image_item_replaceCollector ht hitem', ?_⟩
  intro hcollectors
  apply notMem_collectors_replaceCollector hne
  rw [hcollectors]
  exact Finset.mem_image_of_mem _ ht

/-- The collectors can be read off if and only if none of them is ambiguous. -/
theorem sflow_collectors_rendered_iff (hne : ts.Nonempty)
    (hvalid : ∀ t ∈ ts, Collector.Valid t.collector)
    (hfits : FitsBuffers env bridge (options.withTargets ts))
    (hconf : ConfFits env (options.withTargets ts)) :
    CollectorsSurvive env bridge options ts ↔ ∀ t ∈ ts, ¬ Ambiguous t.collector := by
  constructor
  · intro h t ht hambiguous
    obtain ⟨ts', hne', hvalid', hfits', hitems, hcollectors⟩ :=
      exists_same_items hvalid hfits ht hambiguous
    exact hcollectors (h.decodable ts' hne' hvalid' hfits' hitems)
  · intro hunambiguous
    exact {
      command := sflowOvsConfigure_items hne hvalid hfits
      decodable := fun ts' _ hvalid' _ => collectors_of_items hvalid hvalid' hunambiguous
      file := sflowHostsflowAgentConfigure_file hvalid hconf }

end Rendering

/-- What the test of the plugin configures. -/
theorem sflow_collectors_rendered_ipv4 :
    CollectorsSurvive sortedEnv "bridge_normal" oneCollector {.withPort "10.0.0.1" "6343"} := by
  let ts : Finset Target := {.withPort "10.0.0.1" "6343"}
  have hvalid : ∀ t ∈ ts, Collector.Valid t.collector := by decide +kernel
  have hcmd : (configureCmd sortedEnv [] "bridge_normal" (oneCollector.withTargets ts)).Fits
      sortedEnv := by decide +kernel
  have hconf : strlen (printed "sflow \x7b\n" (hostSflowPieces sortedEnv
      (sortedEnv.order [] (oneCollector.withTargets ts).targets)
      (oneCollector.withTargets ts))) < maxCmdLen := by decide +kernel
  have hcopied : ∀ target ∈ (oneCollector.withTargets ts).targets, strlen target < maxCmdLen := by
    decide +kernel
  have hunambiguous : ∀ t ∈ ts, ¬ Ambiguous t.collector := by
    intro t ht
    rw [Finset.mem_singleton.mp ht]
    have hip : isIp ("10.0.0.1" ++ ":" ++ "6343") ≠ true := by decide +kernel
    exact hip
  exact (sflow_collectors_rendered_iff (Finset.singleton_nonempty _) hvalid
    ⟨hcopied, fun _ => hcmd⟩ ⟨hcopied, fun _ => hconf⟩).mpr hunambiguous

/-- The port of an IPv6 collector reads as a part of the address. -/
theorem ipv6_collector_ambiguous : ¬ ∀ (env : Env) (bridge : String) (options : OfprotoSflowOptions)
    (ts : Finset Target), ts.Nonempty → (∀ t ∈ ts, Collector.Valid t.collector) →
    FitsBuffers env bridge (options.withTargets ts) → ConfFits env (options.withTargets ts) →
    CollectorsSurvive env bridge options ts := by
  intro h
  let ts : Finset Target := {.withPort "2001:db8::1" "6343"}
  let ts' : Finset Target := {.address "2001:db8::1:6343"}
  have hvalid : ∀ t ∈ ts, Collector.Valid t.collector := by decide +kernel
  have hvalid' : ∀ t ∈ ts', Collector.Valid t.collector := by decide +kernel
  have hcmd : (configureCmd sortedEnv [] "bridge_normal" (oneCollector.withTargets ts)).Fits
      sortedEnv := by decide +kernel
  have hcmd' : (configureCmd sortedEnv [] "bridge_normal" (oneCollector.withTargets ts')).Fits
      sortedEnv := by decide +kernel
  have hconf : strlen (printed "sflow \x7b\n" (hostSflowPieces sortedEnv
      (sortedEnv.order [] (oneCollector.withTargets ts).targets)
      (oneCollector.withTargets ts))) < maxCmdLen := by decide +kernel
  have hcopied : ∀ target ∈ (oneCollector.withTargets ts).targets, strlen target < maxCmdLen := by
    decide +kernel
  have hcopied' : ∀ target ∈ (oneCollector.withTargets ts').targets, strlen target < maxCmdLen := by
    decide +kernel
  have hsurvive := h sortedEnv "bridge_normal" oneCollector ts (Finset.singleton_nonempty _) hvalid
    ⟨hcopied, fun _ => hcmd⟩ ⟨hcopied, fun _ => hconf⟩
  have hcollectors := hsurvive.decodable ts' (Finset.singleton_nonempty _) hvalid'
    ⟨hcopied', fun _ => hcmd'⟩ (by decide +kernel)
  revert hcollectors
  decide +kernel

end ContainerPlugin.Sflow
