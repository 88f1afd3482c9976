import ContainerPlugin.Netdev.KernelStats

/-!
# Replies of the kernel

How the kernel lays out its replies: messages with a header of their own length, the attributes of a
link behind a fixed part, and the counters as words of 32 bits. Whatever messages it sends, in
whatever number of datagrams, `netdev_get_kernel_stats` reads the counters of the last link from them.
-/

namespace ContainerPlugin.Netdev

open Loop Records

/-- A number in little-endian bytes. -/
def leBytes : ℕ → ℕ → List UInt8
  | 0, _ => []
  | k + 1, n => UInt8.ofNat n :: leBytes k (n / 2 ^ 8)

/-- The counters of a link: a `struct rtnl_link_stats`, with `rx_nohandler` at its end or without. -/
structure KernelCounters where
  words : List UInt32
  complete : words.length = 23 ∨ words.length = 24

def KernelCounters.word (c : KernelCounters) (i : ℕ) : ℕ := (c.words.getD i 0).toNat

/-- What of them is in a `struct netdev_stats`. -/
def KernelCounters.netdevStats (c : KernelCounters) : NetdevStats where
  rxPackets := c.word 0
  txPackets := c.word 1
  rxBytes := c.word 2
  txBytes := c.word 3
  rxErrors := c.word 4
  txErrors := c.word 5
  rxDropped := c.word 6
  txDropped := c.word 7
  multicast := c.word 8
  collisions := c.word 9
  rxCrcErrors := c.word 12

def KernelCounters.bytes (c : KernelCounters) : List UInt8 :=
  c.words.flatMap fun w => leBytes 4 w.toNat

inductive LinkAttribute where
  | stats (counters : KernelCounters)
  | other (type : UInt16) (payload : List UInt8) (htype : type.toNat ≠ iflaStats)
      (hsmall : payload.length + sizeofRtattr < 2 ^ 16)

def LinkAttribute.type : LinkAttribute → ℕ
  | .stats _ => iflaStats
  | .other type .. => type.toNat

def LinkAttribute.payload : LinkAttribute → List UInt8
  | .stats counters => counters.bytes
  | .other _ payload .. => payload

def LinkAttribute.counters : LinkAttribute → Option NetdevStats
  | .stats counters => some counters.netdevStats
  | .other .. => none

def LinkAttribute.bytes (a : LinkAttribute) : List UInt8 :=
  leBytes 2 (a.payload.length + sizeofRtattr) ++ leBytes 2 a.type ++ a.payload

/-- What follows the header of a message. -/
inductive KernelBody where
  | newlink (ifinfomsg : Fin sizeofIfinfomsg → UInt8) (attributes : List LinkAttribute)
  | other (type : UInt16) (payload : List UInt8) (htype : type.toNat ≠ rtmNewlink)

structure KernelMessage where
  flags : UInt16
  seq : UInt32
  pid : UInt32
  body : KernelBody

def attributesBytes (attributes : List LinkAttribute) : List UInt8 :=
  attributes.flatMap fun a => padded 0 a.bytes

def KernelBody.type : KernelBody → ℕ
  | .newlink .. => rtmNewlink
  | .other type .. => type.toNat

def KernelBody.bytes : KernelBody → List UInt8
  | .newlink ifinfomsg attributes => List.ofFn ifinfomsg ++ attributesBytes attributes
  | .other _ payload _ => payload

/-- The counters in the message. -/
def KernelMessage.counters (m : KernelMessage) : List NetdevStats :=
  match m.body with
  | .newlink _ attributes => attributes.filterMap LinkAttribute.counters
  | .other .. => []

/-- The message is `NLMSG_DONE` or not part of a series. -/
def KernelMessage.ends (m : KernelMessage) : Bool :=
  m.body.type = nlmsgDone || m.flags.toNat &&& nlmFMulti = 0

def KernelMessage.bytes (m : KernelMessage) : List UInt8 :=
  leBytes 4 (nlmsgLength m.body.bytes.length) ++ leBytes 2 m.body.type ++
    leBytes 2 m.flags.toNat ++ leBytes 4 m.seq.toNat ++ leBytes 4 m.pid.toNat ++ m.body.bytes

def messagesBytes (messages : List KernelMessage) : List UInt8 :=
  messages.flatMap fun m => padded 0 m.bytes

/-- The messages that one `recvmsg` gets. -/
structure Datagram where
  messages : List KernelMessage
  hsmall : (messagesBytes messages).length ≤ 4096

def Datagram.reply (d : Datagram) : Reply :=
  .received (bufferOf (messagesBytes d.messages)) (messagesBytes d.messages).length d.hsmall

section Fields

variable {buffer : Buffer} {offset n : ℕ}

@[simp] theorem length_leBytes (k n : ℕ) : (leBytes k n).length = k := by
  induction k generalizing n with
  | zero => rfl
  | succ k ih => rw [leBytes, List.length_cons, ih]

theorem u16_of_holds (h : Holds buffer offset (leBytes 2 n)) : u16 buffer offset = n % 2 ^ 16 := by
  simp only [leBytes, holds_cons_iff] at h
  obtain ⟨hlow, hhigh, -⟩ := h
  rw [u16, hlow, hhigh, UInt8.toNat_ofNat', UInt8.toNat_ofNat']
  omega

theorem u32_of_holds (h : Holds buffer offset (leBytes 4 n)) : u32 buffer offset = n % 2 ^ 32 := by
  have happend : leBytes 4 n = leBytes 2 n ++ leBytes 2 (n / 2 ^ 8 / 2 ^ 8) := rfl
  rw [happend, holds_append_iff, length_leBytes] at h
  rw [u32, u16_of_holds h.1, u16_of_holds h.2]
  omega

theorem u32_of_holds_words {words : List UInt32}
    (h : Holds buffer offset (words.flatMap fun w => leBytes 4 w.toNat)) {i : ℕ}
    (hi : i < words.length) : u32 buffer (offset + 4 * i) = (words.getD i 0).toNat := by
  induction words generalizing offset i with
  | nil => cases hi
  | cons w words ih =>
    rw [List.flatMap_cons, holds_append_iff, length_leBytes] at h
    cases i with
    | zero =>
      rw [Nat.mul_zero, Nat.add_zero, u32_of_holds h.1, Nat.mod_eq_of_lt w.toNat_lt]
      rfl
    | succ i =>
      have hrest := ih h.2 (Nat.lt_of_succ_lt_succ hi)
      rw [Nat.add_assoc, Nat.add_comm 4] at hrest
      exact hrest

/-- The counters are read as they were written. -/
theorem KernelCounters.rtnlLinkStats (c : KernelCounters) (h : Holds buffer offset c.bytes) :
    rtnlLinkStats buffer offset = c.netdevStats := by
  have hlength : 13 ≤ c.words.length := by
    rcases c.complete with hc | hc <;> omega
  have hword : ∀ i < 13, u32 buffer (offset + 4 * i) = c.word i := fun i hi =>
    u32_of_holds_words h (by omega)
  rw [Netdev.rtnlLinkStats, KernelCounters.netdevStats, ← hword 0 (by omega), ← hword 1 (by omega),
    ← hword 2 (by omega), ← hword 3 (by omega), ← hword 4 (by omega), ← hword 5 (by omega),
    ← hword 6 (by omega), ← hword 7 (by omega), ← hword 8 (by omega), ← hword 9 (by omega),
    ← hword 12 (by omega)]
  rfl

theorem KernelCounters.length_bytes (c : KernelCounters) : c.bytes.length = 4 * c.words.length := by
  have hflat : ∀ words : List UInt32,
      (words.flatMap fun w => leBytes 4 w.toNat).length = 4 * words.length := by
    intro words
    induction words with
    | nil => rfl
    | cons w words ih =>
      rw [List.flatMap_cons, List.length_append, length_leBytes, ih, List.length_cons]
      omega
  exact hflat c.words

end Fields

section Attributes

variable {buffer : Buffer} {offset : ℕ} {a : LinkAttribute} {attributes : List LinkAttribute}

theorem LinkAttribute.length_bytes (a : LinkAttribute) :
    a.bytes.length = a.payload.length + sizeofRtattr := by
  rw [LinkAttribute.bytes, List.length_append, List.length_append, length_leBytes, length_leBytes,
    sizeofRtattr, Nat.add_comm]

/-- The length fits its field. -/
theorem LinkAttribute.length_lt (a : LinkAttribute) :
    a.payload.length + sizeofRtattr < 2 ^ 16 := by
  cases a with
  | stats counters =>
    rw [LinkAttribute.payload, counters.length_bytes, sizeofRtattr]
    rcases counters.complete with hc | hc <;> omega
  | other type payload _ hsmall => exact hsmall

theorem LinkAttribute.type_lt (a : LinkAttribute) : a.type < 2 ^ 16 := by
  cases a with
  | stats =>
    change iflaStats < 2 ^ 16
    decide
  | other type => exact type.toNat_lt

/-- The header of an attribute and its counters are read back. -/
theorem LinkAttribute.of_holds (h : Holds buffer offset a.bytes) :
    rtaLen buffer offset = a.bytes.length ∧ rtaType buffer offset = a.type ∧
      Holds buffer (rtaData offset) a.payload := by
  have hbytes := h
  rw [LinkAttribute.bytes, List.append_assoc, holds_append_iff, holds_append_iff, length_leBytes,
    length_leBytes, Nat.add_assoc] at hbytes
  obtain ⟨hlen, htype, hpayload⟩ := hbytes
  refine ⟨?_, ?_, hpayload⟩
  · rw [rtaLen, u16_of_holds hlen, Nat.mod_eq_of_lt a.length_lt, a.length_bytes]
  · rw [rtaType, u16_of_holds htype, Nat.mod_eq_of_lt a.type_lt]

/-- The counters among attributes at given offsets. -/
theorem counters_of_forall₂ {rtas : List ℕ}
    (h : List.Forall₂ (fun offset a => Holds buffer offset (LinkAttribute.bytes a)) rtas attributes) :
    (rtas.filter fun rta => rtaType buffer rta = iflaStats).map
        (fun rta => rtnlLinkStats buffer (rtaData rta)) =
      attributes.filterMap LinkAttribute.counters := by
  induction h with
  | nil => rfl
  | @cons offset a rtas attributes ha _ ih =>
    obtain ⟨-, htype, hpayload⟩ := LinkAttribute.of_holds ha
    cases a with
    | stats counters =>
      have hkeep : decide (rtaType buffer offset = iflaStats) = true := by
        rw [htype, decide_eq_true_eq]
        rfl
      have hsome : (LinkAttribute.stats counters).counters = some counters.netdevStats := rfl
      rw [List.filter_cons, if_pos hkeep, List.map_cons, ih, List.filterMap_cons_some hsome,
        counters.rtnlLinkStats hpayload]
    | other type payload hne hsmall =>
      have hskip : ¬ decide (rtaType buffer offset = iflaStats) = true := by
        rw [htype, decide_eq_true_eq]
        exact hne
      have hnone : (LinkAttribute.other type payload hne hsmall).counters = none := rfl
      rw [List.filter_cons, if_neg hskip, ih, List.filterMap_cons_none hnone]

end Attributes

section Messages

variable {buffer : Buffer} {offset : ℕ} {m : KernelMessage} {ms : List KernelMessage}

theorem KernelMessage.length_bytes (m : KernelMessage) :
    m.bytes.length = nlmsgLength m.body.bytes.length := by
  simp only [KernelMessage.bytes, List.length_append, length_leBytes, nlmsgLength, sizeofNlmsghdr]
  omega

theorem KernelBody.type_lt (body : KernelBody) : body.type < 2 ^ 16 := by
  cases body with
  | newlink =>
    change rtmNewlink < 2 ^ 16
    decide
  | other type => exact type.toNat_lt

/-- The header of a message that is no longer than the buffer is read back. -/
theorem KernelMessage.of_holds (h : Holds buffer offset m.bytes) (hsmall : m.bytes.length ≤ 4096) :
    nlmsgLen buffer offset = m.bytes.length ∧ nlmsgType buffer offset = m.body.type ∧
      nlmsgFlags buffer offset = m.flags.toNat ∧
        Holds buffer (nlmsgData offset) m.body.bytes := by
  have hbytes := h
  simp only [KernelMessage.bytes, List.append_assoc, holds_append_iff, length_leBytes,
    Nat.add_assoc, Nat.reduceAdd] at hbytes
  obtain ⟨hlen, htype, hflags, -, -, hbody⟩ := hbytes
  rw [m.length_bytes] at hsmall
  refine ⟨?_, ?_, ?_, hbody⟩
  · rw [nlmsgLen, u32_of_holds hlen, Nat.mod_eq_of_lt (by omega), m.length_bytes]
  · rw [nlmsgType, u16_of_holds htype, Nat.mod_eq_of_lt m.body.type_lt]
  · rw [nlmsgFlags, u16_of_holds hflags, Nat.mod_eq_of_lt m.flags.toNat_lt]

theorem KernelMessage.endsReply_of_holds (h : Holds buffer offset m.bytes)
    (hsmall : m.bytes.length ≤ 4096) : endsReply buffer offset = m.ends := by
  obtain ⟨-, htype, hflags, -⟩ := KernelMessage.of_holds h hsmall
  rw [endsReply, htype, hflags, KernelMessage.ends]

/-- The counters of a message are those of its attributes. -/
theorem KernelMessage.counters_of_holds (h : Holds buffer offset m.bytes)
    (hsmall : m.bytes.length ≤ 4096) :
    (statsAttributes buffer offset).map (fun rta => rtnlLinkStats buffer (rtaData rta)) =
      m.counters := by
  obtain ⟨hlen, htype, -, hbody⟩ := KernelMessage.of_holds h hsmall
  rw [statsAttributes, htype, KernelMessage.counters]
  rw [m.length_bytes] at hlen
  cases hm : m.body with
  | other type payload hne =>
    have htype' : (KernelBody.other type payload hne).type ≠ rtmNewlink := hne
    rw [if_neg htype']
    rfl
  | newlink ifinfomsg attributes =>
    rw [hm, KernelBody.bytes, holds_append_iff, List.length_ofFn] at hbody
    have hleft : (nlmsgLen buffer offset : ℤ) - nlmsgLength sizeofIfinfomsg =
        ((attributesBytes attributes).length : ℕ) := by
      rw [hlen, hm, KernelBody.bytes, List.length_append, List.length_ofFn, nlmsgLength, nlmsgLength]
      omega
    have hlength : ∀ a ∈ attributes, ∀ offset, Holds buffer offset (LinkAttribute.bytes a) →
        rtaLen buffer offset = (LinkAttribute.bytes a).length :=
      fun a _ offset ha => (LinkAttribute.of_holds ha).1
    have hsize : ∀ a ∈ attributes, sizeofRtattr ≤ (LinkAttribute.bytes a).length :=
      fun a _ => by rw [a.length_bytes]; exact Nat.le_add_left _ _
    have hfound := forall₂_records (by decide) 0 hlength hsize hbody.2
    have htype' : (KernelBody.newlink ifinfomsg attributes).type = rtmNewlink := rfl
    rw [if_pos htype']
    refine counters_of_forall₂ ?_
    rw [Netdev.attributes, hleft]
    exact hfound

end Messages

section Datagrams

variable {d : Datagram}

theorem holds_bufferOf (bytes : List UInt8) : Holds (bufferOf bytes) 0 bytes := by
  intro i hi
  rw [bufferOf, Nat.zero_add, List.getD_eq_getElem?_getD, List.getElem?_eq_getElem hi,
    Option.getD_some]

theorem Datagram.length_le (d : Datagram) {m : KernelMessage} (hm : m ∈ d.messages) :
    m.bytes.length ≤ 4096 := by
  have hsub : (padded 0 m.bytes).Sublist (messagesBytes d.messages) := by
    rw [messagesBytes, List.flatMap_def]
    exact List.sublist_flatten_of_mem (List.mem_map_of_mem (f := fun m => padded 0 m.bytes) hm)
  have hlength := hsub.length_le
  rw [length_padded] at hlength
  exact (le_align _).trans (hlength.trans d.hsmall)

/-- The loop over the messages meets those of the datagram. -/
theorem Datagram.forall₂_messages (d : Datagram) :
    List.Forall₂ (fun offset m => Holds (bufferOf (messagesBytes d.messages)) offset
        (KernelMessage.bytes m))
      (Netdev.messages (bufferOf (messagesBytes d.messages)) (messagesBytes d.messages).length)
      d.messages := by
  have hsize : ∀ m ∈ d.messages, sizeofNlmsghdr ≤ (KernelMessage.bytes m).length :=
    fun m _ => by rw [m.length_bytes]; exact Nat.le_add_left _ _
  exact forall₂_records (by decide) 0
    (fun m hm offset hholds => (KernelMessage.of_holds hholds (d.length_le hm)).1) hsize
    (holds_bufferOf _)

/-- The counters that are read from a datagram are those that were written to it, in this order. -/
theorem Datagram.counters_reply (d : Datagram) :
    d.reply.counters = d.messages.flatMap KernelMessage.counters := by
  have hflat : ∀ {offsets ms}, List.Forall₂ (fun offset m => Holds (bufferOf (messagesBytes d.messages))
      offset (KernelMessage.bytes m)) offsets ms → (∀ m ∈ ms, m.bytes.length ≤ 4096) →
      (offsets.flatMap (statsAttributes (bufferOf (messagesBytes d.messages)))).map
          (fun rta => rtnlLinkStats (bufferOf (messagesBytes d.messages)) (rtaData rta)) =
        ms.flatMap KernelMessage.counters := by
    intro offsets ms h hsmall
    induction h with
    | nil => rfl
    | @cons offset m offsets ms hm _ ih =>
      rw [List.flatMap_cons, List.map_append, List.flatMap_cons,
        KernelMessage.counters_of_holds hm (hsmall m List.mem_cons_self),
        ih fun m hm => hsmall m (List.mem_cons_of_mem _ hm)]
  exact hflat d.forall₂_messages fun m hm => d.length_le hm

theorem Datagram.ends_reply (d : Datagram) : d.reply.ends = d.messages.any KernelMessage.ends := by
  have hany : ∀ {offsets ms}, List.Forall₂ (fun offset m => Holds (bufferOf (messagesBytes d.messages))
      offset (KernelMessage.bytes m)) offsets ms → (∀ m ∈ ms, m.bytes.length ≤ 4096) →
      offsets.any (endsReply (bufferOf (messagesBytes d.messages))) =
        ms.any KernelMessage.ends := by
    intro offsets ms h hsmall
    induction h with
    | nil => rfl
    | @cons offset m offsets ms hm _ ih =>
      rw [List.any_cons, List.any_cons,
        KernelMessage.endsReply_of_holds hm (hsmall m List.mem_cons_self),
        ih fun m hm => hsmall m (List.mem_cons_of_mem _ hm)]
  exact hany d.forall₂_messages fun m hm => d.length_le hm

end Datagrams

/-- The kernel sends any datagrams of messages, and the first message that ends the reply is in the
last of them. Then 0 is returned, with the counters that were written last into a message about a link,
or with those that were there before if there is none. -/
theorem kernel_stats_of_datagrams (env : NetlinkEnv) (stats : NetdevStats) (hopened : env.opened = true)
    (ds : List Datagram) (last : Datagram)
    (hrecv : ∀ i d, (ds ++ [last])[i]? = some d → env.recvmsg i = d.reply)
    (hmore : ∀ d ∈ ds, d.messages.any KernelMessage.ends = false)
    (hlast : last.messages.any KernelMessage.ends = true) :
    Yields (netdevGetKernelStats env · stats)
      (0, (((ds ++ [last]).flatMap fun d =>
        d.messages.flatMap KernelMessage.counters).getLast?).getD stats) := by
  have hends : EndsAt env.recvmsg ds.length := by
    refine ⟨fun i hi => ?_, ?_⟩
    · have hd := hrecv i ds[i] (by rw [List.getElem?_append_left hi, List.getElem?_eq_getElem hi])
      rw [hd]
      refine ⟨?_, ?_⟩
      · rw [Datagram.reply]
        exact Reply.noConfusion
      · rw [Datagram.ends_reply]
        exact hmore _ (List.getElem_mem hi)
    · rw [hrecv ds.length last (by simp), Datagram.ends_reply]
      exact hlast
  have hcounters : counters env.recvmsg (ds.length + 1) =
      (ds ++ [last]).flatMap fun d => d.messages.flatMap KernelMessage.counters := by
    have hreplies : (List.range (ds.length + 1)).map env.recvmsg =
        (ds ++ [last]).map Datagram.reply := by
      refine List.ext_getElem (by simp) fun i hi hi' => ?_
      rw [List.getElem_map, List.getElem_map, List.getElem_range]
      exact hrecv i _ (List.getElem?_eq_getElem _)
    rw [counters, ← List.flatMap_map, hreplies, List.flatMap_map]
    simp only [Datagram.counters_reply]
  obtain ⟨rounds, hruns⟩ := hends.exists_runs stats
  rw [hcounters] at hruns
  simp only [netdevGetKernelStats_opened hopened]
  exact hruns.yields

/-- A link with counters 1 to 23, of the kind that is asked for: a single message with an attribute of
another type, of an odd length, before the counters. -/
def linkDatagram : Datagram where
  messages := [⟨0, 0, 0, .newlink (fun _ => 0) [.other 3 [101, 116, 104, 49, 0] (by decide) (by decide),
    .stats ⟨(List.range 23).map fun i => UInt32.ofNat (i + 1), .inl (by decide)⟩]⟩]
  hsmall := by decide +kernel

/-- An empty datagram before it does no harm. -/
theorem kernel_stats_of_linkDatagram :
    Yields (netdevGetKernelStats ⟨true, true, true, fun i =>
        if i = 0 then Datagram.reply ⟨[], by decide⟩ else linkDatagram.reply⟩ ·
          ⟨0, 0, 0, 0, 0, 0, 0, 0, 0, 0, 0⟩)
      (0, ⟨1, 2, 3, 4, 5, 6, 7, 8, 9, 10, 13⟩) := by
  refine kernel_stats_of_datagrams _ _ rfl [⟨[], by decide⟩] linkDatagram ?_ (by decide) (by decide)
  intro i d hd
  match i with
  | 0 => exact congrArg Datagram.reply (Option.some.inj hd)
  | 1 => exact congrArg Datagram.reply (Option.some.inj hd)

end ContainerPlugin.Netdev
