import ContainerPlugin.Lib.Records

/-!
# Netlink messages

The loops over the messages of a received buffer and over the attributes of a message, with the
macros `NLMSG_*` and `RTA_*` of the Linux headers. The lengths that the loops subtract come from the
buffer, and the remaining length is an `int`.
-/

namespace ContainerPlugin.Netdev

open Loop

/-- The memory at `buffer` and behind it, a byte for each offset. -/
abbrev Buffer := ℕ → UInt8

/-- The conversion to `int`. -/
def toInt (x : ℤ) : ℤ := x.bmod (2 ^ 32)

/-- A field of 16 bits, on a little-endian machine. -/
def u16 (buffer : Buffer) (offset : ℕ) : ℕ :=
  (buffer offset).toNat + 2 ^ 8 * (buffer (offset + 1)).toNat

/-- A field of 32 bits. -/
def u32 (buffer : Buffer) (offset : ℕ) : ℕ :=
  u16 buffer offset + 2 ^ 16 * u16 buffer (offset + 2)

/-! ## Headers -/

/-- The size of `struct nlmsghdr`, which is `NLMSG_HDRLEN`. -/
def sizeofNlmsghdr : ℕ := 16

def sizeofIfinfomsg : ℕ := 16

def sizeofRtattr : ℕ := 4

/-- The size of the 23 counters that every version of `struct rtnl_link_stats` has. -/
def sizeofRtnlLinkStats : ℕ := 92

def nlmsgLen (buffer : Buffer) (nlh : ℕ) : ℕ := u32 buffer nlh

def nlmsgType (buffer : Buffer) (nlh : ℕ) : ℕ := u16 buffer (nlh + 4)

def nlmsgFlags (buffer : Buffer) (nlh : ℕ) : ℕ := u16 buffer (nlh + 6)

def rtaLen (buffer : Buffer) (rta : ℕ) : ℕ := u16 buffer rta

def rtaType (buffer : Buffer) (rta : ℕ) : ℕ := u16 buffer (rta + 2)

def nlmsgDone : ℕ := 3

def rtmNewlink : ℕ := 16

def nlmFMulti : ℕ := 2

def iflaStats : ℕ := 7

/-- `NLMSG_ALIGN` and `RTA_ALIGN`: `(len + 4U - 1) & ~(4U - 1)` -/
def nlmsgAlign (len : ℕ) : ℕ := (len + 3) % 2 ^ 32 / 4 * 4

/-- `NLMSG_LENGTH` -/
def nlmsgLength (len : ℕ) : ℕ := len + sizeofNlmsghdr

/-- `NLMSG_OK`; the last comparison is of unsigned numbers. -/
def nlmsgOk (buffer : Buffer) (nlh : ℕ) (len : ℤ) : Bool :=
  sizeofNlmsghdr ≤ len && sizeofNlmsghdr ≤ nlmsgLen buffer nlh &&
    nlmsgLen buffer nlh ≤ len % 2 ^ 32

/-- `NLMSG_DATA` -/
def nlmsgData (nlh : ℕ) : ℕ := nlh + sizeofNlmsghdr

/-- `RTA_OK` -/
def rtaOk (buffer : Buffer) (rta : ℕ) (len : ℤ) : Bool :=
  sizeofRtattr ≤ len && sizeofRtattr ≤ rtaLen buffer rta && rtaLen buffer rta ≤ len

/-- `RTA_DATA` -/
def rtaData (rta : ℕ) : ℕ := rta + sizeofRtattr

/-- `IFLA_RTA` -/
def iflaRta (iface : ℕ) : ℕ := iface + nlmsgAlign sizeofIfinfomsg

/-! ## The loops -/

/-- The members of `struct netdev_stats` that the kernel provides. -/
structure NetdevStats where
  rxPackets : ℕ
  txPackets : ℕ
  rxBytes : ℕ
  txBytes : ℕ
  rxErrors : ℕ
  txErrors : ℕ
  rxDropped : ℕ
  txDropped : ℕ
  multicast : ℕ
  collisions : ℕ
  rxCrcErrors : ℕ
  deriving DecidableEq

/-- The same members of the `struct rtnl_link_stats` at `s`, which has two counters between the last
two. -/
def rtnlLinkStats (buffer : Buffer) (s : ℕ) : NetdevStats where
  rxPackets := u32 buffer s
  txPackets := u32 buffer (s + 4)
  rxBytes := u32 buffer (s + 8)
  txBytes := u32 buffer (s + 12)
  rxErrors := u32 buffer (s + 16)
  txErrors := u32 buffer (s + 20)
  rxDropped := u32 buffer (s + 24)
  txDropped := u32 buffer (s + 28)
  multicast := u32 buffer (s + 32)
  collisions := u32 buffer (s + 36)
  rxCrcErrors := u32 buffer (s + 48)

/-- The variables of the loop of `netdev_parse_netlink_msg`; `rta` is the attribute. -/
structure AttributeLoop where
  rta : ℕ
  len : ℤ
  stats : NetdevStats

/-- A round of the loop over the attributes of a message. -/
def attributeRound (buffer : Buffer) (st : AttributeLoop) : AttributeLoop ⊕ NetdevStats :=
  if rtaOk buffer st.rta st.len then
    let stats :=
      if rtaType buffer st.rta = iflaStats then rtnlLinkStats buffer (rtaData st.rta)
      else st.stats
    let next := nlmsgAlign (rtaLen buffer st.rta)
    .inl ⟨st.rta + next, toInt (st.len - next), stats⟩
  else .inr st.stats

/-- The start of the loop over the attributes of the message at `h`. -/
def firstAttribute (buffer : Buffer) (h : ℕ) (stats : NetdevStats) : AttributeLoop :=
  ⟨iflaRta (nlmsgData h), toInt (nlmsgLen buffer h - nlmsgLength sizeofIfinfomsg), stats⟩

/-- `netdev_parse_netlink_msg`; every round takes at least one byte. -/
def netdevParseNetlinkMsg (buffer : Buffer) (h : ℕ) (stats : NetdevStats) : NetdevStats :=
  let first := firstAttribute buffer h stats
  (run (attributeRound buffer) (first.len.toNat + 1) first).getD stats

/-- The variables of the loop over the messages in `netdev_get_kernel_stats`. -/
structure MessageLoop where
  nlh : ℕ
  ret : ℤ
  stats : NetdevStats
  multipartMsgEnd : Bool

/-- A message that ends the reply. -/
def endsReply (buffer : Buffer) (nlh : ℕ) : Bool :=
  nlmsgType buffer nlh = nlmsgDone || nlmsgFlags buffer nlh &&& nlmFMulti = 0

/-- A round of the loop over the messages. -/
def messageRound (buffer : Buffer) (st : MessageLoop) :
    MessageLoop ⊕ (NetdevStats × Bool) :=
  if nlmsgOk buffer st.nlh st.ret then
    let stats :=
      if nlmsgType buffer st.nlh = rtmNewlink then netdevParseNetlinkMsg buffer st.nlh st.stats
      else st.stats
    let next := nlmsgAlign (nlmsgLen buffer st.nlh)
    .inl ⟨st.nlh + next, toInt (st.ret - next), stats, st.multipartMsgEnd || endsReply buffer st.nlh⟩
  else .inr (st.stats, st.multipartMsgEnd)

/-! ## What the loops meet -/

/-- The messages in the first `ret` bytes. -/
def messages (buffer : Buffer) (ret : ℕ) : List ℕ :=
  Records.records sizeofNlmsghdr (nlmsgLen buffer) 0 ret

/-- The attributes of the message at `h`. -/
def attributes (buffer : Buffer) (h : ℕ) : List ℕ :=
  Records.records sizeofRtattr (rtaLen buffer) (iflaRta (nlmsgData h))
    (nlmsgLen buffer h - nlmsgLength sizeofIfinfomsg)

/-- The `IFLA_STATS` attributes of the message at `h`, if it is about a link. -/
def statsAttributes (buffer : Buffer) (h : ℕ) : List ℕ :=
  if nlmsgType buffer h = rtmNewlink then
    (attributes buffer h).filter fun rta => rtaType buffer rta = iflaStats
  else []

/-- The `IFLA_STATS` attributes in the first `ret` bytes. -/
def linkAttributes (buffer : Buffer) (ret : ℕ) : List ℕ :=
  (messages buffer ret).flatMap (statsAttributes buffer)

/-- The counters of the last of the attributes. -/
def lastStats (buffer : Buffer) (rtas : List ℕ) (stats : NetdevStats) : NetdevStats :=
  (rtas.getLast?.map fun rta => rtnlLinkStats buffer (rtaData rta)).getD stats

section Walk

variable {buffer : Buffer} {stats : NetdevStats}

/-- A value of type `int`. -/
def IsInt (x : ℤ) : Prop := -2 ^ 31 ≤ x ∧ x < 2 ^ 31

theorem IsInt.toInt_eq {x : ℤ} (h : IsInt x) : toInt x = x := by
  obtain ⟨hlow, hhigh⟩ := h
  rw [toInt, Int.bmod_def]
  split
  · omega
  · omega

theorem nlmsgAlign_eq {n : ℕ} (h : n < 2 ^ 31) : nlmsgAlign n = Records.align n := by
  rw [nlmsgAlign, Records.align, Nat.mod_eq_of_lt (by omega)]

theorem nlmsgOk_iff {nlh : ℕ} {len : ℤ} (h : IsInt len) :
    nlmsgOk buffer nlh len = true ↔
      Records.Fits sizeofNlmsghdr (nlmsgLen buffer) nlh len := by
  simp only [nlmsgOk, Records.Fits, Bool.and_eq_true, decide_eq_true_eq, and_assoc]
  refine and_congr_right fun hhead => and_congr_right fun _ => ?_
  have hnonneg : 0 ≤ len := Int.le_trans (Int.natCast_nonneg _) hhead
  rw [Int.emod_eq_of_lt hnonneg (by have hhigh := h.2; omega)]

theorem rtaOk_iff {rta : ℕ} {len : ℤ} :
    rtaOk buffer rta len = true ↔ Records.Fits sizeofRtattr (rtaLen buffer) rta len := by
  simp only [rtaOk, Records.Fits, Bool.and_eq_true, decide_eq_true_eq, and_assoc]

/-- The step to the next record does not overflow. -/
theorem next_eq {n : ℕ} {len : ℤ} (h : IsInt len) (hle : n ≤ len) :
    nlmsgAlign n = Records.align n ∧
      toInt (len - nlmsgAlign n) = len - Records.align n ∧ IsInt (len - Records.align n) := by
  obtain ⟨hlow, hhigh⟩ := h
  have halign := nlmsgAlign_eq (n := n) (by omega)
  have hn := Records.align_le n
  have hint : IsInt (len - Records.align n) := ⟨by omega, by omega⟩
  rw [halign]
  exact ⟨rfl, hint.toInt_eq, hint⟩

/-! ## Attributes -/

/-- The remaining length goes to the end of the message. -/
structure AttributeLoop.Within (total : ℤ) (st : AttributeLoop) : Prop where
  isInt : IsInt st.len
  total : st.rta + st.len = total

theorem isFor_attributes (buffer : Buffer) (total : ℤ) :
    Records.IsFor sizeofRtattr (rtaLen buffer) (attributeRound buffer)
      (AttributeLoop.Within total) (·.rta) (·.len) (·.stats)
      (fun stats rta =>
        if rtaType buffer rta = iflaStats then rtnlLinkStats buffer (rtaData rta) else stats)
      id where
  next st hst hfits := by
    obtain ⟨halign, hlen, hint⟩ := next_eq hst.isInt hfits.2.2
    refine ⟨_, by rw [attributeRound, if_pos (rtaOk_iff.mpr hfits)], ⟨?_, ?_⟩, ?_, hlen, rfl⟩
    · rw [hlen]
      exact hint
    · have htotal := hst.total
      simp only []
      rw [hlen, halign]
      omega
    · simp only [halign]
  done st hst hfits := by
    rw [attributeRound, if_neg fun hok => hfits (rtaOk_iff.mp hok)]
    rfl

/-- The loop over the attributes of a message ends, and examines headers in the message only. -/
structure MessageWalk (buffer : Buffer) (h : ℕ) (stats : NetdevStats)
    (rounds : List AttributeLoop) : Prop where
  runs : Runs (attributeRound buffer) (firstAttribute buffer h stats) rounds
    (netdevParseNetlinkMsg buffer h stats)
  inside : ∀ r ∈ rounds, sizeofRtattr ≤ r.len → r.rta + sizeofRtattr ≤ h + nlmsgLen buffer h
  meets : (rounds.filter fun r => rtaOk buffer r.rta r.len).map (·.rta) = attributes buffer h

theorem netdevParseNetlinkMsg_walk {h : ℕ} (hlen : nlmsgLen buffer h < 2 ^ 31)
    (stats : NetdevStats) :
    (∃ rounds, MessageWalk buffer h stats rounds) ∧
      netdevParseNetlinkMsg buffer h stats = lastStats buffer
        ((attributes buffer h).filter fun rta => rtaType buffer rta = iflaStats) stats := by
  have hfirst : (firstAttribute buffer h stats).len =
      nlmsgLen buffer h - nlmsgLength sizeofIfinfomsg := by
    have hconst : nlmsgLength sizeofIfinfomsg = 32 := rfl
    apply IsInt.toInt_eq
    rw [hconst, IsInt]
    omega
  have hwithin : (firstAttribute buffer h stats).Within (h + nlmsgLen buffer h) := by
    have hstart : (firstAttribute buffer h stats).rta = h + 32 := rfl
    have hconst : nlmsgLength sizeofIfinfomsg = 32 := rfl
    refine ⟨?_, ?_⟩
    · rw [hfirst, hconst, IsInt]
      omega
    · rw [hfirst, hstart, hconst]
      omega
  have hfor := isFor_attributes buffer (h + nlmsgLen buffer h)
  obtain ⟨rounds, stats', hruns, hlength⟩ := hfor.exists_runs (by decide) hwithin
  obtain ⟨hmeets, hresult⟩ := hfor.rounds_eq (by decide) hruns hwithin
  have hparse : netdevParseNetlinkMsg buffer h stats = stats' := by
    simp only [netdevParseNetlinkMsg, hruns.run_eq hlength, Option.getD_some]
  rw [hfirst] at hmeets hresult
  refine ⟨⟨rounds, hparse ▸ hruns, ?_, ?_⟩, ?_⟩
  · intro r hr hhead
    have htotal := (hfor.invariant hruns hwithin r hr).total
    omega
  · refine Eq.trans ?_ hmeets
    congr 1
    apply List.filter_congr
    intro r _
    rw [Bool.eq_iff_iff, rtaOk_iff, decide_eq_true_iff]
  · have hlast := Records.foldl_overwrite (fun rta => decide (rtaType buffer rta = iflaStats))
      (fun rta => rtnlLinkStats buffer (rtaData rta)) (attributes buffer h) stats
    simp only [decide_eq_true_eq] at hlast
    rw [hparse, hresult]
    exact hlast

/-! ## Messages -/

/-- The remaining length goes to the end of the received bytes. -/
structure MessageLoop.Within (total : ℤ) (st : MessageLoop) : Prop where
  isInt : IsInt st.ret
  total : st.nlh + st.ret = total

/-- What a message does to the counters and to the end of the reply. -/
def messageBody (buffer : Buffer) (acc : NetdevStats × Bool) (nlh : ℕ) : NetdevStats × Bool :=
  (if nlmsgType buffer nlh = rtmNewlink then netdevParseNetlinkMsg buffer nlh acc.1 else acc.1,
    acc.2 || endsReply buffer nlh)

theorem isFor_messages (buffer : Buffer) (total : ℤ) :
    Records.IsFor sizeofNlmsghdr (nlmsgLen buffer) (messageRound buffer)
      (MessageLoop.Within total) (·.nlh) (·.ret) (fun st => (st.stats, st.multipartMsgEnd))
      (messageBody buffer) id where
  next st hst hfits := by
    obtain ⟨halign, hlen, hint⟩ := next_eq hst.isInt hfits.2.2
    refine ⟨_, by rw [messageRound, if_pos ((nlmsgOk_iff hst.isInt).mpr hfits)], ⟨?_, ?_⟩, ?_, hlen,
      rfl⟩
    · rw [hlen]
      exact hint
    · have htotal := hst.total
      simp only []
      rw [hlen, halign]
      omega
    · simp only [halign]
  done st hst hfits := by
    rw [messageRound, if_neg fun hok => hfits ((nlmsgOk_iff hst.isInt).mp hok)]
    rfl

/-- The loop over the messages ends. It examines headers in the first `ret` bytes only, and so does
the loop over the attributes of each message. -/
structure BufferWalk (buffer : Buffer) (ret : ℕ) (stats : NetdevStats) (multipartMsgEnd : Bool)
    (rounds : List MessageLoop) (result : NetdevStats × Bool) : Prop where
  runs : Runs (messageRound buffer) ⟨0, ret, stats, multipartMsgEnd⟩ rounds result
  inside : ∀ r ∈ rounds, sizeofNlmsghdr ≤ r.ret → r.nlh + sizeofNlmsghdr ≤ ret
  meets : (rounds.filter fun r => nlmsgOk buffer r.nlh r.ret).map (·.nlh) = messages buffer ret
  messages : ∀ r ∈ rounds, nlmsgOk buffer r.nlh r.ret → r.nlh + nlmsgLen buffer r.nlh ≤ ret ∧
    ∃ rounds', MessageWalk buffer r.nlh r.stats rounds'

theorem exists_bufferWalk (buffer : Buffer) {ret : ℕ} (hret : ret ≤ 4096) (stats : NetdevStats)
    (multipartMsgEnd : Bool) :
    ∃ rounds, rounds.length ≤ ret + 1 ∧ BufferWalk buffer ret stats multipartMsgEnd rounds
      ((Netdev.messages buffer ret).foldl (messageBody buffer) (stats, multipartMsgEnd)) := by
  have hint : IsInt ret := ⟨by omega, by omega⟩
  have hwithin : MessageLoop.Within ret ⟨0, ret, stats, multipartMsgEnd⟩ := ⟨hint, by simp⟩
  have hfor := isFor_messages buffer ret
  obtain ⟨rounds, result, hruns, hlength⟩ := hfor.exists_runs (by decide) hwithin
  obtain ⟨hmeets, rfl⟩ := hfor.rounds_eq (by decide) hruns hwithin
  have hinv := hfor.invariant hruns hwithin
  refine ⟨rounds, hlength, hruns, ?_, ?_, ?_⟩
  · intro r hr hhead
    have htotal := (hinv r hr).total
    omega
  · refine Eq.trans ?_ hmeets
    congr 1
    apply List.filter_congr
    intro r hr
    rw [Bool.eq_iff_iff, nlmsgOk_iff (hinv r hr).isInt, decide_eq_true_iff]
  · intro r hr hok
    obtain ⟨-, -, hlen⟩ := (nlmsgOk_iff (hinv r hr).isInt).mp hok
    have htotal := (hinv r hr).total
    have hsmall : nlmsgLen buffer r.nlh < 2 ^ 31 := by
      have hhigh := (hinv r hr).isInt.2
      omega
    exact ⟨by omega, (netdevParseNetlinkMsg_walk hsmall r.stats).1⟩

/-- The counters are those of the last attribute, whatever the buffer holds. -/
theorem foldl_messageBody {ret : ℕ} (hret : ret ≤ 4096) (ended : Bool) :
    (messages buffer ret).foldl (messageBody buffer) (stats, ended) =
      (lastStats buffer (linkAttributes buffer ret) stats,
        ended || (messages buffer ret).any (endsReply buffer)) := by
  have hsmall : ∀ h ∈ messages buffer ret, nlmsgLen buffer h < 2 ^ 31 := by
    intro h hmem
    have hin := Records.mem_records (by decide) hmem
    omega
  have hfold : ∀ (hs : List ℕ) (acc : NetdevStats × Bool),
      (∀ h ∈ hs, nlmsgLen buffer h < 2 ^ 31) → hs.foldl (messageBody buffer) acc =
        (hs.foldl (fun stats h => lastStats buffer (statsAttributes buffer h) stats) acc.1,
          acc.2 || hs.any (endsReply buffer)) := by
    intro hs
    induction hs with
    | nil => simp
    | cons h hs ih =>
      intro acc hhs
      have hbody : messageBody buffer acc h =
          (lastStats buffer (statsAttributes buffer h) acc.1, acc.2 || endsReply buffer h) := by
        rw [messageBody, statsAttributes]
        split
        · rw [(netdevParseNetlinkMsg_walk (hhs h List.mem_cons_self) acc.1).2]
        · rfl
      rw [List.foldl_cons, hbody, ih _ fun h hh => hhs h (List.mem_cons_of_mem _ hh),
        List.foldl_cons, List.any_cons, Bool.or_assoc]
  rw [hfold _ _ hsmall]
  congr 1
  exact Records.foldl_overwrite_flatMap _ _ _ _

theorem mem_linkAttributes {ret rta : ℕ} (h : rta ∈ linkAttributes buffer ret) :
    rta + rtaLen buffer rta ≤ ret := by
  obtain ⟨m, hm, hrta⟩ := List.mem_flatMap.mp h
  have hmessage := Records.mem_records (by decide) hm
  rw [statsAttributes] at hrta
  split at hrta
  case isTrue =>
    have hattribute := Records.mem_records (by decide) (List.mem_filter.mp hrta).1
    have hstart : iflaRta (nlmsgData m) = m + 32 := rfl
    have hconst : nlmsgLength sizeofIfinfomsg = 32 := rfl
    rw [hstart, hconst] at hattribute
    omega
  case isFalse => cases hrta

/-- For every buffer, both loops end and stay inside. If the counters of every attribute have their
size, those of the last one that is met are stored, or none. -/
theorem netlink_walk (buffer : Buffer) {ret : ℕ} (hret : ret ≤ 4096) (stats : NetdevStats)
    (multipartMsgEnd : Bool) :
    ∃ rounds result, BufferWalk buffer ret stats multipartMsgEnd rounds result ∧
      ((∀ rta ∈ linkAttributes buffer ret,
          sizeofRtattr + sizeofRtnlLinkStats ≤ rtaLen buffer rta) →
        result.1 = lastStats buffer (linkAttributes buffer ret) stats ∧
          ∀ rta ∈ linkAttributes buffer ret, rtaData rta + sizeofRtnlLinkStats ≤ ret) := by
  obtain ⟨rounds, -, hwalk⟩ := exists_bufferWalk buffer hret stats multipartMsgEnd
  refine ⟨rounds, _, hwalk, fun hpayload => ⟨?_, ?_⟩⟩
  · rw [foldl_messageBody hret]
  · intro rta hrta
    have hin := mem_linkAttributes hrta
    have hsize := hpayload rta hrta
    have hdata : rtaData rta = rta + sizeofRtattr := rfl
    omega

end Walk

/-- A buffer with the bytes. -/
def bufferOf (bytes : List UInt8) : Buffer := fun offset => bytes.getD offset 0

/-- A message about a link with an attribute `IFLA_STATS`, all of whose bytes are 1. -/
def linkMessage : List UInt8 :=
  [128, 0, 0, 0, 16, 0, 0, 0] ++ List.replicate 24 0 ++ [96, 0, 7, 0] ++ List.replicate 92 1

theorem netlink_walk_linkMessage :
    ∃ rounds result, BufferWalk (bufferOf linkMessage) 128 ⟨0, 0, 0, 0, 0, 0, 0, 0, 0, 0, 0⟩ false
        rounds result ∧
      ((∀ rta ∈ linkAttributes (bufferOf linkMessage) 128,
          sizeofRtattr + sizeofRtnlLinkStats ≤ rtaLen (bufferOf linkMessage) rta) →
        result.1 = lastStats (bufferOf linkMessage) (linkAttributes (bufferOf linkMessage) 128)
            ⟨0, 0, 0, 0, 0, 0, 0, 0, 0, 0, 0⟩ ∧
          ∀ rta ∈ linkAttributes (bufferOf linkMessage) 128,
            rtaData rta + sizeofRtnlLinkStats ≤ 128) :=
  netlink_walk (bufferOf linkMessage) (by decide) _ false

example : linkAttributes (bufferOf linkMessage) 128 = [32] := by decide +kernel

end ContainerPlugin.Netdev
