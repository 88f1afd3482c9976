import Mathlib.Data.List.Basic
import ContainerPlugin.Lib.Scan

/-!
# The configuration of an interface

`netdev_sim_set_hw_intf_config` sets all members that it knows from the keys of its map, where a
missing key has a default. The pause settings are the exception: without their key they stay what
they were before, so two netdevs with different histories can differ in them afterwards.
-/

namespace ContainerPlugin.Netdev

open Scan

/-- The keys of the maps `hw_intf_info` and `hw_intf_config`. -/
inductive HwKey where
  | maxSpeed
  | macAddr
  | enable
  | autoneg
  | pause
  | mtu
  deriving DecidableEq

/-- `struct smap` -/
abbrev Smap := HwKey → Option String

/-- The functions of the library that read a value of a map; the last argument is the default. -/
structure SmapLib where
  getBool : Smap → HwKey → Bool → Bool
  getInt : Smap → HwKey → BitVec 32 → BitVec 32

/-- The constants of the headers: `enum netdev_flags`, `enum netdev_features` and the values of the
key for pause. -/
structure HwConstants where
  netdevUp : BitVec 32
  netdevPromisc : BitVec 32
  f10mbFd : BitVec 32
  f100mbFd : BitVec 32
  f1gbFd : BitVec 32
  f10gbFd : BitVec 32
  f40gbFd : BitVec 32
  f100gbFd : BitVec 32
  fAutoneg : BitVec 32
  fPause : BitVec 32
  fPauseAsym : BitVec 32
  pauseRx : String
  pauseTx : String
  pauseRxtx : String

/-- The members of `struct netdev_sim` for the hardware interface; `name` is that of `up`. -/
structure HwNetdev where
  name : String
  hwAddrStr : String
  flags : BitVec 32
  linuxIntfName : String
  linkState : BitVec 32
  hwInfoLinkSpeed : BitVec 32
  linkSpeed : BitVec 32
  mtu : BitVec 32
  autoneg : Bool
  pauseTx : Bool
  pauseRx : Bool

/-- `netdev_sim_construct` on zeroed memory -/
def HwNetdev.construct (name : String) : HwNetdev :=
  ⟨name, "", 0, "", 0, 0, 0, 1500, false, false, false⟩

/-- `strncpy(dst, src, n)` -/
def strncpy (src : String) (n : ℕ) : String := String.ofList (src.toList.take n)

variable (smap : SmapLib) (k : HwConstants)

/-- `netdev_sim_set_hw_intf_info`; the system call that sets the address has no effect on the
netdev. -/
def netdevSimSetHwIntfInfo (netdev : HwNetdev) (args : Smap) : HwNetdev :=
  { netdev with
    linuxIntfName := strncpy netdev.name 16
    hwInfoLinkSpeed := (args .maxSpeed).elim netdev.hwInfoLinkSpeed atoi
    hwAddrStr := (args .macAddr).elim netdev.hwAddrStr (strncpy · 18) }

/-- `get_interface_pause_config`: rx and tx. -/
def getInterfacePauseConfig (pauseCfg : String) : Bool × Bool :=
  if pauseCfg = k.pauseRx then (true, false)
  else if pauseCfg = k.pauseTx then (false, true)
  else if pauseCfg = k.pauseRxtx then (true, true)
  else (false, false)

/-- `netdev_sim_set_hw_intf_config` -/
def netdevSimSetHwIntfConfig (netdev : HwNetdev) (args : Smap) : HwNetdev :=
  if smap.getBool args .enable false then
    let (pauseRx, pauseTx) :=
      match args .pause with
      | some pause => getInterfacePauseConfig k pause
      | none => (netdev.pauseRx, netdev.pauseTx)
    { netdev with
      flags := netdev.flags ||| k.netdevUp
      linkState := 1
      linkSpeed := netdev.hwInfoLinkSpeed
      mtu := smap.getInt args .mtu 0
      autoneg := smap.getBool args .autoneg false
      pauseRx := pauseRx
      pauseTx := pauseTx }
  else
    { netdev with
      flags := netdev.flags &&& ~~~ k.netdevUp
      linkState := 0
      linkSpeed := 0
      mtu := 0
      autoneg := false
      pauseTx := false
      pauseRx := false }

/-- `*current` of `netdev_sim_get_features` -/
def netdevSimGetFeatures (netdev : HwNetdev) : BitVec 32 :=
  let speed : BitVec 32 :=
    if netdev.linkSpeed = 10 then k.f10mbFd
    else if netdev.linkSpeed = 100 then k.f100mbFd
    else if netdev.linkSpeed = 1000 then k.f1gbFd
    else if netdev.linkSpeed = 10000 then k.f10gbFd
    else if netdev.linkSpeed = 40000 then k.f40gbFd
    else if netdev.linkSpeed = 100000 then k.f100gbFd
    else 0
  let autoneg : BitVec 32 := if netdev.autoneg then k.fAutoneg else 0
  let pause : BitVec 32 :=
    if netdev.pauseTx ∧ netdev.pauseRx then k.fPause
    else if netdev.pauseRx then k.fPause ||| k.fPauseAsym
    else if netdev.pauseTx then k.fPauseAsym
    else 0
  speed ||| autoneg ||| pause

/-- `netdev_sim_update_flags`: `*old_flagsp`, or `none` for `EINVAL`. -/
def netdevSimUpdateFlags (netdev : HwNetdev) (off on : BitVec 32) : Option (BitVec 32) :=
  if (off ||| on) &&& ~~~ (k.netdevUp ||| k.netdevPromisc) ≠ 0 then none else some netdev.flags

/-- `netdev_sim_get_carrier` -/
def netdevSimGetCarrier (netdev : HwNetdev) : Bool := netdev.linkState ≠ 0

/-! ## Histories -/

inductive HwCall where
  | info (args : Smap)
  | config (args : Smap)

def HwNetdev.step (netdev : HwNetdev) : HwCall → HwNetdev
  | .info args => netdevSimSetHwIntfInfo netdev args
  | .config args => netdevSimSetHwIntfConfig smap k netdev args

/-- A new netdev after a history of calls. -/
def HwNetdev.after (name : String) (calls : List HwCall) : HwNetdev :=
  calls.foldl (HwNetdev.step smap k) (.construct name)

/-- Two netdevs are configured alike, and report the same. -/
structure ConfiguredAlike (netdev netdev' : HwNetdev) : Prop where
  flags : netdev.flags = netdev'.flags
  linkState : netdev.linkState = netdev'.linkState
  linkSpeed : netdev.linkSpeed = netdev'.linkSpeed
  mtu : netdev.mtu = netdev'.mtu
  autoneg : netdev.autoneg = netdev'.autoneg
  pauseRx : netdev.pauseRx = netdev'.pauseRx
  pauseTx : netdev.pauseTx = netdev'.pauseTx
  features : netdevSimGetFeatures k netdev = netdevSimGetFeatures k netdev'
  carrier : netdevSimGetCarrier netdev = netdevSimGetCarrier netdev'
  updateFlags : ∀ off on,
    netdevSimUpdateFlags k netdev off on = netdevSimUpdateFlags k netdev' off on

/-- The call says what the pause settings are: it disables the interface or has the key. -/
def SetsPause (args : Smap) : Prop :=
  smap.getBool args .enable false = true → (args .pause).isSome

variable {smap k} {netdev netdev' : HwNetdev}

/-- The reports depend on the settings only. -/
theorem ConfiguredAlike.of_settings (hflags : netdev.flags = netdev'.flags)
    (hstate : netdev.linkState = netdev'.linkState) (hspeed : netdev.linkSpeed = netdev'.linkSpeed)
    (hmtu : netdev.mtu = netdev'.mtu) (hautoneg : netdev.autoneg = netdev'.autoneg)
    (hrx : netdev.pauseRx = netdev'.pauseRx) (htx : netdev.pauseTx = netdev'.pauseTx) :
    ConfiguredAlike k netdev netdev' where
  flags := hflags
  linkState := hstate
  linkSpeed := hspeed
  mtu := hmtu
  autoneg := hautoneg
  pauseRx := hrx
  pauseTx := htx
  features := by simp only [netdevSimGetFeatures, hspeed, hautoneg, hrx, htx]
  carrier := by simp only [netdevSimGetCarrier, hstate]
  updateFlags off on := by simp only [netdevSimUpdateFlags, hflags]

/-- No call touches any other flag. -/
theorem flags_step (h : netdev.flags = 0 ∨ netdev.flags = k.netdevUp) (c : HwCall) :
    (netdev.step smap k c).flags = 0 ∨ (netdev.step smap k c).flags = k.netdevUp := by
  cases c with
  | info args => exact h
  | config args =>
    simp only [HwNetdev.step, netdevSimSetHwIntfConfig]
    split
    · right
      rcases h with h | h <;> simp [h]
    · left
      rcases h with h | h <;> simp [h]

theorem flags_after (name : String) (calls : List HwCall) :
    (HwNetdev.after smap k name calls).flags = 0 ∨
      (HwNetdev.after smap k name calls).flags = k.netdevUp := by
  have hrun : ∀ netdev : HwNetdev, (netdev.flags = 0 ∨ netdev.flags = k.netdevUp) →
      (calls.foldl (HwNetdev.step smap k) netdev).flags = 0 ∨
        (calls.foldl (HwNetdev.step smap k) netdev).flags = k.netdevUp := by
    induction calls with
    | nil => exact fun netdev h => h
    | cons c calls ih => exact fun netdev h => ih _ (flags_step h c)
  exact hrun _ (.inl rfl)

/-- Whatever the flag was, a call sets it as the interface is enabled or not. -/
theorem flags_config (h : netdev.flags = 0 ∨ netdev.flags = k.netdevUp) (args : Smap) :
    (netdevSimSetHwIntfConfig smap k netdev args).flags =
      if smap.getBool args .enable false then k.netdevUp else 0 := by
  rw [netdevSimSetHwIntfConfig]
  split
  · rcases h with h | h <;> simp [h]
  · rcases h with h | h <;> simp [h]

/-- After the same call two netdevs with the same speed are configured alike if and only if the call
sets the pause settings or they were the same before. -/
theorem hw_config_memoryless_iff (smap : SmapLib) (k : HwConstants) (name name' : String)
    (calls calls' : List HwCall) (args : Smap)
    (hspeed : (HwNetdev.after smap k name calls).hwInfoLinkSpeed =
      (HwNetdev.after smap k name' calls').hwInfoLinkSpeed) :
    ConfiguredAlike k (netdevSimSetHwIntfConfig smap k (.after smap k name calls) args)
        (netdevSimSetHwIntfConfig smap k (.after smap k name' calls') args) ↔
      SetsPause smap args ∨
        (HwNetdev.after smap k name calls).pauseRx = (HwNetdev.after smap k name' calls').pauseRx ∧
        (HwNetdev.after smap k name calls).pauseTx = (HwNetdev.after smap k name' calls').pauseTx := by
  have hflags : (netdevSimSetHwIntfConfig smap k (.after smap k name calls) args).flags =
      (netdevSimSetHwIntfConfig smap k (.after smap k name' calls') args).flags := by
    rw [flags_config (flags_after name calls), flags_config (flags_after name' calls')]
  rw [SetsPause]
  cases henable : smap.getBool args .enable false with
  | false =>
    refine iff_of_true ?_ (.inl nofun)
    apply ConfiguredAlike.of_settings hflags <;> simp [netdevSimSetHwIntfConfig, henable]
  | true =>
    cases hpause : args .pause with
    | some pause =>
      refine iff_of_true ?_ (.inl fun _ => rfl)
      apply ConfiguredAlike.of_settings hflags <;>
        simp [netdevSimSetHwIntfConfig, henable, hpause, hspeed]
    | none =>
      have hkeeps : ∀ netdev : HwNetdev,
          (netdevSimSetHwIntfConfig smap k netdev args).pauseRx = netdev.pauseRx ∧
            (netdevSimSetHwIntfConfig smap k netdev args).pauseTx = netdev.pauseTx := by
        intro netdev
        simp [netdevSimSetHwIntfConfig, henable, hpause]
      constructor
      · intro h
        have hrx := h.pauseRx
        have htx := h.pauseTx
        rw [(hkeeps _).1, (hkeeps _).1] at hrx
        rw [(hkeeps _).2, (hkeeps _).2] at htx
        exact .inr ⟨hrx, htx⟩
      · rintro (hsets | ⟨hrx, htx⟩)
        · exact absurd (hsets rfl) (by simp)
        · apply ConfiguredAlike.of_settings hflags <;>
            simp [netdevSimSetHwIntfConfig, henable, hpause, hspeed, hrx, htx]

/-- The constants of the headers. -/
def hwConstants : HwConstants :=
  ⟨1, 2, 2, 8, 32, 64, 128, 256, 4096, 8192, 16384, "rx", "tx", "rxtx"⟩

/-- The functions of the library on the values `true` and `false` and on numbers. -/
def smapLib : SmapLib where
  getBool args key default := (args key).elim default fun value => value = "true"
  getInt args key default := (args key).elim default atoi

def enabling (pause : Option String) : Smap
  | .enable => some "true"
  | .mtu => some "1500"
  | .pause => pause
  | _ => none

/-- The pause settings of the history are overwritten. -/
theorem hw_config_memoryless_of_pause :
    ConfiguredAlike hwConstants
      (netdevSimSetHwIntfConfig smapLib hwConstants
        (.after smapLib hwConstants "1" [.config (enabling (some "rxtx"))]) (enabling (some "tx")))
      (netdevSimSetHwIntfConfig smapLib hwConstants (.after smapLib hwConstants "2" [])
        (enabling (some "tx"))) :=
  (hw_config_memoryless_iff smapLib hwConstants "1" "2" [.config (enabling (some "rxtx"))] []
    (enabling (some "tx")) (by decide +kernel)).mpr (.inl fun _ => rfl)

/-- The pause settings survive a call without their key. -/
theorem pause_survives : ¬ ∀ (smap : SmapLib) (k : HwConstants) (name name' : String)
    (calls calls' : List HwCall) (args : Smap), (HwNetdev.after smap k name calls).hwInfoLinkSpeed =
      (HwNetdev.after smap k name' calls').hwInfoLinkSpeed →
    ConfiguredAlike k (netdevSimSetHwIntfConfig smap k (.after smap k name calls) args)
      (netdevSimSetHwIntfConfig smap k (.after smap k name' calls') args) := by
  intro h
  have hrx := (h smapLib hwConstants "1" "2" [.config (enabling (some "rxtx"))] [] (enabling none)
    (by decide +kernel)).pauseRx
  revert hrx
  decide +kernel

end ContainerPlugin.Netdev
