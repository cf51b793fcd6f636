import Noc.Api.ErrorCode
import Noc.World

/-!
# LAN and WAN settings

The two records of `core/network/lan/lan.c` and `core/network/wan/wan.c` with
their codecs, and the operations that set them in UCI and keep them in their
setting files.
-/

namespace Noc
namespace Network

open Api
open Foundation
open Foundation.Exec
open Foundation.Json
open Utils

structure Lan where
  bridgeApMode : Bool := false
  proto : Option String := none
  ipaddr : Option String := none
  netmask : Option String := none
  deriving DecidableEq, Repr

structure Wan where
  proto : Option String := none
  ipaddr : Option String := none
  deriving DecidableEq, Repr

/-!
## Codecs
-/

def cvtLanToJson (lan : Lan) : Json :=
  mkObject
    [("bridge_ap_mode", ofBool lan.bridgeApMode),
     ("proto", ofString lan.proto),
     ("ipaddr", ofString lan.ipaddr),
     ("netmask", ofString lan.netmask)]

def cvtJsonToLan (json : Option Json) : Lan :=
  { bridgeApMode := readTrue json "bridge_ap_mode"
    proto := readString json "proto"
    ipaddr := readString json "ipaddr"
    netmask := readString json "netmask" }

def cvtWanToJson (wan : Wan) : Json :=
  mkObject
    [("proto", ofString wan.proto),
     ("ipaddr", ofString wan.ipaddr)]

def cvtJsonToWan (json : Option Json) : Wan :=
  { proto := readString json "proto"
    ipaddr := readString json "ipaddr" }

@[simp] theorem cvtJsonToLan_cvtLanToJson (lan : Lan) :
    cvtJsonToLan (some (cvtLanToJson lan)) = lan := by
  simp [cvtJsonToLan, cvtLanToJson, readString, readTrue]

@[simp] theorem cvtJsonToWan_cvtWanToJson (wan : Wan) :
    cvtJsonToWan (some (cvtWanToJson wan)) = wan := by
  simp [cvtJsonToWan, cvtWanToJson, readString]

/-!
## LAN
-/

def lanGetFromLanSettingFile : Daemon (ErrorCode × Lan) := do
  let json <- readJson .lanSetting
  return (.success, cvtJsonToLan json)

def lanSaveToSettingFile (lan : Lan) : Daemon ErrorCode := do
  let ret <- writeJson (cvtLanToJson lan) .lanSetting
  return if ret = -1 then .internalServer else .success

/-- In bridge mode an address obtained by DHCP is not set. -/
def lanCommands (lan : Lan) : List UciCommand :=
  if lan.bridgeApMode && appStrstr lan.proto (some "dhcp") then
    [.set "network.lan.proto" (some "dhcp")]
  else
    [.set "network.lan.ipaddr" lan.ipaddr,
     .set "network.lan.netmask" lan.netmask,
     .set "network.lan.proto" lan.proto]

def lanSet (lan : Lan) : Daemon ErrorCode := do
  appUci (lanCommands lan)
  let err <- lanSaveToSettingFile lan
  if err ≠ .success then return err
  else
    appUci [.commit "network"]
    return .success

def lanGet : Daemon (ErrorCode × Lan) :=
  lanGetFromLanSettingFile

def lanReloadFromSettingFile : Daemon ErrorCode := do
  let (err, lan) <- lanGetFromLanSettingFile
  if err ≠ .success then return err else lanSet lan

/-!
## WAN
-/

def wanGetFromSettingFile : Daemon (ErrorCode × Wan) := do
  let json <- readJson .wanSetting
  return (.success, cvtJsonToWan json)

def wanSaveToSettingFile (wan : Wan) : Daemon ErrorCode := do
  let ret <- writeJson (cvtWanToJson wan) .wanSetting
  return if ret = -1 then .internalServer else .success

def wanSet (wan : Wan) : Daemon ErrorCode := do
  appUci
    [.set "network.wan.proto" wan.proto,
     .set "network.wan.ipaddr" wan.ipaddr]
  let err <- wanSaveToSettingFile wan
  if err ≠ .success then return err
  else
    appUci [.commit "network"]
    return .success

def wanGet : Daemon (ErrorCode × Wan) :=
  wanGetFromSettingFile

def wanReloadFromSettingFile : Daemon ErrorCode := do
  let (err, wan) <- wanGetFromSettingFile
  if err ≠ .success then return err else wanSet wan

/-!
## Results on a healthy file system
-/

section

variable {w : World}

def storedLan (w : World) : Lan :=
  cvtJsonToLan (w.json .lanSetting)

def storedWan (w : World) : Wan :=
  cvtJsonToWan (w.json .wanSetting)

def lanApplied (lan : Lan) (w : World) : World :=
  ((w.runUci (lanCommands lan)).storeJson .lanSetting (cvtLanToJson lan)).runUci
    [.commit "network"]

def wanApplied (wan : Wan) (w : World) : World :=
  ((w.runUci
      [.set "network.wan.proto" wan.proto,
       .set "network.wan.ipaddr" wan.ipaddr]).storeJson .wanSetting
    (cvtWanToJson wan)).runUci [.commit "network"]

theorem run_lanGetFromLanSettingFile (h : Healthy w.files) :
    lanGetFromLanSettingFile w = .ok ((.success, storedLan w), w) := by
  apply run_of_wp
  unfold lanGetFromLanSettingFile
  rw [wp_bind, wp_readJson h rfl]
  exact ⟨rfl, rfl⟩

theorem run_wanGetFromSettingFile (h : Healthy w.files) :
    wanGetFromSettingFile w = .ok ((.success, storedWan w), w) := by
  apply run_of_wp
  unfold wanGetFromSettingFile
  rw [wp_bind, wp_readJson h rfl]
  exact ⟨rfl, rfl⟩

theorem run_lanSet (h : Healthy w.files) (lan : Lan) :
    lanSet lan w = .ok (.success, lanApplied lan w) := by
  apply run_of_wp
  unfold lanSet appUci lanSaveToSettingFile
  rw [wp_bind, wp_modify, wp_bind, wp_bind,
    wp_writeJson (w := w.runUci (lanCommands lan)) h]
  exact ⟨rfl, rfl⟩

theorem run_wanSet (h : Healthy w.files) (wan : Wan) :
    wanSet wan w = .ok (.success, wanApplied wan w) := by
  apply run_of_wp
  unfold wanSet appUci wanSaveToSettingFile
  rw [wp_bind, wp_modify, wp_bind, wp_bind,
    wp_writeJson (w := w.runUci [.set "network.wan.proto" wan.proto,
      .set "network.wan.ipaddr" wan.ipaddr]) h]
  exact ⟨rfl, rfl⟩

theorem run_lanReloadFromSettingFile (h : Healthy w.files) :
    lanReloadFromSettingFile w =
      .ok (.success, lanApplied (storedLan w) w) := by
  apply run_of_wp
  unfold lanReloadFromSettingFile
  rw [wp_bind, wp_of_run (run_lanGetFromLanSettingFile h)]
  exact (wp_of_run (run_lanSet h _) _).mpr ⟨rfl, rfl⟩

theorem run_wanReloadFromSettingFile (h : Healthy w.files) :
    wanReloadFromSettingFile w =
      .ok (.success, wanApplied (storedWan w) w) := by
  apply run_of_wp
  unfold wanReloadFromSettingFile
  rw [wp_bind, wp_of_run (run_wanGetFromSettingFile h)]
  exact (wp_of_run (run_wanSet h _) _).mpr ⟨rfl, rfl⟩

end

/-!
## What the settings leave alone
-/

section

variable {rel : World -> World -> Prop} {touched : List DaemonFile}
  [KeptByHelpers rel touched] [KeptByUci rel]

theorem respects_lanReloadFromSettingFile (hlan : .lanSetting ∈ touched) :
    Respects rel lanReloadFromSettingFile := by
  apply respects_bind
  · exact respects_bind (respects_readJson rfl) fun _ => respects_pure _
  · intro lan
    refine respects_ite (respects_pure _) ?_
    refine respects_bind (respects_appUci _) ?_
    intro _
    apply respects_bind
    · exact respects_bind (respects_writeJson hlan _) fun _ => respects_pure _
    · intro err
      exact respects_ite (respects_pure _)
        (respects_bind (respects_appUci _) fun _ => respects_pure _)

theorem respects_wanReloadFromSettingFile (hwan : .wanSetting ∈ touched) :
    Respects rel wanReloadFromSettingFile := by
  apply respects_bind
  · exact respects_bind (respects_readJson rfl) fun _ => respects_pure _
  · intro wan
    refine respects_ite (respects_pure _) ?_
    refine respects_bind (respects_appUci _) ?_
    intro _
    apply respects_bind
    · exact respects_bind (respects_writeJson hwan _) fun _ => respects_pure _
    · intro err
      exact respects_ite (respects_pure _)
        (respects_bind (respects_appUci _) fun _ => respects_pure _)

end

end Network
end Noc
