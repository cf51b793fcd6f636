import Noc.Network.Dhcp.Apply
import Noc.Network.Iptables.Store
import Noc.Network.LanWan

/-!
# Setting the network up

`network_init` applies every network setting file anew.  Each switch of the
mode goes through it.
-/

namespace Noc
namespace Network

open Foundation
open Foundation.Exec

def networkInit : Daemon Unit := do
  dnsDhcpReloadFromSettingFile
  let _ <- iptablesRefresh
  let _ <- lanReloadFromSettingFile
  let _ <- wanReloadFromSettingFile
  return ()

/-- The stored DNS and DHCP configuration can be applied and released, and
every stored Nova service carries its ports. -/
structure NetworkReady (w : World) : Prop where
  applicable : Applicable (storedDnsDhcp w)
  releasable : Releasable (storedDnsDhcp w)
  carries : CarriesPortProfiles (storedNova w)

theorem respects_networkInit {rel : World -> World -> Prop}
    {touched : List DaemonFile} [KeptByHelpers rel touched] [KeptByUci rel]
    (hdhcp : .dhcpSetting ∈ touched) (hlan : .lanSetting ∈ touched)
    (hwan : .wanSetting ∈ touched) : Respects rel networkInit :=
  respects_bind (respects_dnsDhcpReloadFromSettingFile hdhcp) fun _ =>
    respects_bind respects_iptablesRefresh fun _ =>
      respects_bind (respects_lanReloadFromSettingFile hlan) fun _ =>
        respects_bind (respects_wanReloadFromSettingFile hwan) fun _ =>
          respects_pure _

theorem returns_networkInit {w : World} (h : Healthy w.files) :
    wp networkInit (fun _ _ => True) w <-> NetworkReady w := by
  have hdhcp : Respects (Beside [.dhcpSetting]) dnsDhcpReloadFromSettingFile :=
    respects_dnsDhcpReloadFromSettingFile List.mem_cons_self
  have hsplit : wp networkInit (fun _ _ => True) w <->
      (Applicable (storedDnsDhcp w) ∧ Releasable (storedDnsDhcp w)) ∧
        CarriesPortProfiles (storedNova w) := by
    apply wp_bind_iff_of_respects hdhcp (returns_dnsDhcpReloadFromSettingFile h)
    intro _ w' hbeside
    have hnova : storedNova w' = storedNova w := by
      unfold storedNova
      rw [hbeside.json_eq (by simp)]
    have hw' := hbeside.healthy h
    have hrefreshed : Healthy { w' with firewall := rebuild w' }.files := hw'
    rw [wp_bind, wp_iptablesRefresh hw', hnova, and_iff_left_iff_imp]
    intro _
    rw [wp_bind, wp_of_run (run_lanReloadFromSettingFile hrefreshed), wp_bind]
    have happlied : Healthy
        (lanApplied (storedLan { w' with firewall := rebuild w' })
          { w' with firewall := rebuild w' }).files :=
      hrefreshed.store _ _
    rw [wp_of_run (run_wanReloadFromSettingFile happlied)]
    trivial
  constructor
  · intro hready
    rcases hsplit.mp hready with ⟨⟨happlicable, hreleasable⟩, hcarries⟩
    exact ⟨happlicable, hreleasable, hcarries⟩
  · intro hready
    exact hsplit.mpr
      ⟨⟨hready.applicable, hready.releasable⟩, hready.carries⟩

end Network
end Noc
