import Noc.Network.Dhcp.Apply

/-!
# Listing leases

`dhcp_lease_get` makes room for an entry for each line of the lease file, fills
in the leases among them, and counts one less than the lines: it takes for
granted that one line, the server's own, is no lease.
-/

namespace Noc
namespace Network

open Api
open Foundation
open Foundation.Exec
open Utils

/-- At least four fields, the first of which is not `duid`. -/
def isLease (line : String) : Bool :=
  4 <= (strtok ' ' line).length && (strtok ' ' line).head? != some "duid"

structure Describes (line : String) (entry : DhcpInfo) : Prop where
  mac : entry.mac = (strtok ' ' line)[1]?
  ip : entry.ip = (strtok ' ' line)[2]?
  hostName : entry.hostName = (strtok ' ' line)[3]?

/-- One entry for each line that is a lease, in the order of the lines. -/
def OneEntryEach (lines : List String) (entries : List DhcpInfo) : Prop :=
  List.Forall₂ Describes (lines.filter isLease) entries

/-- The lines of the lease file; there are none when it cannot be opened. -/
def leaseLines (w : World) : List String :=
  ((opened .dhcpLease w.files).map Body.lines).getD []

/-- The leases, and only them, are listed. -/
def ListsLeases (w : World) : Prop :=
  wp dhcpLeaseGet
    (fun answer _ => answer.1 = .success ∧ OneEntryEach (leaseLines w) answer.2) w

section

variable {lines : List String} {line : String} {w : World}

/-- The leases of some lines. -/
def leasesIn (lines : List String) : List DhcpInfo :=
  lines.filterMap fun line => leaseOfFields (strtok ' ' line)

theorem leaseOfFields_of_lease (h : isLease line = true) :
    exists entry, leaseOfFields (strtok ' ' line) = some entry ∧
      Describes line entry := by
  unfold isLease at h
  rw [Bool.and_eq_true, decide_eq_true_eq, bne_iff_ne] at h
  rcases hfields : strtok ' ' line with
    _ | ⟨timestamp, _ | ⟨mac, _ | ⟨ip, _ | ⟨host, rest⟩⟩⟩⟩
  case cons.cons.cons.cons =>
    have hduid : timestamp ≠ "duid" := by
      intro heq
      rw [hfields, heq] at h
      exact h.2 rfl
    refine ⟨_, if_neg hduid, ?_⟩
    constructor <;> rw [hfields] <;> rfl
  all_goals
    rw [hfields] at h
    exact absurd h.1 (by simp)

theorem leaseOfFields_of_not_lease (h : isLease line = false) :
    leaseOfFields (strtok ' ' line) = none := by
  unfold isLease at h
  rcases hfields : strtok ' ' line with
    _ | ⟨timestamp, _ | ⟨mac, _ | ⟨ip, _ | ⟨host, rest⟩⟩⟩⟩
  case cons.cons.cons.cons =>
    have hduid : timestamp = "duid" := by
      simpa [hfields] using h
    exact if_pos hduid
  all_goals rfl

theorem oneEntryEach_leasesIn (lines : List String) :
    OneEntryEach lines (leasesIn lines) := by
  unfold OneEntryEach leasesIn
  induction lines with
  | nil => exact List.Forall₂.nil
  | cons line rest ih =>
      cases hline : isLease line with
      | true =>
          rcases leaseOfFields_of_lease hline with ⟨entry, hentry, hdescribes⟩
          rw [List.filter_cons_of_pos hline, List.filterMap_cons, hentry]
          exact List.Forall₂.cons hdescribes ih
      | false =>
          rw [List.filter_cons_of_neg (by rw [hline]; exact Bool.false_ne_true),
            List.filterMap_cons, leaseOfFields_of_not_lease hline]
          exact ih

/-- The entries of the answer are the leases when one line is none. -/
theorem oneEntryEach_leasesOfLines_iff (hlines : lines ≠ []) :
    OneEntryEach lines (leasesOfLines lines) <->
      (lines.filter fun line => !isLease line).length = 1 := by
  have hpos := List.length_pos_of_ne_nil hlines
  have hleases : (lines.filter isLease).length = (leasesIn lines).length :=
    (oneEntryEach_leasesIn lines).length_eq
  have hsplit := List.length_eq_length_filter_add isLease (l := lines)
  constructor
  · intro h
    have hlength := h.length_eq
    unfold leasesOfLines at hlength
    rw [List.length_take, List.length_append, List.length_replicate] at hlength
    change (lines.filter isLease).length = min (lines.length - 1)
      ((leasesIn lines).length + (lines.length - (leasesIn lines).length)) at hlength
    omega
  · intro hone
    have htake : leasesOfLines lines = leasesIn lines := by
      show (leasesIn lines ++ _).take (lines.length - 1) = _
      have hlength : lines.length - 1 = (leasesIn lines).length := by omega
      rw [hlength, List.take_left]
    rw [htake]
    exact oneEntryEach_leasesIn lines

/-- The answer lists the leases when exactly one line of the file is none, or the
file has no lines. -/
theorem listsLeases_iff (hfree : w.files.locked = false) :
    ListsLeases w <->
      leaseLines w = [] ∨
        ((leaseLines w).filter fun line => !isLease line).length = 1 := by
  unfold ListsLeases dhcpLeaseGet readLines onFiles readLine
  rw [wp_bind, wp_zoom, wp_bind, wp_readData, and_iff_right hfree]
  unfold leaseLines
  cases opened .dhcpLease w.files with
  | none => exact iff_of_true ⟨rfl, List.Forall₂.nil⟩ (Or.inl rfl)
  | some body =>
      rw [Option.map_some, Option.getD_some]
      by_cases hlines : body.lines = []
      · have hempty : OneEntryEach body.lines [] := by
          rw [hlines]
          exact List.Forall₂.nil
        refine iff_of_true ?_ (Or.inl hlines)
        simp only [wp_pure, if_pos hlines]
        exact ⟨trivial, hempty⟩
      · rw [or_iff_right hlines, ← oneEntryEach_leasesOfLines_iff hlines]
        simp only [wp_pure, if_neg hlines]
        exact and_iff_right trivial

end

/-!
## A file without the server's line
-/

def leaseFile (content : String) : World :=
  World.installed.storeText .dhcpLease content

theorem leaseLines_leaseFile (content : String) :
    leaseLines (leaseFile content) = strtok '\n' content := rfl

theorem listsLeases_withDuid : ListsLeases (leaseFile "duid 1\n1 m i h\n") := by
  refine (listsLeases_iff rfl).mpr (Or.inr ?_)
  rw [leaseLines_leaseFile]
  decide +kernel

/-- The only lease of the file is left out. -/
theorem not_listsLeases_withoutDuid : ¬ ListsLeases (leaseFile "1 m i h\n") := by
  intro h
  have hentries : OneEntryEach (leaseLines (leaseFile "1 m i h\n"))
      (leasesOfLines (leaseLines (leaseFile "1 m i h\n"))) := h.2
  have hone := (oneEntryEach_leasesOfLines_iff (by
    rw [leaseLines_leaseFile]
    decide +kernel)).mp hentries
  rw [leaseLines_leaseFile] at hone
  exact absurd hone (by decide +kernel)

end Network
end Noc
