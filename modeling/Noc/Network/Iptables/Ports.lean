import Noc.Network.Iptables.Rules

/-!
# Opening ports

Which of the listed profiles `iptables_open_port_profiles` opens: the loop ends
at an enabled profile that lacks its protocol or its port range, so the place
of such a profile decides what becomes of the others.
-/

namespace Noc
namespace Network

/-- An enabled profile with a protocol and a port range. -/
def openable (profile : Iptable) : Bool :=
  profile.enable && profile.protocol.isSome && profile.portRange.isSome

/-- An enabled profile that lacks one of them. -/
def endsLoop (profile : Iptable) : Bool :=
  profile.enable && !(profile.protocol.isSome && profile.portRange.isSome)

/-- The rule a profile asks for by itself. -/
def acceptRule (profile : Iptable) : Option Rule :=
  if profile.enable then
    profile.protocol.bind fun protocol =>
      profile.portRange.map fun portRange =>
        [("-p", protocol), ("--dport", portRange)] ++
          optionalMatch "-s" profile.ipMask ++
          optionalMatch "-i" profile.interface ++ [("-j", "ACCEPT")]
  else none

/-- One rule for each profile that asks for one, in the order of the list. -/
def acceptCommands (profiles : List Iptable) : List IptablesCommand :=
  (profiles.filterMap acceptRule).map (.append .filter .input)

/-- Profiles the loop gets past. -/
def passed (profiles : List Iptable) : List Iptable :=
  profiles.takeWhile fun profile => !endsLoop profile

section

variable {profile : Iptable} {profiles later : List Iptable}

theorem acceptRule_eq_none_iff :
    acceptRule profile = none <-> openable profile = false := by
  unfold acceptRule openable
  cases profile.enable <;> cases profile.protocol <;> cases profile.portRange <;> simp

theorem acceptRule_of_endsLoop (h : endsLoop profile = true) :
    acceptRule profile = none := by
  rw [acceptRule_eq_none_iff]
  unfold endsLoop at h
  unfold openable
  rw [Bool.and_eq_true, Bool.not_eq_true'] at h
  rw [Bool.and_assoc, h.2, Bool.and_false]

theorem acceptCommands_cons (profile : Iptable) (later : List Iptable) :
    acceptCommands (profile :: later) =
      acceptCommands [profile] ++ acceptCommands later := by
  unfold acceptCommands
  rw [← List.map_append, ← List.filterMap_append]
  rfl

theorem acceptCommands_eq_nil_iff :
    acceptCommands profiles = [] <->
      forall profile, profile ∈ profiles -> openable profile = false := by
  unfold acceptCommands
  rw [List.map_eq_nil_iff, List.filterMap_eq_nil_iff]
  simp only [acceptRule_eq_none_iff]

/-- One profile: the loop ends, or the profile gets its own rule, if any. -/
theorem openPortProfiles_cons (profile : Iptable) (later : List Iptable) :
    iptablesOpenPortProfiles (profile :: later) =
      if endsLoop profile then []
      else acceptCommands [profile] ++ iptablesOpenPortProfiles later := by
  rw [iptablesOpenPortProfiles]
  unfold endsLoop acceptCommands acceptRule
  cases henable : profile.enable with
  | false => simp [henable]
  | true =>
      cases hprotocol : profile.protocol with
      | none => simp
      | some protocol =>
          cases hports : profile.portRange with
          | none => simp
          | some portRange => simp [henable, hprotocol, hports]

/-- The rules of the profiles up to the one that ends the loop. -/
theorem openPortProfiles_eq (profiles : List Iptable) :
    iptablesOpenPortProfiles profiles = acceptCommands (passed profiles) := by
  induction profiles with
  | nil => rfl
  | cons profile later ih =>
      rw [openPortProfiles_cons]
      unfold passed
      cases hends : endsLoop profile with
      | true =>
          rw [if_pos rfl, List.takeWhile_cons_of_neg (by simp [hends])]
          rfl
      | false =>
          rw [if_neg Bool.false_ne_true, List.takeWhile_cons_of_pos (by simp [hends]),
            acceptCommands_cons profile (later.takeWhile _), ih]
          rfl

theorem openPortProfiles_eq_iff :
    iptablesOpenPortProfiles profiles = acceptCommands profiles <->
      profiles.Pairwise fun earlier profile =>
        endsLoop earlier = true -> openable profile = false := by
  induction profiles with
  | nil => exact iff_of_true rfl List.Pairwise.nil
  | cons profile later ih =>
      rw [openPortProfiles_cons, acceptCommands_cons profile later, List.pairwise_cons]
      cases hends : endsLoop profile with
      | true =>
          -- Nothing behind this profile is opened.
          have hnone : acceptCommands [profile] = [] := by
            simp [acceptCommands, acceptRule_of_endsLoop hends]
          rw [if_pos rfl, hnone, List.nil_append, eq_comm, acceptCommands_eq_nil_iff]
          constructor
          · intro hclosed
            refine ⟨fun other hother _ => hclosed other hother, ?_⟩
            exact List.pairwise_of_forall_mem_list fun _ _ other hother _ =>
              hclosed other hother
          · intro h other hother
            exact h.1 other hother rfl
      | false =>
          rw [if_neg Bool.false_ne_true, List.append_cancel_left_eq, ih]
          exact (and_iff_right fun _ _ h => absurd h Bool.false_ne_true).symm

theorem openPortProfiles_append_iff :
    iptablesOpenPortProfiles (profiles ++ later) =
        iptablesOpenPortProfiles profiles ++ iptablesOpenPortProfiles later <->
      (forall profile, profile ∈ profiles -> endsLoop profile = false) ∨
        forall profile, profile ∈ passed later -> openable profile = false := by
  induction profiles with
  | nil => exact iff_of_true rfl (Or.inl fun _ h => absurd h List.not_mem_nil)
  | cons profile rest ih =>
      rw [List.cons_append, openPortProfiles_cons, openPortProfiles_cons,
        List.forall_mem_cons]
      cases hends : endsLoop profile with
      | true =>
          rw [if_pos rfl, if_pos rfl, List.nil_append, eq_comm, openPortProfiles_eq,
            acceptCommands_eq_nil_iff]
          exact (or_iff_right fun h => absurd h.1 (by decide)).symm
      | false =>
          rw [if_neg Bool.false_ne_true, if_neg Bool.false_ne_true, List.append_assoc,
            List.append_cancel_left_eq, ih, and_iff_right rfl]

end

/-- Every profile that asks for a rule gets its own when none stands behind one
that ends the loop; lists are opened one after the other when none that asks for
a rule follows one that ends it in an earlier list. -/
theorem opensEach_iff (profiles later : List Iptable) :
    (iptablesOpenPortProfiles profiles = acceptCommands profiles <->
        profiles.Pairwise fun earlier profile =>
          endsLoop earlier = true -> openable profile = false) ∧
      (iptablesOpenPortProfiles (profiles ++ later) =
          iptablesOpenPortProfiles profiles ++ iptablesOpenPortProfiles later <->
        (forall profile, profile ∈ profiles -> endsLoop profile = false) ∨
          forall profile, profile ∈ passed later -> openable profile = false) :=
  ⟨openPortProfiles_eq_iff, openPortProfiles_append_iff⟩

def portlessProfile : Iptable where
  protocol := some "tcp"
  enable := true

def webServerProfile : Iptable where
  protocol := some "tcp"
  portRange := some "80"
  enable := true

/-- A profile whose ports were left out closes the port of the next one. -/
theorem not_opensEach_of_portless :
    iptablesOpenPortProfiles [portlessProfile, webServerProfile] ≠
        acceptCommands [portlessProfile, webServerProfile] ∧
      iptablesOpenPortProfiles ([portlessProfile] ++ [webServerProfile]) ≠
        iptablesOpenPortProfiles [portlessProfile] ++
          iptablesOpenPortProfiles [webServerProfile] := by
  decide

end Network
end Noc
