import Noc.Mesh.EmtCmd

/-!
# What is sent to the mesh daemon

When `create_cmd` reads its tables inside and returns the listed words.  Every
table but one has as many entries as its limit says, and every entry but one has
the label of its index.
-/

namespace Noc
namespace Mesh

open Api

/-- The line of the section's word and the word listed for the action. -/
def Listed (section_ : Section) (action : Int32) (args : Option String)
    (cmd : String) : Prop :=
  exists sectionCmd mapping, ⟨section_, sectionCmd⟩ ∈ sectionMappingCmd ∧
    mapping ∈ section_.actions ∧ (mapping.action : Int) = action.toInt ∧
    cmd = sectionCmd ++ " " ++ mapping.actionCmd ++
      (args.elim "" fun args => " " ++ args) ++ "\n" ∧
    cmd.utf8ByteSize <= 199

structure CreatesListed (section_ : Section) (action : Int32)
    (args : Option String) : Prop where
  inside : createCmd section_ action args ≠ .error .outsideTable
  returned : createCmd section_ action args = .ok none ∨
    exists cmd, createCmd section_ action args = .ok (some cmd) ∧
      Listed section_ action args cmd
  labelled : forall mapping, 0 <= action.toInt ->
    section_.actions[action.toInt.toNat]? = some mapping ->
      (mapping.action : Int) = action.toInt

/-- The room that the words of a section and an action take. -/
def wordsSize (section_ : Section) (index : Nat) : Nat :=
  (sectionMappingCmd[section_.ctorIdx]?.elim 0 fun mapping =>
      mapping.sectionCmd.utf8ByteSize) +
    section_.actions[index]?.elim 0 fun mapping => mapping.actionCmd.utf8ByteSize

/-- The action is an index of the table, not the second of the debug table, and
there is room for the arguments. -/
structure Sendable (section_ : Section) (action : Int32) (args : Option String) :
    Prop where
  nonneg : 0 <= action.toInt
  index : action.toInt.toNat < section_.actions.length
  label : ¬ (section_ = .debug ∧ action.toInt = 1)
  room : wordsSize section_ action.toInt.toNat +
    (args.elim 0 fun args => args.utf8ByteSize + 1) <= 197

/-!
## The tables
-/

section

variable {section_ : Section} {mapping : ActionMapping} {index : Nat}

/-- The sections are listed in the order of their enumeration. -/
theorem exists_sectionMapping (h : section_ ≠ .max) :
    exists sectionCmd,
      sectionMappingCmd[section_.ctorIdx]? = some ⟨section_, sectionCmd⟩ := by
  cases section_ with
  | max => exact absurd rfl h
  | _ => exact ⟨_, rfl⟩

theorem limit_eq_length_iff (section_ : Section) :
    section_.limit = section_.actions.length <-> section_ ≠ .servicePriority := by
  cases section_ <;> decide

/-- No table is longer than its limit. -/
theorem length_le_limit (section_ : Section) :
    section_.actions.length <= section_.limit := by
  cases section_ <;> decide

theorem map_action_actions (section_ : Section) :
    section_.actions.map ActionMapping.action =
        List.range section_.actions.length <->
      section_ ≠ .debug := by
  cases section_ <;> decide

/-- An entry has the label of its index, the second debug entry apart. -/
theorem action_eq_iff (h : section_.actions[index]? = some mapping) :
    mapping.action = index <-> ¬ (section_ = .debug ∧ index = 1) := by
  by_cases hdebug : section_ = .debug
  · subst hdebug
    match index with
    | 0 =>
        cases h
        exact iff_of_true rfl fun heq => absurd heq.2 Nat.zero_ne_one
    | 1 =>
        cases h
        exact iff_of_false Nat.zero_ne_one fun hne => hne ⟨rfl, rfl⟩
    | index + 2 => cases h
  · have hlabels := (map_action_actions section_).mpr hdebug
    have hlabel := congrArg (fun labels => labels[index]?) hlabels
    rw [List.getElem?_map, h] at hlabel
    have hbound := (List.getElem?_eq_some_iff.mp h).1
    rw [List.getElem?_range hbound, Option.map_some, Option.some_inj] at hlabel
    exact iff_of_true hlabel fun heq => hdebug heq.1

end

/-!
## The command
-/

def cmdLine (sectionCmd actionCmd : String) (args : Option String) : String :=
  sectionCmd ++ " " ++ actionCmd ++ (args.elim "" fun args => " " ++ args) ++ "\n"

section

variable {section_ : Section} {action : Int32} {args : Option String}
  {mapping : ActionMapping} {sectionCmd actionCmd : String}

theorem join_cmdPieces (sectionCmd actionCmd : String) (args : Option String) :
    String.join (cmdPieces sectionCmd actionCmd args) =
      cmdLine sectionCmd actionCmd args := by
  unfold cmdPieces cmdLine
  cases args with
  | none =>
      simp only [Option.toList_none, List.flatMap_nil, List.append_nil, Option.elim_none,
        String.join_append, String.join_cons, String.join_nil, String.append_empty,
        String.append_assoc]
  | some args =>
      simp only [Option.toList_some, List.flatMap_cons, List.flatMap_nil, List.append_nil,
        Option.elim_some, String.join_append, String.join_cons, String.join_nil,
        String.append_empty, String.append_assoc]

theorem utf8ByteSize_cmdLine (sectionCmd actionCmd : String) (args : Option String) :
    (cmdLine sectionCmd actionCmd args).utf8ByteSize =
      sectionCmd.utf8ByteSize + actionCmd.utf8ByteSize +
        (args.elim 0 fun args => args.utf8ByteSize + 1) + 2 := by
  have hspace : " ".utf8ByteSize = 1 := by decide
  have hnewline : "\n".utf8ByteSize = 1 := by decide
  unfold cmdLine
  cases args with
  | none =>
      simp only [Option.elim_none, String.utf8ByteSize_append, String.utf8ByteSize_empty]
      omega
  | some args =>
      simp only [Option.elim_some, String.utf8ByteSize_append]
      omega

theorem actionCmd_refused (h : (section_.limit : Int) <= action.toInt) :
    section_.actionCmd action = .ok none := by
  unfold Section.actionCmd
  rw [if_pos h]

theorem actionCmd_outside (hlimit : ¬ (section_.limit : Int) <= action.toInt)
    (h : action.toInt < 0 ∨ section_.actions.length <= action.toInt.toNat) :
    section_.actionCmd action = .error .outsideTable := by
  unfold Section.actionCmd
  rw [if_neg hlimit]
  split
  · rfl
  · rename_i hnonneg
    rw [List.getElem?_eq_none (h.resolve_left hnonneg)]

theorem actionCmd_listed (hnonneg : 0 <= action.toInt)
    (h : section_.actions[action.toInt.toNat]? = some mapping) :
    section_.actionCmd action = .ok (some mapping.actionCmd) := by
  have hbound := (List.getElem?_eq_some_iff.mp h).1
  have hlength := length_le_limit section_
  unfold Section.actionCmd
  rw [if_neg (by omega), if_neg (by omega), h]

theorem createCmd_max (action : Int32) (args : Option String) :
    createCmd .max action args = .ok none := rfl

/-- What becomes of the outcome of a section's case. -/
theorem createCmd_eq (hsection : section_ ≠ .max)
    (hword : sectionMappingCmd[section_.ctorIdx]? = some ⟨section_, sectionCmd⟩) :
    createCmd section_ action args =
      match section_.actionCmd action with
      | .error fault => .error fault
      | .ok none => .ok none
      | .ok (some actionCmd) =>
          if (cmdLine sectionCmd actionCmd args).utf8ByteSize < cmdLength then
            .ok (some (cmdLine sectionCmd actionCmd args))
          else .error .outsideBuffer := by
  have hinside : ¬ Section.max.ctorIdx <= section_.ctorIdx := by
    revert hsection
    cases section_ <;> decide
  unfold createCmd
  rw [if_neg hinside, hword]
  cases section_.actionCmd action with
  | error fault => rfl
  | ok outcome =>
      cases outcome with
      | none => rfl
      | some actionCmd =>
          dsimp only
          rw [foldlM_strcat_eq (by decide), String.empty_append, join_cmdPieces]
          by_cases hfits : (cmdLine sectionCmd actionCmd args).utf8ByteSize < cmdLength
          · rw [if_pos hfits, if_pos hfits]
          · rw [if_neg hfits, if_neg hfits]

theorem createCmd_refused (h : (section_.limit : Int) <= action.toInt) :
    createCmd section_ action args = .ok none := by
  by_cases hsection : section_ = .max
  · rw [hsection, createCmd_max]
  · rcases exists_sectionMapping hsection with ⟨sectionCmd, hword⟩
    rw [createCmd_eq hsection hword, actionCmd_refused h]

theorem createCmd_outside (hsection : section_ ≠ .max)
    (hlimit : ¬ (section_.limit : Int) <= action.toInt)
    (h : action.toInt < 0 ∨ section_.actions.length <= action.toInt.toNat) :
    createCmd section_ action args = .error .outsideTable := by
  rcases exists_sectionMapping hsection with ⟨sectionCmd, hword⟩
  rw [createCmd_eq hsection hword, actionCmd_outside hlimit h]

/-- An action in the table: its word is appended if there is room. -/
theorem createCmd_listed (hsection : section_ ≠ .max) (hnonneg : 0 <= action.toInt)
    (hword : sectionMappingCmd[section_.ctorIdx]? = some ⟨section_, sectionCmd⟩)
    (h : section_.actions[action.toInt.toNat]? = some mapping) :
    createCmd section_ action args =
      if wordsSize section_ action.toInt.toNat +
          (args.elim 0 fun args => args.utf8ByteSize + 1) <= 197 then
        .ok (some (cmdLine sectionCmd mapping.actionCmd args))
      else .error .outsideBuffer := by
  have hsize := utf8ByteSize_cmdLine sectionCmd mapping.actionCmd args
  have hwords : wordsSize section_ action.toInt.toNat =
      sectionCmd.utf8ByteSize + mapping.actionCmd.utf8ByteSize := by
    unfold wordsSize
    rw [hword, h]
    rfl
  have hroom : (cmdLine sectionCmd mapping.actionCmd args).utf8ByteSize < cmdLength <->
      wordsSize section_ action.toInt.toNat +
        (args.elim 0 fun args => args.utf8ByteSize + 1) <= 197 := by
    unfold cmdLength
    omega
  rw [createCmd_eq hsection hword, actionCmd_listed hnonneg h]
  simp only [hroom]

/-- A command that is refused where the table has no entry. -/
theorem createsListed_of_refused (hrefused : createCmd section_ action args = .ok none)
    (hlength : section_.actions.length <= action.toInt.toNat) :
    CreatesListed section_ action args where
  inside := by
    rw [hrefused]
    intro h
    cases h
  returned := Or.inl hrefused
  labelled := by
    intro mapping _ hentry
    have hbound := (List.getElem?_eq_some_iff.mp hentry).1
    omega

theorem createsListed_of_sendable (hsection : section_ ≠ .max)
    (h : Sendable section_ action args) : CreatesListed section_ action args := by
  rcases exists_sectionMapping hsection with ⟨sectionCmd, hword⟩
  rcases h with ⟨hnonneg, hindex, hlabel, hroom⟩
  have hentry := List.getElem?_eq_getElem hindex
  have hcreated : createCmd section_ action args = _ :=
    createCmd_listed hsection hnonneg hword hentry
  rw [if_pos hroom] at hcreated
  have hindexed : section_.actions[action.toInt.toNat].action = action.toInt.toNat := by
    rw [action_eq_iff hentry]
    rintro ⟨hdebug, hone⟩
    exact hlabel ⟨hdebug, by omega⟩
  refine ⟨?_, Or.inr ⟨_, hcreated, ?_⟩, ?_⟩
  · rw [hcreated]
    intro h
    cases h
  · have hwords : wordsSize section_ action.toInt.toNat =
        sectionCmd.utf8ByteSize +
          section_.actions[action.toInt.toNat].actionCmd.utf8ByteSize := by
      unfold wordsSize
      rw [hword, hentry]
      rfl
    refine ⟨sectionCmd, _, List.mem_of_getElem? hword, List.getElem_mem hindex, ?_, rfl, ?_⟩
    · omega
    · rw [utf8ByteSize_cmdLine]
      omega
  · intro mapping _ hmapping
    rw [hentry, Option.some_inj] at hmapping
    rw [← hmapping]
    omega

theorem sendable_of_createsListed (hsection : section_ ≠ .max)
    (hlimit : ¬ (section_.limit : Int) <= action.toInt)
    (h : CreatesListed section_ action args) : Sendable section_ action args := by
  rcases exists_sectionMapping hsection with ⟨sectionCmd, hword⟩
  have hinside : ¬ (action.toInt < 0 ∨ section_.actions.length <= action.toInt.toNat) :=
    fun houtside => h.inside (createCmd_outside hsection hlimit houtside)
  have hnonneg : 0 <= action.toInt := by omega
  have hindex : action.toInt.toNat < section_.actions.length := by omega
  have hentry := List.getElem?_eq_getElem hindex
  have hlabel := h.labelled _ hnonneg hentry
  have hcreated : createCmd section_ action args = _ :=
    createCmd_listed hsection hnonneg hword hentry
  refine ⟨hnonneg, hindex, ?_, ?_⟩
  · rintro ⟨hdebug, hone⟩
    have hindexed := (action_eq_iff hentry).mp (by omega)
    exact hindexed ⟨hdebug, by omega⟩
  · by_contra hroom
    rw [if_neg hroom] at hcreated
    rcases h.returned with hrefused | ⟨cmd, hreturned, _⟩
    · rw [hcreated] at hrefused
      cases hrefused
    · rw [hcreated] at hreturned
      cases hreturned

/-- Every section, action and argument text: the command is refused or it is the
listed one exactly when the section or the action is past its limit or the
command can be sent. -/
theorem createsListed_iff (section_ : Section) (action : Int32)
    (args : Option String) :
    CreatesListed section_ action args <->
      section_ = .max ∨ (section_.limit : Int) <= action.toInt ∨
        Sendable section_ action args := by
  by_cases hsection : section_ = .max
  · subst hsection
    exact iff_of_true (createsListed_of_refused (createCmd_max _ _) (Nat.zero_le _))
      (Or.inl rfl)
  by_cases hlimit : (section_.limit : Int) <= action.toInt
  · have hlength := length_le_limit section_
    exact iff_of_true (createsListed_of_refused (createCmd_refused hlimit) (by omega))
      (Or.inr (Or.inl hlimit))
  rw [or_iff_right hsection, or_iff_right hlimit]
  exact ⟨sendable_of_createsListed hsection hlimit, createsListed_of_sendable hsection⟩

end

/-- A service priority past the table, but below the number of sections. -/
theorem not_createsListed_of_servicePriority :
    ¬ forall (section_ : Section) (action : Int32) (args : Option String),
      CreatesListed section_ action args := by
  intro h
  exact (h .servicePriority 6 none).inside (by decide)

end Mesh
end Noc
