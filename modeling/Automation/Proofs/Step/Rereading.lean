import Automation.Proofs.Step.Showing

/-!
# Steps that were read are read again

What is read of a value can be written down, and it is read again from there (`Rereads`): values are taken
leniently once, and what comes of it is left as it is. A field is found again under whichever of its names
it was written, and a field that is left out means the same as null (`Members.holds_of_mem`). So a step is
read again from each of the documents it is written as.

Main statement: `Step.rereads_dump`.
-/

namespace Automation

variable {α : Type} {read : Json → Checked α} {write : α → Json} {a missing : α}

/-- What a value is read as is read again from what it is written as. -/
def Rereads (read : Json → Checked α) (write : α → Json) : Prop :=
  ∀ value a, read value = .valid a → read (write a) = .valid a

/-! ### Fields -/

namespace Members

variable {members others : Members} {names : List String} {value : Json}

/-- A field that may be missing is read again. -/
theorem optional_reread (hread : Rereads read write) (hmissing : read (write missing) = .valid missing)
    (hnull : write a = .null → missing = a) (h : members.optional names missing read = .valid a)
    (hholds : others.Holds names (write a)) : others.optional names missing read = .valid a := by
  have hagain : read (write a) = .valid a := by
    rcases optional_eq_valid.1 h with ⟨-, rfl⟩ | ⟨name, value, -, hvalue⟩
    · exact hmissing
    · exact hread value a hvalue
  exact optional_of_holds hholds hagain hnull

/-- A field that must be there is read again. -/
theorem required_reread (hread : Rereads read write) (hnull : write a ≠ .null)
    (h : members.required names read = .valid a) (hholds : others.Holds names (write a)) :
    others.required names read = .valid a := by
  obtain ⟨-, value, -, hvalue⟩ := required_eq_valid.1 h
  exact required_of_holds hholds (hread value a hvalue) hnull

end Members

/-! ### Values -/

theorem rereads_trimmedText : Rereads Json.trimmedText .text := by
  intro value t h
  obtain rfl : value.asText.trim = t := Option.some.inj (Checked.leaf_eq_valid.1 h)
  exact Checked.leaf_eq_valid.2 (congrArg some (Text.trim_trim _))

namespace Step

theorem rereads_readNote : Rereads readNote (.ofOption .text) :=
  fun _ note _ => readNote_ofOption note

theorem rereads_readKind : Rereads readKind fun kind => kind.name :=
  fun _ kind _ => readKind_name kind

theorem rereads_flag? : Rereads (.leaf flag?) .bool :=
  fun _ _ _ => rfl

/-- The number of a step is at least one, so it is a number of a step again. -/
theorem rereads_index? : Rereads (.leaf index?) fun n => .int n := by
  intro value n h
  have hone : 1 ≤ (n : Int) := by
    have hindex := Checked.leaf_eq_valid.1 h
    unfold index? at hindex
    split at hindex
    · split at hindex
      · obtain rfl := Option.some.inj hindex
        omega
      · cases hindex
    · cases hindex
  refine Checked.leaf_eq_valid.2 ?_
  show (if 1 ≤ (n : Int) then some (n : Int).toNat else none) = some n
  rw [if_pos hone, Int.toNat_natCast]

/-! ### Steps -/

/-- **A step that was read is read again** from each document it is written as. -/
theorem rereads_dump (long sparse : Bool) : Rereads check (dump long sparse) := by
  intro value s h
  cases value with
  | object members =>
    obtain ⟨hindex, hkind, hdescription, hservice, hnodeType, hrationale, hparallelizable, herrorHandling⟩ :=
      checkWith_eq_valid.1 h
    exact checkWith_eq_valid.2
      ⟨Members.required_reread rereads_index? nofun hindex (holds_written (by simp [namedFields])),
      Members.required_reread rereads_readKind nofun hkind (holds_written (by simp [namedFields])),
      Members.optional_reread rereads_trimmedText rfl nofun hdescription (holds_written (by simp [namedFields])),
      Members.optional_reread rereads_trimmedText rfl nofun hservice (holds_written (by simp [namedFields])),
      Members.optional_reread rereads_trimmedText rfl nofun hnodeType (holds_written (by simp [namedFields])),
      Members.optional_reread rereads_readNote rfl (Json.eq_none_of_ofOption nofun) hrationale
        (holds_written (by simp [namedFields])),
      Members.optional_reread rereads_flag? rfl nofun hparallelizable (holds_written (by simp [namedFields])),
      Members.optional_reread rereads_readNote rfl (Json.eq_none_of_ofOption nofun) herrorHandling
        (holds_written (by simp [namedFields]))⟩
  | _ => cases h

end Step

end Automation
