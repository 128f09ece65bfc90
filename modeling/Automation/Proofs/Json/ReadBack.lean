import Automation.Proofs.Json.Endings
import Automation.Proofs.Json.Integers
import Automation.Proofs.Json.Quoted

/-!
# Documents are read back

A value is written as a document that is read as the value again (`read_write`), however deep it
stands and however the document is laid out. `ReadsBack` says this of a value with whatever may stand
behind it, and is shown for each form of value from its parts, so that it can be shown for the values
that are really written by induction or one by one.
-/

namespace Automation.Json

variable {style : Style} {depth level : Nat} {v : Json} {t rest gap : Text} {c : CodePoint}

/-- A value of at most so many levels that is read back from what is written of it, at any level and
with anything behind it that does not go on with a number. -/
def ReadsBack (style : Style) (depth : Nat) (v : Json) : Prop :=
  ∀ level rest, EndsNumber rest → readValue depth (writeAt style level v ++ rest) = .ok (v, rest)

/-! ### Space -/

/-- A style whose indentation is nothing but space. -/
def Style.Spaced (style : Style) : Prop :=
  ∀ unit ∈ style.indent, ∀ c ∈ unit, isSpace c

theorem skipSpace_of_not_isSpace (hc : isSpace c = false) : skipSpace (c :: t) = c :: t := by
  simp [skipSpace, hc]

theorem skipSpace_gap (hgap : ∀ c ∈ gap, isSpace c) (hc : isSpace c = false) :
    skipSpace (gap ++ c :: t) = c :: t := by
  rw [skipSpace, List.dropWhile_append_of_pos hgap]
  exact skipSpace_of_not_isSpace hc

theorem endsNumber_gap (hgap : ∀ c ∈ gap, isSpace c) (h : EndsNumber rest) : EndsNumber (gap ++ rest) := by
  cases gap with
  | nil => exact h
  | cons c gap => exact endsNumber_cons (endsNumber_of_space hgap c rfl)

theorem isSpace_of_mem_lineBreak (hstyle : style.Spaced) (hc : c ∈ style.lineBreak level) : isSpace c := by
  unfold Style.lineBreak at hc
  split at hc
  · cases hc
  · rename_i unit hindent
    rcases List.mem_cons.1 hc with rfl | hc
    · rfl
    · obtain ⟨w, hw, hc⟩ := List.mem_flatten.1 hc
      exact hstyle unit hindent c (List.eq_of_mem_replicate hw ▸ hc)

/-- Between two items stand a comma and perhaps space. -/
theorem separator_eq (hstyle : style.Spaced) (level : Nat) :
    ∃ gap, style.separator level = .ofChar ',' :: gap ∧ ∀ c ∈ gap, isSpace c := by
  unfold Style.separator
  split
  · exact ⟨[.ofChar ' '], rfl, by decide⟩
  · exact ⟨_, rfl, fun _ => isSpace_of_mem_lineBreak hstyle⟩

/-! ### Beginnings -/

/-- A code point that a value can begin with. -/
def StartsValue (c : CodePoint) : Prop :=
  isSpace c = false ∧ c ≠ ']' ∧ c ≠ '\ufeff'

instance : Decidable (StartsValue c) :=
  inferInstanceAs (Decidable (_ ∧ _))

theorem startsValue_of_beginsValue (hc : BeginsValue c) : StartsValue c := by
  have hmarks : ∀ d ∈ Text.ofString "0123456789-\"[\x7bntfNI", StartsValue d := by decide
  exact hmarks c hc

theorem ReadsBack.startsValue (h : ReadsBack style depth v) (level : Nat) :
    ∃ c t, writeAt style level v = c :: t ∧ StartsValue c := by
  have hread := h level [] endsNumber_nil
  rw [List.append_nil] at hread
  obtain ⟨c, t, hwritten, hc⟩ := beginsValue_of_readValue hread
  exact ⟨c, t, hwritten, startsValue_of_beginsValue hc⟩

/-! ### Leaves -/

theorem readValue_of_readLeaf (hopens : ¬OpensLevel t) (h : readLeaf t = .ok (v, rest)) (depth : Nat) :
    readValue depth t = .ok (v, rest) := by
  cases depth with
  | zero => exact readValue_zero_ok.2 ⟨hopens, h⟩
  | succ depth => exact readValue_succ_ok.2 (.inr (.inr ⟨hopens, h⟩))

theorem readsBack_null : ReadsBack style depth null := fun _ _ _ =>
  readValue_of_readLeaf (by simp [OpensLevel, writeAt, Text.ofString]) (readLeaf_ok.2 (.inl rfl)) depth

theorem readsBack_bool (b : Bool) : ReadsBack style depth (bool b) := by
  intro level rest _
  cases b
  all_goals
    exact readValue_of_readLeaf (by simp [OpensLevel, writeAt, Text.ofString]) (readLeaf_ok.2 (.inl rfl)) depth

theorem readsBack_text (ht : t.isString) : ReadsBack style depth (text t) := by
  intro level rest _
  have hword (x : Text) : readWord (.ofChar '"' :: x) = none := by simp [readWord, words, Text.ofString]
  rw [writeAt, quoted_append]
  exact readValue_of_readLeaf (by simp [OpensLevel])
    (readLeaf_ok.2 (.inr ⟨hword _, .inl ⟨_, t, rfl, readText_quoted ht _ rest, rfl⟩⟩)) depth

/-- A number is read back if its text is, since nothing that stands behind it goes on with it. -/
theorem readsBack_number {n : Number} (h : ∀ level, readNumber (writeAt style level (number n)) = .ok (n, [])) :
    ReadsBack style depth (number n) := by
  intro level rest hrest
  have hnumber := (readNumber_append_ok hrest).2 ⟨[], rfl, h level⟩
  exact readValue_of_readLeaf (not_opensLevel_of_readNumber hnumber) (readLeaf_of_readNumber hnumber) depth

theorem readsBack_int {n : Int} (hn : n.natAbs < Nat.pow 10 Numeral.digitLimit) :
    ReadsBack style depth (int n) :=
  readsBack_number fun _ => readNumber_writeInt hn

/-! ### Parts with commas between them -/

section Separated

variable {α : Type} {part : Reader α} {close : CodePoint} {flaw : Flaw} {shown : α → Text} {a : α} {parts : List α}
  {sep : Text} {bound : Nat}

/-- A mark that ends parts with commas between them: it goes on with no number, and is neither space
nor a comma. -/
def IsClosing (c : CodePoint) : Prop :=
  inNumber c = false ∧ isSpace c = false ∧ c ≠ ','

instance (c : CodePoint) : Decidable (IsClosing c) :=
  inferInstanceAs (Decidable (_ ∧ _))

/-- A part that is read back from what is shown of it. -/
def ShownBy (part : Reader α) (shown : α → Text) (a : α) : Prop :=
  (∀ rest, EndsNumber rest → part (shown a ++ rest) = .ok (a, rest)) ∧
    ∃ c t, shown a = c :: t ∧ isSpace c = false

theorem exists_join_eq_cons (h : shown a = c :: t) (sep : Text) (others : List α) :
    ∃ t', Text.join sep ((a :: others).map shown) = c :: t' := by
  cases others with
  | nil => exact ⟨t, by simp [Text.join, h]⟩
  | cons b others => exact ⟨_, by rw [List.map_cons, List.map_cons, Text.join_cons_cons, h, List.cons_append]⟩

/-- Parts with commas between them are read back up to the closing mark. -/
theorem readSeparated_join (hclose : IsClosing close) (hsep : ∀ c ∈ sep, isSpace c) (hgap : ∀ c ∈ gap, isSpace c)
    (hparts : ∀ a ∈ parts, ShownBy part shown a) (hne : parts ≠ [])
    (hbound : (Text.join (.ofChar ',' :: sep) (parts.map shown)).length ≤ bound) :
    readSeparated part close flaw bound
      (Text.join (.ofChar ',' :: sep) (parts.map shown) ++ (gap ++ close :: rest)) = .ok (parts, rest) := by
  induction parts generalizing bound with
  | nil => exact absurd rfl hne
  | cons a others ih =>
    rw [List.forall_mem_cons] at hparts
    obtain ⟨⟨hread, c, t, hshown, -⟩, hothers⟩ := hparts
    -- what is shown of a part is not empty, so the bound counts down with the parts
    obtain ⟨t', hjoin⟩ := exists_join_eq_cons hshown (.ofChar ',' :: sep) others
    obtain ⟨bound, rfl⟩ : ∃ b, bound = b + 1 := by
      rw [hjoin, List.length_cons] at hbound
      exact ⟨bound - 1, by omega⟩
    cases others with
    | nil =>
      rw [List.map_singleton, Text.join, List.intercalate_singleton]
      exact (readSeparated_ok hclose.2.2).2
        ⟨a, _, hread _ (endsNumber_gap hgap (endsNumber_cons hclose.1)), .inl ⟨skipSpace_gap hgap hclose.2.1, rfl⟩⟩
    | cons b others =>
      obtain ⟨d, u, hb, hd⟩ := (hothers b List.mem_cons_self).2
      obtain ⟨u', hjoin'⟩ := exists_join_eq_cons hb (.ofChar ',' :: sep) others
      rw [List.map_cons, List.map_cons, Text.join_cons_cons, ← List.map_cons] at hbound ⊢
      have hlength : (Text.join (.ofChar ',' :: sep) ((b :: others).map shown)).length ≤ bound := by
        rw [hshown] at hbound
        simp only [List.length_append, List.length_cons] at hbound
        omega
      have hrest := ih hothers (List.cons_ne_nil _ _) hlength
      rw [hjoin'] at hrest ⊢
      rw [List.append_assoc, List.append_assoc]
      refine (readSeparated_ok hclose.2.2).2 ⟨a, _, hread _ (endsNumber_cons (by decide)),
        .inr ⟨sep ++ (d :: u' ++ (gap ++ close :: rest)), b :: others, ?_, ?_, rfl⟩⟩
      · exact skipSpace_of_not_isSpace (by decide)
      · rw [List.cons_append, skipSpace_gap hsep hd]
        exact hrest

/-- What stands in brackets is read from its first part on. -/
theorem exists_readSeparated_bracketed (hstyle : style.Spaced) (level : Nat) (flaw : Flaw) (left : String)
    {right : String} (hright : Text.ofString right = [close]) (hclose : IsClosing close)
    (hparts : ∀ a ∈ parts, ShownBy part shown a) (hne : parts ≠ []) :
    ∃ body c t, bracketed style level left right (parts.map shown) ++ rest = Text.ofString left ++ body ∧
      skipSpace body = c :: t ∧ (∃ a ∈ parts, (shown a).head? = some c) ∧
      readSeparated part close flaw (t.length + 1) (c :: t) = .ok (parts, rest) := by
  obtain ⟨sep, hseparator, hsep⟩ := separator_eq hstyle (level + 1)
  have hback : ∀ c ∈ style.lineBreak level, isSpace c := fun _ => isSpace_of_mem_lineBreak hstyle
  have hfront : ∀ c ∈ style.lineBreak (level + 1), isSpace c := fun _ => isSpace_of_mem_lineBreak hstyle
  obtain ⟨a, others, rfl⟩ := List.exists_cons_of_ne_nil hne
  obtain ⟨c, u, hshown, hc⟩ := (hparts a List.mem_cons_self).2
  obtain ⟨t, hjoin⟩ := exists_join_eq_cons hshown (.ofChar ',' :: sep) others
  refine ⟨style.lineBreak (level + 1) ++ (c :: t ++ (style.lineBreak level ++ close :: rest)), c,
    t ++ (style.lineBreak level ++ close :: rest), ?_, skipSpace_gap hfront hc,
    ⟨a, List.mem_cons_self, by rw [hshown]; rfl⟩, ?_⟩
  · rw [List.map_cons, bracketed, ← List.map_cons, hseparator, hjoin, hright]
    · simp
    · exact fun h => List.cons_ne_nil _ _ h
  · rw [← List.cons_append, ← hjoin]
    refine readSeparated_join hclose hsep hback hparts hne ?_
    rw [hjoin]
    simp

end Separated

/-! ### Arrays and objects -/

theorem writeItems_eq (style : Style) (level : Nat) (items : List Json) :
    writeItems style level items = items.map (writeAt style level) := by
  induction items with
  | nil => rfl
  | cons item items ih => rw [writeItems, ih, List.map_cons]

/-- An array is read back if its items are. -/
theorem readsBack_array (hstyle : style.Spaced) {items : List Json}
    (h : ∀ item ∈ items, ReadsBack style depth item) : ReadsBack style (depth + 1) (array items) := by
  intro level rest _
  refine readValue_succ_ok.2 (.inl ?_)
  rw [writeAt, writeItems_eq]
  by_cases hne : items = []
  · subst hne
    exact ⟨.ofChar ']' :: rest, rfl, readArray_ok.2 (.inl ⟨skipSpace_of_not_isSpace (by decide), rfl⟩)⟩
  · have hitems : ∀ item ∈ items, ShownBy (readValue depth) (writeAt style (level + 1)) item := by
      intro item hitem
      obtain ⟨c, t, hwritten, hc⟩ := (h item hitem).startsValue (level + 1)
      exact ⟨h item hitem (level + 1), c, t, hwritten, hc.1⟩
    have hright : Text.ofString "]" = [.ofChar ']'] := rfl
    obtain ⟨body, c, t, hbody, hskip, ⟨item, hitem, hhead⟩, hread⟩ :=
      exists_readSeparated_bracketed hstyle level .noValue "[" hright (by decide) hitems hne
    obtain ⟨d, u, hwritten, hd⟩ := (h item hitem).startsValue (level + 1)
    obtain rfl : d = c := by simpa [hwritten] using hhead
    exact ⟨body, hbody, readArray_ok.2 (.inr ⟨d, t, items, hskip, hd.2.1, hread, rfl⟩)⟩

/-- What is written of a member of an object. -/
def writeMember (style : Style) (level : Nat) (member : Text × Json) : Text :=
  quoted style.ascii member.1 ++ ": " ++ writeAt style level member.2

theorem writeMembers_eq (style : Style) (level : Nat) (members : Members) :
    writeMembers style level members = members.map (writeMember style level) := by
  induction members with
  | nil => rfl
  | cons member members ih => rw [writeMembers, ih, List.map_cons, writeMember]

theorem writeMember_append (style : Style) (level : Nat) (member : Text × Json) (rest : Text) :
    writeMember style level member ++ rest =
      .ofChar '"' :: (escaped style.ascii member.1 ++ .ofChar '"' :: .ofChar ':' :: .ofChar ' '
        :: (writeAt style level member.2 ++ rest)) := by
  have hcolon : Text.ofString ": " = [.ofChar ':', .ofChar ' '] := rfl
  rw [writeMember, List.append_assoc, List.append_assoc, quoted_append, hcolon]
  rfl

theorem exists_writeMember_eq_cons (style : Style) (level : Nat) (member : Text × Json) :
    ∃ t, writeMember style level member = .ofChar '"' :: t :=
  ⟨_, by rw [← List.append_nil (writeMember style level member), writeMember_append]⟩

theorem readMember_writeMember {member : Text × Json} (hkey : member.1.isString)
    (h : ReadsBack style depth member.2) (hrest : EndsNumber rest) :
    readMember (readValue depth) (writeMember style level member ++ rest) = .ok (member, rest) := by
  obtain ⟨c, t, hwritten, hc⟩ := h.startsValue level
  rw [writeMember_append]
  refine readMember_ok.2 ⟨_, _, _, rfl, readText_quoted hkey _ _, skipSpace_of_not_isSpace (by decide), ?_⟩
  have hskip : skipSpace ([.ofChar ' '] ++ c :: (t ++ rest)) = c :: (t ++ rest) := skipSpace_gap (by decide) hc.1
  have hvalue := h level rest hrest
  rw [hwritten] at hvalue ⊢
  exact (congrArg (readValue depth) hskip).trans hvalue

theorem put_of_not_mem {members : Members} {key : Text} (h : key ∉ members.keys) (value : Json) :
    members.put key value = members ++ [(key, value)] := by
  induction members with
  | nil => rfl
  | cons member members ih =>
    rw [Members.keys, List.map_cons, List.mem_cons, not_or] at h
    rw [Members.put, if_neg (Ne.symm h.1), ih h.2, List.cons_append]

/-- Members with keys of their own are all kept. -/
theorem putAll_of_nodup {members others : Members} (h : (members ++ others).keys.Nodup) :
    members.putAll others = members ++ others := by
  induction others generalizing members with
  | nil => exact (List.append_nil members).symm
  | cons member others ih =>
    have hsplit : members ++ member :: others = members ++ [member] ++ others := by simp
    have hkey : member.1 ∉ members.keys := by
      intro hmem
      rw [Members.keys, List.map_append, List.nodup_append] at h
      exact h.2.2 _ hmem _ List.mem_cons_self rfl
    rw [hsplit] at h ⊢
    rw [← ih h]
    change (members.put member.1 member.2).putAll others = _
    rw [put_of_not_mem hkey]

/-- An object is read back if its members are, and if no key comes again. -/
theorem readsBack_object (hstyle : style.Spaced) {members : Members}
    (h : ∀ member ∈ members, member.1.isString ∧ ReadsBack style depth member.2) (hkeys : members.keys.Nodup) :
    ReadsBack style (depth + 1) (object members) := by
  intro level rest _
  refine readValue_succ_ok.2 (.inr (.inl ?_))
  rw [writeAt, writeMembers_eq]
  by_cases hne : members = []
  · subst hne
    exact ⟨.ofChar '\x7d' :: rest, rfl, readObject_ok.2 (.inl ⟨skipSpace_of_not_isSpace (by decide), rfl⟩)⟩
  · have hmembers : ∀ member ∈ members,
        ShownBy (readMember (readValue depth)) (writeMember style (level + 1)) member := by
      intro member hmember
      obtain ⟨hkey, hvalue⟩ := h member hmember
      obtain ⟨t, hwritten⟩ := exists_writeMember_eq_cons style (level + 1) member
      exact ⟨fun rest => readMember_writeMember hkey hvalue, _, t, hwritten, by decide⟩
    have hright : Text.ofString "\x7d" = [.ofChar '\x7d'] := rfl
    obtain ⟨body, c, t, hbody, hskip, ⟨member, hmember, hhead⟩, hread⟩ :=
      exists_readSeparated_bracketed hstyle level .noKey "\x7b" hright (by decide) hmembers hne
    obtain ⟨u, hwritten⟩ := exists_writeMember_eq_cons style (level + 1) member
    obtain rfl : .ofChar '"' = c := by simpa [hwritten] using hhead
    have hput : Members.putAll [] members = [] ++ members := putAll_of_nodup hkeys
    rw [List.nil_append] at hput
    exact ⟨body, hbody, readObject_ok.2 (.inr ⟨_, t, members, hskip, by decide, hread, by rw [hput]⟩)⟩

/-! ### Documents -/

/-- An object is written from brace to brace. -/
theorem exists_write_object_eq (style : Style) (members : Members) :
    ∃ t, write style (.object members) = .ofChar '\x7b' :: (t ++ [.ofChar '\x7d']) := by
  rw [write, writeAt]
  cases writeMembers style (0 + 1) members with
  | nil => exact ⟨[], rfl⟩
  | cons t texts =>
    exact ⟨style.lineBreak (0 + 1) ++ Text.join (style.separator (0 + 1)) (t :: texts) ++ style.lineBreak 0, by
      simp [bracketed, Text.ofString]⟩

/-- **A document is read as what it was written of.** -/
theorem read_write [Limits] (h : ReadsBack style Limits.nesting v) : read (write style v) = .ok v := by
  obtain ⟨c, t, hwritten, hspace, -, hmark⟩ := h.startsValue 0
  have hvalue := h 0 [] endsNumber_nil
  rw [List.append_nil] at hvalue
  refine readWithin_ok.2 ⟨?_, [], ?_, rfl⟩
  · simpa [write, hwritten] using hmark
  · rw [write, hwritten, skipSpace_of_not_isSpace hspace, ← hwritten]
    exact hvalue

end Automation.Json
