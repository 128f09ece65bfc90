import Automation.Proofs.Graph.UniqueNames
import Automation.Proofs.Step.Showing

/-!
# Names of nodes are short

A name that is taken gets the first number that makes it new. The forms of a name are not all different,
since a name that ends in digits can be cut so that its form with one number is its form with another;
but among the numbers of one length they are. So the first new number is at most as long as any length of
which there are more numbers than names, and a name and its number share the room that there is for a name.

Main statement: `wellNamed_names`.
-/

namespace Automation.Naming

variable {taken bases : List Text} {name form : Text} {number tries m k i : Nat}

/-! ### The first new number -/

/-- The first number from a given one on that makes a name new. -/
structure FirstNew (taken : List Text) (name : Text) (number m : Nat) : Prop where
  /-- It is not in front of the given one. -/
  le : number ≤ m
  /-- It makes the name new. -/
  new : numbered name m ∉ taken
  /-- No number in front of it does. -/
  least : ∀ k, number ≤ k → k < m → numbered name k ∈ taken

/-- The search ends at the first new number. -/
theorem exists_firstNew_search (h : ∃ m, number ≤ m ∧ m < number + tries ∧ numbered name m ∉ taken) :
    ∃ m, FirstNew taken name number m ∧ search taken name tries number = numbered name m := by
  induction tries generalizing number with
  | zero => obtain ⟨m, h₁, h₂, -⟩ := h; omega
  | succ tries ih =>
    obtain ⟨m, hlow, hhigh, hm⟩ := h
    rw [search]
    split
    · next hc =>
      have htaken : numbered name number ∈ taken := List.contains_iff_mem.1 hc
      have hne : m ≠ number := fun e => hm (e ▸ htaken)
      have hnext : ∃ m, number + 1 ≤ m ∧ m < number + 1 + tries ∧ numbered name m ∉ taken :=
        ⟨m, by omega, by omega, hm⟩
      obtain ⟨first, hfirst, hsearch⟩ := ih hnext
      refine ⟨first, ⟨Nat.le_of_succ_le hfirst.le, hfirst.new, fun k hk hlt => ?_⟩, hsearch⟩
      rcases Nat.eq_or_lt_of_le hk with rfl | hk
      · exact htaken
      · exact hfirst.least k hk hlt
    · next hc =>
      exact ⟨number, ⟨Nat.le_refl _, fun hmem => hc (List.contains_iff_mem.2 hmem),
        fun k hk hlt => absurd hk (Nat.not_le.2 hlt)⟩, rfl⟩

/-- The first new number is at most as long as any length of which there are more numbers than names. -/
theorem FirstNew.lt_pow (h : FirstNew taken name 1 m) (htaken : taken.length < 9 * 10 ^ k) :
    m < 10 ^ (k + 1) := by
  obtain ⟨number, hlow, hhigh, hnew⟩ := exists_new_number name htaken
  have hpos : 0 < 10 ^ k := Nat.pow_pos (by decide)
  by_contra hge
  exact hnew (h.least number (by omega) (by omega))

/-! ### Choosing a name -/

/-- How a name is chosen beside names that are taken. -/
inductive Chosen (taken : List Text) (name : Text) : Text → Prop where
  /-- It is not taken and is kept. -/
  | kept : name ∉ taken → Chosen taken name name
  /-- It is taken, and gets the first number that makes it new. -/
  | numbered {m : Nat} : name ∈ taken → FirstNew taken name 1 m → Chosen taken name (numbered name m)

theorem chosen_fresh (taken : List Text) (name : Text) : Chosen taken name (fresh taken name) := by
  rw [fresh]
  split
  · next hc =>
    obtain ⟨m, hfirst, hsearch⟩ := exists_firstNew_search (exists_new_within taken name)
    rw [hsearch]
    exact .numbered (List.contains_iff_mem.1 hc) hfirst
  · next hc => exact .kept fun hmem => hc (List.contains_iff_mem.2 hmem)

/-- The order in which names were taken does not matter. -/
theorem Chosen.congr {taken' : List Text} (hsame : ∀ t, t ∈ taken ↔ t ∈ taken') (h : Chosen taken name form) :
    Chosen taken' name form := by
  cases h with
  | kept hname => exact .kept fun hmem => hname ((hsame _).2 hmem)
  | numbered hname hfirst =>
    exact .numbered ((hsame _).1 hname) ⟨hfirst.le, fun hmem => hfirst.new ((hsame _).2 hmem),
      fun k hk hlt => (hsame _).1 (hfirst.least k hk hlt)⟩

/-- A name is kept if and only if it is not taken. -/
theorem Chosen.eq_iff (h : Chosen taken name form) : form = name ↔ name ∉ taken := by
  cases h with
  | kept hname => exact iff_of_true rfl hname
  | numbered hname hfirst =>
    refine iff_of_false (fun heq => hfirst.new ?_) (not_not_intro hname)
    rw [heq]
    exact hname

theorem digitsOf_ne_nil (number : Nat) : digitsOf number ≠ [] := by
  rw [← List.length_pos_iff, digitsOf, Text.length_ofString, Nat.toString_eq_repr, ← String.length_toList,
    Nat.toList_repr]
  exact Nat.length_toDigits_pos

theorem Chosen.ne_nil (h : Chosen taken name form) (hname : name ≠ []) : form ≠ [] := by
  cases h with
  | kept => exact hname
  | numbered => exact List.append_ne_nil_of_right_ne_nil _ (digitsOf_ne_nil _)

/-! ### Lengths -/

theorem length_base_le (step : Step) (definition : Option NodeDefinition) :
    (base step definition).length ≤ maxLength :=
  (Text.length_trim_le _).trans (List.length_take_le _ _)

/-- A name and its number share the room for a name, if there is room for the number. -/
theorem length_numbered_le (name : Text) (h : (digitsOf m).length ≤ maxLength) :
    (numbered name m).length ≤ maxLength := by
  have hroom : (0 : Int) ≤ (maxLength : Int) - (digitsOf m).length := by omega
  have hcut : (leading ((maxLength : Int) - (digitsOf m).length) name).length ≤ maxLength - (digitsOf m).length := by
    rw [leading, if_pos hroom]
    exact (List.length_take_le _ _).trans (by omega)
  have htrim := Text.length_trimEnd_le (leading ((maxLength : Int) - (digitsOf m).length) name)
  rw [numbered_eq, List.length_append]
  omega

theorem length_digitsOf_le (hk : 0 < k) (h : m < 10 ^ k) : (digitsOf m).length ≤ k := by
  rw [digitsOf, Text.length_ofString, Nat.toString_eq_repr, ← String.length_toList, Nat.toList_repr]
  exact (Nat.length_toDigits_le_iff (by decide) hk).2 h

/-- A name that is chosen is as short as a name has to be, unless there are more names than numbers that
have room in one. -/
theorem Chosen.length_le (h : Chosen taken name form) (hname : name.length ≤ maxLength)
    (htaken : taken.length < 9 * 10 ^ 29) : form.length ≤ maxLength := by
  cases h with
  | kept => exact hname
  | numbered _ hfirst => exact length_numbered_le _ (length_digitsOf_le (by decide) (hfirst.lt_pow htaken))

/-! ### Labels -/

theorem trim_eq_nil_iff {t : Text} : t.trim = [] ↔ ∀ c ∈ t, Chars.isBlank c := by
  simp only [Text.trim, Text.trimEnd, Text.trimStart, List.reverse_eq_nil_iff, List.dropWhile_eq_nil_iff,
    List.mem_reverse]
  refine ⟨fun h => ?_, fun h c hc => h c ((List.dropWhile_suffix _).subset hc)⟩
  have hnil : t.dropWhile Chars.isBlank = [] := by
    cases hd : t.dropWhile Chars.isBlank with
    | nil => rfl
    | cons c rest =>
      have hhead := List.head?_dropWhile_not Chars.isBlank t
      rw [hd] at hhead
      cases (h c (hd ▸ List.mem_cons_self)).symm.trans (by simpa using hhead)
  exact List.dropWhile_eq_nil_iff.1 hnil

/-- The beginning of a text without blanks around it is not blank. -/
theorem trim_take_ne_nil {t : Text} {limit : Nat} (htrim : t.trim = t) (hne : t ≠ []) (hlimit : 0 < limit) :
    Text.trim (t.take limit) ≠ [] := by
  obtain ⟨c, rest, rfl⟩ := List.exists_cons_of_ne_nil hne
  obtain ⟨limit, rfl⟩ := Nat.exists_eq_succ_of_ne_zero hlimit.ne'
  intro hnil
  have hblank : Chars.isBlank c := trim_eq_nil_iff.1 hnil c (by simp)
  have hlength : (Text.trim (c :: rest)).length ≤ rest.length := by
    rw [Text.trim, Text.trimStart, List.dropWhile_cons_of_pos hblank]
    exact Text.length_trim_le _
  rw [htrim, List.length_cons] at hlength
  omega

/-- A step that says what it does or by which service gives its node a name. -/
theorem base_ne_nil {step : Step} (htrimmed : step.Trimmed) (hwords : step.service ≠ [] ∨ step.description ≠ [])
    (definition : Option NodeDefinition) : base step definition ≠ [] := by
  unfold base label
  by_cases hservice : step.service = []
  · have hdescription := hwords.resolve_left (not_not_intro hservice)
    simpa [hservice, hdescription] using trim_take_ne_nil htrimmed.description hdescription (by decide)
  · simpa [hservice] using trim_take_ne_nil htrimmed.service hservice (by decide)

/-! ### Names in a row -/

theorem chosen_uniqueFrom (taken : List Text) (h : bases[i]? = some name) :
    ∃ form, (uniqueFrom taken bases)[i]? = some form ∧
      Chosen ((uniqueFrom taken bases).take i ++ taken) name form := by
  induction bases generalizing taken i with
  | nil => simp at h
  | cons first rest ih =>
    cases i with
    | zero =>
      obtain rfl : first = name := by simpa using h
      exact ⟨fresh taken first, rfl, chosen_fresh taken first⟩
    | succ i =>
      obtain ⟨form, hform, hchosen⟩ := ih (fresh taken first :: taken) (i := i) (by simpa using h)
      refine ⟨form, hform, hchosen.congr fun t => ?_⟩
      simp only [uniqueFrom, List.take_succ_cons, List.mem_append, List.mem_cons]
      tauto

/-- The name of the node of a step, beside the names of the nodes in front of it. -/
structure NamedBeside (earlier : List Text) (step : Step) (definition : Option NodeDefinition) (name : Text) :
    Prop where
  /-- It is chosen beside the earlier ones. -/
  chosen : Chosen earlier (base step definition) name
  /-- It is the bare name if and only if none of the earlier ones is. -/
  eq_base_iff : name = base step definition ↔ base step definition ∉ earlier
  /-- A step that says what it does or by which service gives its node a name. -/
  ne_nil : step.service ≠ [] ∨ step.description ≠ [] → name ≠ []

/-- The names of the nodes of steps. -/
structure WellNamed (steps : List (Step × Option NodeDefinition)) (names : List Text) : Prop where
  /-- There is one for each step. -/
  length : names.length = steps.length
  /-- They are pairwise distinct. -/
  nodup : names.Nodup
  /-- Each is the name of its step beside those in front of it. -/
  named : ∀ (i : Nat) (step : Step) (definition : Option NodeDefinition) (name : Text),
    steps[i]? = some (step, definition) → names[i]? = some name →
    NamedBeside (names.take i) step definition name
  /-- They are short, unless there are more of them than numbers that have room in a name. -/
  short : steps.length ≤ 10 ^ 29 → ∀ name ∈ names, name.length ≤ 30

theorem chosen_names {steps : List (Step × Option NodeDefinition)} {step : Step}
    {definition : Option NodeDefinition} (hstep : steps[i]? = some (step, definition))
    (hname : (names steps)[i]? = some name) : Chosen ((names steps).take i) (base step definition) name := by
  have hbase : (steps.map fun s => base s.1 s.2)[i]? = some (base step definition) := by
    rw [List.getElem?_map, hstep]
    rfl
  obtain ⟨form, hform, hchosen⟩ := chosen_uniqueFrom [] hbase
  obtain rfl : form = name := Option.some.inj (hform.symm.trans hname)
  rwa [List.append_nil] at hchosen

/-- **Nodes have short names of their own**, chosen in the order of their steps. -/
theorem wellNamed_names {steps : List (Step × Option NodeDefinition)}
    (hvalid : ∀ s ∈ steps, ∃ document, Step.check document = .valid s.1) : WellNamed steps (names steps) := by
  refine ⟨length_names steps, nodup_names steps, ?_, ?_⟩
  · intro i step definition name hstep hname
    have hchosen := chosen_names hstep hname
    obtain ⟨document, hdocument⟩ := hvalid _ (List.mem_of_getElem? hstep)
    have htrimmed : step.Trimmed := Step.trimmed_of_check hdocument
    exact ⟨hchosen, hchosen.eq_iff, fun hwords => hchosen.ne_nil (base_ne_nil htrimmed hwords definition)⟩
  · intro hlength name hname
    obtain ⟨i, hi, rfl⟩ := List.getElem_of_mem hname
    rw [length_names] at hi
    have hstep : steps[i]? = some (steps[i].1, steps[i].2) := List.getElem?_eq_getElem hi
    refine (chosen_names hstep (List.getElem?_eq_getElem _)).length_le (length_base_le _ _) ?_
    rw [List.length_take, length_names]
    omega

/-- A step that a service does. -/
def doneBy (service : Text) : Step where
  index := 1
  kind := .action
  description := "Post it"
  service := service
  nodeType := "n8n-nodes-base.slack"
  rationale := none
  parallelizable := false
  errorHandling := none

/-- Steps of which one has a service whose name is a numbered form of the others' service. -/
def slackSteps : List (Step × Option NodeDefinition) :=
  [(doneBy "Slack", none), (doneBy "Slack1", none), (doneBy "Slack", none)]

theorem wellNamed_names_slackSteps :
    (∀ s ∈ slackSteps, ∃ document, Step.check document = .valid s.1) ∧
      names slackSteps = [("Slack" : Text), ("Slack1" : Text), ("Slack2" : Text)] ∧
      WellNamed slackSteps (names slackSteps) := by
  have hvalid : ∀ s ∈ slackSteps, ∃ document, Step.check document = .valid s.1 := by
    simp only [slackSteps, List.forall_mem_cons]
    exact ⟨⟨(doneBy "Slack").toJson, by decide +kernel⟩, ⟨(doneBy "Slack1").toJson, by decide +kernel⟩,
      ⟨(doneBy "Slack").toJson, by decide +kernel⟩, nofun⟩
  exact ⟨hvalid, by decide +kernel, wellNamed_names hvalid⟩

end Automation.Naming
