import Automation.Completion.Reading
import Automation.Proofs.Completion.Fences
import Automation.Proofs.Json.Document

/-!
# What a completion is read as

The first candidate of a completion that follows the grammar decides what is found (`Decides`): its
value if it is within the limits, and no result at all if it is not. A completion is a failure if
and only if no candidate follows the grammar.

A completion that is one object as a whole has that object as its only span
(`objectSpans_of_object`). Fenced blocks come first, though, and fences may stand in the texts of the
object. So the object is found unless one of these blocks follows the grammar.
-/

namespace Automation.Completion

open Json (Malformed)

variable {t c : Text} {texts rest : List Text} {v : Json} {limit : Json.Limit} {members : Members}

/-! ### The first document -/

/-- What stands before a candidate does not follow the grammar. -/
def Decides [Limits] (texts : List Text) (c : Text) : Prop :=
  ∃ before after, texts = before ++ c :: after ∧ ∀ b ∈ before, Malformed b

theorem firstDocument_cons_of_malformed [Limits] (h : Malformed c) :
    firstDocument (c :: rest) = firstDocument rest := by
  obtain ⟨flaw, left, h⟩ := h
  rw [firstDocument, h]

theorem firstDocument_append [Limits] (before : List Text) (h : ∀ b ∈ before, Malformed b) :
    firstDocument (before ++ rest) = firstDocument rest := by
  induction before with
  | nil => rfl
  | cons b before ih =>
    rw [List.forall_mem_cons] at h
    rw [List.cons_append, firstDocument_cons_of_malformed h.1, ih h.2]

theorem firstDocument_of_ok [Limits] (h : Decides texts c) (hc : Json.read c = .ok v) :
    firstDocument texts = .ok (some v) := by
  obtain ⟨before, after, rfl, hbefore⟩ := h
  rw [firstDocument_append before hbefore, firstDocument, hc]

theorem firstDocument_of_beyond [Limits] (h : Decides texts c) (hc : Json.read c = .error (.beyond limit)) :
    firstDocument texts = .error limit := by
  obtain ⟨before, after, rfl, hbefore⟩ := h
  rw [firstDocument_append before hbefore, firstDocument, hc]

theorem firstDocument_of_malformed [Limits] (h : ∀ c ∈ texts, Malformed c) :
    firstDocument texts = .ok none := by
  rw [← List.append_nil texts, firstDocument_append texts h, firstDocument]

/-- No text follows the grammar, or one decides. -/
theorem malformed_or_decides [Limits] (texts : List Text) :
    (∀ c ∈ texts, Malformed c) ∨ (∃ c v, Decides texts c ∧ Json.read c = .ok v) ∨
      ∃ c limit, Decides texts c ∧ Json.read c = .error (.beyond limit) := by
  induction texts with
  | nil => exact .inl nofun
  | cons b texts ih =>
    have hfirst : Decides (b :: texts) b := ⟨[], texts, rfl, nofun⟩
    cases hb : Json.read b with
    | ok v => exact .inr (.inl ⟨b, v, hfirst, hb⟩)
    | error fault =>
      cases fault with
      | beyond limit => exact .inr (.inr ⟨b, limit, hfirst, hb⟩)
      | malformed flaw left =>
        have hmalformed : Malformed b := ⟨flaw, left, hb⟩
        have hlater : ∀ {c}, Decides texts c → Decides (b :: texts) c := by
          rintro c ⟨before, after, rfl, hbefore⟩
          exact ⟨b :: before, after, rfl, List.forall_mem_cons.2 ⟨hmalformed, hbefore⟩⟩
        rcases ih with hall | ⟨c, v, hc, hv⟩ | ⟨c, limit, hc, hlimit⟩
        · exact .inl (List.forall_mem_cons.2 ⟨hmalformed, hall⟩)
        · exact .inr (.inl ⟨c, v, hlater hc, hv⟩)
        · exact .inr (.inr ⟨c, limit, hlater hc, hlimit⟩)

/-! ### Candidates -/

theorem not_mem_of_isBlank {d : CodePoint} (h : t.isBlank) (hd : Chars.isBlank d = false) : d ∉ t := by
  intro hmem
  cases hd.symm.trans (List.all_eq_true.1 h d hmem)

/-- A blank completion has no candidates. -/
theorem candidates_of_isBlank (h : t.isBlank) : candidates t = [] := by
  have hblocks : blocks t = [] :=
    blocks_eq_nil fun hfence => not_mem_of_isBlank h (by decide) (tick_mem_of_fence hfence)
  rw [candidates, hblocks, objectSpans_of_not_mem (not_mem_of_isBlank h (by decide))]
  rfl

/-- No candidate follows the grammar if and only if no block and no span does. -/
theorem malformed_candidates [Limits] :
    (∀ c ∈ candidates t, Malformed c) ↔
      (∀ b ∈ blocks t, Malformed b.trim) ∧ ∀ s ∈ objectSpans t, Malformed s := by
  simp only [candidates, List.forall_mem_append, List.mem_filter, List.mem_map]
  refine and_congr_left fun _ => ⟨fun h b hb => ?_, ?_⟩
  · cases htrim : b.trim with
    | nil => exact Json.malformed_nil
    | cons c rest => exact htrim ▸ h b.trim ⟨⟨b, hb, rfl⟩, by simp [htrim]⟩
  · rintro h _ ⟨⟨b, hb, rfl⟩, -⟩
    exact h b hb

/-- A block that decides among the blocks decides among the candidates. -/
theorem decides_candidates [Limits] (h : Decides ((blocks t).map Text.trim) c) (hc : c ≠ []) :
    Decides (candidates t) c := by
  obtain ⟨before, after, hblocks, hbefore⟩ := h
  refine ⟨before.filter fun b => !b.isEmpty, after.filter (fun b => !b.isEmpty) ++ objectSpans t, ?_, ?_⟩
  · simp [candidates, hblocks, hc]
  · exact fun b hb => hbefore b (List.mem_filter.1 hb).1

/-! ### Findings -/

theorem read_of_not_isBlank [Limits] (h : ¬t.isBlank) :
    read t = (firstDocument (candidates t)).map fun
      | some v => .value v
      | none => .failure "no JSON object found" (t.trim.take excerptLength) := by
  rw [read, if_neg h]
  cases firstDocument (candidates t) with
  | error limit => rfl
  | ok found => cases found <;> rfl

theorem not_isBlank_of_decides [Limits] (h : Decides (candidates t) c) : ¬t.isBlank := by
  intro hblank
  obtain ⟨before, after, hcandidates, -⟩ := h
  rw [candidates_of_isBlank hblank] at hcandidates
  exact List.append_ne_nil_of_right_ne_nil _ (List.cons_ne_nil _ _) hcandidates.symm

theorem read_of_ok [Limits] (h : Decides (candidates t) c) (hc : Json.read c = .ok v) :
    read t = .ok (.value v) := by
  rw [read_of_not_isBlank (not_isBlank_of_decides h), firstDocument_of_ok h hc]
  rfl

theorem read_of_beyond [Limits] (h : Decides (candidates t) c) (hc : Json.read c = .error (.beyond limit)) :
    read t = .error limit := by
  rw [read_of_not_isBlank (not_isBlank_of_decides h), firstDocument_of_beyond h hc]
  rfl

theorem read_of_malformed [Limits] (h : ∀ c ∈ candidates t, Malformed c) :
    ∃ reason excerpt, read t = .ok (.failure reason excerpt) := by
  by_cases hblank : t.isBlank
  · exact ⟨_, _, by rw [read, if_pos hblank]⟩
  · exact ⟨_, _, by rw [read_of_not_isBlank hblank, firstDocument_of_malformed h]; rfl⟩

/-- A value is found if and only if the candidate that decides is a document. -/
theorem read_eq_value_iff [Limits] :
    read t = .ok (.value v) ↔ ∃ c, Decides (candidates t) c ∧ Json.read c = .ok v := by
  refine ⟨fun h => ?_, fun ⟨c, hc, hv⟩ => read_of_ok hc hv⟩
  rcases malformed_or_decides (candidates t) with hall | ⟨c, w, hc, hw⟩ | ⟨c, limit, hc, hlimit⟩
  · obtain ⟨reason, excerpt, hfailure⟩ := read_of_malformed hall
    cases h.symm.trans hfailure
  · cases h.symm.trans (read_of_ok hc hw)
    exact ⟨c, hc, hw⟩
  · cases h.symm.trans (read_of_beyond hc hlimit)

/-- Nothing is found if and only if no candidate follows the grammar. -/
theorem read_eq_failure_iff [Limits] :
    (∃ reason excerpt, read t = .ok (.failure reason excerpt)) ↔ ∀ c ∈ candidates t, Malformed c := by
  refine ⟨fun ⟨reason, excerpt, h⟩ => ?_, read_of_malformed⟩
  rcases malformed_or_decides (candidates t) with hall | ⟨c, w, hc, hw⟩ | ⟨c, limit, hc, hlimit⟩
  · exact hall
  · cases h.symm.trans (read_of_ok hc hw)
  · cases h.symm.trans (read_of_beyond hc hlimit)

/-- There is no result if and only if the candidate that decides is beyond a limit. -/
theorem read_eq_error_iff [Limits] :
    read t = .error limit ↔ ∃ c, Decides (candidates t) c ∧ Json.read c = .error (.beyond limit) := by
  refine ⟨fun h => ?_, fun ⟨c, hc, hlimit⟩ => read_of_beyond hc hlimit⟩
  rcases malformed_or_decides (candidates t) with hall | ⟨c, w, hc, hw⟩ | ⟨c, beyond, hc, hbeyond⟩
  · obtain ⟨reason, excerpt, hfailure⟩ := read_of_malformed hall
    cases h.symm.trans hfailure
  · cases h.symm.trans (read_of_ok hc hw)
  · cases h.symm.trans (read_of_beyond hc hbeyond)
    exact ⟨c, hc, hbeyond⟩

/-- Every completion is read as a value or as a failure, unless the candidate that decides is beyond
a limit. It is a failure if and only if no block and no span follows the grammar. -/
theorem read_outcomes [Limits] (t : Text) :
    (∀ limit, read t = .error limit ↔
        ∃ c, Decides (candidates t) c ∧ Json.read c = .error (.beyond limit)) ∧
      (∀ v, read t = .ok (.value v) ↔ ∃ c, Decides (candidates t) c ∧ Json.read c = .ok v) ∧
      ((∃ reason excerpt, read t = .ok (.failure reason excerpt)) ↔
        (∀ b ∈ blocks t, Malformed b.trim) ∧ ∀ s ∈ objectSpans t, Malformed s) :=
  ⟨fun _ => read_eq_error_iff, fun _ => read_eq_value_iff, read_eq_failure_iff.trans malformed_candidates⟩

/-! ### Integers in fences -/

/-- A fenced integer that is beyond the limit ends reading without a result. -/
theorem read_fenced_digits [Limits] {n : Nat} (h : Numeral.digitLimit ≤ n) :
    read (fence ++ (.ofChar '7' :: List.replicate n (.ofChar '7') ++ fence)) = .error (.digits (n + 1)) := by
  have hdigits : ∀ c ∈ (.ofChar '7' :: List.replicate n (.ofChar '7') : Text), c = .ofChar '7' :=
    fun c hc => List.eq_of_mem_replicate (n := n + 1) hc
  have hlength : (.ofChar '7' :: List.replicate n (.ofChar '7') : Text).length = n + 1 := by simp
  generalize hb : List.replicate n (CodePoint.ofChar '7') = b at hdigits hlength
  have hblocks : blocks (fence ++ (.ofChar '7' :: b ++ fence)) = [.ofChar '7' :: b] := by
    have hfenced := blocks_fenced (c := .ofChar '7') (b := b) (by decide)
      (fun hmem => absurd (hdigits _ hmem) (by decide)) []
    rwa [blocks_eq_nil (t := []) (by decide), List.append_nil] at hfenced
  have htrim : Text.trim (.ofChar '7' :: b) = .ofChar '7' :: b :=
    trim_of_not_blank fun c hc => by rw [hdigits c hc]; decide
  have hread : Json.read (.ofChar '7' :: b) = .error (.beyond (.digits (n + 1))) := by
    rw [← hlength]
    exact Json.read_digits (fun c hc => by rw [hdigits c hc]; decide) (by decide) (by omega)
  refine read_of_beyond (decides_candidates ⟨[], [], ?_, nofun⟩ (List.cons_ne_nil _ _)) hread
  rw [hblocks, List.map_singleton, htrim, List.nil_append]

open scoped Limits in
/-- A fenced integer with one digit more than the limit allows is neither a value nor a failure. -/
theorem read_fenced_digits_ne_ok :
    ¬∃ finding, read (fence ++ (List.replicate 4301 (.ofChar '7') ++ fence)) = .ok finding := by
  rintro ⟨finding, h⟩
  rw [List.replicate_succ] at h
  cases h.symm.trans (read_fenced_digits (Nat.le_refl 4300))

/-! ### Objects -/

/-- An object that a text is as a whole is the only span of the text. -/
theorem objectSpans_of_object [Limits] (h : Json.read t = .ok (.object members)) :
    ∃ span, objectSpans t = [span] ∧ Json.read span = .ok (.object members) := by
  obtain ⟨before, w, after, hbefore, hafter, rfl, hw, hread⟩ := Json.read_object h
  refine ⟨_, ?_, hread⟩
  rw [objectSpans_append_of_not_mem _ (Json.not_mem_of_space hbefore (by decide)), objectSpans_braces hw,
    objectSpans_of_not_mem (Json.not_mem_of_space hafter (by decide))]

/-- A completion that is an object as a whole is read as that object if no block of it follows the
grammar. If blocks do, the first one decides. -/
theorem read_of_object [Limits] (h : Json.read t = .ok (.object members)) :
    ((∀ b ∈ blocks t, Malformed b.trim) → read t = .ok (.value (.object members))) ∧
      ∀ b v, Decides ((blocks t).map Text.trim) b → Json.read b = .ok v → read t = .ok (.value v) := by
  constructor
  · intro hblocks
    obtain ⟨span, hspans, hspan⟩ := objectSpans_of_object h
    refine read_of_ok ⟨((blocks t).map Text.trim).filter fun b => !b.isEmpty, [], ?_, ?_⟩ hspan
    · rw [candidates, hspans]
    · intro b hb
      obtain ⟨block, hmem, rfl⟩ := List.mem_map.1 (List.mem_filter.1 hb).1
      exact hblocks block hmem
  · intro b v hb hv
    have hne : b ≠ [] := by
      rintro rfl
      exact Json.not_malformed_of_ok hv Json.malformed_nil
    exact read_of_ok (decides_candidates hb hne) hv

open scoped Limits in
/-- Fences around a word in a text of an object leave the object as it is. -/
theorem read_of_object_word_fenced :
    Json.read "\x7b\"a\": \"\x60\x60\x60x\x60\x60\x60\"\x7d" =
        .ok (.object [("a", .text "\x60\x60\x60x\x60\x60\x60")]) ∧
      read "\x7b\"a\": \"\x60\x60\x60x\x60\x60\x60\"\x7d" =
        .ok (.value (.object [("a", .text "\x60\x60\x60x\x60\x60\x60")])) := by
  have hobject : Json.read "\x7b\"a\": \"\x60\x60\x60x\x60\x60\x60\"\x7d" =
      .ok (.object [("a", .text "\x60\x60\x60x\x60\x60\x60")]) :=
    Json.toOption_eq_some.1 (by decide +kernel)
  have hblocks : blocks "\x7b\"a\": \"\x60\x60\x60x\x60\x60\x60\"\x7d" = [("x" : Text)] := by decide +kernel
  have hword : Malformed (Text.trim "x") := ⟨.noValue, 1, rfl⟩
  refine ⟨hobject, (read_of_object hobject).1 ?_⟩
  rw [hblocks]
  exact fun b hb => List.mem_singleton.1 hb ▸ hword

open scoped Limits in
/-- Fences around a number in a text of an object make a completion be read as the number. -/
theorem read_number_fenced_ne_object :
    ∃ members, Json.read "\x7b\"a\": \"\x60\x60\x601\x60\x60\x60\"\x7d" = .ok (.object members) ∧
      read "\x7b\"a\": \"\x60\x60\x601\x60\x60\x60\"\x7d" ≠ .ok (.value (.object members)) := by
  have hobject : Json.read "\x7b\"a\": \"\x60\x60\x601\x60\x60\x60\"\x7d" =
      .ok (.object [("a", .text "\x60\x60\x601\x60\x60\x60")]) :=
    Json.toOption_eq_some.1 (by decide +kernel)
  have hblocks : blocks "\x7b\"a\": \"\x60\x60\x601\x60\x60\x60\"\x7d" = [("1" : Text)] := by decide +kernel
  have hnumber : Json.read (Text.trim "1") = .ok (.number (.int 1)) := rfl
  have hdecides : Decides (candidates "\x7b\"a\": \"\x60\x60\x601\x60\x60\x60\"\x7d") (Text.trim "1") :=
    decides_candidates ⟨[], [], by rw [hblocks]; rfl, nofun⟩ (by decide)
  refine ⟨_, hobject, fun h => ?_⟩
  cases h.symm.trans (read_of_ok hdecides hnumber)

end Automation.Completion
