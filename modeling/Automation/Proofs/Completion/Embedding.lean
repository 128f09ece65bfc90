import Automation.Proofs.Completion.Answer

/-!
# Objects among other text

A completion may say something before and behind the object that it holds. Where no brace is open at
the end of what stands before, a scanner starts afresh, so the spans of a text are those of its front
part and those of the rest (`objectSpans_append`). What stands behind an object does not matter at
all, because the object ends where its own closing brace is.

Main statement: `read_embedded`.
-/

namespace Automation.Completion

open Json (Malformed)

variable {p q t w current rest : Text} {s : Scan} {members : Members}

/-! ### Front parts -/

/-- Where a scanner stands after a text. -/
def Scan.after (s : Scan) (t : Text) : Scan :=
  t.foldl Scan.next s

@[simp] theorem Scan.after_nil (s : Scan) : s.after [] = s :=
  rfl

@[simp] theorem Scan.after_cons (s : Scan) (c : CodePoint) (t : Text) : s.after (c :: t) = (s.next c).after t :=
  rfl

/-- A scanner that has left all braces is between texts: quotes count only inside of braces. -/
def Scan.Settled (s : Scan) : Prop :=
  s.depth = 0 → s.mode = .plain

theorem Scan.settled_next (c : CodePoint) (h : s.Settled) : (s.next c).Settled := by
  intro hdepth
  obtain ⟨depth, mode⟩ := s
  cases mode with
  | plain =>
    by_cases hquote : c = '"'
    · by_cases hzero : depth = 0
      · simp [next, hquote, hzero]
      · simp [next, hquote, hzero] at hdepth
    · simp only [next, hquote, if_false]
      split
      · rfl
      · split <;> rfl
  | quoted =>
    -- a scanner in a text is inside of braces and stays there
    have hzero : depth = 0 := by
      simp only [next] at hdepth
      split at hdepth
      · exact hdepth
      · split at hdepth <;> exact hdepth
    cases h hzero
  | escaped => cases h hdepth

theorem Scan.settled_after (t : Text) (h : s.Settled) : (s.after t).Settled := by
  induction t generalizing s with
  | nil => exact h
  | cons c t ih => exact ih (settled_next c h)

/-- A scanner that starts outside of all braces is outside again as soon as none is open. -/
theorem Scan.after_outside_of_depth (h : (outside.after t).depth = 0) : outside.after t = outside := by
  have hmode := settled_after (s := outside) t (fun _ => rfl) h
  cases hs : outside.after t with
  | mk depth mode => simp_all [outside]

/-- Scanning goes on behind a front part as if nothing stood before, if no brace is open there. -/
theorem spansFrom_append (hcurrent : s.depth = 0 → current = []) (h : s.after w = .outside) :
    spansFrom s current (w ++ rest) = spansFrom s current w ++ objectSpans rest := by
  induction w generalizing s current with
  | nil =>
    obtain rfl : s = .outside := h
    rw [hcurrent rfl]
    rfl
  | cons c w ih =>
    rw [Scan.after_cons] at h
    rw [List.cons_append, spansFrom, spansFrom]
    split
    · exact ih (fun hdepth => absurd hdepth ‹_›) h
    · split
      · rw [ih (fun _ => rfl) h, List.cons_append]
      · exact ih (fun _ => rfl) h

/-- The spans of a text are those of a front part and those of the rest, if no brace is open in
between. -/
theorem objectSpans_append (q : Text) (h : (Scan.outside.after p).depth = 0) :
    objectSpans (p ++ q) = objectSpans p ++ objectSpans q :=
  spansFrom_append (fun _ => rfl) (Scan.after_outside_of_depth h)

/-! ### Embedded objects -/

theorem eq_nil_of_space_append {c : CodePoint} (hp : ∀ d ∈ p, Json.isSpace d) (h : (p ++ t).head? = some c)
    (hc : Json.isSpace c = false) : p = [] := by
  cases p with
  | nil => rfl
  | cons d p =>
    obtain rfl : d = c := Option.some.inj h
    cases hc.symm.trans (hp d List.mem_cons_self)

theorem eq_nil_of_append_space {c : CodePoint} (hq : ∀ d ∈ q, Json.isSpace d) (h : (t ++ q).getLast? = some c)
    (hc : Json.isSpace c = false) : q = [] := by
  have hreverse : (q.reverse ++ t.reverse).head? = some c := by
    rw [← List.reverse_append, List.head?_reverse, h]
  have hnil := eq_nil_of_space_append (fun d hd => hq d (List.mem_reverse.1 hd)) hreverse hc
  exact List.reverse_eq_nil_iff.1 hnil

/-- An object that a text is from its first to its last brace is the first span of the text, whatever
stands behind it. -/
theorem objectSpans_object_append [Limits] (h : Json.read t = .ok (.object members))
    (hopen : t.head? = some (.ofChar '\x7b')) (hclose : t.getLast? = some (.ofChar '\x7d')) (q : Text) :
    objectSpans (t ++ q) = t :: objectSpans q := by
  obtain ⟨before, w, after, hbefore, hafter, rfl, hw, -⟩ := Json.read_object h
  obtain rfl : before = [] := eq_nil_of_space_append hbefore hopen (by decide)
  obtain rfl : after = [] := by
    have hlast : ((.ofChar '\x7b' :: w ++ [.ofChar '\x7d'] : Text) ++ after).getLast? = some (.ofChar '\x7d') := by
      simpa using hclose
    exact eq_nil_of_append_space hafter hlast (by decide)
  have hspan : objectSpans (.ofChar '\x7b' :: (w ++ .ofChar '\x7d' :: q)) = _ :: objectSpans q :=
    objectSpans_braces hw
  simpa using hspan

/-- The first object in a text without fences decides what is found, if no span before it follows the
grammar. -/
theorem decides_embedded [Limits] (h : Json.read t = .ok (.object members))
    (hopen : t.head? = some (.ofChar '\x7b')) (hclose : t.getLast? = some (.ofChar '\x7d')) (hdepth : (Scan.outside.after p).depth = 0)
    (hspans : ∀ span ∈ objectSpans p, Malformed span) (hfence : ¬fence <:+: p ++ t ++ q) :
    Decides (candidates (p ++ t ++ q)) t := by
  refine ⟨objectSpans p, objectSpans q, ?_, hspans⟩
  rw [candidates, blocks_eq_nil hfence, List.append_assoc, objectSpans_append _ hdepth,
    objectSpans_object_append h hopen hclose]
  rfl

/-- **An object is found among other text**: a completion without fences is read as the object in it,
from its first to its last brace, if no brace is open before the object and no span before it follows
the grammar. -/
theorem read_embedded [Limits] (h : Json.read t = .ok (.object members)) (hopen : t.head? = some (.ofChar '\x7b'))
    (hclose : t.getLast? = some (.ofChar '\x7d')) (hdepth : (Scan.outside.after p).depth = 0)
    (hspans : ∀ span ∈ objectSpans p, Malformed span) (hfence : ¬fence <:+: p ++ t ++ q) :
    read (p ++ t ++ q) = .ok (.value (.object members)) :=
  read_of_ok (decides_embedded h hopen hclose hdepth hspans hfence) h

open scoped Limits in
/-- Neither a group in braces that is no object, nor what follows, keeps an object from being found. -/
theorem read_embedded_behind_group :
    Json.read "\x7b\"a\": \"\\\"\x7d\x7b\", \"b\": [1]\x7d" =
        .ok (.object [("a", .text "\"\x7d\x7b"), ("b", .array [.int 1])]) ∧
      read ("\"As \x7bx: \"\x7d\"\x7d says: " ++ "\x7b\"a\": \"\\\"\x7d\x7b\", \"b\": [1]\x7d"
          ++ " or \x7b\"c\": 2\x7d") =
        .ok (.value (.object [("a", .text "\"\x7d\x7b"), ("b", .array [.int 1])])) := by
  have hobject : Json.read "\x7b\"a\": \"\\\"\x7d\x7b\", \"b\": [1]\x7d" =
      .ok (.object [("a", .text "\"\x7d\x7b"), ("b", .array [.int 1])]) :=
    Json.toOption_eq_some.1 (by decide +kernel)
  have hspans : objectSpans "\"As \x7bx: \"\x7d\"\x7d says: " = [("\x7bx: \"\x7d\"\x7d" : Text)] := by
    decide +kernel
  have hgroup : Malformed "\x7bx: \"\x7d\"\x7d" := ⟨.noKey, 7, by decide +kernel⟩
  refine ⟨hobject, read_embedded hobject (by decide) (by decide) (by decide +kernel) ?_ ?_⟩
  · rw [hspans]
    exact fun span hspan => List.mem_singleton.1 hspan ▸ hgroup
  · decide +kernel

end Automation.Completion
