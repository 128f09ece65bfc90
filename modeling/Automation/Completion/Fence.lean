import Automation.Chars.Case

/-!
# Fenced blocks

A fenced block stands between two fences of three backticks each. After the first fence there may be
a tag, the word `json` in letters of any case, with spaces and tabs around it, and a line break;
these do not belong to the block. Blocks are found from left to right: what lies between the end of
one block and the next fence belongs to none.
-/

namespace Automation.Completion

/-- A backtick. -/
def tick : CodePoint := '\x60'

/-- What a block begins and ends with. -/
def fence : Text := [tick, tick, tick]

/-- A text cut at the first fence, into what stands before and what stands after it. -/
def cutAtFence : Text → Option (Text × Text)
  | [] => none
  | c :: rest =>
    if fence.isPrefixOf (c :: rest) then some ([], rest.drop 2)
    else (cutAtFence rest).map fun (before, after) => (c :: before, after)

theorem length_cutAtFence {text before after : Text}
    (h : cutAtFence text = some (before, after)) : after.length < text.length := by
  induction text generalizing before with
  | nil => simp [cutAtFence] at h
  | cons c rest ih =>
    rw [cutAtFence] at h
    split at h
    · simp only [Option.some.injEq, Prod.mk.injEq] at h
      rw [← h.2, List.length_drop, List.length_cons]
      omega
    · obtain ⟨⟨b, a⟩, hb, heq⟩ := Option.map_eq_some_iff.1 h
      simp only [Prod.mk.injEq] at heq
      have := ih (heq.2 ▸ hb)
      rw [List.length_cons]
      omega

/-- Whether a code point may stand around a tag. -/
def isTagSpace (c : CodePoint) : Bool :=
  c == ' ' || c == '\t'

/-- The tag. -/
def tag : Text := "json"

/-- A text without the tag it begins with. -/
def dropTag (text : Text) : Text :=
  if List.zipWith Chars.sameLetter tag text = List.replicate tag.length true then
    text.drop tag.length
  else text

/-- A text without a code point if it begins with it. -/
def dropFirst (c : CodePoint) (text : Text) : Text :=
  if text.head? = some c then text.drop 1 else text

/-- A text without the tag, space and line break it begins with. -/
def dropOpening (text : Text) : Text :=
  let untagged := (dropTag (text.dropWhile isTagSpace)).dropWhile isTagSpace
  dropFirst '\n' (dropFirst '\r' untagged)

theorem length_dropWhile_le (p : CodePoint → Bool) (text : Text) :
    (text.dropWhile p).length ≤ text.length :=
  (List.dropWhile_suffix p).length_le

theorem length_dropTag_le (text : Text) : (dropTag text).length ≤ text.length := by
  unfold dropTag
  split
  · simp
  · exact Nat.le_refl _

theorem length_dropFirst_le (c : CodePoint) (text : Text) :
    (dropFirst c text).length ≤ text.length := by
  unfold dropFirst
  split
  · simp
  · exact Nat.le_refl _

theorem length_dropOpening_le (text : Text) : (dropOpening text).length ≤ text.length :=
  calc (dropOpening text).length
    _ ≤ _ := length_dropFirst_le _ _
    _ ≤ _ := length_dropFirst_le _ _
    _ ≤ _ := length_dropWhile_le _ _
    _ ≤ _ := length_dropTag_le _
    _ ≤ _ := length_dropWhile_le _ _

/-- The fenced blocks of a text, in order. -/
def blocks (text : Text) : List Text :=
  match _ : cutAtFence text with
  | none => []
  | some (_, opened) =>
    match _ : cutAtFence (dropOpening opened) with
    | none => []
    | some (block, rest) => block :: blocks rest
termination_by text.length
decreasing_by
  have h₁ := length_cutAtFence ‹cutAtFence text = _›
  have h₂ := length_cutAtFence ‹cutAtFence (dropOpening opened) = _›
  have h₃ := length_dropOpening_le opened
  omega

end Automation.Completion
