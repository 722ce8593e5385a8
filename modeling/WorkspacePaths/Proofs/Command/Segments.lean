import Mathlib.Logic.ExistsUnique
import WorkspacePaths.Proofs.Command.Words

/-!
# `Proofs.Command.Segments` — command lines as other words and occurrences of an option

The option that names the workspace takes one word or two, so a command line falls into segments: an
occurrence of the option with its value, in either form, or one other word. A command line that falls
into segments does so in one way only, as the word at the front of a segment shows which kind it is.
Taking the option from a command line finds these segments, and fails on every command line that does
not fall into any.

## Contents
- **Segments.** `OptionValue`, `OtherWord` and `Segment`, with the words of each; `spell` for several,
  and what they name and leave, `namedBy` and `othersOf`.
- **One way only.** `words_append_inj`, `spell_injective`.
- **Finding segments.** `extractFrom_words_append` for one, `extractFrom_spell` for all of them, and
  `exists_spell_or_refused`.
- `extractOverride_segments`: what taking the option from a command line comes to.
-/

namespace WorkspacePaths.Command

/-! ## Segments -/

/-- A value that the option takes. -/
@[ext] structure OptionValue where
  text : Text
  ne_nil : text ≠ []
  no_hyphen : text.startsWith "-" = false

/-- A word that is the option in neither of its forms. -/
@[ext] structure OtherWord where
  text : Text
  ne_option : text ≠ workspaceOption
  not_joined : text.startsWith workspaceOptionEquals = false

/-- A segment of a command line. -/
inductive Segment where
  /-- A word that has nothing to do with the option. -/
  | other (word : OtherWord)
  /-- The option and its value, each a word of its own. -/
  | apart (value : OptionValue)
  /-- The option and its value, joined by an equals sign. -/
  | joined (value : OptionValue)

namespace Segment

/-- The words of a segment. -/
def words : Segment → List Text
  | other word => [word.text]
  | apart value => [workspaceOption, value.text]
  | joined value => [workspaceOptionEquals ++ value.text]

/-- The workspace that a segment names, if it is an occurrence of the option. -/
def value? : Segment → Option Text
  | other _ => none
  | apart value | joined value => some value.text

/-- The word of a segment that is no occurrence. -/
def other? : Segment → Option Text
  | other word => some word.text
  | apart _ | joined _ => none

end Segment

/-- The words of segments, one segment behind the other: other words in their order, interleaved with
occurrences of the option. -/
def spell (segments : List Segment) : List Text := segments.flatMap Segment.words

/-- The workspace that the last occurrence among segments names. -/
def namedBy (segments : List Segment) : Option Text := (segments.filterMap Segment.value?).getLast?

/-- The other words among segments. -/
def othersOf (segments : List Segment) : List Text := segments.filterMap Segment.other?

variable {found : Option Text} {segment segment' : Segment} {segments : List Segment}
  {words words' : List Text}

/-! ## One way only -/

theorem OtherWord.ne_append (word : OtherWord) (value : Text) :
    word.text ≠ workspaceOptionEquals ++ value := by
  intro heq
  have hjoined : word.text.startsWith workspaceOptionEquals = true :=
    List.isPrefixOf_iff_prefix.mpr ⟨value, heq.symm⟩
  rw [word.not_joined] at hjoined
  exact absurd hjoined (by simp)

theorem option_ne_append (value : Text) : workspaceOption ≠ workspaceOptionEquals ++ value := by
  intro heq
  have hlength := congrArg List.length heq
  rw [List.length_append, show workspaceOption.length = 16 from rfl,
    show workspaceOptionEquals.length = 17 from rfl] at hlength
  omega

/-- **A segment is known by its words**, whatever stands behind it: the word at its front is the
option, or the option with an equals sign, or neither. -/
theorem words_append_inj (h : segment.words ++ words = segment'.words ++ words') :
    segment = segment' ∧ words = words' := by
  cases segment with
  | other word =>
    cases segment' with
    | other word' =>
      obtain ⟨htext, hwords⟩ := List.cons.inj h
      exact ⟨congrArg Segment.other (OtherWord.ext htext), hwords⟩
    | apart value' => exact absurd (List.cons.inj h).1 word.ne_option
    | joined value' => exact absurd (List.cons.inj h).1 (word.ne_append _)
  | apart value =>
    cases segment' with
    | other word' => exact absurd (List.cons.inj h).1.symm word'.ne_option
    | apart value' =>
      obtain ⟨htext, hwords⟩ := List.cons.inj (List.cons.inj h).2
      exact ⟨congrArg Segment.apart (OptionValue.ext htext), hwords⟩
    | joined value' => exact absurd (List.cons.inj h).1 (option_ne_append _)
  | joined value =>
    cases segment' with
    | other word' => exact absurd (List.cons.inj h).1.symm (word'.ne_append _)
    | apart value' => exact absurd (List.cons.inj h).1.symm (option_ne_append _)
    | joined value' =>
      obtain ⟨htext, hwords⟩ := List.cons.inj h
      exact ⟨congrArg Segment.joined (OptionValue.ext (List.append_cancel_left htext)), hwords⟩

theorem Segment.words_ne_nil (segment : Segment) : segment.words ≠ [] := by
  cases segment <;> exact List.cons_ne_nil _ _

/-- A command line falls into segments in one way at most. -/
theorem spell_injective : Function.Injective spell := by
  intro segments
  induction segments with
  | nil =>
    intro segments' h
    cases segments' with
    | nil => rfl
    | cons first rest =>
      exact absurd (List.append_eq_nil_iff.mp h.symm).1 first.words_ne_nil
  | cons segment rest ih =>
    intro segments' h
    cases segments' with
    | nil => exact absurd (List.append_eq_nil_iff.mp h).1 segment.words_ne_nil
    | cons segment' rest' =>
      obtain ⟨rfl, hrest⟩ := words_append_inj h
      rw [ih hrest]

/-! ## Finding segments -/

theorem OptionValue.checkValue (value : OptionValue) :
    checkValue value.text = .ok value.text := by
  unfold Command.checkValue
  rw [if_neg (by simp [value.ne_nil, value.no_hyphen])]

/-- A word is a value of the option, or it is refused as one. -/
theorem checkValue_cases (t : Text) :
    (∃ value : OptionValue, value.text = t) ∨ checkValue t = .error .valueMissing := by
  by_cases hvalue : t = [] ∨ t.startsWith "-" = true
  · right
    unfold checkValue
    rw [if_pos (by simpa using hvalue)]
  · rw [not_or, Bool.not_eq_true] at hvalue
    exact Or.inl ⟨⟨t, hvalue.1, hvalue.2⟩, rfl⟩

theorem extractFrom_other (found : Option Text) (word : OtherWord) (words : List Text) :
    extractFrom found (word.text :: words)
      = (extractFrom found words).map (fun r => (r.1, word.text :: r.2)) := by
  conv => lhs; unfold extractFrom
  rw [if_neg word.ne_option, if_neg (by simp [word.not_joined])]
  cases extractFrom found words with
  | error failure => rfl
  | ok r => rfl

theorem extractFrom_apart (found : Option Text) (value : Text) (words : List Text) :
    extractFrom found (workspaceOption :: value :: words)
      = (checkValue value).bind (fun v => extractFrom (some v) words) := by
  conv => lhs; unfold extractFrom
  rw [if_pos rfl]
  rfl

theorem extractFrom_joined (found : Option Text) (value : Text) (words : List Text) :
    extractFrom found ((workspaceOptionEquals ++ value) :: words)
      = (checkValue value).bind (fun v => extractFrom (some v) words) := by
  have hjoined : (workspaceOptionEquals ++ value).startsWith workspaceOptionEquals = true :=
    List.isPrefixOf_iff_prefix.mpr (List.prefix_append _ _)
  conv => lhs; unfold extractFrom
  rw [if_neg (option_ne_append value).symm, if_pos hjoined, List.drop_left]
  rfl

/-- **A segment is taken off the front**: an occurrence names the workspace from there on, and another
word is left. -/
theorem extractFrom_words_append (found : Option Text) (segment : Segment) (words : List Text) :
    extractFrom found (segment.words ++ words)
      = (extractFrom (segment.value? <|> found) words).map
          (fun r => (r.1, segment.other?.toList ++ r.2)) := by
  have hsame : ∀ x : Except Failure (Option Text × List Text),
      x = x.map (fun r => (r.1, [] ++ r.2)) := by
    intro x
    cases x with
    | error failure => rfl
    | ok r => rfl
  cases segment with
  | other word => exact extractFrom_other found word words
  | apart value =>
    show extractFrom found (workspaceOption :: value.text :: words) = _
    rw [extractFrom_apart, value.checkValue]
    exact hsame _
  | joined value =>
    show extractFrom found ((workspaceOptionEquals ++ value.text) :: words) = _
    rw [extractFrom_joined, value.checkValue]
    exact hsame _

theorem namedBy_cons (segment : Segment) (segments : List Segment) (found : Option Text) :
    (namedBy (segment :: segments) <|> found)
      = (namedBy segments <|> (segment.value? <|> found)) := by
  unfold namedBy
  cases hvalue : segment.value? with
  | none =>
    rw [List.filterMap_cons_none hvalue]
    rfl
  | some value =>
    rw [List.filterMap_cons_some hvalue, getLast?_cons_orElse]
    rfl

theorem othersOf_cons (segment : Segment) (segments : List Segment) :
    othersOf (segment :: segments) = segment.other?.toList ++ othersOf segments := by
  unfold othersOf
  cases hother : segment.other? with
  | none => rw [List.filterMap_cons_none hother, Option.toList_none, List.nil_append]
  | some word =>
    rw [List.filterMap_cons_some hother, Option.toList_some, List.singleton_append]

/-- **All segments are found**: the last occurrence names the workspace, and the other words are left
in their order. -/
theorem extractFrom_spell (found : Option Text) (segments : List Segment) :
    extractFrom found (spell segments) = .ok (namedBy segments <|> found, othersOf segments) := by
  -- `found` stays open: an occurrence is remembered while the segments behind it are read
  induction segments generalizing found with
  | nil => rfl
  | cons segment rest ih =>
    show extractFrom found (segment.words ++ spell rest) = _
    rw [extractFrom_words_append, ih, namedBy_cons, othersOf_cons]
    rfl

/-- An occurrence in front of words is a segment if its value is one, and else the value is missed. -/
theorem exists_spell_or_refused_of_value {front : List Text} {value : Text}
    (occurrence : OptionValue → Segment)
    (hspell : ∀ v : OptionValue, v.text = value → (occurrence v).words ++ words = front)
    (hread : extractFrom found front
      = (checkValue value).bind (fun v => extractFrom (some v) words))
    (hwords : (∃ segments, spell segments = words)
      ∨ extractFrom (some value) words = .error .valueMissing) :
    (∃ segments, spell segments = front) ∨ extractFrom found front = .error .valueMissing := by
  rcases checkValue_cases value with ⟨v, rfl⟩ | hrefused
  · rcases hwords with ⟨segments, rfl⟩ | hrest
    · exact Or.inl ⟨occurrence v :: segments, hspell v rfl⟩
    · right
      rw [hread, v.checkValue]
      exact hrest
  · right
    rw [hread, hrefused]
    rfl

/-- A command line that does not fall into segments is refused for want of a value. -/
theorem exists_spell_or_refused (found : Option Text) (words : List Text) :
    (∃ segments, spell segments = words) ∨ extractFrom found words = .error .valueMissing := by
  induction found, words using extractFrom.induct with
  | case1 found => exact Or.inl ⟨[], rfl⟩
  | case2 found => exact Or.inr (by rw [extractFrom, if_pos rfl])
  | case3 found value rest ih =>
    apply exists_spell_or_refused_of_value Segment.apart _ (extractFrom_apart found value rest) (ih value)
    rintro v rfl
    rfl
  | case4 found word rest hword hjoined ih =>
    obtain ⟨value, rfl⟩ := List.isPrefixOf_iff_prefix.mp hjoined
    apply exists_spell_or_refused_of_value Segment.joined _ (extractFrom_joined found value rest)
      (ih value)
    rintro v rfl
    rfl
  | case5 found word rest hword hjoined ih =>
    let other : OtherWord := ⟨word, hword, Bool.not_eq_true _ ▸ hjoined⟩
    rcases ih with ⟨segments, rfl⟩ | hrest
    · exact Or.inl ⟨.other other :: segments, rfl⟩
    · right
      rw [show word = other.text from rfl, extractFrom_other, hrest]
      rfl

/-- **Taking the option from a command line**, whatever its words are. The words of any segments, other
words interleaved with occurrences of the option, yield the workspace that the last occurrence names,
if there is one, and the other words in their order. And a command line either falls into segments, in
one way only, or is refused because a value is missing. -/
theorem extractOverride_segments :
    (∀ segments, extractOverride (spell segments) = .ok (namedBy segments, othersOf segments))
    ∧ ∀ words, (∃! segments, spell segments = words)
        ∨ ((¬ ∃ segments, spell segments = words)
          ∧ extractOverride words = .error .valueMissing) := by
  have hfound : ∀ segments,
      extractOverride (spell segments) = .ok (namedBy segments, othersOf segments) := by
    intro segments
    unfold extractOverride
    rw [extractFrom_spell]
    cases namedBy segments with
    | none => rfl
    | some value => rfl
  refine ⟨hfound, ?_⟩
  intro words
  rcases exists_spell_or_refused none words with ⟨segments, rfl⟩ | hrefused
  · exact Or.inl ⟨segments, rfl, fun other hother => spell_injective hother⟩
  · refine Or.inr ⟨?_, hrefused⟩
    rintro ⟨segments, rfl⟩
    exact absurd ((hfound segments).symm.trans hrefused) (by simp)

example : extractOverride ["a", "--workspace-root", "/x", "--workspace-rootb", "--workspace-root=y="]
    = .ok (some "y=", ["a", "--workspace-rootb"]) := by rfl

end WorkspacePaths.Command
