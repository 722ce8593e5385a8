import WorkspacePaths.Command.Request
import WorkspacePaths.Proofs.Text.Parts

/-!
# `Proofs.Command.Words` — words that are no options

A word that does not begin with a hyphen is taken for what it is, whatever else it holds: it is left
where it stands when the workspace is taken from the command line, and a command gets it as an
argument. The values of the option that names the workspace are such words, so none of them is mistaken
for the option, and the values are those that stand behind it, wherever it stands.

## Contents
- `extractOverride_append`: the workspace named behind such words.
- `workspaceValues`: all values of the option; `named_eq_getLast?`, as the last one counts.
- `ofWords?_of_no_hyphen`, `ofWords_expand`: such words behind a command.
-/

namespace WorkspacePaths.Command

/-- The code point that options begin with. -/
abbrev hyphen : CodePoint := CodePoint.scalar '-'

variable {word : Text} {words : List Text}

/-! ## The workspace -/

theorem ne_of_no_hyphen {option : Text} (h : word.startsWith [hyphen] = false)
    (hoption : option.startsWith [hyphen] = true) : word ≠ option := by
  rintro rfl
  rw [h] at hoption
  exact absurd hoption (by simp)

theorem not_startsWith_of_no_hyphen {rest : Text} (h : word.startsWith [hyphen] = false) :
    word.startsWith (hyphen :: rest) = false := by
  cases word with
  | nil => rfl
  | cons c more =>
    rw [Text.startsWith_singleton_cons] at h
    unfold Text.startsWith
    rw [List.isPrefixOf_cons_cons, h, Bool.false_and]

theorem extractFrom_append (found : Option Text) (value : Text)
    (h : ∀ word ∈ words, word.startsWith [hyphen] = false) :
    extractFrom found (words ++ [workspaceOption, value])
      = (checkValue value).map (fun v => (some v, words)) := by
  induction words with
  | nil =>
    show (checkValue value >>= fun v => extractFrom (some v) []) = _
    cases checkValue value with
    | error failure => rfl
    | ok v => rfl
  | cons word rest ih =>
    have hword := h word List.mem_cons_self
    rw [List.cons_append]
    -- the word is the option in neither of its forms
    unfold extractFrom
    rw [if_neg (ne_of_no_hyphen hword rfl),
      if_neg (by rw [show workspaceOptionEquals = hyphen :: _ from rfl,
        not_startsWith_of_no_hyphen hword]; simp),
      ih (fun other hother => h other (List.mem_cons_of_mem _ hother))]
    cases checkValue value with
    | error failure => rfl
    | ok v => rfl

/-- The workspace named behind other words is taken, and the words are left, unless it is no value. -/
theorem extractOverride_append (value : Text)
    (h : ∀ word ∈ words, word.startsWith [hyphen] = false) :
    extractOverride (words ++ [workspaceOption, value])
      = (checkValue value).map (fun v => (some v, words)) :=
  extractFrom_append none value h

/-- The values that the words give to the option that names the workspace: for each time that it
stands among them, the word behind it or what an equals sign joins to it. -/
def workspaceValues : List Text → List Text
  | [] => []
  | word :: rest =>
    (if word = workspaceOption then rest.head?.toList
      else if word.startsWith workspaceOptionEquals then [word.drop workspaceOptionEquals.length]
      else [])
    ++ workspaceValues rest

theorem workspaceValues_cons_of_no_hyphen (h : word.startsWith [hyphen] = false) (rest : List Text) :
    workspaceValues (word :: rest) = workspaceValues rest := by
  have hequals : word.startsWith workspaceOptionEquals = false := not_startsWith_of_no_hyphen h
  rw [workspaceValues, if_neg (ne_of_no_hyphen h rfl), if_neg (by rw [hequals]; simp),
    List.nil_append]

theorem no_hyphen_of_checkValue {value v : Text} (h : checkValue value = .ok v) :
    v = value ∧ value.startsWith [hyphen] = false := by
  unfold checkValue at h
  split at h
  · exact absurd h (by simp)
  · next hvalid =>
    rw [Bool.or_eq_true, not_or] at hvalid
    exact ⟨(Except.ok.inj h).symm, Bool.not_eq_true _ ▸ hvalid.2⟩

/-- Words behind a value are read with it, if they are read at all. -/
theorem extractFrom_of_checkValue {value : Text} {r : Option Text × List Text}
    (h : (checkValue value >>= fun v => extractFrom (some v) words) = .ok r) :
    value.startsWith [hyphen] = false ∧ extractFrom (some value) words = .ok r := by
  cases hvalue : checkValue value with
  | error failure =>
    rw [hvalue] at h
    exact absurd h (by simp [bind, Except.bind])
  | ok v =>
    rw [hvalue] at h
    obtain ⟨rfl, hhyphen⟩ := no_hyphen_of_checkValue hvalue
    exact ⟨hhyphen, h⟩

theorem getLast?_cons_orElse (value : Text) (values : List Text) (found : Option Text) :
    ((value :: values).getLast? <|> found) = (values.getLast? <|> some value) := by
  rw [List.getLast?_cons]
  cases values.getLast? with
  | none => rfl
  | some last => rfl

theorem named_eq_of_extractFrom {found named : Option Text} {others : List Text}
    (h : extractFrom found words = .ok (named, others)) :
    named = ((workspaceValues words).getLast? <|> found) := by
  induction found, words using extractFrom.induct generalizing named others with
  | case1 found =>
    rw [extractFrom] at h
    exact (congrArg Prod.fst (Except.ok.inj h)).symm
  | case2 found =>
    rw [extractFrom, if_pos rfl] at h
    exact absurd h (by simp)
  | case3 found value rest ih =>
    rw [extractFrom, if_pos rfl] at h
    obtain ⟨hhyphen, hrest⟩ := extractFrom_of_checkValue h
    -- the value itself is no option, so it gives no value of its own
    have hvalues : workspaceValues (workspaceOption :: value :: rest)
        = value :: workspaceValues rest := by
      rw [workspaceValues, if_pos rfl, workspaceValues_cons_of_no_hyphen hhyphen]
      rfl
    rw [hvalues, getLast?_cons_orElse]
    exact ih value hrest
  | case4 found word rest hword hequals ih =>
    unfold extractFrom at h
    rw [if_neg hword, if_pos hequals] at h
    obtain ⟨_, hrest⟩ := extractFrom_of_checkValue h
    rw [workspaceValues, if_neg hword, if_pos hequals, List.singleton_append, getLast?_cons_orElse]
    exact ih _ hrest
  | case5 found word rest hword hequals ih =>
    unfold extractFrom at h
    rw [if_neg hword, if_neg hequals] at h
    rw [workspaceValues, if_neg hword, if_neg hequals, List.nil_append]
    cases hrest : extractFrom found rest with
    | error failure =>
      rw [hrest] at h
      exact absurd h (by simp [bind, Except.bind])
    | ok found' =>
      rw [hrest] at h
      exact (congrArg Prod.fst (Except.ok.inj h)).symm.trans (ih hrest)

/-- **The last value counts** of those that the words give to the option. -/
theorem named_eq_getLast? {named : Option Text} {others : List Text}
    (h : extractOverride words = .ok (named, others)) : named = (workspaceValues words).getLast? := by
  rw [named_eq_of_extractFrom h]
  cases (workspaceValues words).getLast? with
  | none => rfl
  | some value => rfl

/-! ## Arguments -/

theorem isOption_of_no_hyphen (h : word.startsWith [hyphen] = false) : isOption word = false := by
  unfold isOption
  rw [show (("-" : String) : Text) = [hyphen] from rfl, h, Bool.false_and]

theorem namesWorkspace_of_no_hyphen (h : word.startsWith [hyphen] = false) :
    namesWorkspace (splitValue word).1 = false := by
  have hoption : (splitValue word).1.startsWith [hyphen] = false := by
    cases word with
    | nil => rfl
    | cons c rest =>
      show Text.startsWith ((c :: rest).takeWhile (fun c => c ≠ CodePoint.scalar '=')) _ = false
      rw [Text.startsWith_singleton_cons] at h
      rw [List.takeWhile_cons]
      split
      · rw [Text.startsWith_singleton_cons, h]
      · rfl
  unfold namesWorkspace
  rw [show (("-" : String) : Text) = [hyphen] from rfl, hoption, Bool.false_and]

theorem ofWords?_of_no_hyphen (h : ∀ word ∈ words, word.startsWith [hyphen] = false) :
    Arguments.ofWords? words = some { values := words } := by
  induction words with
  | nil => rfl
  | cons word rest ih =>
    have hword := h word List.mem_cons_self
    unfold Arguments.ofWords?
    rw [if_neg (ne_of_no_hyphen hword rfl),
      if_neg (by rw [namesWorkspace_of_no_hyphen hword]; simp),
      if_neg (by rw [isOption_of_no_hyphen hword]; simp),
      ih (fun other hother => h other (List.mem_cons_of_mem _ hother))]
    rfl

theorem asksInfo_of_no_hyphen (h : ∀ word ∈ words, word.startsWith [hyphen] = false) :
    Request.asksInfo words = false := by
  have hword : ∀ word ∈ optionWords words, word.startsWith [hyphen] = false :=
    fun word hin => h word ((List.takeWhile_subset _) hin)
  have hhelp : Request.asksHelp words = false := by
    unfold Request.asksHelp
    rw [List.any_eq_false]
    intro word hin
    simp [helpOptions, ne_of_no_hyphen (hword word hin) (show Text.startsWith "--help" _ = _ from rfl),
      ne_of_no_hyphen (hword word hin) (show Text.startsWith "-h" _ = _ from rfl)]
  have hversion : (optionWords words).contains versionOption = false := by
    rw [List.contains_eq_mem, decide_eq_false_iff_not]
    intro hin
    exact absurd (hword _ hin) (by decide)
  unfold Request.asksInfo
  rw [hhelp, hversion]
  rfl

/-- **Words without a hyphen in front are entries** to the command that expands entries. -/
theorem ofWords_expand (h : ∀ word ∈ words, word.startsWith [hyphen] = false) :
    Request.ofWords (("expand" : Text) :: words) = .expand none words := by
  show Request.ofCommand Request.ofExpand words = _
  unfold Request.ofCommand
  rw [asksInfo_of_no_hyphen h, ofWords?_of_no_hyphen h]
  rfl

end WorkspacePaths.Command
