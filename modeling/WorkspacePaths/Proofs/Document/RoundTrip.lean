import Mathlib.Data.List.Induction
import WorkspacePaths.Document.Json.Reader
import WorkspacePaths.Proofs.Document.QuotedText

/-!
# `Proofs.Document.RoundTrip` — what is printed is read again

Reading a document is running the tokens of a text through a machine. A piece of text takes the
machine from one state to another wherever the piece stands and whatever follows it, so what a
document does is put together from what its pieces do: blanks nothing, brackets and commas one step
each, a quoted text one step, and lines of such pieces one after another by induction.

## Contents
- **Pieces.** `Reads`, with `Reads.append`; `reads_blank`, `reads_mark`, `reads_quote`.
- **Lines.** `reads_joinWith`: pieces with something between them; `reads_block`: lines between
  brackets.
- **Documents.** `reads_printTexts`, `reads_printMember`, and `read_printLists`: named lists of texts,
  printed as a document, are read as what they were.
-/

namespace WorkspacePaths.Json

/-! ## Pieces -/

/-- The text takes the machine from one state to another, wherever it stands and whatever follows. -/
def Reads (t : Text) (s s' : State) : Prop :=
  ∀ pos rest, (tokensFrom 0 pos (t ++ rest)).foldlM State.step s
    = (tokensFrom 0 (pos + t.length) rest).foldlM State.step s'

variable {t u : Text} {s s' s'' : State} {c : CodePoint}

theorem Reads.nil (s : State) : Reads [] s s := fun _ _ => rfl

theorem Reads.append (ht : Reads t s s') (hu : Reads u s' s'') : Reads (t ++ u) s s'' := by
  intro pos rest
  rw [List.append_assoc, ht, hu, List.length_append, Nat.add_assoc]

theorem reads_blank (h : ∀ c ∈ t, isBlank c = true) (s : State) : Reads t s s := by
  induction t with
  | nil => exact Reads.nil s
  | cons c more ih =>
    intro pos rest
    rw [List.cons_append, tokensFrom, if_pos (h c List.mem_cons_self),
      ih (fun d hd => h d (List.mem_cons_of_mem _ hd)), List.length_cons, Nat.add_assoc,
      Nat.add_comm 1]

/-- A mark that is a token by itself takes one step. -/
theorem reads_mark (token : Token) (hblank : isBlank c = false)
    (htoken : ∀ pos rest, tokenAt pos (c :: rest) = (token, 1)) (hlast : token.isLast = false)
    (hstep : ∀ pos, s.step (pos, token) = .ok s') : Reads [c] s s' := by
  intro pos rest
  have htokens := tokensFrom_token (s := []) hblank (htoken pos rest) hlast
  rw [List.nil_append] at htokens
  rw [List.singleton_append, htokens, List.foldlM_cons, hstep]
  rfl

theorem reads_quote (hstep : ∀ pos, s.step (pos, .text t) = .ok s') : Reads (quote t) s s' := by
  intro pos rest
  rw [tokensFrom_quote, List.foldlM_cons, hstep]
  rfl

/-! ## Lines -/

theorem joinWith_concat (sep : Text) {parts : List Text} (h : parts ≠ []) (part : Text) :
    Text.joinWith sep (parts ++ [part]) = Text.joinWith sep parts ++ sep ++ part := by
  induction parts with
  | nil => exact absurd rfl h
  | cons first rest ih =>
    by_cases hrest : rest = []
    · rw [hrest, List.singleton_append, Text.joinWith_cons (by simp), Text.joinWith_singleton,
        Text.joinWith_singleton]
    · rw [List.cons_append, Text.joinWith_cons (by simp), ih hrest, Text.joinWith_cons hrest]
      simp only [List.append_assoc]

/-- Pieces with a separator between them: if the first one leads from `start` to where one item is
read, and each further one, behind its separator, to where one item more is read, all of them lead to
where all items are read. -/
theorem reads_joinWith {α : Type} {sep : Text} {print : α → Text} {start : State}
    {after : List α → State} (hfirst : ∀ a, Reads (print a) start (after [a]))
    (hnext : ∀ l a, Reads (sep ++ print a) (after l) (after (l ++ [a]))) {l : List α}
    (h : l ≠ []) : Reads (Text.joinWith sep (l.map print)) start (after l) := by
  induction l using List.reverseRec with
  | nil => exact absurd rfl h
  | append_singleton l a ih =>
    by_cases hl : l = []
    · rw [hl, List.nil_append, List.map_singleton, Text.joinWith_singleton]
      exact hfirst a
    · rw [List.map_append, List.map_singleton, joinWith_concat sep (by simpa using hl),
        List.append_assoc]
      exact (ih hl).append (hnext l a)

/-- **Lines between two brackets**, each behind blanks, with a comma at the end of each but the last. -/
theorem reads_block {α : Type} {opening closing indent outer : Text} {print : α → Text}
    {start : State} {after more : List α → State} {l : List α} (h : l ≠ [])
    (hindent : ∀ c ∈ indent, isBlank c = true) (houter : ∀ c ∈ outer, isBlank c = true)
    (hopening : Reads opening s start) (hfirst : ∀ a, Reads (print a) start (after [a]))
    (hcomma : ∀ l, Reads "," (after l) (more l))
    (hnext : ∀ l a, Reads (print a) (more l) (after (l ++ [a])))
    (hclosing : Reads closing (after l) s') :
    Reads (block opening closing indent outer (l.map print)) s s' := by
  have hbreak : ∀ state, Reads "\n" state state := fun state => reads_blank (by decide) state
  have hlines : Reads (Text.joinWith ",\n" (l.map (fun a => indent ++ print a))) start (after l) := by
    refine reads_joinWith ?_ ?_ h
    · intro a
      exact (reads_blank hindent start).append (hfirst a)
    · intro l a
      have hfurther := (hcomma l).append (hbreak (more l))
      exact hfurther.append ((reads_blank hindent (more l)).append (hnext l a))
  unfold block
  rw [List.map_map]
  exact ((((hopening.append (hbreak start)).append hlines).append (hbreak (after l))).append
    (reads_blank houter (after l))).append hclosing

/-! ## Documents -/

variable {stack : List Frame}

/-- An array of texts as a value. -/
def textsValue (ts : List Text) : Value := .array (ts.map Value.text)

/-- The members that named lists of texts make up. -/
def listMembers (ms : List (Text × List Text)) : Members :=
  ms.foldl (fun members m => members.put m.1 (textsValue m.2)) []

/-- Where the machine stands when some items of an array are read. -/
def afterItems (stack : List Frame) (l : List Text) : State :=
  ⟨.array (l.map Value.text).reverse :: stack, .next⟩

theorem afterItems_concat (stack : List Frame) (l : List Text) (t : Text) :
    afterItems stack (l ++ [t])
      = ⟨.array (.text t :: (l.map Value.text).reverse) :: stack, .next⟩ := by
  unfold afterItems
  rw [List.map_append, List.map_singleton, List.reverse_append, List.reverse_singleton,
    List.singleton_append]

theorem reads_openBracket (h : stack.length < nestingLimit) :
    Reads "[" ⟨stack, .value⟩ ⟨.array [] :: stack, .firstItem⟩ := by
  apply reads_mark .openBracket (by decide) (fun _ _ => rfl) rfl
  intro _
  show State.enter stack .array = _
  unfold State.enter
  rw [if_neg (Nat.not_le.mpr h)]

theorem reads_closeBracket (stack : List Frame) (l : List Text) :
    Reads "]" (afterItems stack l) (State.complete stack (textsValue l)) := by
  apply reads_mark .closeBracket (by decide) (fun _ _ => rfl) rfl
  intro _
  show Except.ok (State.complete stack (.array (l.map Value.text).reverse.reverse)) = _
  rw [List.reverse_reverse]
  rfl

/-- An array of texts is read as their value. -/
theorem reads_printTexts (h : stack.length < nestingLimit) (ts : List Text) :
    Reads (printTexts ts) ⟨stack, .value⟩ (State.complete stack (textsValue ts)) := by
  unfold printTexts
  by_cases hempty : ts = []
  · -- the machine that expects a first item accepts the end of the array instead
    have hclosing : Reads "]" ⟨.array [] :: stack, .firstItem⟩
        (State.complete stack (textsValue [])) :=
      reads_mark .closeBracket (by decide) (fun _ _ => rfl) rfl (fun _ => rfl)
    rw [if_pos hempty, hempty]
    exact Reads.append (t := "[") (reads_openBracket h) hclosing
  · have hcomma : ∀ l, Reads "," (afterItems stack l) ⟨(afterItems stack l).stack, .value⟩ :=
      fun _ => reads_mark .comma (by decide) (fun _ _ => rfl) rfl (fun _ => rfl)
    rw [if_neg hempty]
    refine reads_block hempty (by decide) (by decide) (reads_openBracket h) ?_ hcomma ?_
      (reads_closeBracket stack ts)
    · intro t
      exact reads_quote (fun _ => rfl)
    · intro l t
      rw [afterItems_concat]
      exact reads_quote (fun _ => rfl)

theorem reads_printMember (m : Text × List Text) {members : Members} {key : Text}
    {expected : Expectation} (h : expected = .key ∨ expected = .firstKey) :
    Reads (printMember m) ⟨[.object members key], expected⟩
      ⟨[.object (members.put m.1 (textsValue m.2)) m.1], .next⟩ := by
  have hkey : Reads (quote m.1) ⟨[.object members key], expected⟩
      ⟨[.object members m.1], .colon⟩ := by
    apply reads_quote
    intro _
    rcases h with rfl | rfl <;> rfl
  have hcolon : Reads ": " ⟨[.object members m.1], .colon⟩ ⟨[.object members m.1], .value⟩ := by
    refine Reads.append (t := ":") (reads_mark .colon (by decide) (fun _ _ => rfl) rfl
      (fun _ => rfl)) (reads_blank (by decide) _)
  have hdepth : [Frame.object members m.1].length < nestingLimit := by
    rw [List.length_singleton]
    decide
  exact (hkey.append hcolon).append (reads_printTexts hdepth m.2)

/-- Where the machine stands when some members of the one object are read. -/
def afterMembers (l : List (Text × List Text)) : State :=
  ⟨[.object (listMembers l) ((l.getLast?.map Prod.fst).getD [])], .next⟩

theorem afterMembers_concat (l : List (Text × List Text)) (m : Text × List Text) :
    afterMembers (l ++ [m])
      = ⟨[.object ((listMembers l).put m.1 (textsValue m.2)) m.1], .next⟩ := by
  unfold afterMembers listMembers
  rw [List.foldl_append, List.getLast?_concat]
  rfl

theorem reads_printLists {ms : List (Text × List Text)} (h : ms ≠ []) :
    Reads (printLists ms) ⟨[], .value⟩ ⟨[], .nothing (.object (listMembers ms))⟩ := by
  have hopening : Reads "\x7b" ⟨[], .value⟩ ⟨[.object [] []], .firstKey⟩ :=
    reads_mark .openBrace (by decide) (fun _ _ => rfl) rfl (fun _ => rfl)
  have hcomma : ∀ l, Reads "," (afterMembers l) ⟨(afterMembers l).stack, .key⟩ :=
    fun _ => reads_mark .comma (by decide) (fun _ _ => rfl) rfl (fun _ => rfl)
  have hclosing : Reads "\x7d" (afterMembers ms) ⟨[], .nothing (.object (listMembers ms))⟩ :=
    reads_mark .closeBrace (by decide) (fun _ _ => rfl) rfl (fun _ => rfl)
  unfold printLists
  refine reads_block h (by decide) (by simp) hopening ?_ hcomma ?_ hclosing
  · intro m
    exact reads_printMember m (Or.inr rfl)
  · intro l m
    rw [afterMembers_concat]
    exact reads_printMember m (Or.inl rfl)

/-- **Named lists of texts come back** from a document: it is read as the object with their values,
blanks behind it or not. -/
theorem read_printLists {ms : List (Text × List Text)} (h : ms ≠ []) {blanks : Text}
    (hblanks : ∀ c ∈ blanks, isBlank c = true) :
    read (printLists ms ++ blanks) = .ok (.object (listMembers ms)) := by
  have hrun := ((reads_printLists h).append
    (reads_blank hblanks ⟨[], .nothing (.object (listMembers ms))⟩)) 0 []
  rw [List.append_nil] at hrun
  have hhead : (printLists ms ++ blanks).head? ≠ some (CodePoint.scalar '\uFEFF') := by
    unfold printLists block
    simp [Text.ofString]
  unfold read tokens
  rw [if_neg hhead, hrun]
  rfl

end WorkspacePaths.Json
