import WorkspacePaths.Proofs.Entry.Scan

/-!
# `Proofs.Entry.Tokens` — a text taken apart into tokens and what stands between them

A scan finds tokens one after another. What it finds can be said without the scan: a text is a chain of
tokens with literal text before, between and behind them, where every token may stand in front of what
follows it, and no token begins in the literal text. A text can be taken apart in this way, and in no
other. So there is one reading of a text, and the scan finds it.

Whether a token begins at some place depends on the text behind that place. Two texts in a row are
therefore read one by one as long as the second one does not change what begins in the first.

## Contents
- **Readings.** `TokenReading`, and what can be made of one: `fill`, `keys`, `pieces`.
- **Forms.** `TokenForm`, `IsReading`; `Recognises` ties a form to a recogniser.
- **One reading.** `pieces_of_isReading`, `exists_isReading`, `isReading_unique`.
- **Texts in a row.** `scan_append_of_isReading`.
- **The two forms.** `variableForm` and `placeholderForm`, each with its recogniser.
-/

namespace WorkspacePaths

/-! ## Readings -/

/-- A text taken apart, from the left. -/
inductive TokenReading where
  /-- Literal text up to the end. -/
  | ending (literal : Text)
  /-- Literal text, then a token by its key, then the rest. -/
  | token (literal key : Text) (rest : TokenReading)

namespace TokenReading

/-- The text with something written for every key. -/
def fill (write : Text → Text) : TokenReading → Text
  | ending literal => literal
  | token literal key rest => literal ++ write key ++ rest.fill write

/-- The keys of the tokens, in order. -/
def keys : TokenReading → List Text
  | ending _ => []
  | token _ key rest => key :: rest.keys

/-- The reading cut up further, into what a scan finds. -/
def pieces : TokenReading → List Piece
  | ending literal => literal.map .plain
  | token literal key rest => literal.map .plain ++ .token key :: rest.pieces

/-- Literal text in front. It becomes one with the literal text that it meets. -/
def prepend (front : Text) : TokenReading → TokenReading
  | ending literal => ending (front ++ literal)
  | token literal key rest => token (front ++ literal) key rest

/-- One reading behind another. -/
def append : TokenReading → TokenReading → TokenReading
  | ending literal, r => r.prepend literal
  | token literal key rest, r => token literal key (rest.append r)

/-- What a scan finds, put together to a reading. -/
def ofPieces : List Piece → TokenReading
  | [] => ending []
  | .plain c :: rest => (ofPieces rest).prepend [c]
  | .token key :: rest => token [] key (ofPieces rest)

variable {r s : TokenReading}

theorem fill_prepend (write : Text → Text) (front : Text) (r : TokenReading) :
    (r.prepend front).fill write = front ++ r.fill write := by
  cases r with
  | ending literal => rfl
  | token literal key rest => simp only [prepend, fill, List.append_assoc]

theorem pieces_prepend (front : Text) (r : TokenReading) :
    (r.prepend front).pieces = front.map .plain ++ r.pieces := by
  cases r with
  | ending literal => exact List.map_append
  | token literal key rest => simp only [prepend, pieces, List.map_append, List.append_assoc]

theorem fill_append (write : Text → Text) (r s : TokenReading) :
    (r.append s).fill write = r.fill write ++ s.fill write := by
  induction r with
  | ending literal => exact fill_prepend write literal s
  | token literal key rest ih => simp only [append, fill, ih, List.append_assoc]

theorem pieces_append (r s : TokenReading) : (r.append s).pieces = r.pieces ++ s.pieces := by
  induction r with
  | ending literal => exact pieces_prepend literal s
  | token literal key rest ih =>
    simp only [append, pieces, ih, List.append_assoc, List.cons_append]

theorem prepend_nil (r : TokenReading) : r.prepend [] = r := by
  cases r <;> rfl

theorem prepend_cons (c : CodePoint) (front : Text) (r : TokenReading) :
    r.prepend (c :: front) = (r.prepend front).prepend [c] := by
  cases r <;> rfl

theorem ofPieces_append (literal : Text) (pieces : List Piece) :
    ofPieces (literal.map .plain ++ pieces) = (ofPieces pieces).prepend literal := by
  induction literal with
  | nil => exact (prepend_nil _).symm
  | cons c rest ih => rw [List.map_cons, List.cons_append, ofPieces, ih, ← prepend_cons]

/-- Cutting a reading up loses nothing. -/
theorem ofPieces_pieces (r : TokenReading) : ofPieces r.pieces = r := by
  induction r with
  | ending literal =>
    have h := ofPieces_append literal []
    rw [List.append_nil] at h
    rw [pieces, h, ofPieces, prepend, List.append_nil]
  | token literal key rest ih =>
    rw [pieces, ofPieces_append, ofPieces, ih, prepend, List.append_nil]

theorem pieces_injective (h : r.pieces = s.pieces) : r = s := by
  rw [← ofPieces_pieces r, h, ofPieces_pieces]

/-- What becomes text piece by piece, and leaves single code points as they are, fills the reading. -/
theorem flatMap_pieces {f : Piece → Text} (hplain : ∀ c, f (.plain c) = [c]) (r : TokenReading) :
    r.pieces.flatMap f = r.fill (fun key => f (.token key)) := by
  induction r with
  | ending literal => exact flatMap_plain hplain literal
  | token literal key rest ih =>
    rw [pieces, List.flatMap_append, List.flatMap_cons, flatMap_plain hplain, ih, fill,
      List.append_assoc]

/-- What takes nothing from single code points is a matter of the keys. -/
theorem flatMap_pieces_keys {α : Type} {f : Piece → List α} (hplain : ∀ c, f (.plain c) = [])
    (r : TokenReading) : r.pieces.flatMap f = r.keys.flatMap (fun key => f (.token key)) := by
  have hliteral : ∀ literal : Text, (literal.map Piece.plain).flatMap f = [] := by
    intro literal
    rw [List.flatMap_map, List.flatMap_eq_nil_iff]
    exact fun c _ => hplain c
  induction r with
  | ending literal => exact hliteral literal
  | token literal key rest ih =>
    rw [pieces, List.flatMap_append, List.flatMap_cons, hliteral, ih, keys, List.flatMap_cons,
      List.nil_append]

/-- The tokens of the pieces are those of the reading. -/
theorem token_mem_pieces_iff {key : Text} : .token key ∈ r.pieces ↔ key ∈ r.keys := by
  have hliteral : ∀ literal : Text, Piece.token key ∉ literal.map Piece.plain := by
    intro literal h
    obtain ⟨c, _, heq⟩ := List.mem_map.mp h
    exact absurd heq (by simp)
  induction r with
  | ending literal => exact iff_of_false (hliteral literal) List.not_mem_nil
  | token literal other rest ih =>
    simp only [pieces, keys, List.mem_append, List.mem_cons, Piece.token.injEq, ih]
    exact or_iff_right (hliteral literal)

/-- Only what is written for its keys makes a difference. -/
theorem fill_congr {write other : Text → Text} (h : ∀ key ∈ r.keys, write key = other key) :
    r.fill write = r.fill other := by
  induction r with
  | ending literal => rfl
  | token literal key rest ih =>
    rw [fill, fill, h key List.mem_cons_self, ih (fun k hk => h k (List.mem_cons_of_mem key hk))]

end TokenReading

/-! ## Forms -/

/-- How tokens of one kind are written, and where they stand. -/
structure TokenForm where
  /-- The code point with which tokens begin. -/
  mark : CodePoint
  /-- What of a token stands behind its mark. -/
  behindMark : Text → Text
  /-- A token with the key may stand in front of the text. -/
  Fits : (key after : Text) → Prop
  /-- A token begins with a mark in front of the text. -/
  Opens : (behind : Text) → Prop

namespace TokenForm

/-- The token with a key. -/
def write (form : TokenForm) (key : Text) : Text := form.mark :: form.behindMark key

/-- With the text after it, no token begins at any place of the literal text. -/
def IsLiteral (form : TokenForm) (literal after : Text) : Prop :=
  ∀ before behind, literal = before ++ form.mark :: behind → ¬ form.Opens (behind ++ after)

/-- Every token may stand where it does, and none begins in the literal text. -/
def WellFormed (form : TokenForm) : TokenReading → Prop
  | .ending literal => form.IsLiteral literal []
  | .token literal key rest =>
    form.IsLiteral literal (form.write key ++ rest.fill form.write)
      ∧ form.Fits key (rest.fill form.write)
      ∧ form.WellFormed rest

/-- A reading of a text: it makes up the text, and its tokens are where tokens of this form are. -/
structure IsReading (form : TokenForm) (t : Text) (r : TokenReading) : Prop where
  text : r.fill form.write = t
  wellFormed : form.WellFormed r

/-- The recogniser finds the tokens of the form, where they begin and nowhere else. -/
structure Recognises (form : TokenForm) (recognise : Recogniser) : Prop where
  token : ∀ {key after}, form.Fits key after →
    recognise (form.write key ++ after) = some (key, (form.behindMark key).length)
  no_token : ∀ {behind}, ¬ form.Opens behind → recognise (form.mark :: behind) = none
  no_mark : ∀ {c} {rest}, c ≠ form.mark → recognise (c :: rest) = none
  opens : ∀ {behind}, form.Opens behind →
    ∃ key after, behind = form.behindMark key ++ after ∧ form.Fits key after

variable {form : TokenForm} {recognise : Recogniser} {literal after a b t : Text} {c : CodePoint}
  {r s : TokenReading}

theorem isLiteral_nil (form : TokenForm) (after : Text) : form.IsLiteral [] after := by
  intro before behind h
  exact absurd h (by simp)

theorem isLiteral_cons_iff :
    form.IsLiteral (c :: literal) after ↔
      (c = form.mark → ¬ form.Opens (literal ++ after)) ∧ form.IsLiteral literal after := by
  constructor
  · intro h
    refine ⟨?_, ?_⟩
    · rintro rfl
      exact h [] literal rfl
    · intro before behind heq
      exact h (c :: before) behind (by rw [heq, List.cons_append])
  · rintro ⟨hfirst, hrest⟩ before behind heq
    -- a mark is the first code point, or it stands in the rest
    cases before with
    | nil =>
      obtain ⟨hmark, rfl⟩ := List.cons.inj heq
      exact hfirst hmark
    | cons d more =>
      exact hrest more behind (List.cons.inj heq).2

theorem isLiteral_append {other : Text} (hfront : form.IsLiteral literal (other ++ after))
    (hback : form.IsLiteral other after) : form.IsLiteral (literal ++ other) after := by
  induction literal with
  | nil => exact hback
  | cons c rest ih =>
    obtain ⟨hc, hrest⟩ := isLiteral_cons_iff.mp hfront
    rw [List.cons_append, isLiteral_cons_iff, List.append_assoc]
    exact ⟨hc, ih hrest⟩

/-- Text in which no token begins may be put in front of a reading. -/
theorem wellFormed_prepend (hfront : form.IsLiteral literal (r.fill form.write))
    (h : form.WellFormed r) : form.WellFormed (r.prepend literal) := by
  cases r with
  | ending other =>
    refine isLiteral_append ?_ h
    rw [List.append_nil]
    exact hfront
  | token other key rest =>
    obtain ⟨hother, hfits, hrest⟩ := h
    refine ⟨isLiteral_append ?_ hother, hfits, hrest⟩
    rw [← List.append_assoc]
    exact hfront

/-! ## One reading -/

theorem scan_literal (hform : form.Recognises recognise) (h : form.IsLiteral literal after) :
    scan recognise 0 (literal ++ after) = literal.map .plain ++ scan recognise 0 after := by
  induction literal with
  | nil => rfl
  | cons c rest ih =>
    obtain ⟨hfirst, hrest⟩ := isLiteral_cons_iff.mp h
    have hnone : recognise (c :: (rest ++ after)) = none := by
      -- only a mark may begin a token, and this one does not
      by_cases hc : c = form.mark
      · rw [hc]
        exact hform.no_token (hfirst hc)
      · exact hform.no_mark hc
    rw [List.cons_append, scan_cons_of_none hnone, ih hrest, List.map_cons, List.cons_append]

theorem scan_token {key : Text} (hform : form.Recognises recognise) (h : form.Fits key after) :
    scan recognise 0 (form.write key ++ after) = .token key :: scan recognise 0 after := by
  have hfound := hform.token h
  unfold write at hfound ⊢
  rw [List.cons_append] at hfound ⊢
  rw [scan_cons_of_some hfound, List.drop_left]

/-- **The scan finds every reading**: if a text can be taken apart, that is how it is cut. -/
theorem pieces_of_isReading (hform : form.Recognises recognise) (h : form.IsReading t r) :
    scan recognise 0 t = r.pieces := by
  obtain ⟨rfl, hwell⟩ := h
  induction r with
  | ending literal =>
    have hcut := scan_literal hform hwell
    rw [List.append_nil, scan_nil, List.append_nil] at hcut
    exact hcut
  | token literal key rest ih =>
    obtain ⟨hliteral, hfits, hrest⟩ := hwell
    rw [TokenReading.fill, List.append_assoc, scan_literal hform hliteral, scan_token hform hfits,
      ih hrest, TokenReading.pieces]

/-- **Every text has a reading.** -/
theorem exists_isReading (hform : form.Recognises recognise) (t : Text) :
    ∃ r, form.IsReading t r := by
  -- a token is taken off as a whole, so the induction is on how much is left
  induction hn : t.length using Nat.strongRecOn generalizing t with
  | _ n ih =>
    cases t with
    | nil => exact ⟨.ending [], rfl, isLiteral_nil form []⟩
    | cons c rest =>
      rw [List.length_cons] at hn
      by_cases hopens : c = form.mark ∧ form.Opens rest
      · obtain ⟨rfl, hrest⟩ := hopens
        obtain ⟨key, after, rfl, hfits⟩ := hform.opens hrest
        have hlt : after.length < n := by
          rw [List.length_append] at hn
          omega
        obtain ⟨r, rfl, hwell⟩ := ih after.length hlt after rfl
        refine ⟨.token [] key r, ?_, isLiteral_nil form _, hfits, hwell⟩
        simp only [TokenReading.fill, write, List.nil_append, List.cons_append]
      · -- one code point of literal text, which joins the literal text behind it
        obtain ⟨r, rfl, hwell⟩ := ih rest.length (by omega) rest rfl
        refine ⟨r.prepend [c], TokenReading.fill_prepend _ [c] r, wellFormed_prepend ?_ hwell⟩
        refine isLiteral_cons_iff.mpr ⟨?_, isLiteral_nil form _⟩
        intro hmark hrest
        exact hopens ⟨hmark, hrest⟩

/-- **No text has two readings.** -/
theorem isReading_unique (hform : form.Recognises recognise) (hr : form.IsReading t r)
    (hs : form.IsReading t s) : r = s := by
  apply TokenReading.pieces_injective
  rw [← pieces_of_isReading hform hr, ← pieces_of_isReading hform hs]

/-! ## Texts in a row -/

/-- A reading goes on with another one, if the text of the second opens nothing in the first and lets
its tokens stand. -/
theorem wellFormed_append (hr : form.WellFormed r) (hs : form.WellFormed s)
    (hopens : ∀ before behind, r.fill form.write = before ++ form.mark :: behind →
      form.Opens (behind ++ s.fill form.write) → form.Opens behind)
    (hfits : ∀ key after, form.Fits key after → form.Fits key (after ++ s.fill form.write)) :
    form.WellFormed (r.append s) := by
  induction r with
  | ending literal =>
    have hliteral : form.IsLiteral literal (s.fill form.write) := by
      intro before behind heq hopen
      have hfirst := hr before behind heq
      rw [List.append_nil] at hfirst
      exact hfirst (hopens before behind heq hopen)
    exact wellFormed_prepend hliteral hs
  | token literal key rest ih =>
    obtain ⟨hliteral, hkey, hrest⟩ := hr
    -- a place in the rest is a place in the whole, with the same text behind it
    have hrestOpens : ∀ before behind, rest.fill form.write = before ++ form.mark :: behind →
        form.Opens (behind ++ s.fill form.write) → form.Opens behind := by
      intro before behind heq
      refine hopens (literal ++ form.write key ++ before) behind ?_
      rw [TokenReading.fill, heq, List.append_assoc, List.append_assoc, List.append_assoc]
    refine ⟨?_, ?_, ih hrest hrestOpens⟩
    · intro before behind heq hopen
      rw [TokenReading.fill_append, ← List.append_assoc, ← List.append_assoc] at hopen
      refine hliteral before behind heq (hopens before _ ?_ ?_)
      · rw [TokenReading.fill, heq, List.append_assoc, List.append_assoc, List.cons_append]
      · rwa [← List.append_assoc]
    · rw [TokenReading.fill_append]
      exact hfits key _ hkey

/-- **Texts in a row are cut one by one**, if the second opens no token in the first and does not keep a
token from standing in front of it. -/
theorem scan_append_of_isReading (hform : form.Recognises recognise)
    (hopens : ∀ before behind, a = before ++ form.mark :: behind →
      form.Opens (behind ++ b) → form.Opens behind)
    (hfits : ∀ key after, form.Fits key after → form.Fits key (after ++ b)) :
    scan recognise 0 (a ++ b) = scan recognise 0 a ++ scan recognise 0 b := by
  obtain ⟨r, hr⟩ := exists_isReading hform a
  obtain ⟨s, hs⟩ := exists_isReading hform b
  have hboth : form.IsReading (a ++ b) (r.append s) := by
    refine ⟨?_, ?_⟩
    · rw [TokenReading.fill_append, hr.text, hs.text]
    · apply wellFormed_append hr.wellFormed hs.wellFormed
      · rw [hr.text, hs.text]
        exact hopens
      · rw [hs.text]
        exact hfits
  rw [pieces_of_isReading hform hboth, pieces_of_isReading hform hr, pieces_of_isReading hform hs,
    TokenReading.pieces_append]

end TokenForm

/-! ## Variables -/

/-- The text begins with a word character. -/
def startsAtWord (t : Text) : Bool := t.head?.any CodePoint.isWord

/-- A variable is a dollar sign and word characters, as many as there are. A dollar sign begins one if a
word character stands behind it. -/
def variableForm : TokenForm where
  mark := dollar
  behindMark name := name
  Fits name after := name ≠ [] ∧ (∀ c ∈ name, c.isWord = true) ∧ startsAtWord after = false
  Opens behind := startsAtWord behind = true

theorem takeWhile_isWord_eq_nil {after : Text} (h : startsAtWord after = false) :
    after.takeWhile CodePoint.isWord = [] := by
  cases after with
  | nil => rfl
  | cons c rest =>
    have hc : ¬ c.isWord = true := by
      rw [Bool.not_eq_true]
      exact h
    exact List.takeWhile_cons_of_neg hc

theorem variableForm_recognises : variableForm.Recognises variableAt? where
  token := by
    rintro name after ⟨hne, hword, hafter⟩
    have hrun : (name ++ after).takeWhile CodePoint.isWord = name := by
      rw [List.takeWhile_append_of_pos hword, takeWhile_isWord_eq_nil hafter, List.append_nil]
    show variableAt? (dollar :: (name ++ after)) = some (name, name.length)
    unfold variableAt?
    simp only [hrun]
    exact if_neg hne
  no_token := by
    intro behind h
    have hstart : startsAtWord behind = false := Bool.not_eq_true _ ▸ h
    show variableAt? (dollar :: behind) = none
    unfold variableAt?
    simp only [takeWhile_isWord_eq_nil hstart, if_true]
  no_mark := fun hc => variableAt?_of_ne hc _
  opens := by
    intro behind h
    refine ⟨behind.takeWhile CodePoint.isWord, behind.dropWhile CodePoint.isWord,
      List.takeWhile_append_dropWhile.symm, ?_, ?_, ?_⟩
    · intro hempty
      cases behind with
      | nil => exact absurd h (by simp [variableForm, startsAtWord])
      | cons c rest =>
        have hc : c.isWord = true := h
        rw [List.takeWhile_cons_of_pos hc] at hempty
        exact absurd hempty (List.cons_ne_nil _ _)
    · intro c hc
      exact List.all_eq_true.mp List.all_takeWhile c hc
    · have hhead := List.head?_dropWhile_not CodePoint.isWord behind
      unfold startsAtWord
      cases hdrop : (behind.dropWhile CodePoint.isWord).head? with
      | none => rfl
      | some c =>
        rw [hdrop] at hhead
        exact hhead

/-! ## Placeholders -/

/-- A placeholder is a key between braces, which is not empty and holds no closing brace. An opening
brace begins one if such a key and a closing brace stand behind it. -/
def placeholderForm : TokenForm where
  mark := openBrace
  behindMark key := key ++ [closeBrace]
  Fits key _ := key ≠ [] ∧ closeBrace ∉ key
  Opens behind := ∃ key after, behind = key ++ closeBrace :: after ∧ key ≠ [] ∧ closeBrace ∉ key

theorem closeBrace_not_mem_takeWhile (t : Text) :
    closeBrace ∉ t.takeWhile (fun c => c ≠ closeBrace) := by
  intro h
  have htest := List.all_eq_true.mp List.all_takeWhile closeBrace h
  exact absurd htest (by simp)

/-- A run up to a closing brace, if it is not all of the text, has one behind it. -/
theorem exists_closeBrace_of_length_ne {t : Text}
    (h : (t.takeWhile (fun c => c ≠ closeBrace)).length ≠ t.length) :
    ∃ after, t = t.takeWhile (fun c => c ≠ closeBrace) ++ closeBrace :: after := by
  have hsplit := List.takeWhile_append_dropWhile (p := fun c => decide (c ≠ closeBrace)) (l := t)
  have hhead := List.head?_dropWhile_not (fun c => decide (c ≠ closeBrace)) t
  cases hdrop : t.dropWhile (fun c => c ≠ closeBrace) with
  | nil =>
    rw [hdrop, List.append_nil] at hsplit
    exact absurd (congrArg List.length hsplit) h
  | cons c after =>
    rw [hdrop, List.head?_cons] at hhead
    obtain rfl : c = closeBrace := by simpa using hhead
    exact ⟨after, by rw [← hdrop, hsplit]⟩

theorem placeholderForm_recognises : placeholderForm.Recognises placeholderAt? where
  token := by
    rintro key after ⟨hne, hkey⟩
    show placeholderAt? (openBrace :: (key ++ [closeBrace] ++ after)) = _
    rw [List.append_assoc, List.singleton_append, placeholderAt?_token hne hkey]
    simp [placeholderForm]
  no_token := by
    intro behind h
    show placeholderAt? (openBrace :: behind) = none
    unfold placeholderAt?
    refine if_pos ?_
    rw [Bool.or_eq_true, decide_eq_true_iff, decide_eq_true_iff, Decidable.or_iff_not_imp_left]
    intro hne
    -- a run that is not all there is would end at a closing brace
    apply Decidable.byContradiction
    intro hlength
    obtain ⟨after, hafter⟩ := exists_closeBrace_of_length_ne hlength
    exact h ⟨_, after, hafter, hne, closeBrace_not_mem_takeWhile behind⟩
  no_mark := fun hc => placeholderAt?_of_ne hc _
  opens := by
    rintro behind ⟨key, after, rfl, hne, hkey⟩
    refine ⟨key, after, ?_, hne, hkey⟩
    show key ++ closeBrace :: after = key ++ [closeBrace] ++ after
    rw [List.append_assoc, List.singleton_append]

end WorkspacePaths
