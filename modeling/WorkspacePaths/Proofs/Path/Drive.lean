import WorkspacePaths.Path.Join
import WorkspacePaths.Proofs.Text.Parts

/-!
# `Proofs.Path.Drive` — where a drive ends

A drive letter is over behind its colon, whatever follows. A share is over only where its own name is,
and to see that one has to read past it: what follows a share that is named in full begins with a
separator, and any other text that begins with one could stand there just as well. A share that is not
named in full has no end of its own. It takes the whole path, and what is put behind it becomes part of
it. There are two ways to get there: a server's name with nothing behind it, and the lead of long share
names without its last separator.

## Contents
- **Separators.** `isSlash`, `startsAtSlash` and `Flavour.isShare` by what a text begins with.
- **Servers.** Where the server's name begins, when something is put behind a text (`serverStart_…`).
- **Shares.** `NamesShare`; `splitDrive_append_of_namesShare`, and `namesShare_or_takesAll` for the share
  of any path.
- **Drives.** `drive_cases`: none, a letter, or a share.
-/

namespace WorkspacePaths.Drive

/-- The separator that is written. -/
abbrev backslash : CodePoint := CodePoint.scalar '\\'

/-- What ends a drive letter. -/
abbrev colon : CodePoint := CodePoint.scalar ':'

/-! ## Separators -/

variable {a b c : CodePoint} {t u rest : Text}

theorem eq_of_isSlash (h : isSlash c = true) : c = backslash ∨ c = CodePoint.scalar '/' := by
  simpa [isSlash] using h

theorem plain_of_isSlash (h : isSlash c = true) : plain c = backslash := if_pos h

/-- Text without separators. -/
def Unbroken (t : Text) : Prop := ∀ c ∈ t, isSlash c = false

instance (t : Text) : Decidable (Unbroken t) :=
  inferInstanceAs (Decidable (∀ c ∈ t, isSlash c = false))

theorem Unbroken.nil : Unbroken [] := fun _ hc => absurd hc List.not_mem_nil

theorem Unbroken.not_mem (h : Unbroken t) (hc : isSlash c = true) : c ∉ t := by
  intro hmem
  rw [h c hmem] at hc
  exact absurd hc Bool.false_ne_true

theorem Unbroken.of_append (h : Unbroken (t ++ u)) : Unbroken u :=
  fun c hc => h c (List.mem_append_right _ hc)

theorem startsAtSlash_cons : startsAtSlash (c :: t) = isSlash c := rfl

theorem startsAtSlash_append (h : t ≠ []) : startsAtSlash (t ++ u) = startsAtSlash t := by
  obtain ⟨d, more, rfl⟩ := List.exists_cons_of_ne_nil h
  rfl

theorem Unbroken.startsAtSlash (h : Unbroken t) : startsAtSlash t = false := by
  cases t with
  | nil => rfl
  | cons d more => exact h d List.mem_cons_self

/-- A text is unbroken up to its end or up to its first separator. -/
theorem exists_unbroken_append (t : Text) :
    ∃ front behind, t = front ++ behind ∧ Unbroken front
      ∧ (behind = [] ∨ Drive.startsAtSlash behind = true) := by
  induction t with
  | nil => exact ⟨[], [], rfl, Unbroken.nil, Or.inl rfl⟩
  | cons d more ih =>
    by_cases hd : isSlash d = true
    · exact ⟨[], d :: more, rfl, Unbroken.nil, Or.inr hd⟩
    · obtain ⟨front, behind, rfl, hfront, hbehind⟩ := ih
      refine ⟨d :: front, behind, rfl, ?_, hbehind⟩
      intro c hc
      rcases List.mem_cons.mp hc with rfl | hin
      · exact Bool.not_eq_true _ ▸ hd
      · exact hfront c hin

theorem takeWhile_unbroken (h : Unbroken t) (hrest : rest = [] ∨ startsAtSlash rest = true) :
    (t ++ rest).takeWhile (fun c => !isSlash c) = t := by
  rw [List.takeWhile_append_of_pos (fun c hc => by rw [h c hc]; rfl)]
  cases rest with
  | nil => rw [List.takeWhile_nil, List.append_nil]
  | cons d more =>
    have hd : isSlash d = true := hrest.resolve_left (List.cons_ne_nil _ _)
    rw [List.takeWhile_cons_of_neg (by simp [hd]), List.append_nil]

theorem dropWhile_unbroken (h : Unbroken t) (hrest : rest = [] ∨ startsAtSlash rest = true) :
    (t ++ rest).dropWhile (fun c => !isSlash c) = rest := by
  rw [List.dropWhile_append_of_pos (fun c hc => by rw [h c hc]; rfl)]
  cases rest with
  | nil => rfl
  | cons d more =>
    have hd : isSlash d = true := hrest.resolve_left (List.cons_ne_nil _ _)
    exact List.dropWhile_cons_of_neg (by simp [hd])

/-- A share begins with two separators. -/
theorem isShare_windows : Flavour.windows.isShare (a :: b :: t) = (isSlash a && isSlash b) := by
  simp [Flavour.isShare, Flavour.separators, Flavour.windows, Text.ofString, isSlash]

theorem startsAtSeparator_windows (t : Text) :
    Flavour.windows.startsAtSeparator t = startsAtSlash t := by
  cases t with
  | nil => rfl
  | cons d more =>
    simp [Flavour.startsAtSeparator, Flavour.separators, Flavour.windows, Text.ofString,
      Text.startsWith_singleton_cons, startsAtSlash_cons, isSlash, Bool.beq_eq_decide_eq,
      @eq_comm _ d]

theorem isShare_append (h : Flavour.windows.isShare t = true) (u : Text) :
    Flavour.windows.isShare (t ++ u) = true := by
  match t, h with
  | d :: e :: more, h => rwa [List.cons_append, List.cons_append, isShare_windows] at *

theorem two_le_length_of_isShare (h : Flavour.windows.isShare t = true) : 2 ≤ t.length := by
  match t, h with
  | d :: e :: more, _ => simp

/-! ## Servers

Where the server's name begins is read off the first eight code points of a path, so a text of seven
leaves it open until a separator stands behind it. -/

theorem serverStart_cases (t : Text) :
    serverStart t = 2 ∨ serverStart t = 8 ∧ (t.take 8).map plain = longShareLead := by
  unfold serverStart
  by_cases h : (t.take 8).map plain = longShareLead
  · exact Or.inr ⟨if_pos h, h⟩
  · exact Or.inl (if_neg h)

theorem two_le_serverStart (t : Text) : 2 ≤ serverStart t := by
  rcases serverStart_cases t with h | ⟨h, _⟩ <;> omega

theorem eight_le_length_of_lead (h : (t.take 8).map plain = longShareLead) : 8 ≤ t.length := by
  have hlength := congrArg List.length h
  rw [List.length_map, List.length_take, show longShareLead.length = 8 from rfl] at hlength
  omega

theorem serverStart_of_length_lt (h : t.length < 8) : serverStart t = 2 := by
  rcases serverStart_cases t with htwo | ⟨_, hlead⟩
  · exact htwo
  · exact absurd (eight_le_length_of_lead hlead) (by omega)

theorem serverStart_append (h : 8 ≤ t.length) (u : Text) :
    serverStart (t ++ u) = serverStart t := by
  unfold serverStart
  rw [List.take_append_of_le_length h]

/-- Which separator follows a text of seven code points, and what stands behind it, makes no
difference. -/
theorem serverStart_append_slash (h : 7 ≤ t.length) (hc : isSlash c = true) (u : Text) :
    serverStart (t ++ c :: u) = serverStart (t ++ [backslash]) := by
  have hplain : ((t ++ [c]).take 8).map plain = ((t ++ [backslash]).take 8).map plain := by
    rw [List.map_take, List.map_take, List.map_append, List.map_append, List.map_singleton,
      List.map_singleton, plain_of_isSlash hc, plain_of_isSlash (c := backslash) rfl]
  have hsplit : t ++ c :: u = (t ++ [c]) ++ u := by simp
  rw [hsplit, serverStart_append (by simp; omega)]
  unfold serverStart
  rw [hplain]

/-! ## Shares -/

/-- A share that is named in full: its own name, which may be empty, stands behind the server's, and a
separator between the two. Where the server's name begins is settled with a separator behind the
whole. -/
def NamesShare (share : Text) : Prop :=
  ∃ lead server sep name, share = lead ++ (server ++ sep :: name)
    ∧ lead.length = serverStart (share ++ [backslash])
    ∧ Unbroken server ∧ isSlash sep = true ∧ Unbroken name

example : NamesShare "\\\\server\\share" :=
  ⟨"\\\\", "server", backslash, "share", by decide⟩

theorem shareLength_of_unbroken (h : Unbroken (t.drop (serverStart t))) :
    shareLength t = t.length := by
  have hnone := dropWhile_unbroken h (Or.inl (rfl : ([] : Text) = []))
  rw [List.append_nil] at hnone
  unfold shareLength
  simp only [hnone]

theorem shareLength_of_name {lead server name : Text} (hlead : lead.length = serverStart t)
    (ht : t = lead ++ (server ++ c :: name) ++ rest) (hserver : Unbroken server)
    (hc : isSlash c = true) (hname : Unbroken name)
    (hrest : rest = [] ∨ startsAtSlash rest = true) :
    shareLength t = (lead ++ (server ++ c :: name)).length := by
  have htail : t.drop (serverStart t) = server ++ c :: (name ++ rest) := by
    rw [← hlead, ht, List.append_assoc, List.drop_left, List.append_assoc, List.cons_append]
  have hbehind : c :: (name ++ rest) = [] ∨ startsAtSlash (c :: (name ++ rest)) = true := Or.inr hc
  unfold shareLength
  simp only [htail, takeWhile_unbroken hserver hbehind, dropWhile_unbroken hserver hbehind,
    takeWhile_unbroken hname hrest, List.length_append, List.length_cons]
  omega

theorem driveLength_of_isShare (h : Flavour.windows.isShare t = true) :
    driveLength t = shareLength t := by
  match t, h with
  | d :: e :: more, h =>
    rw [isShare_windows] at h
    exact if_pos h

/-- The lead, a server's name, a separator and a name behind it are the share, if a separator or nothing
comes next. -/
theorem splitDrive_of_name {lead server name : Text} (hshare : Flavour.windows.isShare t = true)
    (hlead : lead.length = serverStart t) (ht : t = lead ++ (server ++ c :: name) ++ rest)
    (hserver : Unbroken server) (hc : isSlash c = true) (hname : Unbroken name)
    (hrest : rest = [] ∨ startsAtSlash rest = true) :
    splitDrive t = (lead ++ (server ++ c :: name), rest) := by
  have hlength := shareLength_of_name hlead ht hserver hc hname hrest
  unfold splitDrive
  rw [driveLength_of_isShare hshare, hlength, ht, List.take_left, List.drop_left]

/-- Where the server's name begins is the same with a separator alone behind the share, if it lies within
the share. -/
theorem serverStart_of_le_length (hle : serverStart (t ++ rest) ≤ t.length)
    (hrest : startsAtSlash rest = true) : serverStart (t ++ [backslash]) = serverStart (t ++ rest) := by
  match rest, hrest with
  | c :: u, hc =>
    by_cases hseven : 7 ≤ t.length
    · exact (serverStart_append_slash hseven hc u).symm
    · rw [serverStart_of_length_lt (by simp; omega)]
      rcases serverStart_cases (t ++ c :: u) with htwo | ⟨height, _⟩
      · exact htwo.symm
      · omega

/-- Behind a share that is named in full, the server's name begins where it does with a separator
alone. In a shorter text, a separator in one of the places of the long lead would be too many. -/
theorem serverStart_of_namesShare {share : Text} (h : NamesShare share) (hc : isSlash c = true)
    (u : Text) : serverStart (share ++ c :: u) = serverStart (share ++ [backslash]) := by
  by_cases hseven : 7 ≤ share.length
  · exact serverStart_append_slash hseven hc u
  · obtain ⟨lead, server, sep, name, hshare, hlead, _, hsep, _⟩ := h
    have htwo : serverStart (share ++ [backslash]) = 2 :=
      serverStart_of_length_lt (by simp; omega)
    rw [htwo] at hlead ⊢
    rcases serverStart_cases (share ++ c :: u) with heq | ⟨_, hlong⟩
    · exact heq
    · -- the separators before the share's name and behind it are both in the third place
      have hplace : ∀ i < 7, 2 ≤ i → longShareLead[i]? = some backslash → i = 3 := by decide
      have hlength : share.length = lead.length + (server.length + (name.length + 1)) := by
        rw [hshare]
        simp
      have hbetween : longShareLead[lead.length + server.length]? = some backslash := by
        rw [← hlong, List.getElem?_map, List.getElem?_take_of_lt (by omega), hshare]
        simp [plain_of_isSlash hsep]
      have hbehind : longShareLead[share.length]? = some backslash := by
        rw [← hlong, List.getElem?_map, List.getElem?_take_of_lt (by omega)]
        simp [plain_of_isSlash hc]
      have hfirst := hplace _ (by omega) (by omega) hbetween
      have hsecond := hplace _ (by omega) (by omega) hbehind
      omega

/-- **A share that is named in full ends there**, whatever follows behind a separator. -/
theorem splitDrive_append_of_namesShare {share : Text}
    (hshare : Flavour.windows.isShare share = true) (h : NamesShare share)
    (hrest : startsAtSlash rest = true) : splitDrive (share ++ rest) = (share, rest) := by
  obtain ⟨lead, server, sep, name, heq, hlead, hserver, hsep, hname⟩ := h
  have hstart : lead.length = serverStart (share ++ rest) := by
    match rest, hrest with
    | c :: u, hc =>
      rw [hlead]
      exact (serverStart_of_namesShare ⟨lead, server, sep, name, heq, hlead, hserver, hsep, hname⟩
        hc u).symm
  subst heq
  exact splitDrive_of_name (isShare_append hshare rest) hstart rfl hserver hsep hname (Or.inr hrest)

theorem splitDrive_of_shareLength (h : Flavour.windows.isShare t = true)
    (hlength : shareLength t = t.length) : splitDrive t = (t, []) := by
  unfold splitDrive
  rw [driveLength_of_isShare h, hlength, List.take_length, List.drop_length]

/-- The lead of long share names without its last separator takes a separator behind it. -/
theorem splitDrive_concat_of_serverStart_ne (h : Flavour.windows.isShare t = true)
    (hne : serverStart (t ++ [backslash]) ≠ serverStart t) :
    splitDrive (t ++ [backslash]) = (t ++ [backslash], []) := by
  have hshort : t.length < 8 :=
    Nat.lt_of_not_le (fun hlong => hne (serverStart_append hlong _))
  rw [serverStart_of_length_lt hshort] at hne
  obtain ⟨height, _⟩ := (serverStart_cases (t ++ [backslash])).resolve_left hne
  have hnothing : (t ++ [backslash]).drop (serverStart (t ++ [backslash])) = [] := by
    rw [height, List.drop_eq_nil_iff, List.length_append, List.length_singleton]
    omega
  refine splitDrive_of_shareLength (isShare_append h _) (shareLength_of_unbroken ?_)
  rw [hnothing]
  exact Unbroken.nil

/-- A server's name at the end takes a separator behind it. -/
theorem splitDrive_concat_of_unbroken (h : Flavour.windows.isShare t = true)
    (hserver : Unbroken (t.drop (serverStart t))) (hstart : serverStart t ≤ t.length) :
    splitDrive (t ++ [backslash]) = (t ++ [backslash], []) := by
  by_cases hsame : serverStart (t ++ [backslash]) = serverStart t
  · have hlead : (t.take (serverStart t)).length = serverStart (t ++ [backslash]) := by
      rw [hsame, List.length_take, Nat.min_eq_left hstart]
    have hwhole : t.take (serverStart t) ++ (t.drop (serverStart t) ++ [backslash])
        = t ++ [backslash] := by
      rw [← List.append_assoc, List.take_append_drop]
    have hsplit := splitDrive_of_name (isShare_append h [backslash]) hlead
      (by rw [hwhole, List.append_nil]) hserver rfl Unbroken.nil (Or.inl rfl)
    rwa [hwhole] at hsplit
  · exact splitDrive_concat_of_serverStart_ne h hsame

/-- **The share of a path** is named in full, or takes all of the path, and then takes a separator
behind the path as well. -/
theorem namesShare_or_takesAll {path : Text} (h : Flavour.windows.isShare path = true) :
    NamesShare (splitDrive path).1
      ∨ splitDrive path = (path, [])
        ∧ splitDrive (path ++ [backslash]) = (path ++ [backslash], []) := by
  have hstart : serverStart path ≤ path.length := by
    rcases serverStart_cases path with htwo | ⟨height, hlong⟩
    · exact htwo ▸ two_le_length_of_isShare h
    · exact height ▸ eight_le_length_of_lead hlong
  have hlead : (path.take (serverStart path)).length = serverStart path := by
    rw [List.length_take, Nat.min_eq_left hstart]
  have hpath := (List.take_append_drop (serverStart path) path).symm
  obtain ⟨server, behind, htail, hserver, hbehind⟩ :=
    exists_unbroken_append (path.drop (serverStart path))
  cases behind with
  | nil =>
    -- the server's name ends the path
    rw [List.append_nil] at htail
    rw [← htail] at hserver
    exact Or.inr ⟨splitDrive_of_shareLength h (shareLength_of_unbroken hserver),
      splitDrive_concat_of_unbroken h hserver hstart⟩
  | cons sep more =>
    have hsep : isSlash sep = true := hbehind.resolve_left (List.cons_ne_nil _ _)
    obtain ⟨name, rest, rfl, hname, hrest⟩ := exists_unbroken_append more
    generalize path.take (serverStart path) = lead at hlead hpath
    obtain hwhole : path = lead ++ (server ++ sep :: name) ++ rest := by
      rw [hpath, htail]
      simp
    rw [splitDrive_of_name h hlead hwhole hserver hsep hname hrest]
    by_cases hsame : serverStart (lead ++ (server ++ sep :: name) ++ [backslash]) = serverStart path
    · exact Or.inl ⟨lead, server, sep, name, rfl, hlead.trans hsame.symm, hserver, hsep, hname⟩
    · -- only a share with nothing behind it is read otherwise with a separator
      have hle : serverStart path ≤ (lead ++ (server ++ sep :: name)).length := by
        rw [← hlead, List.length_append]
        exact Nat.le_add_right _ _
      obtain rfl : rest = [] := by
        refine hrest.resolve_right (fun hslash => hsame ?_)
        rw [hwhole] at hle ⊢
        exact serverStart_of_le_length hle hslash
      rw [List.append_nil] at hwhole
      rw [← hwhole] at hsame ⊢
      exact Or.inr ⟨rfl, splitDrive_concat_of_serverStart_ne h hsame⟩

/-! ## Drives -/

theorem splitDrive_letter (a : CodePoint) (rest : Text) :
    splitDrive (a :: colon :: rest) = ([a, colon], rest) := by
  have hlength : driveLength (a :: colon :: rest) = 2 := by
    simp [driveLength, isSlash]
  unfold splitDrive
  rw [hlength]
  rfl

theorem isShare_letter (a : CodePoint) (rest : Text) :
    Flavour.windows.isShare (a :: colon :: rest) = false := by
  rw [isShare_windows]
  exact Bool.and_false _

/-- A path that begins with neither a share nor a letter and a colon lies on no drive. -/
theorem splitDrive_of_none {path : Text} (hshare : Flavour.windows.isShare path = false)
    (hcolon : path[1]? ≠ some colon) : splitDrive path = ([], path) := by
  have hlength : driveLength path = 0 := by
    match path, hshare, hcolon with
    | [], _, _ => rfl
    | [_], _, _ => rfl
    | d :: e :: more, hshare, hcolon =>
      rw [isShare_windows] at hshare
      have he : e ≠ colon := fun heq => hcolon (congrArg some heq)
      have hslashes : ¬ (isSlash d && isSlash e) = true := by rw [hshare]; exact Bool.false_ne_true
      exact (if_neg hslashes).trans (if_neg he)
  unfold splitDrive
  rw [hlength]
  rfl

/-- **A path lies** on no drive, on a letter's, or on a share. -/
theorem drive_cases (path : Text) :
    (Flavour.windows.isShare path = false ∧ path[1]? ≠ some colon)
      ∨ (∃ a rest, path = a :: colon :: rest) ∨ Flavour.windows.isShare path = true := by
  by_cases hshare : Flavour.windows.isShare path = true
  · exact Or.inr (Or.inr hshare)
  · by_cases hcolon : path[1]? = some colon
    · right
      left
      match path, hcolon with
      | d :: e :: more, hcolon =>
        obtain rfl : e = colon := Option.some.inj hcolon
        exact ⟨d, more, rfl⟩
    · exact Or.inl ⟨Bool.not_eq_true _ ▸ hshare, hcolon⟩

/-- A path lies on a share exactly if it begins as one does. -/
theorem isShare_splitDrive (path : Text) :
    Flavour.windows.isShare (splitDrive path).1 = Flavour.windows.isShare path := by
  rcases drive_cases path with ⟨hshare, hcolon⟩ | ⟨a, rest, rfl⟩ | hshare
  · rw [splitDrive_of_none hshare hcolon, hshare]
    rfl
  · rw [splitDrive_letter, isShare_letter, isShare_letter]
  · have htwo : 2 ≤ driveLength path := by
      have hstart := two_le_serverStart path
      have hlength := two_le_length_of_isShare hshare
      rw [driveLength_of_isShare hshare]
      unfold shareLength
      dsimp only
      split <;> omega
    obtain ⟨n, hn⟩ := Nat.exists_eq_add_of_le' htwo
    unfold splitDrive
    match path, hshare with
    | d :: e :: more, _ =>
      rw [hn, List.take_succ_cons, List.take_succ_cons, isShare_windows, isShare_windows]

end WorkspacePaths.Drive
