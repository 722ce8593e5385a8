import WorkspacePaths.Proofs.Entry.Anchor
import WorkspacePaths.Proofs.Entry.Table
import WorkspacePaths.Proofs.Path.Joining

/-!
# `Proofs.Entry.Absolute` — entries that stay relative to a drive

Where there are drives, an entry that is not absolute is joined to the home directory or to the
workspace root. With both of them absolute, what comes out is absolute as well, unless the entry lies on
another drive and says nothing of its root: such an entry is relative to the current directory of that
drive, which is not known here, and stays as it is. Normalising makes no difference, since every path
that gets there names a drive.

## Contents
- `baseAndTail?`: what an entry is joined from; `anchor_windows`, that it is joined so, and
  `baseAndTail?_cases`, what bases and tails look like.
- `resolve_windows_isAbsolute_iff`: which entries become absolute paths;
  `resolve_windows_isAbsolute_on_drives` for entries on the drive of the root and on others.
-/

namespace WorkspacePaths

open Drive Flavour

variable {home root t base tail path : Text}

/-! ## Bases and tails -/

/-- What an entry is joined from, a base and a tail; `none` for one that is absolute. -/
def baseAndTail? (home root t : Text) : Option (Text × Text) :=
  if t.startsWith "~" then some (home, windows.stripLeading (t.drop 1))
  else if t.startsWith "./" then some (root, windows.stripLeading (t.drop 2))
  else if windows.isAbsolute t then none
  else some (root, t)

/-- **An entry is anchored** by joining its tail to its base, and left alone if it is absolute. -/
theorem anchor_windows (bs : Bindings) (home root t : Text) :
    anchor (.ofBindings bs (some home)) .windows root t
      = some (match baseAndTail? home root t with
          | some (base, tail) => driveJoin base tail
          | none => t) := by
  unfold baseAndTail? anchor
  by_cases htilde : t.startsWith [tilde] = true
  · obtain ⟨rest, rfl⟩ := Text.startsWith_singleton_iff.mp htilde
    rfl
  · by_cases hcurrent : t.startsWith "./" = true
    · obtain ⟨rest, rfl⟩ := startsWith_current_iff.mp hcurrent
      rfl
    · have hno : ∀ rest, t ≠ dot :: slash :: rest :=
        fun rest heq => hcurrent (startsWith_current_iff.mpr ⟨rest, heq⟩)
      rw [Anchor.ofText_of_no_mark (Bool.not_eq_true _ ▸ htilde) hno,
        show (("~" : String) : Text) = [tilde] from rfl, if_neg htilde, if_neg hcurrent]
      by_cases habsolute : windows.isAbsolute t = true
      · rw [if_pos habsolute, if_pos habsolute]
      · rw [if_neg habsolute, if_neg habsolute]
        rfl

theorem stripLeading_windows (t : Text) : windows.stripLeading t = t.dropWhile isSlash := by
  unfold stripLeading
  congr 1
  funext c
  simp [separators, windows, Text.ofString, isSlash]

theorem startsAtSlash_stripLeading (t : Text) :
    startsAtSlash (windows.stripLeading t) = false := by
  rw [stripLeading_windows]
  induction t with
  | nil => rfl
  | cons c rest ih =>
    by_cases hc : isSlash c = true
    · rw [List.dropWhile_cons_of_pos hc]
      exact ih
    · rw [List.dropWhile_cons_of_neg hc, startsAtSlash_cons]
      exact Bool.not_eq_true _ ▸ hc

theorem isShare_of_not_startsAtSlash (h : startsAtSlash t = false) : windows.isShare t = false := by
  match t, h with
  | [], _ => rfl
  | [_], _ => rfl
  | a :: b :: rest, h =>
    rw [startsAtSlash_cons] at h
    rw [isShare_windows, h, Bool.false_and]

/-- **An entry is absolute, or has a base and a tail.** The base is the home directory or the workspace
root. The tail lies on no share: separators at its front are dropped, or it is not absolute. -/
theorem baseAndTail?_cases (home root t : Text) :
    (windows.isAbsolute t = true ∧ baseAndTail? home root t = none)
      ∨ ∃ base tail, baseAndTail? home root t = some (base, tail)
          ∧ (base = home ∨ base = root) ∧ windows.isShare tail = false := by
  have hstripped : ∀ rest, windows.isShare (windows.stripLeading rest) = false :=
    fun rest => isShare_of_not_startsAtSlash (startsAtSlash_stripLeading rest)
  unfold baseAndTail?
  by_cases htilde : t.startsWith "~" = true
  · rw [if_pos htilde]
    exact Or.inr ⟨home, _, rfl, Or.inl rfl, hstripped _⟩
  · rw [if_neg htilde]
    by_cases hcurrent : t.startsWith "./" = true
    · rw [if_pos hcurrent]
      exact Or.inr ⟨root, _, rfl, Or.inr rfl, hstripped _⟩
    · rw [if_neg hcurrent]
      by_cases habsolute : windows.isAbsolute t = true
      · rw [if_pos habsolute]
        exact Or.inl ⟨habsolute, rfl⟩
      · rw [if_neg habsolute]
        have hshare : ¬ windows.isShare t = true :=
          fun hshare => habsolute (isAbsolute_of_isShare hshare)
        exact Or.inr ⟨root, t, rfl, Or.inr rfl, Bool.not_eq_true _ ▸ hshare⟩

/-! ## Entries -/

/-- **Which entries become absolute paths**, where there are drives and both the home directory and the
workspace root are absolute: all of them, except those that are not absolute as they are expanded and
whose tail lies on a drive other than that of its base, with no separator behind it. These become the
normal form of their tail. -/
theorem resolve_windows_isAbsolute_iff (bs : Bindings) {home : Text} {root : Root}
    (hvalid : root.text.hasSurrogate = false) (hroot : windows.isAbsolute root.text = true)
    (hhome : windows.isAbsolute home = true) (entry : Text) :
    let env := Environment.ofBindings bs (some home)
    ∃ expanded path, (expand env root.text entry).outcome = .ok expanded
      ∧ (resolve env .windows root entry).outcome = .ok path
      ∧ (windows.isAbsolute path = false ↔
          ∃ base tail, baseAndTail? home root.text expanded = some (base, tail)
            ∧ LeavesBase base tail)
      ∧ ∀ base tail, baseAndTail? home root.text expanded = some (base, tail) →
          LeavesBase base tail → path = normalise .windows tail := by
  intro env
  let expanded := bs.expand root.text entry
  have hexpand : (expand env root.text entry).outcome = .ok expanded :=
    congrArg Logged.outcome (bs.expand_ofBindings (some home) root.text entry)
  have hanchor := anchor_windows bs home root.text expanded
  have hresolve : ∀ path, anchor env .windows root.text expanded = some path →
      (resolve env .windows root entry).outcome = .ok (normalise .windows path) :=
    fun path hpath => congrArg Logged.outcome (Bindings.resolve_of_anchor hvalid hpath)
  rcases baseAndTail?_cases home root.text expanded with
    ⟨habsolute, hnone⟩ | ⟨base, tail, hsome, hbase, hshare⟩
  · have hpath : anchor env .windows root.text expanded = some expanded := by
      rw [hanchor, hnone]
    have hkept : windows.isAbsolute (normalise .windows expanded) = true := by
      rw [isAbsolute_normalise_windows (splitDrive_ne_nil_of_isAbsolute habsolute), habsolute]
    exact ⟨expanded, _, hexpand, hresolve _ hpath, by simp [hkept, hnone], by simp [hnone]⟩
  · have hpath : anchor env .windows root.text expanded = some (driveJoin base tail) := by
      rw [hanchor, hsome]
    have hbaseAbsolute : windows.isAbsolute base = true := by
      rcases hbase with rfl | rfl
      · exact hhome
      · exact hroot
    refine ⟨expanded, _, hexpand, hresolve _ hpath, ?_, ?_⟩
    · rw [← Bool.not_eq_true, isAbsolute_normalise_driveJoin_iff hbaseAbsolute hshare,
        Decidable.not_not]
      constructor
      · intro hleaves
        exact ⟨base, tail, hsome, hleaves⟩
      · rintro ⟨base', tail', hparts, hleaves⟩
        obtain ⟨rfl, rfl⟩ := Prod.mk.inj (Option.some.inj (hsome.symm.trans hparts))
        exact hleaves
    · intro base' tail' hparts hleaves
      obtain ⟨rfl, rfl⟩ := Prod.mk.inj (Option.some.inj (hsome.symm.trans hparts))
      rw [(driveJoin_of_leavesBase hshare hleaves).1]

/-- An entry on the drive of the root stays there, though a variable spells the drive in another case. An
entry on another drive than the home directory's is left where it is. -/
theorem resolve_windows_isAbsolute_on_drives :
    let env := Environment.ofBindings [("DRIVE", "d")] (some "C:\\Users\\me")
    let root := Root.ofText "D:\\ws"
    root.text.hasSurrogate = false ∧ windows.isAbsolute root.text = true
      ∧ windows.isAbsolute "C:\\Users\\me" = true
      ∧ (∃ path, (resolve env .windows root ".//$DRIVE:lib").outcome = .ok path
          ∧ windows.isAbsolute path = true)
      ∧ (resolve env .windows root "~e:x\\..\\y").outcome = .ok "e:y" := by
  intro env root
  have hvalid : root.text.hasSurrogate = false := by decide
  have hroot : windows.isAbsolute root.text = true := by decide
  have hhome : windows.isAbsolute "C:\\Users\\me" = true := by decide
  refine ⟨hvalid, hroot, hhome, ?_, ?_⟩
  · obtain ⟨expanded, path, hexpand, hresolve, hiff, _⟩ :=
      resolve_windows_isAbsolute_iff [("DRIVE", "d")] hvalid hroot hhome ".//$DRIVE:lib"
    obtain rfl : ".//d:lib" = expanded := Except.ok.inj (Eq.trans (by rfl) hexpand)
    refine ⟨path, hresolve, ?_⟩
    rw [← Bool.not_eq_false, hiff]
    rintro ⟨base, tail, hparts, hleaves⟩
    obtain ⟨rfl, rfl⟩ : "D:\\ws" = base ∧ "d:lib" = tail :=
      Prod.mk.inj (Option.some.inj (Eq.trans (by rfl) hparts))
    exact absurd hleaves (by decide)
  · obtain ⟨expanded, path, hexpand, hresolve, _, hleft⟩ :=
      resolve_windows_isAbsolute_iff [("DRIVE", "d")] hvalid hroot hhome "~e:x\\..\\y"
    obtain rfl : "~e:x\\..\\y" = expanded := Except.ok.inj (Eq.trans (by rfl) hexpand)
    rw [hresolve, hleft "C:\\Users\\me" "e:x\\..\\y" rfl (by decide)]
    rfl

end WorkspacePaths
