import WorkspacePaths.Entry.Anchor
import WorkspacePaths.Proofs.Path.Posix

/-!
# `Proofs.Entry.Anchor` — how an entry is anchored

Where a slash is the one separator, an entry is anchored in one of three ways: behind a tilde to the
home directory, when it begins with a slash to nothing, and else to the workspace, with a text that
does not begin with a slash. An anchored entry therefore begins with a slash as soon as what it is
anchored to does.

## Contents
- `ofText_tilde`, `ofText_current`, `ofText_slash`, `ofText_relative`: the cases by how a text
  begins.
- `anchor_posix_startsWith`: beginnings are kept.
-/

namespace WorkspacePaths

/-- The code point that stands for the home directory. -/
abbrev tilde : CodePoint := CodePoint.scalar '~'

/-- The code point that stands for where one is. -/
abbrev dot : CodePoint := CodePoint.scalar '.'

theorem startsWith_current_iff {entry : Text} :
    entry.startsWith "./" = true ↔ ∃ rest, entry = dot :: slash :: rest := by
  rw [Text.startsWith, List.isPrefixOf_iff_prefix]
  constructor
  · rintro ⟨rest, rfl⟩
    exact ⟨rest, rfl⟩
  · rintro ⟨rest, rfl⟩
    exact ⟨rest, rfl⟩

namespace Anchor

variable {f : Flavour} {t rest : Text}

theorem ofText_tilde (f : Flavour) (rest : Text) :
    ofText f (tilde :: rest) = .home (f.stripLeading rest) := rfl

theorem ofText_current (f : Flavour) (rest : Text) :
    ofText f (dot :: slash :: rest) = .workspace (f.stripLeading rest) := rfl

theorem isAbsolute_posix (t : Text) : Flavour.posix.isAbsolute t = t.startsWith [slash] := by
  unfold Flavour.isAbsolute
  rw [Flavour.hasRoot_posix]
  exact Bool.and_true _

/-- A text with neither mark in front is anchored by whether it is absolute. -/
theorem ofText_of_no_mark (htilde : t.startsWith [tilde] = false)
    (hcurrent : ∀ rest, t ≠ dot :: slash :: rest) :
    ofText f t = if f.isAbsolute t then .absolute else .workspace t := by
  unfold ofText
  split
  · exact absurd htilde (by simp [Text.startsWith_singleton_cons])
  · next rest => exact absurd rfl (hcurrent rest)
  · rfl

theorem ofText_slash (rest : Text) : ofText .posix (slash :: rest) = .absolute := by
  rw [ofText_of_no_mark (by simp [Text.startsWith_singleton_cons]) (by simp), isAbsolute_posix,
    Text.startsWith_singleton_cons]
  rfl

/-- A text that begins with neither a tilde nor a slash is anchored to the workspace. What `./` in
front of it makes a difference to is only whether further slashes are dropped. -/
theorem ofText_relative (htilde : t.startsWith [tilde] = false)
    (hslash : t.startsWith [slash] = false) :
    ∃ rest, ofText .posix t = .workspace rest ∧ rest.startsWith [slash] = false
      ∧ (rest = t ∨ ∃ behind, t = dot :: slash :: behind
          ∧ rest = Flavour.posix.stripLeading behind) := by
  by_cases hcurrent : ∃ behind, t = dot :: slash :: behind
  · obtain ⟨behind, rfl⟩ := hcurrent
    exact ⟨_, ofText_current _ behind, Flavour.startsWith_stripLeading behind,
      Or.inr ⟨behind, rfl, rfl⟩⟩
  · refine ⟨t, ?_, hslash, Or.inl rfl⟩
    rw [ofText_of_no_mark htilde (fun rest heq => hcurrent ⟨rest, heq⟩), isAbsolute_posix, hslash]
    rfl

end Anchor

/-- **An anchored entry begins with a slash** if what it is anchored to does: the workspace root, and
for an entry behind a tilde the home directory. -/
theorem anchor_posix_startsWith {env : Environment} {root t path : Text}
    (hroot : root.startsWith [slash] = true)
    (hhome : t.startsWith [tilde] = true → ∀ home, env.home = some home →
      home.startsWith [slash] = true)
    (h : anchor env .posix root t = some path) : path.startsWith [slash] = true := by
  unfold anchor at h
  by_cases htilde : t.startsWith [tilde] = true
  · obtain ⟨rest, rfl⟩ := Text.startsWith_singleton_iff.mp htilde
    rw [Anchor.ofText_tilde] at h
    obtain ⟨home, hsome, rfl⟩ := Option.map_eq_some_iff.mp h
    exact posixJoin_startsWith (hhome htilde home hsome) _
  · rw [Bool.not_eq_true] at htilde
    by_cases hslash : t.startsWith [slash] = true
    · obtain ⟨rest, rfl⟩ := Text.startsWith_singleton_iff.mp hslash
      rw [Anchor.ofText_slash] at h
      rw [← Option.some.inj h]
      exact hslash
    · rw [Bool.not_eq_true] at hslash
      obtain ⟨rest, hof, _⟩ := Anchor.ofText_relative htilde hslash
      rw [hof] at h
      rw [← Option.some.inj h]
      exact posixJoin_startsWith hroot rest

end WorkspacePaths
