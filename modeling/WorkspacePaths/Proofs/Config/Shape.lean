import WorkspacePaths.Config.Shape

/-!
# `Proofs.Config.Shape` — the first fault of a document

Members are read in order, so the fault of a document is that of one member, and all members before it
can be read. It is a value of the wrong kind or a key without a UTF-8 form. Keys are looked at in the
document itself and in its two sections, and nowhere else.

## Contents
- `readMembers_cons`, `readMembers_eq_error_iff`: reading goes on up to the first fault.
- `ComesTo`: reading members comes to one of them.
- `RefusesKey`, and `ofMembers_eq_key_iff`: a document whose first fault is a key.
-/

namespace WorkspacePaths

variable {read : Config → Text → Value → Except ShapeFault Config} {c reached : Config}
  {members : Members} {key place : Text} {value : Value} {e : ShapeFault}
  {fault : Text.EncodingFault}

/-! ## Members in order -/

/-- Reads one member: its key must have a UTF-8 form. -/
def readOne (read : Config → Text → Value → Except ShapeFault Config) (c : Config) (key : Text)
    (value : Value) : Except ShapeFault Config :=
  match key.encodingFault? with
  | some fault => .error (.key fault)
  | none => read c key value

theorem readMembers_cons :
    readMembers read ((key, value) :: members) c
      = (readOne read c key value).bind (readMembers read members) := by
  rw [readMembers]
  unfold readOne
  cases key.encodingFault? with
  | some fault => rfl
  | none => rfl

/-- Reading members comes to a member, and has reached a configuration before it. -/
def ComesTo (read : Config → Text → Value → Except ShapeFault Config) (c : Config)
    (members : Members) (reached : Config) (key : Text) (value : Value) : Prop :=
  ∃ before after, members = before ++ (key, value) :: after
    ∧ readMembers read before c = .ok reached

theorem not_comesTo_nil : ¬ ComesTo read c [] reached key value := by
  rintro ⟨before, after, heq, _⟩
  exact absurd heq (by simp)

/-- Of members in order, reading comes to the first at once, and to the others behind it. -/
theorem comesTo_cons_iff {name : Text} {v : Value} :
    ComesTo read c ((name, v) :: members) reached key value ↔
      (c = reached ∧ name = key ∧ v = value)
        ∨ ∃ next, readOne read c name v = .ok next ∧ ComesTo read next members reached key value := by
  constructor
  · rintro ⟨before, after, heq, hbefore⟩
    cases before with
    | nil =>
      obtain ⟨⟨rfl, rfl⟩, rfl⟩ : (name = key ∧ v = value) ∧ members = after := by simpa using heq
      exact Or.inl ⟨Except.ok.inj hbefore, rfl, rfl⟩
    | cons other more =>
      obtain ⟨rfl, rfl⟩ : (name, v) = other ∧ members = more ++ (key, value) :: after := by
        simpa using heq
      rw [readMembers_cons] at hbefore
      cases hfirst : readOne read c name v with
      | error d =>
        rw [hfirst] at hbefore
        exact absurd hbefore (by simp [Except.bind])
      | ok next =>
        rw [hfirst] at hbefore
        exact Or.inr ⟨next, rfl, more, after, rfl, hbefore⟩
  · rintro (⟨rfl, rfl, rfl⟩ | ⟨next, hfirst, before, after, rfl, hbefore⟩)
    · exact ⟨[], members, rfl, rfl⟩
    · refine ⟨(name, v) :: before, after, rfl, ?_⟩
      rw [readMembers_cons, hfirst]
      exact hbefore

/-- **The fault of members is that of the first one that has any.** -/
theorem readMembers_eq_error_iff :
    readMembers read members c = .error e ↔
      ∃ reached key value, ComesTo read c members reached key value
        ∧ readOne read reached key value = .error e := by
  -- `c` stays open: the members behind the first are read with what that one leaves
  induction members generalizing c with
  | nil =>
    refine iff_of_false (by simp [readMembers]) ?_
    rintro ⟨reached, key, value, hcomes, _⟩
    exact not_comesTo_nil hcomes
  | cons first rest ih =>
    obtain ⟨name, v⟩ := first
    rw [readMembers_cons]
    simp only [comesTo_cons_iff]
    cases hfirst : readOne read c name v with
    | error d =>
      constructor
      · intro h
        exact ⟨c, name, v, Or.inl ⟨rfl, rfl, rfl⟩, hfirst.trans h⟩
      · rintro ⟨reached, key, value, ⟨rfl, rfl, rfl⟩ | ⟨next, hnext, _⟩, hfault⟩
        · exact hfirst.symm.trans hfault
        · exact absurd hnext (by simp)
    | ok next =>
      show readMembers read rest next = .error e ↔ _
      rw [ih]
      constructor
      · rintro ⟨reached, key, value, hcomes, hfault⟩
        exact ⟨reached, key, value, Or.inr ⟨next, rfl, hcomes⟩, hfault⟩
      · rintro ⟨reached, key, value, ⟨rfl, rfl, rfl⟩ | ⟨next', hnext, hcomes⟩, hfault⟩
        · exact absurd (hfirst.symm.trans hfault) (by simp)
        · obtain rfl : next = next' := Except.ok.inj hnext
          exact ⟨reached, key, value, hcomes, hfault⟩

/-! ## Values -/

/-- Whatever is wrong, it is no key. -/
def BlamesNoKey {α : Type} (x : Except ShapeFault α) : Prop := ∀ fault, x ≠ .error (.key fault)

variable {α β : Type}

theorem blamesNoKey_ok (a : α) : BlamesNoKey (.ok a) := by
  intro fault
  simp

theorem blamesNoKey_refuse (v : Value) (expected place : Text) :
    BlamesNoKey (.error (v.refuse expected place) : Except ShapeFault α) := by
  intro fault h
  exact absurd (Except.error.inj h) (by simp [Value.refuse])

theorem BlamesNoKey.bind {x : Except ShapeFault α} {f : α → Except ShapeFault β}
    (hx : BlamesNoKey x) (hf : ∀ a, BlamesNoKey (f a)) : BlamesNoKey (x >>= f) := by
  cases x with
  | error e => exact fun fault h => hx fault (congrArg _ (Except.error.inj h))
  | ok a => exact hf a

theorem blamesNoKey_asText (place : Text) (v : Value) : BlamesNoKey (v.asText place) := by
  cases v with
  | text t => exact blamesNoKey_ok t
  | _ => exact blamesNoKey_refuse _ _ _

theorem blamesNoKey_asTextOrNull (place : Text) (v : Value) :
    BlamesNoKey (v.asTextOrNull place) := by
  cases v with
  | text t => exact blamesNoKey_ok (some t)
  | null => exact blamesNoKey_ok none
  | _ => exact blamesNoKey_refuse _ _ _

theorem blamesNoKey_textsFrom (place : Text) (index : Nat) (items : List Value) :
    BlamesNoKey (textsFrom place index items) := by
  induction items generalizing index with
  | nil => exact blamesNoKey_ok []
  | cons v rest ih =>
    refine (blamesNoKey_asText _ v).bind (fun t => ?_)
    exact (ih (index + 1)).bind (fun ts => blamesNoKey_ok (t :: ts))

theorem blamesNoKey_asTexts (place : Text) (v : Value) : BlamesNoKey (v.asTexts place) := by
  cases v with
  | array items => exact blamesNoKey_textsFrom place 0 items
  | _ => exact blamesNoKey_refuse _ _ _

/-- A setting that is a list of texts does not blame a key. -/
theorem blamesNoKey_list (here : Text) (v : Value) (set : List Text → Config) :
    BlamesNoKey (do return set (← v.asTexts here)) :=
  (blamesNoKey_asTexts here v).bind (fun ts => blamesNoKey_ok (set ts))

theorem BlamesNoKey.ite {p : Prop} [Decidable p] {x y : Except ShapeFault α} (hx : BlamesNoKey x)
    (hy : BlamesNoKey y) : BlamesNoKey (if p then x else y) := by
  split
  · exact hx
  · exact hy

theorem blamesNoKey_readWorkspaceMember (place : Text) (c : Config) (key : Text) (v : Value) :
    BlamesNoKey (readWorkspaceMember place c key v) := by
  unfold readWorkspaceMember
  refine BlamesNoKey.ite (blamesNoKey_list _ v (fun ts => { c with workspaceRoots := ts })) ?_
  refine BlamesNoKey.ite (blamesNoKey_list _ v (fun ts => { c with library := ts })) ?_
  refine BlamesNoKey.ite (blamesNoKey_list _ v (fun ts => { c with ignoreDir := ts })) ?_
  refine BlamesNoKey.ite (blamesNoKey_list _ v (fun ts => { c with ignoreGlobs := ts })) ?_
  exact blamesNoKey_ok c

theorem blamesNoKey_readResourceMember (place : Text) (c : Config) (key : Text) (v : Value) :
    BlamesNoKey (readResourceMember place c key v) := by
  unfold readResourceMember
  refine BlamesNoKey.ite (blamesNoKey_list _ v (fun ts => { c with resourcePaths := ts })) ?_
  exact blamesNoKey_ok c

/-! ## Keys -/

/-- Reading members comes to a key without a UTF-8 form. -/
def MeetsBadKey (read : Config → Text → Value → Except ShapeFault Config) (c : Config)
    (members : Members) (fault : Text.EncodingFault) : Prop :=
  ∃ reached key value, ComesTo read c members reached key value ∧ key.encodingFault? = some fault

theorem readOne_eq_key_iff :
    readOne read c key value = .error (.key fault) ↔
      key.encodingFault? = some fault
        ∨ (key.encodingFault? = none ∧ read c key value = .error (.key fault)) := by
  unfold readOne
  cases key.encodingFault? with
  | some other => simp
  | none => simp

/-- Where members blame no key, a key is blamed only if it is one of their own. -/
theorem readMembers_eq_key_iff (h : ∀ c key value, BlamesNoKey (read c key value)) :
    readMembers read members c = .error (.key fault) ↔ MeetsBadKey read c members fault := by
  rw [readMembers_eq_error_iff]
  constructor
  · rintro ⟨reached, key, value, hcomes, hfault⟩
    rcases readOne_eq_key_iff.mp hfault with hkey | ⟨_, hread⟩
    · exact ⟨reached, key, value, hcomes, hkey⟩
    · exact absurd hread (h reached key value fault)
  · rintro ⟨reached, key, value, hcomes, hkey⟩
    exact ⟨reached, key, value, hcomes, readOne_eq_key_iff.mpr (Or.inl hkey)⟩

/-- A section read from a value blames a key exactly if the value is an object and reading it comes to
such a key. -/
theorem section_eq_key_iff (h : ∀ c key value, BlamesNoKey (read c key value)) :
    (do readMembers read (← value.asMembers place) c : Except ShapeFault Config)
        = .error (.key fault) ↔
      ∃ members, value = .object members ∧ MeetsBadKey read c members fault := by
  cases value with
  | object members =>
    show readMembers read members c = _ ↔ _
    rw [readMembers_eq_key_iff h]
    constructor
    · intro hmeets
      exact ⟨members, rfl, hmeets⟩
    · rintro ⟨other, heq, hmeets⟩
      rw [Value.object.inj heq]
      exact hmeets
  | _ =>
    refine iff_of_false ?_ ?_
    · exact blamesNoKey_refuse _ _ _ fault
    · rintro ⟨members, heq, _⟩
      exact absurd heq (by simp)

/-- How the members of the workspace section are read. -/
abbrev readWorkspace : Config → Text → Value → Except ShapeFault Config :=
  readWorkspaceMember (memberPlace "$" "workspace")

/-- How the members of the resource section are read. -/
abbrev readResource : Config → Text → Value → Except ShapeFault Config :=
  readResourceMember (memberPlace "$" "resource")

theorem readMember_eq_key_iff :
    readMember c key value = .error (.key fault) ↔
      ∃ members, value = .object members
        ∧ (key = ("workspace" : Text) ∧ MeetsBadKey readWorkspace c members fault
          ∨ key = ("resource" : Text) ∧ MeetsBadKey readResource c members fault) := by
  have hne : ("workspace" : Text) ≠ ("resource" : Text) := by decide
  -- the schema and unknown members blame no key, and each section only keys of its own
  unfold readMember
  by_cases hschema : key = ("$schema" : Text)
  · subst hschema
    refine iff_of_false ?_ ?_
    · exact (blamesNoKey_asTextOrNull _ value).bind
        (fun schema => blamesNoKey_ok { c with schema := schema }) fault
    · rintro ⟨members, _, ⟨hkey, _⟩ | ⟨hkey, _⟩⟩
      · exact absurd hkey (by decide)
      · exact absurd hkey (by decide)
  simp only [if_neg hschema]
  by_cases hworkspace : key = ("workspace" : Text)
  · subst hworkspace
    simp only [if_true]
    show (do readMembers readWorkspace (← value.asMembers _) c : Except ShapeFault Config)
      = _ ↔ _
    rw [section_eq_key_iff (blamesNoKey_readWorkspaceMember _)]
    simp [hne]
  simp only [if_neg hworkspace]
  by_cases hresource : key = ("resource" : Text)
  · subst hresource
    simp only [if_true]
    show (do readMembers readResource (← value.asMembers _) c : Except ShapeFault Config)
      = _ ↔ _
    rw [section_eq_key_iff (blamesNoKey_readResourceMember _)]
    simp [hne.symm]
  · simp only [if_neg hresource]
    refine iff_of_false (blamesNoKey_ok c fault) ?_
    rintro ⟨members, _, ⟨hkey, _⟩ | ⟨hkey, _⟩⟩
    · exact hworkspace hkey
    · exact hresource hkey

/-- Reading the document comes to a key without a UTF-8 form before it comes to any other fault. -/
inductive RefusesKey (document : Members) (fault : Text.EncodingFault) : Prop where
  /-- It is a key of the document itself. -/
  | own (h : MeetsBadKey readMember {} document fault)
  /-- It is a key of the workspace section. -/
  | inWorkspace {before : Config} {inner : Members}
      (hcomes : ComesTo readMember {} document before "workspace" (.object inner))
      (h : MeetsBadKey readWorkspace before inner fault)
  /-- It is a key of the resource section. -/
  | inResource {before : Config} {inner : Members}
      (hcomes : ComesTo readMember {} document before "resource" (.object inner))
      (h : MeetsBadKey readResource before inner fault)

/-- **A document is refused for a key** exactly if reading it comes to one without a UTF-8 form, in the
document itself or in one of its sections. -/
theorem ofMembers_eq_key_iff {document : Members} :
    Config.ofMembers document = .error (.key fault) ↔ RefusesKey document fault := by
  unfold Config.ofMembers
  rw [readMembers_eq_error_iff]
  constructor
  · rintro ⟨reached, key, value, hcomes, hfault⟩
    -- the key of the member itself, or one inside its value
    rcases readOne_eq_key_iff.mp hfault with hkey | ⟨_, hread⟩
    · exact .own ⟨reached, key, value, hcomes, hkey⟩
    · obtain ⟨members, rfl, ⟨rfl, hmeets⟩ | ⟨rfl, hmeets⟩⟩ := readMember_eq_key_iff.mp hread
      · exact .inWorkspace hcomes hmeets
      · exact .inResource hcomes hmeets
  · rintro (⟨reached, key, value, hcomes, hkey⟩ | ⟨hcomes, hmeets⟩ | ⟨hcomes, hmeets⟩)
    · exact ⟨reached, key, value, hcomes, readOne_eq_key_iff.mpr (Or.inl hkey)⟩
    · exact ⟨_, _, _, hcomes, readOne_eq_key_iff.mpr
        (Or.inr ⟨by decide, readMember_eq_key_iff.mpr ⟨_, rfl, Or.inl ⟨rfl, hmeets⟩⟩⟩)⟩
    · exact ⟨_, _, _, hcomes, readOne_eq_key_iff.mpr
        (Or.inr ⟨by decide, readMember_eq_key_iff.mpr ⟨_, rfl, Or.inr ⟨rfl, hmeets⟩⟩⟩)⟩

end WorkspacePaths
