import WorkspacePaths.Proofs.Config.Shape

/-!
# `Proofs.Config.Settings` — what reading members puts into a configuration

All settings but the schema are lists of texts, and they are read alike: a member under the key of one
becomes that list, and any other member of a section is passed over. So a section is read by its table
of list settings, each of which has a place in a configuration that no other one touches.

What a run over the members of an object leaves in a place is told by a single member. Where keys are
distinct, it is what the member under the place's own key says, or what was there before if there is no
such member.

## Contents
- **Values.** `asTexts_eq_ok_iff` and its like: the values that are of a kind, with `writeTexts` and
  `writeSchema`.
- **List settings.** `ListSetting`, `Section` and the tables of them; `get_set`: each has its place to
  itself.
- **One member.** `readListMember` reads by a table: `readListMember_eq_ok`,
  `succeeds_readListMember_iff`. For a document, `readMember_cases`.
- **A run.** `succeeds_readMembers_iff`; `ReadsAt.of_readMembers` for a place with a key, and
  `Keeps.of_readMembers` for one without.
- **Sections and documents.** `succeeds_readMember_iff`, and `readsAt_schema`, `readsAt_list` for the
  places.
-/

namespace WorkspacePaths

variable {value : Value} {key place : Text} {texts : List Text} {inner : Members}

/-! ## Values -/

theorem except_bind_eq_ok_iff {ε α β : Type} {x : Except ε α} {f : α → Except ε β} {b : β} :
    (x >>= f) = .ok b ↔ ∃ a, x = .ok a ∧ f a = .ok b := by
  cases x with
  | error e => simp [bind, Except.bind]
  | ok a => simp [bind, Except.bind]

theorem asText_eq_ok_iff {t : Text} : value.asText place = .ok t ↔ value = .text t := by
  cases value <;> simp [Value.asText]

theorem textsFrom_eq_ok_iff {index : Nat} {items : List Value} :
    textsFrom place index items = .ok texts ↔ items = texts.map .text := by
  induction items generalizing index texts with
  | nil => cases texts <;> simp [textsFrom]
  | cons v rest ih =>
    unfold textsFrom
    simp only [except_bind_eq_ok_iff, asText_eq_ok_iff, ih]
    constructor
    · rintro ⟨t, rfl, more, rfl, h⟩
      rw [← Except.ok.inj h, List.map_cons]
    · intro h
      cases texts with
      | nil => exact absurd h (by simp)
      | cons t more =>
        obtain ⟨hv, hrest⟩ := List.cons.inj h
        exact ⟨t, hv, more, hrest, rfl⟩

/-- Texts are written as an array. -/
def writeTexts (texts : List Text) : Value := .array (texts.map .text)

/-- A schema is written as a text, or as null if there is none. -/
def writeSchema (schema : Option Text) : Value := schema.elim .null .text

/-- The values that are arrays of texts. -/
theorem asTexts_eq_ok_iff : value.asTexts place = .ok texts ↔ value = writeTexts texts := by
  unfold writeTexts
  cases value with
  | array items =>
    rw [Value.asTexts, textsFrom_eq_ok_iff]
    exact ⟨congrArg Value.array, Value.array.inj⟩
  | _ => simp [Value.asTexts]

/-- The values that are texts or null. -/
theorem asTextOrNull_eq_ok_iff {schema : Option Text} :
    value.asTextOrNull place = .ok schema ↔ value = writeSchema schema := by
  cases schema <;> cases value <;> simp [Value.asTextOrNull, writeSchema]

/-- The values that are objects. -/
theorem asMembers_eq_ok_iff : value.asMembers place = .ok inner ↔ value = .object inner := by
  cases value <;> simp [Value.asMembers]

/-! ## List settings -/

/-- A setting that is a list of texts: its key in its section, and its place in a configuration. -/
structure ListSetting where
  key : Text
  get : Config → List Text
  set : Config → List Text → Config

namespace ListSetting

def workspaceRoots : ListSetting where
  key := "workspaceRoots"
  get := Config.workspaceRoots
  set c texts := { c with workspaceRoots := texts }

def library : ListSetting where
  key := "library"
  get := Config.library
  set c texts := { c with library := texts }

def ignoreDir : ListSetting where
  key := "ignoreDir"
  get := Config.ignoreDir
  set c texts := { c with ignoreDir := texts }

def ignoreGlobs : ListSetting where
  key := "ignoreGlobs"
  get := Config.ignoreGlobs
  set c texts := { c with ignoreGlobs := texts }

def resourcePaths : ListSetting where
  key := "paths"
  get := Config.resourcePaths
  set c texts := { c with resourcePaths := texts }

end ListSetting

/-- The list settings of the workspace section. -/
def workspaceSettings : List ListSetting := [.workspaceRoots, .library, .ignoreDir, .ignoreGlobs]

/-- The list settings of the resource section. -/
def resourceSettings : List ListSetting := [.resourcePaths]

/-- A section of a document: its key and its list settings. -/
structure Section where
  key : Text
  settings : List ListSetting

/-- The sections of a document. -/
def sections : List Section := [⟨"workspace", workspaceSettings⟩, ⟨"resource", resourceSettings⟩]

/-- All list settings. -/
def listSettings : List ListSetting := sections.flatMap Section.settings

variable {s : ListSetting} {sec : Section} {settings : List ListSetting} {c c' : Config}

theorem mem_listSettings (hsec : sec ∈ sections) (hs : s ∈ sec.settings) : s ∈ listSettings :=
  List.mem_flatMap.mpr ⟨sec, hsec, hs⟩

theorem forall_listSettings {P : ListSetting → Prop} :
    (∀ s ∈ listSettings, P s) ↔ P .workspaceRoots ∧ P .library ∧ P .ignoreDir ∧ P .ignoreGlobs
      ∧ P .resourcePaths := by
  simp [listSettings, sections, workspaceSettings, resourceSettings]

/-- **Each list setting has its place to itself**: setting one changes no other one. -/
theorem get_set (c : Config) (texts : List Text) : ∀ s ∈ listSettings, ∀ s' ∈ listSettings,
    s'.get (s.set c texts) = if s'.key = s.key then texts else s'.get c := by
  simp only [forall_listSettings]
  refine ⟨?_, ?_, ?_, ?_, ?_⟩ <;> exact ⟨rfl, rfl, rfl, rfl, rfl⟩

theorem schema_set (c : Config) (texts : List Text) :
    ∀ s ∈ listSettings, (s.set c texts).schema = c.schema :=
  forall_listSettings.mpr ⟨rfl, rfl, rfl, rfl, rfl⟩

theorem get_withSchema (c : Config) (schema : Option Text) :
    ∀ s ∈ listSettings, s.get { c with schema } = s.get c :=
  forall_listSettings.mpr ⟨rfl, rfl, rfl, rfl, rfl⟩

/-- A configuration is made up of its schema and its list settings. -/
theorem eq_of_get_eq (hschema : c.schema = c'.schema)
    (h : ∀ s ∈ listSettings, s.get c = s.get c') : c = c' := by
  obtain ⟨hroots, hlibrary, hdir, hglobs, hresource⟩ := forall_listSettings.mp h
  obtain ⟨schema, workspaceRoots, library, ignoreDir, ignoreGlobs, resourcePaths⟩ := c
  obtain ⟨schema', workspaceRoots', library', ignoreDir', ignoreGlobs', resourcePaths'⟩ := c'
  simp only [Config.mk.injEq]
  exact ⟨hschema, hroots, hlibrary, hdir, hglobs, hresource⟩

/-! ## One member -/

/-- Reads a member of a section by the table of its settings. -/
def readListMember (settings : List ListSetting) (place : Text) (c : Config) (key : Text)
    (value : Value) : Except ShapeFault Config :=
  match settings.find? (fun s => key = s.key) with
  | some s => do return s.set c (← value.asTexts (memberPlace place key))
  | none => .ok c

theorem readWorkspaceMember_eq : readWorkspaceMember = readListMember workspaceSettings := by
  funext place c key value
  unfold readWorkspaceMember readListMember workspaceSettings
  by_cases hroots : key = ("workspaceRoots" : Text)
  · subst hroots
    rfl
  by_cases hlibrary : key = ("library" : Text)
  · subst hlibrary
    rfl
  by_cases hdir : key = ("ignoreDir" : Text)
  · subst hdir
    rfl
  by_cases hglobs : key = ("ignoreGlobs" : Text)
  · subst hglobs
    rfl
  · simp [ListSetting.workspaceRoots, ListSetting.library, ListSetting.ignoreDir,
      ListSetting.ignoreGlobs, hroots, hlibrary, hdir, hglobs]
    rfl

theorem readResourceMember_eq : readResourceMember = readListMember resourceSettings := by
  funext place c key value
  unfold readResourceMember readListMember resourceSettings
  by_cases hpaths : key = ("paths" : Text)
  · subst hpaths
    rfl
  · simp [ListSetting.resourcePaths, hpaths]
    rfl

/-- What reading a member of a section does: it sets the list setting that has the member's key, or
nothing if there is none. -/
theorem readListMember_eq_ok (h : readListMember settings place c key value = .ok c') :
    (∃ s ∈ settings, key = s.key
        ∧ ∃ texts, value = writeTexts texts ∧ c' = s.set c texts)
      ∨ ((∀ s ∈ settings, key ≠ s.key) ∧ c' = c) := by
  unfold readListMember at h
  cases hfind : settings.find? (fun s => key = s.key) with
  | none =>
    rw [hfind] at h
    refine Or.inr ⟨?_, (Except.ok.inj h).symm⟩
    simpa using List.find?_eq_none.mp hfind
  | some s =>
    rw [hfind] at h
    obtain ⟨texts, htexts, hset⟩ := except_bind_eq_ok_iff.mp h
    exact Or.inl ⟨s, List.mem_of_find?_eq_some hfind, by simpa using List.find?_some hfind, texts,
      asTexts_eq_ok_iff.mp htexts, (Except.ok.inj hset).symm⟩

/-- The value is an array of texts. -/
def Value.IsTexts (value : Value) : Prop := ∃ texts : List Text, value = writeTexts texts

/-- Reading a member of a section succeeds unless it holds something else under the key of a list
setting. -/
theorem succeeds_readListMember_iff :
    (∃ c', readListMember settings place c key value = .ok c')
      ↔ ∀ s ∈ settings, key = s.key → value.IsTexts := by
  unfold readListMember
  cases hfind : settings.find? (fun s => key = s.key) with
  | none =>
    have hnone : ∀ s ∈ settings, key ≠ s.key := by simpa using List.find?_eq_none.mp hfind
    exact iff_of_true ⟨c, rfl⟩ (fun s hs heq => absurd heq (hnone s hs))
  | some s =>
    have hkey : key = s.key := by simpa using List.find?_some hfind
    simp only [except_bind_eq_ok_iff, asTexts_eq_ok_iff]
    constructor
    · rintro ⟨_, texts, htexts, _⟩ _ _ _
      exact ⟨texts, htexts⟩
    · intro h
      obtain ⟨texts, htexts⟩ := h s (List.mem_of_find?_eq_some hfind) hkey
      exact ⟨_, texts, htexts, rfl⟩

/-- Reads a section of a document. -/
def Section.read (sec : Section) (c : Config) (value : Value) : Except ShapeFault Config := do
  let members ← value.asMembers (memberPlace "$" sec.key)
  readMembers (readListMember sec.settings (memberPlace "$" sec.key)) members c

/-- The key under which a document names its schema. -/
def schemaKey : Text := "$schema"

theorem section_key_ne_schemaKey : ∀ sec ∈ sections, sec.key ≠ schemaKey := by
  unfold sections
  simp only [List.forall_mem_cons]
  exact ⟨by decide, by decide, by simp⟩

/-- A member of a document is the schema, or a section, or nothing that is read. -/
theorem readMember_cases (c : Config) (key : Text) (value : Value) :
    (key = schemaKey ∧ readMember c key value
        = (do return { c with schema := ← value.asTextOrNull (memberPlace "$" key) }))
      ∨ (∃ sec ∈ sections, key = sec.key ∧ readMember c key value = sec.read c value)
      ∨ (key ≠ schemaKey ∧ (∀ sec ∈ sections, key ≠ sec.key) ∧ readMember c key value = .ok c) := by
  unfold readMember
  rw [readWorkspaceMember_eq, readResourceMember_eq]
  by_cases hschema : key = schemaKey
  · subst hschema
    exact Or.inl ⟨rfl, rfl⟩
  by_cases hworkspace : key = ("workspace" : Text)
  · subst hworkspace
    exact Or.inr (Or.inl ⟨⟨"workspace", workspaceSettings⟩, List.mem_cons_self, rfl, by rfl⟩)
  by_cases hresource : key = ("resource" : Text)
  · subst hresource
    exact Or.inr (Or.inl ⟨⟨"resource", resourceSettings⟩, List.mem_cons_of_mem _ List.mem_cons_self,
      rfl, by rfl⟩)
  · have hnone : ∀ sec ∈ sections, key ≠ sec.key := by simp [sections, hworkspace, hresource]
    refine Or.inr (Or.inr ⟨hschema, hnone, ?_⟩)
    rw [schemaKey] at hschema
    simp only [if_neg hschema, if_neg hworkspace, if_neg hresource]
    rfl

/-! ## A run -/

variable {α : Type} {read : Config → Text → Value → Except ShapeFault Config} {view : Config → α}
  {R : Value → α → α → Prop} {own : Text} {members : Members}

theorem readMembers_cons_eq_ok_iff :
    readMembers read ((key, value) :: members) c = .ok c' ↔
      ∃ next, key.encodingFault? = none ∧ read c key value = .ok next
        ∧ readMembers read members next = .ok c' := by
  rw [readMembers_cons]
  unfold readOne
  cases key.encodingFault? with
  | some fault => simp [Except.bind]
  | none =>
    simp only [true_and]
    exact except_bind_eq_ok_iff

/-- **When a run succeeds**: every key has a UTF-8 form, and every member can be read. -/
theorem succeeds_readMembers_iff {Good : Text → Value → Prop}
    (h : ∀ c key value, (∃ c', read c key value = .ok c') ↔ Good key value) :
    (∃ c', readMembers read members c = .ok c')
      ↔ ∀ m ∈ members, m.1.encodingFault? = none ∧ Good m.1 m.2 := by
  -- `c` stays open: whether a member can be read does not depend on what was read before
  induction members generalizing c with
  | nil => exact iff_of_true ⟨c, rfl⟩ (by simp)
  | cons m rest ih =>
    obtain ⟨key, value⟩ := m
    simp only [readMembers_cons_eq_ok_iff, List.forall_mem_cons]
    constructor
    · rintro ⟨c', next, hkey, hnext, hrest⟩
      exact ⟨⟨hkey, (h c key value).mp ⟨next, hnext⟩⟩, ih.mp ⟨c', hrest⟩⟩
    · rintro ⟨⟨hkey, hgood⟩, hrest⟩
      obtain ⟨next, hnext⟩ := (h c key value).mpr hgood
      obtain ⟨c', hc'⟩ := ih.mpr hrest
      exact ⟨c', next, hkey, hnext, hc'⟩

/-- Reading a member leaves what `view` shows as it is. -/
def Keeps (read : Config → Text → Value → Except ShapeFault Config) (view : Config → α) : Prop :=
  ∀ c key value c', read c key value = .ok c' → view c' = view c

theorem Keeps.of_readMembers (h : Keeps read view) (hread : readMembers read members c = .ok c') :
    view c' = view c := by
  induction members generalizing c with
  | nil => rw [Except.ok.inj hread]
  | cons m rest ih =>
    obtain ⟨next, _, hnext, hrest⟩ := readMembers_cons_eq_ok_iff.mp hread
    rw [ih hrest, h c _ _ next hnext]

/-- What a place holds after reading, as `R` says of the value found under its key, if there is one. -/
def Settles (R : Value → α → α → Prop) (value? : Option Value) (before after : α) : Prop :=
  match value? with
  | none => after = before
  | some value => R value before after

/-- Afterwards a place holds what is written as the value, whatever it held before. -/
def Holds (write : α → Value) (value : Value) (_before after : α) : Prop := value = write after

/-- What `view` shows is a place with a key of its own: reading a member under that key does to it what
`R` says, and reading any other one nothing. -/
def ReadsAt (read : Config → Text → Value → Except ShapeFault Config) (own : Text)
    (view : Config → α) (R : Value → α → α → Prop) : Prop :=
  ∀ c key value c', read c key value = .ok c' →
    Settles R (if key = own then some value else none) (view c) (view c')

theorem get?_eq_none_of_not_mem (h : key ∉ members.map Prod.fst) : members.get? key = none := by
  unfold Members.get?
  rw [List.lookup_eq_none_iff]
  intro m hm
  rw [bne_iff_ne]
  rintro rfl
  exact h (List.mem_map_of_mem hm)

/-- **A run settles a place by the member under its key**, where keys are distinct. -/
theorem ReadsAt.of_readMembers (h : ReadsAt read own view R) (hnodup : (members.map Prod.fst).Nodup)
    (hread : readMembers read members c = .ok c') :
    Settles R (members.get? own) (view c) (view c') := by
  induction members generalizing c with
  | nil =>
    rw [← Except.ok.inj hread]
    exact rfl
  | cons m rest ih =>
    obtain ⟨key, value⟩ := m
    obtain ⟨next, _, hnext, hrest⟩ := readMembers_cons_eq_ok_iff.mp hread
    obtain ⟨hfresh, hdistinct⟩ := List.nodup_cons.mp hnodup
    have hstep := h c key value next hnext
    have hrun := ih hdistinct hrest
    unfold Members.get? at hrun ⊢
    by_cases hkey : key = own
    · -- no member behind this one has the key, so the place stays as it is from here on
      subst hkey
      rw [if_pos rfl] at hstep
      rw [show rest.lookup key = none from get?_eq_none_of_not_mem hfresh] at hrun
      rw [List.lookup_cons_self, show view c' = view next from hrun]
      exact hstep
    · rw [if_neg hkey] at hstep
      rw [List.lookup_cons, beq_eq_false_iff_ne.mpr (Ne.symm hkey)]
      rw [show view next = view c from hstep] at hrun
      exact hrun

/-! ## Sections -/

theorem keeps_readListMember (h : ∀ s ∈ settings, ∀ c texts, view (s.set c texts) = view c) :
    Keeps (readListMember settings place) view := by
  intro c key value c' hread
  rcases readListMember_eq_ok hread with ⟨s, hs, _, texts, _, rfl⟩ | ⟨_, rfl⟩
  · exact h s hs c texts
  · rfl

theorem readsAt_readListMember (hsub : ∀ s ∈ settings, s ∈ listSettings) (hs : s ∈ settings) :
    ReadsAt (readListMember settings place) s.key s.get (Holds writeTexts) := by
  intro c key value c' hread
  rcases readListMember_eq_ok hread with ⟨s', hs', rfl, texts, rfl, rfl⟩ | ⟨hnone, rfl⟩
  · have hget := get_set c texts s' (hsub s' hs') s (hsub s hs)
    by_cases hkey : s'.key = s.key
    · rw [if_pos hkey, hget, if_pos hkey.symm]
      rfl
    · rw [if_neg hkey, hget, if_neg (Ne.symm hkey)]
      rfl
  · rw [if_neg (hnone s hs)]
    rfl

/-! ## Documents -/

theorem eq_of_section_key_eq :
    ∀ sec ∈ sections, ∀ sec' ∈ sections, sec.key = sec'.key → sec = sec' := by
  have hne : ("workspace" : Text) ≠ ("resource" : Text) := by decide
  simp [sections, hne, hne.symm]

/-- Sections have no key of a list setting in common. -/
theorem key_ne_of_section_key_ne : ∀ sec ∈ sections, ∀ sec' ∈ sections, sec.key ≠ sec'.key →
    ∀ s ∈ sec.settings, ∀ s' ∈ sec'.settings, s.key ≠ s'.key := by
  decide

/-- What reading a member of a document does. -/
theorem readMember_eq_ok (h : readMember c key value = .ok c') :
    (key = schemaKey ∧ ∃ schema, value = writeSchema schema ∧ c' = { c with schema })
      ∨ (∃ sec ∈ sections, key = sec.key ∧ ∃ inner, value = .object inner
        ∧ readMembers (readListMember sec.settings (memberPlace "$" sec.key)) inner c = .ok c')
      ∨ (key ≠ schemaKey ∧ (∀ sec ∈ sections, key ≠ sec.key) ∧ c' = c) := by
  rcases readMember_cases c key value with
    ⟨hkey, heq⟩ | ⟨sec, hsec, hkey, heq⟩ | ⟨hschema, hnone, heq⟩
  · rw [heq] at h
    obtain ⟨schema, hvalue, hset⟩ := except_bind_eq_ok_iff.mp h
    exact Or.inl ⟨hkey, schema, asTextOrNull_eq_ok_iff.mp hvalue, (Except.ok.inj hset).symm⟩
  · rw [heq] at h
    obtain ⟨inner, hvalue, hread⟩ := except_bind_eq_ok_iff.mp h
    exact Or.inr (Or.inl ⟨sec, hsec, hkey, inner, asMembers_eq_ok_iff.mp hvalue, hread⟩)
  · rw [heq] at h
    exact Or.inr (Or.inr ⟨hschema, hnone, (Except.ok.inj h).symm⟩)

/-- The value fits as a section: it is an object in which list settings are arrays of texts. -/
def Section.Fits (sec : Section) (value : Value) : Prop :=
  ∃ inner, value = .object inner
    ∧ ∀ m ∈ inner, m.1.encodingFault? = none ∧ ∀ s ∈ sec.settings, m.1 = s.key → m.2.IsTexts

theorem succeeds_section_read_iff : (∃ c', sec.read c value = .ok c') ↔ sec.Fits value := by
  have hrun : ∀ inner : Members,
      (∃ c', readMembers (readListMember sec.settings (memberPlace "$" sec.key)) inner c = .ok c')
        ↔ ∀ m ∈ inner, m.1.encodingFault? = none
          ∧ ∀ s ∈ sec.settings, m.1 = s.key → m.2.IsTexts := by
    intro inner
    have hmember : ∀ (c : Config) (key : Text) (value : Value),
        (∃ c', readListMember sec.settings (memberPlace "$" sec.key) c key value = .ok c')
          ↔ ∀ s ∈ sec.settings, key = s.key → value.IsTexts :=
      fun _ _ _ => succeeds_readListMember_iff
    exact succeeds_readMembers_iff hmember
  unfold Section.read Section.Fits
  simp only [except_bind_eq_ok_iff, asMembers_eq_ok_iff, ← hrun]
  constructor
  · rintro ⟨c', inner, hvalue, hread⟩
    exact ⟨inner, hvalue, c', hread⟩
  · rintro ⟨inner, hvalue, c', hread⟩
    exact ⟨c', inner, hvalue, hread⟩

/-- The value fits as a member of a document under a key: as the schema it is a text or null. -/
structure FitsMember (key : Text) (value : Value) : Prop where
  schema : key = schemaKey → ∃ schema, value = writeSchema schema
  lists : ∀ sec ∈ sections, key = sec.key → sec.Fits value

theorem succeeds_readMember_iff :
    (∃ c', readMember c key value = .ok c') ↔ FitsMember key value := by
  rcases readMember_cases c key value with
    ⟨rfl, heq⟩ | ⟨sec, hsec, rfl, heq⟩ | ⟨hschema, hnone, heq⟩
  · rw [heq]
    simp only [except_bind_eq_ok_iff, asTextOrNull_eq_ok_iff]
    constructor
    · rintro ⟨_, schema, hvalue, _⟩
      exact ⟨fun _ => ⟨schema, hvalue⟩,
        fun sec hsec hkey => absurd hkey.symm (section_key_ne_schemaKey sec hsec)⟩
    · intro h
      obtain ⟨schema, hvalue⟩ := h.schema rfl
      exact ⟨_, schema, hvalue, rfl⟩
  · rw [heq, succeeds_section_read_iff]
    constructor
    · intro hfits
      refine ⟨fun hkey => absurd hkey (section_key_ne_schemaKey sec hsec), ?_⟩
      intro sec' hsec' hkey
      rw [← eq_of_section_key_eq sec hsec sec' hsec' hkey]
      exact hfits
    · intro h
      exact h.lists sec hsec rfl
  · rw [heq]
    exact iff_of_true ⟨c, rfl⟩
      ⟨fun hkey => absurd hkey hschema, fun sec hsec hkey => absurd hkey (hnone sec hsec)⟩

theorem readsAt_schema :
    ReadsAt readMember schemaKey Config.schema (Holds writeSchema) := by
  intro c key value c' hread
  rcases readMember_eq_ok hread with
    ⟨rfl, schema, hvalue, rfl⟩ | ⟨sec, hsec, rfl, inner, _, hinner⟩ | ⟨hschema, _, rfl⟩
  · rw [if_pos rfl]
    exact hvalue
  · have hkeeps : Keeps (readListMember sec.settings (memberPlace "$" sec.key)) Config.schema :=
      keeps_readListMember (fun s hs c texts => schema_set c texts s (mem_listSettings hsec hs))
    rw [if_neg (section_key_ne_schemaKey sec hsec)]
    exact hkeeps.of_readMembers hinner
  · rw [if_neg hschema]
    rfl

/-- What reading a section does to one of its list settings. -/
def SettlesInside (own : Text) (value : Value) (before after : List Text) : Prop :=
  ∃ inner : Members, value = .object inner
    ∧ ((inner.map Prod.fst).Nodup → Settles (Holds writeTexts) (inner.get? own) before after)

theorem readsAt_list (hsec : sec ∈ sections) (hs : s ∈ sec.settings) :
    ReadsAt readMember sec.key s.get (SettlesInside s.key) := by
  intro c key value c' hread
  rcases readMember_eq_ok hread with
    ⟨rfl, schema, _, rfl⟩ | ⟨sec', hsec', rfl, inner, hvalue, hinner⟩ | ⟨_, hnone, rfl⟩
  · rw [if_neg (section_key_ne_schemaKey sec hsec).symm]
    exact get_withSchema c schema s (mem_listSettings hsec hs)
  · by_cases hkey : sec'.key = sec.key
    · obtain rfl := eq_of_section_key_eq sec' hsec' sec hsec hkey
      rw [if_pos rfl]
      exact ⟨inner, hvalue, fun hdistinct =>
        (readsAt_readListMember (fun _ => mem_listSettings hsec) hs).of_readMembers hdistinct hinner⟩
    · -- the settings of another section have other places
      have hkeeps : Keeps (readListMember sec'.settings (memberPlace "$" sec'.key)) s.get := by
        refine keeps_readListMember (fun s' hs' c texts => ?_)
        rw [get_set c texts s' (mem_listSettings hsec' hs') s (mem_listSettings hsec hs),
          if_neg (key_ne_of_section_key_ne sec' hsec' sec hsec hkey s' hs' s hs).symm]
      rw [if_neg hkey]
      exact hkeeps.of_readMembers hinner
  · rw [if_neg (hnone sec hsec)]
    rfl

end WorkspacePaths
