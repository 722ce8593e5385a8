import WorkspacePaths.Config.Failure
import WorkspacePaths.Proofs.Config.Settings

/-!
# `Proofs.Config.Acceptance` — the documents that are configurations

Of all that a document may hold, a configuration is read from a few places: the schema and the two
sections, and in these the lists. Each place may be empty, and what stands in it must be of its kind;
nothing else matters, and neither does the order. As keys are distinct in mappings, a place is known by
its key alone, and so is what a run over the members leaves there. So a document that is accepted can be
compared with another one place by place.

## Contents
- **Mappings.** `IsMapping` and `IsDocument`; in a mapping, a key leads to its member.
- **What a document says.** `Describes`, the configuration; `HasShape`, that each place holds its kind;
  `SameSettings`, that two documents hold the same in each.
- **What reading comes to.** `succeeds_ofMembers_iff`, `describes_of_ofMembers`, `ofMembers_eq_ok_iff`,
  and `ofMembers_ne_key`: no key is to blame.
- **Documents that say the same.** `HasShape.of_same`, `Describes.of_same`.
- `ofMembers_outcome`: when a document is accepted, what it is read as, and what makes no difference;
  `ofMembers_outcome_of_strange` for two documents with the same settings.
-/

namespace WorkspacePaths

variable {members inner document document' : Members} {key : Text} {value : Value} {c c' : Config}
  {sec : Section} {s : ListSetting}

/-! ## Mappings -/

/-- Members as a mapping has them: no key stands twice, and every key has a UTF-8 form. -/
structure IsMapping (members : Members) : Prop where
  distinct : (members.map Prod.fst).Nodup
  encodable : ∀ m ∈ members, m.1.hasSurrogate = false

/-- The document and its sections are mappings. -/
structure IsDocument (document : Members) : Prop where
  own : IsMapping document
  inSections : ∀ sec ∈ sections, ∀ inner, document.get? sec.key = some (.object inner) →
    IsMapping inner

/-- In a mapping, a key leads to its member. -/
theorem IsMapping.get?_eq_some_iff (h : IsMapping members) :
    members.get? key = some value ↔ (key, value) ∈ members := by
  have hdistinct := h.distinct
  clear h
  unfold Members.get?
  induction members with
  | nil => simp
  | cons m rest ih =>
    obtain ⟨name, v⟩ := m
    obtain ⟨hfresh, hrest⟩ := List.nodup_cons.mp hdistinct
    rw [List.lookup_cons, List.mem_cons]
    by_cases hkey : key = name
    · subst hkey
      have hnot : (key, value) ∉ rest := fun hin => hfresh (List.mem_map.mpr ⟨_, hin, rfl⟩)
      simp [hnot, eq_comm]
    · rw [beq_eq_false_iff_ne.mpr hkey]
      simp [ih hrest, hkey]

/-! ## What a document says -/

/-- What stands under a key is `x`, as `write` writes it; nothing under the key stands for `absent`. -/
def Under {α : Type} (write : α → Value) (absent : α) (members : Members) (key : Text) (x : α) : Prop :=
  match members.get? key with
  | none => x = absent
  | some value => value = write x

/-- The configuration that a document describes: the schema under its key, and each list setting as the
texts under its key in its section. A section that is not there has no members. -/
structure Describes (document : Members) (c : Config) : Prop where
  schema : Under writeSchema none document schemaKey c.schema
  lists : ∀ sec ∈ sections, ∃ inner, Under .object [] document sec.key inner
    ∧ ∀ s ∈ sec.settings, Under writeTexts [] inner s.key (s.get c)

/-- What stands under the keys of settings is of their kind: the schema is a text or null, a section is
an object, and in a section every list setting is an array of texts. -/
structure HasShape (document : Members) : Prop where
  schema : ∀ value, document.get? schemaKey = some value → value = .null ∨ ∃ t, value = .text t
  lists : ∀ sec ∈ sections, ∀ value, document.get? sec.key = some value →
    ∃ inner : Members, value = .object inner
      ∧ ∀ s ∈ sec.settings, ∀ v : Value, inner.get? s.key = some v → v.IsTexts

/-- Two documents say the same of all settings, whatever else they hold and in whatever order. -/
structure SameSettings (document document' : Members) : Prop where
  schema : document.get? schemaKey = document'.get? schemaKey
  lists : ∀ sec ∈ sections, document.get? sec.key = document'.get? sec.key
    ∨ ∃ inner inner' : Members, document.get? sec.key = some (.object inner)
      ∧ document'.get? sec.key = some (.object inner')
      ∧ ∀ s ∈ sec.settings, inner.get? s.key = inner'.get? s.key

theorem under_of_none {α : Type} {write : α → Value} {absent : α} (h : members.get? key = none) :
    Under write absent members key absent := by
  unfold Under
  rw [h]

theorem under_of_some {α : Type} {write : α → Value} {absent x : α}
    (h : members.get? key = some (write x)) : Under write absent members key x := by
  unfold Under
  rw [h]

/-- What a run settles in a place by the member under its key, this member says. -/
theorem under_of_settles {α : Type} {write : α → Value} {absent x : α}
    (h : Settles (Holds write) (members.get? key) absent x) : Under write absent members key x := by
  unfold Under
  cases hunder : members.get? key with
  | none =>
    rw [hunder] at h
    exact h
  | some value =>
    rw [hunder] at h
    exact h

theorem Under.unique {α : Type} {write : α → Value} {absent x y : α}
    (hwrite : Function.Injective write) (hx : Under write absent members key x)
    (hy : Under write absent members key y) : x = y := by
  unfold Under at hx hy
  cases hunder : members.get? key with
  | none =>
    rw [hunder] at hx hy
    exact hx.trans hy.symm
  | some value =>
    rw [hunder] at hx hy
    exact hwrite (hx.symm.trans hy)

theorem Under.congr {α : Type} {write : α → Value} {absent x : α}
    (h : members.get? key = inner.get? key) (hx : Under write absent members key x) :
    Under write absent inner key x := by
  unfold Under at hx ⊢
  rwa [← h]

theorem writeTexts_injective : Function.Injective writeTexts :=
  fun _ _ h => (List.map_inj_right (fun _ _ => Value.text.inj)).mp (Value.array.inj h)

theorem writeSchema_injective : Function.Injective writeSchema := by
  intro schema schema' h
  cases schema <;> cases schema' <;> simp_all [writeSchema]

/-- A document describes one configuration at most. -/
theorem Describes.unique (h : Describes document c) (h' : Describes document c') : c = c' := by
  refine eq_of_get_eq (h.schema.unique writeSchema_injective h'.schema) (fun s hs => ?_)
  obtain ⟨sec, hsec, hin⟩ := List.mem_flatMap.mp hs
  obtain ⟨inner, hinner, htexts⟩ := h.lists sec hsec
  obtain ⟨inner', hinner', htexts'⟩ := h'.lists sec hsec
  obtain rfl := hinner.unique (fun _ _ => Value.object.inj) hinner'
  exact (htexts s hin).unique writeTexts_injective (htexts' s hin)

/-! ## What reading comes to -/

/-- **When a document is accepted**: what stands in its places must be of their kinds. -/
theorem succeeds_ofMembers_iff (hdocument : IsDocument document) :
    (∃ c, Config.ofMembers document = .ok c) ↔ HasShape document := by
  have hmember : ∀ (c : Config) (key : Text) (value : Value),
      (∃ c', readMember c key value = .ok c') ↔ FitsMember key value :=
    fun _ _ _ => succeeds_readMember_iff
  unfold Config.ofMembers
  rw [succeeds_readMembers_iff hmember]
  constructor
  · intro h
    refine ⟨?_, ?_⟩
    · intro value hvalue
      obtain ⟨schema, rfl⟩ := (h _ (hdocument.own.get?_eq_some_iff.mp hvalue)).2.schema rfl
      cases schema with
      | none => exact Or.inl rfl
      | some t => exact Or.inr ⟨t, rfl⟩
    · intro sec hsec value hvalue
      obtain ⟨inner, rfl, hinner⟩ :=
        (h _ (hdocument.own.get?_eq_some_iff.mp hvalue)).2.lists sec hsec rfl
      have hmapping := hdocument.inSections sec hsec inner hvalue
      exact ⟨inner, rfl, fun s hs value hunder =>
        (hinner _ (hmapping.get?_eq_some_iff.mp hunder)).2 s hs rfl⟩
  · intro h
    rintro ⟨key, value⟩ hm
    have hunder := hdocument.own.get?_eq_some_iff.mpr hm
    refine ⟨Text.encodingFault?_eq_none_iff.mpr (hdocument.own.encodable _ hm), ?_, ?_⟩
    · rintro rfl
      rcases h.schema value hunder with rfl | ⟨t, rfl⟩
      · exact ⟨none, rfl⟩
      · exact ⟨some t, rfl⟩
    · rintro sec hsec rfl
      obtain ⟨inner, rfl, hinner⟩ := h.lists sec hsec value hunder
      have hmapping := hdocument.inSections sec hsec inner hunder
      refine ⟨inner, rfl, ?_⟩
      rintro ⟨name, v⟩ hin
      refine ⟨Text.encodingFault?_eq_none_iff.mpr (hmapping.encodable _ hin), ?_⟩
      rintro s hs rfl
      exact hinner s hs v (hmapping.get?_eq_some_iff.mpr hin)

theorem get_default : ∀ s ∈ listSettings, s.get {} = [] :=
  forall_listSettings.mpr ⟨rfl, rfl, rfl, rfl, rfl⟩

/-- **What an accepted document is read as**: each place of the configuration holds what the document
has under its key. -/
theorem describes_of_ofMembers (hdocument : IsDocument document)
    (h : Config.ofMembers document = .ok c) : Describes document c := by
  have hshape : HasShape document := (succeeds_ofMembers_iff hdocument).mp ⟨c, h⟩
  refine ⟨under_of_settles (readsAt_schema.of_readMembers hdocument.own.distinct h), ?_⟩
  intro sec hsec
  have hlist : ∀ s ∈ sec.settings,
      Settles (SettlesInside s.key) (document.get? sec.key) [] (s.get c) := by
    intro s hs
    rw [← get_default s (mem_listSettings hsec hs)]
    exact (readsAt_list hsec hs).of_readMembers hdocument.own.distinct h
  cases hunder : document.get? sec.key with
  | none =>
    refine ⟨[], under_of_none hunder, fun s hs => ?_⟩
    have hs' := hlist s hs
    rw [hunder] at hs'
    exact hs'
  | some value =>
    obtain ⟨inner, rfl, _⟩ := hshape.lists sec hsec value hunder
    refine ⟨inner, under_of_some hunder, fun s hs => ?_⟩
    have hs' := hlist s hs
    rw [hunder] at hs'
    obtain ⟨other, heq, hsettles⟩ := hs'
    obtain rfl := Value.object.inj heq
    exact under_of_settles (hsettles (hdocument.inSections sec hsec inner hunder).distinct)

/-- A document is read as the configuration that it describes. -/
theorem ofMembers_eq_ok_iff (hdocument : IsDocument document) :
    Config.ofMembers document = .ok c ↔ HasShape document ∧ Describes document c := by
  constructor
  · intro h
    exact ⟨(succeeds_ofMembers_iff hdocument).mp ⟨c, h⟩, describes_of_ofMembers hdocument h⟩
  · rintro ⟨hshape, hdescribes⟩
    obtain ⟨c', hc'⟩ := (succeeds_ofMembers_iff hdocument).mpr hshape
    rw [hc', (describes_of_ofMembers hdocument hc').unique hdescribes]

/-- In mappings, reading comes to no key without a UTF-8 form. -/
theorem IsMapping.not_meetsBadKey {read : Config → Text → Value → Except ShapeFault Config}
    {fault : Text.EncodingFault} (h : IsMapping members) : ¬ MeetsBadKey read c members fault := by
  rintro ⟨reached, key, value, ⟨before, after, rfl, _⟩, hkey⟩
  have hnone : key.encodingFault? = none := Text.encodingFault?_eq_none_iff.mpr
    (h.encodable (key, value) (List.mem_append_right _ List.mem_cons_self))
  rw [hnone] at hkey
  exact absurd hkey (by simp)

theorem ofMembers_ne_key (hdocument : IsDocument document) (fault : Text.EncodingFault) :
    Config.ofMembers document ≠ .error (.key fault) := by
  intro h
  have hinner : ∀ (sec : Section) (before : Config) (inner : Members), sec ∈ sections →
      ComesTo readMember {} document before sec.key (.object inner) → IsMapping inner := by
    rintro sec before inner hsec ⟨first, after, rfl, _⟩
    exact hdocument.inSections sec hsec inner (hdocument.own.get?_eq_some_iff.mpr
      (List.mem_append_right _ List.mem_cons_self))
  rcases ofMembers_eq_key_iff.mp h with hmeets | ⟨hcomes, hmeets⟩ | ⟨hcomes, hmeets⟩
  · exact hdocument.own.not_meetsBadKey hmeets
  · exact (hinner ⟨"workspace", workspaceSettings⟩ _ _ List.mem_cons_self hcomes).not_meetsBadKey hmeets
  · exact (hinner ⟨"resource", resourceSettings⟩ _ _ (List.mem_cons_of_mem _ List.mem_cons_self)
      hcomes).not_meetsBadKey hmeets

/-! ## Documents that say the same -/

/-- A document that says the same of all settings has the right shape as well. -/
theorem HasShape.of_same (hsame : SameSettings document document') (h : HasShape document) :
    HasShape document' := by
  refine ⟨?_, ?_⟩
  · rw [← hsame.schema]
    exact h.schema
  · intro sec hsec value hvalue
    rcases hsame.lists sec hsec with heq | ⟨inner, inner', hinner, hinner', hlists⟩
    · exact h.lists sec hsec value (heq.trans hvalue)
    · obtain ⟨other, hother, hkinds⟩ := h.lists sec hsec _ hinner
      obtain rfl := Value.object.inj hother
      refine ⟨inner', Option.some.inj (hvalue.symm.trans hinner'), ?_⟩
      intro s hs
      rw [← hlists s hs]
      exact hkinds s hs

/-- A document that says the same of all settings describes the same configuration. -/
theorem Describes.of_same (hsame : SameSettings document document') (h : Describes document c) :
    Describes document' c := by
  refine ⟨h.schema.congr hsame.schema, ?_⟩
  intro sec hsec
  obtain ⟨inner, hunder, htexts⟩ := h.lists sec hsec
  rcases hsame.lists sec hsec with heq | ⟨inner₁, inner', hinner, hinner', hlists⟩
  · exact ⟨inner, hunder.congr heq, htexts⟩
  · obtain rfl := hunder.unique (fun _ _ => Value.object.inj) (under_of_some hinner)
    exact ⟨inner', under_of_some hinner', fun s hs => (htexts s hs).congr (hlists s hs)⟩

theorem SameSettings.symm (h : SameSettings document document') : SameSettings document' document := by
  refine ⟨h.schema.symm, ?_⟩
  intro sec hsec
  rcases h.lists sec hsec with heq | ⟨inner, inner', hinner, hinner', hlists⟩
  · exact Or.inl heq.symm
  · exact Or.inr ⟨inner', inner, hinner', hinner, fun s hs => (hlists s hs).symm⟩

/-! ## Main result -/

/-- **The documents that are configurations.** Where keys are distinct and have a UTF-8 form, in a
document and in its sections, the document is accepted exactly if what stands under the keys of settings
is of their kind, and any other one is refused as an invalid configuration. An accepted document is read
as what it describes: each list has its texts in their order, and is empty if it is not there. And
documents that say the same of all settings, whatever else they hold and in whatever order, are accepted
alike and read alike. -/
theorem ofMembers_outcome (hdocument : IsDocument document) :
    ((∃ c, Config.ofMembers document = .ok c) ↔ HasShape document)
    ∧ (¬ HasShape document → ∃ m,
      (Config.ofMembers document).mapError Failure.ofShape = .error (.config (.mismatch m)))
    ∧ (∀ c, Config.ofMembers document = .ok c → Describes document c)
    ∧ ∀ document', IsDocument document' → SameSettings document document' →
      ∀ c, Config.ofMembers document = .ok c ↔ Config.ofMembers document' = .ok c := by
  refine ⟨succeeds_ofMembers_iff hdocument, ?_, fun c => describes_of_ofMembers hdocument, ?_⟩
  · intro hshape
    cases hread : Config.ofMembers document with
    | ok c => exact absurd ((succeeds_ofMembers_iff hdocument).mp ⟨c, hread⟩) hshape
    | error fault =>
      cases fault with
      | mismatch m => exact ⟨m, rfl⟩
      | key fault => exact absurd hread (ofMembers_ne_key hdocument fault)
  · intro document' hdocument' hsame c
    rw [ofMembers_eq_ok_iff hdocument, ofMembers_eq_ok_iff hdocument']
    constructor
    · rintro ⟨hshape, hdescribes⟩
      exact ⟨hshape.of_same hsame, hdescribes.of_same hsame⟩
    · rintro ⟨hshape, hdescribes⟩
      exact ⟨hshape.of_same hsame.symm, hdescribes.of_same hsame.symm⟩

/-- A document with a library and with members that are no settings. -/
def strangeDocument : Members :=
  [("hint", .array [.null]),
    ("workspace", .object [("library", .array [.text "b", .text "a", .text "b"]), ("paths", .int 1)]),
    ("$schema", .null)]

/-- Another document with the same settings, in another order and among other members. -/
def otherDocument : Members :=
  [("$schema", .null), ("library", .bool true),
    ("workspace", .object [("Library", .null),
      ("library", .array [.text "b", .text "a", .text "b"])])]

theorem isDocument_of_workspace (hown : IsMapping document)
    (hworkspace : document.get? "workspace" = some (.object inner)) (hinner : IsMapping inner)
    (hresource : document.get? "resource" = none) : IsDocument document := by
  refine ⟨hown, ?_⟩
  intro sec hsec other hunder
  simp only [sections, List.mem_cons, List.not_mem_nil, or_false] at hsec
  rcases hsec with rfl | rfl
  · rw [← Value.object.inj (Option.some.inj (hworkspace.symm.trans hunder))]
    exact hinner
  · exact absurd (hresource.symm.trans hunder) (by simp)

/-- The documents are accepted alike, and repeats in the list are kept. -/
theorem ofMembers_outcome_of_strange :
    IsDocument strangeDocument ∧ IsDocument otherDocument ∧ SameSettings strangeDocument otherDocument
      ∧ HasShape strangeDocument ∧ Describes strangeDocument { library := ["b", "a", "b"] }
      ∧ Config.ofMembers otherDocument = .ok { library := ["b", "a", "b"] } := by
  have hstrange : IsDocument strangeDocument :=
    isDocument_of_workspace ⟨by decide, by decide⟩ rfl ⟨by decide, by decide⟩ rfl
  have hother : IsDocument otherDocument :=
    isDocument_of_workspace ⟨by decide, by decide⟩ rfl ⟨by decide, by decide⟩ rfl
  have hsame : SameSettings strangeDocument otherDocument := by
    refine ⟨rfl, ?_⟩
    intro sec hsec
    simp only [sections, List.mem_cons, List.not_mem_nil, or_false] at hsec
    rcases hsec with rfl | rfl
    · refine Or.inr ⟨_, _, rfl, rfl, ?_⟩
      have hnothing : ∀ v w : Option Value, v = none → w = none → v = w :=
        fun _ _ hv hw => hv.trans hw.symm
      simp only [workspaceSettings, List.forall_mem_cons]
      -- the library is the one list in either document
      exact ⟨hnothing _ _ rfl rfl, rfl, hnothing _ _ rfl rfl, hnothing _ _ rfl rfl, by simp⟩
    · exact Or.inl rfl
  have hread : Config.ofMembers strangeDocument = .ok { library := ["b", "a", "b"] } := by rfl
  obtain ⟨haccepted, _, hdescribes, hframe⟩ := ofMembers_outcome hstrange
  exact ⟨hstrange, hother, hsame, haccepted.mp ⟨_, hread⟩, hdescribes _ hread,
    (hframe _ hother hsame _).mp hread⟩

end WorkspacePaths
