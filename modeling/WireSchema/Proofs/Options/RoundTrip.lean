import WireSchema.Options.Document
import WireSchema.Options.Reader
import WireSchema.Proofs.Document.Asked

namespace WireSchema

/-!
# Options that are written and read back

A document sets options by their names, and two options by other names as well.  What is read from
it is written under the first names alone, with words for the alternatives, and reading this gives
the same options again, so that writing them a second time changes nothing.  Values that no reader
looks into come through as they are, and so does whatever stands in the place of a section that is
none.
-/

open Asked

/-- What holds at the start of a run over items, and is kept by each step, holds at its end. -/
theorem foldlM_induction {ε α β : Type} {step : β → α → Except ε β} {items : List α}
    {holds : β → Prop}
    (each : ∀ item ∈ items, ∀ state after, holds state → step state item = .ok after → holds after)
    {start final : β} (first : holds start) (run : items.foldlM step start = .ok final) :
    holds final := by
  induction items generalizing start with
  | nil =>
      cases run
      exact first
  | cons item items ih =>
      rw [List.foldlM_cons] at run
      rcases bind_eq_ok_iff.mp run with ⟨state, own, rest⟩
      exact ih (fun other member => each other (List.mem_cons_of_mem item member))
        (each item List.mem_cons_self start state first own) rest

theorem foldlM_cons_of_ok {ε α β : Type} {step : β → α → Except ε β} {start state : β} {item : α}
    (own : step start item = .ok state) (items : List α) :
    (item :: items).foldlM step start = items.foldlM step state := by
  rw [List.foldlM_cons, own]
  rfl

theorem foldlM_append_of_ok {ε α β : Type} {step : β → α → Except ε β} {start state : β}
    {items : List α} (front : items.foldlM step start = .ok state) (others : List α) :
    (items ++ others).foldlM step start = others.foldlM step state := by
  rw [List.foldlM_append, front]
  rfl

/-- Steps that succeed as long as the state is as they need it are steps of a plain run. -/
theorem foldlM_eq_foldl {ε α β : Type} {step : β → α → Except ε β} {plain : β → α → β}
    {holds : β → Prop} {items : List α}
    (each : ∀ item ∈ items, ∀ state, holds state →
      step state item = .ok (plain state item) ∧ holds (plain state item))
    {start : β} (first : holds start) :
    items.foldlM step start = .ok (items.foldl plain start) ∧ holds (items.foldl plain start) := by
  induction items generalizing start with
  | nil => exact ⟨rfl, first⟩
  | cons item items ih =>
      rcases each item List.mem_cons_self start first with ⟨own, after⟩
      rw [foldlM_cons_of_ok own, List.foldl_cons]
      exact ih (fun other member => each other (List.mem_cons_of_mem item member)) after

theorem Value.members?_eq_none {value : Value} (other : ∀ members, value ≠ .map members) :
    value.members? = none := by
  cases value with
  | map members => exact absurd rfl (other members)
  | null | bool | int | float | date | text | list => rfl

/-! ## Names -/

namespace TemplateOptions

def names : List String :=
  ["template_source", "template_base_path", "types_template", "adapter_template",
    "client_template", "bridge_template", "registration_template"]

end TemplateOptions

namespace StubOptions

/-- The names of the stub options. -/
def names : List String :=
  ["enabled", "output_dir", "module_path", "protobuf_package", "protobuf_alias", "grpc_package",
    "grpc_alias", "streaming_support", "registration_helpers", "protoc_program", "templates"]

end StubOptions

namespace Options

def names : List String :=
  ["output", "output_file_name", "schema_name", "output_formats", "generation_strategy", "syntax",
    "package", "go_package", "java_package", "java_outer_classname", "optimize_for", "options",
    "generate_service", "start_field_number", "custom_imports", "type_mappings", "generate_stubs",
    "known_types"]

/-- Other names under which an option is read.  They are never written, so a
document that was written has none of them. -/
def otherNames : List String := ["strategy", "java_outer_class"]

def allNames : List String := names ++ StubOptions.names ++ TemplateOptions.names ++ otherNames

/-- All members of a mapping have names of options. -/
def HasNames (members : Members) : Prop :=
  ∀ member ∈ members, ∃ name ∈ allNames, member.1 = .text name

/-- A document whose members have names of options, and whose known types are a
mapping.  A few other names stand for the record itself, which need not be
printed as options any more; all the rest are passed over. -/
structure IsDocument (members : Members) : Prop where
  own : HasNames members
  stubs : ∀ stubs, (.text "generate_stubs", .map stubs) ∈ members → HasNames stubs
  templates : ∀ stubs, (.text "generate_stubs", .map stubs) ∈ members →
    ∀ templates, (.text "templates", .map templates) ∈ stubs → HasNames templates
  known : ∀ value, (.text "known_types", value) ∈ members → ∃ entries, value = .map entries

theorem recordName?_eq_none {name : String} (known : name ∈ allNames) :
    recordName? name = none := by
  revert name
  decide

theorem memberName_text (name : String) : memberName (.text name) = pure name :=
  rfl

theorem hidesPrinter_of_known {name : String} (known : name ∈ allNames) : name ≠ "to_dict" := by
  revert name
  decide

end Options

/-! ## What reading leaves -/

/-- A section that is read into content of some kind, or is kept and is no
mapping.  A section that is a mapping is always read, so that these are all forms
in which options come from a document. -/
def Section.Holds {α : Type} (kind : α → Prop) : Section α → Prop
  | .read content => kind content
  | .kept value => value.members? = none
  | .lacking => False

/-- Template options with a source that is read, and with a list of members of their own. -/
structure TemplateOptions.IsSettled (templates : TemplateOptions) : Prop where
  source : ∃ source, templates.source = .read source
  own : templates.memberTable = none

/-- Stub options with settled template options, and with a list of members of their own. -/
structure StubOptions.IsSettled (stubs : StubOptions) : Prop where
  templates : stubs.templates.Holds TemplateOptions.IsSettled
  own : stubs.memberTable = none

/-- Options that lack nothing, whose sections are read, and which are printed in
their own way.  They are written under all their names; options that are read
from such a document are of this form. -/
structure Options.IsSettled (options : Options) : Prop where
  formats : ∃ formats, options.outputFormats = .read formats
  strategy : ∃ strategy, options.strategy = .read strategy
  fileOptions : ∃ value, options.fileOptions = some value
  customImports : ∃ value, options.customImports = some value
  typeMappings : ∃ value, options.typeMappings = some value
  known : ∃ entries, options.knownTypes = .read entries
  stubs : options.stubs.Holds StubOptions.IsSettled
  own : options.memberTable = none
  printed : options.hidesPrinter = false

namespace Options

variable {name : String} {value : Value}

/-! ### Templates -/

/-- The source of templates is read as a word, and other template options are kept as they stand. -/
theorem setTemplateMember_of_known (known : name ∈ allNames) (templates : TemplateOptions)
    (value : Value) :
    setTemplateMember templates (.text name) value =
      if name = "template_source" then (do
        let source ← readWord name TemplateSource.all (·.word) value
        return { templates with source := .read source })
      else .ok (setTemplateUnread templates name value) := by
  rw [setTemplateMember, memberName_text, pure_bind]
  simp only [recordName?_eq_none known]
  rfl

theorem isSettled_setTemplateUnread {templates : TemplateOptions} (known : name ∈ allNames)
    (other : name ≠ "template_source") (settled : templates.IsSettled) :
    (setTemplateUnread templates name value).IsSettled := by
  have plain := recordName?_eq_none known
  unfold setTemplateUnread
  split
  case h_1 => exact absurd rfl other
  case h_8 => cases plain
  all_goals exact ⟨settled.source, settled.own⟩

theorem isSettled_setTemplateMember {templates after : TemplateOptions} (known : name ∈ allNames)
    (settled : templates.IsSettled)
    (set : setTemplateMember templates (.text name) value = .ok after) : after.IsSettled := by
  rw [setTemplateMember_of_known known] at set
  split at set
  · rcases bind_eq_ok_iff.mp set with ⟨source, -, rest⟩
    cases rest
    exact ⟨⟨source, rfl⟩, settled.own⟩
  · rename_i other
    cases set
    exact isSettled_setTemplateUnread known other settled

theorem isSettled_readTemplates {members : Members} {templates : TemplateOptions}
    (named : HasNames members) (read : readTemplates members = .ok templates) :
    templates.IsSettled := by
  refine foldlM_induction (fun member inside state after settled set => ?_) ⟨⟨_, rfl⟩, rfl⟩ read
  rcases named member inside with ⟨name, known, key⟩
  rw [key] at set
  exact isSettled_setTemplateMember known settled set

/-! ### Stubs -/

/-- A stub option other than a mapping of template options is kept as it stands. -/
theorem setStubMember_of_kept {stubs : StubOptions} (known : name ∈ allNames)
    (kept : name = "templates" → value.members? = none) (present : stubs.templates.isThere = true) :
    setStubMember stubs (.text name) value = .ok (setStubUnread stubs name value) := by
  have there : (decide (name = "templates") && !stubs.templates.isThere) = false := by
    rw [present]
    exact Bool.and_false _
  rw [setStubMember, memberName_text, pure_bind]
  simp only [recordName?_eq_none known]
  cases value with
  | map members =>
      refine if_neg fun part => ?_
      cases kept part
  | null | bool | int | float | date | text | list => exact if_neg (Bool.eq_false_iff.mp there)

theorem isSettled_setStubUnread {stubs : StubOptions} (known : name ∈ allNames)
    (kept : name = "templates" → value.members? = none) (settled : stubs.IsSettled) :
    (setStubUnread stubs name value).IsSettled := by
  have plain := recordName?_eq_none known
  unfold setStubUnread
  split
  case h_11 => exact ⟨kept rfl, settled.own⟩
  case h_12 => cases plain
  all_goals exact ⟨settled.templates, settled.own⟩

theorem setStubMember_templates (stubs : StubOptions) (members : Members) :
    setStubMember stubs (.text "templates") (.map members) = (do
      let templates ← readTemplates members
      return { stubs with templates := .read templates }) :=
  rfl

/-- A settled section is there. -/
theorem isThere_of_holds {α : Type} {kind : α → Prop} {part : Section α}
    (holds : part.Holds kind) : part.isThere = true := by
  cases part with
  | read content => rfl
  | kept value => rfl
  | lacking => exact holds.elim

theorem isSettled_setStubMember {stubs after : StubOptions} (known : name ∈ allNames)
    (named : ∀ templates, name = "templates" → value = .map templates → HasNames templates)
    (settled : stubs.IsSettled) (set : setStubMember stubs (.text name) value = .ok after) :
    after.IsSettled := by
  by_cases read : name = "templates" ∧ ∃ templates, value = .map templates
  · rcases read with ⟨rfl, templates, rfl⟩
    rw [setStubMember_templates] at set
    rcases bind_eq_ok_iff.mp set with ⟨found, read, rest⟩
    cases rest
    exact ⟨isSettled_readTemplates (named templates rfl rfl) read, settled.own⟩
  · have kept : name = "templates" → value.members? = none := fun part =>
      Value.members?_eq_none fun members mapping => read ⟨part, members, mapping⟩
    rw [setStubMember_of_kept known kept (isThere_of_holds settled.templates)] at set
    cases set
    exact isSettled_setStubUnread known kept settled

/-- Stub options are settled before any of them is set. -/
theorem isSettled_stubs : StubOptions.IsSettled {} :=
  ⟨⟨⟨_, rfl⟩, rfl⟩, rfl⟩

theorem isSettled_readStubs {members : Members} {stubs : StubOptions} (named : HasNames members)
    (templates : ∀ templates, (.text "templates", .map templates) ∈ members → HasNames templates)
    (read : readStubs members = .ok stubs) : stubs.IsSettled := by
  refine foldlM_induction (fun member inside state after settled set => ?_) isSettled_stubs read
  rcases named member inside with ⟨name, known, key⟩
  rw [key] at set
  refine isSettled_setStubMember known (fun found part mapping => ?_) settled set
  refine templates found ?_
  rwa [← part, ← key, ← mapping]

/-! ### Options -/

theorem setMember_of_known (given : Bool) (options : Options) (known : name ∈ allNames)
    (value : Value) :
    setMember given options (.text name) value = setNamed given options name value := by
  rw [setMember, memberName_text, pure_bind]
  simp only [recordName?_eq_none known]

/-- The names of options that are read as a whole, or under another name.  All
other options are set by the member of their name alone and can be treated
alike. -/
def readNames : List String :=
  ["generation_strategy", "strategy", "output_formats", "java_outer_class", "known_types",
    "generate_stubs"]

theorem setNamed_of_kept (given : Bool) (options : Options) (kept : name ∉ readNames)
    (value : Value) :
    setNamed given options name value = .ok (options.setKept name value) := by
  unfold setNamed
  split
  case h_7 => rfl
  all_goals exact absurd (by decide) kept

theorem setNamed_stubs_of_kept (given : Bool) (options : Options) (plain : value.members? = none) :
    setNamed given options "generate_stubs" value =
      .ok (options.setKept "generate_stubs" value) := by
  cases value with
  | map members => cases plain
  | null | bool | int | float | date | text | list => rfl

/-- Settled options lack nothing. -/
theorem setKept_of_isSettled {options : Options} (settled : options.IsSettled) (name : String)
    (value : Value) : options.setKept name value = setUnreadOption options name value := by
  rcases settled.fileOptions with ⟨_, files⟩
  rcases settled.customImports with ⟨_, imports⟩
  rcases settled.typeMappings with ⟨_, mappings⟩
  rcases settled.known with ⟨_, known⟩
  have present : options.lacks name = false := by
    unfold lacks
    split
    · rw [known]
      rfl
    · rw [isThere_of_holds settled.stubs]
      rfl
    · rw [files]
      rfl
    · rw [imports]
      rfl
    · rw [mappings]
      rfl
    · rfl
  rw [setKept, if_neg (Bool.eq_false_iff.mp present)]

theorem isSettled_setUnreadOption {options : Options} (known : name ∈ allNames)
    (kept : name ∉ readNames) (settled : options.IsSettled) :
    (setUnreadOption options name value).IsSettled := by
  have plain := recordName?_eq_none known
  have printed := hidesPrinter_of_known known
  unfold setUnreadOption
  split
  case h_1 | h_2 | h_4 | h_5 => exact absurd (by decide) kept
  case h_14 => exact { settled with fileOptions := ⟨_, rfl⟩ }
  case h_17 => exact { settled with customImports := ⟨_, rfl⟩ }
  case h_18 => exact { settled with typeMappings := ⟨_, rfl⟩ }
  case h_19 => cases plain
  case h_20 => exact absurd rfl printed
  all_goals exact { settled with }

theorem isSettled_setNamed {given : Bool} {options after : Options} (known : name ∈ allNames)
    (table : name = "known_types" → ∃ entries, value = .map entries)
    (stubs : name = "generate_stubs" → ∀ members read, value = .map members →
      readStubs members = .ok read → read.IsSettled)
    (settled : options.IsSettled) (set : setNamed given options name value = .ok after) :
    after.IsSettled := by
  by_cases kept : name ∉ readNames
  · rw [setNamed_of_kept given options kept, setKept_of_isSettled settled] at set
    cases set
    exact isSettled_setUnreadOption known kept settled
  · rw [Decidable.not_not] at kept
    simp only [readNames, List.mem_cons, List.not_mem_nil, or_false] at kept
    rcases kept with rfl | rfl | rfl | rfl | rfl | rfl
    · rcases bind_eq_ok_iff.mp set with ⟨strategy, -, rest⟩
      cases rest
      exact { settled with strategy := ⟨_, rfl⟩ }
    · cases given with
      | true =>
          cases set
          exact settled
      | false =>
          rcases bind_eq_ok_iff.mp set with ⟨strategy, -, rest⟩
          cases rest
          exact { settled with strategy := ⟨_, rfl⟩ }
    · rcases bind_eq_ok_iff.mp set with ⟨formats, -, rest⟩
      cases rest
      exact { settled with formats := ⟨_, rfl⟩ }
    · cases set
      exact { settled with }
    · rcases table rfl with ⟨entries, rfl⟩
      rcases bind_eq_ok_iff.mp set with ⟨read, -, rest⟩
      cases rest
      exact { settled with known := ⟨_, rfl⟩ }
    · by_cases mapping : ∃ members, value = .map members
      · rcases mapping with ⟨members, rfl⟩
        rcases bind_eq_ok_iff.mp set with ⟨read, own, rest⟩
        cases rest
        exact { settled with stubs := stubs rfl members read rfl own }
      · have plain : value.members? = none :=
          Value.members?_eq_none fun members same => mapping ⟨members, same⟩
        rw [setNamed_stubs_of_kept given options plain, setKept_of_isSettled settled] at set
        cases set
        exact { settled with stubs := plain }

/-- Options are settled before any of them is set. -/
theorem isSettled_default : IsSettled {} :=
  ⟨⟨_, rfl⟩, ⟨_, rfl⟩, ⟨_, rfl⟩, ⟨_, rfl⟩, ⟨_, rfl⟩, ⟨_, rfl⟩, isSettled_stubs, rfl, rfl⟩

theorem isSettled_ofMembers {members : Members} {options : Options} (document : IsDocument members)
    (read : ofMembers members = .ok options) :
    options.IsSettled ∧ options.checkStart = .ok options := by
  rcases bind_eq_ok_iff.mp read with ⟨set, folded, checked⟩
  have same : set = options := by
    rw [checkStart] at checked
    split at checked
    · split at checked
      · exact Except.ok.inj checked
      · cases checked
    · cases checked
  rw [same] at folded checked
  refine ⟨?_, checked⟩
  refine foldlM_induction (fun member inside state after settled set => ?_) isSettled_default folded
  rcases document.own member inside with ⟨name, known, key⟩
  rw [key, setMember_of_known _ _ known] at set
  have here : ∀ {other}, name = other → (.text other, member.2) ∈ members := by
    rintro other rfl
    rwa [← key]
  refine isSettled_setNamed known (fun table => ?_) (fun stubs entries read mapping own => ?_)
    settled set
  · exact document.known _ (here table)
  · have part : (.text "generate_stubs", .map entries) ∈ members := mapping ▸ here stubs
    exact isSettled_readStubs (document.stubs entries part)
      (document.templates entries part) own

end Options

/-! ## What is written -/

/-- A section is written as its content is, or as the value that is kept.  A kept
value must not be a mapping, since it would be read as content when it comes
back. -/
def Section.IsWrittenAs {α : Type} (written : α → Members → Prop) : Section α → Value → Prop
  | .read content, value => ∃ members, value = .map members ∧ written content members
  | .kept own, value => value = own ∧ own.members? = none
  | .lacking, _ => False

theorem Section.IsWrittenAs.imp {α : Type} {written other : α → Members → Prop}
    (each : ∀ content members, written content members → other content members)
    {part : Section α} {value : Value} (as : part.IsWrittenAs written value) :
    part.IsWrittenAs other value := by
  cases part with
  | read content =>
      rcases as with ⟨members, mapping, own⟩
      exact ⟨members, mapping, each content members own⟩
  | kept own => exact as
  | lacking => exact as.elim

theorem Section.exists_toValue {α : Type} {write : α → Asked Value} {kind : α → Prop}
    {written : α → Members → Prop}
    (each : ∀ content, kind content → ∃ members, write content = .ok (.map members) ∧
      written content members) {part : Section α} (holds : part.Holds kind) :
    ∃ value, part.toValue write = .ok value ∧ part.IsWrittenAs written value := by
  cases part with
  | read content =>
      rcases each content holds with ⟨members, own, as⟩
      exact ⟨.map members, own, members, rfl, as⟩
  | kept value => exact ⟨value, rfl, rfl, holds⟩
  | lacking => exact holds.elim

/-- Template options are written under their names, and the source as its word. -/
structure TemplateOptions.IsWrittenAs (templates : TemplateOptions) (members : Members) : Prop where
  names : members.map (·.1) = TemplateOptions.names.map Value.text
  source : ∃ source, templates.source = .read source ∧
    Members.get? members "template_source" = some (.text source.word)

/-- Stub options are written under their names, with template options among
them.  The order of the names is that of the options, whatever it was in a
document. -/
structure StubOptions.IsWrittenAs (stubs : StubOptions) (members : Members) : Prop where
  names : members.map (·.1) = StubOptions.names.map Value.text
  templates : ∃ value, Members.get? members "templates" = some value ∧
    stubs.templates.IsWrittenAs TemplateOptions.IsWrittenAs value

/-- Options are written under their names in some order, with words for the strategy and the
formats, and with known types and stub options among them. -/
structure Options.IsWrittenAs (options : Options) (members : Members) : Prop where
  names : (members.map (·.1)).Perm (Options.names.map Value.text)
  strategy : ∃ strategy, options.strategy = .read strategy ∧
    Members.get? members "generation_strategy" = some (.text strategy.word)
  formats : ∃ formats, options.outputFormats = .read formats ∧
    Members.get? members "output_formats" =
      some (.list (formats.map fun format => .text format.word))
  known : ∃ entries, options.knownTypes = .read entries ∧
    Members.get? members "known_types" =
      some (.map (entries.map fun entry => (entry.1, entry.2.toValue)))
  stubs : ∃ value, Members.get? members "generate_stubs" = some value ∧
    options.stubs.IsWrittenAs StubOptions.IsWrittenAs value

namespace Options

theorem exists_toValue_templates {templates : TemplateOptions} (settled : templates.IsSettled) :
    ∃ members, templates.toValue = .ok (.map members) ∧ templates.IsWrittenAs members ∧
      readTemplates members = .ok templates := by
  rcases templates with ⟨source, basePath, types, adapter, client, bridge, registration, table⟩
  rcases settled with ⟨⟨word, own⟩, plain⟩
  dsimp only at own plain
  subst own plain
  refine ⟨_, rfl, ⟨rfl, word, rfl, rfl⟩, ?_⟩
  cases word
  · rfl
  · rfl

theorem setStubMember_of_isWrittenAs {part : Section TemplateOptions} {value : Value}
    (written : part.IsWrittenAs
      (fun templates members => templates.IsWrittenAs members ∧
        readTemplates members = .ok templates) value)
    {stubs : StubOptions} (present : stubs.templates.isThere = true) :
    setStubMember stubs (.text "templates") value = .ok { stubs with templates := part } := by
  cases part with
  | read templates =>
      rcases written with ⟨members, rfl, -, own⟩
      rw [setStubMember_templates, own]
      rfl
  | kept other =>
      rcases written with ⟨rfl, kept⟩
      rw [setStubMember_of_kept (by decide) (fun _ => kept) present]
      rfl
  | lacking => exact written.elim

/-- Members with names of stub options, other than template options, are set one after the other. -/
theorem foldlM_setStubMember_of_kept (members : List (String × Value)) {stubs : StubOptions}
    (known : ∀ name ∈ members.map (·.1), name ∈ allNames ∧ name ≠ "templates")
    (settled : stubs.IsSettled) :
    (Members.ofTexts members).foldlM (fun stubs member => setStubMember stubs member.1 member.2)
        stubs =
      .ok (members.foldl (fun stubs member => setStubUnread stubs member.1 member.2) stubs) := by
  rw [Members.ofTexts, List.foldlM_map]
  refine (foldlM_eq_foldl (fun member inside stubs settled => ?_) settled).1
  rcases known member.1 (List.mem_map_of_mem inside) with ⟨known, other⟩
  exact ⟨setStubMember_of_kept known (absurd · other) (isThere_of_holds settled.templates),
    isSettled_setStubUnread known (absurd · other) settled⟩

/-- The options of stubs that are written before their template options. -/
def plainStubMembers (stubs : StubOptions) : List (String × Value) :=
  [("enabled", stubs.enabled), ("output_dir", stubs.outputDirectory),
    ("module_path", stubs.modulePath), ("protobuf_package", stubs.protobufPackage),
    ("protobuf_alias", stubs.protobufAlias), ("grpc_package", stubs.grpcPackage),
    ("grpc_alias", stubs.grpcAlias), ("streaming_support", stubs.streamingSupport),
    ("registration_helpers", stubs.registrationHelpers), ("protoc_program", stubs.compilerProgram)]

theorem toValue_stubs {stubs : StubOptions} {value : Value} (own : stubs.memberTable = none)
    (templates : stubs.templates.toValue TemplateOptions.toValue = .ok value) :
    stubs.toValue =
      .ok (.map (Members.ofTexts (plainStubMembers stubs) ++ [(.text "templates", value)])) := by
  rw [StubOptions.toValue, own, membersUnder, templates]
  rfl

theorem foldl_plainStubMembers (stubs : StubOptions) :
    (plainStubMembers stubs).foldl (fun stubs member => setStubUnread stubs member.1 member.2) {} =
      { stubs with templates := .read {}, memberTable := none } := by
  cases stubs
  rfl

theorem exists_toValue_stubs {stubs : StubOptions} (settled : stubs.IsSettled) :
    ∃ members, stubs.toValue = .ok (.map members) ∧ stubs.IsWrittenAs members ∧
      readStubs members = .ok stubs := by
  rcases Section.exists_toValue (fun _ => exists_toValue_templates) settled.templates with
    ⟨value, own, as⟩
  refine ⟨Members.ofTexts (plainStubMembers stubs) ++ [(.text "templates", value)],
    toValue_stubs settled.own own, ⟨rfl, value, rfl, as.imp fun _ _ => And.left⟩, ?_⟩
  have known : ∀ name ∈ StubOptions.names.dropLast, name ∈ allNames ∧ name ≠ "templates" := by
    decide
  have front := foldlM_setStubMember_of_kept (plainStubMembers stubs) known isSettled_stubs
  rw [foldl_plainStubMembers] at front
  rw [readStubs, foldlM_append_of_ok front, foldlM_cons_of_ok (setStubMember_of_isWrittenAs as rfl),
    ← settled.own]
  rfl

/-! ### Members of options -/

theorem readFormats_words (formats : List OutputFormat) :
    readFormats (.list (formats.map fun format => .text format.word)) = .ok formats := by
  have each (format : OutputFormat) : readFormat (Value.text format.word).display = .ok format := by
    cases format <;> rfl
  have items : ∀ items, (Value.list items).itemsIfGiven = .ok items := by
    rintro (_ | _) <;> rfl
  rw [readFormats, items]
  swap
  · rintro word ⟨⟩
  change ((formats.map fun format => Value.text format.word).mapM fun item =>
    readFormat item.display) = _
  induction formats with
  | nil => rfl
  | cons format formats ih =>
      rw [List.map_cons, List.mapM_cons, each, ih]
      rfl

theorem readWord_word (option : String) (strategy : Strategy) :
    readWord option Strategy.all (·.word) (.text strategy.word) = .ok strategy := by
  cases strategy <;> rfl

theorem readKnownType_toValue (known : KnownType) : readKnownType known.toValue = .ok known :=
  rfl

theorem readKnownTypes_toValue (entries : List (Value × KnownType)) :
    readKnownTypes (entries.map fun entry => (entry.1, entry.2.toValue)) = .ok entries := by
  rw [readKnownTypes]
  induction entries with
  | nil => rfl
  | cons entry entries ih =>
      rw [List.map_cons, List.mapM_cons, readKnownType_toValue, ih]
      rfl

theorem setMember_stubs_of_isWrittenAs (given : Bool) {part : Section StubOptions}
    {value : Value} {options : Options} (settled : options.IsSettled)
    (written : part.IsWrittenAs
      (fun stubs members => stubs.IsWrittenAs members ∧ readStubs members = .ok stubs) value) :
    setMember given options (.text "generate_stubs") value =
      .ok { options with stubs := part } := by
  rw [setMember_of_known given options (by decide)]
  cases part with
  | read stubs =>
      rcases written with ⟨members, rfl, -, own⟩
      change (do
        let stubs ← readStubs members
        return { options with stubs := .read stubs }) = _
      rw [own]
      rfl
  | kept other =>
      rcases written with ⟨rfl, kept⟩
      rw [setNamed_stubs_of_kept given options kept, setKept_of_isSettled settled]
      rfl
  | lacking => exact written.elim

theorem foldlM_setMember_cons {given : Bool} {options after : Options} {key value : Value}
    (own : setMember given options key value = .ok after) (members : Members) :
    ((key, value) :: members).foldlM
        (fun options member => setMember given options member.1 member.2) options =
      members.foldlM (fun options member => setMember given options member.1 member.2) after :=
  foldlM_cons_of_ok own members

/-- Members with names of options that are kept as they stand are set one after the other. -/
theorem foldlM_setMember_of_kept (given : Bool) (members : List (String × Value))
    {options : Options}
    (known : ∀ name ∈ members.map (·.1), name ∈ allNames ∧ name ∉ readNames)
    (settled : options.IsSettled) :
    (Members.ofTexts members).foldlM
        (fun options member => setMember given options member.1 member.2) options =
      .ok (members.foldl (fun options member => setUnreadOption options member.1 member.2)
        options) ∧
    (members.foldl (fun options member => setUnreadOption options member.1 member.2)
      options).IsSettled := by
  rw [Members.ofTexts, List.foldlM_map]
  refine foldlM_eq_foldl (fun member inside options settled => ?_) settled
  rcases known member.1 (List.mem_map_of_mem inside) with ⟨known, kept⟩
  refine ⟨?_, isSettled_setUnreadOption known kept settled⟩
  rw [setMember_of_known given options known, setNamed_of_kept given options kept,
    setKept_of_isSettled settled]

/-- The options that are written before the output formats. -/
def frontMembers (options : Options) : List (String × Value) :=
  [("output", options.output), ("output_file_name", options.outputFileName),
    ("schema_name", options.schemaName)]

/-- The options that are written between the strategy and the stub options, given the collections
among them. -/
def middleMembers (options : Options) (fileOptions customImports typeMappings : Value) :
    List (String × Value) :=
  [("syntax", options.edition), ("package", options.package),
    ("go_package", options.goPackage), ("java_package", options.javaPackage),
    ("java_outer_classname", options.javaOuterClassname), ("optimize_for", options.optimizeFor),
    ("options", fileOptions), ("generate_service", options.generateService),
    ("start_field_number", options.startFieldNumber), ("custom_imports", customImports),
    ("type_mappings", typeMappings)]

theorem foldl_frontMembers (options state : Options) :
    (frontMembers options).foldl
        (fun state member => setUnreadOption state member.1 member.2) state =
      { state with
        output := options.output, outputFileName := options.outputFileName
        schemaName := options.schemaName } := by
  rfl

theorem foldl_middleMembers (options state : Options) (files imports mappings : Value) :
    (middleMembers options files imports mappings).foldl
        (fun state member => setUnreadOption state member.1 member.2) state =
      { state with
        edition := options.edition, package := options.package, goPackage := options.goPackage
        javaPackage := options.javaPackage, javaOuterClassname := options.javaOuterClassname
        optimizeFor := options.optimizeFor, fileOptions := some files
        generateService := options.generateService, startFieldNumber := options.startFieldNumber
        customImports := some imports, typeMappings := some mappings } := by
  unfold setUnreadOption
  simp only [middleMembers, List.foldl_cons, List.foldl_nil]

theorem setMember_formats (given : Bool) (options : Options) (formats : List OutputFormat) :
    setMember given options (.text "output_formats")
        (.list (formats.map fun format => .text format.word)) =
      .ok { options with outputFormats := .read formats } := by
  rw [setMember_of_known given options (by decide), setNamed, readFormats_words]
  rfl

theorem setMember_strategy (given : Bool) (options : Options) (strategy : Strategy) :
    setMember given options (.text "generation_strategy") (.text strategy.word) =
      .ok { options with strategy := .read strategy } := by
  rw [setMember_of_known given options (by decide), setNamed, readWord_word]
  rfl

theorem setMember_known (given : Bool) (options : Options) (entries : List (Value × KnownType)) :
    setMember given options (.text "known_types")
        (.map (entries.map fun entry => (entry.1, entry.2.toValue))) =
      .ok { options with knownTypes := .read entries } := by
  rw [setMember_of_known given options (by decide), setNamed, readKnownTypes_toValue]
  rfl

theorem IsSettled.withFormats {options : Options} (settled : options.IsSettled)
    (formats : List OutputFormat) : IsSettled { options with outputFormats := .read formats } :=
  { settled with formats := ⟨formats, rfl⟩ }

theorem IsSettled.withStrategy {options : Options} (settled : options.IsSettled)
    (strategy : Strategy) : IsSettled { options with strategy := .read strategy } :=
  { settled with strategy := ⟨strategy, rfl⟩ }

/-- The members that are written for options, given what their sections and collections are written
as. -/
def writtenMembers (options : Options) (formats : List OutputFormat) (strategy : Strategy)
    (files imports mappings stubs : Value) (entries : List (Value × KnownType)) : Members :=
  Members.ofTexts (frontMembers options) ++
    (.text "output_formats", .list (formats.map fun format => .text format.word)) ::
    (.text "generation_strategy", .text strategy.word) ::
    (Members.ofTexts (middleMembers options files imports mappings) ++
      [(.text "generate_stubs", stubs),
        (.text "known_types", .map (entries.map fun entry => (entry.1, entry.2.toValue)))])

/-- The members that are written for options set all of them, whatever was set before. -/
theorem foldlM_writtenMembers (given : Bool) (options : Options) (formats : List OutputFormat)
    (strategy : Strategy) (files imports mappings : Value) {part : Section StubOptions}
    {stubs : Value}
    (written : part.IsWrittenAs
      (fun stubs members => stubs.IsWrittenAs members ∧ readStubs members = .ok stubs) stubs)
    (entries : List (Value × KnownType)) :
    (writtenMembers options formats strategy files imports mappings stubs entries).foldlM
        (fun options member => setMember given options member.1 member.2) {} =
      .ok { options with
        outputFormats := .read formats, strategy := .read strategy, fileOptions := some files
        customImports := some imports, typeMappings := some mappings, stubs := part
        knownTypes := .read entries, memberTable := none, hidesPrinter := false } := by
  have frontKept : ∀ name ∈ names.take 3, name ∈ allNames ∧ name ∉ readNames := by decide
  have middleKept : ∀ name ∈ (names.drop 5).take 11, name ∈ allNames ∧ name ∉ readNames := by decide
  rcases foldlM_setMember_of_kept given (frontMembers options) frontKept isSettled_default with
    ⟨front, settledFront⟩
  rw [foldl_frontMembers] at front settledFront
  -- The states are flattened after each step: nested updates would be compared field by field.
  have settledHead := (settledFront.withFormats formats).withStrategy strategy
  dsimp only at front settledHead
  rcases foldlM_setMember_of_kept given (middleMembers options files imports mappings) middleKept
    settledHead with ⟨middle, settledMiddle⟩
  rw [foldl_middleMembers] at middle settledMiddle
  dsimp only at middle settledMiddle
  rw [writtenMembers, foldlM_append_of_ok front,
    foldlM_setMember_cons (setMember_formats given _ formats),
    foldlM_setMember_cons (setMember_strategy given _ strategy)]
  dsimp only
  rw [foldlM_append_of_ok middle,
    foldlM_setMember_cons (setMember_stubs_of_isWrittenAs given settledMiddle written),
    foldlM_setMember_cons (setMember_known given _ entries)]
  rfl

/-- Settled options are written, and what is written sets them again. -/
theorem exists_toValue {options : Options} (settled : options.IsSettled) :
    ∃ members, options.toValue = .ok (.map members) ∧ options.IsWrittenAs members ∧
      ∀ given, members.foldlM (fun options member => setMember given options member.1 member.2) {} =
        .ok options := by
  rcases Section.exists_toValue (fun _ => exists_toValue_stubs) settled.stubs with ⟨stubs, own, as⟩
  rcases settled.formats with ⟨formats, hasFormats⟩
  rcases settled.strategy with ⟨strategy, hasStrategy⟩
  rcases settled.fileOptions with ⟨files, hasFiles⟩
  rcases settled.customImports with ⟨imports, hasImports⟩
  rcases settled.typeMappings with ⟨mappings, hasMappings⟩
  rcases settled.known with ⟨entries, hasKnown⟩
  refine ⟨writtenMembers options formats strategy files imports mappings stubs entries, ?_,
    ⟨.refl _, ⟨strategy, hasStrategy, rfl⟩, ⟨formats, hasFormats, rfl⟩, ⟨entries, hasKnown, rfl⟩,
      stubs, rfl, as.imp fun _ _ => And.left⟩, ?_⟩
  · rw [toValue, settled.printed, settled.own, plainMembers, hasFormats, hasStrategy, hasFiles,
      hasImports, hasMappings, hasKnown, own]
    rfl
  · intro given
    rw [foldlM_writtenMembers given options formats strategy files imports mappings as entries,
      ← hasFormats, ← hasStrategy, ← hasFiles, ← hasImports, ← hasMappings, ← hasKnown,
      ← settled.own, ← settled.printed]

/-- Options that are read from a document are written as a mapping of the same options, under their
first names and with words for alternatives.  Reading it gives the options again, and writing these
gives it again. -/
theorem exists_toValue_ofMembers {members : Members} {options : Options}
    (document : IsDocument members) (read : ofMembers members = .ok options) :
    ∃ written, options.toValue = .ok (.map written) ∧ ofMembers written = .ok options ∧
      options.IsWrittenAs written ∧ (∀ name ∈ otherNames, .text name ∉ written.map (·.1)) ∧
      ∀ again, ofMembers written = .ok again → again.toValue = .ok (.map written) := by
  rcases isSettled_ofMembers document read with ⟨settled, start⟩
  rcases exists_toValue settled with ⟨written, own, as, run⟩
  have back : ofMembers written = .ok options := by
    rw [ofMembers, run]
    exact start
  refine ⟨written, own, back, as, ?_, fun again same => ?_⟩
  · have apart : ∀ name ∈ otherNames, name ∉ names := by decide
    intro name other inside
    rcases List.mem_map.mp (as.names.subset inside) with ⟨same, member, key⟩
    cases key
    exact apart _ other member
  · rw [back] at same
    cases same
    exact own

/-- A section on stubs with a section on templates in it. -/
def sampleStubs : List (String × Value) :=
  [("enabled", .bool true), ("templates", .record [("template_source", .text "FILESYSTEM")])]

/-- Known types with either name of the import and with none. -/
def sampleKnown : List (String × Value) :=
  [("Money", .record [("type", .text "google.type.Money"), ("import_path", .text "money.proto")]),
    ("Day", .record [("type", .text "google.type.Date"), ("import", .text "date.proto")]),
    ("Text", .text "string")]

/-- A document with the other names of the strategy and of the class name, and with other words for
formats. -/
def sampleDocument : Members :=
  Members.ofTexts [("strategy", .text " Package "),
    ("output_formats", .list [.text "Proto", .text "ts", .text "json_schema"]),
    ("java_outer_class", .text "Shop"), ("options", .map [(.text "objc_class_prefix", .text "SH")]),
    ("known_types", .record sampleKnown),
    ("generate_stubs", .record sampleStubs)]

def sampleOptions : Options :=
  { outputFormats := .read [.proto, .typeScript, .jsonSchema], strategy := .read .package
    javaOuterClassname := .text "Shop"
    fileOptions := some (.map [(.text "objc_class_prefix", .text "SH")])
    knownTypes := .read [(.text "Money", ⟨.text "google.type.Money", .text "money.proto"⟩),
      (.text "Day", ⟨.text "google.type.Date", .text "date.proto"⟩),
      (.text "Text", ⟨.text "string", .text ""⟩)]
    stubs := .read { enabled := .bool true, templates := .read { source := .read .directory } } }

theorem hasNames_ofTexts {members : List (String × Value)}
    (known : ∀ name ∈ members.map (·.1), name ∈ allNames) : HasNames (Members.ofTexts members) := by
  intro member inside
  rcases List.mem_map.mp inside with ⟨own, listed, rfl⟩
  exact ⟨own.1, known own.1 (List.mem_map_of_mem listed), rfl⟩

theorem isDocument_sampleDocument : IsDocument sampleDocument := by
  have stubs : ∀ stubs, (.text "generate_stubs", .map stubs) ∈ sampleDocument →
      stubs = Members.ofTexts sampleStubs := by
    simp [sampleDocument, Members.ofTexts, Value.record]
  have templates : ∀ templates, (.text "templates", .map templates) ∈ Members.ofTexts sampleStubs →
      templates = Members.ofTexts [("template_source", .text "FILESYSTEM")] := by
    simp [sampleStubs, Members.ofTexts, Value.record]
  have known : ∀ value, (.text "known_types", value) ∈ sampleDocument →
      value = .record sampleKnown := by
    simp [sampleDocument, Members.ofTexts, Value.record]
  refine ⟨hasNames_ofTexts (by decide), fun own inside => ?_, fun own inside within member => ?_,
    fun value inside => ⟨_, known value inside⟩⟩
  · rw [stubs own inside]
    exact hasNames_ofTexts (by decide)
  · rw [stubs own inside] at member
    rw [templates within member]
    exact hasNames_ofTexts (by decide)

/-- The sample document comes back with the first names and with plain words. -/
theorem exists_toValue_ofMembers_sampleDocument :
    IsDocument sampleDocument ∧ ofMembers sampleDocument = .ok sampleOptions ∧
      ∃ written, sampleOptions.toValue = .ok (.map written) ∧
        ofMembers written = .ok sampleOptions ∧ sampleOptions.IsWrittenAs written := by
  have document := isDocument_sampleDocument
  have read : ofMembers sampleDocument = .ok sampleOptions := rfl
  rcases exists_toValue_ofMembers document read with ⟨written, own, back, as, -⟩
  exact ⟨document, read, written, own, back, as⟩

end Options

end WireSchema
