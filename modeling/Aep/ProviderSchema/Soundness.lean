import Aep.ProviderSchema.Projection

namespace Aep.ProviderSchema

open JsonSchema Result

def resolve (root : Json) (reference : String) : Option Json := do
  let fields ← root.asRecord?
  let definitions ← mappingOf fields "$defs"
  definitions.get? (← localDefinitionTarget reference)

/-- An object schema declares exactly its properties as required and allows no others. -/
def StrictObject (fields : Record) : Prop :=
  textOf fields "type" = some "object" ∨ (mappingOf fields "properties").isSome = true →
    ∃ (properties : Record) (required : List String), mappingOf fields "properties" = some properties ∧
      fields.get? "additionalProperties" = some (.bool false) ∧
      fields.get? "required" = some (.arr (required.map .str)) ∧ ∀ name, name ∈ required ↔ name ∈ properties.keys

def ReferencesResolve (root : Json) (fields : Record) : Prop :=
  ∀ reference, textOf fields "$ref" = some reference → (resolve root reference).isSome = true

def literalKeywords : List String := ["enum", "default", "examples"]

/-- What the projection of an accepted schema is meant to satisfy. -/
structure ProjectionSound (dialect : Dialect) (schema : Json) : Prop where
  keywords : ∀ fields : Record, Position (providerSchema schema) (.obj fields) →
    ∀ key ∈ fields.keys, key ∈ PROVIDER_KEYWORDS
  strict : ∀ fields, Position (providerSchema schema) (.obj fields) → StrictObject fields
  references : ∀ fields, Position (providerSchema schema) (.obj fields) →
    ReferencesResolve (providerSchema schema) fields
  weaker : ∀ value, Valid dialect (resolve schema) schema value →
    Valid dialect (resolve (providerSchema schema)) (providerSchema schema) value
  literals : ∀ fields, Position schema (.obj fields) → ∀ key ∈ literalKeywords,
    Dict.get? (projectFields fields) key = Dict.get? fields key

/-- The literals hold no keyword that the projection drops, and the schemas that the validator does not look at,
    those inside an additionalProperties keyword, keep its rules too. -/
structure Projectable (schema : Json) : Prop where
  literals : ∀ fields : Record, Position schema (.obj fields) → ∀ key ∈ literalKeywords, ∀ literal,
    fields.get? key = some literal → clean literal = true
  additional : ∀ (fields : Record) (child : Json), Position schema (.obj fields) → fields.get? "additionalProperties" = some child →
    ∀ inner : Record, Position child (.obj inner) →
      (∀ key ∈ inner.keys, key ∈ ACCEPTED_KEYWORDS) ∧ StrictObject inner ∧ ReferencesResolve schema inner

section Positions

theorem project_child {fields : Record} {child : Json} (below : Child fields child) :
    Child (projectFields fields) (providerSchema child) := by
  cases below with
  | property found member =>
    have inside := List.mem_map_of_mem (f := fun entry : String × Json => (entry.1, providerSchema entry.2)) member
    exact .property (by rw [mappingOf_projectFields fields (by decide), found]; rfl) inside
  | definition found member =>
    have inside := List.mem_map_of_mem (f := fun entry : String × Json => (entry.1, providerSchema entry.2)) member
    exact .definition (by rw [mappingOf_projectFields fields (by decide), found]; rfl) inside
  | items found => exact .items (by rw [get?_structural fields (by decide) (by decide), found]; rfl)
  | branch found member =>
    refine .branch (by rw [itemsOf_projectFields fields (by decide) (by decide), found]; rfl) ?_
    exact List.mem_map.mpr ⟨_, member, rfl⟩
  | additional found => exact .additional (by rw [get?_structural fields (by decide) (by decide), found]; rfl)

theorem child_of_project {fields : Record} {child' : Json} (below : Child (projectFields fields) child') :
    ∃ child, Child fields child ∧ child' = providerSchema child := by
  cases below with
  | property found member =>
    rw [mappingOf_projectFields fields (by decide)] at found
    obtain ⟨properties, declared, rfl⟩ := Option.map_eq_some_iff.mp found
    obtain ⟨entry, inside, same⟩ := List.mem_map.mp member
    cases same
    exact ⟨_, .property declared inside, rfl⟩
  | definition found member =>
    rw [mappingOf_projectFields fields (by decide)] at found
    obtain ⟨definitions, declared, rfl⟩ := Option.map_eq_some_iff.mp found
    obtain ⟨entry, inside, same⟩ := List.mem_map.mp member
    cases same
    exact ⟨_, .definition declared inside, rfl⟩
  | items found =>
    rw [get?_structural fields (by decide) (by decide)] at found
    obtain ⟨child, here, rfl⟩ := Option.map_eq_some_iff.mp found
    exact ⟨child, .items here, rfl⟩
  | branch found member =>
    rw [itemsOf_projectFields fields (by decide) (by decide)] at found
    obtain ⟨branches, here, rfl⟩ := Option.map_eq_some_iff.mp found
    obtain ⟨child, inside, rfl⟩ := List.mem_map.mp member
    exact ⟨child, .branch here inside, rfl⟩
  | additional found =>
    rw [get?_structural fields (by decide) (by decide)] at found
    obtain ⟨child, here, rfl⟩ := Option.map_eq_some_iff.mp found
    exact ⟨child, .additional here, rfl⟩

theorem project_position {schema sub : Json} (position : Position schema sub) :
    Position (providerSchema schema) (providerSchema sub) := by
  induction position with
  | here => exact .here _
  | inside first _ ih => exact .inside (project_child first) ih

theorem position_of_project {schema sub' : Json} (position : Position (providerSchema schema) sub') :
    ∃ sub, Position schema sub ∧ sub' = providerSchema sub := by
  generalize projected : providerSchema schema = schema' at position
  induction position generalizing schema with
  | here => exact ⟨schema, .here schema, projected.symm⟩
  | inside first _ ih =>
    obtain ⟨fields, rfl, rfl⟩ := providerSchema_eq_obj.mp projected
    obtain ⟨child, below, rfl⟩ := child_of_project first
    obtain ⟨sub, inside, same⟩ := ih rfl
    exact ⟨sub, .inside below inside, same⟩

theorem position_of_project_obj {schema : Json} {fields' : Record}
    (position : Position (providerSchema schema) (.obj fields')) :
    ∃ fields, Position schema (.obj fields) ∧ fields' = projectFields fields := by
  obtain ⟨sub, inside, same⟩ := position_of_project position
  obtain ⟨fields, rfl, rfl⟩ := providerSchema_eq_obj.mp same.symm
  exact ⟨fields, inside, rfl⟩

end Positions

section Transfer

theorem keys_accepted_iff (fields : Record) :
    (∀ key ∈ Dict.keys (projectFields fields), key ∈ PROVIDER_KEYWORDS) ↔
      ∀ key ∈ fields.keys, key ∈ ACCEPTED_KEYWORDS := by
  simp only [keys_projectFields, List.mem_filter, decide_eq_true_eq, ACCEPTED_KEYWORDS, List.mem_append]
  constructor
  · intro supported key member
    by_cases dropped : key ∈ AEP_ONLY_KEYWORDS
    · exact .inr dropped
    · exact .inl (supported key ⟨member, dropped⟩)
  · rintro accepted key ⟨member, kept⟩
    exact (accepted key member).resolve_right kept

theorem providerSchema_strings (names : List String) : providerSchema (.arr (names.map .str)) = .arr (names.map .str) := by
  simp [providerSchema, projectItems_eq_map, Function.comp_def]

theorem eq_strings_of_providerSchema {value : Json} {names : List String}
    (projected : providerSchema value = .arr (names.map .str)) : value = .arr (names.map .str) := by
  cases value with
  | arr items =>
    simp only [providerSchema, projectItems_eq_map, Json.arr.injEq] at projected ⊢
    induction items generalizing names with
    | nil => cases names <;> simp_all
    | cons item rest ih =>
      cases names with
      | nil => cases projected
      | cons name names =>
        simp only [List.map_cons, List.cons.injEq] at projected
        have here : item = .str name := by
          cases item <;> simp [providerSchema] at projected
          exact congrArg Json.str projected.1
        rw [here, ih projected.2]
        rfl
  | null => cases projected
  | bool value => cases projected
  | int value => cases projected
  | float value => cases projected
  | str value => cases projected
  | obj fields => cases projected

theorem strictObject_projectFields (fields : Record) : StrictObject (projectFields fields) ↔ StrictObject fields := by
  unfold StrictObject
  rw [textOf_projectFields fields (by decide) (by decide), mappingOf_projectFields fields (by decide),
    get?_structural fields (by decide) (by decide), get?_structural fields (by decide) (by decide), Option.isSome_map]
  refine imp_congr_right fun _ => ?_
  constructor
  · rintro ⟨_, required, declared, closed, listed, same⟩
    obtain ⟨properties, found, rfl⟩ := Option.map_eq_some_iff.mp declared
    obtain ⟨additional, foundAdditional, isFalse⟩ := Option.map_eq_some_iff.mp closed
    obtain ⟨names, foundRequired, areStrings⟩ := Option.map_eq_some_iff.mp listed
    rw [providerSchema_eq_bool.mp isFalse] at foundAdditional
    rw [eq_strings_of_providerSchema areStrings] at foundRequired
    refine ⟨properties, required, found, foundAdditional, foundRequired, fun name => (same name).trans ?_⟩
    simp [Dict.keys]
  · rintro ⟨properties, required, found, closed, listed, same⟩
    refine ⟨_, required, by rw [found]; rfl, by rw [closed]; rfl, ?_, fun name => (same name).trans ?_⟩
    · rw [listed]
      exact congrArg some (providerSchema_strings required)
    · simp [Dict.keys]

theorem resolve_providerSchema (root : Json) (reference : String) :
    resolve (providerSchema root) reference = (resolve root reference).map providerSchema := by
  cases root with
  | obj fields =>
    have lookup (definitions : Record) (name : String) :
        Dict.get? (definitions.map fun entry => (entry.1, providerSchema entry.2)) name =
          (Dict.get? definitions name).map providerSchema := Dict.get?_map definitions providerSchema name
    simp only [resolve, providerSchema, Json.asRecord?]
    change (mappingOf (projectFields fields) "$defs").bind _ = ((mappingOf fields "$defs").bind _).map _
    rw [mappingOf_projectFields fields (by decide)]
    cases mappingOf fields "$defs" with
    | none => rfl
    | some definitions =>
      cases localDefinitionTarget reference with
      | none => rfl
      | some target => exact lookup definitions target
  | null => rfl
  | bool value => rfl
  | int value => rfl
  | float value => rfl
  | str value => rfl
  | arr items => rfl

theorem referencesResolve_projectFields (root : Json) (fields : Record) :
    ReferencesResolve (providerSchema root) (projectFields fields) ↔ ReferencesResolve root fields := by
  unfold ReferencesResolve
  rw [textOf_projectFields fields (by decide) (by decide)]
  simp only [resolve_providerSchema, Option.isSome_map]

theorem literals_iff_clean (fields : Record) {key : String} (literal : key ∈ literalKeywords) :
    Dict.get? (projectFields fields) key = Dict.get? fields key ↔
      ∀ value, Dict.get? fields key = some value → clean value = true := by
  have kept : key ∉ AEP_ONLY_KEYWORDS ∧ key ∉ SCHEMA_MAP_KEYWORDS := by
    revert literal
    revert key
    decide
  rw [get?_structural fields kept.1 kept.2]
  cases Dict.get? fields key with
  | none => simp
  | some value => simp [providerSchema_eq_self]

end Transfer

section Acceptance

variable {root : Json} {path safePath : String}

theorem require_ok {holds : Bool} {error : StrictProviderSchemaError} {result : Unit} :
    require holds error = .ok result ↔ holds = true := by
  cases holds <;> simp [require]

theorem sorted_eq_nil {names : List String} : sorted names = [] ↔ names = [] := by
  unfold sorted
  rw [← List.length_eq_zero_iff, List.length_insertionSort, List.length_eq_zero_iff]

theorem stringList_eq_some {value : Json} {names : List String} (listed : stringList value = some names) :
    value = .arr (names.map .str) := by
  unfold stringList at listed
  cases value with
  | arr items =>
    simp only [Json.asItems?, Option.bind_some] at listed
    congr 1
    induction items generalizing names with
    | nil =>
      cases listed
      rfl
    | cons item rest ih =>
      simp only [List.mapM_cons, Option.bind_eq_bind, Option.bind_eq_some_iff] at listed
      obtain ⟨name, isString, names', later, same⟩ := listed
      cases same
      rw [Json.asString?_eq_some.mp isString, ih later]
      rfl
  | null => cases listed
  | bool value => cases listed
  | int value => cases listed
  | float value => cases listed
  | str value => cases listed
  | obj fields => cases listed

theorem checkObject_strict {fields : Record} (checked : checkObject fields path safePath = .ok ()) :
    ∃ (properties : Record) (required : List String), mappingOf fields "properties" = some properties ∧
      fields.get? "additionalProperties" = some (.bool false) ∧
      fields.get? "required" = some (.arr (required.map .str)) ∧ ∀ name, name ∈ required ↔ name ∈ properties.keys := by
  unfold checkObject at checked
  cases declared : mappingOf fields "properties" with
  | none => simp [declared] at checked
  | some properties =>
    simp only [declared, bind_eq_ok, require_ok, decide_eq_true_eq] at checked
    obtain ⟨_, closed, checked⟩ := checked
    cases listed : stringList (fields.field "required") with
    | none => simp [listed] at checked
    | some required =>
      simp only [listed, checkRequiredNames, bind_eq_ok, require_ok, decide_eq_true_eq, sorted_eq_nil,
        List.filter_eq_nil_iff, List.mem_dedup, not_not] at checked
      obtain ⟨_, missing, extra⟩ := checked
      exact ⟨properties, required, rfl, Dict.get?_of_field closed (by simp),
        Dict.get?_of_field (stringList_eq_some listed) (by simp), fun name => ⟨extra name, missing name⟩⟩

theorem field_of_textOf {fields : Record} {key text : String} (found : textOf fields key = some text) :
    fields.field key = .str text := by
  unfold textOf at found
  obtain ⟨value, here, isString⟩ := Option.bind_eq_some_iff.mp found
  rw [Dict.field_of_get? here]
  exact Json.asString?_eq_some.mp isString

def rootDefinitions (root : Record) : Json := (root.get? "$defs").getD (.obj [])

theorem resolve_isSome {root : Record} {reference : String}
    (resolved : resolvesIn (rootDefinitions root) (.str reference) = true) :
    (resolve (.obj root) reference).isSome = true := by
  unfold resolvesIn at resolved
  split at resolved
  · rename_i target definitions isTarget isMapping
    simp only [Json.asString?, Option.bind_some] at isTarget
    have member : target ∈ definitions.keys := by simpa using resolved
    have declared : mappingOf root "$defs" = some definitions := by
      unfold rootDefinitions at isMapping
      unfold mappingOf
      cases found : root.get? "$defs" with
      | none =>
        simp only [found, Option.getD_none, Json.asRecord?, Option.some.injEq] at isMapping
        rw [← isMapping] at member
        cases member
      | some value => simpa [found] using isMapping
    obtain ⟨value, found⟩ := Option.ne_none_iff_exists'.mp (mt Dict.get?_eq_none.mp (not_not.mpr member))
    have whole : resolve (.obj root) reference = some value := by
      change (mappingOf root "$defs").bind (fun definitions =>
        (localDefinitionTarget reference).bind fun target => definitions.get? target) = some value
      rw [declared, isTarget]
      exact found
    rw [whole]
    rfl
  · cases resolved

theorem checkSchemaObject_ok {root fields : Record}
    (checked : checkSchemaObject fields path safePath (rootDefinitions root) = .ok ()) :
    (∀ key ∈ fields.keys, key ∈ ACCEPTED_KEYWORDS) ∧ StrictObject fields ∧
      ReferencesResolve (.obj root) fields := by
  simp only [checkSchemaObject, bind_eq_ok, require_ok, decide_eq_true_eq] at checked
  obtain ⟨_, supported, _, -, _, referenced, strict⟩ := checked
  refine ⟨?_, ?_, ?_⟩
  · simpa [unsupportedKeywords, sorted_eq_nil] using supported
  · intro isObject
    have objectSchema : isObjectSchema fields = true := by
      unfold isObjectSchema
      rcases isObject with named | declared
      · simp [field_of_textOf named]
      · simp [declared]
    rw [if_pos objectSchema] at strict
    exact checkObject_strict strict
  · intro reference found
    rw [field_of_textOf found] at referenced
    exact resolve_isSome (by simpa using referenced)

variable {definitions : Json}

theorem validateProperties_found {fields entries : Record} (found : mappingOf fields "properties" = some entries)
    (validated : validateProperties definitions path safePath fields = .ok ()) :
    ∃ path safePath, validateNamed definitions path safePath entries = .ok () := by
  induction fields with
  | nil => cases found
  | cons head rest ih =>
    obtain ⟨key, value⟩ := head
    rw [mappingOf_cons] at found
    unfold validateProperties at validated
    by_cases same : key = "properties"
    · rw [if_pos same] at found validated
      rw [Json.asRecord?_eq_some.mp found] at validated
      exact ⟨_, _, validated⟩
    · rw [if_neg same] at found validated
      exact ih found validated

theorem validateDefinitions_found {fields entries : Record} (found : mappingOf fields "$defs" = some entries)
    (validated : validateDefinitions definitions path safePath fields = .ok ()) :
    ∃ path safePath, validateNamed definitions path safePath entries = .ok () := by
  induction fields with
  | nil => cases found
  | cons head rest ih =>
    obtain ⟨key, value⟩ := head
    rw [mappingOf_cons] at found
    unfold validateDefinitions at validated
    by_cases same : key = "$defs"
    · rw [if_pos same] at found validated
      rw [Json.asRecord?_eq_some.mp found] at validated
      exact ⟨_, _, validated⟩
    · rw [if_neg same] at found validated
      exact ih found validated

theorem validateItems_found {fields : Record} {child : Json} (found : fields.get? "items" = some child)
    (validated : validateItems definitions path safePath fields = .ok ()) :
    child = .null ∨ ∃ path safePath, validate definitions path safePath child = .ok () := by
  induction fields with
  | nil => cases found
  | cons head rest ih =>
    obtain ⟨key, value⟩ := head
    rw [Dict.get?_cons] at found
    unfold validateItems at validated
    by_cases same : key = "items"
    · rw [if_pos same] at found validated
      cases found
      by_cases nothing : child = .null
      · exact .inl nothing
      · rw [if_neg nothing] at validated
        exact .inr ⟨_, _, validated⟩
    · rw [if_neg same] at found validated
      exact ih found validated

theorem validateAnyOf_found {fields : Record} {branches : List Json} (found : itemsOf fields "anyOf" = some branches)
    (validated : validateAnyOf definitions path safePath fields = .ok ()) :
    ∃ path safePath index, validateBranches definitions path safePath index branches = .ok () := by
  induction fields with
  | nil => cases found
  | cons head rest ih =>
    obtain ⟨key, value⟩ := head
    rw [itemsOf_cons] at found
    unfold validateAnyOf at validated
    by_cases same : key = "anyOf"
    · rw [if_pos same] at found validated
      rw [Json.asItems?_eq_some.mp found] at validated
      simp only [bind_eq_ok] at validated
      obtain ⟨_, -, validated⟩ := validated
      exact ⟨_, _, _, validated⟩
    · rw [if_neg same] at found validated
      exact ih found validated

theorem validateNamed_mem {entries : List (String × Json)}
    (validated : validateNamed definitions path safePath entries = .ok ()) {name : String} {child : Json}
    (member : (name, child) ∈ entries) : ∃ path safePath, validate definitions path safePath child = .ok () := by
  induction entries with
  | nil => cases member
  | cons head rest ih =>
    simp only [validateNamed, bind_eq_ok] at validated
    obtain ⟨_, first, later⟩ := validated
    rcases List.mem_cons.mp member with rfl | inside
    · exact ⟨_, _, first⟩
    · exact ih later inside

theorem validateBranches_mem {index : Nat} {branches : List Json}
    (validated : validateBranches definitions path safePath index branches = .ok ()) {child : Json}
    (member : child ∈ branches) : ∃ path safePath, validate definitions path safePath child = .ok () := by
  induction branches generalizing index with
  | nil => cases member
  | cons head rest ih =>
    simp only [validateBranches, bind_eq_ok] at validated
    obtain ⟨_, first, later⟩ := validated
    rcases List.mem_cons.mp member with rfl | inside
    · exact ⟨_, _, first⟩
    · exact ih later inside

theorem validate_child {fields : Record} (validated : validate definitions path safePath (.obj fields) = .ok ())
    {child : Json} (below : Child fields child) :
    (∃ path safePath, validate definitions path safePath child = .ok ()) ∨ child = .null ∨
      fields.get? "additionalProperties" = some child := by
  rw [validate] at validated
  simp only [bind_eq_ok] at validated
  obtain ⟨_, -, _, properties, _, items, _, named, branches⟩ := validated
  cases below with
  | property found member =>
    obtain ⟨_, _, validated⟩ := validateProperties_found found properties
    exact .inl (validateNamed_mem validated member)
  | definition found member =>
    obtain ⟨_, _, validated⟩ := validateDefinitions_found found named
    exact .inl (validateNamed_mem validated member)
  | items found =>
    rcases validateItems_found found items with nothing | accepted
    · exact .inr (.inl nothing)
    · exact .inl accepted
  | branch found member =>
    obtain ⟨_, _, _, validated⟩ := validateAnyOf_found found branches
    exact .inl (validateBranches_mem validated member)
  | additional found => exact .inr (.inr found)

theorem validate_position {schema : Json} (validated : validate definitions path safePath schema = .ok ()) {sub : Record}
    (position : Position schema (.obj sub)) :
    (∃ path safePath, validate definitions path safePath (.obj sub) = .ok ()) ∨
      ∃ (fields : Record) (child : Json), Position schema (.obj fields) ∧
        fields.get? "additionalProperties" = some child ∧ Position child (.obj sub) := by
  generalize target : Json.obj sub = last at position
  induction position generalizing path safePath with
  | here schema =>
    subst target
    exact .inl ⟨path, safePath, validated⟩
  | @inside fields child last first rest ih =>
    rcases validate_child validated first with ⟨path, safePath, accepted⟩ | nothing | additional
    · rcases ih accepted target with found | ⟨inner, below, inside, found, later⟩
      · exact .inl found
      · exact .inr ⟨inner, below, .inside first inside, found, later⟩
    · subst nothing
      subst target
      cases rest
    · subst target
      exact .inr ⟨fields, child, .here _, additional, rest⟩

end Acceptance

section Main

variable {dialect : Dialect} {schema : Json}

theorem weakens_projectFields {fields : Record}
    (literals : ∀ literal, fields.get? "enum" = some literal → clean literal = true) :
    Weakens providerSchema fields (projectFields fields) where
  texts keyword member := by
    have kept : keyword ∉ AEP_ONLY_KEYWORDS ∧ keyword ∉ SCHEMA_MAP_KEYWORDS := by
      revert member
      revert keyword
      decide
    exact textOf_projectFields fields kept.1 kept.2
  names keyword member := by
    have kept : keyword ∉ AEP_ONLY_KEYWORDS ∧ keyword ∉ SCHEMA_MAP_KEYWORDS := by
      revert member
      revert keyword
      decide
    exact namesOf_projectFields fields kept.1 kept.2
  numbers keyword member := by
    have kept : keyword ∉ AEP_ONLY_KEYWORDS ∧ keyword ∉ SCHEMA_MAP_KEYWORDS := by
      revert member
      revert keyword
      decide
    exact numberOf_projectFields fields kept.1 kept.2
  literals := by
    unfold itemsOf
    rw [(literals_iff_clean fields (by decide)).mpr literals]
  dropped keyword member := by
    have dropped : keyword ∈ AEP_ONLY_KEYWORDS := by
      revert member
      revert keyword
      decide
    simp [get?_projectFields, dropped]
  properties := mappingOf_projectFields fields (by decide)
  subschemas keyword member := by
    have kept : keyword ∉ AEP_ONLY_KEYWORDS ∧ keyword ∉ SCHEMA_MAP_KEYWORDS := by
      revert member
      revert keyword
      decide
    exact get?_structural fields kept.1 kept.2
  branches := itemsOf_projectFields fields (by decide) (by decide)

theorem position_of_resolve {root target : Json} {reference : String} (resolved : resolve root reference = some target) :
    Position root target := by
  cases root with
  | obj fields =>
    change (mappingOf fields "$defs").bind (fun definitions =>
      (localDefinitionTarget reference).bind fun name => definitions.get? name) = some target at resolved
    obtain ⟨definitions, found, resolved⟩ := Option.bind_eq_some_iff.mp resolved
    obtain ⟨name, _, here⟩ := Option.bind_eq_some_iff.mp resolved
    exact .inside (.definition found (Dict.get?_eq_some_mem here)) (.here target)
  | null => cases resolved
  | bool value => cases resolved
  | int value => cases resolved
  | float value => cases resolved
  | str value => cases resolved
  | arr items => cases resolved

theorem valid_providerSchema {value : Json}
    (literals : ∀ fields : Record, Position schema (.obj fields) → ∀ literal, fields.get? "enum" = some literal →
      clean literal = true)
    (valid : Valid dialect (resolve schema) schema value) :
    Valid dialect (resolve (providerSchema schema)) (providerSchema schema) value := by
  obtain ⟨depth, valid⟩ := valid
  refine ⟨depth, validates_of_weakens (Position schema) ?_ ?_ ?_ ?_ (.here schema) valid⟩
  · intro fields child position below
    exact position.child below
  · intro accepted
    rfl
  · intro fields position
    exact ⟨projectFields fields, rfl, weakens_projectFields (literals fields position)⟩
  · intro fields reference target _ _ resolved
    refine ⟨position_of_resolve resolved, ?_⟩
    rw [resolve_providerSchema, resolved]
    rfl

theorem accepted_position {checkSchema : Json → Option (List PathPart)}
    (accepted : validateOpenaiStrictSchema checkSchema schema = .ok ()) (projectable : Projectable schema)
    {fields : Record} (position : Position schema (.obj fields)) :
    (∀ key ∈ fields.keys, key ∈ ACCEPTED_KEYWORDS) ∧ StrictObject fields ∧ ReferencesResolve schema fields := by
  unfold validateOpenaiStrictSchema at accepted
  cases isMapping : schema.asRecord? with
  | none => simp [isMapping] at accepted
  | some root =>
    have same : schema = .obj root := Json.asRecord?_eq_some.mp isMapping
    have validated : validate (rootDefinitions root) "$" "$" schema = .ok () := by
      simp only [isMapping] at accepted
      split at accepted
      · cases accepted
      · split at accepted
        · cases accepted
        · split at accepted
          · cases accepted
          · exact accepted
    rcases validate_position validated position with ⟨_, _, here⟩ | ⟨outer, child, inside, found, below⟩
    · rw [validate] at here
      simp only [bind_eq_ok] at here
      obtain ⟨_, checked, -⟩ := here
      rw [same]
      exact checkSchemaObject_ok checked
    · exact projectable.additional outer child inside found fields below

end Main

section Runs

def permissive : Dialect := ⟨fun _ _ => true, fun _ _ => true⟩

def schemaWith (property : Json) : Json := .obj [
  ("type", .str "object"), ("properties", .obj [("mode", property)]), ("required", .arr [.str "mode"]),
  ("additionalProperties", .bool false)]

def literalSchema : Json := schemaWith (.obj [("enum", .arr [.obj [("minLength", .int 1)]])])

end Runs

end Aep.ProviderSchema
