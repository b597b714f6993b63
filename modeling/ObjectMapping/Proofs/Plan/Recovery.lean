import ObjectMapping.Proofs.Json.Recovery
import ObjectMapping.Proofs.Plan.Types
import ObjectMapping.Report.Document

namespace ObjectMapping

open Json (Recovers Arranges recovers_text recovers_size recovers_word recovers_type
  recovers_list recovers_part recovers_record recovers_variant recovers_tagged
  recovers_nothing exists_of_rel_some eq_none_of_rel_none)

open Json.Fields (recovers_field recovers_fieldD recovers_default recovers_optional)

theorem ConverterRef.recovers (c : ConverterRef) : Recovers ofJson c.toJson c := by
  refine recovers_part (by simp) (.seq (.seq (.map ?_) ?_) ?_)
  · exact recovers_field rfl (recovers_size c.index)
  · exact recovers_field rfl (recovers_text c.name)
  · exact recovers_field rfl (recovers_word c.priority)

theorem NullHandling.recovers (n : NullHandling) :
    Recovers (Json.asVariantInPart variants) n.toJson n := by
  cases n <;> exact recovers_variant rfl

theorem AssignmentPhase.recovers (p : AssignmentPhase) :
    Recovers (Json.asVariant variants) p.toJson p := by
  cases p <;> exact recovers_variant rfl

theorem Signature.recovers (s : Signature) (h : ∀ t ∈ s.types, t.Representable) :
    Recovers ofJson s.toJson s := by
  intro k hk
  have hlist := recovers_list (fun t ht => recovers_type (h t ht)) k hk
  rw [ofJson, hlist]
  rfl

/-! ### Steps -/

namespace ConversionStep

theorem elementsOfMembers_eq (members : List (String × Json)) :
    elementsOfMembers members =
      match members.lookup "elements" with
      | some value => ofJsonList value
      | none => .ok [] := by
  induction members with
  | nil => rfl
  | cons first rest ih =>
    obtain ⟨key, value⟩ := first
    rw [elementsOfMembers, List.lookup_cons, ih]
    by_cases hkey : key = "elements"
    · rw [if_pos hkey, beq_iff_eq.mpr hkey.symm]
    · rw [if_neg hkey, beq_eq_false_iff_ne.mpr (Ne.symm hkey)]

def members (s : ConversionStep) : List (String × Json) :=
  ownMembers s.source s.target s.nullHandling s.converter ++ elementsMember s.elements

theorem toJson_eq (s : ConversionStep) : s.toJson = .object s.members := by
  cases s
  rw [toJson]
  rfl

theorem nodup_keys (s : ConversionStep) : (s.members.map (·.1)).Nodup := by
  obtain ⟨source, target, nullHandling, converter, elements⟩ := s
  cases converter <;> cases elements <;> simp [members, ownMembers, elementsMember]

theorem lookup_converter (s : ConversionStep) :
    s.members.lookup "converter" = s.converter.map ConverterRef.toJson := by
  obtain ⟨source, target, nullHandling, converter, elements⟩ := s
  cases converter <;> cases elements <;>
    simp [members, ownMembers, elementsMember, List.lookup_cons]

theorem lookup_elements (s : ConversionStep) :
    s.members.lookup "elements" =
      if s.elements = [] then none else some (.array (toJsonAll s.elements)) := by
  obtain ⟨source, target, nullHandling, converter, elements⟩ := s
  cases converter <;> cases elements <;>
    simp [members, ownMembers, elementsMember, toJsonAll, List.lookup_cons]

/-- What the elements are decoded to, in whatever order the members of the step are found. -/
theorem elementsOfMembers_of_arranges {s : ConversionStep} {members' : List (String × Json)}
    (hrel : Option.Rel Arranges (s.members.lookup "elements") (members'.lookup "elements"))
    (helements : Recovers ofJsonList (.array (toJsonAll s.elements)) s.elements) :
    elementsOfMembers members' = .ok s.elements := by
  rw [lookup_elements] at hrel
  rw [elementsOfMembers_eq]
  split at hrel
  · rename_i hnil
    rw [eq_none_of_rel_none hrel, hnil]
  · obtain ⟨value, hvalue, harranged⟩ := exists_of_rel_some hrel
    rw [hvalue]
    exact helements value harranged

theorem recovers_fields (s : ConversionStep) (hsource : s.source.Representable)
    (htarget : s.target.Representable) {decoded : Except Json.DecodeError (List ConversionStep)}
    (hdecoded : decoded = .ok s.elements) : (fields decoded).Recovers s.members s := by
  have hconverter := s.lookup_converter
  have helements := s.lookup_elements
  obtain ⟨source, target, nullHandling, converter, elements⟩ := s
  refine .seq (.seq (.seq (.seq (.map ?_) ?_) ?_) ?_) ?_
  · exact recovers_field rfl (recovers_type hsource)
  · exact recovers_field rfl (recovers_type htarget)
  · exact recovers_field rfl nullHandling.recovers
  · exact recovers_optional hconverter nofun ConverterRef.recovers
  · cases elements with
    | nil => exact recovers_default helements
    | cons e rest => exact recovers_fieldD helements fun _ _ => hdecoded

theorem recovers_of_elements (s : ConversionStep) (hsource : s.source.Representable)
    (htarget : s.target.Representable)
    (helements : Recovers ofJsonList (.array (toJsonAll s.elements)) s.elements) :
    Recovers ofJson s.toJson s := by
  intro k hk
  rw [toJson_eq] at hk
  obtain ⟨members', rfl, _, hrel⟩ := hk.lookup_rel s.nodup_keys
  -- the elements are decoded before the record is, so its fields depend on the order of members
  have hdecoded := elementsOfMembers_of_arranges (hrel "elements") helements
  rw [ofJson]
  exact recovers_part s.nodup_keys (s.recovers_fields hsource htarget hdecoded) _ hk

mutual

/-- A step is recovered from its document, with all steps inside it. -/
theorem recovers : (s : ConversionStep) → (h : ∀ t ∈ s.types, t.Representable) →
    Recovers ofJson s.toJson s
  | ⟨source, target, nullHandling, converter, elements⟩, h => by
    obtain ⟨hsource, htarget, helements⟩ := by simpa only [types, List.forall_mem_cons] using h
    apply recovers_of_elements _ hsource htarget
    intro k hk
    obtain ⟨items, rfl, hitems⟩ := hk.array_inv
    exact ofJsonAll_of_arranges elements helements items hitems

theorem ofJsonAll_of_arranges : (steps : List ConversionStep) →
    (h : ∀ t ∈ typesOf steps, t.Representable) → (items : List Json) →
    (hitems : List.Forall₂ Arranges (toJsonAll steps) items) → ofJsonAll items = .ok steps
  | [], _, _, .nil => rfl
  | s :: rest, h, _, .cons hs hrest => by
    obtain ⟨hfirst, hothers⟩ := List.forall_mem_append.mp h
    rw [ofJsonAll, recovers s hfirst _ hs, ofJsonAll_of_arranges rest hothers _ hrest]
    rfl

end

end ConversionStep

/-! ### Reasons and resolutions -/

namespace UnresolvedReason

theorem recovers_typeFields {α : Type} (make : TypeRef → TypeRef → α) {source target : TypeRef}
    {members : List (String × Json)} (hsource : source.Representable)
    (htarget : target.Representable) (hfrom : members.lookup "from" = some source.toJson)
    (hto : members.lookup "to" = some target.toJson) :
    (typeFields make).Recovers members (make source target) :=
  .seq (.map (recovers_field hfrom (recovers_type hsource)))
    (recovers_field hto (recovers_type htarget))

def members : UnresolvedReason → List (String × Json)
  | unmatched => []
  | noConverter source target => [("from", source.toJson), ("to", target.toJson)]
  | ambiguousConverter source target candidates =>
    [("from", source.toJson), ("to", target.toJson), ("candidates", .array (candidates.map .text))]
  | nullabilityMismatch source target => [("from", source.toJson), ("to", target.toJson)]

def variantName : UnresolvedReason → String
  | unmatched => "unmatched"
  | noConverter _ _ => "no_converter"
  | ambiguousConverter _ _ _ => "ambiguous_converter"
  | nullabilityMismatch _ _ => "nullability_mismatch"

theorem toJson_eq (r : UnresolvedReason) :
    r.toJson = .object (("reason", .text r.variantName) :: r.members) := by
  cases r <;> rfl

theorem nodup_keys (r : UnresolvedReason) :
    ((("reason", Json.text r.variantName) :: r.members).map (·.1)).Nodup := by
  cases r <;> simp [members]

theorem exists_variant (r : UnresolvedReason) (h : ∀ t ∈ r.types, t.Representable) :
    ∃ decode, variants.lookup r.variantName = some decode ∧
      Recovers decode (.object r.members) r := by
  have hkeys := (List.nodup_cons.mp r.nodup_keys).2
  cases r with
  | unmatched => exact ⟨_, rfl, recovers_nothing⟩
  | noConverter source target =>
    obtain ⟨hsource, htarget, _⟩ := by simpa only [types, List.forall_mem_cons] using h
    exact ⟨_, rfl, recovers_part hkeys (recovers_typeFields _ hsource htarget rfl rfl)⟩
  | ambiguousConverter source target candidates =>
    obtain ⟨hsource, htarget, _⟩ := by simpa only [types, List.forall_mem_cons] using h
    refine ⟨_, rfl, recovers_part hkeys (.seq ?_ ?_)⟩
    · exact recovers_typeFields _ hsource htarget rfl rfl
    · exact recovers_field rfl (recovers_list fun name _ => recovers_text name)
  | nullabilityMismatch source target =>
    obtain ⟨hsource, htarget, _⟩ := by simpa only [types, List.forall_mem_cons] using h
    exact ⟨_, rfl, recovers_part hkeys (recovers_typeFields _ hsource htarget rfl rfl)⟩

theorem recovers (r : UnresolvedReason) (h : ∀ t ∈ r.types, t.Representable) :
    Recovers ofJson r.toJson r := by
  obtain ⟨decode, hvariant, hrest⟩ := r.exists_variant h
  rw [toJson_eq]
  exact recovers_tagged r.nodup_keys rfl hvariant hrest

theorem recovers_inPart (r : UnresolvedReason) (h : ∀ t ∈ r.types, t.Representable) :
    Recovers ofPart r.toJson r := by
  obtain ⟨decode, hvariant, hrest⟩ := r.exists_variant h
  rw [toJson_eq]
  exact recovers_tagged r.nodup_keys rfl hvariant hrest

end UnresolvedReason

namespace Resolution

def members : Resolution → List (String × Json)
  | matchedByName source step => [("source", .text source), ("step", step.toJson)]
  | matchedByOverride source step => [("source", .text source), ("step", step.toJson)]
  | constant value => [("value", .text value)]
  | expression text => [("text", .text text)]
  | ignored => []
  | unresolved source reason =>
    source.toList.map (fun s => ("source", .text s)) ++ [("reason", reason.toJson)]

def variantName : Resolution → String
  | matchedByName _ _ => "matched_by_name"
  | matchedByOverride _ _ => "matched_by_override"
  | constant _ => "constant"
  | expression _ => "expression"
  | ignored => "ignored"
  | unresolved _ _ => "unresolved"

theorem toJson_eq (r : Resolution) :
    r.toJson = .object (("kind", .text r.variantName) :: r.members) := by
  cases r <;> rfl

theorem nodup_keys (r : Resolution) :
    ((("kind", Json.text r.variantName) :: r.members).map (·.1)).Nodup := by
  cases r with
  | unresolved source reason => cases source <;> simp [members]
  | _ => simp [members]

theorem recovers_matchFields (make : String → ConversionStep → Resolution) (source : String)
    {step : ConversionStep} (h : ∀ t ∈ step.types, t.Representable) :
    (matchFields make).Recovers [("source", .text source), ("step", step.toJson)]
      (make source step) :=
  .seq (.map (recovers_field rfl (recovers_text source))) (recovers_field rfl (step.recovers h))

theorem exists_variant (r : Resolution) (h : ∀ t ∈ r.types, t.Representable) :
    ∃ decode, variants.lookup r.variantName = some decode ∧
      Recovers decode (.object r.members) r := by
  have hkeys := (List.nodup_cons.mp r.nodup_keys).2
  cases r with
  | matchedByName source step =>
    exact ⟨_, rfl, recovers_part hkeys (recovers_matchFields _ source h)⟩
  | matchedByOverride source step =>
    exact ⟨_, rfl, recovers_part hkeys (recovers_matchFields _ source h)⟩
  | constant value =>
    exact ⟨_, rfl, recovers_part hkeys (.map (recovers_field rfl (recovers_text value)))⟩
  | expression text =>
    exact ⟨_, rfl, recovers_part hkeys (.map (recovers_field rfl (recovers_text text)))⟩
  | ignored => exact ⟨_, rfl, recovers_nothing⟩
  | unresolved source reason =>
    refine ⟨_, rfl, recovers_part hkeys (.seq (.map ?_) ?_)⟩
    · exact recovers_optional (by cases source <;> rfl) (by simp) recovers_text
    · exact recovers_field (by cases source <;> rfl) (reason.recovers_inPart h)

theorem recovers (r : Resolution) (h : ∀ t ∈ r.types, t.Representable) :
    Recovers ofJson r.toJson r := by
  obtain ⟨decode, hvariant, hrest⟩ := r.exists_variant h
  rw [toJson_eq]
  exact recovers_tagged r.nodup_keys rfl hvariant hrest

end Resolution

/-! ### Plans and results -/

namespace PropertyPlan

variable {more : List (String × Json)}

/-- A plan is recovered from any object that holds its members, whatever follows them. -/
theorem recovers_append (p : PropertyPlan) (h : ∀ t ∈ p.types, t.Representable)
    (hkeys : ((p.toMembers ++ more).map (·.1)).Nodup) :
    Recovers ofJson (.object (p.toMembers ++ more)) p := by
  obtain ⟨htype, hresolution⟩ := List.forall_mem_cons.mp h
  -- the members of the plan stand in front, where they are found whatever follows
  refine recovers_record hkeys (.seq (.seq (.seq (.map ?_) ?_) ?_) ?_)
  · exact recovers_field rfl (recovers_text p.target)
  · exact recovers_field rfl (recovers_type htype)
  · exact recovers_field rfl (p.resolution.recovers hresolution)
  · exact recovers_field rfl p.phase.recovers

theorem recovers (p : PropertyPlan) (h : ∀ t ∈ p.types, t.Representable) :
    Recovers ofJson p.toJson p := by
  rw [toJson, ← List.append_nil p.toMembers]
  exact p.recovers_append h (by simp [toMembers])

/-- The mark on a document of a plan does not stand in the way. -/
theorem recovers_document (p : PropertyPlan) (h : ∀ t ∈ p.types, t.Representable) :
    Recovers ofJson p.toDocument p := by
  apply p.recovers_append h
  split <;> simp [toMembers]

end PropertyPlan

theorem UnresolvedProperty.recovers (u : UnresolvedProperty) (h : ∀ t ∈ u.types, t.Representable) :
    Recovers ofJson u.toJson u := by
  obtain ⟨htype, hreason⟩ := List.forall_mem_cons.mp h
  refine recovers_record (by simp) (.seq (.seq (.map ?_) ?_) ?_)
  · exact recovers_field rfl (recovers_text u.name)
  · exact recovers_field rfl (recovers_type htype)
  · exact recovers_field rfl (u.reason.recovers hreason)

/-- The plan of a mapping is recovered from its document. -/
theorem MappingResult.recovers (m : MappingResult) (h : ∀ t ∈ m.types, t.Representable) :
    Recovers ofJson m.toJson m := by
  obtain ⟨hplans, hunresolved⟩ := List.forall_mem_append.mp h
  obtain ⟨hsignature, hproperties⟩ := List.forall_mem_append.mp hplans
  rw [List.forall_mem_flatMap] at hproperties hunresolved
  refine recovers_record (by simp) (.seq (.seq (.seq (.seq (.seq (.map ?_) ?_) ?_) ?_) ?_) ?_)
  · exact recovers_field rfl (recovers_text m.sourceType)
  · exact recovers_field rfl (recovers_text m.targetType)
  · exact recovers_field rfl (m.constructor.recovers hsignature)
  · exact recovers_field rfl (recovers_size m.constructorIndex)
  · exact recovers_field rfl (recovers_list fun p hp => p.recovers (hproperties p hp))
  · exact recovers_field rfl (recovers_list fun u hu => u.recovers (hunresolved u hu))

/-- The properties in the document of a result are decoded to its plans, one by one. -/
theorem MappingResult.recovers_documents (m : MappingResult)
    (h : ∀ t ∈ m.types, t.Representable) :
    ∃ j, m.toDocument.member? "properties" = some j ∧
      Recovers (Json.asList PropertyPlan.ofJson) j m.properties := by
  obtain ⟨hplans, _⟩ := List.forall_mem_append.mp h
  have hproperties := List.forall_mem_flatMap.mp (List.forall_mem_append.mp hplans).2
  refine ⟨.array (m.properties.map PropertyPlan.toDocument), ?_, ?_⟩
  · rw [toDocument]
    split <;> rfl
  · exact recovers_list fun p hp => p.recovers_document (hproperties p hp)

end ObjectMapping
