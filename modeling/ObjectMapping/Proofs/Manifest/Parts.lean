import ObjectMapping.Config.Codec
import ObjectMapping.Proofs.Json.Abridgement
import ObjectMapping.Proofs.Manifest.Catalog
import ObjectMapping.Proofs.Manifest.Results

namespace ObjectMapping

open Json (Recovers Survives recovers_text recovers_bool recovers_size recovers_word recovers_type
  recovers_list recovers_record recovers_ofOption recovers_tagAndContent survives_whole
  survives_list survives_record)

open Json.Fields (recovers_field survives_field survives_fieldD survives_default)

/-! ### Types -/

def Property.abridgement : Json.Abridgement :=
  .record { defaults := [("required", .bool true), ("mutable", .bool false)] }

def Constructor.abridgement : Json.Abridgement :=
  .record { parts := [("parameters", .list Property.abridgement)] }

def TypeDescriptor.abridgement : Json.Abridgement :=
  .record
    { defaults := [("properties", .array []), ("constructors", .array [])]
      parts := [("properties", .list Property.abridgement),
        ("constructors", .list Constructor.abridgement)] }

-- What may be left out is decided by the key and the value together. So a field that must be there
-- is not among the defaults, and one that may be absent is among them at its default only.

theorem Property.survives (p : Property) (h : p.type.Representable) :
    Survives abridgement ofJson p.toJson p := by
  refine survives_record (by simp) (.seq (.seq (.seq (.map ?_) ?_) ?_) ?_)
  · exact survives_field rfl (by simp) (survives_whole (recovers_text p.name))
  · exact survives_field rfl (by simp [TypeRef.toJson]) (survives_whole (recovers_type h))
  · exact survives_fieldD rfl (by simp) (survives_whole (recovers_bool p.required))
  · exact survives_fieldD rfl (by simp) (survives_whole (recovers_bool p.mutable))

theorem Constructor.survives (c : Constructor) (h : ∀ t ∈ c.signature.types, t.Representable) :
    Survives abridgement ofJson c.toJson c := by
  refine survives_record (by simp) (.map ?_)
  refine survives_field rfl (by simp) (survives_list ?_)
  exact fun p hp => p.survives (h p.type (List.mem_map_of_mem hp))

/-- A descriptor is recovered from all its abridged documents if its types can be written. -/
theorem TypeDescriptor.survives (d : TypeDescriptor) (h : ∀ t ∈ d.types, t.Representable) :
    Survives abridgement ofJson d.toJson d := by
  refine survives_record (by simp) (.seq (.seq (.map ?_) ?_) ?_)
  · exact survives_field rfl (by simp) (survives_whole (recovers_text d.name))
  · refine survives_fieldD rfl (by simp) (survives_list ?_)
    exact fun p hp => p.survives (h _ (type_mem_types_of_property hp))
  · refine survives_fieldD rfl (by simp) (survives_list ?_)
    exact fun c hc => c.survives fun t ht => h t (type_mem_types_of_signature hc ht)

/-! ### Catalogs -/

namespace Catalog

def abridgement : Json.Abridgement :=
  .list TypeDescriptor.abridgement

/-- A catalog is recovered from all its abridged documents if its types can be written. -/
theorem survives (c : Catalog) (h : ∀ d ∈ c.types, ∀ t ∈ d.types, t.Representable) :
    Survives abridgement ofJson c.toJson c := by
  have hlist : Survives abridgement (Json.asList TypeDescriptor.ofJson) c.toJson c.types :=
    survives_list fun d hd => d.survives (h d hd)
  have hcatalog : Survives abridgement ofJson c.toJson (ofList c.types) := hlist.map
  rwa [ofList_types] at hcatalog

end Catalog

/-! ### Overrides and requests -/

theorem OverrideKind.recovers (k : OverrideKind) : Recovers ofJson k.toJson k := by
  cases k with
  | ignore =>
    apply recovers_tagAndContent (by simp) rfl rfl
    intro r hr hvalue
    rw [hr]
    exact bind_eq_ok_iff.mpr ⟨(), Json.Record.getD_eq_default hvalue, rfl⟩
  | _ =>
    apply recovers_tagAndContent (by simp) rfl rfl
    intro r _ hvalue
    exact map_eq_ok_iff.mpr ⟨_, Json.Record.require_eq_ok hvalue (recovers_text _), rfl⟩

theorem Override.recovers (o : Override) : Recovers ofJson o.toJson o := by
  refine recovers_record (by simp) (.seq (.map ?_) ?_)
  · exact recovers_field rfl (recovers_text o.target)
  · exact recovers_field rfl o.kind.recovers

def OverrideDecl.abridgement : Json.Abridgement :=
  .record
    { defaults := [("target", .text ""), ("source", .null), ("constant", .null),
        ("expression", .null), ("ignore", .bool false)] }

theorem ofOption_eq_null_iff {α : Type} {encode : α → Json} (hencode : ∀ a, encode a ≠ .null)
    {value : Option α} : Json.ofOption encode value = .null ↔ value = none := by
  cases value <;> simp [Json.ofOption, hencode]

theorem OverrideDecl.survives (d : OverrideDecl) : Survives abridgement ofJson d.toJson d := by
  have htext (value : Option String) : Recovers (Json.asOption Json.asText)
      (Json.ofOption .text value) value := recovers_ofOption nofun recovers_text value
  refine survives_record (by simp) (.seq (.seq (.seq (.seq (.map ?_) ?_) ?_) ?_) ?_)
  · exact survives_fieldD rfl (by simp) (survives_whole (recovers_text d.target))
  · exact survives_fieldD rfl (by simp [ofOption_eq_null_iff]) (survives_whole (htext d.source))
  · exact survives_fieldD rfl (by simp [ofOption_eq_null_iff]) (survives_whole (htext d.constant))
  · exact survives_fieldD rfl (by simp [ofOption_eq_null_iff]) (survives_whole (htext d.expression))
  · exact survives_fieldD rfl (by simp) (survives_whole (recovers_bool d.ignore))

def MappingRequest.abridgement : Json.Abridgement :=
  .record
    { defaults := [("overrides", .array []), ("constructor", .null)]
      parts := [("overrides", .list OverrideDecl.abridgement)] }

theorem MappingRequest.survives (q : MappingRequest)
    (h : ∀ s ∈ q.constructor, ∀ t ∈ s.types, t.Representable) :
    Survives abridgement ofJson q.toJson q := by
  obtain ⟨source, target, overrides, constructor⟩ := q
  refine survives_record ?_ (.seq (.seq (.seq (.map ?_) ?_) ?_) ?_)
  · cases overrides <;> cases constructor <;> simp
  · exact survives_field rfl (by simp) (survives_whole (recovers_text source))
  · exact survives_field rfl (by simp) (survives_whole (recovers_text target))
  · cases overrides with
    | nil => cases constructor <;> exact survives_default rfl
    | cons first rest =>
      exact survives_fieldD rfl (by simp) (survives_list fun d _ => d.survives)
  · cases constructor with
    | none => cases overrides <;> exact survives_default rfl
    | some s =>
      have hs : Recovers (Json.asOption Signature.ofJson) s.toJson (some s) :=
        Json.recovers_some nofun (s.recovers (h s rfl))
      cases overrides <;> exact survives_fieldD rfl (by simp [Signature.toJson]) (survives_whole hs)

/-! ### Converters and options -/

def ConverterDecl.abridgement : Json.Abridgement :=
  .record { defaults := [("priority", .null)] }

theorem ConverterDecl.survives (d : ConverterDecl) :
    Survives abridgement ofJson d.toJson d := by
  have hpriority : Recovers (Json.asOption Json.asWord)
      (Json.ofOption (fun n : UInt32 => .integer n.toNat) d.priority) d.priority :=
    recovers_ofOption nofun recovers_word d.priority
  refine survives_record (by simp) (.seq (.seq (.seq (.map ?_) ?_) ?_) ?_)
  · exact survives_field rfl (by simp) (survives_whole (recovers_text d.name))
  · exact survives_field rfl (by simp) (survives_whole (recovers_text d.source))
  · exact survives_field rfl (by simp) (survives_whole (recovers_text d.target))
  · exact survives_fieldD rfl (by simp [ofOption_eq_null_iff]) (survives_whole hpriority)

def Config.abridgement : Json.Abridgement :=
  .record
    { defaults := [("enforceNotNull", .bool false), ("generatedFilenameSuffix", .text "Konverter"),
        ("disabledConverters", .array []), ("maxParallelJobs", .null)] }

theorem Config.survives (c : Config) : Survives abridgement ofJson c.toJson c := by
  have hdisabled : Recovers (Json.asList Json.asText)
      (.array (c.disabledConverters.map .text)) c.disabledConverters :=
    recovers_list fun name _ => recovers_text name
  have hjobs : Recovers (Json.asOption Json.asSize)
      (Json.ofOption (fun n : Nat => .integer n) c.maxParallelJobs) c.maxParallelJobs :=
    recovers_ofOption nofun recovers_size c.maxParallelJobs
  refine survives_record (by simp) (.seq (.seq (.seq (.map ?_) ?_) ?_) ?_)
  · exact survives_fieldD rfl (by simp) (survives_whole (recovers_bool c.enforceNotNull))
  · exact survives_fieldD rfl (by simp) (survives_whole (recovers_text c.filenameSuffix))
  · exact survives_fieldD rfl (by simp) (survives_whole hdisabled)
  · exact survives_fieldD rfl (by simp [ofOption_eq_null_iff]) (survives_whole hjobs)

theorem OptionValue.recovers (v : OptionValue) : Recovers ofJson v.toJson v := by
  intro k hk
  cases v with
  | bool b =>
    cases hk
    rfl
  | integer n =>
    cases hk
    simp [ofJson, toJson]
  | text s =>
    cases hk
    rfl

/-- The parts of manifests survive being written as documents. If all types have a written form,
each part is recovered from its document and from any that leaves out members with their defaults,
at any level and whatever the order of members. -/
theorem parts_survive :
    (∀ d : TypeDescriptor, (∀ t ∈ d.types, t.Representable) →
      Survives TypeDescriptor.abridgement TypeDescriptor.ofJson d.toJson d) ∧
    (∀ q : MappingRequest, (∀ s ∈ q.constructor, ∀ t ∈ s.types, t.Representable) →
      Survives MappingRequest.abridgement MappingRequest.ofJson q.toJson q) ∧
    (∀ d : OverrideDecl, Survives OverrideDecl.abridgement OverrideDecl.ofJson d.toJson d) ∧
    (∀ o : Override, Recovers Override.ofJson o.toJson o) ∧
    (∀ d : ConverterDecl, Survives ConverterDecl.abridgement ConverterDecl.ofJson d.toJson d) ∧
    (∀ c : Config, Survives Config.abridgement Config.ofJson c.toJson c) ∧
    (∀ v : OptionValue, Recovers OptionValue.ofJson v.toJson v) ∧
    (∀ c : Catalog, (∀ d ∈ c.types, ∀ t ∈ d.types, t.Representable) →
      Survives Catalog.abridgement Catalog.ofJson c.toJson c) :=
  ⟨TypeDescriptor.survives, MappingRequest.survives, OverrideDecl.survives, Override.recovers,
    ConverterDecl.survives, Config.survives, OptionValue.recovers, Catalog.survives⟩

namespace Sample

def remark : TypeDescriptor where
  name := "Remark"
  properties := [{ name := "body", type := text, mutable := true }]

def briefRemark : Json :=
  .object
    [("name", .text "Remark"),
     ("properties", .array [.object
       [("name", .text "body"), ("type", .text "String"), ("mutable", .bool true)]])]

def briefRequest : Json :=
  .object
    [("source", .text "Order"), ("target", .text "Invoice"),
     ("overrides", .array [.object
       [("target", .text "label"), ("constant", .text "final")]])]

theorem remark_abridged : TypeDescriptor.abridgement.Abridges remark.toJson briefRemark := by
  refine .object (.keep rfl (.keep (.array (.cons ?_ .nil)) (.leaveOut (by simp [remark]) .nil)))
  exact .object (.keep rfl (.keep rfl (.leaveOut (by simp) (.keep rfl .nil))))

theorem request_abridged : MappingRequest.abridgement.Abridges request.toJson briefRequest := by
  refine .object (.keep rfl (.keep rfl (.keep (.array (.cons ?_ .nil)) .nil)))
  refine .object (.keep rfl (.leaveOut ?_ (.keep rfl (.leaveOut ?_ (.leaveOut ?_ .nil))))) <;>
    simp [Json.ofOption]

/-- A remark and a request from documents that leave out members, also with sorted keys, a
configuration from an empty document, and a catalog from its own. -/
theorem parts_recovered :
    TypeDescriptor.ofJson briefRemark = .ok remark ∧
      TypeDescriptor.ofJson briefRemark.sortKeys = .ok remark ∧
      MappingRequest.ofJson briefRequest = .ok request ∧
      MappingRequest.ofJson briefRequest.sortKeys = .ok request ∧
      Config.ofJson (.object []) = .ok {} ∧
      Catalog.ofJson manifestTypes.toJson = .ok manifestTypes := by
  obtain ⟨hdescriptor, hrequest, _, _, _, hconfig, _, hcatalog⟩ := parts_survive
  have hremark := hdescriptor remark (by decide +kernel) briefRemark remark_abridged
  have hbrief := hrequest request nofun briefRequest request_abridged
  have hempty := hconfig {} (.object []) (.object (.leaveOut (by simp) (.leaveOut (by simp)
    (.leaveOut (by simp) (.leaveOut (by simp [Json.ofOption]) .nil)))))
  exact ⟨hremark.eq_ok, hremark.sorted, hbrief.eq_ok, hbrief.sorted, hempty.eq_ok,
    (hcatalog manifestTypes (by decide +kernel)).recovers.eq_ok⟩

end Sample

end ObjectMapping
