import ObjectMapping.Proofs.Json.Guarantee
import ObjectMapping.Proofs.Manifest.Catalog
import ObjectMapping.Proofs.Manifest.Requests
import ObjectMapping.Proofs.Mapping.Soundness
import ObjectMapping.Proofs.Mapping.Types
import ObjectMapping.Proofs.Plan.Recovery

namespace ObjectMapping

open Json (Guarantees Recovers guarantees_type guarantees_list guarantees_record recovers_list)

open Json.Fields (guarantees_field guarantees_fieldD)

/-! ### Manifests -/

theorem Property.guarantees_type : Guarantees ofJson fun p => p.type.Representable := by
  refine guarantees_record (.seq (.seq (.seq (.map (.true _) ?_)
    (guarantees_field Json.guarantees_type)) (.true _)) (.true _))
  exact fun _ _ _ ht _ _ _ _ => ht

theorem Constructor.guarantees_types :
    Guarantees ofJson fun c => ∀ t ∈ c.signature.types, t.Representable := by
  refine guarantees_record (.map (guarantees_field (guarantees_list Property.guarantees_type)) ?_)
  exact fun _ hparameters => List.forall_mem_map.mpr hparameters

theorem TypeDescriptor.guarantees_types :
    Guarantees ofJson fun d => ∀ t ∈ d.types, t.Representable := by
  have hproperties := guarantees_list Property.guarantees_type
  have hconstructors := guarantees_list Constructor.guarantees_types
  refine guarantees_record (.seq (.seq (.map (.true _) ?_) (guarantees_fieldD nofun hproperties))
    (guarantees_fieldD nofun hconstructors))
  intro name _ properties hproperties constructors hconstructors
  refine List.forall_mem_append.mpr ⟨List.forall_mem_map.mpr hproperties, ?_⟩
  exact List.forall_mem_flatMap.mpr hconstructors

theorem Catalog.guarantees_types :
    Guarantees ofJson fun c => ∀ d ∈ c.types, ∀ t ∈ d.types, t.Representable := by
  intro j c h d hd
  obtain ⟨types, htypes, rfl⟩ := map_eq_ok_iff.mp h
  exact guarantees_list TypeDescriptor.guarantees_types j types htypes d (mem_ofList hd)

/-- All types of a manifest that is read can be written. -/
theorem Manifest.representable_of_read {text : String} {m : Manifest} (h : read text = .ok m) :
    ∀ d ∈ m.types.types, ∀ t ∈ d.types, t.Representable := by
  have hguarantees : Guarantees ofJson fun m : Manifest =>
      ∀ d ∈ m.types.types, ∀ t ∈ d.types, t.Representable := by
    refine guarantees_record (.seq (.seq (.seq (.map (.true _) ?_)
      (guarantees_fieldD (fun _ hd => nomatch hd) Catalog.guarantees_types)) (.true _)) (.true _))
    exact fun _ _ _ htypes _ _ _ _ => htypes
  obtain ⟨j, _, hj⟩ := bind_eq_ok_iff.mp h
  exact hguarantees j m (mapError_eq_ok_iff.mp hj)

/-! ### Results -/

namespace Engine

variable {e : Engine} {workers : Workers}

/-- Every outcome is that of a request for two types of the catalog. -/
theorem exists_pair_of_mem_resolveAll {requests : List MappingRequest}
    {outcomes : List MappingOutcome} (h : e.resolveAll workers requests = .ok outcomes)
    {outcome : MappingOutcome} (ho : outcome ∈ outcomes) :
    ∃ request ∈ requests, ∃ source target, e.catalog.describe? request.source = some source ∧
      e.catalog.describe? request.target = some target ∧
      outcome = e.resolver.resolvePair source target request := by
  have hmem : some outcome ∈ requests.map e.outcome? :=
    map_outcome?_of_resolveAll h ▸ List.mem_map_of_mem ho
  obtain ⟨request, hrequest, houtcome⟩ := List.mem_map.mp hmem
  obtain ⟨source, target, hpair, rfl⟩ := outcome?_eq_some_iff.mp houtcome
  obtain ⟨hsource, htarget⟩ := describePair_eq_ok_iff.mp hpair
  exact ⟨request, hrequest, source, target, hsource, htarget, rfl⟩

/-- All types in the plans for a manifest that is read can be written. -/
theorem representable_of_resolveAll {text : String} {m : Manifest}
    (hread : Manifest.read text = .ok m) (he : e.catalog = m.types)
    {requests : List MappingRequest} {outcomes : List MappingOutcome}
    (h : e.resolveAll workers requests = .ok outcomes) {result : MappingResult}
    (hresult : .ok result ∈ outcomes) : ∀ t ∈ result.types, t.Representable := by
  have htypes := Manifest.representable_of_read hread
  rw [← he] at htypes
  obtain ⟨request, _, source, target, hsource, htarget, hpair⟩ :=
    exists_pair_of_mem_resolveAll h hresult
  -- an argument of a type with a written form has one as well
  exact Resolver.types_of_resolvePair (fun _ ht _ ha => ht.argument ha)
    (htypes source (Catalog.describe?_eq_some_iff.mp hsource).1)
    (htypes target (Catalog.describe?_eq_some_iff.mp htarget).1) hpair.symm

end Engine

/-- Plans survive being written as documents. If all types have a written form, a result, a plan,
a resolution, a reason and a step of any depth are recovered from their documents whatever the order
of members, and so are the plans from the documents that mark them. All types in results over a
manifest that was read have a written form. -/
theorem plans_survive :
    (∀ m : MappingResult, (∀ t ∈ m.types, t.Representable) →
      Recovers MappingResult.ofJson m.toJson m ∧
        ∃ j, m.toDocument.member? "properties" = some j ∧
          Recovers (Json.asList PropertyPlan.ofJson) j m.properties) ∧
    (∀ p : PropertyPlan, (∀ t ∈ p.types, t.Representable) →
      Recovers PropertyPlan.ofJson p.toJson p ∧ Recovers PropertyPlan.ofJson p.toDocument p) ∧
    (∀ r : Resolution, (∀ t ∈ r.types, t.Representable) → Recovers Resolution.ofJson r.toJson r) ∧
    (∀ r : UnresolvedReason, (∀ t ∈ r.types, t.Representable) →
      Recovers UnresolvedReason.ofJson r.toJson r) ∧
    (∀ u : UnresolvedProperty, (∀ t ∈ u.types, t.Representable) →
      Recovers UnresolvedProperty.ofJson u.toJson u) ∧
    (∀ s : ConversionStep, (∀ t ∈ s.types, t.Representable) →
      Recovers ConversionStep.ofJson s.toJson s) ∧
    ∀ text m, Manifest.read text = .ok m → ∀ e : Engine, e.catalog = m.types →
      ∀ workers requests outcomes, e.resolveAll workers requests = .ok outcomes →
        ∀ result, .ok result ∈ outcomes → ∀ t ∈ result.types, t.Representable := by
  refine ⟨?_, ?_, Resolution.recovers, UnresolvedReason.recovers, UnresolvedProperty.recovers,
    ConversionStep.recovers, ?_⟩
  · intro m h
    exact ⟨m.recovers h, m.recovers_documents h⟩
  · intro p h
    exact ⟨p.recovers h, p.recovers_document h⟩
  · intro text m hread e he workers requests outcomes houtcomes result hresult
    exact Engine.representable_of_resolveAll hread he houtcomes hresult

namespace Sample

def manifestText : String :=
  let id (type : TypeRef) := Json.array [.object [("name", .text "id"), ("type", type.toJson)]]
  let order := Json.object [("name", .text "Order"), ("properties", id long)]
  let invoice := Json.object
    [("name", .text "Invoice"), ("constructors", .array [.object [("parameters", id text)]])]
  (Json.object [("types", .array [order, invoice])]).compact

def manifestTypes : Catalog :=
  .ofList
    [{ name := "Order", properties := [{ name := "id", type := long }] },
     { name := "Invoice", constructors := [⟨[{ name := "id", type := text }]⟩] }]

theorem read_manifestText : ∃ m, Manifest.read manifestText = .ok m ∧ m.types = manifestTypes := by
  have htypes : (Manifest.read manifestText).toOption.map (·.types.types) =
      some manifestTypes.types := by decide +kernel
  obtain ⟨m, hread, hm⟩ := exists_of_toOption_map htypes
  exact ⟨m, hread, Catalog.ext hm⟩

def itemsPlan : PropertyPlan where
  target := "items"
  targetType := listOf text
  resolution := .matchedByOverride "items" unwrappingStep

def tied : UnresolvedReason :=
  .ambiguousConverter long text.toNullable ["ToString", "Stringify"]

def identityRequest : MappingRequest where
  source := "Order"
  target := "Invoice"

def identity : MappingResult where
  sourceType := "Order"
  targetType := "Invoice"
  constructor := ⟨[text]⟩
  constructorIndex := 0
  properties :=
    [{ target := "id", targetType := text,
       resolution := .matchedByName "id" (toText long text .none) }]
  unresolved := []

/-- Documents with sorted keys, among them one in which a value is marked as taken to be there, and
a run over a manifest. -/
theorem plans_recovered :
    MappingResult.ofJson result.toJson = .ok result ∧
      MappingResult.ofJson result.toJson.sortKeys = .ok result ∧
      itemsPlan.unwraps = true ∧
      PropertyPlan.ofJson itemsPlan.toDocument.sortKeys = .ok itemsPlan ∧
      Resolution.ofJson (Resolution.unresolved (some "note") tied).toJson.sortKeys =
        .ok (.unresolved (some "note") tied) ∧
      UnresolvedReason.ofJson tied.toJson.sortKeys = .ok tied ∧
      UnresolvedProperty.ofJson (UnresolvedProperty.toJson ⟨"note", text, tied⟩).sortKeys =
        .ok ⟨"note", text, tied⟩ ∧
      ConversionStep.ofJson itemsStep.toJson.sortKeys = .ok itemsStep ∧
      ∃ m, Manifest.read manifestText = .ok m ∧
        Engine.resolveAll ⟨⟨.standard, false⟩, m.types, some 2⟩ .unlimited [identityRequest] =
          .ok [.ok identity] ∧
        ∀ t ∈ identity.types, t.Representable := by
  obtain ⟨hresults, hplan, hresolution, hreason, hproperty, hstep, hmanifest⟩ := plans_survive
  have hresult := (hresults result (by decide +kernel)).1
  refine ⟨hresult.eq_ok, hresult.sorted, rfl, (hplan _ ?_).2.sorted, (hresolution _ ?_).sorted,
    (hreason _ ?_).sorted, (hproperty _ ?_).sorted, (hstep _ ?_).sorted, ?_⟩
  case refine_6 =>
    obtain ⟨m, hread, htypes⟩ := read_manifestText
    have hrun : Engine.resolveAll ⟨⟨.standard, false⟩, m.types, some 2⟩ .unlimited
        [identityRequest] = .ok [.ok identity] := by
      rw [htypes]
      rfl
    exact ⟨m, hread, hrun,
      hmanifest _ _ hread _ rfl _ _ _ hrun identity (List.mem_singleton_self _)⟩
  all_goals decide +kernel

end Sample

end ObjectMapping
