import ObjectMapping.Plan.Resolution

namespace ObjectMapping

variable {t : TypeRef}

namespace ConversionStep

mutual

def types : ConversionStep → List TypeRef
  | ⟨source, target, _, _, elements⟩ => source :: target :: typesOf elements

def typesOf : List ConversionStep → List TypeRef
  | [] => []
  | s :: rest => types s ++ typesOf rest

end

theorem mem_typesOf {steps : List ConversionStep} :
    t ∈ typesOf steps ↔ ∃ s ∈ steps, t ∈ s.types := by
  induction steps with
  | nil => simp [typesOf]
  | cons s rest ih => simp [typesOf, ih]

theorem mem_types_iff (s : ConversionStep) :
    t ∈ s.types ↔ t = s.source ∨ t = s.target ∨ ∃ e ∈ s.elements, t ∈ e.types := by
  cases s
  rw [types, List.mem_cons, List.mem_cons, mem_typesOf]

end ConversionStep

def UnresolvedReason.types : UnresolvedReason → List TypeRef
  | unmatched => []
  | noConverter source target => [source, target]
  | ambiguousConverter source target _ => [source, target]
  | nullabilityMismatch source target => [source, target]

def Resolution.types : Resolution → List TypeRef
  | matchedByName _ step => step.types
  | matchedByOverride _ step => step.types
  | constant _ => []
  | expression _ => []
  | ignored => []
  | unresolved _ reason => reason.types

def PropertyPlan.types (p : PropertyPlan) : List TypeRef :=
  p.targetType :: p.resolution.types

def UnresolvedProperty.types (u : UnresolvedProperty) : List TypeRef :=
  u.type :: u.reason.types

def MappingResult.types (m : MappingResult) : List TypeRef :=
  m.constructor.types ++ m.properties.flatMap PropertyPlan.types ++
    m.unresolved.flatMap UnresolvedProperty.types

def TypeDescriptor.types (d : TypeDescriptor) : List TypeRef :=
  d.properties.map (·.type) ++ d.constructors.flatMap fun c => c.signature.types

end ObjectMapping
