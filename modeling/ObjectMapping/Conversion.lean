import ObjectMapping.Converter.Registry
import ObjectMapping.Plan.Resolution

/-!
Conversion of one type into another. Null is dealt with first; then, unless the types are the same
but for null, the registry is asked for converters, and exactly one of them must have the best
priority. Conversions of elements are found in the same way, one level further in.
-/

namespace ObjectMapping

structure Resolver where
  registry : Registry
  -- whether a value that may be null is taken to be there where the target needs one
  enforceNotNull : Bool := false

namespace Resolver

/-- How many converters may be applied inside one another. -/
def maxLevels : Nat := 2

def bridge (r : Resolver) (source target : TypeRef) : Except UnresolvedReason NullHandling :=
  match source.nullable, target.nullable with
  | true, false =>
    if r.enforceNotNull then .ok .unsafeUnwrap else .error (.nullabilityMismatch source target)
  | false, true => .ok .widen
  | true, true => .ok .propagate
  | false, false => .ok .none

def choose (source target : TypeRef) (nullHandling : NullHandling) :
    List Candidate → Except UnresolvedReason ConversionStep
  | [] => .error (.noConverter source target)
  | best :: rest =>
    -- the candidates come in order, so that those tied with the best stand right behind it
    match rest.takeWhile (·.converter.priority = best.converter.priority) with
    | [] =>
      .ok { source, target, nullHandling, converter := some best.converter,
            elements := best.elements }
    | tied => .error (.ambiguousConverter source target ((best :: tied).map (·.converter.name)))

/-- The conversion of one type into another with at most the given number of converters inside one
another. -/
def resolveWithin (r : Resolver) (levels : Nat) (source target : TypeRef) :
    Except UnresolvedReason ConversionStep :=
  if source = target then .ok (.direct source target .none)
  else
    match r.bridge source target with
    | .error reason => .error reason
    | .ok nullHandling =>
      -- no converter is needed here, so that this may be the case at any depth
      if source.eqIgnoringNullability target then .ok (.direct source target nullHandling)
      else
        match levels with
        | 0 => .error (.noConverter source target)
        | inner + 1 =>
          choose source target nullHandling
            -- null is dealt with already, and converters need not know of it
            (r.registry.candidates (fun a b => (r.resolveWithin inner a b).toOption)
              source.toNonNull target.toNonNull)

def resolve (r : Resolver) (source target : TypeRef) : Except UnresolvedReason ConversionStep :=
  r.resolveWithin maxLevels source target

def elementResolver (r : Resolver) : ElementResolver :=
  fun source target => (r.resolve source target).toOption

end Resolver

end ObjectMapping
