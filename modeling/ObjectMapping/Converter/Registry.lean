import ObjectMapping.Converter.Declaration

namespace ObjectMapping

structure Candidate where
  converter : ConverterRef
  elements : List ConversionStep
deriving DecidableEq, Repr

namespace Candidate

/-- Puts a candidate in front of the first that does not go before it. -/
def insert (c : Candidate) : List Candidate → List Candidate
  | [] => [c]
  | first :: rest =>
    -- candidates come in from the last one, and a tie leaves each in front of later ones
    if first.converter.priority < c.converter.priority then first :: insert c rest
    else c :: first :: rest

/-- The candidates in ascending order of priority. Those of one priority stay in order. -/
def sort (cs : List Candidate) : List Candidate :=
  cs.foldr insert []

end Candidate

structure Registry where
  converters : List Converter := []
deriving Repr

namespace Registry

def standard : Registry :=
  ⟨BuiltIn.all.map .builtIn⟩

def addStandard (r : Registry) : Registry :=
  ⟨r.converters ++ standard.converters⟩

def register (r : Registry) (c : Converter) : Registry :=
  ⟨r.converters ++ [c]⟩

/-- Drops the converters whose names are not kept. -/
def filterNames (r : Registry) (keep : String → Bool) : Registry :=
  ⟨r.converters.filter fun c => keep c.name⟩

def size (r : Registry) : Nat :=
  r.converters.length

def refs (r : Registry) : List ConverterRef :=
  r.converters.zipIdx.map fun (c, index) => c.ref index

def accepting (r : Registry) (resolve : ElementResolver) (source target : TypeRef) :
    List Candidate :=
  r.converters.zipIdx.filterMap fun (c, index) =>
    (c.accepts resolve source target).map fun elements => ⟨c.ref index, elements⟩

def candidates (r : Registry) (resolve : ElementResolver) (source target : TypeRef) :
    List Candidate :=
  Candidate.sort (r.accepting resolve source target)

end Registry

end ObjectMapping
