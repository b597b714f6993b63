import ObjectMapping.Plan.Resolution

namespace ObjectMapping

inductive Warning where
  -- an override took the place of an earlier one for the same property
  | replacedOverride (property : String)
  -- an option has a name that means nothing
  | unknownOption (option : String)
  -- an override is for a property that no slot of the target has
  | unusedOverride (property targetType : String)
  -- a property that the chosen constructor leaves open stays without its value, since that could
  -- not be converted
  | unpopulated (targetType property : String) (reason : UnresolvedReason)
  -- a value could not be converted for a slot that the chosen constructor does not use
  | unresolvedElsewhere (targetType property : String) (reason : UnresolvedReason)
deriving DecidableEq, Repr

namespace Warning

def message : Warning → String
  | replacedOverride _ => "Replaced earlier override"
  | unknownOption _ => "Ignoring unknown option"
  | unusedOverride _ _ => "Override names no constructor parameter or mutable property"
  | unpopulated _ _ _ => "Property left unpopulated"
  | unresolvedElsewhere _ _ _ => "Property unresolved outside the chosen constructor"

def details : Warning → List (String × String)
  | replacedOverride property => [("property", property)]
  | unknownOption option => [("option", option)]
  | unusedOverride property targetType => [("property", property), ("target_type", targetType)]
  | unpopulated targetType property reason =>
    [("target_type", targetType), ("property", property), ("reason", reason.text)]
  | unresolvedElsewhere targetType property reason =>
    [("target_type", targetType), ("property", property), ("reason", reason.text)]

end Warning

end ObjectMapping
