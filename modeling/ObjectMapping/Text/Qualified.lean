namespace ObjectMapping.Text

/-- The segment behind the last dot, or the whole name if it has no dot. -/
def simpleName (qualified : String) : String :=
  String.ofList ((qualified.toList.reverse.takeWhile (· != '.')).reverse)

def packageName (qualified : String) : String :=
  String.ofList (((qualified.toList.reverse.dropWhile (· != '.')).drop 1).reverse)

end ObjectMapping.Text
