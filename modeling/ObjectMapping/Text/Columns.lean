namespace ObjectMapping.Text

/-- The text followed by blanks up to the given width; a longer text is left as it is. -/
def padRight (width : Nat) (s : String) : String :=
  s ++ String.ofList (List.replicate (width - s.length) ' ')

end ObjectMapping.Text
