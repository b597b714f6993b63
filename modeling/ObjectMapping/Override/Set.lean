import ObjectMapping.Override.Basic
import ObjectMapping.SortedTable
import ObjectMapping.Warning

namespace ObjectMapping

abbrev OverrideSet := SortedTable OverrideKind

/-- Declarations sorted into the overrides in effect, the conflicts, and the warnings about
overrides that were replaced. Conflicts and warnings are in order of declaration. -/
structure OverrideSet.Partition where
  overrides : OverrideSet := {}
  conflicts : List Conflict := []
  warnings : List Warning := []

namespace OverrideSet

def add (s : OverrideSet) (o : Override) : OverrideSet :=
  SortedTable.insert s o.target o.kind

def warningsOfAdd (s : OverrideSet) (o : Override) : List Warning :=
  if SortedTable.contains s o.target then [.replacedOverride o.target] else []

def Partition.add (p : Partition) (d : OverrideDecl) : Partition :=
  match d.validate with
  | .ok o =>
    { p with
      overrides := p.overrides.add o
      warnings := p.warnings ++ p.overrides.warningsOfAdd o }
  -- an earlier override of the same property stays in effect
  | .error conflict => { p with conflicts := p.conflicts ++ [conflict] }

/-- Sorts declarations. Those in conflict leave no trace in the set. -/
def partition (decls : List OverrideDecl) : Partition :=
  decls.foldl Partition.add {}

def ofDecls (decls : List OverrideDecl) : Except (List Conflict) OverrideSet :=
  let p := partition decls
  if p.conflicts.isEmpty then .ok p.overrides else .error p.conflicts

end OverrideSet

end ObjectMapping
