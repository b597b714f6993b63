import ObjectMapping.Proofs.Conversion.Nullability

/-!
The innermost steps of a conversion. Two containers deep no converter is left to be applied, and a
value is assigned as it is: to the same type, to one that allows null besides, or, where values are
taken to be there, from one that allows null besides.
-/

namespace ObjectMapping

theorem TypeRef.eq_toNonNull_or (t : TypeRef) : t = t.toNonNull ∨ t = t.toNonNull.toNullable := by
  obtain ⟨name, arguments, nullable⟩ := t
  cases nullable with
  | false => exact Or.inl rfl
  | true => exact Or.inr rfl

namespace ConversionStep

inductive Bare (enforceNotNull : Bool) : ConversionStep → Prop
  | same (t : TypeRef) : Bare enforceNotNull (.direct t t .none)
  | widened {t : TypeRef} (ht : t.nullable = false) :
      Bare enforceNotNull (.direct t t.toNullable .widen)
  | unwrapped {t : TypeRef} (ht : t.nullable = false) (henforce : enforceNotNull = true) :
      Bare enforceNotNull (.direct t.toNullable t .unsafeUnwrap)

/-- Unless values are taken to be there, null is at most added. -/
theorem Bare.widens {n : ConversionStep} (h : n.Bare false) :
    n.converter = none ∧ (n.nullHandling = .none ∨ n.nullHandling = .widen) := by
  cases h with
  | same => exact ⟨rfl, Or.inl rfl⟩
  | widened => exact ⟨rfl, Or.inr rfl⟩
  | unwrapped _ henforce => cases henforce

end ConversionStep

namespace Resolver

variable {r : Resolver} {s t : TypeRef} {step : ConversionStep} {nullHandling : NullHandling}

theorem bare_of_bridge (hst : s ≠ t) (heq : s.toNonNull = t.toNonNull)
    (hb : r.bridge s t = .ok nullHandling) :
    (ConversionStep.direct s t nullHandling).Bare r.enforceNotNull := by
  obtain ⟨u, hu, hs, ht⟩ : ∃ u : TypeRef, u.nullable = false ∧ (s = u ∨ s = u.toNullable) ∧
      (t = u ∨ t = u.toNullable) :=
    ⟨s.toNonNull, rfl, s.eq_toNonNull_or, heq ▸ t.eq_toNonNull_or⟩
  rcases hs with rfl | rfl <;> rcases ht with rfl | rfl
  · exact absurd rfl hst
  · rw [bridge, hu] at hb
    cases hb
    exact .widened hu
  · rw [bridge, hu] at hb
    cases henforce : r.enforceNotNull with
    | false =>
      rw [henforce] at hb
      cases hb
    | true =>
      rw [henforce] at hb
      cases hb
      exact .unwrapped hu rfl
  · exact absurd rfl hst

/-- Without any converter exactly the bare steps are found. -/
theorem converts_zero_iff :
    r.Converts 0 s t step ↔
      step.Bare r.enforceNotNull ∧ step.source = s ∧ step.target = t := by
  constructor
  · intro h
    cases h with
    | same => exact ⟨.same s, rfl, rfl⟩
    | bridged _ hst hb heq => exact ⟨bare_of_bridge hst heq hb, rfl, rfl⟩
  · rintro ⟨h, rfl, rfl⟩
    cases h with
    | same t => exact .same 0 t
    | @widened t ht =>
      have hb : r.bridge t t.toNullable = .ok .widen := by
        rw [bridge, ht]
        rfl
      exact .bridged 0 (TypeRef.ne_toNullable ht) hb rfl
    | @unwrapped t ht henforce =>
      have hb : r.bridge t.toNullable t = .ok .unsafeUnwrap := by
        rw [bridge, ht, henforce]
        rfl
      exact .bridged 0 (TypeRef.ne_toNullable ht).symm hb rfl

/-- Two containers deep every step is bare. Unless values are taken to be there, such a step at most
adds null. -/
theorem resolve_innermost (r : Resolver) (s t : TypeRef) (step n : ConversionStep)
    (h : r.resolve s t = .ok step) (hn : ConversionStep.NodeAt 2 n step) :
    n.Bare r.enforceNotNull ∧
      (r.enforceNotNull = false →
        n.converter = none ∧ (n.nullHandling = .none ∨ n.nullHandling = .widen)) := by
  obtain ⟨_, hnode⟩ := (resolveWithin_eq_ok_iff.mp h).nodeAt hn
  have hbare : n.Bare r.enforceNotNull := (converts_zero_iff.mp hnode).1
  refine ⟨hbare, ?_⟩
  intro hr
  rw [hr] at hbare
  exact hbare.widens

end Resolver

namespace Sample

def rowOf (cell : TypeRef) : TypeRef := { name := "List", arguments := [cell] }

def tableStep (cell : ConversionStep) : ConversionStep where
  source := rowOf (rowOf cell.source)
  target := rowOf (rowOf cell.target)
  nullHandling := .none
  converter := some ⟨3, "IterableToIterable", 3000⟩
  elements :=
    [{ source := rowOf cell.source
       target := rowOf cell.target
       nullHandling := .none
       converter := some ⟨3, "IterableToIterable", 3000⟩
       elements := [cell] }]

theorem nodeAt_tableStep (cell : ConversionStep) :
    ConversionStep.NodeAt 2 cell (tableStep cell) :=
  .inside List.mem_cons_self (.inside List.mem_cons_self (.root cell))

def cellType : TypeRef := { name := "Int" }

def widenedCell : ConversionStep := .direct cellType cellType.toNullable .widen

def unwrappedCell : ConversionStep := .direct cellType.toNullable cellType .unsafeUnwrap

theorem cell_widened :
    Resolver.resolve ⟨.standard, false⟩ (rowOf (rowOf cellType))
        (rowOf (rowOf cellType.toNullable)) = .ok (tableStep widenedCell) ∧
      ConversionStep.NodeAt 2 widenedCell (tableStep widenedCell) ∧
      widenedCell.Bare false ∧
      widenedCell.converter = none ∧
      (widenedCell.nullHandling = .none ∨ widenedCell.nullHandling = .widen) := by
  obtain ⟨hbare, hwidens⟩ := Resolver.resolve_innermost ⟨.standard, false⟩ (rowOf (rowOf cellType))
    (rowOf (rowOf cellType.toNullable)) (tableStep widenedCell) widenedCell (by rfl)
    (nodeAt_tableStep widenedCell)
  exact ⟨by rfl, nodeAt_tableStep widenedCell, hbare, hwidens rfl⟩

/-- Where values are taken to be there, even those in the cells of a table are. -/
theorem cell_unwrapped :
    Resolver.resolve ⟨.standard, true⟩ (rowOf (rowOf cellType.toNullable))
        (rowOf (rowOf cellType)) = .ok (tableStep unwrappedCell) ∧
      ConversionStep.NodeAt 2 unwrappedCell (tableStep unwrappedCell) ∧
      ¬(unwrappedCell.converter = none ∧
        (unwrappedCell.nullHandling = .none ∨ unwrappedCell.nullHandling = .widen)) := by
  refine ⟨by rfl, nodeAt_tableStep unwrappedCell, ?_⟩
  decide

end Sample

end ObjectMapping
