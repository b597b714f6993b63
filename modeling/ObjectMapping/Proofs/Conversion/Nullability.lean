import ObjectMapping.Proofs.Conversion.Choice

namespace ObjectMapping

namespace TypeRef

variable {s t : TypeRef}

theorem toNonNull_eq_self (h : t.nullable = false) : t.toNonNull = t := by
  cases t
  cases h
  rfl

theorem ne_toNullable (h : s.nullable = false) : s ≠ t.toNullable := by
  rintro rfl
  cases h

end TypeRef

namespace Resolver

variable {r : Resolver} {levels : Nat} {s t : TypeRef} {nullHandling : NullHandling}
  {reason : UnresolvedReason}

/-- `Follows s t nullHandling base outcome`: the outcome for `s` and `t` is the same as `base`,
which is that for two other types. Both succeed by the same converter with the same elements, and
null is handled as given, or both fail in the same way, with the same candidates if several are
tied. -/
inductive Follows (s t : TypeRef) (nullHandling : NullHandling) :
    Except UnresolvedReason ConversionStep → Except UnresolvedReason ConversionStep → Prop
  | ok (base : ConversionStep) :
      Follows s t nullHandling (.ok base)
        (.ok { source := s, target := t, nullHandling, converter := base.converter,
               elements := base.elements })
  | noConverter (a b : TypeRef) :
      Follows s t nullHandling (.error (.noConverter a b)) (.error (.noConverter s t))
  | ambiguous (a b : TypeRef) (names : List String) :
      Follows s t nullHandling (.error (.ambiguousConverter a b names))
        (.error (.ambiguousConverter s t names))

/-- Null is in the way only if it comes from the source, the target forbids it, and it is not taken
to be absent. -/
theorem bridge_eq_error_iff :
    r.bridge s t = .error reason ↔
      s.nullable = true ∧ t.nullable = false ∧ r.enforceNotNull = false ∧
        reason = .nullabilityMismatch s t := by
  unfold bridge
  cases s.nullable <;> cases t.nullable <;> cases r.enforceNotNull <;> simp [eq_comm]

/-- If null is in the way, that is the error, whatever converters there are. -/
theorem resolveWithin_of_bridge_eq_error (hb : r.bridge s t = .error reason) :
    r.resolveWithin levels s t = .error reason := by
  have hne : s ≠ t := by
    rintro rfl
    obtain ⟨hs, ht, _⟩ := bridge_eq_error_iff.mp hb
    rw [hs] at ht
    cases ht
  rw [resolveWithin, if_neg hne, hb]

/-- Types that differ in outer null at most need no converter. -/
theorem exists_of_toNonNull_eq (levels : Nat) (heq : s.toNonNull = t.toNonNull)
    (hb : r.bridge s t = .ok nullHandling) : ∃ step, r.resolveWithin levels s t = .ok step := by
  by_cases hst : s = t
  · subst hst
    exact ⟨_, resolveWithin_eq_ok_iff.mpr (.same levels s)⟩
  · exact ⟨_, resolveWithin_eq_ok_iff.mpr (.bridged levels hst hb heq)⟩

/-- The same candidates give the same outcome for other types and another handling of null. -/
theorem verdict_follows (a b : TypeRef) (baseHandling : NullHandling) (leading : List Candidate) :
    Follows s t nullHandling (verdict a b baseHandling leading)
      (verdict s t nullHandling leading) := by
  match leading with
  | [] => exact .noConverter a b
  | [only] => exact .ok _
  | first :: second :: rest => exact .ambiguous a b _

/-- Once null is dealt with, what remains is the conversion of the types without outer null. -/
theorem resolveWithin_follows (levels : Nat) (hst : s ≠ t)
    (hb : r.bridge s t = .ok nullHandling) :
    Follows s t nullHandling (r.resolveWithin levels s.toNonNull t.toNonNull)
      (r.resolveWithin levels s t) := by
  by_cases hne : s.toNonNull = t.toNonNull
  · have hbase : r.resolveWithin levels s.toNonNull t.toNonNull =
        .ok (.direct s.toNonNull s.toNonNull .none) := by
      rw [← hne]
      exact resolveWithin_eq_ok_iff.mpr (.same levels s.toNonNull)
    have hown : r.resolveWithin levels s t = .ok (.direct s t nullHandling) :=
      resolveWithin_eq_ok_iff.mpr (.bridged levels hst hb hne)
    rw [hbase, hown]
    exact .ok (.direct s.toNonNull s.toNonNull .none)
  · have hbase : r.bridge s.toNonNull t.toNonNull = .ok .none := rfl
    have hne' : s.toNonNull.toNonNull ≠ t.toNonNull.toNonNull := hne
    cases levels with
    | zero =>
      rw [resolveWithin_zero hne' hbase, resolveWithin_zero hne hb]
      exact .noConverter _ _
    | succ inner =>
      -- converters are asked about the types without outer null in both cases
      have hsame : r.acceptingWithin inner s.toNonNull t.toNonNull = r.acceptingWithin inner s t :=
        rfl
      rw [resolveWithin_eq_verdict hne' hbase, resolveWithin_eq_verdict hne hb, hsame]
      exact verdict_follows _ _ _ _

/-- A conversion to a target that allows null is found as if it did not. So is one from a source
that allows null, if the target allows it too or the value is taken to be there. Otherwise the two
types do not match. -/
theorem resolve_outer_null (r : Resolver) (s t : TypeRef) (hs : s.nullable = false)
    (ht : t.nullable = false) :
    Follows s t.toNullable .widen (r.resolve s t) (r.resolve s t.toNullable) ∧
    Follows s.toNullable t.toNullable (if s = t then .none else .propagate) (r.resolve s t)
      (r.resolve s.toNullable t.toNullable) ∧
    (r.enforceNotNull = false →
      r.resolve s.toNullable t = .error (.nullabilityMismatch s.toNullable t)) ∧
    (r.enforceNotNull = true →
      Follows s.toNullable t .unsafeUnwrap (r.resolve s t) (r.resolve s.toNullable t)) := by
  have hs' : s.toNonNull = s := TypeRef.toNonNull_eq_self hs
  have ht' : t.toNonNull = t := TypeRef.toNonNull_eq_self ht
  -- any two forms of the types whose null can be dealt with
  have hforms {a b : TypeRef} {nullHandling : NullHandling} (ha : a.toNonNull = s.toNonNull)
      (hb : b.toNonNull = t.toNonNull) (hab : a ≠ b) (hbridge : r.bridge a b = .ok nullHandling) :
      Follows a b nullHandling (r.resolve s t) (r.resolve a b) := by
    have h := resolveWithin_follows maxLevels hab hbridge
    rwa [ha, hb, hs', ht'] at h
  refine ⟨?_, ?_, ?_, ?_⟩
  · refine hforms rfl rfl (TypeRef.ne_toNullable hs) ?_
    rw [bridge, hs]
    rfl
  · split
    · rename_i heq
      subst heq
      rw [resolve, resolve, resolveWithin_eq_ok_iff.mpr (.same maxLevels s),
        resolveWithin_eq_ok_iff.mpr (.same maxLevels s.toNullable)]
      exact .ok (.direct s s .none)
    · rename_i hst
      have hne : s.toNullable ≠ t.toNullable := by
        intro heq
        apply hst
        calc
          s = s.toNullable.toNonNull := hs'.symm
          _ = t.toNullable.toNonNull := congrArg TypeRef.toNonNull heq
          _ = t := ht'
      exact hforms rfl rfl hne rfl
  · intro hr
    have hbridge : r.bridge s.toNullable t = .error (.nullabilityMismatch s.toNullable t) :=
      bridge_eq_error_iff.mpr ⟨rfl, ht, hr, rfl⟩
    exact resolveWithin_of_bridge_eq_error hbridge
  · intro hr
    refine hforms rfl rfl (TypeRef.ne_toNullable ht).symm ?_
    rw [bridge, ht, hr]
    rfl

end Resolver

namespace Sample

/-- Two converters are tied for lists, whether the lists may be null or not, unless null is in the
way already. -/
theorem lists_tied :
    numbers.toNonNull.nullable = false ∧ words.nullable = false ∧
      copying.enforceNotNull = true ∧
      copying.resolve numbers.toNonNull words =
        .error (.ambiguousConverter numbers.toNonNull words ["IterableToIterable", "CopyList"]) ∧
      Resolver.Follows numbers.toNonNull words.toNullable .widen
        (copying.resolve numbers.toNonNull words)
        (copying.resolve numbers.toNonNull words.toNullable) ∧
      Resolver.Follows numbers words.toNullable .propagate
        (copying.resolve numbers.toNonNull words) (copying.resolve numbers words.toNullable) ∧
      Resolver.Follows numbers words .unsafeUnwrap (copying.resolve numbers.toNonNull words)
        (copying.resolve numbers words) ∧
      Resolver.resolve ⟨copying.registry, false⟩ numbers words =
        .error (.nullabilityMismatch numbers words) := by
  have hdiff : numbers.toNonNull ≠ words := by decide
  obtain ⟨hwidened, hboth, _, htaken⟩ :=
    Resolver.resolve_outer_null copying numbers.toNonNull words rfl rfl
  obtain ⟨_, _, hrefused, _⟩ :=
    Resolver.resolve_outer_null ⟨copying.registry, false⟩ numbers.toNonNull words rfl rfl
  rw [if_neg hdiff] at hboth
  exact ⟨rfl, rfl, rfl, by rfl, hwidened, hboth, htaken rfl, hrefused rfl⟩

end Sample

end ObjectMapping
