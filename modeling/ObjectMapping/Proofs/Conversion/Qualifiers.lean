import ObjectMapping.Proofs.Conversion.Library

/-!
Qualifiers of names. The built-in converters do not look at them, but a value is assigned as it is
only between types of the same full names. So of two pairs of types that differ in qualifiers alone
one converts exactly if the other does, as long as the same types are equal among those that are
compared.
-/

namespace ObjectMapping

namespace TypeRef

/-- The second type is the first one with other qualifiers, at the outside and in the arguments.
Simple names and nullability are kept. -/
inductive Requalified : TypeRef → TypeRef → Prop
  | mk {name name' : String} {arguments arguments' : List TypeRef} (nullable : Bool)
      (hname : Text.simpleName name = Text.simpleName name')
      (harguments : List.Forall₂ Requalified arguments arguments') :
      Requalified ⟨name, arguments, nullable⟩ ⟨name', arguments', nullable⟩

/-- The pairs of types that are compared with one another in a conversion with the given number of
levels. Of containers the arguments are compared while there are levels left. -/
def compared : Nat → TypeRef → TypeRef → List (TypeRef × TypeRef)
  | 0, s, t => [(s, t)]
  | inner + 1, s, t =>
    if s.areContainers t then (s.arguments.zip t.arguments).flatMap fun p => compared inner p.1 p.2
    else [(s, t)]

def sameness (levels : Nat) (s t : TypeRef) : List Bool :=
  (compared levels s t).map fun p => p.1.eqIgnoringNullability p.2

variable {s s' t t' : TypeRef} {inner : Nat}

/-- Qualifiers are no part of the shape. -/
theorem Requalified.sameShape (h : s.Requalified s') : s.SameShape s' := by
  cases h with
  | mk _ hname harguments => exact ⟨hname, harguments.length_eq⟩

theorem Requalified.nullable_eq (h : s.Requalified s') : s.nullable = s'.nullable := by
  cases h
  rfl

theorem Requalified.forall₂_arguments (h : s.Requalified s') :
    List.Forall₂ Requalified s.arguments s'.arguments := by
  cases h with
  | mk _ _ harguments => exact harguments

theorem sameness_zero : sameness 0 s t = [s.eqIgnoringNullability t] := rfl

theorem sameness_whole (h : s.areContainers t = false) :
    sameness (inner + 1) s t = [s.eqIgnoringNullability t] := by
  rw [sameness, compared, h]
  rfl

/-- Containers are compared argument by argument while there is a level left. -/
theorem sameness_containers (h : s.areContainers t = true) :
    sameness (inner + 1) s t =
      (s.arguments.zip t.arguments).flatMap fun p => sameness inner p.1 p.2 := by
  rw [sameness, compared, if_pos h, List.map_flatMap]
  rfl

/-- Types that are the same but for outer null are not taken whole. -/
theorem not_takenWhole_of_eqIgnoringNullability (h : s.eqIgnoringNullability t = true) :
    ¬ s.TakenWhole t := by
  have heq : s.toNonNull = t.toNonNull := eqIgnoringNullability_iff.mp h
  have hname : s.toNonNull.simpleName = t.toNonNull.simpleName := congrArg simpleName heq
  have hlength : s.toNonNull.arguments.length = t.toNonNull.arguments.length :=
    congrArg (·.arguments.length) heq
  exact not_takenWhole_of_sameShape ⟨hname, hlength⟩

end TypeRef

/-- The marks of two things tell whether both are possible or neither: if the marks are the same,
one is possible exactly if the other is, and if both are possible, the marks are the same. -/
structure Discerns (marks marks' : List Bool) (possible possible' : Prop) : Prop where
  length : marks.length = marks'.length
  iff_of_eq : marks = marks' → (possible ↔ possible')
  eq_of_both : possible → possible' → marks = marks'

namespace Discerns

variable {marks marks' more more' : List Bool} {P P' Q Q' : Prop}

theorem and_left (hQ : Q ↔ Q') (h : Discerns marks marks' P P') :
    Discerns marks marks' (Q ∧ P) (Q' ∧ P') where
  length := h.length
  iff_of_eq heq := and_congr hQ (h.iff_of_eq heq)
  eq_of_both hP hP' := h.eq_of_both hP.2 hP'.2

/-- Marks that discern two things each discern both together. -/
theorem append (h : Discerns marks marks' P P') (hmore : Discerns more more' Q Q') :
    Discerns (marks ++ more) (marks' ++ more') (P ∧ Q) (P' ∧ Q') where
  length := by rw [List.length_append, List.length_append, h.length, hmore.length]
  iff_of_eq heq := by
    obtain ⟨hmarks, hrest⟩ := List.append_inj heq h.length
    exact and_congr (h.iff_of_eq hmarks) (hmore.iff_of_eq hrest)
  eq_of_both hboth hboth' := by
    rw [h.eq_of_both hboth.1 hboth'.1, hmore.eq_of_both hboth.2 hboth'.2]

/-- What is marked has nothing else that makes it possible. -/
theorem singleton {mark mark' : Bool} (hQ : Q ↔ Q') (hmark : mark = true → ¬ Q)
    (hmark' : mark' = true → ¬ Q') :
    Discerns [mark] [mark'] (mark = true ∨ Q) (mark' = true ∨ Q') where
  length := rfl
  iff_of_eq heq := by
    rw [List.cons.inj heq |>.1, hQ]
  eq_of_both h h' := by
    by_cases hboth : Q
    · have hoff : mark = false := Bool.eq_false_of_not_eq_true fun hon => hmark hon hboth
      have hoff' : mark' = false :=
        Bool.eq_false_of_not_eq_true fun hon => hmark' hon (hQ.mp hboth)
      rw [hoff, hoff']
    · rw [h.resolve_right hboth, h'.resolve_right (mt hQ.mpr hboth)]

theorem flatMap {α : Type} {f : α → List Bool} {possible : α → Prop} {as as' : List α}
    (h : List.Forall₂ (fun a a' => Discerns (f a) (f a') (possible a) (possible a')) as as') :
    Discerns (as.flatMap f) (as'.flatMap f) (∀ a ∈ as, possible a) (∀ a ∈ as', possible a) := by
  induction h with
  | nil => exact ⟨rfl, fun _ => by simp, fun _ _ => rfl⟩
  | cons hfirst _ ih =>
    rw [List.flatMap_cons, List.flatMap_cons, List.forall_mem_cons, List.forall_mem_cons]
    exact hfirst.append ih

end Discerns

theorem forall₂_zip {α β : Type} {R : α → α → Prop} {S : β → β → Prop} {as as' : List α}
    {bs bs' : List β} (has : List.Forall₂ R as as') (hbs : List.Forall₂ S bs bs') :
    List.Forall₂ (fun p p' => R p.1 p'.1 ∧ S p.2 p'.2) (as.zip bs) (as'.zip bs') := by
  induction has generalizing bs bs' with
  | nil => exact .nil
  | cons ha _ ih =>
    cases hbs with
    | nil => exact .nil
    | cons hb hrest => exact .cons ⟨ha, hb⟩ (ih hrest)

namespace Resolver

variable {enforceNotNull : Bool} {s s' t t' : TypeRef}

/-- Whether null is in the way does not depend on qualifiers. -/
theorem nullAdmitted_congr (hs : s.Requalified s') (ht : t.Requalified t') :
    NullAdmitted enforceNotNull s t ↔ NullAdmitted enforceNotNull s' t' := by
  rw [NullAdmitted, NullAdmitted, hs.nullable_eq, ht.nullable_eq]

/-- The induction is on the levels. Qualifiers do not change what is a container, and so the same
pairs are compared. -/
theorem discerns_finds (enforceNotNull : Bool) (levels : Nat) (hs : s.Requalified s')
    (ht : t.Requalified t') :
    Discerns (TypeRef.sameness levels s t) (TypeRef.sameness levels s' t')
      (Finds ⟨.standard, enforceNotNull⟩ levels s t)
      (Finds ⟨.standard, enforceNotNull⟩ levels s' t') := by
  induction levels generalizing s s' t t' with
  | zero =>
    have hmarks : Discerns [s.eqIgnoringNullability t] [s'.eqIgnoringNullability t']
        (s.eqIgnoringNullability t = true ∨ False) (s'.eqIgnoringNullability t' = true ∨ False) :=
      .singleton Iff.rfl (fun _ => id) (fun _ => id)
    simp only [or_false, TypeRef.eqIgnoringNullability_iff] at hmarks
    rw [TypeRef.sameness_zero, TypeRef.sameness_zero, finds_zero_iff, finds_zero_iff]
    exact hmarks.and_left (nullAdmitted_congr hs ht)
  | succ inner ih =>
    have hcontainers := TypeRef.areContainers_congr hs.sameShape ht.sameShape
    cases h : s.areContainers t with
    | true =>
      have h' : s'.areContainers t' = true := hcontainers.symm.trans h
      rw [TypeRef.sameness_containers h, TypeRef.sameness_containers h', finds_containers_iff h,
        finds_containers_iff h']
      apply Discerns.and_left (nullAdmitted_congr hs ht)
      apply Discerns.flatMap
      -- the arguments of both are paired in the same way, and each pair is one level further in
      have hpairs := forall₂_zip hs.forall₂_arguments ht.forall₂_arguments
      exact hpairs.imp fun _ _ hp => ih hp.1 hp.2
    | false =>
      -- what is taken as a whole is taken by its shape, and never between the same types
      have h' : s'.areContainers t' = false := hcontainers.symm.trans h
      have hmarks : Discerns [s.eqIgnoringNullability t] [s'.eqIgnoringNullability t']
          (s.eqIgnoringNullability t = true ∨ s.TakenWhole t)
          (s'.eqIgnoringNullability t' = true ∨ s'.TakenWhole t') :=
        .singleton (TypeRef.takenWhole_congr hs.sameShape ht.sameShape)
          TypeRef.not_takenWhole_of_eqIgnoringNullability
          TypeRef.not_takenWhole_of_eqIgnoringNullability
      simp only [TypeRef.eqIgnoringNullability_iff] at hmarks
      rw [TypeRef.sameness_whole h, TypeRef.sameness_whole h', finds_whole_iff h,
        finds_whole_iff h']
      exact hmarks.and_left (nullAdmitted_congr hs ht)

/-- Other qualifiers change nothing as long as they keep which of the compared types are the same.
Where they do not keep it, one of the two conversions fails. -/
theorem resolve_requalified (enforceNotNull : Bool) (s s' t t' : TypeRef)
    (hs : s.Requalified s') (ht : t.Requalified t') :
    (TypeRef.sameness maxLevels s t = TypeRef.sameness maxLevels s' t' →
      ((∃ step, resolve ⟨.standard, enforceNotNull⟩ s t = .ok step) ↔
        ∃ step, resolve ⟨.standard, enforceNotNull⟩ s' t' = .ok step)) ∧
    ((∃ step, resolve ⟨.standard, enforceNotNull⟩ s t = .ok step) →
      (∃ step, resolve ⟨.standard, enforceNotNull⟩ s' t' = .ok step) →
      TypeRef.sameness maxLevels s t = TypeRef.sameness maxLevels s' t') := by
  have hdiscerns := discerns_finds enforceNotNull maxLevels hs ht
  exact ⟨hdiscerns.iff_of_eq, hdiscerns.eq_of_both⟩

end Resolver

namespace Sample

def count : TypeRef := { name := "Int" }

def kotlinCount : TypeRef := { name := "kotlin.Int" }

theorem count_requalified : count.Requalified kotlinCount :=
  .mk false (by decide) .nil

/-- With a qualifier on one side only the types are no longer the same, and no converter between
numbers is for two of the same simple name. -/
theorem count_unconvertible :
    count.isNumeric = true ∧ count.Requalified kotlinCount ∧ count.Requalified count ∧
      (∃ step, Resolver.resolve ⟨.standard, false⟩ count count = .ok step) ∧
      ¬ ∃ step, Resolver.resolve ⟨.standard, false⟩ kotlinCount count = .ok step := by
  have hrefused : Resolver.resolve ⟨.standard, false⟩ kotlinCount count =
      .error (.noConverter kotlinCount count) := by rfl
  refine ⟨by decide, count_requalified, .mk false rfl .nil, ⟨.direct count count .none, by rfl⟩, ?_⟩
  rintro ⟨step, hstep⟩
  rw [hrefused] at hstep
  cases hstep

def boxesOf (container name : String) : TypeRef :=
  { name := container, arguments := [{ name }] }

def stockStep : ConversionStep where
  source := { name := "Map", arguments := [kotlinCount, boxesOf "List" "Box"] }
  target := { name := "MutableMap", arguments := [kotlinCount, boxesOf "Set" "Box"] }
  nullHandling := .none
  converter := some ⟨4, "MapToMap", 3000⟩
  elements :=
    [.direct kotlinCount kotlinCount .none,
      { source := boxesOf "List" "Box"
        target := boxesOf "Set" "Box"
        nullHandling := .none
        converter := some ⟨3, "IterableToIterable", 3000⟩
        elements := [.direct { name := "Box" } { name := "Box" } .none] }]

def lists : TypeRef :=
  { name := "kotlin.Map", arguments := [count, boxesOf "kotlin.List" "Box"] }

def sets : TypeRef :=
  { name := "MutableMap", arguments := [count, boxesOf "kotlin.Set" "Box"] }

theorem requalified_boxesOf {container container' : String}
    (h : Text.simpleName container = Text.simpleName container') :
    (boxesOf container "Box").Requalified (boxesOf container' "Box") :=
  .mk false h (.cons (.mk false rfl .nil) .nil)

theorem kotlinCount_requalified : kotlinCount.Requalified count :=
  .mk false (by decide) .nil

/-- The qualifiers of the containers do not matter, and those of the keys are changed alike. -/
theorem stock_requalified :
    stockStep.source.Requalified lists ∧ stockStep.target.Requalified sets ∧
      TypeRef.sameness 2 stockStep.source stockStep.target = TypeRef.sameness 2 lists sets ∧
      Resolver.resolve ⟨.standard, false⟩ stockStep.source stockStep.target = .ok stockStep ∧
      ∃ step, Resolver.resolve ⟨.standard, false⟩ lists sets = .ok step := by
  have hs : stockStep.source.Requalified lists :=
    .mk false (by decide)
      (.cons kotlinCount_requalified (.cons (requalified_boxesOf (by decide)) .nil))
  have ht : stockStep.target.Requalified sets :=
    .mk false rfl
      (.cons kotlinCount_requalified (.cons (requalified_boxesOf (by decide)) .nil))
  have hsame : TypeRef.sameness 2 stockStep.source stockStep.target =
      TypeRef.sameness 2 lists sets := by decide
  have hstock : Resolver.resolve ⟨.standard, false⟩ stockStep.source stockStep.target =
      .ok stockStep := by rfl
  obtain ⟨hiff, _⟩ := Resolver.resolve_requalified false _ _ _ _ hs ht
  exact ⟨hs, ht, hsame, hstock, (hiff hsame).mp ⟨stockStep, hstock⟩⟩

end Sample

end ObjectMapping
