import ObjectMapping.Proofs.Conversion.Exclusivity

/-!
What the built-in converters convert. They know types by their shape, which is the simple name and
the number of arguments. Two containers of one kind convert exactly if their elements do. Any other
two types have to be the same but for outer null, or taken whole by a converter without elements.
-/

namespace ObjectMapping

namespace TypeRef

structure SameShape (s t : TypeRef) : Prop where
  simpleName : s.simpleName = t.simpleName
  length : s.arguments.length = t.arguments.length

/-- Both types are containers of one kind, either over one type of elements each, or from one type
of keys to one of values each. -/
def areContainers (s t : TypeRef) : Bool :=
  (s.isIterable && t.isIterable && s.arguments.length == 1 && t.arguments.length == 1) ||
    (s.isMap && t.isMap && s.arguments.length == 2 && t.arguments.length == 2)

def TakenWhole (s t : TypeRef) : Prop :=
  ∃ rule : BuiltIn, rule ≠ .iterableToIterable ∧ rule ≠ .mapToMap ∧ rule.takes s t = true

variable {s s' t t' : TypeRef}

theorem isPlain_congr (h : s.SameShape s') (name : String) : s.isPlain name = s'.isPlain name := by
  rw [Bool.eq_iff_iff, isPlain_iff, isPlain_iff, ← List.length_eq_zero_iff,
    ← List.length_eq_zero_iff, h.simpleName, h.length]

theorem isNumeric_congr (h : s.SameShape s') : s.isNumeric = s'.isNumeric := by
  rw [Bool.eq_iff_iff, isNumeric_iff, isNumeric_iff, ← List.length_eq_zero_iff,
    ← List.length_eq_zero_iff, h.simpleName, h.length]

theorem isIterable_congr (h : s.SameShape s') : s.isIterable = s'.isIterable := by
  rw [isIterable, isIterable, h.simpleName]

theorem isMap_congr (h : s.SameShape s') : s.isMap = s'.isMap := by
  rw [isMap, isMap, h.simpleName]

/-- Which converters are for two types depends on their shapes alone. -/
theorem takes_congr (hs : s.SameShape s') (ht : t.SameShape t') (rule : BuiltIn) :
    rule.takes s t = rule.takes s' t' := by
  cases rule <;>
    simp only [BuiltIn.takes, isNumeric_congr hs, isNumeric_congr ht, isPlain_congr hs,
      isPlain_congr ht, isIterable_congr hs, isIterable_congr ht, isMap_congr hs, isMap_congr ht,
      hs.simpleName, ht.simpleName]

/-- Whether two types are taken as a whole depends on their shapes alone. -/
theorem takenWhole_congr (hs : s.SameShape s') (ht : t.SameShape t') :
    s.TakenWhole t ↔ s'.TakenWhole t' := by
  simp only [TakenWhole, takes_congr hs ht]

theorem areContainers_congr (hs : s.SameShape s') (ht : t.SameShape t') :
    s.areContainers t = s'.areContainers t' := by
  simp only [areContainers, isIterable_congr hs, isIterable_congr ht, isMap_congr hs,
    isMap_congr ht, hs.length, ht.length]

theorem areContainers_iff :
    s.areContainers t = true ↔
      (BuiltIn.takes s t .iterableToIterable = true ∧ s.arguments.length = 1 ∧
          t.arguments.length = 1) ∨
        (BuiltIn.takes s t .mapToMap = true ∧ s.arguments.length = 2 ∧
          t.arguments.length = 2) := by
  simp [areContainers, BuiltIn.takes, and_assoc]

/-- Containers are for the two converters that have elements. -/
theorem not_takenWhole_of_areContainers (h : s.areContainers t = true) : ¬ s.TakenWhole t := by
  rintro ⟨rule, hi, hm, htakes⟩
  have honly : rule = BuiltIn.only s.simpleName t.simpleName := BuiltIn.eq_only_of_takes htakes
  rcases areContainers_iff.mp h with ⟨hiterable, _⟩ | ⟨hmap, _⟩
  · exact hi (honly.trans (BuiltIn.eq_only_of_takes hiterable).symm)
  · exact hm (honly.trans (BuiltIn.eq_only_of_takes hmap).symm)

/-- No type is taken whole to one of its own shape. -/
theorem not_takenWhole_of_sameShape (h : s.SameShape t) : ¬ s.TakenWhole t := by
  rintro ⟨rule, hi, hm, htakes⟩
  rw [takes_congr h ⟨rfl, rfl⟩] at htakes
  cases rule with
  | numberToNumber => simp [BuiltIn.takes] at htakes
  | textToNumber =>
    simp only [BuiltIn.takes, Bool.and_eq_true, isPlain_iff, isNumeric_iff] at htakes
    obtain ⟨⟨_, htext⟩, _, hnumber⟩ := htakes
    rw [htext] at hnumber
    exact absurd hnumber (by decide)
  | textToBoolean =>
    simp only [BuiltIn.takes, Bool.and_eq_true, isPlain_iff] at htakes
    obtain ⟨⟨_, htext⟩, _, hboolean⟩ := htakes
    rw [htext] at hboolean
    exact absurd hboolean (by decide)
  | iterableToIterable => exact hi rfl
  | mapToMap => exact hm rfl
  | anyToText => simp [BuiltIn.takes] at htakes
  | anyToAny => simp [BuiltIn.takes] at htakes

end TypeRef

namespace Converter

variable {resolve : ElementResolver} {s t : TypeRef} {rule : BuiltIn}

/-- The elements of a converter are found if there are none, or if the types are containers and
something is found for each pair of their arguments. -/
theorem exists_accepts_iff :
    (∃ rule es, (builtIn rule).accepts resolve s t = some es) ↔
      s.TakenWhole t ∨ (s.areContainers t = true ∧
        ∀ p ∈ s.arguments.zip t.arguments, ∃ e, resolve p.1 p.2 = some e) := by
  simp only [accepts_iff]
  constructor
  · rintro ⟨rule, es, htakes, helements⟩
    have htakes' : rule.takes s t = true := htakes
    cases helements with
    | iterable hs ht he =>
      refine Or.inr ⟨TypeRef.areContainers_iff.mpr (Or.inl ⟨htakes', ?_, ?_⟩), ?_⟩
      · rw [hs, List.length_singleton]
      · rw [ht, List.length_singleton]
      · rw [hs, ht]
        intro p hp
        rw [List.mem_singleton.mp hp]
        exact ⟨_, he⟩
    | map hs ht hk hv =>
      refine Or.inr ⟨TypeRef.areContainers_iff.mpr (Or.inr ⟨htakes', ?_, ?_⟩), ?_⟩
      · rw [hs]
        rfl
      · rw [ht]
        rfl
      · rw [hs, ht]
        intro p hp
        rcases List.mem_cons.mp hp with rfl | hp
        · exact ⟨_, hk⟩
        · rw [List.mem_singleton.mp hp]
          exact ⟨_, hv⟩
    | leaf hi hm =>
      exact Or.inl ⟨rule, fun h => hi (congrArg builtIn h), fun h => hm (congrArg builtIn h),
        htakes'⟩
  -- the number of arguments tells which of the two converters between containers it is
  · rintro (⟨rule, hi, hm, htakes⟩ | ⟨hcontainers, hfound⟩)
    · exact ⟨rule, [], htakes, .leaf (mt builtIn.inj hi) (mt builtIn.inj hm)⟩
    · rcases TypeRef.areContainers_iff.mp hcontainers with ⟨htakes, hs, ht⟩ | ⟨htakes, hs, ht⟩
      · obtain ⟨a, ha⟩ := List.length_eq_one_iff.mp hs
        obtain ⟨b, hb⟩ := List.length_eq_one_iff.mp ht
        rw [ha, hb] at hfound
        obtain ⟨e, he⟩ := hfound (a, b) List.mem_cons_self
        exact ⟨.iterableToIterable, [e], htakes, .iterable ha hb he⟩
      · obtain ⟨k, v, hkv⟩ := List.length_eq_two.mp hs
        obtain ⟨k', v', hkv'⟩ := List.length_eq_two.mp ht
        rw [hkv, hkv'] at hfound
        obtain ⟨e, he⟩ := hfound (k, k') List.mem_cons_self
        obtain ⟨e', he'⟩ := hfound (v, v') (List.mem_cons_of_mem _ List.mem_cons_self)
        exact ⟨.mapToMap, [e, e'], htakes, .map hkv hkv' he he'⟩

end Converter

namespace Registry

variable {resolve : ElementResolver} {s t : TypeRef}

theorem builtIn_mem_standard (rule : BuiltIn) : Converter.builtIn rule ∈ standard.converters := by
  have hall : rule ∈ BuiltIn.all := by cases rule <;> decide
  exact List.mem_map_of_mem hall

theorem exists_mem_accepting_standard_iff :
    (∃ c, c ∈ standard.accepting resolve s t) ↔
      ∃ rule es, (Converter.builtIn rule).accepts resolve s t = some es := by
  constructor
  · rintro ⟨c, hc⟩
    obtain ⟨conv, _, hconv, _, hacc⟩ := mem_accepting.mp hc
    obtain ⟨rule, rfl⟩ := standard_builtInOnce.builtIn conv (List.mem_of_getElem? hconv)
    exact ⟨rule, c.elements, hacc⟩
  · rintro ⟨rule, es, hacc⟩
    obtain ⟨i, hi⟩ := List.mem_iff_getElem?.mp (builtIn_mem_standard rule)
    exact ⟨⟨(Converter.builtIn rule).ref i, es⟩, mem_accepting.mpr ⟨_, i, hi, rfl, hacc⟩⟩

end Registry

namespace Resolver

variable {r : Resolver} {g : Registry} {enforceNotNull : Bool} {inner levels : Nat} {s t : TypeRef}

def Finds (r : Resolver) (levels : Nat) (s t : TypeRef) : Prop :=
  ∃ step, r.resolveWithin levels s t = .ok step

def NullAdmitted (enforceNotNull : Bool) (s t : TypeRef) : Prop :=
  s.nullable = true → t.nullable = false → enforceNotNull = true

/-- Null can be dealt with exactly if it is not in the way. -/
theorem exists_bridge_iff :
    (∃ nullHandling, r.bridge s t = .ok nullHandling) ↔ NullAdmitted r.enforceNotNull s t := by
  constructor
  · rintro ⟨nullHandling, hb⟩ hs ht
    by_contra hr
    rw [bridge_eq_error_iff.mpr ⟨hs, ht, Bool.eq_false_of_not_eq_true hr, rfl⟩] at hb
    cases hb
  · exact exists_bridge

theorem Finds.nullAdmitted (h : r.Finds levels s t) : NullAdmitted r.enforceNotNull s t := by
  obtain ⟨step, hstep⟩ := h
  cases resolveWithin_eq_ok_iff.mp hstep with
  | same =>
    intro hs hs'
    rw [hs] at hs'
    cases hs'
  | bridged _ _ hb _ => exact exists_bridge_iff.mp ⟨_, hb⟩
  | converted hb _ _ => exact exists_bridge_iff.mp ⟨_, hb⟩

/-- Without levels only types that agree but for outer null are converted. -/
theorem finds_zero_iff :
    r.Finds 0 s t ↔ NullAdmitted r.enforceNotNull s t ∧ s.toNonNull = t.toNonNull := by
  constructor
  · intro h
    refine ⟨h.nullAdmitted, ?_⟩
    obtain ⟨step, hstep⟩ := h
    cases resolveWithin_eq_ok_iff.mp hstep with
    | same => rfl
    | bridged _ _ _ heq => exact heq
  · rintro ⟨hnull, heq⟩
    obtain ⟨_, hb⟩ := exists_bridge_iff.mpr hnull
    exact exists_of_toNonNull_eq 0 heq hb

/-- Converters that are never tied convert whatever one of them accepts. -/
theorem finds_succ_iff (hg : g.BuiltInOnce) :
    Finds ⟨g, enforceNotNull⟩ (inner + 1) s t ↔
      NullAdmitted enforceNotNull s t ∧ (s.toNonNull = t.toNonNull ∨
        ∃ c, c ∈ acceptingWithin ⟨g, enforceNotNull⟩ inner s t) := by
  constructor
  · intro h
    refine ⟨h.nullAdmitted, ?_⟩
    obtain ⟨step, hstep⟩ := h
    cases resolveWithin_eq_ok_iff.mp hstep with
    | same => exact Or.inl rfl
    | bridged _ _ _ heq => exact Or.inl heq
    | converted _ _ hbest => exact Or.inr ⟨_, hbest.mem⟩
  · rintro ⟨hnull, hor⟩
    obtain ⟨_, hb⟩ := exists_bridge_iff (r := ⟨g, enforceNotNull⟩).mpr hnull
    by_cases hne : s.toNonNull = t.toNonNull
    · exact exists_of_toNonNull_eq _ hne hb
    · obtain ⟨c, hc⟩ := hor.resolve_left hne
      have hbest : c.IsBest (acceptingWithin ⟨g, enforceNotNull⟩ inner s t) :=
        ⟨hc, fun d hd hother => absurd (hg.eq_of_mem_accepting hd hc) hother⟩
      exact ⟨_, resolveWithin_eq_ok_iff.mpr (.converted hb hne hbest)⟩

/-- Two types are accepted as a whole, or as containers all of whose arguments can be converted. -/
theorem exists_mem_acceptingWithin_iff :
    (∃ c, c ∈ acceptingWithin ⟨.standard, enforceNotNull⟩ inner s t) ↔
      s.TakenWhole t ∨ (s.areContainers t = true ∧
        ∀ p ∈ s.arguments.zip t.arguments, Finds ⟨.standard, enforceNotNull⟩ inner p.1 p.2) := by
  have hwhole : s.toNonNull.TakenWhole t.toNonNull ↔ s.TakenWhole t :=
    TypeRef.takenWhole_congr ⟨rfl, rfl⟩ ⟨rfl, rfl⟩
  rw [acceptingWithin, Registry.exists_mem_accepting_standard_iff, Converter.exists_accepts_iff,
    hwhole]
  simp only [elementsWithin_eq_some_iff, Finds]
  rfl

/-- Containers convert exactly if each pair of their arguments does. -/
theorem finds_containers_iff (h : s.areContainers t = true) :
    Finds ⟨.standard, enforceNotNull⟩ (inner + 1) s t ↔
      NullAdmitted enforceNotNull s t ∧
        ∀ p ∈ s.arguments.zip t.arguments, Finds ⟨.standard, enforceNotNull⟩ inner p.1 p.2 := by
  have hwhole := TypeRef.not_takenWhole_of_areContainers h
  rw [finds_succ_iff Registry.standard_builtInOnce, exists_mem_acceptingWithin_iff]
  constructor
  · rintro ⟨hnull, heq | htaken | ⟨_, hfound⟩⟩
    · refine ⟨hnull, ?_⟩
      -- the same containers have the same arguments
      have harguments : s.toNonNull.arguments = t.toNonNull.arguments :=
        congrArg TypeRef.arguments heq
      have hzip : s.arguments.zip t.arguments = t.arguments.map fun a => (a, a) := by
        rw [List.zip_eq_zipWith, ← List.zipWith_self]
        exact congrArg (List.zipWith Prod.mk · t.arguments) harguments
      intro p hp
      rw [hzip] at hp
      obtain ⟨a, _, rfl⟩ := List.mem_map.mp hp
      exact ⟨_, resolveWithin_eq_ok_iff.mpr (.same inner a)⟩
    · exact absurd htaken hwhole
    · exact ⟨hnull, hfound⟩
  · rintro ⟨hnull, hfound⟩
    exact ⟨hnull, Or.inr (Or.inr ⟨h, hfound⟩)⟩

/-- Other types have to be the same but for outer null, or taken whole. -/
theorem finds_whole_iff (h : s.areContainers t = false) :
    Finds ⟨.standard, enforceNotNull⟩ (inner + 1) s t ↔
      NullAdmitted enforceNotNull s t ∧ (s.toNonNull = t.toNonNull ∨ s.TakenWhole t) := by
  rw [finds_succ_iff Registry.standard_builtInOnce, exists_mem_acceptingWithin_iff, h]
  simp only [Bool.false_eq_true, false_and, or_false]

end Resolver

end ObjectMapping
