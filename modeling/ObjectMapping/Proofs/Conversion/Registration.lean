import ObjectMapping.Proofs.Conversion.Derivation
import ObjectMapping.Proofs.Conversion.Leading

namespace ObjectMapping

/-- Both fail with related errors, or both succeed with related values. -/
inductive Agree {ε α : Type} (E : ε → ε → Prop) (R : α → α → Prop) :
    Except ε α → Except ε α → Prop
  | error {e e' : ε} (h : E e e') : Agree E R (.error e) (.error e')
  | ok {a a' : α} (h : R a a') : Agree E R (.ok a) (.ok a')

def ConverterRef.unplaced (c : ConverterRef) : ConverterRef :=
  { c with index := 0 }

namespace ConversionStep

mutual

/-- The step with every converter as if it were registered first, at all levels. -/
def unplaced : ConversionStep → ConversionStep
  | ⟨source, target, nullHandling, converter, elements⟩ =>
    ⟨source, target, nullHandling, converter.map ConverterRef.unplaced, unplacedAll elements⟩

def unplacedAll : List ConversionStep → List ConversionStep
  | [] => []
  | s :: rest => unplaced s :: unplacedAll rest

end

theorem unplacedAll_eq_map (steps : List ConversionStep) :
    unplacedAll steps = steps.map unplaced := by
  induction steps with
  | nil => rfl
  | cons s rest ih => rw [unplacedAll, ih, List.map_cons]

def Alike (s s' : ConversionStep) : Prop :=
  s.unplaced = s'.unplaced

end ConversionStep

inductive UnresolvedReason.Alike : UnresolvedReason → UnresolvedReason → Prop
  | refl (reason : UnresolvedReason) : Alike reason reason
  | ambiguous (source target : TypeRef) {names names' : List String} (h : names.Perm names') :
      Alike (.ambiguousConverter source target names) (.ambiguousConverter source target names')

namespace Converter

/-- What a converter does with elements does not depend on what they are. -/
theorem accepts_map (φ : ConversionStep → ConversionStep) (f : ElementResolver) (c : Converter)
    (s t : TypeRef) :
    c.accepts (fun a b => (f a b).map φ) s t = (c.accepts f s t).map (List.map φ) := by
  by_cases hi : c = builtIn .iterableToIterable
  · subst hi
    simp only [accepts, BuiltIn.accepts]
    split
    · split
      · rename_i a b _ _
        cases f a b <;> rfl
      · rfl
    · rfl
  by_cases hm : c = builtIn .mapToMap
  · subst hm
    simp only [accepts, BuiltIn.accepts]
    split
    · split
      · rename_i k v k' v' _ _
        cases f k k' <;> cases f v v' <;> rfl
      · rfl
    · rfl
  rw [accepts_eq_of_leaf hi hm, accepts_eq_of_leaf hi hm]
  split <;> rfl

end Converter

namespace Candidate

def unplaced (c : Candidate) : Candidate where
  converter := c.converter.unplaced
  elements := c.elements.map ConversionStep.unplaced

end Candidate

namespace Registry

variable {g g' : Registry} {f f' : ElementResolver}

/-- But for their places the candidates are found converter by converter. -/
theorem map_unplaced_accepting (g : Registry) (f : ElementResolver) (s t : TypeRef) :
    (g.accepting f s t).map Candidate.unplaced =
      g.converters.filterMap fun c =>
        (c.accepts (fun a b => (f a b).map ConversionStep.unplaced) s t).map
          fun elements => ⟨c.ref 0, elements⟩ := by
  conv_rhs => rw [← List.zipIdx_map_fst 0 g.converters, List.filterMap_map]
  rw [accepting, List.map_filterMap]
  congr 1
  funext p
  obtain ⟨c, i⟩ := p
  simp only [Function.comp_apply, Converter.accepts_map, Option.map_map]
  rfl

/-- The same converters accept in whatever order they are registered, in places of their own. -/
theorem accepting_perm (hg : g.converters.Perm g'.converters)
    (hf : ∀ a b, (f a b).map ConversionStep.unplaced = (f' a b).map ConversionStep.unplaced)
    (s t : TypeRef) :
    ((g.accepting f s t).map Candidate.unplaced).Perm
      ((g'.accepting f' s t).map Candidate.unplaced) := by
  rw [map_unplaced_accepting, map_unplaced_accepting]
  simp only [hf]
  exact hg.filterMap _

end Registry

namespace Resolver

structure Permuted (r r' : Resolver) : Prop where
  converters : r.registry.converters.Perm r'.registry.converters
  enforceNotNull : r.enforceNotNull = r'.enforceNotNull

variable {r r' : Resolver} {s t : TypeRef}

theorem verdict_alike (nullHandling : NullHandling) {l l' : List Candidate}
    (h : (l.map Candidate.unplaced).Perm (l'.map Candidate.unplaced)) :
    Agree UnresolvedReason.Alike ConversionStep.Alike (verdict s t nullHandling l)
      (verdict s t nullHandling l') := by
  have hlen : l.length = l'.length := by simpa using h.length_eq
  have hnames : (l.map (·.converter.name)).Perm (l'.map (·.converter.name)) := by
    have hmap := h.map (·.converter.name)
    rwa [List.map_map, List.map_map] at hmap
  rcases l with _ | ⟨c, _ | ⟨d, rest⟩⟩ <;> rcases l' with _ | ⟨c', _ | ⟨d', rest'⟩⟩ <;>
    try simp at hlen
  case nil.nil => exact .error (.refl _)
  case cons.nil.cons.nil =>
    have hc : c.unplaced = c'.unplaced := by simpa using h
    have hconverter : c.converter.unplaced = c'.converter.unplaced :=
      congrArg Candidate.converter hc
    have helements : c.elements.map ConversionStep.unplaced =
        c'.elements.map ConversionStep.unplaced := congrArg Candidate.elements hc
    apply Agree.ok
    simp only [ConversionStep.Alike, ConversionStep.unplaced, Option.map_some,
      ConversionStep.unplacedAll_eq_map, hconverter, helements]
  case cons.cons.cons.cons => exact .error (.ambiguous s t hnames)

theorem choose_alike (h : r.Permuted r') {f f' : ElementResolver}
    (hf : ∀ a b, (f a b).map ConversionStep.unplaced = (f' a b).map ConversionStep.unplaced)
    (nullHandling : NullHandling) (a b : TypeRef) :
    Agree UnresolvedReason.Alike ConversionStep.Alike
      (choose s t nullHandling (r.registry.candidates f a b))
      (choose s t nullHandling (r'.registry.candidates f' a b)) := by
  rw [choose_eq_verdict (Registry.candidates_pairwise_before _ _ _ _),
    choose_eq_verdict (Registry.candidates_pairwise_before _ _ _ _)]
  apply verdict_alike
  have hsort (g : Registry) (f : ElementResolver) :
      ((Candidate.leading (g.candidates f a b)).map Candidate.unplaced).Perm
        (Candidate.leading ((g.accepting f a b).map Candidate.unplaced)) := by
    have hpriority (c : Candidate) : c.unplaced.converter.priority = c.converter.priority := rfl
    rw [Candidate.leading_map hpriority]
    exact (Candidate.leading_perm (Candidate.sort_perm _)).map _
  have haccepting := Candidate.leading_perm (Registry.accepting_perm h.converters hf a b)
  exact (hsort _ f).trans (haccepting.trans (hsort _ f').symm)

theorem map_unplaced_of_agree {x x' : Except UnresolvedReason ConversionStep}
    (h : Agree UnresolvedReason.Alike ConversionStep.Alike x x') :
    x.toOption.map ConversionStep.unplaced = x'.toOption.map ConversionStep.unplaced := by
  cases h with
  | error _ => rfl
  | ok h => exact congrArg some h

/-- The order of registration does not decide about conversions. The induction is on the levels:
elements are found one level further in, where a tie makes the container inapplicable whatever
the order of the names in it. -/
theorem resolveWithin_alike (h : r.Permuted r') (levels : Nat) (s t : TypeRef) :
    Agree UnresolvedReason.Alike ConversionStep.Alike (r.resolveWithin levels s t)
      (r'.resolveWithin levels s t) := by
  by_cases hst : s = t
  · rw [resolveWithin, resolveWithin, if_pos hst, if_pos hst]
    exact .ok rfl
  have hbridge : r.bridge s t = r'.bridge s t := by rw [bridge, bridge, h.enforceNotNull]
  rw [resolveWithin, resolveWithin, if_neg hst, if_neg hst, hbridge]
  cases r'.bridge s t with
  | error reason => exact .error (.refl reason)
  | ok nullHandling =>
    by_cases heq : s.eqIgnoringNullability t = true
    · simp only [heq, if_true]
      exact .ok rfl
    simp only [heq]
    match levels with
    | 0 => exact .error (.refl _)
    | inner + 1 =>
      refine choose_alike h (fun a b => ?_) nullHandling s.toNonNull t.toNonNull
      exact map_unplaced_of_agree (resolveWithin_alike h inner a b)

end Resolver

end ObjectMapping
