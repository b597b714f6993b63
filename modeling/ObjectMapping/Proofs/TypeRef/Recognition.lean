import Mathlib.Control.Monad.Basic
import ObjectMapping.Proofs.TypeRef.Completeness
import ObjectMapping.Proofs.TypeRef.Soundness

namespace ObjectMapping

namespace TypeRef

open Reader

/-- The reader takes exactly the texts of types within the limit. -/
theorem reads_iff_derives {limit : Nat} {x : List Char} {type : TypeRef} :
    (∃ p, Reads limit .initial x ⟨p, []⟩ ∧ p.type? = some type) ↔
      Derives x type ∧ type.nesting ≤ limit := by
  constructor
  · rintro ⟨p, hx, hp⟩
    exact hx.derives hp
  · rintro ⟨hderives, hlimit⟩
    exact hderives.reads [] (by simpa using hlimit)

/-- The grammar is unambiguous: with enough levels allowed, the reader goes only one way. -/
theorem Derives.unique {x : List Char} {s t : TypeRef} (hs : Derives x s) (ht : Derives x t) :
    s = t := by
  obtain ⟨p, hp, hps⟩ := reads_iff_derives.2 ⟨hs, Nat.le_max_left s.nesting t.nesting⟩
  obtain ⟨q, hq, hqt⟩ := reads_iff_derives.2 ⟨ht, Nat.le_max_right s.nesting t.nesting⟩
  cases hp.unique hq
  exact Option.some.inj (hps.symm.trans hqt)

/-- A text is read as a type exactly if it is a text for it, within the limit. -/
theorem readPattern_eq_ok_iff {input : String} {type : TypeRef} :
    readPattern input = .ok type ↔ Derives input.toList type ∧ type.nesting ≤ maxNesting := by
  rw [← reads_iff_derives, readPattern]
  split
  · rename_i hblank
    constructor
    · nofun
    · -- behind blanks a type still has to begin, so none may end there
      rintro ⟨p, hx, hp⟩
      have hstart : Reads maxNesting .initial input.toList .initial :=
        Blank.reads_start (List.all_eq_true.1 hblank) maxNesting []
      cases hx.unique hstart
      cases hp
  · exact run_eq_ok_iff

/-- A text is read exactly if the grammar derives it with at most 32 levels, and as the one tree
that it derives; any other text is an error. -/
theorem readPattern_recognises (input : String) :
    (∀ type, readPattern input = .ok type ↔ Derives input.toList type ∧ type.nesting ≤ 32) ∧
      (∀ s t, Derives input.toList s → Derives input.toList t → s = t) ∧
      ((¬∃ type, Derives input.toList type ∧ type.nesting ≤ 32) →
        ∃ e, readPattern input = .error e) := by
  refine ⟨fun _ => readPattern_eq_ok_iff, fun _ _ => Derives.unique, ?_⟩
  intro hnone
  cases hread : readPattern input with
  | error e => exact ⟨e, rfl⟩
  | ok type => exact absurd ⟨type, readPattern_eq_ok_iff.1 hread⟩ hnone

end TypeRef

namespace Sample

def spaced : String := " Map < String , List<Int?> > ? "

def spacedType : TypeRef :=
  ⟨"Map", [{ name := "String" }, { name := "List", arguments := [⟨"Int", [], true⟩] }], true⟩

def nested (levels : Nat) : String :=
  String.ofList ((List.replicate levels ['a', '<']).flatten ++ 'a' :: List.replicate levels '>')

open TypeRef in
theorem spaced_recognised :
    readPattern spaced = .ok spacedType ∧
      (∀ t, Derives spaced.toList t → t = spacedType) ∧
      (¬∃ type, Derives (nested 33).toList type ∧ type.nesting ≤ 32) ∧
      ∃ e, readPattern (nested 33) = .error e := by
  have hread : readPattern spaced = .ok spacedType := by decide +kernel
  obtain ⟨hiff, hunique, -⟩ := readPattern_recognises spaced
  obtain ⟨hdeep, -, herror⟩ := readPattern_recognises (nested 33)
  have hnone : ¬∃ type, Derives (nested 33).toList type ∧ type.nesting ≤ 32 := by
    rintro ⟨type, htype⟩
    have hok := (hdeep type).2 htype
    have hreal : readPattern (nested 33) = .error (.tooDeep (nested 33)) := by decide +kernel
    rw [hreal] at hok
    cases hok
  exact ⟨hread, fun t ht => hunique t spacedType ht ((hiff spacedType).1 hread).1, hnone,
    herror hnone⟩

end Sample

end ObjectMapping
