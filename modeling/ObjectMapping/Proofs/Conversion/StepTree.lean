import ObjectMapping.Plan.Step

namespace ObjectMapping.ConversionStep

/-- `NodeAt d n s`: the step `n` stands in the tree of `s` inside `d` others. -/
inductive NodeAt : Nat → ConversionStep → ConversionStep → Prop
  | root (s : ConversionStep) : NodeAt 0 s s
  | inside {d : Nat} {n e s : ConversionStep} (he : e ∈ s.elements) (hn : NodeAt d n e) :
      NodeAt (d + 1) n s

/-- `Path p s`: the steps `p` lead from the root of the tree of `s` to one of its leaves. -/
inductive Path : List ConversionStep → ConversionStep → Prop
  | leaf {s : ConversionStep} (hs : s.elements = []) : Path [s] s
  | inside {p : List ConversionStep} {e s : ConversionStep} (he : e ∈ s.elements) (hp : Path p e) :
      Path (s :: p) s

theorem anyUnwraps_iff {steps : List ConversionStep} :
    anyUnwraps steps = true ↔ ∃ s ∈ steps, s.unwraps = true := by
  induction steps with
  | nil => simp [anyUnwraps]
  | cons s rest ih => simp [anyUnwraps, ih]

/-- A step unwraps at its root or inside one of its elements. -/
theorem unwraps_iff_root_or_element (s : ConversionStep) :
    s.unwraps = true ↔ s.nullHandling = .unsafeUnwrap ∨ ∃ e ∈ s.elements, e.unwraps = true := by
  cases s
  rw [unwraps, Bool.or_eq_true, decide_eq_true_iff, anyUnwraps_iff]

theorem unwraps_of_nodeAt {d : Nat} {n s : ConversionStep} (hn : NodeAt d n s)
    (h : n.nullHandling = .unsafeUnwrap) : s.unwraps = true := by
  induction hn with
  | root s => exact (unwraps_iff_root_or_element s).mpr (Or.inl h)
  | inside he _ ih => exact (unwraps_iff_root_or_element _).mpr (Or.inr ⟨_, he, ih h⟩)

/-- A step that unwraps has a node at which it does. -/
theorem exists_nodeAt_of_unwraps (s : ConversionStep) (h : s.unwraps = true) :
    ∃ d n, NodeAt d n s ∧ n.nullHandling = .unsafeUnwrap := by
  rcases (unwraps_iff_root_or_element s).mp h with hroot | ⟨e, he, hu⟩
  · exact ⟨0, s, .root s, hroot⟩
  · obtain ⟨d, n, hn, hnull⟩ := exists_nodeAt_of_unwraps e hu
    exact ⟨d + 1, n, .inside he hn, hnull⟩
termination_by sizeOf s
decreasing_by
  -- an element is smaller than the step around it
  have hlt := List.sizeOf_lt_of_mem he
  cases s
  simp only [ConversionStep.mk.sizeOf_spec]
  simp only at hlt
  omega

/-- A tree unwraps exactly if one of its nodes does, however deep. -/
theorem unwraps_iff (s : ConversionStep) :
    s.unwraps = true ↔ ∃ d n, NodeAt d n s ∧ n.nullHandling = .unsafeUnwrap := by
  constructor
  · exact exists_nodeAt_of_unwraps s
  · rintro ⟨d, n, hn, h⟩
    exact unwraps_of_nodeAt hn h

end ObjectMapping.ConversionStep
