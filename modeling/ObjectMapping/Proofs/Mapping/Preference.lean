import ObjectMapping.Proofs.Mapping.Selection

namespace ObjectMapping.Construction

variable {plans : List PropertyPlan} {target : TypeDescriptor} {b : Constructor × Nat}

structure IsPreferred (plans : List PropertyPlan) (target : TypeDescriptor)
    (b : Constructor × Nat) : Prop where
  declared : target.constructors[b.2]? = some b.1
  satisfiable : isSatisfiable plans b.1 = true
  score_le : ∀ (i : Nat) (c : Constructor), target.constructors[i]? = some c →
    isSatisfiable plans c = true → score plans c ≤ score plans b.1
  score_lt : ∀ (i : Nat) (c : Constructor), target.constructors[i]? = some c →
    isSatisfiable plans c = true → i < b.2 → score plans c < score plans b.1

/-- Looking from the last to the first, a constructor takes the place of the best so far unless it
gets fewer values. -/
theorem foldr_better_first {l : List (Constructor × Nat)} (hl : l.Pairwise (·.2 < ·.2))
    (h : l.foldr (fun c later => some (better plans c later)) none = some b) :
    ∀ c ∈ l, score plans c.1 ≤ score plans b.1 ∧
      (c.2 < b.2 → score plans c.1 < score plans b.1) := by
  induction l generalizing b with
  | nil => cases h
  | cons first rest ih =>
    obtain ⟨hfirst, hrest⟩ := List.pairwise_cons.mp hl
    rw [List.foldr_cons] at h
    intro c hc
    cases hbest : rest.foldr (fun c later => some (better plans c later)) none with
    -- nothing behind the first is satisfiable, so there is nothing to compare with
    | none =>
      have hempty : rest = [] := by
        cases rest with
        | nil => rfl
        | cons => cases hbest
      rw [hbest] at h
      cases h
      rw [hempty, List.mem_singleton] at hc
      subst hc
      exact ⟨Nat.le_refl _, fun hlt => absurd hlt (Nat.lt_irrefl _)⟩
    | some later =>
      have hlater := ih hrest hbest
      rw [hbest, better] at h
      split at h
      · -- the later one stays, with more values than the first
        rename_i hlt
        cases h
        rcases List.mem_cons.mp hc with rfl | hc
        · exact ⟨Nat.le_of_lt hlt, fun _ => hlt⟩
        · exact hlater c hc
      · -- the first wins, and has a smaller place than all others
        rename_i hnlt
        cases h
        rcases List.mem_cons.mp hc with rfl | hc
        · exact ⟨Nat.le_refl _, fun hlt => absurd hlt (Nat.lt_irrefl _)⟩
        · have hle := (hlater c hc).1
          have hafter := hfirst c hc
          exact ⟨by omega, by omega⟩

/-- The best constructor is preferred to all others that are satisfiable. -/
theorem isPreferred_of_best? (h : best? plans target = some b) : IsPreferred plans target b := by
  have hmem {i : Nat} {c : Constructor} (hc : target.constructors[i]? = some c)
      (hsat : isSatisfiable plans c = true) :
      (c, i) ∈ target.constructors.zipIdx.filter fun c => isSatisfiable plans c.1 :=
    List.mem_filter.mpr ⟨List.mk_mem_zipIdx_iff_getElem?.mpr hc, hsat⟩
  have horder : target.constructors.zipIdx.Pairwise (·.2 < ·.2) := by
    rw [← List.pairwise_map, List.zipIdx_map_snd]
    exact List.pairwise_lt_range'
  have hfirst := foldr_better_first (horder.filter _) h
  obtain ⟨hb, hsat⟩ := best?_eq_some h
  constructor
  case declared => exact List.mk_mem_zipIdx_iff_getElem?.mp hb
  case satisfiable => exact hsat
  case score_le =>
    intro i c hc hsat'
    exact (hfirst (c, i) (hmem hc hsat')).1
  case score_lt =>
    intro i c hc hsat' hlt
    exact (hfirst (c, i) (hmem hc hsat')).2 hlt

end ObjectMapping.Construction
