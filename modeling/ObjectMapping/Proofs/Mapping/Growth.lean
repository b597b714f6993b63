import ObjectMapping.Proofs.Mapping.Selection

namespace ObjectMapping

/-- `plan` is for the same slot as `old`, and is `old` itself if that had a value. -/
def PropertyPlan.Keeps (old plan : PropertyPlan) : Prop :=
  plan.key = old.key ∧ (old.isResolved = true → plan = old)

namespace Construction

variable {old plans : List PropertyPlan} {p : Property} {c : Constructor}
  {target : TypeDescriptor} {explicit : Option Signature}

/-- A plan with a value is found again among plans that keep it. -/
theorem planFor?_of_keeps (h : List.Forall₂ PropertyPlan.Keeps old plans) {plan : PropertyPlan}
    (hp : planFor? old p = some plan) (hres : plan.isResolved = true) :
    planFor? plans p = some plan := by
  induction h with
  | nil => cases hp
  | @cons a b _ _ hab _ ih =>
    obtain ⟨hkey, hsame⟩ := hab
    -- the keys agree, so that both searches stop at the same place
    by_cases ha : a.key = (p.name, p.type)
    · rw [planFor?, List.find?_cons_of_pos (by simpa using ha)] at hp
      cases hp
      rw [hsame hres, planFor?, List.find?_cons_of_pos (by simpa using ha)]
    · rw [planFor?, List.find?_cons_of_neg (by simpa using ha)] at hp
      rw [planFor?, List.find?_cons_of_neg (by simpa [hkey] using ha)]
      exact ih hp

/-- A constructor stays satisfiable if all values are kept. -/
theorem isSatisfiable_of_keeps (h : List.Forall₂ PropertyPlan.Keeps old plans)
    (hc : isSatisfiable old c = true) : isSatisfiable plans c = true := by
  rw [isSatisfiable_iff] at hc ⊢
  intro p hp
  obtain ⟨plan, hplan, hres⟩ := blocker?_eq_none_iff.mp (hc p hp)
  exact blocker?_eq_none_iff.mpr ⟨plan, planFor?_of_keeps h hplan hres, hres⟩

/-- If some constructor is satisfiable, there is a best one. -/
theorem exists_best? {b : Constructor × Nat} (hb : b ∈ target.constructors.zipIdx)
    (hsat : isSatisfiable plans b.1 = true) : ∃ best, best? plans target = some best := by
  have hmem : b ∈ target.constructors.zipIdx.filter fun c => isSatisfiable plans c.1 :=
    List.mem_filter.mpr ⟨hb, hsat⟩
  unfold best?
  cases hl : target.constructors.zipIdx.filter fun c => isSatisfiable plans c.1 with
  | nil =>
    rw [hl] at hmem
    cases hmem
  | cons first rest => exact ⟨_, List.foldr_cons ..⟩

/-- If a constructor could be chosen, one still can after growth. -/
theorem exists_choose_of_keeps (h : List.Forall₂ PropertyPlan.Keeps old plans)
    {b : Constructor × Nat} (hchoose : choose old target explicit = .ok b) :
    ∃ b', choose plans target explicit = .ok b' := by
  cases explicit with
  | none =>
    rw [choose] at hchoose
    split at hchoose
    · rename_i best hbest
      obtain ⟨hmem, hsat⟩ := best?_eq_some hbest
      obtain ⟨best', hbest'⟩ := exists_best? hmem (isSatisfiable_of_keeps h hsat)
      exact ⟨best', by rw [choose, hbest']⟩
    · cases hchoose
  | some signature =>
    rw [choose] at hchoose
    split at hchoose
    · cases hchoose
    · rename_i named hnamed
      split at hchoose
      · rename_i hsat
        exact ⟨named, by simp [choose, hnamed, isSatisfiable_of_keeps h hsat]⟩
      · cases hchoose

end Construction

end ObjectMapping
