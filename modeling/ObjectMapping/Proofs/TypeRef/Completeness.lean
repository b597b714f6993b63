import ObjectMapping.Proofs.TypeRef.Grammar
import ObjectMapping.Proofs.TypeRef.Transition

namespace ObjectMapping.TypeRef

open Reader

/-! ### Tokens -/

/-- Blanks leave what a place holds. -/
theorem Blank.reads {a : List Char} (ha : Blank a) (limit : Nat) (p : Place) (fs : List Frame) :
    ∃ q, Reads limit ⟨p, fs⟩ a ⟨q, fs⟩ ∧ q.name? = p.name? ∧ q.bare? = p.bare? ∧
      q.type? = p.type? := by
  induction a generalizing p with
  | nil => exact ⟨p, .nil, rfl, rfl, rfl⟩
  | cons c a ih =>
    have hc : Text.isBlank c = true := ha c List.mem_cons_self
    obtain ⟨q, hq, hkeep⟩ := ih (fun d hd => ha d (List.mem_cons_of_mem c hd)) p.settle
    simp only [Place.name?_settle, Place.bare?_settle, Place.type?_settle] at hkeep
    exact ⟨q, .cons (.blank hc) hq, hkeep⟩

/-- Behind blanks a type still has to begin. -/
theorem Blank.reads_start {a : List Char} (ha : Blank a) (limit : Nat) (fs : List Frame) :
    Reads limit ⟨.start, fs⟩ a ⟨.start, fs⟩ := by
  induction a with
  | nil => exact .nil
  | cons c a ih =>
    have hc : Text.isBlank c = true := ha c List.mem_cons_self
    exact .cons (.blank hc) (ih fun d hd => ha d (List.mem_cons_of_mem c hd))

theorem reads_letters {x : List Char} (hx : ∀ c ∈ x, isNameChar c = true) (limit : Nat)
    (letters : List Char) (fs : List Frame) :
    Reads limit ⟨.name letters, fs⟩ x ⟨.name (x.reverse ++ letters), fs⟩ := by
  induction x generalizing letters with
  | nil => exact .nil
  | cons c x ih =>
    have hrest := ih (fun d hd => hx d (List.mem_cons_of_mem c hd)) (c :: letters)
    rw [List.reverse_cons, List.append_assoc]
    exact .cons (.letter (hx c List.mem_cons_self)) hrest

theorem IsName.reads {x : List Char} (hx : IsName x) (limit : Nat) (fs : List Frame) :
    ∃ p, Reads limit ⟨.start, fs⟩ x ⟨p, fs⟩ ∧ p.name? = some (String.ofList x) := by
  cases hx with
  | wildcard => exact ⟨.named wildcardName, .cons .wildcard .nil, rfl⟩
  | letters hne hx =>
    obtain ⟨c, y, rfl⟩ := List.exists_cons_of_ne_nil hne
    have hy := reads_letters (fun d hd => hx d (List.mem_cons_of_mem c hd)) limit [c] fs
    refine ⟨_, .cons (.first (hx c List.mem_cons_self)) hy, ?_⟩
    simp [Place.name?]

theorem Head.reads {x : List Char} {name : String} (hx : Head x name) (limit : Nat)
    (fs : List Frame) :
    ∃ p, Reads limit ⟨.start, fs⟩ x ⟨p, fs⟩ ∧ p.name? = some name := by
  obtain ⟨hb, hx, ha⟩ := hx
  obtain ⟨p, hp, hname⟩ := hx.reads limit fs
  obtain ⟨q, hq, hkeep, -⟩ := ha.reads limit p fs
  exact ⟨q, (hb.reads_start limit fs).append (hp.append hq), hkeep.trans hname⟩

theorem Mark.reads {z : List Char} {nullable : Bool} {p : Place} {name : String}
    {arguments : List TypeRef} (hz : Mark z nullable) (hp : p.bare? = some { name, arguments })
    (limit : Nat) (fs : List Frame) :
    ∃ q, Reads limit ⟨p, fs⟩ z ⟨q, fs⟩ ∧ q.type? = some ⟨name, arguments, nullable⟩ := by
  cases hz with
  | absent => exact ⟨p, .nil, Place.type?_of_bare? hp⟩
  | present ha =>
    obtain ⟨q, hq, -, -, hkeep⟩ := ha.reads limit (.complete ⟨name, arguments, true⟩) fs
    exact ⟨q, .cons (.mark hp) hq, hkeep⟩

/-! ### Types -/

mutual

/-- A type is read wherever its levels stay within the limit. -/
theorem Derives.reads {limit : Nat} {x : List Char} {type : TypeRef} (fs : List Frame) :
    (h : Derives x type) → (hlimit : fs.length + type.nesting ≤ limit) →
      ∃ p, Reads limit ⟨.start, fs⟩ x ⟨p, fs⟩ ∧ p.type? = some type
  | .type hx hy hz, hlimit => by
    obtain ⟨p, hp, hname⟩ := hx.reads limit fs
    obtain ⟨q, hq, hbare⟩ := hy.reads fs hname hlimit
    obtain ⟨r, hr, htype⟩ := hz.reads hbare limit fs
    exact ⟨r, hp.append (hq.append hr), htype⟩

/-- Arguments are read behind the name they belong to. -/
theorem DerivesArguments.reads {limit : Nat} {y : List Char} {arguments : List TypeRef}
    {p : Place} {name : String} (fs : List Frame) :
    (h : DerivesArguments y arguments) → (hp : p.name? = some name) →
      (hlimit : fs.length + nestingOf arguments ≤ limit) →
      ∃ q, Reads limit ⟨p, fs⟩ y ⟨q, fs⟩ ∧ q.bare? = some { name, arguments }
  | .none, hp, _ => ⟨p, .nil, Place.bare?_of_name? hp⟩
  | .some hx ha, hp, hlimit => by
    have hopen : fs.length < limit := by
      have hpositive := hx.one_le_nestingOf
      omega
    obtain ⟨q, done, type, hq, htype, hdone⟩ := hx.reads ⟨name, []⟩ fs hlimit
    -- the closing bracket puts the arguments back in order
    obtain ⟨r, hr, -, hkeep, -⟩ := ha.reads limit
      (.applied { name, arguments := (type :: done).reverse }) fs
    refine ⟨r, .cons (.opening hp hopen) (hq.append (.cons (.closing htype) hr)), ?_⟩
    rw [hkeep, hdone]
    rfl

/-- The types become arguments of the innermost open type, behind those it has already. The last
one is still in its place. -/
theorem DerivesList.reads {limit : Nat} {x : List Char} {types : List TypeRef} (f : Frame)
    (fs : List Frame) :
    (h : DerivesList x types) → (hlimit : fs.length + nestingOf types ≤ limit) →
      ∃ p done last, Reads limit ⟨.start, f :: fs⟩ x ⟨p, ⟨f.name, done⟩ :: fs⟩ ∧
        p.type? = some last ∧ (last :: done).reverse = f.done.reverse ++ types
  | .one hx, hlimit => by
    obtain ⟨hfit, -⟩ := add_nestingOf_cons_le_iff.1 hlimit
    obtain ⟨p, hp, htype⟩ := hx.reads (f :: fs) hfit
    exact ⟨p, f.done, _, hp, htype, List.reverse_cons⟩
  | .more hx hy, hlimit => by
    obtain ⟨hfit, hrest⟩ := add_nestingOf_cons_le_iff.1 hlimit
    obtain ⟨p, hp, htype⟩ := hx.reads (f :: fs) hfit
    obtain ⟨q, done, last, hq, hlast, hdone⟩ := hy.reads ⟨f.name, _ :: f.done⟩ fs hrest
    refine ⟨q, done, last, hp.append (.cons (.comma htype) hq), hlast, ?_⟩
    rw [hdone, List.reverse_cons, List.append_assoc]
    rfl

end

end ObjectMapping.TypeRef
