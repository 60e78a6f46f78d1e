import Ambient.Text.Category
import Ambient.Text.Numeric

namespace Ambient.Text

theorem inRanges_iff {ranges : List (Nat × Nat)} {code : Nat} :
    inRanges ranges code = true ↔ ∃ r ∈ ranges, r.1 ≤ code ∧ code ≤ r.2 := by
  simp [inRanges]

/-- What is left of ranges when one is taken away from the front, as far as they begin in it. -/
def without (r : Nat × Nat) : List (Nat × Nat) → List (Nat × Nat)
  | [] => []
  | s :: rest =>
    if s.1 < r.1 ∨ r.2 < s.1 then s :: rest
    else if s.2 ≤ r.2 then without r rest
    else (r.2 + 1, s.2) :: rest

def leftOver (ranges taken : List (Nat × Nat)) : List (Nat × Nat) :=
  taken.foldl (fun left r => without r left) ranges

theorem inRanges_without (r : Nat × Nat) {ranges : List (Nat × Nat)} {code : Nat}
    (inside : inRanges ranges code = true) :
    (r.1 ≤ code ∧ code ≤ r.2) ∨ inRanges (without r ranges) code = true := by
  rw [inRanges_iff] at inside ⊢
  induction ranges with
  | nil => simp at inside
  | cons s rest ih =>
    unfold without
    split
    · exact .inr inside
    · next front =>
      simp only [List.mem_cons, exists_eq_or_imp] at inside
      split
      · rcases inside with ⟨low, high⟩ | inside
        · exact .inl (by omega)
        · exact ih inside
      · simp only [List.mem_cons, exists_eq_or_imp]
        rcases inside with ⟨low, high⟩ | inside
        · by_cases reached : code ≤ r.2
          · exact .inl (by omega)
          · exact .inr (.inl (by omega))
        · exact .inr (.inr inside)

theorem inRanges_leftOver (taken : List (Nat × Nat)) {ranges : List (Nat × Nat)} {code : Nat}
    (inside : inRanges ranges code = true) :
    inRanges taken code = true ∨ inRanges (leftOver ranges taken) code = true := by
  induction taken generalizing ranges with
  | nil => exact .inr inside
  | cons r taken ih =>
    rcases inRanges_without r inside with here | left
    · exact .inl (inRanges_iff.mpr ⟨r, List.mem_cons_self, here⟩)
    · rcases ih left with later | beyond
      · obtain ⟨s, member, bounds⟩ := inRanges_iff.mp later
        exact .inl (inRanges_iff.mpr ⟨s, List.mem_cons_of_mem r member, bounds⟩)
      · exact .inr beyond

theorem inRanges_of_leftOver {ranges taken : List (Nat × Nat)} (none : leftOver ranges taken = [])
    {code : Nat} (inside : inRanges ranges code = true) : inRanges taken code = true := by
  rcases inRanges_leftOver taken inside with within | beyond
  · exact within
  · rw [none] at beyond
    contradiction

def ascendFrom (low : Nat) : List (Nat × Nat × Category) → Bool
  | [] => true
  | r :: rest => low ≤ r.1 && r.1 ≤ r.2.1 && ascendFrom (r.2.1 + 1) rest

theorem first_of_ascendFrom {low : Nat} {ranges : List (Nat × Nat × Category)}
    (ascending : ascendFrom low ranges = true) {r : Nat × Nat × Category} (member : r ∈ ranges) :
    low ≤ r.1 := by
  induction ranges generalizing low with
  | nil => simp at member
  | cons s rest ih =>
    simp only [ascendFrom, Bool.and_eq_true, decide_eq_true_eq] at ascending
    rcases List.mem_cons.mp member with rfl | member
    · exact ascending.1.1
    · have later := ih ascending.2 member
      omega

theorem find?_of_ascendFrom {low : Nat} {ranges : List (Nat × Nat × Category)}
    (ascending : ascendFrom low ranges = true) {r : Nat × Nat × Category} (member : r ∈ ranges)
    {code : Nat} (above : r.1 ≤ code) (below : code ≤ r.2.1) :
    ranges.find? (fun r => r.1 ≤ code && code ≤ r.2.1) = some r := by
  induction ranges generalizing low with
  | nil => simp at member
  | cons s rest ih =>
    simp only [ascendFrom, Bool.and_eq_true, decide_eq_true_eq] at ascending
    rcases List.mem_cons.mp member with rfl | member
    · exact List.find?_cons_of_pos (by simp [above, below])
    · have later := first_of_ascendFrom ascending.2 member
      rw [List.find?_cons_of_neg (by simp; omega)]
      exact ih ascending.2 member

theorem categoryRanges_ascend : ascendFrom 0 categoryRanges = true := by decide +kernel

def rangesOf (categories : List Category) : List (Nat × Nat) :=
  (categoryRanges.filter fun r => categories.contains r.2.2).map fun r => (r.1, r.2.1)

theorem inRanges_rangesOf {categories : List Category} {c : Char} :
    inRanges (rangesOf categories) c.toNat = true ↔ ∃ k ∈ categories, category? c = some k := by
  rw [inRanges_iff]
  constructor
  · rintro ⟨span, member, low, high⟩
    obtain ⟨r, kept, rfl⟩ := List.mem_map.mp member
    obtain ⟨listed, wanted⟩ := List.mem_filter.mp kept
    refine ⟨r.2.2, by simpa using wanted, ?_⟩
    rw [category?, find?_of_ascendFrom categoryRanges_ascend listed low high, Option.map_some]
  · rintro ⟨k, wanted, found⟩
    obtain ⟨r, here, rfl⟩ := Option.map_eq_some_iff.mp found
    have bounds := List.find?_some here
    simp only [Bool.and_eq_true, decide_eq_true_eq] at bounds
    have kept : r ∈ categoryRanges.filter fun r => categories.contains r.2.2 :=
      List.mem_filter.mpr ⟨List.mem_of_find?_eq_some here, by simpa using wanted⟩
    exact ⟨(r.1, r.2.1), List.mem_map.mpr ⟨r, kept, rfl⟩, bounds⟩

theorem category_of_isAlphabetic {c : Char} (alphabetic : isAlphabetic c = true) :
    ∃ k ∈ [Category.letter, .letterNumber, .mark, .otherSymbol], category? c = some k := by
  have none : leftOver alphabeticRanges
      (rangesOf [.letter, .letterNumber, .mark, .otherSymbol]) = [] := by decide +kernel
  exact inRanges_rangesOf.mp (inRanges_of_leftOver none alphabetic)

theorem isNumeric_iff (c : Char) :
    isNumeric c = true ↔
      ∃ k ∈ [Category.decimalDigit, .letterNumber, .otherNumber], category? c = some k := by
  rw [← inRanges_rangesOf]
  constructor
  · have none : leftOver numericRanges
        (rangesOf [.decimalDigit, .letterNumber, .otherNumber]) = [] := by decide +kernel
    exact inRanges_of_leftOver none
  · have none : leftOver (rangesOf [.decimalDigit, .letterNumber, .otherNumber])
        numericRanges = [] := by decide +kernel
    exact inRanges_of_leftOver none

end Ambient.Text
