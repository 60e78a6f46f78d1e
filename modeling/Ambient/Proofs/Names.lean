import Ambient.Name

namespace Ambient.Name

theorem cutLast_eq_none {cs : List Char} (h : '.' ∉ cs) : cutLast cs = none := by
  induction cs with
  | nil => rfl
  | cons c cs ih =>
    obtain ⟨different, rest⟩ := not_or.mp (mt List.mem_cons.mpr h)
    rw [cutLast, ih rest, if_neg (Ne.symm different)]

theorem cutLast_append_dot (before : List Char) {after : List Char} (h : '.' ∉ after) :
    cutLast (before ++ '.' :: after) = some (before, after) := by
  induction before with
  | nil => simp [cutLast, cutLast_eq_none h]
  | cons c before ih => simp [cutLast, ih]

@[simp] theorem toList_child (ns : Name) (segment : String) :
    (ns.child segment).toList = ns.toList ++ '.' :: segment.toList := by
  simp [child]

theorem parent_child (ns : Name) {segment : String} (h : '.' ∉ segment.toList) :
    (ns.child segment).parent = ns := by
  unfold parent
  rw [toList_child, cutLast_append_dot ns.toList h]
  exact String.ofList_toList

theorem lastSegment_child (ns : Name) {segment : String} (h : '.' ∉ segment.toList) :
    (ns.child segment).lastSegment = segment := by
  unfold lastSegment
  rw [toList_child, cutLast_append_dot ns.toList h]
  exact String.ofList_toList

theorem parent_of_plain {n : Name} (h : '.' ∉ n.toList) : n.parent = "" := by
  unfold parent
  rw [cutLast_eq_none h]

theorem lastSegment_of_plain {n : Name} (h : '.' ∉ n.toList) : n.lastSegment = n := by
  unfold lastSegment
  rw [cutLast_eq_none h]

theorem under?_empty (n : Name) : n.under? "" = some n := rfl

theorem isSome_under? {n ns : Name} (named : ns ≠ "") :
    (n.under? ns).isSome = (ns.toList ++ ['.']).isPrefixOf n.toList := by
  unfold under?
  rw [if_neg named]
  cases (ns.toList ++ ['.']).isPrefixOf n.toList with
  | false => rfl
  | true => rfl

theorem under?_eq_some_iff {n ns tail : Name} (named : ns ≠ "") :
    n.under? ns = some tail ↔ n = ns.child tail := by
  have stem : (ns.toList ++ ['.']).isPrefixOf n.toList = true ↔
      ∃ rest, n.toList = ns.toList ++ '.' :: rest := by
    rw [List.isPrefixOf_iff_prefix]
    constructor
    · rintro ⟨rest, eq⟩
      exact ⟨rest, by simpa using eq.symm⟩
    · rintro ⟨rest, eq⟩
      exact ⟨rest, by simpa using eq.symm⟩
  unfold under?
  rw [if_neg named]
  constructor
  · intro h
    split at h
    · next below =>
      obtain ⟨rest, eq⟩ := stem.mp below
      have same : String.ofList rest = tail := by simpa [eq] using h
      apply String.ext
      simpa [← same] using eq
    · contradiction
  · rintro rfl
    rw [if_pos (stem.mpr ⟨tail.toList, by simp⟩)]
    simp

theorem isDirectChild_empty_iff (n : Name) :
    n.isDirectChild "" = true ↔ n ≠ "" ∧ '.' ∉ n.toList := by
  simp [isDirectChild, under?_empty]

theorem isDirectChild_iff {n ns : Name} (named : ns ≠ "") :
    n.isDirectChild ns = true ↔
      ∃ segment : String, segment ≠ "" ∧ '.' ∉ segment.toList ∧ n = ns.child segment := by
  unfold isDirectChild
  constructor
  · intro h
    split at h
    · next tail below =>
      refine ⟨tail, ?_, ?_, (under?_eq_some_iff named).mp below⟩
      · intro empty
        simp [empty] at h
      · intro dot
        simp [dot] at h
    · contradiction
  · rintro ⟨segment, filled, plain, eq⟩
    rw [(under?_eq_some_iff named).mpr eq]
    simp [filled, plain]

theorem isSome_under?_of_isDirectChild {n ns : Name} (h : n.isDirectChild ns = true) :
    (n.under? ns).isSome = true := by
  unfold isDirectChild at h
  split at h
  · next below => rw [below, Option.isSome_some]
  · contradiction

theorem parent_of_isDirectChild {n ns : Name} (h : n.isDirectChild ns = true) : n.parent = ns := by
  by_cases named : ns = ""
  · subst named
    exact parent_of_plain ((isDirectChild_empty_iff n).mp h).2
  · obtain ⟨segment, _, plain, rfl⟩ := (isDirectChild_iff named).mp h
    exact parent_child ns plain

theorem isDirectChild_unique {n ns other : Name} (h : n.isDirectChild ns = true)
    (h' : n.isDirectChild other = true) : ns = other :=
  (parent_of_isDirectChild h).symm.trans (parent_of_isDirectChild h')

end Ambient.Name
