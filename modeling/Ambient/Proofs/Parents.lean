import Ambient.Proofs.Names

namespace Ambient.Name

theorem exists_child_of_dotted {n : Name} (dotted : '.' ∈ n.toList) :
    ∃ (ns : Name) (segment : String), '.' ∉ segment.toList ∧ n = ns.child segment := by
  -- the last dot is the first one from the right
  obtain ⟨after, before, eq, plain⟩ := List.eq_append_cons_of_mem (List.mem_reverse.mpr dotted)
  have cut : n.toList = before.reverse ++ '.' :: after.reverse := by
    simpa using congrArg List.reverse eq
  refine ⟨String.ofList before.reverse, String.ofList after.reverse, by simpa using plain, ?_⟩
  apply String.ext
  simpa using cut

theorem child_parent_lastSegment {n : Name} (dotted : '.' ∈ n.toList) :
    n.parent.child n.lastSegment = n := by
  obtain ⟨ns, segment, plain, rfl⟩ := exists_child_of_dotted dotted
  rw [parent_child ns plain, lastSegment_child ns plain]

theorem dotted_of_parent {n : Name} (named : n.parent ≠ "") : '.' ∈ n.toList :=
  Decidable.not_not.mp fun plain => named (parent_of_plain plain)

theorem isDirectChild_iff_parent {n ns : Name} (named : ns ≠ "") :
    n.isDirectChild ns = true ↔ n.parent = ns ∧ n.lastSegment ≠ "" := by
  constructor
  · intro child
    obtain ⟨segment, filled, plain, rfl⟩ := (isDirectChild_iff named).mp child
    exact ⟨parent_child ns plain, by rwa [lastSegment_child ns plain]⟩
  · rintro ⟨rfl, filled⟩
    have dotted := dotted_of_parent named
    obtain ⟨ns, segment, plain, rfl⟩ := exists_child_of_dotted dotted
    rw [parent_child ns plain] at named ⊢
    rw [lastSegment_child ns plain] at filled
    exact (isDirectChild_iff named).mpr ⟨segment, filled, plain, rfl⟩

/-- The two ways to find what stands directly below a namespace agree on every name. No name stands
directly below two namespaces, and a name with a dot comes back from its two parts. -/
theorem direct_children_by_parent :
    (∀ n ns : Name, ns ≠ "" →
      (n.isDirectChild ns = true ↔ n.parent = ns ∧ n.lastSegment ≠ "")) ∧
    (∀ n : Name, n.isDirectChild "" = true ↔ n ≠ "" ∧ '.' ∉ n.toList) ∧
    (∀ n ns other : Name, n.isDirectChild ns = true → n.isDirectChild other = true →
      ns = other) ∧
    ∀ n : Name, '.' ∈ n.toList → n.parent.child n.lastSegment = n :=
  ⟨fun _ _ named => isDirectChild_iff_parent named, isDirectChild_empty_iff,
    fun _ _ _ child child' => isDirectChild_unique child child',
    fun _ dotted => child_parent_lastSegment dotted⟩

/-- Two dots in a row belong to the parent, and a dot at the end has no child behind it. -/
theorem ui_children_by_parent :
    isDirectChild "ui..Key" "ui." = true ∧ parent "ui..Key" = "ui." ∧
      isDirectChild "ui." "ui" = false ∧ parent "ui." = "ui" ∧
      isDirectChild ".Key" "" = false ∧ parent ".Key" = "" ∧
      (∀ ns, isDirectChild "ui..Key" ns = true → ns = "ui.") ∧
      child (parent "ui.") (lastSegment "ui.") = "ui." := by
  obtain ⟨decided, top, unique, whole⟩ := direct_children_by_parent
  have key := (decided "ui..Key" "ui." (by decide)).mpr (by decide)
  refine ⟨key, by decide, ?_, by decide, ?_, by decide, ?_, whole "ui." (by decide)⟩
  · rw [Bool.eq_false_iff, ne_eq, decided "ui." "ui" (by decide)]
    decide
  · rw [Bool.eq_false_iff, ne_eq, top]
    decide
  · exact fun ns below => unique "ui..Key" ns "ui." below key

end Ambient.Name
