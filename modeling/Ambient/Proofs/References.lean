import Ambient.Proofs.Names

/-!
Names as they are written inside a namespace. A name below the namespace is cut and any other stays
whole. What is cut comes back when the namespace is put before it, so two different names are
written alike in one way only: one lies below the namespace, and the other does not and is what is
left of the first.
-/
namespace Ambient.Name

def LiesUnder (n ns : Name) : Prop := ∃ tail : Name, n = ns.child tail

theorem liesUnder_iff (n ns : Name) : n.LiesUnder ns ↔ ns.toList ++ ['.'] <+: n.toList := by
  constructor
  · rintro ⟨tail, rfl⟩
    exact ⟨tail.toList, by simp⟩
  · rintro ⟨rest, same⟩
    refine ⟨String.ofList rest, String.ext ?_⟩
    simpa using same.symm

instance (n ns : Name) : Decidable (n.LiesUnder ns) :=
  decidable_of_iff _ (liesUnder_iff n ns).symm

theorem not_liesUnder_of_plain {n : Name} (plain : '.' ∉ n.toList) (ns : Name) :
    ¬ n.LiesUnder ns := by
  rintro ⟨tail, rfl⟩
  exact plain (by simp)

theorem relative_empty (n : Name) : n.relative "" = n := rfl

theorem relative_child {ns : Name} (named : ns ≠ "") (tail : Name) :
    (ns.child tail).relative ns = tail := by
  rw [relative, (under?_eq_some_iff named).mpr rfl, Option.getD_some]

theorem relative_of_outside {n ns : Name} (outside : ¬ n.LiesUnder ns) : n.relative ns = n := by
  by_cases named : ns = ""
  · rw [named, relative_empty]
  · have whole : n.under? ns = none := by
      refine Option.eq_none_iff_forall_ne_some.mpr fun tail below => outside ⟨tail, ?_⟩
      exact (under?_eq_some_iff named).mp below
    rw [relative, whole, Option.getD_none]

theorem child_relative {n ns : Name} (named : ns ≠ "") (below : n.LiesUnder ns) :
    ns.child (n.relative ns) = n := by
  obtain ⟨tail, rfl⟩ := below
  rw [relative_child named]

theorem relative_eq_outside_iff {n m ns : Name} (outside : ¬ m.LiesUnder ns) :
    n.relative ns = m ↔ n = m ∨ ns ≠ "" ∧ n = ns.child m := by
  constructor
  · rintro rfl
    by_cases named : ns = ""
    · rw [named]
      exact .inl (relative_empty n).symm
    by_cases below : n.LiesUnder ns
    · exact .inr ⟨named, (child_relative named below).symm⟩
    · exact .inl (relative_of_outside below).symm
  · rintro (rfl | ⟨named, rfl⟩)
    · exact relative_of_outside outside
    · exact relative_child named m

theorem relative_eq_relative_iff {q r ns : Name} (different : q ≠ r) :
    q.relative ns = r.relative ns ↔
      ns ≠ "" ∧ (q = ns.child r ∧ ¬ r.LiesUnder ns ∨ r = ns.child q ∧ ¬ q.LiesUnder ns) := by
  constructor
  · intro alike
    have named : ns ≠ "" := by
      rintro rfl
      exact different alike
    refine ⟨named, ?_⟩
    by_cases low : q.LiesUnder ns <;> by_cases low' : r.LiesUnder ns
    · -- both come back from what is left of them
      rw [← child_relative named low, alike, child_relative named low'] at different
      contradiction
    · rw [relative_of_outside low', relative_eq_outside_iff low'] at alike
      exact .inl ⟨(alike.resolve_left different).2, low'⟩
    · rw [relative_of_outside low, eq_comm, relative_eq_outside_iff low] at alike
      exact .inr ⟨(alike.resolve_left different.symm).2, low⟩
    · rw [relative_of_outside low, relative_of_outside low'] at alike
      contradiction
  · rintro ⟨named, ⟨rfl, outside⟩ | ⟨rfl, outside⟩⟩
    · rw [relative_child named, relative_of_outside outside]
    · rw [relative_child named, relative_of_outside outside]

/-- Inside a namespace a reference can be taken for another in one way only: the one name is the
namespace, a dot and the other, and this one does not lie below the namespace. A name below it can
always be told from its reference. -/
theorem references_confused_iff (ns : Name) :
    (∀ q r : Name, q ≠ r →
      (q.relative ns = r.relative ns ↔
        ns ≠ "" ∧ (q = ns.child r ∧ ¬ r.LiesUnder ns ∨ r = ns.child q ∧ ¬ q.LiesUnder ns))) ∧
    ∀ n : Name, ns ≠ "" → n.LiesUnder ns → ns.child (n.relative ns) = n :=
  ⟨fun _ _ different => relative_eq_relative_iff different,
    fun _ named below => child_relative named below⟩

theorem ui_references_confused :
    relative "ui.Key" "ui" = relative "Key" "ui" ∧
      relative "ui.ui.Key" "ui" ≠ relative "ui.Key" "ui" ∧
      relative "uix.Key" "ui" ≠ relative "Key" "ui" ∧
      child "ui" (relative "ui.ui.Key" "ui") = "ui.ui.Key" := by
  obtain ⟨confused, back⟩ := references_confused_iff "ui"
  refine ⟨(confused "ui.Key" "Key" (by decide)).mpr (by decide), ?_, ?_, ?_⟩
  · exact fun alike => absurd ((confused "ui.ui.Key" "ui.Key" (by decide)).mp alike) (by decide)
  · exact fun alike => absurd ((confused "uix.Key" "Key" (by decide)).mp alike) (by decide)
  · exact back "ui.ui.Key" (by decide) (by decide)

end Ambient.Name
