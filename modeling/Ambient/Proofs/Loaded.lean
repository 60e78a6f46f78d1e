import Ambient.Proofs.Loadable
import Ambient.Proofs.Reordering

namespace Ambient

namespace Dump.TypeSpec

/-- What is known of a class or an interface that a conversion gives. -/
structure FromClass (owner : Name) (c : ClassType Ty) : Prop where
  params : c.kind = .interface → c.params = []
  prototype : (c.prototype.map (·.1)).Nodup
  statics : (c.statics.map (·.1)).Nodup
  instanceType : c.instanceType = .record [] ∨ ∃ t, toTy owner t = .ok c.instanceType

theorem tables_of_toTy {owner : Name} {t : TypeSpec} {type : Ty}
    (converted : toTy owner t = .ok type) :
    (∀ fields, type = .record fields → (fields.map (·.1)).Nodup) ∧
      ∀ c, type = .classlike c → FromClass owner c := by
  cases toTy_loadable t converted with
  | record distinct types =>
    constructor
    · rintro _ ⟨⟩
      exact distinct
    · nofun
  | classlike bare superclass interfaces params instances methods prototype own statics =>
    refine ⟨nofun, ?_⟩
    rintro _ ⟨⟩
    obtain ⟨t, writes⟩ := exists_writes instances
    exact ⟨bare, methods, own, .inr ⟨t, writes owner⟩⟩
  | _ => exact ⟨nofun, nofun⟩

end Dump.TypeSpec

namespace Dump.ProgramSpec

open TypeSpec

variable {p : ProgramSpec} {g : Graph}

theorem toTy_of_mem_symbolList (loaded : p.toGraph = .ok g) {s : Symbol} (member : s ∈ g.symbolList)
    {type : Ty} (typed : s.type? = some type) : ∃ t, toTy s.name t = .ok type := by
  obtain ⟨⟨key, s⟩, entry, rfl⟩ := List.mem_map.mp member
  obtain ⟨⟨name, t?⟩, -, -, converted⟩ := (symbols_of_toGraph loaded _).mp entry
  cases t? with
  | none =>
    cases converted
    contradiction
  | some t =>
    change (toTy? name (some t)).map (Symbol.mk name) = .ok s at converted
    rw [toTy?] at converted
    cases read : toTy name t with
    | error error =>
      rw [read] at converted
      contradiction
    | ok type' =>
      rw [read] at converted
      cases converted
      cases typed
      exact ⟨t, read⟩

theorem fromClass_of_mem_symbolList (loaded : p.toGraph = .ok g) {s : Symbol}
    (member : s ∈ g.symbolList) {c : ClassType Ty} (typed : s.type? = some (.classlike c)) :
    FromClass s.name c := by
  obtain ⟨t, converted⟩ := toTy_of_mem_symbolList loaded member typed
  exact (tables_of_toTy converted).2 c rfl

end Dump.ProgramSpec

end Ambient
