import Ambient.Proofs.Sections

namespace Ambient

namespace Config

/-- The path of a namespace block; the global namespace is the internal root itself. -/
def blockPath (c : Config) (ns : Name) : Name :=
  if ns = "" then c.internalRoot else c.internalRoot.child ns

theorem namespaceHeader_eq (c : Config) (ns : Name) :
    c.namespaceHeader ns = "declare namespace " ++ c.blockPath ns ++ " \x7b" := rfl

end Config

def ModuleShim.lines (shim : ModuleShim) (isDefault : Bool) (path : Name) : List String :=
  let keyword := if isDefault then "export default " else "export = "
  match shim with
  | .alias => ["import alias = " ++ path ++ ";", keyword ++ "alias;"]
  | .direct => [keyword ++ path ++ ";"]

def EndsName (tail : String) : Prop := ∃ c ∈ [':', ' ', '(', '<'], tail.toList.head? = some c

theorem EndsName.append {tail : String} (ends : EndsName tail) (more : String) :
    EndsName (tail ++ more) := by
  obtain ⟨c, known, head⟩ := ends
  refine ⟨c, known, ?_⟩
  rw [String.toList_append, List.head?_append, head, Option.some_or]

namespace Item

def keywords : List String := ["var ", "type ", "function ", "class ", "interface "]

/-- Whether an item declares a name: what a fresh writer gives of it begins with a keyword, the name
and what ends it. -/
def Declares (item : Item) (name : String) : Prop :=
  ∃ keyword ∈ keywords, ∃ tail, (item.put {}).text = keyword ++ name ++ tail ∧ EndsName tail

end Item

namespace Emission

variable (em : Emission)

end Emission

namespace Section

/-- The path that a declaration is found under: that of the block and the name it is declared by. -/
def path (c : Config) (s : Section) (d : Declaration) : Name :=
  (c.blockPath s.namespaceName).child d.symbol.lastSegment

end Section

namespace Emission

variable (em : Emission)

end Emission

namespace Graph

variable (g : Graph) (view : MemberView) (config : Config) (given : List Name)

end Graph

end Ambient
