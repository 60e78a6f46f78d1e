/-!
Qualified names: segments joined by dots. A name has a parent and a last segment, cut at its last
dot, and it lies under a namespace when the namespace and a dot begin it, so only whole segments
count. The cuts are made on the characters, where the laws about them are stated.
-/
namespace Ambient

/-- A dotted path such as a.b.C. The empty text is the global namespace. -/
abbrev Name := String

namespace Name

def cutLast : List Char → Option (List Char × List Char)
  | [] => none
  | c :: cs =>
    match cutLast cs with
    | some (before, after) => some (c :: before, after)
    | none => if c = '.' then some ([], cs) else none

def parent (n : Name) : Name :=
  match cutLast n.toList with
  | some (before, _) => String.ofList before
  | none => ""

def lastSegment (n : Name) : String :=
  match cutLast n.toList with
  | some (_, after) => String.ofList after
  | none => n

def child (ns : Name) (segment : String) : Name := ns ++ "." ++ segment

/-- What a name is called under a namespace, if it lies under it; all names lie under the global
namespace. -/
def under? (n ns : Name) : Option Name :=
  let stem := ns.toList ++ ['.']
  if ns = "" then some n
  else if stem.isPrefixOf n.toList then some (String.ofList (n.toList.drop stem.length))
  else none

def isDirectChild (n ns : Name) : Bool :=
  match under? n ns with
  | some tail => tail != "" && !tail.toList.contains '.'
  | none => false

def relative (n ns : Name) : Name := (under? n ns).getD n

end Name

end Ambient
