import Ambient.Emission.Section
import Ambient.Layout.Block

namespace Ambient

namespace Section

def putNamespace (c : Config) (s : Section) (w : Writer) : Writer :=
  w.block (c.namespaceHeader s.namespaceName)
    (Item.putAll (s.declarations.flatMap (·.items))) "\x7d"

def putModule (c : Config) (s : Section) (w : Writer) : Writer :=
  w.block (c.moduleHeader s.exportName)
    (fun w => (c.moduleLines s.exportName s.isDefault).foldl Writer.line w) "\x7d"

def put (c : Config) (w : Writer) (s : Section) : Writer := s.putModule c (s.putNamespace c w)

end Section

namespace Emission

variable (em : Emission)

def sections : Except EmitError (List Section) := em.exports.names.mapM em.section?

def document : Except EmitError String :=
  em.sections.map fun sections => (sections.foldl (Section.put em.config) {}).text

end Emission

end Ambient
