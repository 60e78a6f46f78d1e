import Ambient.Emission.Error
import Ambient.Emission.Event
import Ambient.Layout.Item

/-!
The steps of an emission. A step writes and logs, and it may fail. A failure ends the emission and
leaves what was written and logged before it as it is, open blocks included.
-/
namespace Ambient

structure Output where
  writer : Writer := {}
  log : Array Event := #[]

abbrev Step := EStateM EmitError Output

namespace Step

def log (event : Event) : Step Unit := modify fun o => { o with log := o.log.push event }

def layout (change : Layout Unit) : Step Unit := fun o =>
  match change o.writer with
  | .ok _ writer => .ok () { o with writer }
  | .error error writer => .error (.layout error) { o with writer }

def write (item : Item) : Step Unit := layout item.write

def openBlock (header : String) : Step Unit := layout (modify (·.openBlock header))

def closeBlock (footer : String) : Step Unit := layout (Writer.closeBlock footer)

def finish : Step String := fun o =>
  match o.writer.finish with
  | .ok text => .ok text o
  | .error error => .error (.layout error) o

end Step

end Ambient
