import Ambient.Dump.Convert
import Ambient.Dump.Format

/-!
Decoders of dumps. Decoding by the format is not this library's own: a decoder is given, and what is
relied on is how it goes through the members of an object, the items of an array and the content of
a type, one at a time.
-/
namespace Ambient

/-- The value is JSON to its end. -/
def Json.Whole (v : Json) : Prop := v.readFault? = none

namespace Dump

structure Decoder where
  value : (form : Form) → Json → Option form.Value
  /-- A structure from the fields read so far and the members that are left. -/
  members : (s : Struct) → Slots → List (String × Json) → Option s.Value
  /-- The values of the fields that are left from the items that are left. -/
  items : (fields : List Field) → List Json → Option (Values fields)
  /-- A type from its tag and the content buffered so far, and the members that are left. -/
  content : (buffered : Bool) → (tag? : Option Kind) → (content members : List (String × Json)) →
    Option TypeSpec

/-- How decoders that are derived from a format work on values that are JSON to their end. -/
structure Decoder.Derived (D : Decoder) : Prop where
  -- The members of an object, in the order of the text.
  object (s : Struct) (members : List (String × Json)) :
    D.value (.struct s) (.object members none) = D.members s .empty members
  member {s : Struct} {f : Field} {slots : Slots} {v : Json} {rest : List (String × Json)}
    (known : f ∈ s.fields) (unread : slots f = none) :
    D.members s slots ((f.key, v) :: rest) =
      (D.value f.form v).bind fun x => D.members s (slots.set f x) rest
  repeated {s : Struct} {f : Field} {slots : Slots} {v : Json} {rest : List (String × Json)}
    (known : f ∈ s.fields) (read : slots f ≠ none) : D.members s slots ((f.key, v) :: rest) = none
  unknown {s : Struct} {slots : Slots} {key : String} {v : Json} {rest : List (String × Json)}
    (unknown : ∀ f ∈ s.fields, f.key ≠ key) (whole : v.Whole) :
    D.members s slots ((key, v) :: rest) = D.members s slots rest
  members_end (s : Struct) (slots : Slots) :
    D.members s slots [] = (collect slots.filled s.fields).map s.make
  -- The items of an array, in the order of the fields.
  array (s : Struct) (items : List Json) :
    D.value (.struct s) (.array items none) = (D.items s.fields items).map s.make
  item (f : Field) (fields : List Field) (v : Json) (rest : List Json) :
    D.items (f :: fields) (v :: rest) =
      (D.value f.form v).bind fun x => (D.items fields rest).map (x, ·)
  left_off (f : Field) (fields : List Field) :
    D.items (f :: fields) [] = f.default?.bind fun x => (D.items fields []).map (x, ·)
  items_end : D.items [] [] = some ()
  -- A type. What is met before its tag is buffered, since the tag tells the fields.
  tagged_object (buffered : Bool) (members : List (String × Json)) :
    D.value (.type buffered) (.object members none) = D.content buffered none [] members
  tag {buffered : Bool} {content rest : List (String × Json)} {v : Json} :
    D.content buffered none content (("kind", v) :: rest) =
      (D.value (.tag buffered) v).bind fun kind => D.content buffered (some kind) content rest
  tag_repeated {buffered : Bool} {kind : Kind} {content rest : List (String × Json)} {v : Json} :
    D.content buffered (some kind) content (("kind", v) :: rest) = none
  buffered {buffered : Bool} {tag? : Option Kind} {content rest : List (String × Json)}
    {key : String} {v : Json} (other : key ≠ "kind") (whole : v.Whole) :
    D.content buffered tag? content ((key, v) :: rest) =
      D.content buffered tag? (content ++ [(key, v)]) rest
  content_end (buffered : Bool) (kind : Kind) (content : List (String × Json)) :
    D.content buffered (some kind) content [] = D.members (.variant kind) .empty content
  untagged (buffered : Bool) (content : List (String × Json)) :
    D.content buffered none content [] = none
  tagged_array (buffered : Bool) (tag : Json) {items : List Json} (whole : ∀ v ∈ items, v.Whole) :
    D.value (.type buffered) (.array (tag :: items) none) =
      (D.value (.tag buffered) tag).bind fun kind => (D.items kind.fields items).map kind.make
  -- Places that may hold no value, or many.
  flag (b : Bool) : D.value .flag (.bool b) = some b
  absent (form : Form) : D.value (.nullable form) .null = some none
  present {form : Form} {v : Json} (filled : v ≠ .null) :
    D.value (.nullable form) v = (D.value form v).map some
  list (form : Form) (items : List Json) :
    D.value (.list form) (.array items none) = items.mapM (D.value form)
  table (form : Form) (members : List (String × Json)) :
    D.value (.table form) (.object members none) =
      (members.mapM fun m => (D.value form m.2).map (m.1, ·)).map Entries.ofList

def Decoder.load (D : Decoder) (v : Json) : Option (Except ModelError Graph) :=
  (D.value (.struct .program) v).map ProgramSpec.toGraph

end Dump

end Ambient
