import SchemaWrappers.Text.Utf8
import SchemaWrappers.Yaml.Error

namespace SchemaWrappers.Yaml

inductive Token where
  | version (major : Nat)
  | tagShort (handle long : String)
  | otherDirective
  | documentStart
  | documentEnd
  | blockSequenceStart
  | blockMappingStart
  | blockEnd
  | flowSequenceStart
  | flowSequenceEnd
  | flowMappingStart
  | flowMappingEnd
  | key
  | value
  | blockEntry
  | flowEntry
  | alias (name : String)
  | anchor (name : String)
  | tag (handle : Option String) (suffix : String)
  | scalar (text : Text.Spelled) (plain : Bool)
  /-- The text is faulty from here on. -/
  | fault (e : Error)
  deriving DecidableEq, Repr

namespace Token

def isDirective : Token → Bool
  | version _ | tagShort _ _ | otherDirective => true
  | _ => false

end Token

end SchemaWrappers.Yaml
