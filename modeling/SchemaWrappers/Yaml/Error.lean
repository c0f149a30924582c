import SchemaWrappers.Text.Number
import SchemaWrappers.Text.Quoted

namespace SchemaWrappers.Yaml

/-- `malformed` covers all that is against the form of YAML or of its kinds of values; the others
are scalars of a kind that their text does not fit. -/
inductive Error where
  | malformed
  | notWhole (base : Nat) (text : String)
  | notDecimal (text : String)
  | notTruth (text : String)
  | noMoment (reason : String)
  | tooLong (digits : Nat)
  /-- A whole number has too many digits to be written. -/
  | unwritable
  | noDigits
  | noCharacter
  | noNumber
  /-- A moment is not written as one. -/
  | noGroups
  /-- A moment is given by way of a mapping. -/
  | notText
  /-- Collections are nested so deep that the stack has no room for them. -/
  | tooDeep
  /-- What comes of it is not told here: half of a surrogate pair is used in a setting, or merges lead so
  deep that the stack may have no room for them. -/
  | unfollowed
  deriving DecidableEq, Repr

/-- The quoted text that cannot be a whole number is cut after 200 characters. -/
def Error.message : Error → String
  | malformed => "the text is not well formed"
  | notWhole base text =>
    s!"invalid literal for int() with base {base}: " ++
      String.ofList ((Text.quoted text.toList).take 200)
  | notDecimal text => s!"could not convert string to float: {Text.quote text}"
  | notTruth text => text
  | noMoment reason => reason
  | tooLong digits => Text.tooLongMessage (some digits)
  | unwritable => Text.tooLongMessage none
  | noDigits => "string index out of range"
  | noCharacter => "chr() arg not in range(0x110000)"
  | noNumber => "Python int too large to convert to C int"
  | noGroups => "'NoneType' object has no attribute 'groupdict'"
  | notText => "expected string or bytes-like object, got 'list'"
  | tooDeep => "maximum recursion depth exceeded"
  | unfollowed => "not followed"

end SchemaWrappers.Yaml
