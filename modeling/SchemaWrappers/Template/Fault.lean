import SchemaWrappers.Text.Number
import SchemaWrappers.Text.Quoted
import SchemaWrappers.Text.Utf8

namespace SchemaWrappers.Template

/-- The ways in which a value cannot be used as it is. -/
inductive Misuse where
  | kind
  | value
  | divisionByZero
  | overflow
  | place
  | key
  | field
  | name
  | assertion
  | depth
  | state
  | form
  deriving DecidableEq, Repr

/-- A template is not well formed or asks for what it cannot get, it uses what is absent, it names a
template that is not there, it does with a value what cannot be done with it, or a file that it
names is no text. `unfollowed` is what is not told here: it goes on with half of a surrogate pair or with
the place of a value in memory. -/
inductive Fault where
  | template (message : String)
  | absent (message : String)
  | notFound (message : String)
  | misuse (m : Misuse) (message : String)
  | encoding (e : Utf8.Error)
  | unfollowed
  deriving DecidableEq, Repr

namespace Fault

def kind (message : String) : Fault := .misuse .kind message

def value (message : String) : Fault := .misuse .value message

def tooLong (digits : Option Nat) : Fault := value (Text.tooLongMessage digits)

end Fault
end SchemaWrappers.Template
