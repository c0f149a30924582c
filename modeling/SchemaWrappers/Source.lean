import SchemaWrappers.Syntax.Node
import SchemaWrappers.Text.Utf8

namespace SchemaWrappers
open Syntax

structure Source where
  path : String
  text : String
  /-- The bytes of the text, which the ranges of the tree count. -/
  data : List UInt8
  tree : Node

namespace Source

/-- The characters that the bytes from `start` to `stop` hold in full. -/
def slice (s : Source) (start stop : Nat) : String :=
  String.ofList (Utf8.decodeLossy ((s.data.take stop).drop start))

def textOf (s : Source) (n : Node) : String := s.slice n.start n.stop

def fileName (s : Source) : String := ((s.path.splitOn "/").getLast?).getD s.path

end Source

/-- The sources of a run, and the paths that name its roots. -/
structure Program where
  sources : List Source
  roots : List String

namespace Program

def isRoot (p : Program) (s : Source) : Bool := p.roots.contains s.path

def rootSources (p : Program) : List Source := p.sources.filter p.isRoot

def source? (p : Program) (path : String) : Option Source :=
  p.sources.reverse.find? (·.path == path)

end Program
end SchemaWrappers
