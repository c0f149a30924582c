import SchemaWrappers.Template.Fill

namespace SchemaWrappers.Template

/-- What templates are filled in with besides the values of names: the texts of the templates that are
there by their names, the directory that messages name, how many levels deep they may go beyond those
that there always are, and the lots that they draw. -/
structure Shelf where
  text? : String → Found
  folder : String
  levels : Nat
  chance : Chance

namespace Engine

/-- An engine that goes `fuel` levels deep, and through a loop so many `rounds`. -/
def ofFuel (folder : String) (rounds : Nat) : Nat → Engine
  | 0 =>
    let stop {α : Type} : Machine α :=
      throw (.misuse .depth "maximum recursion depth exceeded")
    { expr := fun _ _ => stop, parts := fun _ _ => stop, call := fun _ _ _ => stop
      next := fun _ => stop, filter := fun _ _ _ _ => stop, test := fun _ _ _ _ => stop
      rounds, levels := 0, folder }
  | fuel + 1 =>
    let g := ofFuel folder rounds fuel
    { expr := fun env e => Eval.evaluate env e g
      parts := fun env ps => Eval.fillParts env ps g
      call := fun env f args => Eval.callValue env f args g
      next := fun n => Eval.step n g
      filter := fun c n v args => Filters.apply c n v args g
      test := fun c n v args => Tests.apply c n v args g
      rounds, levels := fuel + 1, folder }

/-- More rounds than loops have that do not run through what a template is filled in with. -/
def manyRounds : Nat := 1000000000

end Engine

/-- A store with nothing but the contexts that stand for places before a template is filled in. -/
def Store.blank : Store where
  contexts := #[{ template := "", fixed := [], escape := 0 },
    { template := "", fixed := [], escape := 1 }]
  escapes := #[false, true]

/-- Why there is no text: the template is not well formed, or it fails while it is filled in. -/
inductive Failed where
  | reading (f : Fault)
  | filling (f : Fault)

def Failed.fault : Failed → Fault
  | reading f | filling f => f

/-- The text of a template filled in with names, but for the templates that it asks for and the lots that
it draws; the lists among the values of the names have no more than `size` items. -/
def filling (folder : String) (levels : Nat) (name text : String) (size : Nat)
    (names : Eval (List (String × Value))) : Inquiry (Except Failed String) := do
  let g := Engine.ofFuel folder (Engine.manyRounds + size) (levels + leastLevels)
  match ← (Eval.readied name text g).run Store.blank with
  | (.error f, _) => return .error (.reading f)
  | (.ok t, store) =>
    let filled : Eval String := do
      let fixed := (← names).foldl (fun all p => Assoc.set all p.1 p.2) Eval.everywhere
      let c ← Eval.newContext t fixed
      Eval.joined (← Eval.captured (Eval.runRoot c Eval.longestRow t))
    match ← (filled g).run store with
    | (.error f, _) => return .error (.filling f)
    | (.ok out, _) => return .ok out

def fill (s : Shelf) (name text : String) (size : Nat) (names : Eval (List (String × Value))) :
    Except Failed String :=
  (filling s.folder s.levels name text size names).answered s.text? s.chance

def lookedFor (s : Shelf) (name text : String) (size : Nat) (names : Eval (List (String × Value))) :
    List String :=
  (filling s.folder s.levels name text size names).asked s.text? s.chance

def drawn (s : Shelf) (name text : String) (size : Nat) (names : Eval (List (String × Value))) : Nat :=
  (filling s.folder s.levels name text size names).draws s.text? s.chance

end SchemaWrappers.Template
