import SchemaWrappers.CommandLine.Perform

/-! The paths that a call may look at. They become more as the files at them are known. -/
namespace SchemaWrappers.CommandLine

def settingsPaths (r : Request) (w : World) : List Path :=
  match (Path.ofText r.config).expand w.place with
  | some p => [p, p.child Settings.fileName]
  | none => []

def optionsPaths (w : World) (output : Path) : List Path :=
  match output.parent.expand w.place with
  | some p => (p.resolve w.place.here).ancestors.map (·.child Output.optionsName)
  | none => []

def templatePaths (w : World) (p : Path) : List Path :=
  let named := match textIn w p with
    | some text => (Template.tokens text.toList).filterMap fun t =>
      match t.token with
      | .text name => Rendering.pathIn? p.parent name
      | _ => none
    | none => []
  p :: named
where
  textIn (w : World) (p : Path) : Option String := (w.tree.readText w.place.here p).toOption

def reach (r : Request) (w : World) : List Path :=
  let found := match ((Settings.load (Path.ofText r.config)).run w).1 with
    | .ok s =>
      let output := (r.output.map Path.ofText).getD s.output
      let roots := s.rootFiles.filterMap (·.expand w.place)
      let templates := match s.template with
        | some p => (templatePaths w p).flatMap (templatePaths w)
        | none => []
      roots ++ templates ++ output :: optionsPaths w output
    | .error _ => []
  (settingsPaths r w ++ found ++ (r.logFile.map Path.ofText).toList).map (·.resolve w.place.here)

end SchemaWrappers.CommandLine
