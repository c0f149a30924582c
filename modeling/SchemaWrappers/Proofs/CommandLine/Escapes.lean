import SchemaWrappers.Proofs.CommandLine.Course

/-! Which failures break a call off, and how a call ends if none of them does. -/
namespace SchemaWrappers.CommandLine
open Run

variable {reader : Program.Reader} {r : Request} {w : World} {args : List String} {e : Failure}
  {result : Ending × World}

/-- The failures to draft a module that are not reported, by the stage at which they occur: loading
the settings, analysing the files, rendering the template, and laying the text out. -/
inductive Unreported (reader : Program.Reader) (r : Request) (w : World) : Failure → Prop where
  | settings {e : Failure} (h : Settings.Unreported (Path.ofText r.config) w e) :
      Unreported reader r w e
  | analysis {s : Settings} {e : Failure} (hs : answer (loaded r) w = .ok s)
      (h : Analysis.Unreported reader s ((loaded r).run w).2 e) : Unreported reader r w e
  | rendering {a : Analysis} {e : Failure} (ha : answer (analysed reader r) w = .ok a)
      (h : Rendering.Unreported a.settings.template a.vocabulary a.library a.methods
        ((analysed reader r).run w).2 e) : Unreported reader r w e
  | layout {a : Analysis} {text : String} {e : Failure}
      (ha : answer (rendered reader r) w = .ok (a, text))
      (h : Output.Unreported (target r a.settings) ((rendered reader r).run w).2 e) :
      Unreported reader r w e

end SchemaWrappers.CommandLine
