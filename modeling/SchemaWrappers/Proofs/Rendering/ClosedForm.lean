import SchemaWrappers.Proofs.Rendering
import SchemaWrappers.Proofs.Template.Filling

/-! The generated module as the template that comes with the program makes it: two lines, and for each
method its comment and its function. -/
namespace SchemaWrappers.Rendering
open Template

def header (l : Library) : String :=
  "// This file is generated by buildergen. Do not edit it by hand." ++ "\n" ++
    "import * as " ++ l.namespaceName ++ " from \"" ++ l.moduleName ++ "\";" ++ "\n"

/-- What a generated module holds of a method: an empty line, its comment, and the function that passes
its parameters on. -/
def wrapper (v : Vocabulary) (l : Library) (m : Method) : String :=
  let params := ", ".intercalate m.renderedParameters
  "\n" ++ DocBlock.block (v.patch l.namespaceName) m ++ "\n" ++
    "export function " ++ m.name ++ "(" ++ params ++ ") \x7b" ++ "\n" ++
    "  return " ++ l.namespaceName ++ "." ++ l.instanceName ++ "." ++ m.name ++ "(" ++ params ++ ");" ++
    "\n" ++ "\x7d" ++ "\n"

/-- The template that comes with the program, behind its comment. -/
def bundledSheet : Sheet where
  head :=
    { slots := [
        ⟨("// This file is generated by buildergen. Do not edit it by hand." ++ "\n" ++
          "import * as ").toList, "namespace", none⟩,
        ⟨" from \"".toList, "module", none⟩]
      tail := ("\";" ++ "\n").toList }
  item := "method"
  source := "methods"
  body :=
    { slots := [
        ⟨"\n".toList, "method", some "comment"⟩,
        ⟨("\n" ++ "export function ").toList, "method", some "name"⟩,
        ⟨"(".toList, "method", some "params"⟩,
        ⟨(") \x7b" ++ "\n" ++ "  return ").toList, "namespace", none⟩,
        ⟨".".toList, "instance", none⟩,
        ⟨".".toList, "method", some "name"⟩,
        ⟨"(".toList, "method", some "params"⟩]
      tail := (");" ++ "\n" ++ "\x7d" ++ "\n").toList }

theorem toList_of_eq_ofList {s : String} {cs : List Char} (h : s = String.ofList cs) : s.toList = cs := by
  rw [h, String.toList_ofList]

theorem fit_bundledSheet : bundledSheet.Fit where
  head := by
    simp only [bundledSheet, String.toList_append, toList_of_eq_ofList rfl]
    decide +kernel
  headLine := .inr (by decide +kernel)
  body := by
    simp only [bundledSheet, String.toList_append, toList_of_eq_ofList rfl]
    decide +kernel
  bodyLine := .inr (by decide +kernel)
  item := by decide +kernel
  itemFree := by decide +kernel
  itemEnds := by decide +kernel
  source := by decide +kernel
  sourceFree := by decide +kernel
  sourceEnds := by decide +kernel
  shallow := by decide +kernel

theorem apart_bundledSheet : bundledSheet.Apart where
  self := by decide +kernel
  counter := by decide +kernel
  item := by decide +kernel

/-- The lines of the template with what they put in: its comment, the lines before the loop, those that
the loop encloses, and the two tags of the loop. -/
theorem toList_bundledLines : bundledLines.map String.toList = [
    '«' :: '#' :: (" Module template for buildergen, rendered once per run. ".toList ++ ['#', '»']),
    "// This file is generated by buildergen. Do not edit it by hand.".toList,
    Slot.written ⟨"import * as ".toList, "namespace", none⟩ ++
      Slot.written ⟨" from \"".toList, "module", none⟩ ++ "\";".toList,
    '«' :: '%' :: (bundledSheet.forTag ++ ['%', '»']),
    [],
    Slot.written ⟨[], "method", some "comment"⟩,
    Slot.written ⟨"export function ".toList, "method", some "name"⟩ ++
      Slot.written ⟨"(".toList, "method", some "params"⟩ ++ ") \x7b".toList,
    Slot.written ⟨"  return ".toList, "namespace", none⟩ ++ Slot.written ⟨".".toList, "instance", none⟩ ++
      Slot.written ⟨".".toList, "method", some "name"⟩ ++
      Slot.written ⟨"(".toList, "method", some "params"⟩ ++ ");".toList,
    "\x7d".toList,
    '«' :: '%' :: (Sheet.endTag ++ ['%', '»'])] := by
  simp only [bundledLines, List.map_cons, List.map_nil, bundledSheet, Slot.written, Slot.inner,
    Sheet.forTag, Sheet.endTag, toList_of_eq_ofList rfl, List.cons_append, List.nil_append]

theorem bundledText_toList : bundledText.toList = '«' :: '#' ::
    (" Module template for buildergen, rendered once per run. ".toList ++
      '#' :: '»' :: '\n' :: bundledSheet.written) := by
  have hend : "\n".toList = ['\n'] := toList_of_eq_ofList rfl
  have hlines : bundledText.toList = (bundledLines.map String.toList).flatMap (· ++ ['\n']) := by
    rw [bundledText, String.toList_join, List.flatMap_map, List.flatMap_map]
    simp only [String.toList_append, hend]
  rw [hlines, toList_bundledLines]
  simp only [bundledSheet, Sheet.written, Sheet.forTag, Row.written, Slot.written, Slot.inner,
    List.flatMap_cons, List.flatMap_nil, String.toList_append, hend, List.append_assoc, List.cons_append,
    List.nil_append, List.append_nil]

theorem written_bundledText : Written bundledText.toList bundledSheet.tokens := by
  have hplain : " Module template for buildergen, rendered once per run. ".toList.any
      ['#', '-', '+'].contains = false := by decide +kernel
  have hbody : ∀ c ∈ " Module template for buildergen, rendered once per run. ".toList,
      c ∉ ['#', '-', '+'] := fun c hc => by simpa using List.any_eq_false.mp hplain c hc
  have hcomment := Written.comment (List.not_mem_nil (a := '«')) (.inl rfl) hbody fit_bundledSheet.written
  rw [List.nil_append, show dataTokens [] = [] from rfl, List.nil_append] at hcomment
  rwa [bundledText_toList]

section
variable (v : Vocabulary) (l : Library) (stubs : List Stub)

/-- The names that templates are filled in with; the list of methods is in the first cell. -/
def given : List (String × Value) :=
  [("methods", .list 0), ("namespace", .plain l.namespaceName), ("module", .plain l.moduleName),
    ("instance", .plain l.instanceName)]

theorem yields_names (g : Engine) : Yields (names l stubs) g Store.blank (given l)
    { Store.blank with cells := #[.list (stubs.map Value.stub).toArray] } := rfl

theorem standing_methods : standing (given l) "methods" = .list 0 := rfl
theorem standing_namespace : standing (given l) "namespace" = .plain l.namespaceName := rfl
theorem standing_module : standing (given l) "module" = .plain l.moduleName := rfl
theorem standing_instance : standing (given l) "instance" = .plain l.instanceName := rfl

theorem served_bundledSheet : bundledSheet.Served (standing (given l)) 0 (stubs.map Value.stub) where
  source := standing_methods l
  head := by simp [Row.Shows, bundledSheet, standing_namespace, standing_module]
  body := by
    intro v hv
    obtain ⟨m, -, rfl⟩ := List.mem_map.mp hv
    simp [Row.Shows, bundledSheet, Sheet.inLoop, standing_namespace, standing_instance]

theorem texts_head :
    String.join (bundledSheet.head.texts (Slot.shown (standing (given l)))) = header l := by
  refine (Row.join_texts ..).trans ?_
  simp only [bundledSheet, List.map_cons, List.map_nil, Slot.shown, standing_namespace, standing_module,
    Slot.shows_plain, String.ofList_toList, Option.getD_some]
  unfold header
  simp only [String.join_cons, String.join_nil, String.append_empty, String.append_assoc]

theorem texts_body (m : Method) : String.join (bundledSheet.body.texts (Slot.shown
    (bundledSheet.inLoop (standing (given l)) (.stub (stub v l.namespaceName m))))) = wrapper v l m := by
  generalize hvalue : bundledSheet.inLoop (standing (given l)) (.stub (stub v l.namespaceName m)) = value
  have hmethod : value "method" = .stub (stub v l.namespaceName m) := by
    rw [← hvalue]
    rfl
  have hnamespace : value "namespace" = .plain l.namespaceName := by
    rw [← hvalue]
    rfl
  have hinstance : value "instance" = .plain l.instanceName := by
    rw [← hvalue]
    rfl
  have hname (front : List Char) : Slot.shown value ⟨front, "method", some "name"⟩ = m.name := by
    rw [Slot.shown, hmethod]
    rfl
  have hcomment (front : List Char) : Slot.shown value ⟨front, "method", some "comment"⟩ =
      DocBlock.block (v.patch l.namespaceName) m := by
    rw [Slot.shown, hmethod]
    rfl
  have hparams (front : List Char) : Slot.shown value ⟨front, "method", some "params"⟩ =
      ", ".intercalate m.renderedParameters := by
    rw [Slot.shown, hmethod]
    rfl
  refine (Row.join_texts ..).trans ?_
  simp only [bundledSheet, List.map_cons, List.map_nil, hname, hcomment, hparams, String.ofList_toList]
  simp only [Slot.shown, hnamespace, hinstance, Slot.shows_plain, Option.getD_some]
  unfold wrapper
  simp only [String.join_cons, String.join_nil, String.append_empty, String.append_assoc]

theorem join_texts (methods : List Method) : String.join (bundledSheet.texts (standing (given l))
    ((methods.map (stub v l.namespaceName)).map Value.stub)) =
      header l ++ String.join (methods.map (wrapper v l)) := by
  have hbody : String.join (methods.map fun m => String.join (bundledSheet.body.texts (Slot.shown
      (bundledSheet.inLoop (standing (given l)) (.stub (stub v l.namespaceName m)))))) =
      String.join (methods.map (wrapper v l)) :=
    congrArg String.join (List.map_congr_left fun m _ => texts_body v l m)
  rw [Sheet.texts, String.join_append, texts_head, List.map_map, List.flatMap_map, join_flatMap]
  exact congrArg (header l ++ ·) hbody

theorem fill_bundled (methods : List Method) :
    let stubs := methods.map (stub v l.namespaceName)
    fill bundledShelf bundledName bundledText stubs.length (names l stubs) =
      .ok (header l ++ String.join (methods.map (wrapper v l))) := by
  intro stubs
  rw [fill, filling_sheet fit_bundledSheet apart_bundledSheet written_bundledText (yields_names l stubs)
    rfl (served_bundledSheet l stubs) (Nat.le_of_eq (List.length_map ..)), join_texts]
  rfl

end

/-- Rendering with the template that comes with the program always succeeds. The generated module is its
header and the wrapper of each method, in order, with all texts as they are. -/
theorem render_bundled (v : Vocabulary) (l : Library) (methods : List Method) (w : World) :
    (render none v l methods).run w = (.ok (header l ++ String.join (methods.map (wrapper v l))),
      w.record (Log.debug "renderer" s!"Rendered {methods.length} methods with {bundledName}")) :=
  run_render rfl (fill_bundled v l methods)

end SchemaWrappers.Rendering
