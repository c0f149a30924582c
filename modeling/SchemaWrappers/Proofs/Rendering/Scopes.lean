import SchemaWrappers.Proofs.Method.Forwarding
import SchemaWrappers.Proofs.MethodTable.Partition
import SchemaWrappers.Proofs.Rendering.ClosedForm

/-! What the names in a generated module stand for. A parameter hides what the module imports, and a
name that the module imports and exports is declared twice. -/
namespace SchemaWrappers.Rendering
open Forwarding (Item)

/-- A function that a module exports, with the comment before it. It returns a call of what is found
from `root` on along `members`. -/
structure Exported where
  comment : String
  name : String
  parameters : List Item
  root : String
  members : List String
  arguments : List Item

/-- A module that imports all of `origin` as one name. -/
structure Generated where
  imported : String
  origin : String
  functions : List Exported

/-- Entries as they stand between the parentheses of a signature or a call. -/
def listed (is : List Item) : String := ", ".intercalate (is.map Item.written)

def Exported.text (f : Exported) : String :=
  "\n" ++ f.comment ++ "\n" ++
    "export function " ++ f.name ++ "(" ++ listed f.parameters ++ ") \x7b" ++ "\n" ++
    "  return " ++ ".".intercalate (f.root :: f.members) ++ "(" ++ listed f.arguments ++ ");" ++
    "\n" ++ "\x7d" ++ "\n"

def Generated.text (g : Generated) : String :=
  "// This file is generated by buildergen. Do not edit it by hand." ++ "\n" ++
    "import * as " ++ g.imported ++ " from \"" ++ g.origin ++ "\";" ++ "\n" ++
    String.join (g.functions.map Exported.text)

/-- What a name stands for. -/
inductive Referent where
  /-- A parameter of the function that it is used in. -/
  | parameter
  | imported
  | exported
  /-- Nothing, as the module declares it more than once, which no module can. -/
  | repeated
  /-- Nothing that the module declares. -/
  | unknown
  deriving DecidableEq, Repr

namespace Generated

def declarations (g : Generated) (x : String) : List Referent :=
  (if g.imported = x then [.imported] else []) ++
    (g.functions.filter (·.name == x)).map fun _ => .exported

/-- What a name stands for in a function of the module: the parameters come first. -/
def referent (g : Generated) (f : Exported) (x : String) : Referent :=
  if f.parameters.any (·.name == x) then .parameter
  else match g.declarations x with
    | [] => .unknown
    | [r] => r
    | _ => .repeated

/-- The name of the import stands for it unless the function or the module has another use for it. -/
theorem referent_imported (g : Generated) (f : Exported) :
    g.referent f g.imported =
      if f.parameters.any (·.name == g.imported) then .parameter
      else if g.functions.any (·.name == g.imported) then .repeated
      else .imported := by
  -- The import declares the name in any case, so only the exports of that name matter.
  have hdeclared : g.declarations g.imported =
      .imported :: (g.functions.filter (·.name == g.imported)).map fun _ => .exported := by
    rw [declarations, if_pos rfl, List.singleton_append]
  rw [referent, hdeclared]
  cases hexports : g.functions.filter (·.name == g.imported) with
  | nil =>
    have hnone : g.functions.any (·.name == g.imported) = false := by
      rw [List.any_eq_false]
      exact List.filter_eq_nil_iff.mp hexports
    rw [hnone]
    rfl
  | cons e es =>
    have he : e ∈ g.functions.filter (·.name == g.imported) := hexports ▸ List.mem_cons_self ..
    have hsome : g.functions.any (·.name == g.imported) = true :=
      List.any_eq_true.mpr ⟨e, List.mem_filter.mp he⟩
    rw [hsome]
    rfl

theorem referent_eq_imported_iff (g : Generated) (f : Exported) :
    g.referent f g.imported = .imported ↔
      (∀ i ∈ f.parameters, i.name ≠ g.imported) ∧ ∀ e ∈ g.functions, e.name ≠ g.imported := by
  have hparameters : f.parameters.any (·.name == g.imported) = false ↔
      ∀ i ∈ f.parameters, i.name ≠ g.imported := by
    simp
  have hexports : g.functions.any (·.name == g.imported) = false ↔
      ∀ e ∈ g.functions, e.name ≠ g.imported := by
    simp
  rw [referent_imported, ← hparameters, ← hexports]
  cases f.parameters.any (·.name == g.imported) with
  | true => simp
  | false =>
    cases g.functions.any (·.name == g.imported) with
    | true => simp
    | false => simp

end Generated

variable (v : Vocabulary) (l : Library)

def entry (m : Method) (x : String) : Item where
  name := x
  spread := match m.isRest x with
    | .ok rest => rest
    | .error _ => false

def exported (m : Method) : Exported where
  comment := DocBlock.block (v.patch l.namespaceName) m
  name := m.name
  parameters := m.parameterNames.map (entry m)
  root := l.namespaceName
  members := [l.instanceName, m.name]
  arguments := m.parameterNames.map (entry m)

/-- The module that is generated for some methods. -/
def generated (methods : List Method) : Generated where
  imported := l.namespaceName
  origin := l.moduleName
  functions := methods.map (exported v l)

theorem listed_entries (m : Method) :
    listed (m.parameterNames.map (entry m)) = ", ".intercalate m.renderedParameters := by
  have hwritten : Item.written ∘ entry m = m.rendered := by
    funext x
    rw [Function.comp_apply, Method.rendered, entry, Item.written]
    rcases m.isRest x with _ | _ | _ <;> rfl
  rw [listed, List.map_map, hwritten, Method.renderedParameters]

theorem text_exported (m : Method) : (exported v l m).text = wrapper v l m := by
  have hpath : ".".intercalate [l.namespaceName, l.instanceName, m.name] =
      l.namespaceName ++ "." ++ l.instanceName ++ "." ++ m.name := by
    simp only [String.intercalate_cons_cons, String.intercalate_singleton, String.append_assoc]
  unfold Exported.text exported wrapper
  simp only [listed_entries, hpath, String.append_assoc]

theorem text_generated (methods : List Method) :
    (generated v l methods).text = header l ++ String.join (methods.map (wrapper v l)) := by
  have htexts : (methods.map (exported v l)).map Exported.text = methods.map (wrapper v l) := by
    rw [List.map_map]
    exact List.map_congr_left fun m _ => text_exported v l m
  unfold Generated.text generated header
  simp only [htexts, String.append_assoc]

/-- Nothing but the generated module is rendered with the template that comes with the program. -/
theorem run_render_generated (methods : List Method) (w : World) :
    (render none v l methods).run w = (.ok (generated v l methods).text,
      w.record (Log.debug "renderer" s!"Rendered {methods.length} methods with {bundledName}")) := by
  rw [text_generated]
  exact run_render rfl (fill_bundled v l methods)

section
variable {os : List Overload} {ms : List Method} (h : buildMethods os = .ok ms)
include h

theorem mem_parameterNames_iff {m : Method} (hm : m ∈ ms) {x : String} :
    x ∈ m.parameterNames ↔ ∃ o ∈ os, o.name = m.name ∧ o.declares x = true := by
  obtain ⟨n, -, rfl⟩ := (MethodTable.mem_methods h).mp hm
  rw [MethodTable.methodNamed, Method.mem_merge_parameterNames]
  simp [Method.add, Method.merge, Overload.declares, and_assoc]

theorem has_parameter_iff {m : Method} (hm : m ∈ ms) (x : String) :
    (exported v l m).parameters.any (·.name == x) = true ↔
      ∃ o ∈ os, o.name = m.name ∧ o.declares x = true := by
  rw [← mem_parameterNames_iff h hm, exported, List.any_map, List.any_eq_true]
  simp [entry]

theorem exists_method_iff {x : String} : (∃ m ∈ ms, m.name = x) ↔ ∃ o ∈ os, o.name = x := by
  constructor
  · rintro ⟨m, hm, rfl⟩
    exact (MethodTable.madeFrom_of_mem_methods h hm).name
  · rintro ⟨o, ho, rfl⟩
    exact ⟨_, (MethodTable.mem_methods h).mpr ⟨o.name, ⟨o, ho, rfl⟩, rfl⟩, rfl⟩

/-- A module exports the declared names. -/
theorem exports_iff (x : String) : (generated v l ms).functions.any (·.name == x) = true ↔
    ∃ o ∈ os, o.name = x := by
  rw [← exists_method_iff h, generated, List.any_map, List.any_eq_true]
  simp [exported]

theorem referent_root {m : Method} (hm : m ∈ ms) :
    (generated v l ms).referent (exported v l m) l.namespaceName =
      if ∃ o ∈ os, o.name = m.name ∧ o.declares l.namespaceName = true then .parameter
      else if ∃ o ∈ os, o.name = l.namespaceName then .repeated
      else .imported := by
  have himported : (generated v l ms).imported = l.namespaceName := rfl
  rw [← himported, Generated.referent_imported, himported]
  simp only [has_parameter_iff v l h hm, exports_iff v l h]

theorem referent_root_eq_imported_iff {m : Method} (hm : m ∈ ms) :
    (generated v l ms).referent (exported v l m) l.namespaceName = .imported ↔
      (∀ o ∈ os, o.name = m.name → ∀ p ∈ o.parameters, p.name ≠ l.namespaceName) ∧
        ∀ o ∈ os, o.name ≠ l.namespaceName := by
  have hparameters := not_congr (has_parameter_iff v l h hm l.namespaceName)
  have hexports := not_congr (exports_iff v l h l.namespaceName)
  simp only [List.any_eq_true, beq_iff_eq, Overload.declares, not_exists, not_and] at hparameters hexports
  exact (Generated.referent_eq_imported_iff ..).trans (and_congr hparameters hexports)

/-- The entries of a signature are read back from its text as long as names are bare. -/
theorem items_listed {m : Method} (hm : m ∈ ms)
    (hbare : ∀ o ∈ os, ∀ p ∈ o.parameters, Forwarding.Bare p.name) :
    Forwarding.items (listed (exported v l m).parameters) = (exported v l m).parameters := by
  apply Forwarding.items_written
  intro i hi
  obtain ⟨x, hx, rfl⟩ := List.mem_map.mp hi
  obtain ⟨o, ho, -, hdeclared⟩ := (mem_parameterNames_iff h hm).mp hx
  obtain ⟨p, hp, hname⟩ := List.any_eq_true.mp hdeclared
  obtain rfl : p.name = x := by simpa using hname
  exact hbare o ho p hp

end

/-- A generated module calls the library through the name of its import. In a function that name stands
for a parameter if an overload of the function declares one so named, for nothing if the module exports
a function of that name, and for the import else. So all functions reach the library just if no method
and no parameter has the name of the import. -/
theorem stubs_reach_library_iff {os : List Overload} {ms : List Method}
    (h : buildMethods os = .ok ms) (v : Vocabulary) (l : Library) :
    let g := generated v l ms
    (∀ w, (render none v l ms).run w = (.ok g.text,
      w.record (Log.debug "renderer" s!"Rendered {ms.length} methods with {bundledName}"))) ∧
    (∀ f ∈ g.functions, f.root = g.imported ∧ f.arguments = f.parameters ∧
      ((∀ o ∈ os, ∀ p ∈ o.parameters, Forwarding.Bare p.name) →
        Forwarding.items (listed f.parameters) = f.parameters) ∧
      (g.referent f f.root = .imported ↔
        (∀ i ∈ f.parameters, i.name ≠ g.imported) ∧ ∀ e ∈ g.functions, e.name ≠ g.imported) ∧
      g.referent f f.root =
        if ∃ o ∈ os, o.name = f.name ∧ o.declares l.namespaceName = true then .parameter
        else if ∃ o ∈ os, o.name = l.namespaceName then .repeated
        else .imported) ∧
    ((∀ f ∈ g.functions, g.referent f f.root = .imported) ↔
      ∀ o ∈ os, o.name ≠ l.namespaceName ∧ ∀ p ∈ o.parameters, p.name ≠ l.namespaceName) := by
  intro g
  have hfunctions : ∀ {f}, f ∈ g.functions ↔ ∃ m ∈ ms, exported v l m = f := List.mem_map
  refine ⟨run_render_generated v l ms, ?_, ?_, ?_⟩
  · intro f hf
    obtain ⟨m, hm, rfl⟩ := hfunctions.mp hf
    exact ⟨rfl, rfl, items_listed v l h hm, g.referent_eq_imported_iff _, referent_root v l h hm⟩
  · intro hall o ho
    obtain ⟨m, hm, hname⟩ := (exists_method_iff h).mpr ⟨o, ho, rfl⟩
    have hreached := hall _ (hfunctions.mpr ⟨m, hm, rfl⟩)
    obtain ⟨hparameters, hnames⟩ := (referent_root_eq_imported_iff v l h hm).mp hreached
    exact ⟨hnames o ho, hparameters o ho hname.symm⟩
  · intro hfree f hf
    obtain ⟨m, hm, rfl⟩ := hfunctions.mp hf
    exact (referent_root_eq_imported_iff v l h hm).mpr
      ⟨fun o ho _ => (hfree o ho).2, fun o ho => (hfree o ho).1⟩

theorem object_reaches_library :
    let l : Library := ⟨"typebox", "@sinclair/typebox", "Type"⟩
    let os : List Overload := [
      { owner := "B", name := "Object", parameters := [{ name := "properties" }] },
      { owner := "B", name := "Object", parameters := [{ name := "types" }, { name := "rest", rest := true }] }]
    let m := MethodTable.methodNamed os "Object"
    buildMethods os = .ok [m] ∧ m.renderedParameters = ["properties", "types", "...rest"] ∧
      ∀ f ∈ (generated {} l [m]).functions, (generated {} l [m]).referent f f.root = .imported := by
  intro l os m
  have hos : buildMethods os = .ok [m] := by decide +kernel
  exact ⟨hos, by decide, (stubs_reach_library_iff hos {} l).2.2.mpr (by decide)⟩

/-- A parameter with the name of the import is called in its place, and a method of that name declares
it once more. -/
theorem import_hidden_by_declarations :
    let l : Library := ⟨"typebox", "@sinclair/typebox", "Type"⟩
    let os : List Overload := [{ owner := "B", name := "Name", parameters := [{ name := "typebox" }] }]
    let os' : List Overload := [{ owner := "B", name := "typebox" }]
    let m := MethodTable.methodNamed os "Name"
    let m' := MethodTable.methodNamed os' "typebox"
    (buildMethods os = .ok [m] ∧ (exported {} l m).text = String.join (["", "/**",
        " * Creates a schema for a `Name` type.", " *", " * @param \x7b*\x7d typebox", " */",
        "export function Name(typebox) \x7b", "  return typebox.Type.Name(typebox);", "\x7d"].map (· ++ "\n")) ∧
      (generated {} l [m]).referent (exported {} l m) "typebox" = .parameter) ∧
    buildMethods os' = .ok [m'] ∧
      (generated {} l [m']).referent (exported {} l m') "typebox" = .repeated := by
  decide +kernel

end SchemaWrappers.Rendering
