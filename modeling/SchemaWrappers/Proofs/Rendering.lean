import SchemaWrappers.Proofs.Except
import SchemaWrappers.Proofs.Log
import SchemaWrappers.Proofs.Vocabulary.Qualify
import SchemaWrappers.Rendering

/-! What a rendering depends on: the tokens as a set, and of the world the templates alone that it asks
for. -/
namespace SchemaWrappers.Rendering
open Run
open Template (Fault Shelf)

theorem stub_congr {v v' : Vocabulary} (h : ∀ t, t ∈ v.tokens ↔ t ∈ v'.tokens) :
    stub v = stub v' := by
  funext namespaceName m
  rw [stub, stub, Vocabulary.patch_congr h]

theorem render_congr {v v' : Vocabulary} (h : ∀ t, t ∈ v.tokens ↔ t ∈ v'.tokens)
    (path : Option Path) (l : Library) (methods : List Method) :
    render path v l methods = render path v' l methods := by
  rw [render, render, stub_congr h]

theorem run_template_some (p : Path) (w : World) :
    (template (some p)).run w = (match (shelf w p.parent).text? p.name with
      | .error e => .error (.encoding e)
      | .ok none => .error (.templateMissing p.text)
      | .ok (some text) => .ok (p.name, shelf w p.parent, text), w) := by
  rw [template, run_bind, run_get]
  dsimp only
  rcases (shelf w p.parent).text? p.name with _ | _ | _
  · rfl
  · rfl
  · rfl

theorem run_render {path : Option Path} {v : Vocabulary} {l : Library} {methods : List Method} {w : World}
    {file text out : String} {beside : Shelf}
    (htemplate : (template path).run w = (.ok (file, beside, text), w))
    (hfill : Template.fill beside file text (methods.map (stub v l.namespaceName)).length
      (names l (methods.map (stub v l.namespaceName))) = .ok out) :
    (render path v l methods).run w =
      (.ok out, w.record (Log.debug "renderer" s!"Rendered {methods.length} methods with {file}")) := by
  rw [render, run_bind, htemplate]
  dsimp only
  rw [hfill, List.length_map]
  rfl

theorem reads_template (path : Option Path) : Reads (template path) := by
  intro w
  cases path with
  | none => rfl
  | some p => rw [run_template_some]

/-- What a rendering comes to once its template is filled in. -/
def outcome (path : Option Path) (file : String) : Except Template.Failed String → Except Failure String
  | .error (.reading f) => .error (failure (.templateInvalid ((path.map Path.text).getD file)) f)
  | .error (.filling f) => .error (failure (.rendering file) f)
  | .ok text => .ok text

theorem answer_render (path : Option Path) (v : Vocabulary) (l : Library) (methods : List Method)
    (w : World) : answer (render path v l methods) w =
      (answer (template path) w).bind fun found => outcome path found.1 (Template.fill found.2.1
        found.1 found.2.2 (methods.map (stub v l.namespaceName)).length
        (names l (methods.map (stub v l.namespaceName)))) := by
  rw [render, (reads_template path).answer_bind]
  refine congrArg _ (funext fun found => ?_)
  obtain ⟨file, beside, text⟩ := found
  dsimp only
  split
  · rename_i h
    rw [h]
    rfl
  · rename_i h
    rw [h]
    rfl
  · rename_i h
    rw [h]
    rfl

/-- The names under which a rendering asks for templates: its own, and those that its template asks
for. -/
def askedFor (w : World) (p : Path) (v : Vocabulary) (l : Library) (methods : List Method) :
    List String :=
  let stubs := methods.map (stub v l.namespaceName)
  p.name :: match textIn w p.parent p.name with
    | .ok (some text) =>
      Template.lookedFor (shelf w p.parent) p.name text stubs.length (names l stubs)
    | _ => []

/-- How often a rendering draws lots. -/
def draws (w : World) (p : Path) (v : Vocabulary) (l : Library) (methods : List Method) : Nat :=
  let stubs := methods.map (stub v l.namespaceName)
  match textIn w p.parent p.name with
  | .ok (some text) => Template.drawn (shelf w p.parent) p.name text stubs.length (names l stubs)
  | _ => 0

/-- Worlds that have the same texts for the templates asked for answer the same text, if chance has no
part in it or is the same. -/
theorem answer_render_congr {path : Option Path} {w w' : World} {v : Vocabulary} {l : Library}
    {methods : List Method} (hplace : w'.place = w.place)
    (h : ∀ p, path = some p →
      (∀ n ∈ askedFor w p v l methods, textIn w' p.parent n = textIn w p.parent n) ∧
      (draws w p v l methods = 0 ∨ w'.chance = w.chance)) :
    answer (render path v l methods) w' = answer (render path v l methods) w := by
  rw [answer_render, answer_render]
  cases path with
  | none => rfl
  | some p =>
    obtain ⟨htexts, hchance⟩ := h p rfl
    have hown : textIn w' p.parent p.name = textIn w p.parent p.name :=
      htexts _ (List.mem_cons_self ..)
    rw [answer, answer, run_template_some, run_template_some]
    dsimp only [shelf]
    rw [hown, hplace]
    rcases htext : textIn w p.parent p.name with e | _ | text
    · rfl
    · rfl
    · refine congrArg (outcome (some p) p.name) (Template.Inquiry.answered_congr (fun n hn => ?_) ?_)
      · refine htexts n ?_
        rw [askedFor, htext]
        exact List.mem_cons_of_mem _ hn
      · rw [draws, htext] at hchance
        exact hchance

theorem textIn_changed {P : Location → Prop} {w w' : World} (h : w.tree.ChangedOnly P w'.tree)
    (hplace : w'.place = w.place) {dir : Path} {n : String}
    (hq : ∀ q, pathIn? dir n = some q → ∀ l, w.tree.Names w.place.here q l → ¬ P l) :
    textIn w' dir n = textIn w dir n := by
  rw [textIn, textIn, hplace]
  cases hp : pathIn? dir n with
  | none => rfl
  | some q =>
    dsimp only
    rw [FileTree.isFile_changed h (hq q hp)]
    rcases hfile : w.tree.isFile w.place.here q with e | _ | _
    · rfl
    · rfl
    · obtain ⟨bytes, hlook⟩ := FileTree.isFile_eq_true.mp hfile
      obtain ⟨l, hl⟩ := FileTree.names_of_look hlook
      rw [FileTree.readText_changed h hl (hq q hp l hl)]

/-- What is recorded does not show in the directory of the template that is set. -/
def LogApart (w : World) (path : Option Path) : Prop :=
  ∀ p, path = some p → ∀ rs : List Log.Record, shelf (rs.foldl World.record w) p.parent = shelf w p.parent

/-- Where no file takes records, no template can show them. -/
theorem logApart_of_no_file {w : World} (h : w.sinks.bind (·.file) = none) (path : Option Path) :
    LogApart w path := by
  intro p _ rs
  have htext : textIn (rs.foldl World.record w) p.parent = textIn w p.parent := by
    funext name
    rw [textIn, textIn, World.tree_records h, (World.recorded_records w rs).place]
  have hrecorded := World.recorded_records w rs
  rw [shelf, shelf, htext, hrecorded.place, hrecorded.chance]

/-- The failures to render that are not reported: a template that is no text, and a template that does
with a value what cannot be done with it, nests too deep or names one that is no text. The last one is
that of a template that is not followed. -/
inductive Unreported (path : Option Path) (v : Vocabulary) (l : Library) (methods : List Method)
    (w : World) : Failure → Prop where
  | notText {p q : Path} {bytes : List UInt8} {e : Utf8.Error} (h : path = some p)
      (hq : pathIn? p.parent p.name = some q)
      (hf : w.tree.look w.place.here q = .ok (some (.file bytes)))
      (hd : Utf8.decode bytes = .error e) : Unreported path v l methods w (.encoding e)
  | encoding {file text : String} {beside : Template.Shelf} {f : Template.Failed} {e : Utf8.Error}
      (h : answer (template path) w = .ok (file, beside, text))
      (hf : Template.fill beside file text (methods.map (stub v l.namespaceName)).length
        (names l (methods.map (stub v l.namespaceName))) = .error f)
      (he : f.fault = .encoding e) : Unreported path v l methods w (.encoding e)
  | misuse {file text m : String} {beside : Template.Shelf} {f : Template.Failed} {k : Template.Misuse}
      (h : answer (template path) w = .ok (file, beside, text))
      (hf : Template.fill beside file text (methods.map (stub v l.namespaceName)).length
        (names l (methods.map (stub v l.namespaceName))) = .error f)
      (he : f.fault = .misuse k m) : Unreported path v l methods w (.misuse k m)
  | unfollowed {file text : String} {beside : Template.Shelf} {f : Template.Failed}
      (h : answer (template path) w = .ok (file, beside, text))
      (hf : Template.fill beside file text (methods.map (stub v l.namespaceName)).length
        (names l (methods.map (stub v l.namespaceName))) = .error f)
      (he : f.fault = .unfollowed) : Unreported path v l methods w .unfollowed

theorem records_render (path : Option Path) (v : Vocabulary) (l : Library) (methods : List Method) :
    Records (render path v l methods) := by
  refine (reads_template path).records.bind fun found => ?_
  obtain ⟨file, beside, text⟩ := found
  dsimp only
  split
  · exact .throw _
  · exact .throw _
  · exact (Records.report _).bind fun _ => .pure _

end SchemaWrappers.Rendering
