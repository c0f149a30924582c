import SchemaWrappers.Proofs.Path
import SchemaWrappers.Proofs.Rendering.ClosedForm
import SchemaWrappers.Proofs.Text.Utf8

/-! Templates without an opening guillemet: they are rendered as they stand, whatever braces, hashes and
percent signs are in them. -/
namespace SchemaWrappers

/-- Line breaks that are made line feeds bring no other character into a text. -/
theorem FileTree.mem_of_mem_unifyLines {c : Char} {cs : List Char} (hc : c ≠ '\n')
    (h : c ∈ unifyLines cs) : c ∈ cs := by
  induction cs using unifyLines.induct with
  | case1 cs ih =>
    rw [unifyLines] at h
    rcases List.mem_cons.mp h with rfl | h
    · exact absurd rfl hc
    · exact List.mem_cons_of_mem _ (List.mem_cons_of_mem _ (ih h))
  | case2 cs hcs ih =>
    rw [unifyLines.eq_2 _ hcs] at h
    rcases List.mem_cons.mp h with rfl | h
    · exact absurd rfl hc
    · exact List.mem_cons_of_mem _ (ih h)
  | case3 d cs hd hd' ih =>
    rw [unifyLines.eq_3 _ _ hd hd'] at h
    rcases List.mem_cons.mp h with rfl | h
    · exact List.mem_cons_self ..
    · exact List.mem_cons_of_mem _ (ih h)
  | case4 => exact h

namespace Template
open Eval

def plainRow (cs : List Char) : Row := ⟨[], cs⟩

def plainParts (cs : List Char) : List Part := Reader.joinOutputs (plainRow cs).items []

variable {cs : List Char} {g : Engine} {s : Store}

theorem peak_plain (cs : List Char) : Nesting.peak {} (plainRow cs).tokens = 0 := by
  rw [Row.tokens, plainRow, List.flatMap_nil, List.nil_append, dataTokens]
  split
  · rfl
  · rfl

open Reader in
/-- A text without an opening guillemet is read as plain text. -/
theorem readAll_plain (h : '«' ∉ cs) (levels : Nat) :
    Part.readAll levels cs = .ok (plainParts cs) := by
  have hrow : (plainRow cs).Fit := ⟨by simp [plainRow], h⟩
  have htokens : (tokens cs).map (·.token) = (plainRow cs).tokens := tokens_written (.plain h)
  have hfuel : ∃ fuel, 16 * (tokens cs).length + 64 = fuel + 1 + 14 + (plainRow cs).items.length := by
    have hlength : (tokens cs).length = (plainRow cs).tokens.length := by rw [← htokens, List.length_map]
    have hitems := (plainRow cs).length_items
    exact ⟨16 * (tokens cs).length + 49 - (plainRow cs).items.length, by omega⟩
  obtain ⟨fuel, hfuel⟩ := hfuel
  have hcut : Nesting.cut levels {} (tokens cs) = tokens cs :=
    Nesting.cut_eq_self (by rw [htokens, peak_plain]; exact Nat.zero_le levels)
  rw [Part.readAll, hcut, hfuel, ← List.append_nil (tokens cs), run_parts_row hrow htokens]
  rw [run_parts_nil]
  rfl

theorem withinAll_plain (cs : List Char) :
    Part.withinAll (plainParts cs) = Reader.joinOutputs (plainRow cs).items [] := by
  rw [plainParts, withinAll_joinOutputs, Part.withinAll]

/-- A plain text asks for no names. -/
theorem ofRoot_plain (cs : List Char) : Scope.ofRoot ["self"] (plainParts cs) = {} := by
  have howners : "self" ∉ (plainRow cs).owners := by simp [plainRow, Row.owners]
  have hself : (["self"].filter fun n => asksFor n (plainParts cs)) = [] := by
    simp [plainParts, asksFor_row howners]
  rw [Scope.ofRoot, hself, plainParts, parts_joinOutputs, items_row, Scope.parts]
  rfl

/-- A plain text passes as it stands; it has no blocks, and extends no other template. -/
theorem yields_checkPlain (fuel : Nat) (name : String) (cs : List Char) :
    Yields (Check.template fuel name (plainParts cs)) g s ⟨name, plainParts cs, [], false⟩ s := by
  let root : Stand :=
    { top := true, root := true, declared := (Scope.ofRoot ["self"] (plainParts cs)).starts.map (·.1) }
  have hparts : Yields ((Check.parts root fuel (plainParts cs)).run false) g s (plainParts cs, false) s :=
    yields_checkJoined (by simp [plainRow]) rfl (fun fuel => yields_checkParts_nil fuel false) fuel
  rw [Check.template, withinAll_plain, Reader.joinOutputs]
  split
  · exact (Yields.pure ()).bind (hparts.bind ((Yields.pure []).bind (.pure _)))
  · exact (Yields.pure ()).bind (hparts.bind ((Yields.pure []).bind (.pure _)))

theorem yields_readiedPlain {text : String} (h : '«' ∉ text.toList) (name : String) :
    Yields (readied name text) g s ⟨name, plainParts text.toList, [], false⟩ s := by
  rw [readied]
  refine Yields.engine.bind ?_
  rw [readAll_plain h]
  exact yields_checkPlain ..

theorem yields_runOncePlain {c : Context} {k rounds : Nat} (fuel : Nat) (folder name : String)
    (hc : s.contexts[k]? = some c) (cs : List Char) :
    ∃ s' : Store, Yields (runOnce ⟨name, plainParts cs, [], false⟩ k)
      (Engine.ofFuel folder rounds (fuel + 1)) (s.saying []) none (s'.saying (dataTexts cs)) := by
  have hscope := ofRoot_plain cs
  refine yields_runOnce_of folder name hc (by simp [hscope]) (by rw [hscope]) ?_
  intro env s₁ hroot _
  -- There are no outputs, so it does not matter what they would be filled with.
  let fill : Slot → String := fun _ => ""
  have hslots : ∀ l ∈ (plainRow cs).slots,
      StandsFor (Engine.ofFuel folder rounds fuel) env s₁ l.expr (fill l) := by simp [plainRow]
  exact ⟨s₁, yields_fillJoined hroot.guarded hroot.escape hroot.varies hslots (.pure ()), rfl⟩

/-- A text without an opening guillemet is filled in as it stands, whatever it is filled in with. -/
theorem filling_plain {folder name text : String} {levels size : Nat} {names : Eval (List (String × Value))}
    {all : List (String × Value)} {cells : Array Cell} (h : '«' ∉ text.toList)
    (hnames : ∀ g, Yields names g Store.blank all { Store.blank with cells }) :
    filling folder levels name text size names = .done (.ok text) := by
  have hfilled : filling folder levels name text size names =
      .done (.ok (String.join (dataTexts text.toList))) :=
    filling_of (fun g _ => yields_readiedPlain h name) hnames fun s c k hc _ _ =>
      yields_runOncePlain (levels + 63) folder name hc text.toList
  rwa [join_dataTexts, String.ofList_toList] at hfilled

end Template

namespace Rendering
open Template Run
variable {p : Path} {text : String} {w : World}

/-- A template is looked for where its path leads. -/
theorem pathIn?_parent_name (hname : IsStep p.name) (hup : p.name ≠ "..") :
    pathIn? p.parent p.name = some p := by
  obtain ⟨anchor, names⟩ := p
  rcases List.eq_nil_or_concat names with rfl | ⟨front, n, rfl⟩
  · exact absurd rfl hname.1
  · rw [List.concat_eq_append] at hname hup ⊢
    have hlast : (Path.mk anchor (front ++ [n])).name = n := by
      rw [Path.name, List.getLast?_concat, Option.getD_some]
    rw [hlast] at hname hup ⊢
    have hpieces : Text.pieces (· == '/') n.toList = [n.toList] :=
      Text.pieces_of_forall_not fun c hc => beq_eq_false_iff_ne.mpr fun h => hname.2.2 (h ▸ hc)
    have hkept : [n].filter (fun p => p != "" && p != ".") = [n] :=
      List.filter_eq_self.mpr fun m hm => by simp [List.mem_singleton.mp hm, hname.1, hname.2.1]
    rw [pathIn?, hpieces, List.map_singleton, String.ofList_toList, if_neg (by simpa using hup.symm),
      hkept, Path.parent, List.dropLast_concat]

/-- The text of a template is that of its file, with its line breaks made line feeds. -/
theorem textIn_file (hname : IsStep p.name) (hup : p.name ≠ "..")
    (hfile : w.tree.look w.place.here p = .ok (some (.file (Utf8.encode text.toList)))) :
    textIn w p.parent p.name = .ok (some (String.ofList (FileTree.unifyLines text.toList))) := by
  rw [textIn, pathIn?_parent_name hname hup]
  dsimp only
  rw [FileTree.isFile_eq_true.mpr ⟨_, hfile⟩, FileTree.readText_file hfile, Utf8.decode_encode]
  rfl

/-- A template without an opening guillemet is rendered as it stands, with its line breaks made line
feeds, whatever it is rendered with. -/
theorem render_plain (hname : IsStep p.name) (hup : p.name ≠ "..")
    (hfile : w.tree.look w.place.here p = .ok (some (.file (Utf8.encode text.toList))))
    (hplain : '«' ∉ text.toList) (v : Vocabulary) (l : Library) (methods : List Method) :
    (render (some p) v l methods).run w = (.ok (String.ofList (FileTree.unifyLines text.toList)),
      w.record (Log.debug "renderer" s!"Rendered {methods.length} methods with {p.name}")) := by
  have htemplate : (template (some p)).run w = (.ok (p.name, shelf w p.parent,
      String.ofList (FileTree.unifyLines text.toList)), w) := by
    rw [run_template_some]
    dsimp only [shelf]
    rw [textIn_file hname hup hfile]
  have hunified : '«' ∉ (String.ofList (FileTree.unifyLines text.toList)).toList := by
    rw [String.toList_ofList]
    exact fun h => hplain (FileTree.mem_of_mem_unifyLines (by decide) h)
  refine run_render htemplate ?_
  rw [fill, filling_plain hunified (yields_names l _)]
  rfl

/-- A text that is full of what delimits other template languages. -/
def bracedText : String :=
  "#\x7b\x7b a \x7d\x7d\r\n\x7b%- for\r-%\x7d \x7b# » #\x7d\r\r\n# % »»\n\n"

def bracedDesk : World where
  place := { here := ⟨.top, ["p"]⟩, home := ⟨.top, ["h"]⟩ }
  tree := ⟨[(["p"], .directory), (["p", "plain.js"], .file (Utf8.encode bracedText.toList))]⟩

theorem braced_template_is_rendered_as_it_stands :
    IsStep (Path.ofText "../p/plain.js").name ∧ (Path.ofText "../p/plain.js").name ≠ ".." ∧
    bracedDesk.tree.look bracedDesk.place.here (Path.ofText "../p/plain.js") =
      .ok (some (.file (Utf8.encode bracedText.toList))) ∧
    '«' ∉ bracedText.toList ∧
    (render (some (Path.ofText "../p/plain.js")) ⟨[]⟩ ⟨"n", "m", "i"⟩ []).run bracedDesk =
      (.ok "#\x7b\x7b a \x7d\x7d\n\x7b%- for\n-%\x7d \x7b# » #\x7d\n\n# % »»\n\n",
        bracedDesk.record (Log.debug "renderer" "Rendered 0 methods with plain.js")) := by
  have hname : IsStep (Path.ofText "../p/plain.js").name ∧
      (Path.ofText "../p/plain.js").name ≠ ".." := by decide +kernel
  have hfile : bracedDesk.tree.look bracedDesk.place.here (Path.ofText "../p/plain.js") =
      .ok (some (.file (Utf8.encode bracedText.toList))) := by decide +kernel
  have hplain : '«' ∉ bracedText.toList := by decide +kernel
  refine ⟨hname.1, hname.2, hfile, hplain, ?_⟩
  rw [render_plain hname.1 hname.2 hfile hplain]
  have hunified : String.ofList (FileTree.unifyLines bracedText.toList) =
      "#\x7b\x7b a \x7d\x7d\n\x7b%- for\n-%\x7d \x7b# » #\x7d\n\n# % »»\n\n" := by decide +kernel
  rw [hunified]
  rfl

end Rendering
end SchemaWrappers
