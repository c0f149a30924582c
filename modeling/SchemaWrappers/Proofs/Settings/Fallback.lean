import SchemaWrappers.Proofs.Settings.Loading
import SchemaWrappers.Proofs.Text.Pieces

/-! What holds where nothing is set: a settings file that is absent, that says nothing, or of which
nothing can be used leaves the defaults. -/
namespace SchemaWrappers.Settings
open Run

def isPlain (d : Yaml.Document) (n : Yaml.Node) : Bool :=
  !d.isCollection n && match d.scalar n with
    | .ok (.text _) | .ok (.halved _) | .ok (.whole _) | .ok (.decimal _) | .ok (.truth _) => true
    | _ => false

/-- A setting that is a text can be taken from a node: from a number, a truth value, or a text that is
not empty. -/
def givesText (d : Yaml.Document) (n : Yaml.Node) : Bool :=
  !d.isCollection n && match d.scalar n with
    | .ok (.text s) => !s.isEmpty
    | .ok (.halved _) | .ok (.whole _) | .ok (.decimal _) | .ok (.truth _) => true
    | _ => false

/-- A setting that is a list can be taken from a node: from a text, from bytes, and from a sequence
with something plain in it. -/
def givesTexts (d : Yaml.Document) (n : Yaml.Node) : Bool :=
  if d.isCollection n then
    match d.tagOf n, d.follow n with
    | .sequence, .sequence _ items => items.any (isPlain d)
    | _, _ => false
  else
    match d.scalar n with
    | .ok (.text _) | .ok (.halved _) => true
    | .ok (.bytes bs) => !bs.isEmpty
    | _ => false

def textKeys : List String := ["library_dir", "template", "output", "namespace", "module", "instance"]

def listKeys : List String := ["root_files", "builders", "internal_types"]

/-- A mapping in which every key that counts is absent or has a value that cannot be used. Other keys
may have any values. -/
def setsNothing (d : Yaml.Document) : Bool :=
  match d.fields? with
  | none => false
  | some fields =>
    textKeys.all (fun key => !(fields.reverse.lookup key).any (givesText d)) &&
      listKeys.all fun key => !(fields.reverse.lookup key).any (givesTexts d)

/-- The texts of files by which nothing is set. -/
inductive SaysNothing (room : Nat) (text : String) : Prop where
  | blank (h : ∀ c ∈ text.toList, Text.isBlank c = true)
  | noDocument (h : Yaml.read room text.toList = .ok none)
  | null {d : Yaml.Document} (h : Yaml.read room text.toList = .ok (some d))
      (hd : d.tagOf d.root = .null)
  | mapping {d : Yaml.Document} (h : Yaml.read room text.toList = .ok (some d))
      (hd : setsNothing d = true)

/-- No settings are to be had from a path: nothing is there, or a file that says nothing. -/
inductive NothingSet (w : World) (file : Path) : Prop where
  | absent (h : w.tree.look w.place.here file = .ok none)
  | said {bytes : List UInt8} {cs : List Char}
      (h : w.tree.look w.place.here file = .ok (some (.file bytes)))
      (hd : Utf8.decode bytes = .ok cs)
      (hs : SaysNothing w.place.limits.yaml (String.ofList (FileTree.unifyLines cs))) : NothingSet w file

section
variable {d : Yaml.Document} {n : Yaml.Node} {field : String → Setting}

def ofPlain (d : Yaml.Document) (n : Yaml.Node) : Setting :=
  ((d.scalar n).map Setting.ofScalar).toOption.getD .unusable

theorem item?_ofPlain (hc : d.isCollection n = false) (h : isPlain d n = false) :
    (ofPlain d n).item? = none := by
  rw [isPlain, hc, Bool.not_false, Bool.true_and] at h
  rw [ofPlain]
  rcases hs : d.scalar n with e | s
  · rfl
  · rw [hs] at h
    cases s with
    | null | bytes | moment => rfl
    | text | halved | truth | whole | decimal => cases h

/-- A sequence with nothing plain in it makes a setting without items. -/
theorem filterMap_item?_eq_nil {items : List Yaml.Node} (h : items.any (isPlain d) = false) :
    (items.filterMap fun i => if d.isCollection i then none else (ofPlain d i).item?) = [] := by
  rw [List.filterMap_eq_nil_iff]
  intro i hi
  split
  · rfl
  · rename_i hc
    exact item?_ofPlain (by simpa using hc) (by simpa using List.any_eq_false.mp h i hi)

theorem ofNode_of_collection (hc : d.isCollection n = true) : Setting.ofNode d n = .unusable ∨
    ∃ items, Setting.ofNode d n = .list items ∧ (givesTexts d n = false → items = []) := by
  rw [Setting.ofNode, if_pos hc]
  split
  · rename_i htag hfollow
    refine .inr ⟨_, rfl, fun h => filterMap_item?_eq_nil ?_⟩
    rwa [givesTexts, if_pos hc, htag, hfollow] at h
  · exact .inr ⟨_, rfl, fun _ => rfl⟩
  · exact .inr ⟨_, rfl, fun _ => rfl⟩
  · exact .inl rfl

theorem ofNode_of_plain (hc : d.isCollection n = false) : Setting.ofNode d n = ofPlain d n := by
  rw [Setting.ofNode, if_neg (by simp [hc])]
  rfl

theorem text?_ofNode (h : givesText d n = false) :
    (Setting.ofNode d n).text? = .ok none ∨ (Setting.ofNode d n).text? = .ok (some "") := by
  cases hc : d.isCollection n with
  | true =>
    rcases ofNode_of_collection hc with he | ⟨items, he, -⟩
    · exact .inl (by rw [he]; rfl)
    · exact .inl (by rw [he]; rfl)
  | false =>
    rw [givesText, hc, Bool.not_false, Bool.true_and] at h
    rw [ofNode_of_plain hc, ofPlain]
    rcases hs : d.scalar n with e | s
    · exact .inl rfl
    · rw [hs] at h
      cases s with
      | text s =>
        obtain rfl : s = "" := by simpa using h
        exact .inr rfl
      | null | bytes | moment => exact .inl rfl
      | halved | truth | whole | decimal => cases h

theorem texts_ofNode (h : givesTexts d n = false) : (Setting.ofNode d n).texts = .ok [] := by
  cases hc : d.isCollection n with
  | true =>
    rcases ofNode_of_collection hc with he | ⟨items, he, hitems⟩
    · rw [he]; rfl
    · rw [he, hitems h]; rfl
  | false =>
    rw [givesTexts, hc, if_neg Bool.false_ne_true] at h
    rw [ofNode_of_plain hc, ofPlain]
    rcases hs : d.scalar n with e | s
    · rfl
    · rw [hs] at h
      cases s with
      | text | halved => cases h
      | bytes bs =>
        obtain rfl : bs = [] := by simpa using h
        rfl
      | null | truth | whole | decimal | moment => rfl

/-- What a setting is taken from that nothing can be taken from. -/
structure Unusable (field : String → Setting) : Prop where
  text : ∀ key ∈ textKeys, (field key).text? = .ok none ∨ (field key).text? = .ok (some "")
  list : ∀ key ∈ listKeys, (field key).texts = .ok []

theorem unusable_unset : Unusable unset := ⟨fun _ _ => .inl rfl, fun _ _ => rfl⟩

theorem textOr_of_unusable (h : Unusable field) {key : String} (hkey : key ∈ textKeys) (s : String) :
    (field key).textOr s = .ok s := by
  rw [Setting.textOr]
  rcases h.text key hkey with h | h <;> rw [h] <;> rfl

theorem textsOr_of_unusable (h : Unusable field) {key : String} (hkey : key ∈ listKeys)
    (ss : List String) : (field key).textsOr ss = .ok ss := by
  rw [Setting.textsOr, h.list key hkey]
  rfl

/-- Where no setting can be used, all of them are the defaults. -/
theorem ofFields_of_unusable (h : Unusable field) (root : Path) :
    ofFields root field = .ok (defaults root) := by
  rw [ofFields, textOr_of_unusable h (by decide), textsOr_of_unusable h (by decide),
    textsOr_of_unusable h (by decide), textOr_of_unusable h (by decide)]
  simp only [bind, Except.bind]
  rw [textOr_of_unusable h (by decide), textOr_of_unusable h (by decide),
    textOr_of_unusable h (by decide), textOr_of_unusable h (by decide), h.list _ (by decide)]
  rfl

theorem unusable_of_setsNothing (h : setsNothing d = true) :
    ∃ field, fieldsOf d = some field ∧ Unusable field := by
  rw [setsNothing] at h
  split at h
  · cases h
  · rename_i fields hfields
    rw [Bool.and_eq_true, List.all_eq_true, List.all_eq_true] at h
    obtain ⟨htexts, hlists⟩ := h
    rw [fieldsOf, hfields]
    split
    · exact ⟨unset, rfl, unusable_unset⟩
    · refine ⟨_, rfl, fun key hkey => ?_, fun key hkey => ?_⟩
      · have hkey := htexts key hkey
        dsimp only
        cases hn : fields.reverse.lookup key with
        | none => exact .inl rfl
        | some n =>
          rw [hn] at hkey
          exact text?_ofNode (by simpa using hkey)
      · have hkey := hlists key hkey
        dsimp only
        cases hn : fields.reverse.lookup key with
        | none => rfl
        | some n =>
          rw [hn] at hkey
          exact texts_ofNode (by simpa using hkey)

theorem unusable_of_saysNothing {room : Nat} {text : String} (h : SaysNothing room text)
    (file : String) : ∃ field, fieldsOfText room file text = .ok field ∧ Unusable field := by
  rw [fieldsOfText]
  split
  · exact ⟨unset, rfl, unusable_unset⟩
  · rename_i hblank
    cases h with
    | blank h =>
      refine absurd ?_ hblank
      have hnone : ∀ c ∈ ([] : List Char), Text.isBlank c = true := by simp
      have hempty : text.toList ++ ([] ++ []) = text.toList := List.append_nil _
      have htrim : Text.trimmed text.toList = Text.trimmed [] := by
        rw [← hempty, Text.trimmed_append_of_blank h hnone]
      rw [Text.trim, htrim]
      rfl
    | noDocument h =>
      rw [h]
      exact ⟨unset, rfl, unusable_unset⟩
    | @null d h hd =>
      have hfields : fieldsOf d = some unset := by rw [fieldsOf, hd]; rfl
      rw [h]
      dsimp only
      rw [hfields]
      exact ⟨unset, rfl, unusable_unset⟩
    | mapping h hd =>
      obtain ⟨field, hfields, hunusable⟩ := unusable_of_setsNothing hd
      rw [h]
      dsimp only
      rw [hfields]
      exact ⟨field, rfl, hunusable⟩

theorem ofText_of_saysNothing {room : Nat} {text : String} (h : SaysNothing room text) (file : Path) :
    ofText room file text = .ok (defaults file.parent) := by
  obtain ⟨field, hfield, hunusable⟩ := unusable_of_saysNothing h file.name
  rw [ofText, hfield]
  dsimp only [Except.bind]
  rw [ofFields_of_unusable hunusable]
  rfl

end

/-- The settings file in a directory, by its absolute path. -/
def fileIn (here q : Path) : Path := (q.resolve here).child fileName

theorem resolve_child_fileName (here q : Path) : (q.child fileName).resolve here = fileIn here q := by
  rw [fileIn, child_fileName, child_fileName, Path.resolve, Path.resolve, Path.isAbsolute,
    Path.follow_concat, if_neg (by decide)]
  rfl

theorem parent_fileIn (here q : Path) : (fileIn here q).parent = q.resolve here := by
  rw [fileIn, child_fileName, Path.parent, List.dropLast_concat]

variable {p q : Path} {w : World}

theorem locate_directory (hq : p.expand w.place = some q)
    (hd : w.tree.isDirectory w.place.here q = .ok true) :
    answer (locate p) w = .ok (fileIn w.place.here q) := by
  have hnul := (FileTree.look_eq_some (FileTree.isDirectory_eq_true.mp hd)).1
  rw [answer_locate, answer_expand, hq]
  dsimp only [Option.elim, Except.bind]
  rw [hd]
  dsimp only [Except.mapError]
  rw [answer_resolve, if_pos rfl, hasNul_child, hnul, if_neg Bool.false_ne_true, resolve_child_fileName]

/-- In a directory whose settings file is absent, or is blank, or holds no value or a null one, or a
mapping of which no key that counts can be used, the settings are the defaults there; and loading them
changes nothing. -/
theorem load_where_nothing_set (hq : p.expand w.place = some q)
    (hd : w.tree.isDirectory w.place.here q = .ok true)
    (h : NothingSet w (fileIn w.place.here q)) :
    (load p).run w = (.ok (defaults (q.resolve w.place.here)), w) := by
  refine Prod.ext ?_ (reads_load p w)
  change answer (load p) w = _
  have hfile := locate_directory hq hd
  cases h with
  | absent h =>
    rw [answer_load, hfile]
    dsimp only [Except.bind]
    rw [h, parent_fileIn]
    rfl
  | said h hdecode hs =>
    rw [answer_load_of_look hfile h, FileTree.readText_file h, hdecode]
    dsimp only [Except.mapError, Except.bind, ofRead]
    rw [ofText_of_saysNothing hs, parent_fileIn]

/-- A directory whose settings file has a value of the wrong kind for some of its keys. -/
def misusedText : String :=
  "output: ''\nnamespace: [a]\nbuilders: [[], ~]\ninternal_types: 3\nroot_files: \x7ba: b\x7d\nother: x\n"

def misusedDesk : World where
  place := { here := ⟨.top, ["p"]⟩, home := ⟨.top, ["h"]⟩ }
  tree := ⟨[(["p"], .directory), (["h"], .directory),
    (["p", fileName], .file (Utf8.encode misusedText.toList))]⟩

theorem misused_settings_are_defaults :
    (Path.ofText "~/../p").expand misusedDesk.place = some (Path.ofText "/h/../p") ∧
    misusedDesk.tree.isDirectory misusedDesk.place.here (Path.ofText "/h/../p") = .ok true ∧
    NothingSet misusedDesk (fileIn misusedDesk.place.here (Path.ofText "/h/../p")) ∧
    (load (Path.ofText "~/../p")).run misusedDesk =
      (.ok (defaults (Path.ofText "/p")), misusedDesk) := by
  have hpath : (Path.ofText "~/../p").expand misusedDesk.place = some (Path.ofText "/h/../p") := by
    decide +kernel
  have hdirectory : misusedDesk.tree.isDirectory misusedDesk.place.here (Path.ofText "/h/../p") =
      .ok true := by decide +kernel
  have hlook : misusedDesk.tree.look misusedDesk.place.here
      (fileIn misusedDesk.place.here (Path.ofText "/h/../p")) =
      .ok (some (.file (Utf8.encode misusedText.toList))) := by decide +kernel
  have hdecode : Utf8.decode (Utf8.encode misusedText.toList) = .ok misusedText.toList := by
    decide +kernel
  have hunified : FileTree.unifyLines misusedText.toList = misusedText.toList := by decide +kernel
  have hread : (Yaml.read misusedDesk.place.limits.yaml misusedText.toList).map (·.map setsNothing) =
      .ok (some true) := by decide +kernel
  obtain ⟨found, hfound, hmap⟩ := map_eq_ok_iff.mp hread
  obtain ⟨d, rfl, hd⟩ := Option.map_eq_some_iff.mp hmap
  have hset : NothingSet misusedDesk (fileIn misusedDesk.place.here (Path.ofText "/h/../p")) := by
    refine .said hlook hdecode (.mapping (d := d) ?_ hd)
    rw [String.toList_ofList, hunified, hfound]
  refine ⟨hpath, hdirectory, hset, ?_⟩
  rw [load_where_nothing_set hpath hdirectory hset]
  rfl

end SchemaWrappers.Settings
