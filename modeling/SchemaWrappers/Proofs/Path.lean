import SchemaWrappers.Path
import SchemaWrappers.Proofs.Text.Pieces

namespace SchemaWrappers

/-- A name that something can have. -/
def IsName (n : String) : Prop := n ≠ ".." ∧ '\x00' ∉ n.toList

instance (n : String) : Decidable (IsName n) := inferInstanceAs (Decidable (_ ∧ _))

/-- A name that stands between the slashes of a path. -/
def IsStep (n : String) : Prop := n ≠ "" ∧ n ≠ "." ∧ '/' ∉ n.toList

instance (n : String) : Decidable (IsStep n) := inferInstanceAs (Decidable (_ ∧ _ ∧ _))

namespace Path
variable {start ns : List String} {n : String}

theorem child_of_name {s : String} (h : ofText s = ⟨.here, [s]⟩) (p : Path) :
    p.child s = { p with names := p.names ++ [s] } := by
  rw [child, h]
  rfl

/-- A path starts at the home directory that its first name stands for. -/
def StartsAtHome (p : Path) (n : String) (rest : List String) : Prop :=
  p = ⟨.here, n :: rest⟩ ∧ n.startsWith "~" = true

/-- No other path is put in full otherwise than as it stands. -/
theorem expand_of_not_startsAtHome {p : Path} (hp : ∀ n rest, ¬ p.StartsAtHome n rest)
    (place : Place) : p.expand place = some p := by
  rw [expand]
  split
  · rename_i n rest hanchor hnames
    obtain ⟨anchor, names⟩ := p
    obtain rfl : anchor = .here := hanchor
    obtain rfl : names = n :: rest := hnames
    exact if_neg fun hn => hp n rest ⟨rfl, hn⟩
  · rfl

theorem expand_of_startsAtHome {p : Path} {rest : List String} (hp : p.StartsAtHome n rest)
    (place : Place) : p.expand place =
      (place.homeOf? n).map fun home => { home with names := home.names ++ rest } := by
  obtain ⟨rfl, hn⟩ := hp
  exact if_pos hn

theorem isStep_of_mem_ofText {s : String} (h : n ∈ (ofText s).names) : IsStep n := by
  obtain ⟨hn, hfilter⟩ := List.mem_filter.mp h
  obtain ⟨cs, hcs, rfl⟩ := List.mem_map.mp hn
  have hslash := Text.not_of_mem_pieces hcs
  simp only [Bool.and_eq_true, bne_iff_ne] at hfilter
  refine ⟨hfilter.1, hfilter.2, fun hmem => ?_⟩
  rw [String.toList_ofList] at hmem
  simpa using hslash '/' hmem

/-- All characters of a path that is written stand in its text. -/
theorem mem_of_mem_ofText {s : String} (h : n ∈ (ofText s).names) {c : Char} (hc : c ∈ n.toList) :
    c ∈ s.toList := by
  obtain ⟨hn, -⟩ := List.mem_filter.mp h
  obtain ⟨cs, hcs, rfl⟩ := List.mem_map.mp hn
  rw [String.toList_ofList] at hc
  exact Text.mem_of_mem_pieces hcs hc

theorem ofText_text (h : ∀ n ∈ ns, IsStep n) : ofText (text ⟨.top, ns⟩) = ⟨.top, ns⟩ := by
  have hslash : ∀ w ∈ ns.map String.toList, ∀ c ∈ w, (c == '/') = false := by
    intro w hw c hc
    obtain ⟨n, hn, rfl⟩ := List.mem_map.mp hw
    rw [beq_eq_false_iff_ne]
    rintro rfl
    exact (h n hn).2.2 hc
  have htext : (text ⟨.top, ns⟩).toList = '/' :: ['/'].intercalate (ns.map String.toList) := by
    change ("/" ++ "/".intercalate ns).toList = _
    rw [String.toList_append, String.toList_intercalate]
    rfl
  cases ns with
  | nil => rfl
  | cons n ns =>
    have hn := h n (List.mem_cons_self ..)
    obtain ⟨c, cs, hc⟩ : ∃ c cs, n.toList = c :: cs :=
      List.exists_cons_of_ne_nil (mt String.toList_eq_nil_iff.mp hn.1)
    have hfirst : c ≠ '/' := by
      rintro rfl
      exact hn.2.2 (hc ▸ List.mem_cons_self ..)
    have hanchor : anchorOf (text ⟨.top, n :: ns⟩).toList = .top := by
      rw [htext, List.map_cons, hc]
      cases ns <;> simp [List.intercalate, anchorOf, hfirst]
    have hpieces : Text.pieces (· == '/') (text ⟨.top, n :: ns⟩).toList =
        [] :: (n :: ns).map String.toList := by
      rw [htext, Text.pieces, if_pos (beq_self_eq_true _)]
      rw [Text.pieces_intercalate (p := (· == '/')) (beq_self_eq_true _) (by simp) hslash]
    have hsteps : (n :: ns).filter (fun n => n != "" && n != ".") = n :: ns :=
      List.filter_eq_self.mpr fun m hm => by simp [(h m hm).1, (h m hm).2.1]
    rw [ofText, hanchor, hpieces, List.map_cons, List.map_map, List.filter_cons_of_neg (by simp)]
    simp only [Function.comp_def, String.ofList_toList, List.map_id']
    rw [hsteps]

theorem follow_cons (start : List String) (n : String) (ns : List String) :
    follow start (n :: ns) = follow (if n = ".." then start.dropLast else start ++ [n]) ns := by
  simp [follow]

theorem follow_concat (start ns : List String) (n : String) :
    follow start (ns ++ [n]) =
      if n = ".." then (follow start ns).dropLast else follow start ns ++ [n] := by
  simp [follow]

theorem follow_of_forward (h : ∀ n ∈ ns, n ≠ "..") : follow start ns = start ++ ns := by
  induction ns generalizing start with
  | nil => exact (List.append_nil start).symm
  | cons n ns ih =>
    obtain ⟨hn, hns⟩ := List.forall_mem_cons.mp h
    rw [follow_cons, if_neg hn, ih hns, List.append_assoc, List.singleton_append]

theorem forall_isName_concat {names : List String} (hnames : ∀ m ∈ names, IsName m) (hn : IsName n) :
    ∀ m ∈ names ++ [n], IsName m := by
  intro m hm
  rcases List.mem_append.mp hm with hm | hm
  · exact hnames m hm
  · rwa [List.mem_singleton.mp hm]

/-- What the start and all that leads forward from it has, has all that is reached. -/
theorem forall_mem_follow {P : String → Prop} (hstart : ∀ n ∈ start, P n)
    (hns : ∀ n ∈ ns, n ≠ ".." → P n) : ∀ n ∈ follow start ns, P n := by
  induction ns generalizing start with
  | nil => exact hstart
  | cons n ns ih =>
    obtain ⟨hn, hns⟩ := List.forall_mem_cons.mp hns
    rw [follow_cons]
    refine ih ?_ hns
    split
    · exact fun m hm => hstart m ((List.dropLast_sublist start).mem hm)
    · rename_i hforward
      exact List.forall_mem_append.mpr ⟨hstart, List.forall_mem_singleton.mpr (hn hforward)⟩

theorem isName_of_mem_follow (hstart : ∀ n ∈ start, IsName n) (hns : ∀ n ∈ ns, '\x00' ∉ n.toList) :
    ∀ n ∈ follow start ns, IsName n :=
  forall_mem_follow hstart fun n hn hforward => ⟨hforward, hns n hn⟩

/-- A path from the top with no more in it than the names of what lies on the way. -/
structure IsNormal (p : Path) : Prop where
  anchor : p.anchor = .top
  step : ∀ n ∈ p.names, IsStep n
  name : ∀ n ∈ p.names, IsName n

namespace IsNormal
variable {p q : Path}

theorem eq_top (h : p.IsNormal) : p = ⟨.top, p.names⟩ := by rw [← h.anchor]

theorem ofText_text (h : p.IsNormal) : ofText p.text = p := by
  rw [h.eq_top]
  exact Path.ofText_text h.step

theorem eq_of_text_eq (hp : p.IsNormal) (hq : q.IsNormal) (h : p.text = q.text) : p = q := by
  rw [← hp.ofText_text, h, hq.ofText_text]

theorem text_mem_map {ps : List Path} (hps : ∀ p ∈ ps, p.IsNormal) (hq : q.IsNormal) :
    q.text ∈ ps.map text ↔ q ∈ ps := by
  refine ⟨fun h => ?_, List.mem_map_of_mem⟩
  obtain ⟨p, hp, htext⟩ := List.mem_map.mp h
  exact (hps p hp).eq_of_text_eq hq htext ▸ hp

theorem eq_of_names_eq (hp : p.IsNormal) (hq : q.IsNormal) (h : p.names = q.names) : p = q := by
  rw [hp.eq_top, hq.eq_top, h]

theorem expand (h : p.IsNormal) (place : Place) : p.expand place = some p := by
  rw [h.eq_top]
  rfl

theorem hasNul (h : p.IsNormal) : p.hasNul = false := by
  rw [Path.hasNul, List.any_eq_false]
  exact fun n hn => by simpa using (h.name n hn).2

theorem resolve (h : p.IsNormal) (here : Path) : p.resolve here = p := by
  rw [h.eq_top, Path.resolve]
  exact congrArg (Path.mk .top) (follow_of_forward fun n hn => (h.name n hn).1)

end IsNormal

/-- Absolute paths are normal if the names are those that something can have. -/
theorem isNormal_resolve {p here : Path} (hhere : ∀ n ∈ here.names, IsStep n ∧ IsName n)
    (hstep : ∀ n ∈ p.names, IsStep n) (hnul : p.hasNul = false) : (p.resolve here).IsNormal := by
  have hstart : ∀ n ∈ if p.isAbsolute then [] else here.names, IsStep n ∧ IsName n := by
    split
    · simp
    · exact hhere
  have hnames : ∀ n ∈ (p.resolve here).names, IsStep n ∧ IsName n := by
    refine forall_mem_follow hstart fun n hn hforward => ⟨hstep n hn, hforward, ?_⟩
    simpa using List.any_eq_false.mp hnul n hn
  exact ⟨rfl, fun n hn => (hnames n hn).1, fun n hn => (hnames n hn).2⟩

/-- What does not ask for the home of a user who is not known can be put in full. -/
theorem exists_expand {p : Path} (place : Place)
    (h : ∀ n rest, p.StartsAtHome n rest → ∃ home, place.homeOf? n = some home) :
    ∃ q, p.expand place = some q := by
  by_cases hp : ∃ n rest, p.StartsAtHome n rest
  · obtain ⟨n, rest, hp⟩ := hp
    obtain ⟨home, hhome⟩ := h n rest hp
    exact ⟨_, by rw [expand_of_startsAtHome hp, hhome]; rfl⟩
  · exact ⟨p, expand_of_not_startsAtHome (fun n rest hn => hp ⟨n, rest, hn⟩) place⟩

theorem mem_of_expand {p q : Path} {place : Place} (h : p.expand place = some q) (hn : n ∈ q.names) :
    (∃ u home, place.homeOf? u = some home ∧ n ∈ home.names) ∨ n ∈ p.names := by
  by_cases hp : ∃ u rest, p.StartsAtHome u rest
  · obtain ⟨u, rest, hp⟩ := hp
    rw [expand_of_startsAtHome hp] at h
    obtain ⟨home, hhome, rfl⟩ := Option.map_eq_some_iff.mp h
    rcases List.mem_append.mp hn with hn | hn
    · exact .inl ⟨u, home, hhome, hn⟩
    · exact .inr (hp.1 ▸ List.mem_cons_of_mem u hn)
  · rw [expand_of_not_startsAtHome fun u rest hu => hp ⟨u, rest, hu⟩] at h
    exact .inr (Option.some.inj h ▸ hn)

theorem ancestors_nil (a : Anchor) : ancestors ⟨a, []⟩ = [⟨a, []⟩] := rfl

/-- Above a path come first the path itself and then those above the one a step up. -/
theorem ancestors_concat (a : Anchor) (ns : List String) (n : String) :
    ancestors ⟨a, ns ++ [n]⟩ = ⟨a, ns ++ [n]⟩ :: ancestors ⟨a, ns⟩ := by
  rw [ancestors, ancestors, List.length_append, List.length_singleton, List.range_succ_eq_map,
    List.map_cons, List.map_map]
  congr 1
  · rw [Nat.sub_zero, List.take_of_length_le (by simp)]
  · refine List.map_congr_left fun i _ => ?_
    rw [Function.comp_apply, Nat.succ_sub_succ, List.take_append_of_le_length (Nat.sub_le ..)]

end Path
end SchemaWrappers
