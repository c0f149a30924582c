import SchemaWrappers.Log.Record

/-! The channels in use, and the way up from each. What is recorded on a channel goes to the program's
sinks if the way up from it ends at the program's own channel. -/
namespace SchemaWrappers.Log

def beforeDot? (cs : List Char) : Option (List Char) :=
  match cs.reverse.dropWhile (· != '.') with
  | [] => none
  | _ :: front => some front.reverse

theorem beforeDot?_length {cs front : List Char} (h : beforeDot? cs = some front) :
    front.length < cs.length := by
  have hle := (List.dropWhile_sublist (l := cs.reverse) (· != '.')).length_le
  rw [beforeDot?] at h
  split at h
  · cases h
  · rename_i hd
    cases h
    rw [hd] at hle
    simp at hle ⊢
    omega

/-- The names above a channel's, the nearest first. Each stands before a dot; the search for the next
one leaves out the character that this one ends in, so of two dots in a row the former is passed
over. -/
def above (cs : List Char) : List (List Char) :=
  match h : beforeDot? cs with
  | none | some [] => []
  | some (c :: front) =>
    have := beforeDot?_length h
    (c :: front) :: above (c :: front).dropLast
termination_by cs.length
decreasing_by simp at this ⊢; omega

theorem length_of_mem_above {cs front : List Char} (h : front ∈ above cs) :
    front.length < cs.length := by
  induction hn : cs.length using Nat.strongRecOn generalizing cs with
  | ind n ih =>
    rw [above] at h
    split at h
    · cases h
    · cases h
    · rename_i c first hb
      have hfirst := beforeDot?_length hb
      rcases List.mem_cons.mp h with rfl | h
      · omega
      · have := ih _ (by simp at hfirst ⊢; omega) h rfl
        simp at this hfirst
        omega

/-- The way up from a channel ends at the program's own. It leads to the nearest name above that is in
use, and on from there. -/
def leadsHome (opened : List String) (cs : List Char) : Bool :=
  if cs == root.toList then true
  else
    match h : (above cs).find? fun front => opened.contains (String.ofList front) with
    | none => false
    | some front =>
      have := length_of_mem_above (List.mem_of_find?_eq_some h)
      leadsHome opened front
termination_by cs.length

/-- The channels in use, and what was found of levels on them: whether records of the level count. -/
structure Channels where
  opened : List String := []
  found : List ((String × Level) × Bool) := []

namespace Channels

def take (c : Channels) (channel : String) : Channels :=
  if c.opened.contains channel then c else { c with opened := channel :: c.opened }

/-- Records of a level count on a channel if they reach the threshold there; what was found once stays
found. -/
def counts (c : Channels) (channel : String) (level threshold : Level) : Bool × Channels :=
  match c.found.lookup (channel, level) with
  | some b => (b, c)
  | none =>
    let b := level.reaches threshold
    (b, { c with found := ((channel, level), b) :: c.found })

end Channels
end SchemaWrappers.Log
