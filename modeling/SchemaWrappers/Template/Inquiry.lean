import SchemaWrappers.Text.Utf8

/-! Computations that ask for templates and draw lots while they run. -/
namespace SchemaWrappers.Template

/-- What is there under the name of a template: its text, nothing, or what is no text. -/
abbrev Found := Except Utf8.Error (Option String)

/-- A computation that comes to an end, or asks for a template or draws one of `below` lots and goes on
with what it gets. -/
inductive Inquiry (α : Type) where
  | done (a : α)
  | ask (name : String) (next : Found → Inquiry α)
  | draw (below : Nat) (next : Nat → Inquiry α)

/-- The lots that chance will have drawn, from the next one on. -/
abbrev Chance := Nat → Nat

def Chance.later (c : Chance) : Chance := fun n => c (n + 1)

namespace Inquiry
variable {α β : Type}

def bind : Inquiry α → (α → Inquiry β) → Inquiry β
  | done a, f => f a
  | ask name next, f => ask name fun found => (next found).bind f
  | draw below next, f => draw below fun n => (next n).bind f

instance : Monad Inquiry where
  pure := done
  bind := bind

def answered (text? : String → Found) : Inquiry α → Chance → α
  | done a, _ => a
  | ask name next, c => (next (text? name)).answered text? c
  | draw below next, c => (next (c 0 % below)).answered text? c.later

def asked (text? : String → Found) : Inquiry α → Chance → List String
  | done _, _ => []
  | ask name next, c => name :: (next (text? name)).asked text? c
  | draw below next, c => (next (c 0 % below)).asked text? c.later

def draws (text? : String → Found) : Inquiry α → Chance → Nat
  | done _, _ => 0
  | ask name next, c => (next (text? name)).draws text? c
  | draw below next, c => (next (c 0 % below)).draws text? c.later + 1

/-- Templates that are not asked for have no part in what it comes to, and if it draws nothing, chance
has none. -/
theorem answered_congr {text? text?' : String → Found} {i : Inquiry α} {c c' : Chance}
    (h : ∀ name ∈ i.asked text? c, text?' name = text? name) (hc : i.draws text? c = 0 ∨ c' = c) :
    i.answered text?' c' = i.answered text? c := by
  induction i generalizing c c' with
  | done a => rfl
  | ask name next ih =>
    rw [answered, answered, h name (List.mem_cons_self ..)]
    exact ih _ (fun n hn => h n (List.mem_cons_of_mem _ hn)) hc
  | draw below next ih =>
    obtain rfl : c' = c := hc.resolve_left (Nat.succ_ne_zero _)
    exact ih _ h (.inr rfl)

end Inquiry
end SchemaWrappers.Template
