import Signpost.Number.Binary

/-!
# Memo tables

A memo table keeps the answers that were worked out once, under the key of their question, and
counts how often an answer was at hand. It never forgets an answer.

## Main definitions

* `Memo`: a memo table.
* `Memo.find?`, `Memo.store`: an answer at hand, and a new one.
* `Memo.fetch`: the answer at hand, else the one worked out.
* `Memo.hitShare`: the share of look-ups whose answer was at hand.
-/

namespace Signpost

/-- Answers under the keys of their questions, the newest first, and how many look-ups found one and
how many did not. -/
structure Memo (κ α : Type) where
  entries : List (κ × α) := []
  hits : Nat := 0
  misses : Nat := 0
  deriving DecidableEq, Repr

namespace Memo

variable {κ α : Type} [DecidableEq κ]

/-- The answer under a key. -/
def find? (memo : Memo κ α) (key : κ) : Option α :=
  memo.entries.lookup key

/-- The number of answers. -/
def size (memo : Memo κ α) : Nat :=
  memo.entries.length

/-- The table after a look-up that found an answer. -/
def hit (memo : Memo κ α) : Memo κ α :=
  { memo with hits := memo.hits + 1 }

/-- The table after a look-up that found no answer, which was then worked out. -/
def store (memo : Memo κ α) (key : κ) (answer : α) : Memo κ α :=
  { memo with entries := (key, answer) :: memo.entries, misses := memo.misses + 1 }

/-- The answer under a key, worked out if it is not at hand. -/
def fetch (memo : Memo κ α) (key : κ) (compute : Unit → α) : α × Memo κ α :=
  match memo.find? key with
  | some answer => (answer, memo.hit)
  | none =>
    let answer := compute ()
    (answer, memo.store key answer)

/-- The share of look-ups that found an answer, rounded to double precision; zero if there was no
look-up. -/
def hitShare (memo : Memo κ α) : Binary :=
  .ofRatio binary64 false memo.hits (memo.hits + memo.misses)

@[simp] theorem find?_hit (memo : Memo κ α) (key : κ) : memo.hit.find? key = memo.find? key :=
  rfl

theorem find?_store (memo : Memo κ α) (key : κ) (answer : α) (query : κ) :
    (memo.store key answer).find? query =
      if query = key then some answer else memo.find? query := by
  by_cases h : query = key
  · simp [find?, store, h]
  · have hbeq : (query == key) = false := by simpa using h
    simp [find?, store, List.lookup_cons, hbeq, h]

end Memo

end Signpost
