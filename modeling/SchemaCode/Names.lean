import Std.Data.HashSet

/-! Names live in scopes that do not disturb each other. -/

namespace SchemaCode

inductive Scope where
  | relations
  | storage
  | members (table : Nat)
  deriving DecidableEq, Hashable

structure Names where
  used : Std.HashSet (Scope × String) := {}

namespace Names

def contains (n : Names) (scope : Scope) (name : String) : Bool := n.used.contains (scope, name)

def insert (n : Names) (scope : Scope) (name : String) : Names := ⟨n.used.insert (scope, name)⟩

def insertAll (n : Names) (scope : Scope) (names : List String) : Names :=
  names.foldl (·.insert scope ·) n

theorem contains_insert_iff {n : Names} {s t : Scope} {x y : String} :
    (n.insert s x).contains t y = true ↔ (s = t ∧ x = y) ∨ n.contains t y = true := by
  simp only [contains, insert, Std.HashSet.contains_insert, Bool.or_eq_true, beq_iff_eq, Prod.mk.injEq]

theorem contains_insertAll_iff {n : Names} {s t : Scope} {xs : List String} {y : String} :
    (n.insertAll s xs).contains t y = true ↔ (s = t ∧ y ∈ xs) ∨ n.contains t y = true := by
  induction xs generalizing n with
  | nil => simp [insertAll]
  | cons x xs ih =>
    show ((n.insert s x).insertAll s xs).contains t y = true ↔ _
    rw [ih, contains_insert_iff, List.mem_cons]
    constructor
    · rintro (⟨hs, hy⟩ | ⟨hs, hy⟩ | h)
      · exact .inl ⟨hs, .inr hy⟩
      · exact .inl ⟨hs, .inl hy.symm⟩
      · exact .inr h
    · rintro (⟨hs, hy | hy⟩ | h)
      · exact .inr (.inl ⟨hs, hy.symm⟩)
      · exact .inl ⟨hs, hy⟩
      · exact .inr (.inr h)

def numbered (base : String) (n : Nat) : String := base ++ toString n

/-- The first of `numbered base n, numbered base (n + 1), …` that is not taken, or the one after
`tries` that are. -/
def firstFree (taken : String → Bool) (base : String) : (tries n : Nat) → String
  | 0, n => numbered base n
  | tries + 1, n =>
    if taken (numbered base n) then firstFree taken base tries (n + 1) else numbered base n

def fresh (n : Names) (scope : Scope) (base : String) : String :=
  if n.contains scope base then firstFree (n.contains scope) base n.used.size 2 else base

def claim (n : Names) (scope : Scope) (base : String) : String × Names :=
  let name := n.fresh scope base
  (name, n.insert scope name)

end Names

end SchemaCode
