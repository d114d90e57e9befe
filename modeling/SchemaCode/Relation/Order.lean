import Std.Data.HashMap
import SchemaCode.Relation.Resolution

/-! The order in which tables can be created. Those on a cycle of references, or that depend on one, have no level and
come last. -/

namespace SchemaCode

abbrev Levels := Std.HashMap Nat Nat

namespace Resolution

def references (r : Resolution) (table : Nat) : List Nat :=
  ((r.foreignKeysOf table).map (·.referenced.index)).filter (· != table) |>.eraseDups

end Resolution

namespace Levels

def above (levels : Levels) : List Nat → Option Nat
  | [] => some 0
  | t :: rest =>
    match levels[t]?, above levels rest with
    | some n, some m => some (max (n + 1) m)
    | _, _ => none

def place (levels : Levels) (t : Nat × List Nat) : Levels :=
  if levels.contains t.1 then levels
  else match levels.above t.2 with
    | some n => levels.insert t.1 n
    | none => levels

/-- Goes through the tables until no level is added; `sweeps` bounds how often. -/
def settle (tables : List (Nat × List Nat)) : (sweeps : Nat) → Levels → Levels
  | 0, levels => levels
  | sweeps + 1, levels =>
    let next := tables.foldl place levels
    if next.size == levels.size then levels else settle tables sweeps next

end Levels

namespace Resolution

def levels (r : Resolution) : Levels :=
  Levels.settle (r.entities.map fun e => (e.index, r.references e.index)) (r.entities.length + 1) ∅

/-- The entities level by level, then those without a level, each time in the order of the schema. -/
def dependencyOrder (r : Resolution) : List Entity :=
  let levels := r.levels
  let highest := (r.entities.filterMap fun e => levels[e.index]?).foldl max 0
  let leveled := (List.range (highest + 1)).flatMap fun n =>
    r.entities.filter fun e => levels[e.index]? == some n
  leveled ++ r.entities.filter fun e => levels[e.index]? == none

end Resolution

end SchemaCode
