import AdminConsole.Text
import Std.Data.TreeMap

/-!
# Runs of code points

Values of characters, read from tables. A table names code points in hexadecimal, in rising order:
a single one, or a run by its first and its last with a hyphen between them. White space separates
the words of a table.
-/

namespace AdminConsole.Text

def words (cs : List Char) : List (List Char) :=
  let pieces := cs.foldr (fun c pieces =>
    if isSpace c then [] :: pieces
    else
      match pieces with
      | piece :: pieces => (c :: piece) :: pieces
      | [] => [[c]]) []
  pieces.filter (· ≠ [])

def codeOfDigits (cs : List Char) : Nat :=
  cs.foldl (fun n c => n * 16 + (hexValue? c).getD 0) 0

def charOfDigits (cs : List Char) : Char := Char.ofNat (codeOfDigits cs)

def endsOfRun (cs : List Char) : Nat × Nat :=
  match cut '-' cs with
  | (first, some last) => (codeOfDigits first, codeOfDigits last)
  | (only, none) => (codeOfDigits only, codeOfDigits only)

/-- Values of code points. The first code point of a run leads to the last one and to the value
that all of the run have. -/
structure Runs (α : Type) where
  byFirst : Std.TreeMap Nat (Nat × α)

namespace Runs

def insert (runs : Runs α) (first last : Nat) (value : α) : Runs α :=
  ⟨runs.byFirst.insert first (last, value)⟩

/-- Runs with the code points of each table under its value. The tables do not overlap. -/
def ofTables (tables : List (α × String)) : Runs α :=
  tables.foldl (fun runs (value, table) =>
    (words table.toList).foldl (fun runs word =>
      let (first, last) := endsOfRun word
      runs.insert first last value) runs) ⟨∅⟩

def get? (runs : Runs α) (c : Char) : Option α :=
  match runs.byFirst.getEntryLE? c.toNat with
  | some (_, last, value) => if c.toNat ≤ last then some value else none
  | none => none

def contains (runs : Runs α) (c : Char) : Bool := (runs.get? c).isSome

end Runs

end AdminConsole.Text
