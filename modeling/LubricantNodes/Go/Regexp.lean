import Mathlib.Data.List.Basic
import Mathlib.Tactic.SplitIfs

/-!
# Regular expressions of the Go standard library

Sequences of character classes, each taken once or any number of times.  A match
is found as `regexp` finds it: leftmost, and among the matches at one place the
one that takes as much as possible for each class in turn.
-/

namespace LubricantNodes.Go.Regexp

open List

variable {α β : Type}

/-- A class that is taken once, or any number of times. -/
inductive Item (α : Type)
  | one (holds : α → Bool)
  | many (holds : α → Bool)

/-- Take a class as often as what follows allows. -/
def manyThen (holds : α → Bool) (next : List α → Option β) : List α → Option β
  | [] => next []
  | first :: rest =>
    if holds first then
      match manyThen holds next rest with
      | some result => some result
      | none => next (first :: rest)
    else next (first :: rest)

/-- Match a sequence of items, and what follows. -/
def matchItems : List (Item α) → (List α → Option β) → List α → Option β
  | [], next => next
  | .one holds :: items, next => fun text =>
    match text with
    | [] => none
    | first :: rest => if holds first then matchItems items next rest else none
  | .many holds :: items, next => manyThen holds (matchItems items next)

/-- An expression: its first group and what follows it. -/
structure Pattern (α : Type) where
  group : List (Item α)
  rest : List (Item α)

namespace Pattern

variable (pattern : Pattern α)

/-- What follows the first group and what follows the match, when there is one at
the start of a text. -/
def matchAt (text : List α) : Option (List α × List α) :=
  matchItems pattern.group
    (fun middle => matchItems pattern.rest (fun after => some (middle, after)) middle) text

/-- Every match is replaced by its first group and a mark; the runes of a match are
skipped. -/
def replaceFrom (mark : List α) : Nat → List α → List α
  | _, [] => []
  | skip + 1, _ :: rest => replaceFrom mark skip rest
  | 0, first :: rest =>
    match pattern.matchAt (first :: rest) with
    | none => first :: replaceFrom mark 0 rest
    | some (middle, after) =>
      (first :: rest).take ((first :: rest).length - middle.length) ++ mark ++
        replaceFrom mark (rest.length - after.length) rest

/-- `ReplaceAllString`. -/
def replaceAll (mark text : List α) : List α :=
  pattern.replaceFrom mark 0 text

end Pattern

/-- The items of a word. -/
def word [DecidableEq α] (letters : List α) : List (Item α) :=
  letters.map fun letter => .one (· = letter)

/-- A class that is taken at least once. -/
def atLeastOnce (holds : α → Bool) : List (Item α) :=
  [.one holds, .many holds]

end LubricantNodes.Go.Regexp
