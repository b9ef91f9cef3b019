import Mathlib.Data.List.Basic

/-!
# Words of a shell

How a POSIX shell cuts a line into words and operators.  Quotes are removed, and each
character of a word remembers whether it was quoted: expansions, patterns, assignments,
comments and reserved words are made of characters that were not.
-/

namespace LubricantNodes.Shell

/-- A single quote. -/
abbrev apostrophe : Char := '\x27'

/-- A double quote. -/
abbrev quotationMark : Char := '\x22'

/-- The mark of the older form of command substitution. -/
abbrev graveAccent : Char := '\x60'

/-- A character of a word, and whether it is quoted. -/
abbrev Rune := Char × Bool

/-- A word of a command line, or an operator between words. -/
inductive Token
  | word (runes : List Rune)
  | operator (sign : Char)
  deriving DecidableEq

/-- What the characters that come next are part of. -/
inductive Quoting
  | bare
  | escape
  | single
  | double
  | doubleEscape
  deriving DecidableEq

/-- The characters that begin an operator when they are not quoted. -/
def operators : List Char :=
  ['\n', ';', '&', '|', '<', '>', '(', ')']

/-- The word so far, if there is one, with one more character. -/
def put (word : Option (List Rune)) (sign : Char) (quoted : Bool) : Option (List Rune) :=
  some (word.getD [] ++ [(sign, quoted)])

/-- The word so far is complete. -/
def close (word : Option (List Rune)) : List Token :=
  word.toList.map .word

/-- The tokens of a line, `none` if a quotation does not end. -/
def lex : Quoting → Option (List Rune) → List Char → Option (List Token)
  | quoting, word, [] => if quoting = .bare then some (close word) else none
  | .bare, word, sign :: rest =>
    if sign = apostrophe then lex .single (some (word.getD [])) rest
    else if sign = quotationMark then lex .double (some (word.getD [])) rest
    else if sign = '\\' then lex .escape word rest
    else if sign = ' ' ∨ sign = '\t' then (lex .bare none rest).map (close word ++ ·)
    else if sign ∈ operators then
      (lex .bare none rest).map (close word ++ .operator sign :: ·)
    else lex .bare (put word sign false) rest
  | .escape, word, sign :: rest => lex .bare (if sign = '\n' then word else put word sign true) rest
  | .single, word, sign :: rest =>
    if sign = apostrophe then lex .bare word rest else lex .single (put word sign true) rest
  | .double, word, sign :: rest =>
    if sign = quotationMark then lex .bare word rest
    else if sign = '\\' then lex .doubleEscape word rest
    -- Expansions are made inside of double quotes, too.
    else lex .double (put word sign (sign ≠ '$' ∧ sign ≠ graveAccent)) rest
  | .doubleEscape, word, sign :: rest =>
    if sign = '\n' then lex .double word rest
    else if sign ∈ ['$', graveAccent, quotationMark, '\\'] then
      lex .double (put word sign true) rest
    else lex .double (put (put word '\\' true) sign true) rest

/-- A character without a meaning of its own. -/
def isOrdinary (sign : Char) : Bool :=
  sign.isAlphanum || sign ∈ ['_', '-', '.', '/', ':', ',', '+', '@', '%']

/-- The text of a word that nothing is expanded in. -/
def Token.literal : Token → Option (List Char)
  | .word runes =>
    if runes.all fun rune => rune.2 || isOrdinary rune.1 then some (runes.map Prod.fst) else none
  | .operator _ => none

/-- The reserved words. -/
def reserved : List String :=
  ["if", "then", "else", "elif", "fi", "do", "done", "case", "esac", "while", "until", "for", "in"]

/-- The line begins with a word that names no command. -/
def reserves : List Token → Bool
  | .word runes :: _ => runes.all (!·.2) && String.ofList (runes.map Prod.fst) ∈ reserved
  | _ => false

/-- The words of a line that is one simple command of literal words. -/
def simpleCommand (line : List Char) : Option (List (List Char)) :=
  (lex .bare none line).bind fun tokens =>
    if reserves tokens then none else tokens.mapM Token.literal

/-- A word in quotes. -/
def quotedWord (text : List Char) : Token :=
  .word (text.map (·, true))

@[simp]
theorem literal_quotedWord (text : List Char) : (quotedWord text).literal = some text := by
  simp [quotedWord, Token.literal, Function.comp_def]

/-- A word in quotes is not reserved. -/
theorem reserves_quotedWord (texts : List (List Char)) :
    reserves (texts.map quotedWord) = false := by
  rcases texts with _ | ⟨_ | ⟨sign, text⟩, _⟩
  · rfl
  · simp [reserves, quotedWord, reserved]
  · simp [reserves, quotedWord]

theorem mapM_literal (texts : List (List Char)) :
    (texts.map quotedWord).mapM Token.literal = some texts := by
  induction texts with
  | nil => rfl
  | cons text texts ih => simp [ih]

end LubricantNodes.Shell
