import LubricantNodes.Go.Strings
import Mathlib.Tactic.SplitIfs

/-!
# URLs of the Go standard library

`url.Parse` and `URL.String` for `http` and `https` URLs with an authority.  How a
host, a path and a fragment are checked, decoded and written again is a parameter
with the few laws that the results rest on.
-/

namespace LubricantNodes.Go

open List Option String

/-! ## Cutting -/

/-- The parts before and after the last rune of a kind. -/
def cutLast (mark : Char) (runes : List Char) : Option (List Char × List Char) :=
  if mark ∈ runes then
    some (((runes.reverse.dropWhile (· ≠ mark)).drop 1).reverse,
      (runes.reverse.takeWhile (· ≠ mark)).reverse)
  else none

/-- `strings.Cut`, for one rune. -/
def cut (mark : Char) (runes : List Char) : List Char × List Char :=
  (runes.takeWhile (· ≠ mark), (runes.dropWhile (· ≠ mark)).drop 1)

/-- The runes that end an authority. -/
def isDelimiter (rune : Char) : Bool :=
  rune ∈ ['/', '?', '#']

/-- An ASCII control character. -/
def isControl (rune : Char) : Bool :=
  rune.toNat < 0x20 || rune.toNat = 0x7f

namespace Url

/-! ## Parts -/

/-- How a part of a URL is written by `String` when `Parse` accepts it.  No barred
rune is written. -/
structure Part (barred : List Char) where
  written : String → Option String
  clean : ∀ {text result rune}, written text = some result → rune ∈ result.toList →
    rune ∉ barred ∧ isSpace rune = false

/-- The parts of `net/url` that are not spelled out. -/
structure Rules where
  /-- `unescape`, of a user name or a password. -/
  unescape : String → Option String
  /-- `parseHost`. -/
  host : Part ['/', '?', '#', '@']
  /-- `setPath`. -/
  path : Part ['?', '#']
  path_front : ∀ {text result}, path.written text = some result → (text = "" ↔ result = "") ∧
    (text.toList.head? = some '/' → result.toList.head? = some '/')
  /-- `setFragment`. -/
  fragment : Part []

end Url

/-- A `url.URL`, with its parts as they are written. -/
structure Url where
  scheme : String
  /-- The name and the password of `User`. -/
  user : Option (String × String)
  host : String
  path : String
  /-- `RawQuery`; an empty one stands for `ForceQuery`. -/
  query : Option String
  fragment : String
  deriving DecidableEq

namespace Url

/-- What follows two slashes. -/
def afterSlashes : List Char → Option (List Char)
  | '/' :: '/' :: rest => some rest
  | _ => none

/-- The scheme, in lower case, and what follows `://`. -/
def schemeOf (text : String) : Option (String × List Char) :=
  let scheme := String.ofList ((cut ':' text.toList).1.map Char.toLower)
  if scheme = "http" ∨ scheme = "https" then
    (afterSlashes (cut ':' text.toList).2).map fun rest => (scheme, rest)
  else none

/-- `validUserinfo`. -/
def validUserinfo (info : List Char) : Bool :=
  info.all fun rune =>
    rune.isAlphanum || rune ∈ "-._:~!$&'()*+,;=%@".toList

variable (rules : Rules)

/-- The name and the password of a userinfo. -/
def credentials (info : List Char) : Option (String × String) :=
  if ':' ∈ info then
    match rules.unescape (String.ofList (cut ':' info).1),
        rules.unescape (String.ofList (cut ':' info).2) with
    | some name, some password => some (name, password)
    | _, _ => none
  else (rules.unescape (String.ofList info)).map fun name => (name, "")

/-- `parseAuthority`. -/
def parseAuthority (authority : List Char) : Option (Option (String × String) × String) :=
  match cutLast '@' authority with
  | none => (rules.host.written (String.ofList authority)).map fun host => (none, host)
  | some (info, host) =>
    match rules.host.written (String.ofList host) with
    | none => none
    | some host =>
      if validUserinfo info then
        (credentials rules info).map fun pair => (some pair, host)
      else none

/-- The query of what follows the path. -/
def queryOf : List Char → Option String
  | '?' :: rest => some (String.ofList (rest.takeWhile (· ≠ '#')))
  | _ => none

/-- The fragment as it is written. -/
def fragmentOf (text : List Char) : Option String :=
  if text = [] then some "" else rules.fragment.written (String.ofList text)

/-- `url.Parse`; `none` stands for an error, and for a URL of another scheme or
without an authority, which has no user and, to the callers, no host. -/
def parse (text : String) : Option Url :=
  match schemeOf text with
  | none => none
  | some (scheme, rest) =>
    if (text.toList.takeWhile (· ≠ '#')).any isControl then none
    else
      let tail := rest.dropWhile (!isDelimiter ·)
      let path := tail.takeWhile (fun rune => rune ≠ '?' && rune ≠ '#')
      let after := tail.dropWhile (fun rune => rune ≠ '?' && rune ≠ '#')
      match parseAuthority rules (rest.takeWhile (!isDelimiter ·)),
          rules.path.written (String.ofList path), fragmentOf rules (cut '#' rest).2 with
      | some (user, host), some path, some fragment =>
        some { scheme, user, host, path, query := queryOf after, fragment }
      | _, _, _ => none

/-- The query and the fragment as they are written. -/
def suffix (url : Url) : String :=
  (match url.query with
    | some query => "?" ++ query
    | none => "") ++
  (if url.fragment = "" then "" else "#" ++ url.fragment)

/-- `String`, of a URL without a user. -/
def string (url : Url) : String :=
  url.scheme ++ ":" ++ (if url.host ≠ "" ∨ url.path ≠ "" then "//" else "") ++ url.host ++
    url.path ++ url.suffix

/-! ## Authorities -/

/-- The authority of a URL, as text. -/
def authority (text : String) : Option (List Char) :=
  (afterSlashes (cut ':' text.toList).2).map fun rest => rest.takeWhile (!isDelimiter ·)

/-- The URL has a userinfo. -/
def hasUserinfo (text : String) : Bool :=
  match authority text with
  | some runes => '@' ∈ runes
  | none => false

/-- The name and the password in a URL. -/
def embedded (text : String) : Option (String × String) :=
  match (authority text).bind (cutLast '@') with
  | some (info, _) => credentials rules info
  | none => none

/-! ## Facts -/

variable {rules} {text scheme : String} {rest : List Char} {url : Url}

theorem scheme_of_schemeOf (found : schemeOf text = some (scheme, rest)) :
    scheme = "http" ∨ scheme = "https" := by
  unfold schemeOf at found
  dsimp only at found
  split_ifs at found with known
  rcases map_eq_some_iff.mp found with ⟨after, -, same⟩
  cases same
  exact known

theorem authority_of_schemeOf (found : schemeOf text = some (scheme, rest)) :
    authority text = some (rest.takeWhile (!isDelimiter ·)) := by
  unfold schemeOf at found
  dsimp only at found
  split_ifs at found
  rcases map_eq_some_iff.mp found with ⟨after, slashes, same⟩
  cases same
  rw [authority, slashes]
  rfl

theorem hasUserinfo_of_embedded {pair : String × String} (found : embedded rules text = some pair) :
    hasUserinfo text = true := by
  unfold embedded at found
  unfold hasUserinfo
  split at found
  · rename_i info host cutting
    rcases bind_eq_some_iff.mp cutting with ⟨runes, same, cutting⟩
    rw [same]
    unfold cutLast at cutting
    split_ifs at cutting with present
    exact decide_eq_true present
  · cases found

theorem authority_append {after : String} (known : scheme = "http" ∨ scheme = "https") :
    authority (scheme ++ ":" ++ after) =
      (afterSlashes after.toList).map fun rest => rest.takeWhile (!isDelimiter ·) := by
  rcases known with rfl | rfl <;> simp [authority, cut]

theorem afterSlashes_of_front {runes : List Char} (other : runes.head? ≠ some '/') :
    afterSlashes runes = none := by
  unfold afterSlashes
  split
  · exact absurd rfl other
  · rfl

theorem suffix_front (url : Url) :
    url.suffix = "" ∨ url.suffix.toList.head? = some '?' ∨ url.suffix.toList.head? = some '#' := by
  unfold suffix
  split
  · exact .inr (.inl (by simp))
  · split_ifs
    · exact .inl (by simp)
    · exact .inr (.inr (by simp))

section Parsed

variable (parsed : parse rules text = some url)

include parsed

/-- What a successful `Parse` has read. -/
theorem parse_eq_some :
    ∃ rest path, schemeOf text = some (url.scheme, rest) ∧
      parseAuthority rules (rest.takeWhile (!isDelimiter ·)) = some (url.user, url.host) ∧
      rules.path.written path = some url.path ∧ (path = "" ∨ path.toList.head? = some '/') := by
  unfold parse at parsed
  split at parsed
  · cases parsed
  rename_i scheme rest found
  split_ifs at parsed
  dsimp only at parsed
  split at parsed
  · rename_i user host written fragment authority path _
    cases parsed
    refine ⟨rest, _, found, authority, path, ?_⟩
    -- The path starts at the first delimiter, which is a slash or ends it.
    generalize tails : rest.dropWhile (!isDelimiter ·) = tail
    cases tail with
    | nil => exact .inl rfl
    | cons first tail =>
      have delimiter : isDelimiter first = true := by
        have head := head?_dropWhile_not (!isDelimiter ·) rest
        rw [tails] at head
        simpa using head
      by_cases slash : first = '/'
      · subst slash
        exact .inr (by simp)
      refine .inl ?_
      have ends : ¬(first ≠ '?' && first ≠ '#') = true := by
        simp only [isDelimiter, mem_cons, not_mem_nil, or_false, decide_eq_true_eq] at delimiter
        rcases delimiter with h | rfl | rfl
        · exact absurd h slash
        · decide
        · decide
      rw [takeWhile_cons, if_neg ends]
  · cases parsed

/-- The user is the one in the text. -/
theorem user_of_parse : url.user = if hasUserinfo text then embedded rules text else none := by
  rcases parse_eq_some parsed with ⟨rest, path, found, authority, -, -⟩
  unfold hasUserinfo embedded
  rw [authority_of_schemeOf found]
  unfold parseAuthority at authority
  dsimp only [bind_some]
  split at authority
  · rename_i absent
    rw [if_neg]
    · rcases map_eq_some_iff.mp authority with ⟨host, -, same⟩
      exact (congrArg Prod.fst same).symm
    · intro present
      rw [cutLast, if_pos (of_decide_eq_true present)] at absent
      cases absent
  · rename_i info host cutting
    rw [if_pos, cutting]
    · split at authority
      · cases authority
      · split_ifs at authority
        rcases map_eq_some_iff.mp authority with ⟨pair, found, same⟩
        dsimp only
        rw [found]
        exact (congrArg Prod.fst same).symm
    · unfold cutLast at cutting
      split_ifs at cutting with present
      exact decide_eq_true present

/-- `Parse` accepts no userinfo with a rune outside of the list. -/
theorem validUserinfo_of_parse {runes info host : List Char} (found : authority text = some runes)
    (cutting : cutLast '@' runes = some (info, host)) : validUserinfo info = true := by
  rcases parse_eq_some parsed with ⟨rest, path, scheme, accepted, -, -⟩
  rw [authority_of_schemeOf scheme] at found
  cases found
  unfold parseAuthority at accepted
  rw [cutting] at accepted
  dsimp only at accepted
  split at accepted
  · cases accepted
  · split_ifs at accepted with valid
    exact valid

theorem clean_host :
    ∀ rune ∈ url.host.toList, isDelimiter rune = false ∧ rune ≠ '@' ∧ isSpace rune = false := by
  intro rune member
  rcases parse_eq_some parsed with ⟨rest, path, -, authority, -, -⟩
  have written : ∃ text, rules.host.written text = some url.host := by
    unfold parseAuthority at authority
    split at authority
    · rcases map_eq_some_iff.mp authority with ⟨host, found, same⟩
      exact ⟨_, found.trans (congrArg some (congrArg Prod.snd same))⟩
    split at authority
    · cases authority
    · rename_i found
      split_ifs at authority
      rcases map_eq_some_iff.mp authority with ⟨pair, -, same⟩
      exact ⟨_, found.trans (congrArg some (congrArg Prod.snd same))⟩
  rcases written with ⟨source, found⟩
  have clean := rules.host.clean found member
  simp only [mem_cons, not_mem_nil, or_false, not_or] at clean
  rcases clean with ⟨⟨slash, question, hash, at'⟩, space⟩
  exact ⟨by simp [isDelimiter, slash, question, hash], at', space⟩

/-- What `String` writes has no userinfo. -/
theorem hasUserinfo_string : hasUserinfo url.string = false := by
  rcases parse_eq_some parsed with ⟨rest, path, found, -, written, front⟩
  have known := scheme_of_schemeOf found
  have clean := clean_host parsed
  unfold hasUserinfo string
  rw [String.append_assoc, String.append_assoc, String.append_assoc, authority_append known]
  split_ifs with shown
  · -- The host ends where the path, the query or the fragment starts.
    have ends : ∀ rune ∈ (url.path ++ url.suffix).toList.head?, isDelimiter rune = true := by
      intro rune member
      rw [toList_append, head?_append] at member
      rcases front with empty | slash
      · rw [(rules.path_front written).1.mp empty] at member
        rcases suffix_front url with none | question | hash
        · simp [none] at member
        · simp [question] at member
          simp [← member, isDelimiter]
        · simp [hash] at member
          simp [← member, isDelimiter]
      · simp [(rules.path_front written).2 slash] at member
        simp [← member, isDelimiter]
    have runes : (url.host ++ (url.path ++ url.suffix)).toList.takeWhile (!isDelimiter ·) =
        url.host.toList := by
      rw [toList_append, takeWhile_append_of_pos]
      · generalize (url.path ++ url.suffix).toList = after at ends
        cases after with
        | nil => simp
        | cons first after => simp [ends first rfl]
      · intro rune member
        simp [(clean rune member).1]
    rw [toList_append]
    change (match some ((url.host ++ (url.path ++ url.suffix)).toList.takeWhile (!isDelimiter ·))
      with | some runes => decide ('@' ∈ runes) | none => false) = false
    rw [runes]
    apply decide_eq_false
    intro member
    exact (clean '@' member).2.1 rfl
  · rw [not_or, not_not, not_not] at shown
    rw [shown.1, shown.2]
    rw [empty_append, empty_append, empty_append]
    rw [afterSlashes_of_front]
    · rfl
    · intro slash
      rcases suffix_front url with none | question | hash
      · simp [none] at slash
      · simp [question] at slash
      · simp [hash] at slash

end Parsed

end Url

end LubricantNodes.Go
