import LubricantNodes.Go.Strings

/-!
# Slash-separated paths

`filepath` as it behaves on a POSIX host: paths are runes separated by slashes,
and cleaning works on the list of segments between them.
-/

namespace LubricantNodes.Go

variable (path : String)

/-- `filepath.IsAbs` on a POSIX host. -/
def isAbs : Bool :=
  path.toList.head? = some '/'

/-- The segments between the slashes of a path, empty ones included. -/
def segments : List String :=
  (path.toList.splitOn '/').map String.ofList

/-- One segment of `filepath.Clean`: the stack holds the cleaned segments,
innermost first. -/
def cleanSegment (rooted : Bool) (stack : List String) (segment : String) : List String :=
  if segment = "" ∨ segment = "." then stack
  else if segment = ".." then
    match stack with
    | [] => if rooted then [] else [".."]
    | parent :: rest => if parent = ".." then ".." :: stack else rest
  else segment :: stack

/-- `filepath.Clean` on a POSIX host. -/
def clean : String :=
  let body := "/".intercalate ((segments path).foldl (cleanSegment (isAbs path)) []).reverse
  if isAbs path then "/" ++ body else if body = "" then "." else body

/-- `filepath.Join` on a POSIX host: empty elements are dropped, and the rest is
cleaned as one path. -/
def join (elements : List String) : String :=
  match elements.filter (· ≠ "") with
  | [] => ""
  | kept => clean ("/".intercalate kept)

/-- A cleaned path is never empty. -/
theorem clean_ne_empty : clean path ≠ "" := by
  unfold clean
  dsimp only
  split_ifs with absolute blank
  · simp
  · decide
  · exact blank

/-- A path is joined to something, unless there is nothing to join. -/
theorem join_ne_empty {elements : List String} {element : String} (member : element ∈ elements)
    (nonempty : element ≠ "") : join elements ≠ "" := by
  unfold join
  split
  · rename_i nothing
    have kept : element ∈ elements.filter (· ≠ "") :=
      List.mem_filter.mpr ⟨member, decide_eq_true nonempty⟩
    rw [nothing] at kept
    cases kept
  · exact clean_ne_empty _

/-! ## Paths without `..` -/

/-- The segments that cleaning keeps, unless some lead upwards. -/
def kept (parts : List String) : List String :=
  parts.filter fun part => part ≠ "" ∧ part ≠ "."

theorem foldl_cleanSegment {rooted : Bool} {parts : List String} (inward : ".." ∉ parts)
    (stack : List String) :
    parts.foldl (cleanSegment rooted) stack = (kept parts).reverse ++ stack := by
  induction parts generalizing stack with
  | nil => rfl
  | cons part parts ih =>
    obtain ⟨other, inward⟩ := not_or.mp (List.mem_cons.not.mp inward)
    rw [List.foldl_cons, ih inward]
    by_cases blank : part = "" ∨ part = "."
    · have dropped : kept (part :: parts) = kept parts := by
        simpa [kept, List.filter_cons] using fun named => blank.resolve_left named
      rw [cleanSegment.eq_def, if_pos blank, dropped]
    · have taken : kept (part :: parts) = part :: kept parts := by
        simpa [kept, List.filter_cons] using not_or.mp blank
      rw [cleanSegment.eq_def, if_neg blank, if_neg (Ne.symm other), taken]
      simp

theorem segments_slash (path : String) : segments ("/" ++ path) = "" :: segments path := by
  simp [segments, List.splitOn_cons_eq_if_modifyHead]

/-- No segment has a slash. -/
theorem notMem_of_mem_splitOn {runes part : List Char} (member : part ∈ runes.splitOn '/') :
    '/' ∉ part := by
  induction runes generalizing part with
  | nil => simp_all
  | cons rune runes ih =>
    rw [List.splitOn_cons_eq_if_modifyHead] at member
    split_ifs at member with slash
    · rcases List.mem_cons.mp member with rfl | member
      · exact List.not_mem_nil
      · exact ih member
    · cases parts : runes.splitOn '/' with
      | nil => exact absurd parts (List.splitOn_ne_nil _ _)
      | cons first rest =>
        rw [parts] at member ih
        rcases List.mem_cons.mp member with rfl | member
        · simpa [Ne.symm (beq_iff_eq.not.mp slash)] using ih List.mem_cons_self
        · exact ih (List.mem_cons_of_mem _ member)

/-- A rooted path that is cleaned first is joined with the same segments. -/
theorem foldl_segments_clean {path : String} (inward : ".." ∉ segments path) (stack : List String) :
    (segments (clean ("/" ++ path))).foldl (cleanSegment true) stack =
      (kept (segments path)).reverse ++ stack := by
  have absolute : isAbs ("/" ++ path) = true := by simp [isAbs]
  have cleaned : clean ("/" ++ path) = "/" ++ "/".intercalate (kept (segments path)) := by
    rw [clean, absolute, segments_slash, foldl_cleanSegment (by simpa using inward)]
    simp [kept]
  rw [cleaned, segments_slash]
  by_cases nothing : kept (segments path) = []
  · rw [nothing]
    rfl
  · have plain : ∀ part ∈ (kept (segments path)).map String.toList, '/' ∉ part := by
      intro part member
      obtain ⟨text, textMember, rfl⟩ := List.mem_map.mp member
      obtain ⟨runes, runesMember, rfl⟩ := List.mem_map.mp (List.mem_of_mem_filter textMember)
      rw [String.toList_ofList]
      exact notMem_of_mem_splitOn runesMember
    have again : segments ("/".intercalate (kept (segments path))) = kept (segments path) := by
      rw [segments, String.toList_intercalate, show "/".toList = ['/'] from rfl,
        List.splitOn_intercalate '/' plain (by simpa using nothing)]
      simp
    rw [again, foldl_cleanSegment (by simpa [kept] using inward)]
    simp [kept]

example : clean "/srv//x/./a/../b/" = "/srv/x/b" := by decide

end LubricantNodes.Go
