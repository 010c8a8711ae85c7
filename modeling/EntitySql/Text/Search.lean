/-!
# Finding and replacing text

`Text.occursIn` says whether one text occurs in another; every text occurs in every text at
least as an empty run, so the empty text occurs everywhere. `Text.replaceAll` replaces every
occurrence of a pattern, left to right and without overlaps. An empty pattern occurs before
every character and at the end, so replacing it puts the replacement around each character.
-/

namespace EntitySql

namespace Text

def occursInList (needle : List Char) : List Char → Bool
  | [] => needle.isEmpty
  | c :: rest => needle.isPrefixOf (c :: rest) || occursInList needle rest

def occursIn (needle hay : String) : Bool := occursInList needle.toList hay.toList

/-- Replace every occurrence of a non-empty pattern, left to right. -/
def replaceList (pat rep : List Char) (h : pat ≠ []) : List Char → List Char
  | [] => []
  | c :: rest =>
    if pat.isPrefixOf (c :: rest) then
      rep ++ replaceList pat rep h ((c :: rest).drop pat.length)
    else c :: replaceList pat rep h rest
termination_by s => s.length
decreasing_by
  · have : 0 < pat.length := List.length_pos_iff.mpr h
    simp only [List.length_drop, List.length_cons]
    omega
  · simp

/-- Replace every occurrence of a pattern in a text. -/
def replaceAll (s pat rep : String) : String :=
  if h : pat.toList = [] then
    String.ofList (rep.toList ++ s.toList.flatMap fun c => c :: rep.toList)
  else String.ofList (replaceList pat.toList rep.toList h s.toList)

example : occursIn "lo w" "hello world" = true := by decide
example : occursIn "" "" = true := by decide
example : replaceList ['a', 'b'] ['x'] (by simp) ['a', 'b', 'a', 'a', 'b'] = ['x', 'a', 'x'] := by
  decide +kernel

end Text

end EntitySql
