/-!
# Splitting at the first separator

Dotted names (`alias.property`) are split at their first dot: the part before it and all of the
rest.
-/

namespace EntitySql

/-- The text before the first `sep` and the text after it, if `sep` occurs. -/
def splitFirst? (s : String) (sep : Char) : Option (String × String) :=
  let cs := s.toList
  if cs.contains sep then
    some (String.ofList (cs.takeWhile (· ≠ sep)), String.ofList ((cs.dropWhile (· ≠ sep)).drop 1))
  else none

end EntitySql
