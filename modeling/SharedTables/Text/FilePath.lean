import SharedTables.Text.Split

/-!
# Names of files

The name of a file is kept without empty steps and steps to the same place, so that `./a//b` is
`a/b`.  The name of the place itself is `.`.
-/

namespace SharedTables.Text

/-- The steps of a path. -/
def pathSteps (path : String) : List String :=
  ((splitOn '/' path.toList).map String.ofList).filter fun step => step != "" && step != "."

/-- The start of a path: nothing, a slash, or exactly two. -/
def pathRoot (path : String) : String :=
  match path.toList with
  -- exactly two slashes are kept, any other number is one
  | '/' :: '/' :: '/' :: _ => "/"
  | '/' :: '/' :: _ => "//"
  | '/' :: _ => "/"
  | _ => ""

/-- The name of a file without empty steps. -/
def cleanPath (path : String) : String :=
  let text := pathRoot path ++ String.intercalate "/" (pathSteps path)
  if text.isEmpty then "." else text

/-- The name of the place that a file is in. -/
def parentPath (path : String) : String :=
  cleanPath (pathRoot path ++ String.intercalate "/" (pathSteps path).dropLast)

/-- Whether a path leads to a place inside of another. -/
def isWithin (place path : String) : Bool :=
  place == "." || path.startsWith (place ++ "/")

end SharedTables.Text
