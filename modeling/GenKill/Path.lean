import GenKill.Text

/-!
# Paths
-/

namespace GenKill.Path

/-- The last part of a path. -/
def fileName (path : Text) : Text :=
  ((path.splitOn (Text.byte '/')).getLast?).getD []

/-- The file name from its last point on; nothing if it has none. -/
def extension (path : Text) : Text :=
  let pieces := (fileName path).splitOn (Text.byte '.')
  match pieces.length, pieces.getLast? with
  | _ + 2, some last => Text.byte '.' :: last
  | _, _ => []

/-- The file name without its extension. -/
def stem (path : Text) : Text :=
  (fileName path).take ((fileName path).length - (extension path).length)

end GenKill.Path
