/-!
# File trees

The files that a set of pages consists of, as a tree of directories.  A path is a list of segments:
a segment that is empty or a point stays where it is, two points lead to the directory around, and
every other segment is the name of an entry.
-/

namespace DocAudit

/-- A file with its bytes, or a directory with its entries. -/
inductive FileTree where
  | file (bytes : ByteArray)
  | directory (entries : List (String × FileTree))

namespace FileTree

instance : Inhabited FileTree := ⟨.directory []⟩

/-- Whether a tree is a directory. -/
def isDirectory : FileTree → Bool
  | directory _ => true
  | file _ => false

/-- The bytes of a file. -/
def bytes? : FileTree → Option ByteArray
  | file bytes => some bytes
  | directory _ => none

/-- The entries of a directory. -/
def entries? : FileTree → Option (List (String × FileTree))
  | directory entries => some entries
  | file _ => none

/-- The entry of a directory with a name. -/
def child? (tree : FileTree) (name : String) : Option FileTree :=
  tree.entries?.bind (·.lookup name)

/-! ## Paths -/

/-- What a path leads to from a tree inside of the trees `outer`, the innermost first. -/
def followFrom (outer : List FileTree) (tree : FileTree) : List String → Option FileTree
  | [] => some tree
  | segment :: rest =>
    if !tree.isDirectory then none
    else if segment = "" || segment = "." then followFrom outer tree rest
    else if segment = ".." then
      match outer with
      | [] => none
      | around :: outer => followFrom outer around rest
    else
      match tree.child? segment with
      | some inner => followFrom (tree :: outer) inner rest
      | none => none

/-- What a path leads to. -/
def follow? (tree : FileTree) (path : List String) : Option FileTree :=
  followFrom [] tree path

/-! ## Files -/

mutual

/-- The paths of all files in a tree for which `enters` holds of every segment. -/
def paths (enters : String → Bool) : FileTree → List (List String)
  | file _ => [[]]
  | directory entries => pathsOfEntries enters entries

/-- The paths of all files in entries of a directory. -/
def pathsOfEntries (enters : String → Bool) : List (String × FileTree) → List (List String)
  | [] => []
  | (name, tree) :: rest =>
    (if enters name then (paths enters tree).map (name :: ·) else []) ++
      pathsOfEntries enters rest

end

end FileTree

end DocAudit
