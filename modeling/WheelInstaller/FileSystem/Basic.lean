import WheelInstaller.FileSystem.Error
import WheelInstaller.Ordered
import WheelInstaller.Path.Basic

/-! Trees of files. A directory holds trees, each under a name; every place in a tree has a
location, the names from the top down to it. -/

namespace WheelInstaller

/-- A place in a tree: the names from the top down to it. -/
abbrev Location := List String

/-- What can be at a place. -/
inductive Node where
  | directory
  | file (mode : Nat) (content : ByteArray)
  | link (target : Path)

def Node.isDirectory : Node → Bool
  | .directory => true
  | .file _ _ | .link _ => false

/-- A file, a link, or a directory with everything in it. -/
inductive Tree where
  | file (mode : Nat) (content : ByteArray)
  | link (target : Path)
  | directory (children : List (String × Tree))

namespace Tree

def node : Tree → Node
  | .file mode content => .file mode content
  | .link target => .link target
  | .directory _ => .directory

/-- The tree with nothing but a node. -/
def ofNode : Node → Tree
  | .file mode content => .file mode content
  | .link target => .link target
  | .directory => .directory []

/-- What a tree holds directly, by name. Only directories hold anything. -/
def children : Tree → List (String × Tree)
  | .file _ _ | .link _ => []
  | .directory children => children

/-- The tree that a tree holds under a name. -/
def child? (tree : Tree) (name : String) : Option Tree :=
  (tree.children.find? fun (known, _) => known = name).map (·.2)

def find? : Location → Tree → Option Tree
  | [], tree => some tree
  | name :: rest, tree => (tree.child? name).bind (find? rest)

/-- Changes what is under a name. What is new goes to the end. -/
def alterChild (name : String) (change : Option Tree → Option Tree) :
    List (String × Tree) → List (String × Tree)
  | [] => (change none).toList.map (name, ·)
  | (known, tree) :: rest =>
    if known = name then (change (some tree)).toList.map (name, ·) ++ rest
    else (known, tree) :: alterChild name change rest

/-- Changes what is at a location. There is nothing to change in what is no directory. -/
def alter (change : Option Tree → Option Tree) : Location → Option Tree → Option Tree
  | [], found => change found
  | name :: rest, some (.directory children) =>
    some (.directory (alterChild name (alter change rest) children))
  | _ :: _, found => found

mutual

/-- Whether two trees are the same, down to the order in every directory. -/
def decideEq : (tree other : Tree) → Decidable (tree = other)
  | .file mode content, .file mode' content' =>
    -- Lists are compared in one pass, arrays are not.
    decidable_of_iff (mode = mode' ∧ content.data.toList = content'.data.toList) (by simp [ByteArray.ext_iff])
  | .link target, .link target' => decidable_of_iff (target = target') (by simp)
  | .directory children, .directory children' =>
    match decideAll children children' with
    | .isTrue same => .isTrue (congrArg directory same)
    | .isFalse different => .isFalse fun same => different (directory.inj same)
  | .file _ _, .link _ | .file _ _, .directory _ | .link _, .file _ _ | .link _, .directory _
  | .directory _, .file _ _ | .directory _, .link _ => .isFalse nofun

def decideAll : (children others : List (String × Tree)) → Decidable (children = others)
  | [], [] => .isTrue rfl
  | [], _ :: _ | _ :: _, [] => .isFalse nofun
  | (name, tree) :: rest, (name', tree') :: rest' =>
    match decideEq tree tree', decideAll rest rest' with
    | .isTrue same, .isTrue also => decidable_of_iff (name = name') (by simp [same, also])
    | .isFalse different, _ => .isFalse fun same => different (by simp_all)
    | _, .isFalse different => .isFalse fun same => different (by simp_all)

end

instance : DecidableEq Tree := decideEq

mutual

/-- Everything in a tree, with the path of its place. -/
def everything (path : String) : Tree → List (String × Node)
  | .file mode content => [(path, .file mode content)]
  | .link target => [(path, .link target)]
  | .directory children => (path, .directory) :: everythingIn (path ++ "/") children

/-- Everything in some trees, with the path of its place. -/
def everythingIn (path : String) : List (String × Tree) → List (String × Node)
  | [] => []
  | (name, tree) :: rest => tree.everything (path ++ name) ++ everythingIn path rest

end

end Tree

end WheelInstaller

/-! File systems. What is where is told by locations; paths only lead to locations. -/

namespace WheelInstaller

/-- A file system, with the directory that relative paths start from. -/
structure FileSystem where
  top : Tree := .directory []
  home : Location := []
deriving DecidableEq

namespace FileSystem

def get? (files : FileSystem) (location : Location) : Option Node :=
  (files.top.find? location).map Tree.node

/-- Changes what is at a location, with everything below it. The top itself stays. -/
def alter (files : FileSystem) (location : Location) (change : Option Tree → Option Tree) :
    FileSystem :=
  { files with top := (Tree.alter change location (some files.top)).getD files.top }

/-- Puts a node at a location, in place of what is there. -/
def put (files : FileSystem) (location : Location) (node : Node) : FileSystem :=
  files.alter location fun _ => some (.ofNode node)

/-- Takes away everything strictly below a location. -/
def clear (files : FileSystem) (location : Location) : FileSystem :=
  files.alter location (·.map fun tree => .ofNode tree.node)

/-- Takes away a location and everything below it. -/
def erase (files : FileSystem) (location : Location) : FileSystem :=
  files.alter location fun _ => none

/-- Moves a location and everything below it. Nothing may be at or below the new place, and the new
place must not be below the old one. -/
def move (files : FileSystem) (source target : Location) : FileSystem :=
  match files.top.find? source with
  | none => files
  | some tree => (files.erase source).alter target fun _ => some tree

/-- The names directly in a directory, in order. -/
def children (files : FileSystem) (directory : Location) : List String :=
  match files.top.find? directory with
  | none => []
  | some tree => Ordered.ofList compare (tree.children.map (·.1))

def absolutePath (location : Location) : Path :=
  ⟨"/" ++ "/".intercalate location⟩

/-- Everything below the home directory, with its path from there, in the order of the paths. -/
def contents (files : FileSystem) : List (String × Node) :=
  match files.top.find? files.home with
  | none => []
  | some tree =>
    Ordered.ofList (fun first second => compare first.1 second.1)
      (Tree.everythingIn "" tree.children)

end FileSystem
end WheelInstaller
