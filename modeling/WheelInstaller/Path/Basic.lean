import WheelInstaller.Ordered
import WheelInstaller.Text.Split

/-! Paths. A path is the text someone wrote; what it means is its list of components, and two
paths are the same when their components are. Repeated and trailing slashes and inner `.`
segments leave no trace in the components, but stay in the text. -/

namespace WheelInstaller

/-- A path as written. -/
structure Path where
  text : String
deriving DecidableEq, Repr, Inhabited

/-- One step of a path. -/
inductive Component where
  | root
  | current
  | parent
  | name (value : String)
deriving DecidableEq, Repr

namespace Component

/-- Steps of different kinds come in this order. -/
def rank : Component → Nat
  | .root => 0
  | .current => 1
  | .parent => 2
  | .name _ => 3

/-- The name that a component gives, or no text. -/
def label : Component → String
  | .name value => value
  | .root | .current | .parent => ""

/-- Components are ordered by kind, and names by their code points. -/
def order : Component → Component → Ordering :=
  compareLex (compareOn rank) (compareOn label)

instance : Std.TransCmp order :=
  inferInstanceAs (Std.TransCmp (compareLex (compareOn rank) (compareOn label)))

instance : Std.LawfulEqCmp order where
  compare_self := Std.ReflCmp.compare_self
  eq_of_compare {first second} equal := by
    simp only [order, compareLex, compareOn, Ordering.then_eq_eq,
      Std.LawfulEqCmp.compare_eq_iff_eq] at equal
    cases first <;> cases second <;> simp_all [rank, label]

/-- The name that a component gives, if it gives one. -/
def name? : Component → Option String
  | .name value => some value
  | .root | .current | .parent => none

/-- The component that a segment after the first stands for. -/
def ofSegment? (segment : List Char) : Option Component :=
  if segment = [] || segment = ['.'] then none
  else if segment = ['.', '.'] then some .parent
  else some (.name (String.ofList segment))

end Component

namespace Path

/-- How a path starts. -/
inductive Start where
  | root
  | current
  | plain
deriving DecidableEq, Repr

/-- A path cut at its slashes: how it starts, and the segments after that. -/
structure Layout where
  start : Start
  body : List (List Char)
deriving DecidableEq, Repr

def layout (path : Path) : Layout :=
  match Text.splitOn '/' path.text.toList with
  | [] => ⟨.plain, []⟩
  | first :: rest =>
    -- Before a slash at the very start there is an empty segment.
    if first = [] && !rest.isEmpty then ⟨.root, rest⟩
    else if first = ['.'] then ⟨.current, rest⟩
    else ⟨.plain, first :: rest⟩

def Start.components : Start → List Component
  | .root => [.root]
  | .current => [.current]
  | .plain => []

def components (path : Path) : List Component :=
  let layout := path.layout
  layout.start.components ++ layout.body.filterMap Component.ofSegment?

/-- A path that starts at the root of the file system. -/
def isAbsolute (path : Path) : Bool :=
  path.text.toList.head? = some '/'

/-- Paths with the same components. -/
def same (first second : Path) : Bool :=
  first.components = second.components

/-- Paths are ordered component by component: the first difference decides, and a start comes
first. -/
def orderComponents : List Component → List Component → Ordering :=
  List.compareLex Component.order

/-- Some paths in order, and of those with the same components only the first. -/
def inOrder (paths : List Path) : List Path :=
  let keyed := paths.map fun path => (path.components, path)
  (Ordered.ofList (fun first second => orderComponents first.1 second.1) keyed).map (·.2)

/-- A path seen from another one. An absolute path stands for itself. -/
def join (base relative : Path) : Path :=
  if relative.isAbsolute then relative
  else if base.text.toList.getLast?.all (· = '/') then ⟨base.text ++ relative.text⟩
  else ⟨base.text ++ "/" ++ relative.text⟩

instance : HDiv Path String Path where
  hDiv base name := base.join ⟨name⟩

def Layout.path (layout : Layout) : Path :=
  let body := Text.joinWith '/' layout.body
  match layout.start with
  | .root => ⟨String.ofList ('/' :: body)⟩
  | .current => ⟨String.ofList (if layout.body.isEmpty then ['.'] else '.' :: '/' :: body)⟩
  | .plain => ⟨String.ofList body⟩

/-- A body without the segments at its end that are no components. -/
def trimBody (body : List (List Char)) : List (List Char) :=
  (body.reverse.dropWhile fun segment => (Component.ofSegment? segment).isNone).reverse

/-- The path without its last component. The root and the empty path have none. -/
def parent? (path : Path) : Option Path :=
  let layout := path.layout
  match layout.start, trimBody layout.body with
  | .current, [] => some ⟨""⟩
  | _, [] => none
  | start, body => some (Layout.path ⟨start, trimBody body.dropLast⟩)

/-- The path, its parent, and so on, for at most `count` parents. -/
def ancestorsWithin : Nat → Path → List Path
  | 0, path => [path]
  | count + 1, path =>
    match path.parent? with
    | none => [path]
    | some parent => path :: ancestorsWithin count parent

/-- The path, its parent, and so on up to the root or the empty path. -/
def ancestors (path : Path) : List Path :=
  ancestorsWithin path.components.length path

def fileName? (path : Path) : Option String :=
  path.components.getLast?.bind Component.name?

/-- The text after the last dot of a name; a dot at the very start does not count. -/
def extensionOfName? (name : String) : Option String :=
  let reversed := name.toList.reverse
  match Text.splitOnce '.' reversed with
  | none => none
  | some (_, []) => none
  | some (after, _) => some (String.ofList after.reverse)

/-- The extension of the last component. -/
def extension? (path : Path) : Option String :=
  path.fileName?.bind extensionOfName?

end Path
end WheelInstaller

/-! Paths compared without a file system: `..` removes the step before it, whatever that is,
and one path lies below another when it continues the other's steps. -/

namespace WheelInstaller.Path

/-- Adds a component to steps already taken, the latest first. A `..` takes back the latest step
unless that is the root; where there is nothing to take back it stays. -/
def step (taken : List Component) : Component → List Component
  | .current => taken
  | .parent =>
    match taken with
    | [] => [.parent]
    | .root :: before => .parent :: .root :: before
    | _ :: before => before
  | .root => [.root]
  | .name value => .name value :: taken

/-- The steps of a path, in order, once `.` and `..` are carried out. -/
def resolved (path : Path) : List Component :=
  (path.components.foldl step []).reverse

/-- The path continues the directory by at least one step. -/
def isStrictlyUnder (path directory : Path) : Bool :=
  directory.resolved.isPrefixOf path.resolved &&
    directory.resolved.length < path.resolved.length

end WheelInstaller.Path
