import ClientTraits.Text.Split

/-!
# Paths

A path is a text; it is joined to others as text and shown as it was written. Its components are
what it says: they leave out empty segments and all single points but a leading one. Paths are
ordered by their components, so that what is in a folder comes before a file whose name only begins
like the folder's, and paths with the same components count as one.
-/

namespace ClientTraits

/-- A path, as written. -/
structure Path where
  text : String
  deriving DecidableEq, Repr

/-- A component of a path. -/
inductive Component
  /-- The slash at the beginning. -/
  | root
  /-- A single point at the beginning. -/
  | here
  /-- Two points. -/
  | up
  | name (s : String)
  deriving DecidableEq, Repr

namespace Component

/-- The order of the kinds of components. -/
def rank : Component → Nat
  | root => 0
  | here => 1
  | up => 2
  | name _ => 3

/-- The order of components: by kind, and names by their characters. -/
def before : Component → Component → Bool
  | name s, name t => decide (s < t)
  | a, b => decide (a.rank < b.rank)

/-- The component of a segment that is not the first one. -/
def ofSegment? (segment : String) : Option Component :=
  if segment = "" || segment = "." then none
  else if segment = ".." then some up
  else some (name segment)

/-- Lists of components in the order of their first difference. -/
def listLe : List Component → List Component → Bool
  | [], _ => true
  | _ :: _, [] => false
  | a :: as, b :: bs => a.before b || (a == b && listLe as bs)

end Component

namespace Path

/-- A path that does not depend on where it is used. -/
def isAbsolute (p : Path) : Bool :=
  p.text.toList.head? == some '/'

/-- What stands between the slashes. -/
def segments (p : Path) : List String :=
  Text.pieces '/' p.text

/-- What a path says. -/
def components (p : Path) : List Component :=
  let start :=
    if p.isAbsolute then [Component.root]
    else if p.segments.head? == some "." then [.here]
    else []
  start ++ p.segments.filterMap Component.ofSegment?

/-- A path taken relative to a base. -/
def join (base p : Path) : Path :=
  if p.isAbsolute then p
  else if base.text.isEmpty || base.text.toList.getLast? == some '/' then ⟨base.text ++ p.text⟩
  else ⟨base.text ++ "/" ++ p.text⟩

/-- The segments, last first, from the last one that is a component. -/
def trimmed (segments : List String) : List String :=
  segments.dropWhile fun s => (Component.ofSegment? s).isNone

/-- The path without its last component; nothing if it has none but the root. -/
def parent? (p : Path) : Option Path :=
  let (start, body) :=
    match p.isAbsolute, p.segments with
    | true, _ :: body => ("/", body)
    | false, "." :: body => (".", body)
    | _, body => ("", body)
  match trimmed body.reverse with
  | _ :: above =>
    let above := (trimmed above).reverse
    let between := if start = "." && !above.isEmpty then "/" else ""
    some ⟨start ++ between ++ "/".intercalate above⟩
  | [] => if start = "." then some ⟨""⟩ else none

/-- The last component is a name with this extension: it ends in a point and `extension`, and the
point is not its first character. -/
def hasExtension (p : Path) (extension : String) : Bool :=
  match p.components.getLast? with
  | some (.name s) =>
    match Text.splitChars '.' s.toList.reverse with
    | some (ending, stem) => !stem.isEmpty && ending.reverse == extension.toList
    | none => false
  | _ => false

/-- The order of paths. -/
def le (a b : Path) : Bool :=
  Component.listLe a.components b.components

/-- The paths in their order, the first one of those with the same components. -/
def sortedUnique (paths : List Path) : List Path :=
  (paths.mergeSort le).eraseRepsBy fun a b => a.components == b.components

end Path

end ClientTraits
