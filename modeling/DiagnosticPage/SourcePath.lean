/-!
# Paths of source files

A path is text.  Its components are found by cutting the text into pieces: every slash is a piece,
and so is every run of other characters.  A piece may stand for a component or for none: the slash
that opens a path is the root component, other slashes only separate, a single dot counts only at
the very start of the path, and two dots are a component like any other.  The pieces of a path
put together are its text, so a path can be shortened without respelling what is left of it:
`SourcePath.below` drops the pieces of a directory and those that lie outside all components.
-/

namespace DiagnosticPage

namespace SourcePath

/-- A component of a path. -/
inductive Component where
  | root
  | name (text : List Char)
deriving DecidableEq

/-- A piece of the text of a path, with the component that it stands for. -/
structure Piece where
  text : List Char
  component : Option Component
deriving DecidableEq

/-- Cuts a text into its slashes and the runs between them. -/
def runs (path : List Char) : List (List Char) :=
  path.splitBy fun a b => a != '/' && b != '/'

/-- A run at the very start of a path: a slash is the root, a dot is a component. -/
def Piece.first (run : List Char) : Piece :=
  ⟨run, if run = ['/'] then some .root else some (.name run)⟩

/-- A run further on: slashes separate, and a dot stays where it is. -/
def Piece.later (run : List Char) : Piece :=
  ⟨run, if run = ['/'] ∨ run = ['.'] then none else some (.name run)⟩

/-- The pieces of a path, in order. -/
def pieces (path : List Char) : List Piece :=
  match runs path with
  | [] => []
  | run :: rest => .first run :: rest.map .later

/-- The components of a path, in order. -/
def components (path : List Char) : List Component :=
  (pieces path).filterMap Piece.component

/-- The pieces that follow the given components, if the path begins with them. -/
def after : List Component → List Piece → Option (List Piece)
  | [], ps => some ps
  | _ :: _, [] => none
  | c :: cs, p :: ps =>
    match p.component with
    | none => after (c :: cs) ps
    | some d => if c = d then after cs ps else none

/-- Drops the pieces before the first and behind the last component. -/
def trim (ps : List Piece) : List Piece :=
  ((ps.dropWhile fun p => p.component.isNone).reverse.dropWhile
    fun p => p.component.isNone).reverse

/-- The text of a path below a directory, from its first remaining component to its last one.
There is none when the path is not below the directory. -/
def below (directory path : List Char) : Option (List Char) :=
  match after (components directory) (pieces path) with
  | none => none
  | some rest =>
    match trim rest with
    | [] => none
    | p :: ps => some ((p :: ps).flatMap Piece.text)

end SourcePath

end DiagnosticPage
