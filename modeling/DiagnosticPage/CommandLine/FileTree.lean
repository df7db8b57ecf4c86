import DiagnosticPage.Failure
import DiagnosticPage.SourcePath

/-!
# File trees

The files and directories that a run can reach: a tree under a root directory, and the working
directory, which is one of its directories.  A path leads from the root if it is absolute, and from
the working directory if it is relative.  It is followed name by name, and everything on the way
must be a directory; two dots lead to the directory above, and from the root to the root itself.

There are no links, so every file has one route from the root, but many paths lead there.  Whatever
is there may be read and written.
-/

namespace DiagnosticPage.CommandLine

/-- The names that lead from the root directory to a place below it. -/
abbrev Route := List (List Char)

namespace FileTree

/-- A file with its bytes, or a directory with its entries, of which the first with a name
counts. -/
inductive Node where
  | file (bytes : ByteArray)
  | directory (entries : List (List Char × Node))

/-- What there is at the end of a route. -/
inductive Found where
  | nothing
  | directory
  | file (bytes : ByteArray)

namespace Node

/-- Looks for what there is at the end of a route. -/
def look : Node → Route → Found
  | file b, [] => .file b
  | file _, _ :: _ => .nothing
  | directory _, [] => .directory
  | directory entries, name :: r =>
    match entries.lookup name with
    | none => .nothing
    | some n => n.look r

/-- The entries of a directory with one more, in the place of the one that has its name. -/
def setEntry (name : List Char) (n : Node) : List (List Char × Node) → List (List Char × Node)
  | [] => [(name, n)]
  | (other, m) :: entries =>
    if other = name then (name, n) :: entries else (other, m) :: setEntry name n entries

/-- Puts a file at the end of a route, if that is in a directory and not one itself. -/
def put (b : ByteArray) : Node → Route → Node
  | file _, [] => file b
  | file old, _ :: _ => file old
  | directory entries, [] => directory entries
  | directory entries, name :: r =>
    match entries.lookup name, r with
    | some n, r => directory (setEntry name (n.put b r) entries)
    | none, [] => directory (setEntry name (file b) entries)
    | none, _ :: _ => directory entries

/-- An entry that is set is found by its name, and the others are found as before. -/
theorem lookup_setEntry (name other : List Char) (n : Node) (entries : List (List Char × Node)) :
    (setEntry name n entries).lookup other =
      if other = name then some n else entries.lookup other := by
  induction entries with
  | nil =>
    by_cases h : other = name
    · simp [setEntry, h]
    · simp [setEntry, List.lookup_cons, beq_eq_false_iff_ne.mpr h, h]
  | cons entry entries ih =>
    obtain ⟨first, m⟩ := entry
    by_cases hfirst : first = name
    · subst hfirst
      by_cases h : other = first
      · simp [setEntry, h]
      · simp [setEntry, List.lookup_cons, beq_eq_false_iff_ne.mpr h, h]
    · by_cases h : other = first
      · subst h
        simp [setEntry, hfirst]
      · simpa [setEntry, List.lookup_cons, hfirst, beq_eq_false_iff_ne.mpr h] using ih

/-- Putting a file somewhere changes what there is at that place only, and only to the file; no
directory gives way to it. -/
theorem look_put (b : ByteArray) (n : Node) (r q : Route) :
    (n.put b r).look q = n.look q ∨
      q = r ∧ n.look q ≠ .directory ∧ (n.put b r).look q = .file b := by
  induction r generalizing n q with
  | nil => cases n <;> cases q <;> simp [put, look]
  | cons name r ih =>
    cases n with
    | file old => exact Or.inl rfl
    | directory entries =>
      cases q with
      | nil => cases hn : entries.lookup name <;> cases r <;> simp [put, hn, look]
      | cons other q =>
        by_cases hother : other = name
        · subst hother
          cases hn : entries.lookup other with
          | some m => simpa [put, hn, look, lookup_setEntry] using ih m q
          | none => cases r <;> cases q <;> simp [put, hn, look, lookup_setEntry]
        · cases hn : entries.lookup name <;> cases r <;>
            simp [put, hn, look, lookup_setEntry, hother]

/-- Putting a file somewhere neither makes a directory nor takes one away. -/
theorem look_put_eq_directory_iff (b : ByteArray) (n : Node) (r q : Route) :
    (n.put b r).look q = .directory ↔ n.look q = .directory := by
  rcases look_put b n r q with h | ⟨-, hbefore, hafter⟩
  · rw [h]
  · simp [hbefore, hafter]

end Node

end FileTree

/-- The files below a root directory, and a working directory among them. -/
structure FileTree where
  root : FileTree.Node
  /-- The route to the working directory. -/
  here : Route
  here_directory : root.look here = .directory

namespace FileTree

/-- Looks for what there is at the end of a route. -/
def look (t : FileTree) (r : Route) : Found :=
  t.root.look r

/-- The names in a path, dots left out. -/
def names (path : List Char) : Route :=
  (SourcePath.components path).filterMap fun
    | .root => none
    | .name n => if n = ['.'] then none else some n

/-- Where a name leads from a directory.  Two dots lead to the directory above. -/
def next (place : Route) (name : List Char) : Route :=
  if name = ['.', '.'] then place.dropLast else place ++ [name]

/-- Follows names from a place.  Only the last one may lead nowhere. -/
def follow (t : FileTree) (place : Route) : Route → Except AccessFault Route
  | [] => .ok place
  | n :: ns =>
    match t.look place with
    | .directory => t.follow (next place n) ns
    | .file _ => .error .notDirectory
    | .nothing => .error .notFound

/-- The place that a path is followed from. -/
def origin (t : FileTree) (path : List Char) : Route :=
  if path.head? = some '/' then [] else t.here

/-- The route of a path. -/
def route (t : FileTree) (path : List Char) : Except AccessFault Route :=
  if path.isEmpty then .error .notFound else t.follow (t.origin path) (names path)

/-- How a path ends: with a name, with a name and slashes behind it, or with a dot in the place of a
name.  The last two say that the path is that of a directory. -/
inductive Ending where
  | name
  | slash
  | dot
deriving DecidableEq

/-- The ending of a path. -/
def ending (path : List Char) : Ending :=
  match path.reverse.dropWhile (· = '/') with
  | ['.'] => .dot
  | '.' :: '/' :: _ => .dot
  | _ => if path.getLast? = some '/' then .slash else .name

/-- The outcome of opening a file to read it: it cannot be opened, it can be opened but not read, or
there are its bytes. -/
inductive Opened where
  | refused (f : AccessFault)
  | unreadable (f : AccessFault)
  | bytes (b : ByteArray)

/-- Opens the file with a path. -/
def openFile (t : FileTree) (path : List Char) : Opened :=
  match t.route path with
  | .error f => .refused f
  | .ok r =>
    match t.look r with
    | .file b => if ending path = .name then .bytes b else .refused .notDirectory
    | .directory => .unreadable .isDirectory
    | .nothing => .refused .notFound

/-- Puts a file at the end of a route, in the place of the one that is there. -/
def put (t : FileTree) (r : Route) (b : ByteArray) : FileTree where
  root := t.root.put b r
  here := t.here
  here_directory := (Node.look_put_eq_directory_iff b t.root r t.here).mpr t.here_directory

/-- Writes a file.  The directory that it lies in must exist. -/
def writeFile (t : FileTree) (path : List Char) (b : ByteArray) : Except AccessFault FileTree :=
  match t.route path with
  | .error f => .error f
  | .ok r =>
    match t.look r, ending path with
    | .directory, _ => .error .isDirectory
    | _, .name => .ok (t.put r b)
    | _, .slash => .error .isDirectory
    | .file _, .dot => .error .notDirectory
    | .nothing, .dot => .error .notFound

end FileTree

end DiagnosticPage.CommandLine
