import DiagnosticPage.CommandLine.Run

/-!
# The program

The outer layer: it supplies `produce` with the bytes of files and of standard input, and puts the
page, the log lines and the text of a failure where they belong.
-/

namespace DiagnosticPage.CommandLine

/-- What the system says about a file, as a fault of access. -/
def accessFault : IO.Error → AccessFault
  | .noFileOrDirectory _ _ _ => .notFound
  | .inappropriateType _ code details =>
    if code = 21 then .isDirectory else if code = 20 then .notDirectory else .other details
  | e => .other (toString e)

/-- All bytes that are still to come from a stream. -/
partial def readStream (stream : IO.FS.Stream) (soFar : ByteArray) : IO ByteArray := do
  let piece ← stream.read 65536
  if piece.isEmpty then return soFar
  readStream stream (soFar ++ piece)

/-- Opens and reads the file with a path. -/
def openPath (path : String) : IO FileTree.Opened := do
  match ← EIO.toBaseIO (IO.FS.Handle.mk path .read) with
  | .error e => return .refused (accessFault e)
  | .ok handle =>
    match ← EIO.toBaseIO handle.readBinToEnd with
    | .error e => return .unreadable (accessFault e)
    | .ok bytes => return .bytes bytes

/-- Reads standard input to its end. -/
def readInput : IO FileTree.Opened := do
  match ← EIO.toBaseIO (readStream (← IO.getStdin) .empty) with
  | .error e => return .unreadable (accessFault e)
  | .ok bytes => return .bytes bytes

/-- The system supplies a run with its bytes. -/
def systemSupply : Supply IO where
  standardInput := readInput
  openFile := openPath

/-- Writes the log lines that pass a filter. -/
def writeEvents (filter : Log.Filter) (events : List Log.Event) : IO Unit := do
  let log ← IO.getStderr
  for e in events do
    if filter.passes e then log.putStrLn e.line

/-- Reports a failed run. -/
def giveUp (f : Failed) : IO UInt32 := do
  (← IO.getStderr).putStr f.text
  return 1

/-- Writes the page of a run that follows a request. -/
def writePage (filter : Log.Filter) (r : Request) (page : String) : IO UInt32 := do
  if isStandard r.output then
    let output ← IO.getStdout
    output.putStr (page ++ "\n")
    output.flush
    return 0
  let path := r.output.getD ""
  match ← EIO.toBaseIO (IO.FS.writeBinFile path page.toUTF8) with
  | .error e => giveUp (unwritten path (accessFault e))
  | .ok _ =>
    writeEvents filter [wroteEvent path]
    return 0

/-- Does what a request asks for. -/
def follow (r : Request) : IO UInt32 := do
  let filter := Log.Filter.choose (← IO.getEnv "RUST_LOG") r.verbosity
  let progress ← produce systemSupply r
  writeEvents filter progress.events
  match progress.result with
  | .error f => giveUp f
  | .ok page => writePage filter r page

end DiagnosticPage.CommandLine

open DiagnosticPage.CommandLine in
/-- Runs the program with the given arguments. -/
def main (args : List String) : IO UInt32 := do
  match meaning args with
  | .misuse =>
    (← IO.getStderr).putStrLn "error: invalid arguments, try '--help'"
    return 2
  | .help =>
    (← IO.getStdout).putStr helpText
    return 0
  | .version =>
    (← IO.getStdout).putStr versionText
    return 0
  | .run r => follow r
