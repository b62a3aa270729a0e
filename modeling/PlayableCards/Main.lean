import PlayableCards.Command.Session

/-!
# The command

Carries out a session on the real file system. The input is opened before the output is created
and read after.
-/

namespace PlayableCards
namespace Main

def faultOf : IO.Error → IoFault
  | .noFileOrDirectory .. => .notFound
  | .inappropriateType _ 20 _ => .notDirectory
  | .inappropriateType _ 21 _ => .isDirectory
  | .invalidArgument _ 36 _ => .longName
  | .permissionDenied _ 13 _ => .denied
  | e => ⟨toString e⟩

partial def readAll (handle : IO.FS.Stream) (bytes : ByteArray) : IO ByteArray := do
  let more ← handle.read 65536
  if more.isEmpty then return bytes else readAll handle (bytes ++ more)

/-- A handle's bytes as a source, or a source that fails as it does. -/
def sourceOf (handle : IO.FS.Stream) : IO Source := do
  try
    return .ofBytes (← readAll handle .empty).toList []
  catch e =>
    return .ofBytes [] [.fail (faultOf e)]

def openInput (path : String) : IO (Except IoFault IO.FS.Stream) := do
  if path = "-" then return .ok (← IO.getStdin)
  try
    return .ok (.ofHandle (← IO.FS.Handle.mk path .read))
  catch e =>
    return .error (faultOf e)

def createOutput (path : Option String) : IO (Except IoFault IO.FS.Stream) := do
  match path with
  | none => return .ok (← IO.getStdout)
  | some path =>
    try
      return .ok (.ofHandle (← IO.FS.Handle.mk path .write))
    catch e =>
      return .error (faultOf e)

def fail (f : Session.Failure) : IO UInt32 := do
  (← IO.getStderr).putStr f.report
  return 1

def run (options : Options) : IO UInt32 := do
  match ← openInput options.cards with
  | .error fault => fail (.opening options.cards fault)
  | .ok input =>
    match ← createOutput options.output with
    | .error fault => fail (.creating (options.output.getD "") fault)
    | .ok output =>
      let e := Export.run (← sourceOf input) Sink.unlimited
      output.write ⟨e.sink.written⟩
      output.flush
      let (exit, stderr) := Session.verdict options e.result
      (← IO.getStderr).putStr stderr
      return exit.toUInt32

end Main
end PlayableCards

open PlayableCards in
def main (arguments : List String) : IO UInt32 := do
  match Request.ofArguments arguments with
  | .run options => Main.run options
  | request =>
    let session := Session.answer request [] .empty
    (← IO.getStdout).write ⟨session.stdout.toArray⟩
    unless session.stderr.isEmpty do (← IO.getStderr).putStrLn session.stderr
    return session.exit.toUInt32
