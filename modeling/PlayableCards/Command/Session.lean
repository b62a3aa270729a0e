import PlayableCards.Command.Directory
import PlayableCards.Command.Options
import PlayableCards.Export.Write

/-!
# Sessions

A session carries out a request: the input is opened, then the output created, then the input
read. Statistics are shown only after a run without faults.
-/

namespace PlayableCards

structure Session where
  exit : Nat
  stdout : Bytes
  stderr : String
  directory : Directory

inductive Input where
  | stdin
  | file (name : FileName)
  /-- Opens like a file, and fails when it is read. -/
  | directory

inductive Destination where
  | stdout
  | file (name : FileName)

namespace Session

def helpText : String :=
  "Stream playable cards as parser input blocks\n\nUsage: card-blocks [OPTIONS]\n\nOptions:\n" ++
  "      --cards <CARDS>    Path to the cards JSON file (\"-\" reads stdin) " ++
  "[default: cards.json]\n" ++
  "  -o, --output <OUTPUT>  Output file (writes to stdout if omitted)\n" ++
  "      --stats            Print record and exclusion counts to stderr when done\n" ++
  "  -h, --help             Print help\n" ++
  "  -V, --version          Print version\n"

def versionText : String := "card-blocks 0.1.0\n"

inductive Failure where
  | opening (path : String) (fault : IoFault)
  | creating (path : String) (fault : IoFault)
  | processing (path : String) (fault : StreamFault)

namespace Failure

def context : Failure → String
  | opening path _ => "Failed to open cards file: " ++ path
  | creating path _ => "Failed to create file: " ++ path
  | processing path _ => "Failed to process cards from: " ++ path

/-- The causes, each of the one before. -/
def causes : Failure → List String
  | opening _ fault | creating _ fault => [fault.text]
  | processing _ fault => [fault.message, fault.reason]

def causeLines : List String → List String
  | [cause] => ["    " ++ cause]
  | causes => causes.mapIdx fun i cause => "    " ++ toString i ++ ": " ++ cause

def report (f : Failure) : String :=
  "Error: " ++ f.context ++ "\n\nCaused by:\n"
    ++ String.join ((causeLines f.causes).map (· ++ "\n"))

end Failure

def openInput (d : Directory) (path : String) : Except IoFault Input :=
  if path = "-" then .ok .stdin
  else
    match d.locate path with
    | .file name _ => .ok (.file name)
    | .directory => .ok .directory
    | .vacant _ => .error .notFound
    | .noDirectory fault | .nowhere fault => .error fault

/-- Creates the output, or empties it if it is there. -/
def createOutput (d : Directory) (path : Option String) :
    Except IoFault (Destination × Directory) :=
  match path with
  | none => .ok (.stdout, d)
  | some path =>
    match d.locate path with
    | .file name _ | .vacant name => .ok (.file name, d.put name [])
    | .directory | .noDirectory _ => .error .isDirectory
    | .nowhere fault => .error fault

/-- The bytes of an input as they are when it is read, by calls that go as `script` says. -/
def inputSource (d : Directory) (stdin : Bytes) (script : List ReadEvent) : Input → Source
  | .stdin => .ofBytes stdin script
  | .file name => .ofBytes ((d.content? name).getD []) script
  | .directory => .ofBytes [] [.fail .isDirectory]

def statsText (stats : Stats) : String := String.join (stats.report.map (· ++ "\n"))

def verdict (options : Options) (result : Except StreamFault Stats) : Nat × String :=
  match result with
  | .ok stats => (0, if options.stats then statsText stats else "")
  | .error fault => (1, (Failure.processing options.cards fault).report)

def failed (f : Failure) (d : Directory) : Session := ⟨1, [], f.report, d⟩

/-- Past `script` every call to read delivers as much as it can. -/
def run (options : Options) (stdin : Bytes) (d : Directory) (script : List ReadEvent := []) :
    Session :=
  match openInput d options.cards with
  | .error fault => failed (.opening options.cards fault) d
  | .ok input =>
    match createOutput d options.output with
    | .error fault => failed (.creating (options.output.getD "") fault) d
    | .ok (destination, created) =>
      let e := Export.run (inputSource created stdin script input) Sink.unlimited
      let written := e.sink.written.toList
      let (exit, stderr) := verdict options e.result
      match destination with
      | .stdout => ⟨exit, written, stderr, created⟩
      | .file name => ⟨exit, [], stderr, created.put name written⟩

def answer (request : Request) (stdin : Bytes) (d : Directory) (script : List ReadEvent := []) :
    Session :=
  match request with
  | .help => ⟨0, Utf8.ofString helpText, "", d⟩
  | .version => ⟨0, Utf8.ofString versionText, "", d⟩
  | .refused fault => ⟨2, [], fault.message, d⟩
  | .run options => run options stdin d script

end Session

end PlayableCards
