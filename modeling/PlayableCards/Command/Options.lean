/-!
# Command line options

Arguments are taken from left to right. An option that takes a value has it attached or as the
next argument, and is settled when the next option is met or the arguments end. The first fault
met decides; a request for help or for the version is answered as soon as it is met.
-/

namespace PlayableCards

inductive Valued where
  | cards
  | output
  deriving DecidableEq, Repr

namespace Valued

def usage : Valued → String
  | cards => "--cards <CARDS>"
  | output => "--output <OUTPUT>"

end Valued

inductive Plain where
  | stats
  | help
  | version
  deriving DecidableEq, Repr

namespace Plain

def usage : Plain → String
  | stats => "--stats"
  | help => "--help"
  | version => "--version"

end Plain

inductive UsageFault where
  | unexpectedArgument (argument : String)
  | missingValue (option : Valued)
  | unexpectedValue (value : String) (option : Plain)
  | repeated (usage : String)
  deriving DecidableEq, Repr

namespace UsageFault

def message : UsageFault → String
  | unexpectedArgument argument => "error: unexpected argument '" ++ argument ++ "' found"
  | missingValue option =>
    "error: a value is required for '" ++ option.usage ++ "' but none was supplied"
  | unexpectedValue value option =>
    "error: unexpected value '" ++ value ++ "' for '" ++ option.usage
      ++ "' found; no more were expected"
  | repeated usage => "error: the argument '" ++ usage ++ "' cannot be used multiple times"

end UsageFault

structure Options where
  cards : String
  output : Option String
  stats : Bool
  deriving DecidableEq, Repr

inductive Request where
  | run (options : Options)
  | help
  | version
  | refused (fault : UsageFault)
  deriving DecidableEq, Repr

/-- An option with a value that has been met and not been settled. -/
structure Unsettled where
  option : Valued
  value : Option String
  deriving DecidableEq, Repr

structure Arguments where
  cards : Option String
  output : Option String
  stats : Bool
  unsettled : Option Unsettled
  deriving DecidableEq, Repr

namespace Arguments

def none : Arguments := ⟨.none, .none, false, .none⟩

def assign (a : Arguments) (option : Valued) (value : String) : Except UsageFault Arguments :=
  match option with
  | .cards =>
    if a.cards.isSome then .error (.repeated option.usage) else .ok { a with cards := value }
  | .output =>
    if a.output.isSome then .error (.repeated option.usage) else .ok { a with output := value }

def settle (a : Arguments) : Except UsageFault Arguments :=
  match a.unsettled with
  | .none => .ok a
  | some ⟨option, .none⟩ => .error (.missingValue option)
  | some ⟨option, some value⟩ => { a with unsettled := .none }.assign option value

/-- What an argument leads to: more arguments, or an answer. -/
abbrev Progress := Except Request Arguments

def orRefuse : Except UsageFault Arguments → Progress
  | .ok a => .ok a
  | .error fault => .error (.refused fault)

def meetValued (a : Arguments) (option : Valued) (attached : Option String) : Progress :=
  orRefuse do
    let a ← a.settle
    match attached with
    | some value => a.assign option value
    | .none => return { a with unsettled := some ⟨option, .none⟩ }

def meetPlain (a : Arguments) (option : Plain) : Progress :=
  match a.settle with
  | .error fault => .error (.refused fault)
  | .ok a =>
    match option with
    | .help => .error .help
    | .version => .error .version
    | .stats =>
      if a.stats then .error (.refused (.repeated option.usage)) else .ok { a with stats := true }

def splitValue (cs : List Char) : List Char × Option String :=
  match cs.dropWhile (· != '=') with
  | [] => (cs, .none)
  | _ :: value => (cs.takeWhile (· != '='), some (String.ofList value))

def meetLong (a : Arguments) (cs : List Char) : Progress :=
  let (name, attached) := splitValue cs
  let plain (option : Plain) : Progress :=
    match attached with
    | some value => .error (.refused (.unexpectedValue value option))
    | .none => a.meetPlain option
  match String.ofList name with
  | "cards" => a.meetValued .cards attached
  | "output" => a.meetValued .output attached
  | "stats" => plain .stats
  | "help" => plain .help
  | "version" => plain .version
  | name => .error (.refused (.unexpectedArgument ("--" ++ name)))

/-- Meets an argument that starts with one hyphen. All short options but one are answered at
once, and that one takes the rest of the argument as its value. -/
def meetShort (a : Arguments) (c : Char) (rest : List Char) : Progress :=
  match c with
  | 'h' => a.meetPlain .help
  | 'V' => a.meetPlain .version
  | 'o' =>
    match rest with
    | [] => a.meetValued .output .none
    | '=' :: value => a.meetValued .output (String.ofList value)
    | value => a.meetValued .output (String.ofList value)
  | c => .error (.refused (.unexpectedArgument (String.ofList ['-', c])))

/-- Meets an argument that is no option: the value of the option before it, if that lacks one. -/
def meetValue (a : Arguments) (argument : String) : Progress :=
  match a.unsettled with
  | some ⟨option, .none⟩ => .ok { a with unsettled := some ⟨option, some argument⟩ }
  | _ => .error (.refused (.unexpectedArgument argument))

def meet (a : Arguments) (argument : String) : Progress :=
  match argument.toList with
  | '-' :: '-' :: cs => a.meetLong cs
  | '-' :: c :: rest => a.meetShort c rest
  | _ => a.meetValue argument

def defaultCards : String := "cards.json"

def options (a : Arguments) : Options := ⟨a.cards.getD defaultCards, a.output, a.stats⟩

def conclude (a : Arguments) : Request :=
  match a.settle with
  | .ok a => .run a.options
  | .error fault => .refused fault

/-- Reads on. After two hyphens alone nothing is an option, and nothing else is expected. -/
def request (a : Arguments) : List String → Request
  | [] => a.conclude
  | argument :: rest =>
    if argument = "--" then
      match rest with
      | [] => a.conclude
      | next :: _ => .refused (.unexpectedArgument next)
    else
      match a.meet argument with
      | .ok a => a.request rest
      | .error answer => answer

end Arguments

def Request.ofArguments (arguments : List String) : Request := Arguments.none.request arguments

end PlayableCards
