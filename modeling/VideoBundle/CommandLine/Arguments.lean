import VideoBundle.Text.Quoted
import VideoBundle.Text.Word

/-!
# Arguments of the command line

An argument that starts with a dash names an option; the others are plain.  A long option may be cut
short as long as one option is meant, and its value is the next argument or follows an equality sign.
Two dashes alone make everything behind them plain.  The first plain argument is the source of the
project; all others are one too many.
-/

namespace VideoBundle

/-- The options of the command line. -/
inductive OptionName where
  | help
  | entry
  | output
  | logLevel
deriving DecidableEq, Repr

namespace OptionName

/-- All options. -/
def all : List OptionName := [.help, .entry, .output, .logLevel]

/-- The long spelling of an option. -/
def text : OptionName → String
  | .help => "--help"
  | .entry => "--entry"
  | .output => "--output"
  | .logLevel => "--log-level"

/-- How messages speak of an option. -/
def display : OptionName → String
  | .help => "-h/--help"
  | name => name.text

/-- The option of a full spelling. -/
def named? (text : String) : Option OptionName :=
  if text = "-h" then some .help else all.find? fun name => name.text = text

/-- The options whose long spelling starts with a text. -/
def startingWith (start : List Char) : List OptionName :=
  all.filter fun name => start.isPrefixOf name.text.toList

end OptionName

/-- Why a command line asks for nothing that can be done. -/
inductive ArgumentError where
  | ambiguous (argument : String) (names : List OptionName)
  | valueMissing (name : OptionName)
  | valueIgnored (value : String)
  | sourceMissing
  | unrecognized (arguments : List String)
deriving DecidableEq, Repr

/-- The wording of an argument error. -/
def ArgumentError.message : ArgumentError → String
  | .ambiguous argument names =>
      "ambiguous option: " ++ argument ++ " could match " ++
        ", ".intercalate (names.map OptionName.text)
  | .valueMissing name => "argument " ++ name.display ++ ": expected one argument"
  | .valueIgnored value =>
      "argument " ++ OptionName.help.display ++ ": ignored explicit argument " ++ quotedText value
  | .sourceMissing => "the following arguments are required: source"
  | .unrecognized arguments => "unrecognized arguments: " ++ " ".intercalate arguments

/-! ## Kinds of arguments -/

/-- An argument by its kind.  Letters are what follows the short spelling of help. -/
inductive Token where
  | plain (text : String)
  | option (name : OptionName) (value : Option String)
  | letters (text : String)
  | unknown (text : String)
  | separator
deriving DecidableEq, Repr

/-- What stands before and after the first equality sign. -/
def splitValue (cs : List Char) : List Char × Option String :=
  match cs.dropWhile (· ≠ '=') with
  | [] => (cs, none)
  | _ :: value => (cs.takeWhile (· ≠ '='), some (String.ofList value))

/-- Whether a text is a negative number; one line feed may end it. -/
def isNegativeNumber (cs : List Char) : Bool :=
  match if cs.getLast? = some '\n' then cs.dropLast else cs with
  | '-' :: digits =>
      match digits.dropWhile Text.isDecimalDigit with
      | [] => digits != []
      | '.' :: fraction => fraction != [] && fraction.all Text.isDecimalDigit
      | _ => false
  | _ => false

/-- An argument that names no option: plain if it is a number or holds a space. -/
def unnamedToken (argument : String) : Token :=
  if isNegativeNumber argument.toList || argument.toList.contains ' ' then .plain argument
  else .unknown argument

/-- An argument with two dashes in front, by the options it may be short for. -/
def longToken (argument : String) : Except ArgumentError Token :=
  let (start, value) := splitValue argument.toList
  match OptionName.startingWith start with
  | [] => .ok (unnamedToken argument)
  | [name] => .ok (.option name value)
  | names => .error (.ambiguous argument names)

/-- The kind of an argument that starts with a dash. -/
def dashedToken (argument : String) : Except ArgumentError Token :=
  let (start, value) := splitValue argument.toList
  match OptionName.named? (String.ofList start) with
  | some name => .ok (.option name value)
  | none =>
      match argument.toList with
      | ['-'] => .ok (.plain argument)
      | '-' :: '-' :: _ => longToken argument
      | '-' :: 'h' :: letters => .ok (.letters (String.ofList letters))
      | _ => .ok (unnamedToken argument)

/-- The kind of an argument in front of the separator. -/
def token (argument : String) : Except ArgumentError Token :=
  if argument.toList.head? = some '-' then dashedToken argument else .ok (.plain argument)

/-- The arguments by their kinds. -/
def tokens : List String → Except ArgumentError (List Token)
  | [] => .ok []
  | argument :: arguments =>
      if argument = "--" then .ok (.separator :: arguments.map .plain)
      else do
        let first ← token argument
        let others ← tokens arguments
        return first :: others

/-! ## Reading -/

/-- The arguments of a compilation. -/
structure Arguments where
  source : String
  entry : Option String
  output : Option String
  logLevel : Option String
deriving DecidableEq, Repr

/-- What a command line asks for. -/
inductive Command where
  | help
  | compile (arguments : Arguments)
deriving DecidableEq, Repr

/-- The part of a command line that was read. -/
structure ArgumentState where
  source : Option String
  entry : Option String
  output : Option String
  logLevel : Option String
  leftOver : List String
deriving DecidableEq, Repr

namespace ArgumentState

/-- Nothing was read. -/
def initial : ArgumentState := ⟨none, none, none, none, []⟩

/-- Take the value of an option; the last one counts. -/
def set (s : ArgumentState) (name : OptionName) (value : String) : ArgumentState :=
  match name with
  | .help => s
  | .entry => { s with entry := some value }
  | .output => { s with output := some value }
  | .logLevel => { s with logLevel := some value }

/-- Keep an argument that is one too many. -/
def leave (s : ArgumentState) (argument : String) : ArgumentState :=
  { s with leftOver := s.leftOver ++ [argument] }

/-- Take a plain argument. -/
def take (s : ArgumentState) (argument : String) : ArgumentState :=
  match s.source with
  | none => { s with source := some argument }
  | some _ => s.leave argument

/-- What was asked for, when all arguments are read. -/
def finish (s : ArgumentState) : Except ArgumentError Command :=
  match s.source, s.leftOver with
  | none, _ => .error .sourceMissing
  | some source, [] => .ok (.compile ⟨source, s.entry, s.output, s.logLevel⟩)
  | some _, leftOver => .error (.unrecognized leftOver)

end ArgumentState

/-- The text that letters behind the short spelling of help give as a value.  Another such letter may
come first, and a letter that names no option ends the argument. -/
def letterValue? : List Char → Option (List Char)
  | '-' :: cs => some ('-' :: cs)
  | 'h' :: '=' :: cs => some cs
  | 'h' :: cs => letterValue? cs
  | _ => none

/-- Read arguments.  Help is given as soon as it is asked for.  The separator belongs to the source,
in front of it or behind it; elsewhere it is one argument too many. -/
def interpret (s : ArgumentState) : List Token → Except ArgumentError Command
  | [] => s.finish
  | .option .help none :: _ => .ok .help
  | .option .help (some value) :: _ => .error (.valueIgnored value)
  | .letters text :: _ =>
      match letterValue? text.toList with
      | some value => .error (.valueIgnored (String.ofList value))
      | none => .ok .help
  | .option name (some value) :: rest => interpret (s.set name value) rest
  | .option name none :: .plain value :: rest => interpret (s.set name value) rest
  | .option name none :: _ => .error (.valueMissing name)
  | .unknown text :: rest => interpret (s.leave text) rest
  | .plain text :: .separator :: rest =>
      if s.source.isNone then interpret (s.take text) rest
      else interpret ((s.leave text).leave "--") rest
  | .plain text :: rest => interpret (s.take text) rest
  | .separator :: rest =>
      if s.source.isNone then interpret s rest else interpret (s.leave "--") rest

/-- What a list of arguments asks for. -/
def Command.read (arguments : List String) : Except ArgumentError Command :=
  (tokens arguments).bind (interpret .initial)

/-! ## Usage -/

/-- How a program is called. -/
def usage (program : String) : String :=
  let lead := "usage: " ++ program ++ " "
  let margin := String.ofList (List.replicate lead.length ' ')
  lead ++ "[-h] [--entry ENTRY] [--output OUTPUT]\n" ++ margin ++ "[--log-level LOG_LEVEL]\n" ++
    margin ++ "source\n"

/-- The help on a program. -/
def helpText (program : String) : String :=
  usage program ++ "\n" ++
    "Compile a virtual video project into one JavaScript bundle.\n\n" ++
    "positional arguments:\n" ++
    "  source                Project directory, or a JSON file mapping virtual\n" ++
    "                        paths to source text\n\n" ++
    "options:\n" ++
    "  -h, --help            show this help message and exit\n" ++
    "  --entry ENTRY         Entry file virtual path\n" ++
    "  --output OUTPUT       Write the bundle here instead of stdout\n" ++
    "  --log-level LOG_LEVEL\n" ++
    "                        Logging level (default: LOG_LEVEL or WARNING)\n"

/-- What a program says about arguments that it cannot read. -/
def usageError (program : String) (e : ArgumentError) : String :=
  usage program ++ program ++ ": error: " ++ e.message ++ "\n"

end VideoBundle
