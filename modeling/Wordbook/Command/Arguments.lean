import Wordbook.Grammar.Noun
import Wordbook.Text.Split

/-!
# Command lines

What the arguments of the program ask for. Options are written

* `--name value` or `--name=value`, `-n value`, `-nvalue` or `-n=value`;
* without a value, when they only are there or not; several letters of such may
  stand together behind one dash.

Behind `--` every argument stands for itself. An option that is given twice and
a value that begins with a dash are refused.

* `Invocation.read`: what some arguments ask for.
-/

namespace Wordbook

/-- Why some arguments do not ask for anything that can be done. -/
inductive Misuse where
  /-- They ask for help, and get nothing else. -/
  | help
  | wrong
  deriving DecidableEq, Repr

/-- What the program can be asked for. -/
inductive Invocation where
  | importFile (input : String) (config output report encoding : Option String) (validate : Bool)
  | parseCell (tag cell : String) (style : Option NounStyle) (dialects config : Option String)
  | checkConfig (config : Option String)
  | validate (input : String)
  deriving DecidableEq, Repr

namespace Arguments

/-- What an option stands for. -/
inductive Kind where
  | flag
  /-- A flag that may be repeated. -/
  | count
  | help
  /-- An option with a value, of which it accepts some. -/
  | value (accepts : String → Bool)

structure Opt where
  name : String
  letter : Option Char
  kind : Kind

/-- The name of a file is not empty. -/
def isPath (s : String) : Bool := s != ""

def anyText (_ : String) : Bool := true

def helpOption : Opt := ⟨"help", some 'h', .help⟩

/-- The options that every command has. -/
def commonOptions : List Opt :=
  [⟨"verbose", some 'v', .count⟩,
   ⟨"log-format", none, .value fun s => ["pretty", "compact", "json"].contains s⟩, helpOption]

/-- The arguments as they are read: the options with their values, and the others. -/
structure Given where
  options : List (String × String)
  places : List String
  deriving DecidableEq, Repr

namespace Given

def value? (g : Given) (name : String) : Option String := g.options.lookup name

def has (g : Given) (name : String) : Bool := (g.value? name).isSome

def add (g : Given) (o : Opt) (value : String) : Given :=
  { g with options := g.options ++ [(o.name, value)] }

/-- Adds an option without a value. -/
def addFlag (g : Given) (o : Opt) : Except Misuse Given :=
  match o.kind with
  | .flag => if g.has o.name then .error .wrong else .ok (g.add o "")
  | .count => .ok (g.add o "")
  | .help => .error .help
  | .value _ => .error .wrong

/-- Adds an option with a value. -/
def addValue (g : Given) (o : Opt) (value : String) : Except Misuse Given :=
  match o.kind with
  | .value accepts => if g.has o.name || !accepts value then .error .wrong else .ok (g.add o value)
  | _ => .error .wrong

/-- Adds an argument that is no option, if there is a place for it that accepts it. -/
def addPlace (g : Given) (places : List (String → Bool)) (value : String) : Except Misuse Given :=
  match places[g.places.length]? with
  | some accepts =>
    if accepts value then .ok { g with places := g.places ++ [value] } else .error .wrong
  | none => .error .wrong

end Given

/-! ## Arguments -/

/-- What a single argument comes to. -/
inductive Token where
  /-- It is no option. -/
  | place
  /-- It holds options, and with them their values. -/
  | complete (g : Given)
  /-- It holds an option whose value is the next argument. -/
  | open (g : Given) (o : Opt)

def takesValue (o : Opt) : Bool :=
  match o.kind with
  | .value _ => true
  | _ => false

/-- Reads the option of a long name, perhaps with a value behind an equals sign. -/
def readLong (options : List Opt) (g : Given) (t : List Char) : Except Misuse Token := do
  let (name, value) := match Text.cutAtFirst (· == '=') t with
    | some (name, _, value) => (name, some (String.ofList value))
    | none => (t, none)
  match options.find? (·.name == String.ofList name) with
  | none => .error .wrong
  | some o =>
    match value with
    | some value => return .complete (← g.addValue o value)
    | none => if takesValue o then return .open g o else return .complete (← g.addFlag o)

/-- Reads options of one letter each. What stands behind one that takes a value is its value. -/
def readLetters (options : List Opt) : Given → List Char → Except Misuse Token
  | g, [] => .ok (.complete g)
  | g, c :: t =>
    match options.find? (·.letter == some c) with
    | none => .error .wrong
    | some o =>
      if takesValue o then
        match t with
        | [] => .ok (.open g o)
        | '=' :: value => do return .complete (← g.addValue o (String.ofList value))
        | value => do return .complete (← g.addValue o (String.ofList value))
      else do readLetters options (← g.addFlag o) t

def readToken (options : List Opt) (g : Given) (argument : String) : Except Misuse Token :=
  match argument.toList with
  | '-' :: '-' :: t => readLong options g t
  | '-' :: c :: t => readLetters options g (c :: t)
  | _ => .ok .place

/-- Whether an argument may be the value of the option before it. -/
def isValue (argument : String) : Bool := !argument.startsWith "-" || argument == "-"

/-- The argument behind which all stand for themselves. -/
def escape : String := "--"

/-- Reads arguments up to the first one that is no option. -/
def readCommon (options : List Opt) : Given → List String → Except Misuse (Given × List String)
  | g, [] => .ok (g, [])
  | g, argument :: rest => do
    if argument == escape then .error .wrong
    match ← readToken options g argument with
    | .place => .ok (g, argument :: rest)
    | .complete g => readCommon options g rest
    | .open g o =>
      match rest with
      | [] => .error .wrong
      | value :: rest =>
        if isValue value then readCommon options (← g.addValue o value) rest else .error .wrong

/-- Reads all arguments. -/
def readAll (options : List Opt) (places : List (String → Bool)) :
    Given → List String → Except Misuse Given
  | g, [] => .ok g
  | g, argument :: rest => do
    if argument == escape then rest.foldlM (·.addPlace places) g
    else
      match ← readToken options g argument with
      | .place => readAll options places (← g.addPlace places argument) rest
      | .complete g => readAll options places g rest
      | .open g o =>
        match rest with
        | [] => .error .wrong
        | value :: rest =>
          if isValue value then readAll options places (← g.addValue o value) rest
          else .error .wrong

/-! ## Commands -/

/-- What a command is called with. -/
structure Usage where
  options : List Opt
  places : List (String → Bool)
  /-- What has been given, as something to do. -/
  invocation : Given → Option Invocation

def configOption : Opt := ⟨"config", some 'c', .value isPath⟩

def importUsage : Usage where
  options := [configOption, ⟨"output", some 'o', .value isPath⟩,
    ⟨"report", some 'r', .value isPath⟩, ⟨"encoding", some 'e', .value anyText⟩,
    ⟨"no-validate", none, .flag⟩]
  places := [isPath]
  invocation g := do
    return .importFile (← g.places[0]?) (g.value? "config") (g.value? "output") (g.value? "report")
      (g.value? "encoding") (!g.has "no-validate")

/-- The styles of nouns, as a command line names them. -/
def styles : List (String × NounStyle) :=
  [("genus-suffix", .genusSuffix), ("article-prefix", .articlePrefix)]

def parseCellUsage : Usage where
  options := [configOption, ⟨"pos", some 'p', .value anyText⟩,
    ⟨"notation", some 'n', .value fun s => (styles.lookup s).isSome⟩,
    ⟨"dialects", some 'd', .value anyText⟩]
  places := [anyText]
  invocation g := do
    let style := (g.value? "notation").bind (styles.lookup ·)
    return .parseCell (← g.value? "pos") (← g.places[0]?) style (g.value? "dialects")
      (g.value? "config")

def checkConfigUsage : Usage where
  options := [configOption]
  places := []
  invocation g := some (.checkConfig (g.value? "config"))

def validateUsage : Usage where
  options := []
  places := [isPath]
  invocation g := g.places[0]?.map .validate

def usages : List (String × Usage) :=
  [("import", importUsage), ("parse-cell", parseCellUsage), ("check-config", checkConfigUsage),
   ("validate", validateUsage)]

/-- The command that shows help on the program or on one of its commands. -/
def helpCommand : String := "help"

/-- What the command for help comes to. -/
def readHelp : List String → Misuse
  | [] => .help
  | [name] => if name == helpCommand || (usages.lookup name).isSome then .help else .wrong
  | _ => .wrong

/-- No arguments at all. -/
def Given.empty : Given := ⟨[], []⟩

end Arguments

open Arguments in
/-- What some arguments ask for. -/
def Invocation.read (arguments : List String) : Except Misuse Invocation := do
  let (_, rest) ← readCommon commonOptions .empty arguments
  match rest with
  | [] => .error .wrong
  | name :: rest =>
    if name == helpCommand then .error (readHelp rest)
    else
      match usages.lookup name with
      | none => .error .wrong
      | some usage =>
        let given ← readAll (commonOptions ++ usage.options) usage.places .empty rest
        match usage.invocation given with
        | some invocation => .ok invocation
        | none => .error .wrong

end Wordbook
