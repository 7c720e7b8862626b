/-
Arguments of a command line.

A command line is a chain of commands, each with options and operands. Options start with two
hyphens and a name, or with one hyphen and a letter; a value follows as the next argument, or in the
same one. After two hyphens alone all arguments are operands. An option that is not a list is given
at most once. Options that hold for every command may stand behind any command of the chain; those
behind the last command that has them count.
-/
import Triage.Text.Split
namespace Triage.CommandLine

open Triage.Text

/-- Why there is nothing to run: the arguments are wrong, or ask for an explanation. -/
inductive Usage
  | wrong
  | help
  | version
  deriving Repr, DecidableEq

/-- An option of a command. -/
structure OptionSpec where
  name : String
  letter : Option Char := none
  takesValue : Bool := true
  isList : Bool := false
  deriving Repr, DecidableEq

/-- What may follow the name of a command. -/
structure Grammar where
  options : List OptionSpec := []
  /-- The least and the greatest number of operands. -/
  operands : Nat × Nat := (0, 0)
  commands : List String := []
  hasVersion : Bool := false
  deriving Repr, DecidableEq

/-- What was given to a command: the values of its options, and its operands. -/
structure Given where
  options : List (String × String) := []
  operands : List String := []
  deriving Repr, DecidableEq

namespace Given

/-- All values of an option. -/
def values (g : Given) (name : String) : List String :=
  g.options.filterMap fun (n, value) => if n = name then some value else none

/-- The value of an option that is given at most once. -/
def value? (g : Given) (name : String) : Option String := (g.values name).head?

/-- Adds an option, unless it was given before and is not a list. -/
def add (g : Given) (o : OptionSpec) (value : String) : Except Usage Given :=
  if !o.isList && !(g.values o.name).isEmpty then .error .wrong
  else .ok { g with options := g.options ++ [(o.name, value)] }

end Given

/-! ### One command -/

/-- What an argument is by its form. -/
inductive Form
  /-- Two hyphens, a name, and what follows an equals sign. -/
  | long (name : String) (value : Option String)
  /-- A hyphen, a letter, and what follows it. -/
  | short (letter : Char) (attached : Option String)
  | endOfOptions
  | plain
  deriving Repr, DecidableEq

/-- The form of an argument. An equals sign after a letter does not belong to the value. -/
def Form.of (arg : String) : Form :=
  match arg.toList with
  | ['-', '-'] => .endOfOptions
  | '-' :: '-' :: rest =>
    match cut? '=' (String.ofList rest) with
    | some (name, value) => .long name (some value)
    | none => .long (String.ofList rest) none
  | ['-', c] => .short c none
  | '-' :: c :: '=' :: rest => .short c (some (String.ofList rest))
  | '-' :: c :: rest => .short c (some (String.ofList rest))
  | _ => .plain

/-- The option that a form names. -/
def Grammar.option? (g : Grammar) : Form → Option OptionSpec
  | .long name _ => g.options.find? (·.name = name)
  | .short letter _ => g.options.find? (·.letter = some letter)
  | _ => none

/-- The explanation that a form asks for. -/
def Grammar.usage? (g : Grammar) : Form → Option Usage
  | .long "help" none => some .help
  | .short 'h' _ => some .help
  | .long "version" none => if g.hasVersion then some .version else none
  | .short 'V' _ => if g.hasVersion then some .version else none
  | _ => none

/-- The value in the same argument as its option. -/
def Form.value? : Form → Option String
  | .long _ value => value
  | .short _ attached => attached
  | _ => none

/-- Takes one operand more. -/
def Grammar.addOperand (g : Grammar) (given : Given) (arg : String) : Except Usage Given :=
  if given.operands.length < g.operands.2 then
    .ok { given with operands := given.operands ++ [arg] }
  else .error .wrong

/-- Reads the arguments of a command up to the name of the next one in the chain. -/
def Grammar.scan (g : Grammar) (given : Given) :
    List String → Except Usage (Given × Option (String × List String))
  | [] => .ok (given, none)
  | arg :: rest =>
    match Form.of arg with
    | .endOfOptions => do return (← rest.foldlM g.addOperand given, none)
    | .plain =>
      if g.commands = [] then do g.scan (← g.addOperand given arg) rest
      else if arg ∈ g.commands then .ok (given, some (arg, rest))
      else .error .wrong
    | form =>
      match g.usage? form with
      | some usage => .error usage
      | none =>
        match g.option? form with
        | none => .error .wrong
        | some o =>
          match o.takesValue, form.value? with
          | false, none => do g.scan (← given.add o "") rest
          | false, some _ => .error .wrong
          | true, some value => do g.scan (← given.add o value) rest
          | true, none =>
            match rest with
            | [] => .error .wrong
            | value :: rest =>
              if Form.of value = .plain then do g.scan (← given.add o value) rest
              else .error .wrong

/-! ### Commands -/

/-- What to run. -/
inductive Command
  | filter (input query : String) (criteria : List String) (unreadOnly : Bool)
  | score (input : String) (top : Nat)
  | explain (query : String)
  | listFilters
  | saveFilter (name expression : String) (description : Option String)
  | removeFilter (name : String)
  | config
  deriving Repr, DecidableEq

/-- A command with what holds for every command. -/
structure Invocation where
  config : Option String := none
  overrides : List String := []
  command : Option Command := none
  deriving Repr, DecidableEq

/-- Options that hold for every command. -/
def commonOptions : List OptionSpec := [⟨"config", none, true, false⟩, ⟨"set", none, true, true⟩]

/-- The option for the file of notifications. -/
def inputOption : OptionSpec := ⟨"input", some 'i', true, false⟩

/-- What may follow the name of a command, for each chain of commands. -/
def grammar (chain : List String) : Grammar :=
  match chain with
  | [] =>
    { options := commonOptions, hasVersion := true
      commands := ["filter", "score", "explain", "filters", "config", "help"] }
  | ["filter"] =>
    { options := commonOptions ++
        [inputOption, ⟨"sort", some 's', true, true⟩, ⟨"unread", none, false, false⟩]
      operands := (0, 1) }
  | ["score"] =>
    { options := commonOptions ++ [inputOption, ⟨"top", some 'n', true, false⟩] }
  | ["explain"] => { options := commonOptions, operands := (1, 1) }
  | ["filters"] => { options := commonOptions, commands := ["list", "save", "remove", "help"] }
  | ["filters", "save"] =>
    { options := commonOptions ++ [⟨"description", some 'd', true, false⟩], operands := (2, 2) }
  | ["filters", "remove"] => { options := commonOptions, operands := (1, 1) }
  | _ => { options := commonOptions }

/-- Whether names go on a chain of commands. -/
def isChain (chain : List String) : List String → Bool
  | [] => true
  | name :: rest => (grammar chain).commands.contains name && isChain (chain ++ [name]) rest

/-- What was given to each command of a chain, the last command first. -/
abbrev Chain := List (String × Given)

/-- Reads the rest of a chain of commands. Every command takes an argument, so there are no more
commands than arguments. -/
def scanChain : Nat → List String → Chain → List String → Except Usage Chain
  | 0, _, _, _ => .error .wrong
  | fuel + 1, names, chain, args => do
    let g := grammar names
    let (given, next) ← g.scan {} args
    if given.operands.length < g.operands.1 then throw .wrong
    let chain := (names.getLastD "", given) :: chain
    match next with
    | none => return chain
    | some ("help", rest) => throw (if isChain names rest then .help else .wrong)
    | some (name, rest) => scanChain fuel (names ++ [name]) chain rest

/-- The values of a common option: those behind the last command that has any. -/
def commonValues (name : String) (chain : Chain) : List String :=
  ((chain.map fun (_, given) => given.values name).find? (· ≠ [])).getD []

/-- Reads how many notifications are listed. -/
def readCount (text : String) : Except Usage Nat :=
  let digits := match text.toList with
    | '+' :: rest => rest
    | cs => cs
  if !digits.isEmpty && digits.all Char.isDigit then
    let n := digits.foldl (fun n c => n * 10 + (c.toNat - 48)) 0
    if n < UInt64.size then .ok n else .error .wrong
  else .error .wrong

/-- A path, which is never empty. -/
def readPath (path : String) : Except Usage String :=
  if path = "" then .error .wrong else .ok path

/-- The file of notifications, which has to be given. -/
def readInput (given : Given) : Except Usage String :=
  match given.value? "input" with
  | some path => readPath path
  | none => .error .wrong

/-- The command at the end of a chain. -/
def commandOf (name : String) (given : Given) : Except Usage (Option Command) :=
  let operand (n : Nat) : String := (given.operands[n]?).getD ""
  match name with
  | "" => .ok none
  | "filter" => do
    let input ← readInput given
    return some (.filter input (operand 0) (given.values "sort")
      (given.value? "unread").isSome)
  | "score" => do
    let input ← readInput given
    let top ← match given.value? "top" with
      | some text => readCount text
      | none => pure 20
    return some (.score input top)
  | "explain" => .ok (some (.explain (operand 0)))
  | "list" => .ok (some .listFilters)
  | "save" => .ok (some (.saveFilter (operand 0) (operand 1) (given.value? "description")))
  | "remove" => .ok (some (.removeFilter (operand 0)))
  | "config" => .ok (some .config)
  | _ => .error .wrong

/-- Reads the arguments of a command line. The file of settings may also be named by the environment;
then its name is looked at for every command of the chain that has no such option. -/
def Invocation.ofArguments (configVariable : Option String) (args : List String) :
    Except Usage Invocation := do
  let chain ← scanChain (args.length + 1) [] [] args
  let _ ← (chain.flatMap fun (_, given) => given.values "config").mapM readPath
  if configVariable = some "" && chain.any fun (_, given) => (given.value? "config").isNone then
    throw .wrong
  match chain with
  | [] => throw .wrong
  | (name, given) :: _ =>
    return {
      config := ((commonValues "config" chain).head?).or configVariable
      overrides := commonValues "set" chain
      command := ← commandOf name given }

end Triage.CommandLine
