import GenKill.Problem.Examples
import GenKill.Settings
import GenKill.Text.Distance

/-!
# Commands

The commands of the program, their flags, and how a command is found among
arguments.
-/

namespace GenKill

inductive Command where
  | solve
  | step
  | dot
  | builtIn
  | help
  deriving DecidableEq

namespace Command

def all : List Command := [solve, step, dot, builtIn, help]

def name : Command → Text
  | solve => "solve"
  | step => "step"
  | dot => "dot"
  | builtIn => "example"
  | help => "help"

/-- The argument that the command takes, as it is shown. -/
def argument : Command → Text
  | builtIn => "NAME"
  | help => "[command]"
  | _ => "FILE"

def short : Command → Text
  | solve => "Solve the problem stored in a DOT or HCL file"
  | step => "Print the state of a problem after every pass"
  | dot => "Print a problem as an annotated DOT graph"
  | builtIn => "Solve a built-in problem"
  | help => "Help about any command"

def long : Command → Text
  | solve =>
      "Solves the problem stored in FILE (.dot, .gv or .hcl) and prints one line\n" ++
      "per node with its gen, kill and out sets.\n" ++
      "Example) dataflow solve --direction backward liveness.hcl"
  | step =>
      "Steps the problem stored in FILE one pass at a time, printing the initial\n" ++
      "state and the state after every pass until a pass changes nothing. With\n" ++
      "--json, each state is printed as one line of JSON."
  | dot =>
      "Prints the problem stored in FILE as a Graphviz DOT graph, with its universe,\n" ++
      "gen and kill sets recorded as attributes; the output is itself a valid problem\n" ++
      "file. With --solve, the out set of each node is recorded as well.\n" ++
      "Example) dataflow dot --solve storeloop.hcl > storeloop.dot"
  | builtIn =>
      "Solves the built-in problem NAME; one of " ++
        Text.join ", " Problem.exampleNames ++ "."
  | help =>
      "Help provides help for any command in the application.\n" ++
      "Simply type dataflow help [path to command] for full details."

/-! ### Flags -/

def helpFlag (owner : Text) : Flag where
  name := "help"
  letter := some (Text.byte 'h')
  kind := .switch
  fallback := .truth false
  usage := "help for " ++ owner

def solveFlag : Flag where
  name := "solve"
  kind := .switch
  fallback := .truth false
  usage := "solve the problem and record the out set of each node"

/-- The flags that only this command has. -/
def ownFlags (command : Command) : List Flag :=
  match command with
  | dot => [helpFlag command.name, solveFlag]
  | _ => [helpFlag command.name]

/-- All flags of a command. -/
def flags (command : Command) : List Flag := command.ownFlags ++ Settings.flags

/-! ### Finding a command -/

/-- An argument looks like a flag whose value is the next argument.  Unknown
flags do. -/
def takesNext (argument : Text) : Bool :=
  let isSwitch (matched : Flag → Bool) :=
    (Settings.flags.find? matched).any fun flag => flag.kind = .switch
  !argument.contains 61 &&
    (argument.startsWith "--" &&
        !isSwitch (fun flag => flag.name = argument.drop 2) ||
      argument.startsWith "-" && argument.length = 2 &&
        !isSwitch (fun flag => flag.letter = argument[1]?))

/-- The arguments that are neither flags nor values of flags.  A flag that would
take the last argument ends them. -/
def words : List Text → List Text
  | [] => []
  | argument :: rest =>
      if argument = "--" then []
      else if takesNext argument then
        match rest with
        | _ :: next :: after => words (next :: after)
        | _ => []
      else if argument ≠ [] ∧ argument.head? ≠ some 45 then
        argument :: words rest
      else words rest

/-- The names that are close to a word: at most two edits away, or starting with
it. -/
def suggestions (word : Text) : List Text :=
  let names :=
    ((all.filter fun command => command ≠ help).map name).concat "completion"
  names.filter fun name =>
    Text.distance word.lower name ≤ 2 || name.startsWith word.lower

def suggestionLine (name : Text) : Text := "\t" ++ name ++ "\n"

def unknownCommand (word : Text) : Error :=
  let hint : Text := match suggestions word with
    | [] => []
    | names => "\n\nDid you mean this?\n" ++ names.flatMap suggestionLine
  .usage ("unknown command " ++ word.quote ++ " for \"dataflow\"" ++ hint)

/-- The command that arguments name, with the arguments for it; none if they
name no command. -/
def find (arguments : List Text) : Except Error (Option Command × List Text) :=
  match words arguments with
  | [] => .ok (none, arguments)
  | word :: _ =>
      match all.find? fun command => command.name = word with
      | some command => .ok (some command, arguments.erase word)
      | none => .error (unknownCommand word)

/-- The arguments of a command, if they are as many as it takes and fit. -/
def validate (command : Command) (arguments : List Text) :
    Except Error (List Text) :=
  match command, arguments with
  | help, arguments => .ok arguments
  | builtIn, [name] =>
      if name ∈ Problem.exampleNames then .ok [name]
      else .error
        (.usage ("invalid argument " ++ name.quote ++
          " for \"dataflow example\""))
  | _, [argument] => .ok [argument]
  | _, arguments =>
      .error (.usage
        ("accepts 1 arg(s), received " ++ Text.ofNat arguments.length))

end Command

end GenKill
