import GenKill.Error
import GenKill.Settings.Value

/-!
# Flags

A flag has a name, after two dashes, and may have a letter, after one.  Flags
and other arguments may be mixed; after `--` there are no more flags.
-/

namespace GenKill

/-- What a flag takes as its value. -/
inductive Flag.Kind where
  | text
  | integer
  /-- A number from 0 to 255. -/
  | byte
  /-- True if no value is given. -/
  | switch
  deriving DecidableEq

structure Flag where
  name : Text
  letter : Option UInt8 := none
  kind : Flag.Kind := .text
  fallback : Settings.Value := .text []
  usage : Text

namespace Flag

/-- The flag as it is named in messages. -/
def title (flag : Flag) : Text :=
  match flag.letter with
  | some letter => "-" ++ letter :: (", --" ++ flag.name)
  | none => "--" ++ flag.name

def problemText : Integer.Problem → Text
  | .invalid => "invalid syntax"
  | .outOfRange => "value out of range"

/-- Why a text is no value of a flag. -/
def complaint (flag : Flag) (value routine problem : Text) : Error :=
  .usage ("invalid argument " ++ value.quote ++ " for " ++ flag.title.quote ++
    " flag: strconv." ++ routine ++ ": parsing " ++ value.quote ++ ": " ++
    problem)

/-- Reads the value of a flag. -/
def read (flag : Flag) (value : Text) : Except Error Settings.Value :=
  match flag.kind with
  | .text => .ok (.text value)
  | .integer =>
      match Integer.ofText value with
      | .ok number => .ok (.integer number)
      | .error problem =>
          .error (flag.complaint value "ParseInt" (problemText problem))
  | .byte =>
      match Integer.natural 255 value with
      | .ok number => .ok (.integer number)
      | .error problem =>
          .error (flag.complaint value "ParseUint" (problemText problem))
  | .switch =>
      match value.truth? with
      | some verdict => .ok (.truth verdict)
      | none => .error (flag.complaint value "ParseBool" "invalid syntax")

end Flag

/-- Arguments in which the flags have been recognized. -/
structure Arguments where
  /-- The flags that were given, the last one first. -/
  given : List (Text × Settings.Value) := []
  others : List Text := []

namespace Arguments

def give (arguments : Arguments) (flag : Flag) (value : Settings.Value) :
    Arguments :=
  { arguments with given := (flag.name, value) :: arguments.given }

/-- Puts an argument that is no flag in front. -/
def other (argument : Text) (arguments : Arguments) : Arguments :=
  { arguments with others := argument :: arguments.others }

/-- Whether a switch was given and turned on. -/
def isOn (arguments : Arguments) (flag : Flag) : Bool :=
  ((arguments.given.lookup flag.name).map Settings.Value.toBool).getD false

/-- A name and the value after an equals sign. -/
def splitValue : Text → Text × Option Text
  | [] => ([], none)
  | 61 :: rest => ([], some rest)
  | head :: rest =>
      let (name, value) := splitValue rest
      (head :: name, value)

/-- A flag with its value, and whether the value was the next argument. -/
structure Found where
  flag : Flag
  value : Text
  usedNext : Bool := false

/-- The value of a flag that is given by name: after an equals sign, or the next
argument. -/
def byName (flags : List Flag) (argument : Text) (next : Option Text) :
    Except Error Found :=
  let body := argument.drop 2
  let (name, value) := splitValue body
  if name = [] ∨ name.head? = some 45 then
    .error (.usage ("bad flag syntax: " ++ argument))
  else match flags.find? fun flag => flag.name = name with
    | none =>
        if name = "help" then .error (.usage "pflag: help requested")
        else .error (.usage ("unknown flag: --" ++ name))
    | some flag =>
        match value, flag.kind, next with
        | some value, _, _ => .ok { flag, value }
        | none, .switch, _ => .ok { flag, value := "true" }
        | none, _, some value => .ok { flag, value, usedNext := true }
        | none, _, none =>
            .error (.usage ("flag needs an argument: " ++ argument))

/-- Reads letters after one dash, each of which may be a flag.  The result says
whether the last flag took its value from the next argument. -/
def byLetters (flags : List Flag) (next : Option Text) :
    Text → Arguments → Except Error (Arguments × Bool)
  | [], done => .ok (done, false)
  | letter :: rest, done =>
      if Text.startsWith (letter :: rest) "test." then .ok (done, false)
      else match flags.find? fun flag => flag.letter = some letter with
        | none =>
            if letter = 104 then .error (.usage "pflag: help requested")
            else .error (.usage
              ("unknown shorthand flag: " ++ Text.quoteByte letter ++ " in -" ++
                letter :: rest))
        | some flag =>
            match rest, flag.kind, next with
            | 61 :: first :: more, _, _ =>
                finish done flag (first :: more) false
            | [], .switch, _ => finish done flag "true" false
            | rest, .switch, _ =>
                match flag.read "true" with
                | .error error => .error error
                | .ok value => byLetters flags next rest (done.give flag value)
            | [], _, some value => finish done flag value true
            | [], _, none =>
                .error (.usage
                  ("flag needs an argument: " ++ Text.quoteByte letter ++
                    " in -" ++ letter :: rest))
            | rest, _, _ => finish done flag rest false
where
  finish (done : Arguments) (flag : Flag) (value : Text) (usedNext : Bool) :
      Except Error (Arguments × Bool) :=
    match flag.read value with
    | .error error => .error error
    | .ok value => .ok (done.give flag value, usedNext)

/-- One argument that starts with a dash. -/
def single (flags : List Flag) (argument : Text) (next : Option Text)
    (done : Arguments) : Except Error (Arguments × Bool) :=
  if argument.startsWith "--" then
    match byName flags argument next with
    | .error error => .error error
    | .ok found =>
        match found.flag.read found.value with
        | .error error => .error error
        | .ok value => .ok (done.give found.flag value, found.usedNext)
  else byLetters flags next (argument.drop 1) done

/-- Recognizes the flags among arguments; the first mistake decides. -/
def parse (flags : List Flag) : List Text → Arguments → Except Error Arguments
  | [], done => .ok { done with others := done.others.reverse }
  | argument :: rest, done =>
      if argument.length < 2 ∨ argument.head? ≠ some 45 then
        parse flags rest (done.other argument)
      else if argument = "--" then
        .ok { done with others := done.others.reverse ++ rest }
      else match rest with
        | [] =>
            match single flags argument none done with
            | .error error => .error error
            | .ok (done, _) => .ok { done with others := done.others.reverse }
        | next :: after =>
            match single flags argument (some next) done with
            | .error error => .error error
            | .ok (done, usedNext) =>
                if usedNext then parse flags after done
                else parse flags (next :: after) done

/-- The flags and the other arguments in a list of arguments. -/
def ofList (flags : List Flag) (arguments : List Text) :
    Except Error Arguments :=
  parse flags arguments {}

end Arguments

end GenKill
