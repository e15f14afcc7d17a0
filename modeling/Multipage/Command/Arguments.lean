/-
# Multipage.Command.Arguments -- the command line read as a task

A command line is flags, the name of a task, and the flags and operands of the task.  Four flags
are known everywhere; a flag that is given both before and after the name of the task has its
later value.

* A long flag is `--name`, with its value behind `=` or in the next argument.
* Short flags share one dash; the first that takes a value takes the rest of the argument, a
  `=` at its start left out, or else the next argument.
* A next argument that starts with a dash is no value, unless it is the dash alone.
* Behind `--` everything is an operand.
* No flag is given twice on one side of the name of the task.
* A file is never the empty text.

Arguments are read from left to right, and what comes first counts: a request for the version or
for help before a mistake is granted.
-/
import Multipage.Text.Basic

namespace Multipage.Command

set_option autoImplicit false

inductive Flag where
  | config
  | verbose
  | defaultRenderer
  | charset
  | accept
  | path
  | help
  | version
  deriving DecidableEq, Repr

namespace Flag

def longName : Flag → Text
  | .config => "config"
  | .verbose => "verbose"
  | .defaultRenderer => "default-renderer"
  | .charset => "charset"
  | .accept => "accept"
  | .path => "path"
  | .help => "help"
  | .version => "version"

def shortName? : Flag → Option Char
  | .config => some 'c'
  | .verbose => some 'v'
  | .accept => some 'a'
  | .path => some 'p'
  | .help => some 'h'
  | .version => some 'V'
  | .defaultRenderer | .charset => none

def takesValue : Flag → Bool
  | .config | .defaultRenderer | .charset | .accept | .path => true
  | .verbose | .help | .version => false

/-- Whether the value of the flag may be that text. -/
def accepts (flag : Flag) (value : Text) : Bool := flag != .config || !value.isEmpty

end Flag

/-- Why there is no task to do. -/
inductive Stop where
  /-- The command line is wrong. -/
  | misuse
  | version
  | help
  deriving DecidableEq, Repr

/-- What an argument is by its looks. -/
inductive Shape where
  | operand
  /-- The mark behind which everything is an operand. -/
  | endOfFlags
  | long (name : Text) (value : Option Text)
  | short (names : Text)

def Shape.of : Text → Shape
  | '-' :: '-' :: [] => .endOfFlags
  | '-' :: '-' :: t =>
      match Text.splitOnce '=' t with
      | some (name, value) => .long name (some value)
      | none => .long t none
  | '-' :: c :: t => .short (c :: t)
  | _ => .operand

/-- Flags with their values, in order; a flag that takes none has the empty text. -/
abbrev Flags := List (Flag × Text)

/-- Add a flag, unless it ends the reading or is there already. -/
def Flags.add (flags : Flags) (flag : Flag) (value : Text) : Except Stop Flags :=
  match flag with
  | .help => .error .help
  | .version => .error .version
  | flag =>
      if (flags.lookup flag).isSome || !flag.accepts value then .error .misuse
      else .ok (flags ++ [(flag, value)])

/-- What the flags of one argument come to: flags that are complete, and one that waits for its
value. -/
structure FlagReading where
  flags : Flags
  waiting : Option Flag := none

/-- Read a long flag. -/
def readLong (known : List Flag) (flags : Flags) (name : Text) (value : Option Text) :
    Except Stop FlagReading :=
  match known.find? fun flag => flag.longName == name, value with
  | none, _ => .error .misuse
  | some flag, none =>
      if flag.takesValue then .ok { flags, waiting := some flag }
      else (flags.add flag []).map fun flags => { flags }
  | some flag, some value =>
      if flag.takesValue then (flags.add flag value).map fun flags => { flags }
      else .error .misuse

/-- Read short flags. -/
def readShort (known : List Flag) (flags : Flags) : Text → Except Stop FlagReading
  | [] => .ok { flags }
  | c :: rest =>
      match known.find? fun flag => flag.shortName? == some c with
      | none => .error .misuse
      | some flag =>
          if flag.takesValue then
            match rest with
            | [] => .ok { flags, waiting := some flag }
            | '=' :: value => (flags.add flag value).map fun flags => { flags }
            | value => (flags.add flag value).map fun flags => { flags }
          else
            match flags.add flag [] with
            | .error stop => .error stop
            | .ok flags => readShort known flags rest

/-- What arguments come to: flags, operands, and what has not been read. -/
structure ArgumentReading where
  flags : Flags := []
  operands : List Text := []
  unread : List Text := []

/-- Read arguments behind what has been read, to the end or, when `untilOperand` is set, to the
first operand. -/
def readArguments (known : List Flag) (untilOperand : Bool) (read : ArgumentReading) :
    List Text → Except Stop ArgumentReading
  | [] => .ok read
  | argument :: rest =>
      let ofFlags (reading : Except Stop FlagReading) : Except Stop ArgumentReading :=
        match reading with
        | .error stop => .error stop
        | .ok { flags, waiting := none } =>
            readArguments known untilOperand { read with flags } rest
        | .ok { flags, waiting := some flag } =>
            match rest with
            | [] => .error .misuse
            | value :: rest =>
                match Shape.of value, flags.add flag value with
                | .operand, .ok flags =>
                    readArguments known untilOperand { read with flags } rest
                | _, _ => .error .misuse
      match Shape.of argument with
      | .long name value => ofFlags (readLong known read.flags name value)
      | .short names => ofFlags (readShort known read.flags names)
      | .operand =>
          if untilOperand then .ok { read with unread := argument :: rest }
          else
            readArguments known untilOperand
              { read with operands := read.operands ++ [argument] } rest
      | .endOfFlags =>
          if untilOperand then .ok { read with unread := argument :: rest }
          else .ok { read with operands := read.operands ++ rest }

/-! ## Tasks -/

/-- What the flags say that are known everywhere. -/
structure Options where
  config : Option Text := none
  verbose : Bool := false
  defaultRenderer : Option Text := none
  charset : Option Text := none
  deriving DecidableEq

inductive Task where
  /-- Compile files and list their media types. -/
  | check (files : List Text)
  /-- Tell which representation of a file a request would be served. -/
  | negotiate (file : Text) (accept : Option Text) (path : Text)
  deriving DecidableEq

structure Invocation where
  options : Options
  task : Task
  deriving DecidableEq

def commonFlags : List Flag := [.config, .verbose, .defaultRenderer, .charset, .help]

/-- The options that flags before and behind the name of the task come to. -/
def Options.ofFlags (before behind : Flags) : Options :=
  let value? := fun (flag : Flag) => behind.lookup flag <|> before.lookup flag
  { config := value? .config
    verbose := (value? .verbose).isSome
    defaultRenderer := value? .defaultRenderer
    charset := value? .charset }

/-- The path of a request that names none. -/
def defaultPath : Text := "/"

def checkName : Text := "check"
def negotiateName : Text := "negotiate"
def helpName : Text := "help"

/-- Read a command line. -/
def Invocation.ofArguments (arguments : List Text) : Except Stop Invocation := do
  let before ← readArguments (.version :: commonFlags) true {} arguments
  match before.unread with
  | [] => .error .misuse
  | name :: rest =>
      if name = checkName then do
        let behind ← readArguments commonFlags false {} rest
        if behind.operands.isEmpty || behind.operands.any List.isEmpty then .error .misuse
        else .ok ⟨.ofFlags before.flags behind.flags, .check behind.operands⟩
      else if name = negotiateName then do
        let behind ← readArguments (.accept :: .path :: commonFlags) false {} rest
        match behind.operands with
        | [file] =>
            if file.isEmpty then .error .misuse
            else
              let path := (behind.flags.lookup .path).getD defaultPath
              .ok ⟨.ofFlags before.flags behind.flags,
                .negotiate file (behind.flags.lookup .accept) path⟩
        | _ => .error .misuse
      else if name = helpName then
        match rest with
        | [] => .error .help
        | [topic] =>
            if [checkName, negotiateName, helpName].contains topic then .error .help
            else .error .misuse
        | _ => .error .misuse
      else .error .misuse

end Multipage.Command
