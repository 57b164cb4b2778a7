import Subtitling.Config.Basic

/-!
The command line. A line names one command and its operand; the options that choose the file of the
configuration and the level of the log may stand before the command or after it, and one that stands
after it counts. Words are read from the left, and the first that does not fit ends the reading.
-/

namespace Subtitling.App

inductive Command
  | batch (items : String)
  | status
  | jobs
  | job (id : String)
  | cancel (id : String)
  | models
  | serviceConfig
  | completions (shell : String)
deriving DecidableEq

structure Options where
  configPath : Option String
  logLevel : Option Config.LogLevel
deriving DecidableEq

def Options.none : Options := ⟨.none, .none⟩

/-- The options of a line, given those before the command. -/
def Options.orElse (inner outer : Options) : Options :=
  ⟨inner.configPath.or outer.configPath, inner.logLevel.or outer.logLevel⟩

structure Invocation where
  command : Command
  options : Options
deriving DecidableEq

def defaultConfigPath : String := "conf.json"

def Invocation.configPath (i : Invocation) : String := i.options.configPath.getD defaultConfigPath

inductive Refusal
  | wrongUsage
  /-- The user wants to know how the program is used. -/
  | help
  | version
deriving DecidableEq

inductive OptionName
  | configPath
  | logLevel
deriving DecidableEq

def OptionName.long : OptionName → String
  | .configPath => "config-path"
  | .logLevel => "log-level"

def OptionName.short : OptionName → Char
  | .configPath => 'c'
  | .logLevel => 'l'

def OptionName.all : List OptionName := [.configPath, .logLevel]

inductive Word
  | plain (text : String)
  /-- From here on all words are plain. -/
  | endOfOptions
  | help
  | version
  /-- An option, with its value if the word has one. -/
  | option (name : OptionName) (value : Option String)
  | unknown
deriving DecidableEq

/-- A long option, after its two dashes. -/
def longWord (body : List Char) : Word :=
  let name := String.ofList (body.takeWhile (· ≠ '='))
  let value :=
    match body.dropWhile (· ≠ '=') with
    | _ :: value => some (String.ofList value)
    | [] => none
  match OptionName.all.find? fun o => o.long = name with
  | some o => .option o value
  | none =>
    if name = "help" && value.isNone then .help
    else if name = "version" && value.isNone then .version
    else .unknown

/-- Short options, after their dash. What follows the letter of one with a value is its value. -/
def shortWord (letter : Char) (rest : List Char) : Word :=
  match OptionName.all.find? fun o => o.short = letter with
  | some o =>
    .option o <| match rest with
      | [] => none
      | '=' :: value => some (String.ofList value)
      | value => some (String.ofList value)
  | none =>
    if letter = 'h' then .help
    else if letter = 'V' then .version
    else .unknown

def wordOf (text : String) : Word :=
  match text.toList with
  | ['-', '-'] => .endOfOptions
  | '-' :: '-' :: body => longWord body
  | '-' :: letter :: rest => shortWord letter rest
  | _ => .plain text

def levelOf? (value : String) : Option Config.LogLevel :=
  Config.LogLevel.all.find? fun level => level.name = value

/-- Sets an option, which may be done once, to a value that fits. -/
def Options.set? (o : Options) (name : OptionName) (value : String) : Option Options :=
  match name with
  | .configPath =>
    if o.configPath.isSome || value.isEmpty then .none else some { o with configPath := some value }
  | .logLevel =>
    if o.logLevel.isSome then .none
    else (levelOf? value).map fun level => { o with logLevel := some level }

/-- How a line is read so far: the options, the plain words, and whether options have ended. -/
structure Part where
  options : Options
  operands : List String
deriving DecidableEq

structure Grammar where
  /-- How many operands there may be. -/
  capacity : Nat
  /-- Which operands fit. -/
  accepts : String → Bool
  /-- Which words end the part. -/
  isEnd : String → Bool
  allowVersion : Bool

/-- Reads the words of one part of the line, and leaves those after the word that ends it. An
operand has to fit as soon as it is read, so before what follows is looked at; once options have
ended nothing can follow that matters. -/
def readPart (g : Grammar) :
    List String → Part → Except Refusal (Part × Option (String × List String))
  | [], part => .ok (part, none)
  | text :: rest, part =>
    match wordOf text with
    | .plain text =>
      if g.isEnd text then .ok (part, some (text, rest))
      else if part.operands.length < g.capacity && g.accepts text then
        readPart g rest { part with operands := part.operands ++ [text] }
      else .error .wrongUsage
    | .endOfOptions =>
      if part.operands.length + rest.length ≤ g.capacity && rest.all g.accepts then
        .ok ({ part with operands := part.operands ++ rest }, none)
      else .error .wrongUsage
    | .help => .error .help
    | .version => .error (if g.allowVersion then .version else .wrongUsage)
    | .unknown => .error .wrongUsage
    | .option name (some value) =>
      match part.options.set? name value with
      | some options => readPart g rest { part with options := options }
      | none => .error .wrongUsage
    | .option name none =>
      match rest with
      | [] => .error .wrongUsage
      | value :: rest =>
        match wordOf value with
        | .plain value =>
          match part.options.set? name value with
          | some options => readPart g rest { part with options := options }
          | none => .error .wrongUsage
        | _ => .error .wrongUsage

def commandNames : List String :=
  ["batch", "status", "jobs", "job", "cancel", "models", "service-config", "completions"]

def helpName : String := "help"

def shells : List String := ["bash", "elvish", "fish", "powershell", "zsh"]

def operandCount (name : String) : Nat :=
  if ["batch", "job", "cancel", "completions"].contains name then 1 else 0

def acceptsOperand (name operand : String) : Bool :=
  if name = "batch" then !operand.isEmpty
  else if name = "completions" then shells.contains operand
  else true

def outerGrammar : Grammar where
  capacity := 0
  accepts _ := false
  isEnd text := text = helpName || commandNames.contains text
  allowVersion := true

def innerGrammar (name : String) : Grammar where
  capacity := operandCount name
  accepts := acceptsOperand name
  isEnd _ := false
  allowVersion := false

def Command.of? (name : String) (operands : List String) : Option Command :=
  match name, operands with
  | "batch", [items] => some (.batch items)
  | "status", [] => some .status
  | "jobs", [] => some .jobs
  | "job", [id] => some (.job id)
  | "cancel", [id] => some (.cancel id)
  | "models", [] => some .models
  | "service-config", [] => some .serviceConfig
  | "completions", [shell] => some (.completions shell)
  | _, _ => none

def isHelpTopic : List String → Bool
  | [] => true
  | [name] => name = helpName || commandNames.contains name
  | _ => false

def Invocation.ofArguments (arguments : List String) : Except Refusal Invocation := do
  match ← readPart outerGrammar arguments ⟨.none, []⟩ with
  | (_, none) => throw .wrongUsage
  | (outer, some (name, rest)) =>
    if name = helpName then throw (if isHelpTopic rest then .help else .wrongUsage)
    let (inner, _) ← readPart (innerGrammar name) rest ⟨.none, []⟩
    match Command.of? name inner.operands with
    | some command => return ⟨command, inner.options.orElse outer.options⟩
    | none => throw .wrongUsage

end Subtitling.App
