import DataOutline.Text.Similarity

/-!
# Arguments of the command line

The program has four commands. Each takes one file, and options before or behind it: long ones with
two dashes, and short ones with one, of which several may stand in one argument. The value of an
option stands in the same argument or in the next one. Behind two dashes nothing is an option. When
no command is named, the first argument that is not an option is the file of an evaluation.

Arguments are read from left to right, and the first mistake ends the reading. An option whose value
stands in the next argument counts only when something comes behind it, so a mistake there is seen
first.
-/

namespace DataOutline.CommandLine

/-- What the program is asked for by name. -/
inductive Verb where
  | check | list | print | evaluate
deriving DecidableEq, Repr

def Verb.word : Verb → String
  | .check => "check"
  | .list => "ast"
  | .print => "fmt"
  | .evaluate => "eval"

def Verb.all : List Verb := [.check, .list, .print, .evaluate]

def Verb.ofWord? (word : String) : Option Verb := Verb.all.find? fun v => v.word = word

def helpWord : String := "help"

/-- The words that may stand for a command. -/
def commandWords : List String := Verb.all.map Verb.word ++ [helpWord]

/-- Where arguments stand: before a command, or behind one. -/
abbrev Place := Option Verb

inductive Switch where
  | noColor | verbose | context | scope | noHelpers | help | version
deriving DecidableEq, Repr

namespace Switch

/-- The name of an option behind two dashes. -/
def long : Switch → String
  | .noColor => "no-color"
  | .verbose => "verbose"
  | .context => "context"
  | .scope => "section"
  | .noHelpers => "no-helpers"
  | .help => "help"
  | .version => "version"

/-- The letter of an option behind one dash. -/
def short? : Switch → Option Char
  | .verbose => some 'v'
  | .context => some 'c'
  | .scope => some 's'
  | .help => some 'h'
  | .version => some 'V'
  | .noColor | .noHelpers => none

/-- The name of the value of an option that has one. -/
def valueName? : Switch → Option String
  | .context => some "CONTEXT"
  | .scope => some "SECTION"
  | _ => none

def isRepeatable : Switch → Bool
  | .context => true
  | _ => false

def ofPlace : Place → List Switch
  | none => [.noColor, .verbose, .help, .version]
  | some .evaluate => [.context, .scope, .noHelpers, .noColor, .verbose, .help]
  | some _ => [.noColor, .verbose, .help]

def named? (place : Place) (name : String) : Option Switch :=
  (ofPlace place).find? fun s => s.long = name

/-- The option that a name at a place may be meant for. -/
def similar? (place : Place) (name : String) : Option Switch :=
  (Text.similarTo name ((ofPlace place).map long)).getLast?.bind (named? place)

end Switch

/-- What may have been meant by a mistake. -/
inductive Hint where
  /-- An option of this place. -/
  | option (s : Switch)
  /-- An option behind a command that is named later. -/
  | optionOf (v : Verb) (s : Switch)
  /-- The file, which would have to stand behind two dashes. -/
  | file
  /-- Commands with similar words. -/
  | commands (words : List String)
  /-- The command of the same word, without two dashes before it. -/
  | commandItself
deriving DecidableEq, Repr

/-- Why arguments are no request. -/
inductive Mistake where
  | unexpected (text : String) (hint : Option Hint)
  | unknownCommand (text : String) (hint : Option Hint)
  | missingValue (s : Switch)
  | needlessValue (value : String) (s : Switch)
  | repeated (s : Switch)
  | missingCommand
  | missingFile
deriving DecidableEq, Repr

/-- What a help page is about. -/
inductive Topic where
  | program
  | command (v : Verb)
  | help
deriving DecidableEq, Repr

/-- Why there is no request to carry out. -/
inductive Stop where
  | help (topic : Topic)
  | version
  /-- There are no arguments. -/
  | nothing
  /-- A mistake at a place. `used` are the options that the form of the arguments is shown with, if
  it is not shown in general. -/
  | mistake (place : Place) (used : Option (List Switch)) (m : Mistake)
deriving DecidableEq, Repr

/-- An option with its value, which is empty if it has none. -/
structure Setting where
  switch : Switch
  value : String
deriving DecidableEq, Repr

/-- What is read of the arguments at a place. -/
structure Reading where
  settings : List Setting := []
  file : Option String := none
  /-- The option that was last, if its value is not in the same argument, and the value. -/
  pending : Option (Switch × Option String) := none
deriving DecidableEq, Repr

namespace Reading

/-- With a setting more. -/
def set (r : Reading) (place : Place) (s : Switch) (value : String) : Except Stop Reading :=
  if !s.isRepeatable && r.settings.any (·.switch = s) then
    .error (.mistake place none (.repeated s))
  else .ok { r with settings := r.settings ++ [⟨s, value⟩] }

/-- With the option that was last counted, which must have its value by now. -/
def settle (r : Reading) (place : Place) : Except Stop Reading :=
  match r.pending with
  | none => .ok r
  | some (s, none) => .error (.mistake place none (.missingValue s))
  | some (s, some value) => { r with pending := none }.set place s value

/-- The options in use: those that are counted, and the last one if it can be. `none` if there is
no use of anything. -/
def used (r : Reading) (place : Place) (more : Option Switch) : Option (List Switch) :=
  let r := (r.settle place).toOption.getD r
  let switches := (r.settings.map (·.switch) ++ more.toList).eraseDups
  if switches.isEmpty && r.file.isNone then none else some switches

/-- With an option without a value. Those that ask for a text end the reading. -/
def flag (r : Reading) (place : Place) (s : Switch) : Except Stop Reading := do
  let r ← r.settle place
  match s, place with
  | .help, none => throw (.help .program)
  | .help, some v => throw (.help (.command v))
  | .version, _ => throw .version
  | s, _ => r.set place s ""

/-- With an option whose value stands in the same argument. -/
def assign (r : Reading) (place : Place) (s : Switch) (value : String) : Except Stop Reading := do
  (← r.settle place).set place s value

/-- With an option whose value is still to come. -/
def await (r : Reading) (place : Place) (s : Switch) : Except Stop Reading := do
  return { (← r.settle place) with pending := some (s, none) }

/-- The mistake of an unknown long option. A similar option is proposed: one of the same place, or
one of the first command that is named later and has one; if there is none, the file. -/
def unknownLong (r : Reading) (place : Place) (name : String) (later : List String) : Stop :=
  let below : Option Hint := if place.isSome then none else
    (later.filterMap Verb.ofWord?).findSome? fun v =>
      (Switch.similar? (some v) name).map (Hint.optionOf v)
  let similar := Switch.similar? place name
  let hint := (similar.map Hint.option).or (below.or (if place.isSome then some .file else none))
  .mistake place (r.used place similar) (.unexpected ("--" ++ name) hint)

/-- With the long option of an argument, given what stands behind its dashes. -/
def long (r : Reading) (place : Place) (body : List Char) (later : List String) :
    Except Stop Reading :=
  let name := body.takeWhile (· ≠ '=')
  match Switch.named? place (String.ofList name) with
  | none => .error (r.unknownLong place (String.ofList name) later)
  | some s =>
    match body.drop name.length, s.valueName? with
    | [], some _ => r.await place s
    | _ :: value, some _ => r.assign place s (String.ofList value)
    | [], none => r.flag place s
    | _ :: value, none => .error (.mistake place none (.needlessValue (String.ofList value) s))

/-- With the short options of an argument, given what stands behind its dash. The first one that has
a value takes all that follows it, but for an equals sign. -/
def shorts (r : Reading) (place : Place) : List Char → Except Stop Reading
  | [] => .ok r
  | c :: cs =>
    match (Switch.ofPlace place).find? fun s => s.short? = some c with
    | none => .error (.mistake place none
        (.unexpected (String.ofList ['-', c]) (if place.isSome then some .file else none)))
    | some s =>
      match s.valueName?, cs with
      | some _, [] => r.await place s
      | some _, '=' :: value => r.assign place s (String.ofList value)
      | some _, value => r.assign place s (String.ofList value)
      | none, cs => do (← r.flag place s).shorts place cs

/-- With the file, of which there is only one. -/
def operand (r : Reading) (place : Place) (argument : String) : Except Stop Reading :=
  if r.file.isSome then .error (.mistake place none (.unexpected argument none))
  else do return { (← r.settle place) with file := some argument }

/-- With an argument that is no option: the value of the option before it, or the file. -/
def plain (r : Reading) (place : Place) (argument : String) : Except Stop Reading :=
  match r.pending with
  | some (s, none) => .ok { r with pending := some (s, some argument) }
  | _ => r.operand place argument

end Reading

/-- What an argument looks like. -/
inductive Shape where
  | dashes
  | long (body : List Char)
  | short (letters : List Char)
  | word
deriving DecidableEq, Repr

/-- What an argument looks like. A dash alone is a word. -/
def Shape.of (argument : String) : Shape :=
  match argument.toList with
  | ['-', '-'] => .dashes
  | '-' :: '-' :: body => .long body
  | '-' :: c :: letters => .short (c :: letters)
  | _ => .word

/-- What is read of the arguments behind a command. -/
def readOperands (v : Verb) (r : Reading) : List String → Except Stop Reading
  | [] => r.settle (some v)
  | argument :: rest =>
    match Shape.of argument with
    | .dashes => do (← rest.foldlM (fun r word => r.operand (some v) word) r).settle (some v)
    | .long body => do readOperands v (← r.long (some v) body rest) rest
    | .short letters => do readOperands v (← r.shorts (some v) letters) rest
    | .word => do readOperands v (← r.plain (some v) argument) rest

/-- A command with its file and its options. -/
structure Request where
  verb : Verb
  file : String
  settings : List Setting

namespace Request

/-- The values of an option, in the order of the arguments. -/
def values (r : Request) (s : Switch) : List String :=
  (r.settings.filter fun setting => setting.switch = s).map (·.value)

def has (r : Request) (s : Switch) : Bool := r.settings.any (·.switch = s)

end Request

/-- The request for a command, given the options before it and the arguments behind it. -/
def requestOf (before : List Setting) (v : Verb) (arguments : List String) :
    Except Stop Request := do
  let r ← readOperands v {} arguments
  match r.file with
  | some file => return ⟨v, file, before ++ r.settings⟩
  | none => throw (.mistake (some v) (some (r.settings.map (·.switch)).eraseDups) .missingFile)

/-- The page that is asked for by words behind the word for help. -/
def helpOn : List String → Stop
  | [] => .help .program
  | word :: rest =>
    match Verb.ofWord? word, rest with
    | some v, [] => .help (.command v)
    | some v, extra :: _ => .mistake (some v) none (.unknownCommand extra none)
    | none, rest =>
      if word = helpWord ∧ rest.isEmpty then .help .help
      else .mistake none none (.unknownCommand word none)

/-- The mistake of a word that should be a command. -/
def noCommand (word : String) : Stop :=
  let words := Text.similarTo word commandWords
  .mistake none none (.unknownCommand word (if words.isEmpty then none else some (.commands words)))

/-- The request of all arguments, given what is read of those before the command. -/
def readCommand (r : Reading) : List String → Except Stop Request
  | [] =>
    if r.settings.isEmpty then .error .nothing
    else .error (.mistake none none .missingCommand)
  | argument :: rest =>
    match Shape.of argument with
    | .dashes =>
      match rest with
      | [] => readCommand r []
      | word :: _ =>
        if word ∈ commandWords then
          .error (.mistake none none (.unexpected word (some .commandItself)))
        else .error (noCommand word)
    | .long body => do readCommand (← r.long none body rest) rest
    | .short letters => do readCommand (← r.shorts none letters) rest
    | .word =>
      if argument = helpWord then .error (helpOn rest)
      else
        match Verb.ofWord? argument with
        | some v => requestOf r.settings v rest
        | none => .error (noCommand argument)

/-- The arguments with the word of an evaluation before the first that is no option, unless that one
is a command. -/
def withCommand : List String → List String
  | [] => []
  | argument :: rest =>
    if argument.startsWith "-" then argument :: withCommand rest
    else if argument ∈ commandWords then argument :: rest
    else Verb.evaluate.word :: argument :: rest

def Request.ofArguments (arguments : List String) : Except Stop Request :=
  readCommand {} (withCommand arguments)

end DataOutline.CommandLine
