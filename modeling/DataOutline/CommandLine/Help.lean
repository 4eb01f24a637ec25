import DataOutline.CommandLine.Arguments
import DataOutline.CommandLine.Output

/-!
# Help

What is written when arguments are no request: the page that they ask for, or the mistake in them
with what may have been meant and the form that they should have had.
-/

namespace DataOutline.CommandLine

/-- The name of the program and its version. -/
def versionText : String := "mixdown 0.1.0\n"

def programName : String := "mixdown"

/-! ## Descriptions -/

def programAbout : String := "Mixdown document compiler"

def Verb.about : Verb → String
  | .check => "Parse a document and report syntax errors"
  | .list => "Dump the parsed document tree"
  | .print => "Print the document back in canonical form"
  | .evaluate => "Compile a document and print every value as JSON"

def helpAbout : String := "Print this message or the help of the given subcommand(s)"

def Switch.about : Switch → String
  | .noColor => "Disable colored error output"
  | .verbose => "Log compiler activity to stderr"
  | .context =>
    "Bindings for expressions and mixin bases (.json or .toml). Repeatable; later files win"
  | .scope => "Only evaluate values inside this section"
  | .noHelpers => "Don't provide the random-data helpers"
  | .help => "Print help"
  | .version => "Print version"

/-- An option as it is written, with the name of its value. -/
def Switch.form (s : Switch) : String :=
  "--" ++ s.long ++ (s.valueName?.map fun name => " <" ++ name ++ ">").getD ""

/-- An option as it is listed: with its letter before it. -/
def Switch.entry (s : Switch) : String :=
  (match s.short? with
    | some c => String.ofList ['-', c, ',', ' ']
    | none => "    ") ++ s.form

/-- The options of a place in the order in which they are listed. -/
def Switch.listing : Place → List Switch
  | some .evaluate => [.context, .noColor, .scope, .verbose, .noHelpers, .help]
  | place => Switch.ofPlace place

/-! ## The form of the arguments -/

/-- What has to stand at a place: a command, or the file of one. -/
def operandForm : Place → String
  | none => "<COMMAND>"
  | some _ => "<FILE>"

/-- The words up to a place. -/
def placeName : Place → String
  | none => programName
  | some v => programName ++ " " ++ v.word

/-- The form of the arguments at a place, with the options in use or in general. -/
def usageLine (place : Place) (used : Option (List Switch)) : String :=
  let options := match used with
    | none => ["[OPTIONS]"]
    | some switches => switches.map Switch.form
  "Usage: " ++ " ".intercalate (placeName place :: options ++ [operandForm place])

/-! ## Pages -/

/-- Rows of two columns under a heading. -/
def columns (heading : String) (rows : List (String × String)) : String :=
  let width := rows.foldl (fun n (left, _) => max n left.length) 0
  heading ++ ":\n" ++ String.join (rows.map fun (left, right) =>
    "  " ++ left ++ "".pushn ' ' (width - left.length) ++ "  " ++ right ++ "\n")

/-- The options of a place with what they do. -/
def optionRows (place : Place) : String :=
  columns "Options" ((Switch.listing place).map fun s => (s.entry, s.about))

def Topic.page : Topic → String
  | .program =>
    programAbout ++ "\n\n" ++ usageLine none none ++ "\n\n" ++
      columns "Commands" (Verb.all.map (fun v => (v.word, v.about)) ++ [(helpWord, helpAbout)]) ++
      "\n" ++ optionRows none
  | .command v =>
    v.about ++ "\n\n" ++ usageLine (some v) none ++ "\n\n" ++
      columns "Arguments" [(operandForm (some v), "Mixdown source file")] ++
      "\n" ++ optionRows (some v)
  | .help =>
    helpAbout ++ "\n\nUsage: " ++ programName ++ " " ++ helpWord ++ " [COMMAND]...\n\n" ++
      columns "Arguments" [("[COMMAND]...", "Print help for the subcommand(s)")]

/-! ## Mistakes -/

def inQuotes (word : String) : String := "'" ++ word ++ "'"

def Mistake.message : Mistake → String
  | .unexpected text _ => "unexpected argument " ++ inQuotes text ++ " found"
  | .unknownCommand text _ => "unrecognized subcommand " ++ inQuotes text
  | .missingValue s => "a value is required for " ++ inQuotes s.form ++ " but none was supplied"
  | .needlessValue value s =>
    "unexpected value " ++ inQuotes value ++ " for " ++ inQuotes s.form ++
      " found; no more were expected"
  | .repeated s => "the argument " ++ inQuotes s.form ++ " cannot be used multiple times"
  | .missingCommand =>
    inQuotes programName ++ " requires a subcommand but one was not provided\n  [subcommands: " ++
      ", ".intercalate commandWords ++ "]"
  | .missingFile => "the following required arguments were not provided:\n  <FILE>"

/-- The wording of what may have been meant by a text. -/
def Hint.message (text : String) : Hint → String
  | .option s => "a similar argument exists: " ++ inQuotes ("--" ++ s.long)
  | .optionOf v s => inQuotes (v.word ++ " --" ++ s.long) ++ " exists"
  | .file => "to pass " ++ inQuotes text ++ " as a value, use " ++ inQuotes ("-- " ++ text)
  | .commands [word] => "a similar subcommand exists: " ++ inQuotes word
  | .commands words =>
    "some similar subcommands exist: " ++ ", ".intercalate (words.map inQuotes)
  | .commandItself =>
    "subcommand " ++ inQuotes text ++ " exists; to use it, remove the '--' before it"

/-- What is said about what may have been meant, on lines of its own. -/
def Mistake.tip : Mistake → String
  | .unexpected text (some hint) | .unknownCommand text (some hint) =>
    "\n\n  tip: " ++ hint.message text
  | _ => ""

/-- Whether the form of the arguments is shown with a mistake. -/
def Mistake.showsUsage : Mistake → Bool
  | .missingValue _ => false
  | _ => true

/-- What is written when there is no request to carry out. -/
def Stop.output : Stop → Output
  | .help topic => { stdout := topic.page }
  | .version => { stdout := versionText }
  | .nothing => { stderr := Topic.program.page, code := 2 }
  | .mistake place used m =>
    { stderr := "error: " ++ m.message ++ m.tip ++
        (if m.showsUsage then "\n\n" ++ usageLine place used else "") ++
        "\n\nFor more information, try '--help'.\n"
      code := 2 }

end DataOutline.CommandLine
