import DataOutline.Json.Reader
import DataOutline.Program.Run
import DataOutline.Report
import DataOutline.Toml.Reader

/-!
# Output of the command line

What the program writes to its two channels, and how it ends.
-/

namespace DataOutline.CommandLine

/-- What is written, and the code at the end. -/
structure Output where
  stdout : String := ""
  stderr : String := ""
  code : Nat := 0
deriving DecidableEq, Repr

namespace Output

/-- One output after the other. The greater code remains. -/
def append (a b : Output) : Output :=
  ⟨a.stdout ++ b.stdout, a.stderr ++ b.stderr, max a.code b.code⟩

def concat (outputs : List Output) : Output := outputs.foldr append {}

end Output

/-- Why a request cannot be carried out. -/
inductive Trouble where
  | unreadable (path reason : String)
  | malformed (path source : String) (error : SyntaxError)
  | noObject (path : String)
  | notJson (path : String) (error : Json.ReadError)
  | notToml (path : String) (error : Toml.ReadError)
  | notCompiled (error : CompileError)
  | noSection (name : String)

namespace Trouble

def report : Trouble → String
  | .malformed path source error => Report.draw path source error
  | .unreadable path reason => line ("cannot read '" ++ path ++ "': " ++ reason)
  | .noObject path => line ("'" ++ path ++ "' must contain a JSON object")
  | .notJson path error => line ("invalid JSON in '" ++ path ++ "': " ++ error.message)
  | .notToml path error => line ("invalid TOML in '" ++ path ++ "': " ++ error.message)
  | .notCompiled error => line error.message
  | .noSection name => line ("no section named '" ++ name ++ "'")
where
  /-- An error on a line of its own. -/
  line (message : String) : String := "error: " ++ message ++ "\n"

def output (t : Trouble) : Output := { stderr := t.report, code := 1 }

end Trouble

end DataOutline.CommandLine
