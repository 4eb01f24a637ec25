import DataOutline.Calendar.Instant
import DataOutline.Document.Listing
import DataOutline.Value.Error

/-!
# The log

What the program tells about its work, if it is asked to. Each event is a line of the error channel,
in its place among the reports. How the line looks is a matter of the log; here it has the time at
which the program was called, and no colours.
-/

namespace DataOutline.CommandLine

/-- What there is to tell about the work of the program. -/
inductive Event where
  /-- The file of this path is a document. -/
  | parsed (path : String)
  /-- So many values of a document are compiled, whose header has this name. -/
  | compiled (values : Nat) (name : String)
  /-- The run of a value failed at a line. -/
  | failed (line : Nat) (error : RunError)

namespace Event

def origin : Event → String
  | .parsed _ => "mixdown"
  | .compiled .. | .failed .. => "interpreter::compiler"

/-- The wording of an event, with what belongs to it. -/
def text : Event → String
  | .parsed path =>
    "parsed document path=" ++ String.ofList ((Listing.quoted path).text 0)
  | .compiled values name =>
    "compiled document values=" ++ toString values ++ " section=" ++ name
  | .failed line error => "run failed line=" ++ toString line ++ " error=" ++ error.message

def line (time : Calendar.Instant) (e : Event) : String :=
  time.text ++ " DEBUG " ++ e.origin ++ ": " ++ e.text ++ "\n"

end Event

end DataOutline.CommandLine
