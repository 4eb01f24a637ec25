import DataOutline.Excerpt

/-!
# Faults of a source

Why a text is not a document, as causes, and where.
-/

namespace DataOutline

/-- Why a text is not a document. -/
inductive Fault where
  | emptyDocument
  | noRootHeader
  /-- A header lies more than one level below the section that is open. -/
  | levelJump (level depth : Nat)
  | secondRoot
  | strayIndentation
  | unterminatedCode
  | missingValue
  | mixedMarkers
  | missingMarker
  | missingKey
  | missingRemovals
  | invalidPath (path : String)
  | missingWith
  | linesAfterWithout
  | unindentedAddition
  | missingAdditionKey
  | missingAdditions
  | malformedValue
deriving DecidableEq, Repr

namespace Fault

def message : Fault → String
  | .emptyDocument => "empty document"
  | .noRootHeader => "the document must start with a level 1 header"
  | .levelJump level depth =>
    "unexpected header level " ++ toString level ++ " on section level " ++ toString depth
  | .secondRoot => "there can be only one level 1 header, on the first line"
  | .strayIndentation => "invalid line"
  | .unterminatedCode => "unterminated code block"
  | .missingValue => "expected a value"
  | .mixedMarkers => "cannot mix ordered (*) and unordered (@) markers in one array"
  | .missingMarker => "expected an element marker (* or @) followed by a tab"
  | .missingKey => "expected a key followed by ':'"
  | .missingRemovals => "expected at least one path after 'without'"
  | .invalidPath path => "invalid path '" ++ path ++ "'"
  | .missingWith => "expected 'with' after ';'"
  | .linesAfterWithout => "unexpected lines after a 'without' clause"
  | .unindentedAddition => "expected the lines of a 'with' clause to be indented"
  | .missingAdditionKey => "expected 'path: value' after 'with'"
  | .missingAdditions => "expected at least one addition after 'with'"
  | .malformedValue => "invalid value syntax"

/-- What is said beside the message. -/
def notes : Fault → List String
  | .strayIndentation => ["tabs are the only legal indentation"]
  | _ => []

end Fault

/-- A fault and the lines that it lies in. -/
structure SyntaxError where
  fault : Fault
  span : Span
deriving DecidableEq, Repr

def SyntaxError.excerpt (e : SyntaxError) (source : String) : String :=
  Excerpt.render source e.span

def SyntaxError.report (e : SyntaxError) (source : String) : String :=
  e.fault.message ++ "\n" ++ e.excerpt source

end DataOutline
