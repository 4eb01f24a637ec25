import DataOutline.Expression.Token

/-!
# Errors of a run

What can go wrong when a value is run, as causes. The wording of each is in `message`.
-/

namespace DataOutline

/-- Why parts cannot be removed from or added to a base. -/
inductive MixinError where
  | invalidBase (got : String)
  | unresolvedBase (base segment : String)
  | removeFromNonObject (key : String)
  | removeIndexOutOfRange (index length : Nat)
  | removeNumericKey (index : Nat)
  | missingKey (key : String)
  | addToNonObject (key : String)
  | addIndexOutOfRange (index length : Nat)
  | addNumericKey (index : Nat)
  | emptyPath
deriving DecidableEq

def MixinError.message : MixinError → String
  | .invalidBase got => "expected base of mixin to be a non-null object, got " ++ got
  | .unresolvedBase base segment => "can't resolve '" ++ segment ++ "' in mixin base " ++ base
  | .removeFromNonObject key => "can't remove key " ++ key ++ " from non-object"
  | .removeIndexOutOfRange index length =>
    "can't remove index " ++ toString index ++ " from an array with " ++ toString length ++
      " elements"
  | .removeNumericKey index =>
    "can't remove the numeric key " ++ toString index ++ " from an object"
  | .missingKey key => "can't remove key " ++ key ++ " from the object"
  | .addToNonObject key => "can't add key " ++ key ++ " to non-object"
  | .addIndexOutOfRange index length =>
    "can't add index " ++ toString index ++ " to an array with " ++ toString length ++ " elements"
  | .addNumericKey index => "can't add the numeric key " ++ toString index ++ " to an object"
  | .emptyPath => "empty path"

/-- Why a value has no result. -/
inductive RunError where
  | typeMismatch (expected got : String)
  | undefinedVariable (name : String)
  | notCallable (name : String)
  | invalidProperty (property target : String)
  | unknownMethod (method target : String)
  | divisionByZero
  | malformed (fault : Expression.SyntaxFault)
  /-- The expression is nested deeper than the limit. -/
  | tooDeep
  | mixin (error : MixinError)
  /-- An error that a host function raises, in its own words. -/
  | custom (text : String)
deriving DecidableEq

def RunError.message : RunError → String
  | .typeMismatch expected got => "type error: expected " ++ expected ++ ", got " ++ got
  | .undefinedVariable name => name ++ " is not defined"
  | .notCallable name => name ++ " is not a function"
  | .invalidProperty property target => "cannot read property '" ++ property ++ "' of " ++ target
  | .unknownMethod method target => target ++ " has no method '" ++ method ++ "'"
  | .divisionByZero => "division by zero"
  | .malformed fault => "syntax error in expression: " ++ fault.message
  | .tooDeep => "expression nesting too deep"
  | .mixin error => error.message
  | .custom text => text

end DataOutline
