/-!
# Why a tree does not fit a type

Typed values are read from trees. When a part of a tree does not fit, the reader
stops with a `ReadFault`; `ReadFault.message` words it for people who write the
trees.
-/

namespace CaseRunner

/-- Why a tree does not fit a type. What was found and what was expected are
described in words. -/
inductive ReadFault where
  /-- Something of another kind was found. -/
  | wrongType (found expected : String)
  /-- Something of the right kind but out of range was found. -/
  | wrongValue (found expected : String)
  /-- A list has too few or too many items. -/
  | wrongLength (length : Nat) (expected : String)
  /-- A member that must be there is not. -/
  | missing (field : String)
  /-- A member is there twice. -/
  | repeated (field : String)
  /-- A name is none of the known ones. -/
  | unknownName (name : String) (known : List String)
  /-- None of the forms of a type fits. -/
  | noneFits (type : String)
  /-- A rule of its own is broken. -/
  | other (text : String)
  deriving DecidableEq, Repr

namespace ReadFault

/-- A name between backticks. -/
def ticked (name : String) : String := "\x60" ++ name ++ "\x60"

/-- The names of which one was expected. -/
def oneOf : List String → String
  | [] => "there are no variants"
  | [a] => "expected " ++ ticked a
  | [a, b] => "expected " ++ ticked a ++ " or " ++ ticked b
  | names => "expected one of " ++ String.intercalate ", " (names.map ticked)

/-- The fault in words. -/
def message : ReadFault → String
  | .wrongType found expected => "invalid type: " ++ found ++ ", expected " ++ expected
  | .wrongValue found expected => "invalid value: " ++ found ++ ", expected " ++ expected
  | .wrongLength n expected => "invalid length " ++ toString n ++ ", expected " ++ expected
  | .missing field => "missing field " ++ ticked field
  | .repeated field => "duplicate field " ++ ticked field
  | .unknownName name known => "unknown variant " ++ ticked name ++ ", " ++ oneOf known
  | .noneFits type => "data did not match any variant of untagged enum " ++ type
  | .other text => text

end ReadFault

end CaseRunner
