import ModelForm.Json.Document
import ModelForm.Model.Instant
import ModelForm.Text.Visible

/-!
Why a document that can be read is not what was asked for.
-/

namespace ModelForm

inductive Found where
  | null
  | bool (value : Bool)
  | number (value : Number)
  | text (value : String)
  | sequence
  | map
  deriving DecidableEq, Repr, Inhabited

namespace Found

def describe : Found → String
  | .null => "null"
  | .bool b => "boolean \x60" ++ (if b then "true" else "false") ++ "\x60"
  | .number (.integer i) => "integer \x60" ++ toString i ++ "\x60"
  | .number (.double x) => "floating point \x60" ++ x.inDocument ++ "\x60"
  | .text s => "string " ++ Text.visible s
  | .sequence => "sequence"
  | .map => "map"

end Found

inductive DataError where
  | invalidType (found : Found) (expected : String)
  | invalidValue (found : Found) (expected : String)
  | invalidLength (length : Nat) (expected : String)
  | missingField (key : String)
  | duplicateField (key : String)
  | unknownVariant (name : String) (known : List String)
  | noVariant (type : String)
  | instant (error : InstantError)
  deriving DecidableEq, Repr, Inhabited

namespace DataError

def code (s : String) : String := "\x60" ++ s ++ "\x60"

def message : DataError → String
  | .invalidType found expected => "invalid type: " ++ found.describe ++ ", expected " ++ expected
  | .invalidValue found expected =>
    "invalid value: " ++ found.describe ++ ", expected " ++ expected
  | .invalidLength n expected => "invalid length " ++ toString n ++ ", expected " ++ expected
  | .missingField key => "missing field " ++ code key
  | .duplicateField key => "duplicate field " ++ code key
  | .unknownVariant name known =>
    "unknown variant " ++ code name ++ ", expected one of " ++
      ", ".intercalate (known.map code)
  | .noVariant type => "data did not match any variant of untagged enum " ++ type
  | .instant error => error.message

end DataError

inductive ReadError where
  | fault (fault : Fault)
  | data (error : DataError)
  deriving DecidableEq, Repr, Inhabited

end ModelForm
