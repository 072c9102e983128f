import WireSchema.Text.Quoted

namespace WireSchema

/-!
Findings of the validation.

A finding is one thing that is wrong, or worth knowing, in the schema that a unit would get.  It is
kept as its cause; severity, location and wording are functions of the cause.  Only findings of
severity error forbid that the schema is written.
-/

/-- How serious a finding is.  Only errors forbid writing; the others are logged
and given to the caller. -/
inductive Severity where
  | error
  | warning
  | info
deriving DecidableEq, Repr, Inhabited

def Severity.word : Severity → String
  | error => "error"
  | warning => "warning"
  | info => "info"

def minFieldNumber : Int := 1

def maxFieldNumber : Int := 536870911

/-- Whether a field number lies in the range of admitted numbers. -/
def isFieldNumber (number : Int) : Bool :=
  minFieldNumber ≤ number && number ≤ maxFieldNumber

/-- Whether a field number lies in the band that the wire format keeps for
itself.  The band is inside the range of field numbers, and its numbers are
reported on their own. -/
def isBandNumber (number : Int) : Bool :=
  19000 ≤ number && number < 20000

/-- A finding.  Names and numbers are given as they are written, so that a
finding can be shown without the options or the model that it comes from. -/
inductive Finding where
  /-- A message has the name of an earlier one. -/
  | duplicateMessage (composite message : String)
  /-- A map has a key type that the schema does not admit. -/
  | unsupportedKey (message field keyType : String)
  /-- A field has the number of an earlier field, whose name is given last. -/
  | duplicateNumber (message field number owner : String)
  | reservedNumber (message field number : String)
  | numberOutOfRange (message field number : String)
  | numberInBand (message field number : String)
  | noFields (message : String)
  /-- An enumeration has the name of an earlier one. -/
  | duplicateEnum (source enum : String)
  /-- A value has the number of an earlier value, whose name is given last. -/
  | duplicateValue (allowed : Bool) (enum value number owner : String)
  /-- A service has the name of an earlier one. -/
  | duplicateService (fromComposite : Bool) (source service : String)
deriving DecidableEq, Repr

namespace Finding

def severity : Finding → Severity
  | unsupportedKey .. => .warning
  | noFields _ => .info
  | duplicateValue allowed .. => if allowed then .warning else .error
  | _ => .error

/-- Whether a finding forbids writing. -/
def isError (finding : Finding) : Bool := finding.severity == .error

def fieldLocation (message field : String) : String :=
  "message " ++ message ++ ", field " ++ field

/-- Where a finding was made. -/
def location : Finding → String
  | duplicateMessage composite _ => "struct " ++ composite
  | unsupportedKey message field _ => fieldLocation message field
  | duplicateNumber message field _ _ => fieldLocation message field
  | reservedNumber message field _ => fieldLocation message field
  | numberOutOfRange message field _ => fieldLocation message field
  | numberInBand message field _ => fieldLocation message field
  | noFields message => "message " ++ message
  | duplicateEnum source _ => "enum " ++ source
  | duplicateValue _ enum value _ _ => "enum " ++ enum ++ ", value " ++ value
  | duplicateService fromComposite source _ =>
      (if fromComposite then "struct " else "interface ") ++ source

/-- What was found. -/
def message : Finding → String
  | duplicateMessage _ message => "duplicate message name: " ++ message
  | unsupportedKey _ _ keyType =>
      "map key type '" ++ keyType ++ "' is not a valid protobuf map key; field skipped"
  | duplicateNumber _ _ number owner =>
      "duplicate field number " ++ number ++ " (also used by field '" ++ owner ++ "')"
  | reservedNumber _ _ number => "field number " ++ number ++ " is reserved"
  | numberOutOfRange _ _ number =>
      "field number " ++ number ++ " is out of valid range (" ++ toString minFieldNumber ++ "-"
        ++ toString maxFieldNumber ++ ")"
  | numberInBand _ _ number => "field number " ++ number ++ " is in reserved range 19000-19999"
  | noFields _ => "message has no fields"
  | duplicateEnum _ enum => "duplicate enum name: " ++ enum
  | duplicateValue _ _ _ number owner =>
      "duplicate enum value number " ++ number ++ " (also used by value '" ++ owner ++ "')"
  | duplicateService _ _ service => "duplicate service name: " ++ service

def text (finding : Finding) : String :=
  "[" ++ finding.severity.word ++ "] " ++ finding.location ++ ": " ++ finding.message

end Finding

end WireSchema
