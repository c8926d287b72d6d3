/-
# Why a document cannot be read

Every way in which a document can fail to be read, and its wording. The wording never
mentions a place: where the cursor stood is reported beside it.
-/

import Parley.Text.Escape
import Parley.Text.Utf8

namespace Parley.Ron

/-- Why an escape stands for no character. -/
inductive EscapeFault where
  | unknownLetter
  | notHexadecimal
  | missingOpeningBrace
  | noDigits
  | missingClosingBrace
  | invalidScalar
deriving DecidableEq, Repr

def EscapeFault.message : EscapeFault → String
  | unknownLetter => "Unknown escape character"
  | notHexadecimal => "Non-hex digit found"
  | missingOpeningBrace => "Missing \x7b in Unicode escape"
  | noDigits => "Expected 1-6 digits, got 0 digits in Unicode escape"
  | missingClosingBrace => "No \x7d at the end of Unicode escape"
  | invalidScalar => "Not a valid char"

/-- Why a document cannot be read. -/
inductive Problem where
  | endOfInput
  | trailingCharacters
  | unexpectedByte (byte : UInt8)
  | unclosedComment
  | recursionLimit
  | expectedIdentifier
  /-- A word that is only allowed with a mark in front that says it is raw. -/
  | unmarkedRawIdentifier (text : String)
  | expectedAttribute
  | expectedAttributeEnd
  | unknownExtension (name : String)
  | expectedComma
  | expectedColon
  | expectedOpeningParenthesis
  | expectedClosingParenthesis
  | expectedOpeningBracket
  | expectedOpeningBrace
  /-- The parenthesis of a named structure is missing. -/
  | expectedStructure (name : String)
  | otherStructure (expected found : String)
  | missingField (field owner : String)
  | duplicateField (field owner : String)
  | unknownVariant (enumeration found : String) (variants : List String)
  | expectedOption
  | expectedBoolean
  | expectedInteger
  | leadingUnderscore
  | integerOutOfBounds
  | expectedFloat
  | underscoreInFloat
  | expectedString
  | unterminatedString
  | expectedCharacter
  | badEscape (fault : EscapeFault)
  | badText (fault : Text.Utf8.Fault)
deriving DecidableEq, Repr

/-- Whether a byte may begin an identifier. -/
def isIdentifierStart (b : UInt8) : Bool :=
  'a'.toUInt8 ≤ b && b ≤ 'z'.toUInt8 || 'A'.toUInt8 ≤ b && b ≤ 'Z'.toUInt8 || b == '_'.toUInt8

/-- Whether a byte is a decimal digit. -/
def isDigit (b : UInt8) : Bool := '0'.toUInt8 ≤ b && b ≤ '9'.toUInt8

/-- Whether a byte may continue an identifier. -/
def isIdentifierRest (b : UInt8) : Bool := isIdentifierStart b || isDigit b

/-- Whether a byte may stand in a raw identifier. -/
def isRawIdentifier (b : UInt8) : Bool :=
  isIdentifierRest b || b == '.'.toUInt8 || b == '+'.toUInt8 || b == '-'.toUInt8

/-- An identifier as messages show it: a raw one with its mark, and what is no
identifier at all in quotes. -/
def displayIdentifier (name : String) : String :=
  let bytes := Text.Utf8.encode name
  if bytes.isEmpty || !bytes.all isRawIdentifier then
    let quoted := name.toList.flatMap (Text.escape ['"'])
    "\"" ++ String.ofList quoted ++ "\"_[invalid identifier]"
  else if bytes.head?.any isIdentifierStart && bytes.all isIdentifierRest then
    "`" ++ name ++ "`"
  else "`r#" ++ name ++ "`"

/-- A choice between names as messages show it. -/
def displayAlternatives (names : List String) : String :=
  match names.map displayIdentifier with
  | [] => "there are no variants"
  | [one] => "expected " ++ one ++ " instead"
  | [one, other] => "expected either " ++ one ++ " or " ++ other ++ " instead"
  | several => "expected one of " ++ ", ".intercalate several ++ " instead"

def Problem.message : Problem → String
  | endOfInput => "Unexpected end of RON"
  | trailingCharacters => "Non-whitespace trailing characters"
  | unexpectedByte byte =>
    "Unexpected byte '" ++ String.ofList (Text.escape ['\''] (Char.ofNat byte.toNat)) ++ "'"
  | unclosedComment => "Unclosed block comment"
  | recursionLimit =>
    "Exceeded recursion limit, try increasing the limit and using `serde_stacker` "
      ++ "to protect against a stack overflow"
  | expectedIdentifier => "Expected identifier"
  | unmarkedRawIdentifier text =>
    "Found invalid std identifier `" ++ text ++ "`, try the raw identifier `r#" ++ text
      ++ "` instead"
  | expectedAttribute => "Expected an `#![enable(...)]` attribute"
  | expectedAttributeEnd => "Expected closing `)]` after the enable attribute"
  | unknownExtension name => "No RON extension named " ++ displayIdentifier name
  | expectedComma => "Expected comma"
  | expectedColon => "Expected colon"
  | expectedOpeningParenthesis => "Expected opening `(`"
  | expectedClosingParenthesis => "Expected closing `)`"
  | expectedOpeningBracket => "Expected opening `[`"
  | expectedOpeningBrace => "Expected opening `\x7b`"
  | expectedStructure name => "Expected opening `(` for struct " ++ displayIdentifier name
  | otherStructure expected found =>
    "Expected struct " ++ displayIdentifier expected ++ " but found " ++ displayIdentifier found
  | missingField field owner =>
    "Unexpected missing field " ++ displayIdentifier field ++ " in " ++ displayIdentifier owner
  | duplicateField field owner =>
    "Unexpected duplicate field " ++ displayIdentifier field ++ " in " ++ displayIdentifier owner
  | unknownVariant enumeration found variants =>
    "Unexpected variant named " ++ displayIdentifier found ++ "in enum "
      ++ displayIdentifier enumeration ++ ", " ++ displayAlternatives variants
  | expectedOption => "Expected option"
  | expectedBoolean => "Expected boolean"
  | expectedInteger => "Expected integer"
  | leadingUnderscore => "Unexpected leading underscore in an integer"
  | integerOutOfBounds => "Integer is out of bounds"
  | expectedFloat => "Expected float"
  | underscoreInFloat => "Unexpected underscore in float"
  | expectedString => "Expected string"
  | unterminatedString => "Expected end of string"
  | expectedCharacter => "Expected char"
  | badEscape fault => fault.message
  | badText fault => fault.message

end Parley.Ron
