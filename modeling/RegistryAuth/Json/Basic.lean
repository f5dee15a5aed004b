import RegistryAuth.Binary64.Shortest
import RegistryAuth.Text.Quoted
import RegistryAuth.Text.Utf8

/-!
# JSON values and what can be wrong with a document

A document is read from bytes.  A `Fault` says why reading stopped; it belongs to one of three
categories: the document ends too soon, it breaks the grammar, or a well-formed value does not fit
what the reader wants.  A `ReadError` adds the place in the document, as far as it is known.
-/

namespace RegistryAuth

open Text (Bytes)

namespace Json

/-- A number: whole when it is written without point and exponent and fits 64 bits, otherwise
binary floating point. -/
inductive Number where
  | whole (n : Int)
  | real (x : Binary64)
  deriving DecidableEq, Repr

end Json

/-- A JSON value.  The members of an object are in the order of their names. -/
inductive Json where
  | null
  | bool (b : Bool)
  | number (n : Json.Number)
  | string (s : String)
  | array (items : List Json)
  | object (members : List (String × Json))
  deriving Inhabited

namespace Json

/-- Puts a member in its place among members sorted by name; an equal name is replaced. -/
def insertMember (name : String) (value : Json) : List (String × Json) → List (String × Json)
  | [] => [(name, value)]
  | (n, v) :: rest =>
    if name < n then (name, value) :: (n, v) :: rest
    else if name = n then (name, value) :: rest
    else (n, v) :: insertMember name value rest

/-- Sorts members by name, the last of equal names winning. -/
def sortMembers (members : List (String × Json)) : List (String × Json) :=
  members.foldl (fun sorted m => insertMember m.1 m.2 sorted) []

def find? (name : String) (members : List (String × Json)) : Option Json :=
  (members.find? (·.1 = name)).map (·.2)

/-- What a value is, as a message names it. -/
inductive Found where
  | null
  | bool (b : Bool)
  | integer (n : Int)
  | floating (x : Binary64)
  | string (s : String)
  | sequence
  | map

/-- How a number with a fraction or an exponent is written: plainly from 10⁻⁵ to below 10¹⁶. -/
def realLayout : Binary64.Layout := ⟨-5, 15, 2⟩

def wholeText (n : Int) : List Char :=
  if n < 0 then '-' :: Nat.toDigits 10 n.natAbs else Nat.toDigits 10 n.natAbs

def Number.text : Number → List Char
  | .whole n => wholeText n
  | .real x => realLayout.print x

def Number.found : Number → Found
  | .whole n => .integer n
  | .real x => .floating x

def Found.text : Found → String
  | .null => "null"
  | .bool b => "boolean `" ++ (if b then "true" else "false") ++ "`"
  | .integer n => "integer `" ++ String.ofList (wholeText n) ++ "`"
  | .floating x => "floating point `" ++ String.ofList (realLayout.print x) ++ "`"
  | .string s => "string " ++ Text.quote s
  | .sequence => "sequence"
  | .map => "map"

/-- Why a value does not fit. -/
inductive Mismatch where
  | missingField (name : String)
  | duplicateField (name : String)
  | invalidType (found : Found) (expected : String)
  | invalidValue (found : Found) (expected : String)
  | invalidLength (length : Nat) (expected : String)
  | rejected (message : String)

/-- Why reading a document stopped. -/
inductive Fault where
  | endInValue
  | endInList
  | endInObject
  | endInString
  | expectedValue
  | expectedWord
  | expectedColon
  | expectedListEnd
  | expectedObjectEnd
  | trailingComma
  | trailingCharacters
  | nameNotString
  | invalidNumber
  | numberOutOfRange
  | invalidEscape
  | unpairedEscape
  | loneSurrogate
  | invalidUnicode
  | controlCharacter
  | nestingLimit
  | mismatch (m : Mismatch)

/-- The three kinds of faults. -/
inductive Category where
  | truncated
  | grammar
  | shape
  deriving DecidableEq, Repr

def Mismatch.message : Mismatch → String
  | .missingField name => "missing field `" ++ name ++ "`"
  | .duplicateField name => "duplicate field `" ++ name ++ "`"
  | .invalidType found expected => "invalid type: " ++ found.text ++ ", expected " ++ expected
  | .invalidValue found expected => "invalid value: " ++ found.text ++ ", expected " ++ expected
  | .invalidLength n expected => s!"invalid length {n}, expected " ++ expected
  | .rejected message => message

namespace Fault

def message : Fault → String
  | .endInValue => "EOF while parsing a value"
  | .endInList => "EOF while parsing a list"
  | .endInObject => "EOF while parsing an object"
  | .endInString => "EOF while parsing a string"
  | .expectedValue => "expected value"
  | .expectedWord => "expected ident"
  | .expectedColon => "expected `:`"
  | .expectedListEnd => "expected `,` or `]`"
  | .expectedObjectEnd => "expected `,` or `\x7d`"
  | .trailingComma => "trailing comma"
  | .trailingCharacters => "trailing characters"
  | .nameNotString => "key must be a string"
  | .invalidNumber => "invalid number"
  | .numberOutOfRange => "number out of range"
  | .invalidEscape => "invalid escape"
  | .unpairedEscape => "unexpected end of hex escape"
  | .loneSurrogate => "lone leading surrogate in hex escape"
  | .invalidUnicode => "invalid unicode code point"
  | .controlCharacter => "control character (\\u0000-\\u001F) found while parsing a string"
  | .nestingLimit => "recursion limit exceeded"
  | .mismatch m => m.message

def category : Fault → Category
  | .endInValue | .endInList | .endInObject | .endInString => .truncated
  | .mismatch _ => .shape
  | _ => .grammar

end Fault

/-- A step into a document. -/
inductive Segment where
  | name (s : String)
  | index (n : Nat)
  /-- A member whose name is not known. -/
  | unnamed

/-- The text of a path: names separated by points, positions in brackets, `.` for the document
itself. -/
def pathText : List Segment → String
  | [] => "."
  | path => go "" path
where
  go (sep : String) : List Segment → String
    | [] => ""
    | .index n :: rest => s!"[{n}]" ++ go "." rest
    | .name s :: rest => sep ++ s ++ go "." rest
    | .unnamed :: rest => sep ++ "?" ++ go "." rest

/-- A fault and the path to the value that was being read. -/
structure ReadError where
  path : List Segment
  fault : Fault

/-- A fault at the place where reading began. -/
def fail {α : Type} (fault : Fault) : Except ReadError α :=
  .error ⟨[], fault⟩

/-- Places the error of an inner value at a step into the outer one. -/
def within {α : Type} (s : Segment) : Except ReadError α → Except ReadError α
  | .ok a => .ok a
  | .error e => .error ⟨s :: e.path, e.fault⟩

def here {α : Type} : Except Fault α → Except ReadError α
  | .ok a => .ok a
  | .error f => fail f

end Json

end RegistryAuth
