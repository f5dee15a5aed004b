import RegistryAuth.Json.Parser

/-!
# Reading records

A record is read straight from its document, without the value in between: an object whose members
are looked up by name, or, where the record allows it, an array of its fields in order.  A field may
be given once; members that the record does not have are passed over.  What follows the record in the
document is not looked at.
-/

namespace RegistryAuth.Json

open Text (Bytes)

/-- What a field holds. -/
inductive FieldKind where
  /-- A string. -/
  | text
  /-- A string, null or nothing. -/
  | optionalText
  /-- A whole number of 64 bits, null or nothing. -/
  | optionalCount
  deriving DecidableEq, Repr

/-- A field of a record. -/
structure Field where
  name : String
  kind : FieldKind
  deriving DecidableEq, Repr

/-- A kind of record. -/
structure Record where
  name : String
  fields : List Field
  /-- Whether an array of the fields in order is read as well. -/
  positional : Bool
  /-- Whether the values of other members have to be values that could be kept. -/
  keepsOthers : Bool

/-- The fields that have been read; a field that holds no text is there without one. -/
abbrev Fields := List (String × Option String)

def Fields.text? (fields : Fields) (name : String) : Option String :=
  (fields.lookup name).join

def FieldKind.optional : FieldKind → Bool
  | .text => false
  | .optionalText | .optionalCount => true

namespace Record

def title (r : Record) : String :=
  "struct " ++ r.name

/-- The name of a record with its length. -/
def sizedTitle (r : Record) : String :=
  r.title ++ s!" with {r.fields.length} element" ++ (if r.fields.length = 1 then "" else "s")

def field? (r : Record) (name : String) : Option Field :=
  r.fields.find? (·.name = name)

end Record

def readText (bs : Bytes) : Except Fault (String × Bytes) :=
  let bs := skipGap bs
  if bs.head? = some (byte '"') then readString bs.tail
  else .error (wrongType "a string" bs)

/-- Reads a whole number of 64 bits, whose value nobody asks for. -/
def readCount (bs : Bytes) : Except Fault Bytes :=
  let expected := "u64"
  match skipGap bs with
  | [] => .error .endInValue
  | b :: rest =>
    if startsNumber b then
      match readNumber (b :: rest) with
      | .error f => .error f
      | .ok (.whole n, rest) =>
        if n < 0 then .error (.mismatch (.invalidValue (.integer n) expected)) else .ok rest
      | .ok (.real x, _) => .error (.mismatch (.invalidType (.floating x) expected))
    else .error (wrongType expected (b :: rest))

/-- Reads null in the place of an optional value: what follows it. -/
def readNull? (bs : Bytes) : Option (Except Fault Bytes) :=
  match skipGap bs with
  | b :: rest => if b = byte 'n' then some (readWord "ull".toList rest) else none
  | [] => none

def readField (kind : FieldKind) (bs : Bytes) : Except Fault (Option String × Bytes) :=
  match if kind.optional then readNull? bs else none with
  | some r => r.map (none, ·)
  | none =>
    match kind with
    | .text | .optionalText => (readText bs).map fun r => (some r.1, r.2)
    | .optionalCount => (readCount bs).map (none, ·)

namespace Record

def passOther (r : Record) (bs : Bytes) : Except ReadError Bytes :=
  if r.keepsOthers then (value (depthLimit - 1) bs).map (·.2) else here (passValue bs)

def complete (r : Record) (seen : Fields) : Except ReadError Fields :=
  match r.fields.find? fun f => !f.kind.optional && (seen.lookup f.name).isNone with
  | some f => fail (.mismatch (.missingField f.name))
  | none => .ok seen

/-- Reads the members of an object, after those that have been seen.  `fuel` bounds the members and is
never used up when there are fewer than that many bytes. -/
def readMembers (r : Record) (fuel : Nat) (first : Bool) (seen : Fields) (bs : Bytes) :
    Except ReadError Fields :=
  match fuel with
  | 0 => fail .endInObject
  | fuel + 1 =>
    match memberTurn first bs with
    | .error f => within .unnamed (fail f)
    | .ok (.close _) => r.complete seen
    | .ok (.member rest) =>
      match readString rest with
      | .error f => within .unnamed (fail f)
      | .ok (name, rest) =>
        match r.field? name with
        | some field =>
          -- A field that comes twice is refused before its value is looked at.
          if (seen.lookup name).isSome then fail (.mismatch (.duplicateField name))
          else
            match readColon rest with
            | .error f => fail f
            | .ok rest =>
              match within (.name name) (here (readField field.kind rest)) with
              | .error e => .error e
              | .ok (content, rest) => readMembers r fuel false ((name, content) :: seen) rest
        | none =>
          match readColon rest with
          | .error f => fail f
          | .ok rest =>
            match within (.name name) (r.passOther rest) with
            | .error e => .error e
            | .ok rest => readMembers r fuel false seen rest

/-- Checks that an array ends after its fields. -/
def readArrayEnd (bs : Bytes) : Except Fault Unit :=
  match skipGap bs with
  | [] => .error .endInList
  | b :: rest =>
    if b = byte ']' then .ok ()
    else if b = byte ',' ∧ (skipGap rest).head? = some (byte ']') then .error .trailingComma
    else .error .trailingCharacters

/-- Reads the items of an array as the fields that are left, the next one at position `i`. -/
def readItems (r : Record) (i : Nat) (fields : List Field) (seen : Fields) (bs : Bytes) :
    Except ReadError Fields :=
  match fields with
  | [] => (here (readArrayEnd bs)).map fun _ => seen
  | field :: fields =>
    match itemTurn (i == 0) bs with
    | .error f => fail f
    | .ok (.close _) =>
      -- The bracket stays where it is, for the fields after this one and for the end.
      if field.kind.optional then readItems r (i + 1) fields seen bs
      else fail (.mismatch (.invalidLength i r.sizedTitle))
    | .ok (.item rest) =>
      match within (.index i) (here (readField field.kind rest)) with
      | .error e => .error e
      | .ok (content, rest) => readItems r (i + 1) fields ((field.name, content) :: seen) rest

def read (r : Record) (bs : Bytes) : Except ReadError Fields :=
  match skipGap bs with
  | [] => fail .endInValue
  | b :: rest =>
    if b = byte '\x7b' then r.readMembers (rest.length + 1) true [] rest
    else if b = byte '[' ∧ r.positional then r.readItems 0 r.fields [] rest
    else fail (wrongType r.title (b :: rest))

end Record

/-- The string that a document is, as something that a string may be turned into; a rejection comes
before a look at what follows the string. -/
def parseStringAs {α : Type} (make : String → Except String α) (bs : Bytes) : Except Fault α :=
  match readText bs with
  | .error f => .error f
  | .ok (s, rest) =>
    match make s with
    | .error message => .error (.mismatch (.rejected message))
    | .ok a => if skipGap rest = [] then .ok a else .error .trailingCharacters

def parseString (bs : Bytes) : Except Fault String :=
  parseStringAs .ok bs

end RegistryAuth.Json
