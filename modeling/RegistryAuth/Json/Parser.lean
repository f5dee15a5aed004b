import RegistryAuth.Json.Lexeme

/-!
# Reading values

`Json.value` builds the value at the front of a document; it goes at most 127 containers deep and
reports the path to a fault.  `Json.passValue` passes over a value of any depth without building it:
it keeps only the brackets that are open.
-/

namespace RegistryAuth.Json

open Text (Bytes)

/-- One more than the number of containers that may be open at once. -/
def depthLimit : Nat := 128

/-- A scalar and what follows it; containers are not scalars. -/
def scalar? (bs : Bytes) : Option (Except Fault (Json × Bytes)) :=
  match bs with
  | [] => some (.error .endInValue)
  | b :: rest =>
    if b = byte 'n' then some ((readWord "ull".toList rest).map (.null, ·))
    else if b = byte 't' then some ((readWord "rue".toList rest).map (.bool true, ·))
    else if b = byte 'f' then some ((readWord "alse".toList rest).map (.bool false, ·))
    else if startsNumber b then some ((readNumber bs).map fun r => (.number r.1, r.2))
    else if b = byte '"' then some ((readString rest).map fun r => (.string r.1, r.2))
    else if b = byte '[' ∨ b = byte '\x7b' then none
    else some (.error .expectedValue)

/-- What the front of an array's content asks for. -/
inductive ItemTurn where
  | item (rest : Bytes)
  | close (rest : Bytes)

/-- Decides whether another item follows in an array; `first` tells that none has been read. -/
def itemTurn (first : Bool) (bs : Bytes) : Except Fault ItemTurn :=
  match skipGap bs with
  | [] => .error .endInList
  | b :: rest =>
    if b = byte ']' then .ok (.close rest)
    else if first then .ok (.item (b :: rest))
    else if b = byte ',' then
      match skipGap rest with
      | [] => .error .endInValue
      | c :: rest => if c = byte ']' then .error .trailingComma else .ok (.item (c :: rest))
    else .error .expectedListEnd

/-- What the front of an object's content asks for. -/
inductive MemberTurn where
  /-- A member, from after the quote that opens its name. -/
  | member (rest : Bytes)
  | close (rest : Bytes)

def memberTurn (first : Bool) (bs : Bytes) : Except Fault MemberTurn :=
  let named (bs : Bytes) : Except Fault MemberTurn :=
    match bs with
    | [] => .error .endInValue
    | b :: rest =>
      if b = byte '"' then .ok (.member rest)
      else if b = byte '\x7d' then .error .trailingComma
      else .error .nameNotString
  match skipGap bs with
  | [] => .error .endInObject
  | b :: rest =>
    if b = byte '\x7d' then .ok (.close rest)
    else if first then named (b :: rest)
    else if b = byte ',' then named (skipGap rest)
    else .error .expectedObjectEnd

def readColon (bs : Bytes) : Except Fault Bytes :=
  match skipGap bs with
  | [] => .error .endInObject
  | b :: rest => if b = byte ':' then .ok rest else .error .expectedColon

mutual

/-- The value at the front of the bytes, with at most `depth - 1` containers inside one another.
`fuel` bounds the calls and is never used up when it is twice the number of bytes. -/
def valueWith (fuel depth : Nat) (bs : Bytes) : Except ReadError (Json × Bytes) :=
  match fuel with
  | 0 => fail .endInValue
  | fuel + 1 =>
    let bs := skipGap bs
    match scalar? bs with
    | some r => here r
    | none =>
      match depth with
      | 0 | 1 => fail .nestingLimit
      | depth + 2 =>
        if bs.head? = some (byte '[') then itemsWith fuel (depth + 1) 0 [] bs.tail
        else membersWith fuel (depth + 1) [] bs.tail

/-- The items of an array and its closing bracket; `count` items have been read. -/
def itemsWith (fuel depth count : Nat) (items : List Json) (bs : Bytes) :
    Except ReadError (Json × Bytes) :=
  match fuel with
  | 0 => fail .endInList
  | fuel + 1 =>
    match itemTurn (count == 0) bs with
    | .error f => fail f
    | .ok (.close rest) => .ok (.array items.reverse, rest)
    | .ok (.item rest) =>
      match valueWith fuel depth rest with
      | .error e => within (.index count) (.error e)
      | .ok (v, rest) => itemsWith fuel depth (count + 1) (v :: items) rest

/-- The members of an object and its closing brace; those read are held in reverse. -/
def membersWith (fuel depth : Nat) (members : List (String × Json)) (bs : Bytes) :
    Except ReadError (Json × Bytes) :=
  match fuel with
  | 0 => fail .endInObject
  | fuel + 1 =>
    match memberTurn members.isEmpty bs with
    | .error f => within .unnamed (fail f)
    | .ok (.close rest) => .ok (.object (sortMembers members.reverse), rest)
    | .ok (.member rest) =>
      match readString rest with
      | .error f => within .unnamed (fail f)
      | .ok (name, rest) =>
        match readColon rest with
        | .error f => fail f
        | .ok rest =>
          match valueWith fuel depth rest with
          | .error e => within (.name name) (.error e)
          | .ok (v, rest) => membersWith fuel depth ((name, v) :: members) rest

end

/-- The value at the front of a document, inside containers that leave `depth`. -/
def value (depth : Nat) (bs : Bytes) : Except ReadError (Json × Bytes) :=
  valueWith (2 * bs.length + 2) depth bs

def parse (bs : Bytes) : Except ReadError Json :=
  match value depthLimit bs with
  | .error e => .error e
  | .ok (v, rest) => if skipGap rest = [] then .ok v else fail .trailingCharacters

/-! ## Values of the wrong type -/

/-- The fault of a value that is not of the expected type.  Scalars are read to the end, and a fault
in them comes first; of a container only the bracket is looked at. -/
def wrongType (expected : String) (bs : Bytes) : Fault :=
  let unexpected (f : Found) : Fault := .mismatch (.invalidType f expected)
  match scalar? bs with
  | none => unexpected (if bs.head? = some (byte '[') then .sequence else .map)
  | some (.error f) => f
  | some (.ok (v, _)) =>
    match v with
    | .null => unexpected .null
    | .bool b => unexpected (.bool b)
    | .number n => unexpected n.found
    | .string s => unexpected (.string s)
    | .array _ => unexpected .sequence
    | .object _ => unexpected .map

def parseObject (bs : Bytes) : Except ReadError (List (String × Json)) :=
  match skipGap bs with
  | [] => fail .endInValue
  | b :: rest =>
    if b = byte '\x7b' then
      match parse (b :: rest) with
      | .ok (.object members) => .ok members
      | .ok _ => .ok []
      | .error e => .error e
    else fail (wrongType "a map" (b :: rest))

/-! ## Passing over values -/

/-- A bracket that is open. -/
inductive Bracket where
  | list
  | object
  deriving DecidableEq

/-- What is looked for next while passing over a value. -/
inductive PassState where
  /-- A value. -/
  | value
  /-- The first item or member of the innermost container, or its end. -/
  | opened
  /-- The end of the innermost container, or a comma. -/
  | after

def passName (bs : Bytes) : Except Fault Bytes :=
  match skipGap bs with
  | [] => .error .endInObject
  | b :: rest =>
    if b = byte '"' then
      match passString rest with
      | .ok rest => readColon rest
      | .error f => .error f
    else .error .nameNotString

def passScalar (bs : Bytes) : Except Fault Bytes :=
  match bs with
  | [] => .error .endInValue
  | b :: rest =>
    if b = byte 'n' then readWord "ull".toList rest
    else if b = byte 't' then readWord "rue".toList rest
    else if b = byte 'f' then readWord "alse".toList rest
    else if startsNumber b then passNumber bs
    else if b = byte '"' then passString rest
    else .error .expectedValue

/-- Passes on, with the open brackets on a stack; `fuel` bounds the steps and is never used up when it
is three times the number of bytes. -/
def passWith (fuel : Nat) (state : PassState) (stack : List Bracket) (bs : Bytes) :
    Except Fault Bytes :=
  match fuel with
  | 0 => .error .endInValue
  | fuel + 1 =>
    match state with
    | .value =>
      match skipGap bs with
      | [] => .error .endInValue
      | b :: rest =>
        if b = byte '[' then passWith fuel .opened (.list :: stack) rest
        else if b = byte '\x7b' then passWith fuel .opened (.object :: stack) rest
        else
          match passScalar (b :: rest) with
          | .ok rest => passWith fuel .after stack rest
          | .error f => .error f
    | .opened =>
      match stack, skipGap bs with
      | [], rest => .ok rest
      | .list :: outer, bs =>
        match bs with
        | [] => .error .endInList
        | b :: rest =>
          if b = byte ']' then passWith fuel .after outer rest
          else passWith fuel .value stack (b :: rest)
      | .object :: outer, bs =>
        match bs with
        | [] => .error .endInObject
        | b :: rest =>
          if b = byte '\x7d' then passWith fuel .after outer rest
          else
            match passName (b :: rest) with
            | .ok rest => passWith fuel .value stack rest
            | .error f => .error f
    | .after =>
      match stack with
      | [] => .ok bs
      | .list :: outer =>
        match skipGap bs with
        | [] => .error .endInList
        | b :: rest =>
          if b = byte ',' then passWith fuel .value stack rest
          else if b = byte ']' then passWith fuel .after outer rest
          else .error .expectedListEnd
      | .object :: outer =>
        match skipGap bs with
        | [] => .error .endInObject
        | b :: rest =>
          if b = byte ',' then
            match passName rest with
            | .ok rest => passWith fuel .value stack rest
            | .error f => .error f
          else if b = byte '\x7d' then passWith fuel .after outer rest
          else .error .expectedObjectEnd

def passValue (bs : Bytes) : Except Fault Bytes :=
  passWith (3 * bs.length + 3) .value [] bs

end RegistryAuth.Json
