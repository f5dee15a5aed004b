import RegistryAuth.Text.Blank
import RegistryAuth.Url.Host

/-!
# Reading addresses

`Url.parse` reads a text that stands by itself, with no address to complete it.  Surrounding controls
and blanks and all tabs and line ends are dropped, then the text is cut at its first delimiters:
scheme, authority, path, query and fragment.
-/

namespace RegistryAuth.Url

/-! ## Cutting -/

def isSchemeChar (c : Char) : Bool :=
  Text.isLetter c || Text.isDigit c || c == '+' || c == '-' || c == '.'

/-- The text that is read: without surrounding controls and blanks, tabs and line ends. -/
def cleaned (cs : List Char) : List Char :=
  (Text.trimWhile (·.toNat ≤ 0x20) cs).filter fun c => c != '\t' && c != '\n' && c != '\r'

/-- The scheme in small letters, and what follows its colon. -/
def splitScheme? (cs : List Char) : Option (List Char × List Char) :=
  match cs.head?, cs.dropWhile isSchemeChar with
  | some c, ':' :: rest =>
    if Text.isLetter c then some ((cs.takeWhile isSchemeChar).map Text.lowerAscii, rest) else none
  | _, _ => none

def isSeparator (special : Bool) (c : Char) : Bool :=
  c == '/' || (special && c == '\\')

def endsPath (c : Char) : Bool :=
  c == '?' || c == '#'

def endsAuthority (special : Bool) (c : Char) : Bool :=
  isSeparator special c || endsPath c

/-- The text before the first character of a class, and the text from there on. -/
def cut (p : Char → Bool) (cs : List Char) : List Char × List Char :=
  (cs.takeWhile (!p ·), cs.dropWhile (!p ·))

/-! ## Authority -/

/-- The part of a host and port that is the host: it ends at a colon outside brackets. -/
def hostPart (cs : List Char) : List Char :=
  go false cs
where
  go (bracketed : Bool) : List Char → List Char
    | [] => []
    | c :: rest =>
      if c = ':' ∧ !bracketed then []
      else c :: go (if c = '[' then true else if c = ']' then false else bracketed) rest

def parsePort (cs : List Char) : Except Fault (Option Nat) :=
  -- Held at the first number that is too great, so that long texts stay cheap.
  let value := cs.foldl (fun n c => min 65536 (n * 10 + (c.toNat - 0x30))) 0
  if !cs.all Text.isDigit ∨ 65535 < value then .error .invalidPort
  else if cs = [] then .ok none
  else .ok (some value)

/-- The user name and password before an `@`. -/
def splitUser (cs : List Char) : List Char × Option (List Char) :=
  let (name, rest) := cut (· == ':') cs
  let password := rest.drop 1
  (percentEncode inUserSet name,
    if password = [] then none else some (percentEncode inUserSet password))

/-- The text before the last `@`, if there is one, and the text after it. -/
def splitAtLastAt (cs : List Char) : Option (List Char) × List Char :=
  match cs.reverse.dropWhile (· != '@') with
  | _ :: user => (some user.reverse, (cs.reverse.takeWhile (· != '@')).reverse)
  | [] => (none, cs)

/-- Reads an authority, of a scheme that is not `file`; `ended` tells whether more of the address
follows it.  A backslash ends a port, and what it begins is left. -/
def parseAuthority (scheme : List Char) (special ended : Bool) (cs : List Char) :
    Except Fault (Authority × List Char) :=
  let (user, place) := splitAtLastAt cs
  if user = some [] ∧ place = [] ∧ ended then .error .emptyHost
  else
    let (username, password) := splitUser (user.getD [])
    let hostText := hostPart place
    let afterHost := place.drop hostText.length
    match if special then
        (if hostText = [] then .error .emptyHost else Host.parse hostText)
      else Host.parseOpaque hostText with
    | .error f => .error f
    | .ok host =>
      -- An empty host stands alone: with no port after it and, further down, no user before it.
      if host = .domain [] ∧ afterHost ≠ [] then .error .emptyHost
      else
        let (portText, left) := cut (· == '\\') (afterHost.drop 1)
        match parsePort portText with
        | .error f => .error f
        | .ok port =>
          if host = .domain [] ∧ (username ≠ [] ∨ password ≠ none) then .error .emptyHost
          else
            let port := if port = defaultPort? scheme then none else port
            .ok (⟨username, password, host, port⟩, left)

/-! ## Path -/

/-- Whether a segment stands for the path itself. -/
def isSingleDot (s : List Char) : Bool :=
  [".", "%2e"].contains (String.ofList (s.map Text.lowerAscii))

/-- Whether a segment stands for the path above. -/
def isDoubleDot (s : List Char) : Bool :=
  ["..", ".%2e", "%2e.", "%2e%2e"].contains (String.ofList (s.map Text.lowerAscii))

/-- Whether a segment names a drive: a letter and a colon or bar. -/
def isDriveLetter : List Char → Bool
  | [c, d] => Text.isLetter c && (d == ':' || d == '|')
  | _ => false

/-- Takes the last segment off, the path being held in reverse; a drive stays. -/
def dropSegment : List (List Char) → List (List Char)
  | [] => []
  | s :: rest => if isDriveLetter s then s :: rest else rest

/-- Adds the segments of a text, already encoded, to a path held in reverse. -/
def addSegments (file : Bool) (path : List (List Char)) : List (List Char) → List (List Char)
  | [] => path
  | s :: rest =>
    -- A dotted segment at the end leaves the path open: its last segment is empty.
    if isDoubleDot s then
      let path := dropSegment path
      addSegments file (if rest.isEmpty then [] :: path else path) rest
    else if isSingleDot s then addSegments file (if rest.isEmpty then [] :: path else path) rest
    else if file && path.isEmpty && isDriveLetter s then
      addSegments file ([s.headD ' ', ':'] :: path) rest
    else addSegments file (s :: path) rest

/-- The segments of a text, at separators. -/
def splitSegments (special : Bool) (cs : List Char) : List (List Char) :=
  Text.splitAt '/' (if special then cs.map fun c => if c = '\\' then '/' else c else cs)

/-- The path of a text that follows its first slash. -/
def readSegments (kind : SchemeKind) (cs : List Char) : List (List Char) :=
  let parts := (splitSegments kind.isSpecial cs).map (percentEncode inPathSet)
  (addSegments (kind == .file) [] parts).reverse

def parsePath (kind : SchemeKind) (cs : List Char) : List (List Char) :=
  match cs with
  | [] => if kind.isSpecial then [[]] else []
  | c :: rest => readSegments kind (if isSeparator kind.isSpecial c then rest else c :: rest)

/-! ## Query and fragment -/

/-- Puts an address together from what stands before its query and the text from there on. -/
def withBack (special : Bool) (scheme : List Char) (authority : Option Authority) (path : Path)
    (cs : List Char) : Url :=
  let (front, fragment) := cut (· == '#') cs
  { scheme, authority, path
    query := match front with
      | [] => none
      | _ :: query => some (percentEncode (inQuerySet special) query)
    fragment := match fragment with
      | [] => none
      | _ :: fragment => some (percentEncode inFragmentSet fragment) }

/-! ## Addresses of files -/

/-- The path of a file without its empty segments at the front. -/
def filePath (parts : List (List Char)) : List (List Char) :=
  match parts.dropWhile (·.isEmpty) with
  | [] => [[]]
  | parts => parts

def fileUrl (host : Host) (path : List (List Char)) (cs : List Char) : Url :=
  withBack true "file".toList (some ⟨[], none, host, none⟩) (.segments (filePath path)) cs

/-- Reads an address of a file after its scheme.  A drive in the place of the host is the first segment,
and a drive that begins the path takes the place of the host. -/
def parseFile (cs : List Char) : Except Fault Url :=
  let slashes := (cs.take 2).takeWhile (isSeparator true)
  if slashes.length = 2 then
    let (hostText, _) := cut (endsAuthority true) (cs.drop 2)
    let hostText := if isDriveLetter hostText then [] else hostText
    match if hostText = [] then .ok (.domain []) else Host.parse hostText with
    | .error f => .error f
    | .ok host =>
      let (pathText, back) := cut endsPath (cs.drop (2 + hostText.length))
      -- The machine itself needs no name.
      let host := if host = .domain "localhost".toList then .domain [] else host
      let path := parsePath .file pathText
      .ok (fileUrl (if isDriveLetter (path.headD []) then .domain [] else host) path back)
  else
    let (pathText, back) := cut endsPath cs
    .ok (fileUrl (.domain []) (parsePath .file pathText) back)

/-! ## Addresses -/

/-- Reads an address after the two slashes of its authority. -/
def parseAfterSlashes (scheme : List Char) (kind : SchemeKind) (cs : List Char) : Except Fault Url :=
  let special := kind.isSpecial
  let (authorityText, rest) := cut (endsAuthority special) cs
  match parseAuthority scheme special (!rest.isEmpty) authorityText with
  | .error f => .error f
  | .ok (authority, left) =>
    let (pathText, back) := cut endsPath (left ++ rest)
    .ok (withBack special scheme (some authority) (.segments (parsePath kind pathText)) back)

def parsePlain (scheme : List Char) (cs : List Char) : Url :=
  let (pathText, back) := cut endsPath cs
  match pathText with
  | '/' :: rest => withBack false scheme none (.segments (readSegments .other rest)) back
  | _ => withBack false scheme none (.opaqueText (percentEncode inControlSet pathText)) back

def parse (s : String) : Except Fault Url :=
  match splitScheme? (cleaned s.toList) with
  | none => .error .noScheme
  | some (scheme, rest) =>
    match schemeKind scheme with
    | .file => parseFile rest
    | .special => parseAfterSlashes scheme .special (rest.dropWhile (isSeparator true))
    | .other =>
      match rest with
      | '/' :: '/' :: rest => parseAfterSlashes scheme .other rest
      | _ => .ok (parsePlain scheme rest)

end RegistryAuth.Url
