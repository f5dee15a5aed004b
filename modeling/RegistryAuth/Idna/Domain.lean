import RegistryAuth.Idna.LabelTable
import RegistryAuth.Idna.MappingTable
import RegistryAuth.Idna.Normal
import RegistryAuth.Idna.Punycode
import RegistryAuth.Text.Utf8

/-!
# International domain names

The ASCII form of a domain name (UTS 46): its characters are mapped and composed, and each label
beyond ASCII is written in Punycode after `xn--`.  A label that is already in Punycode has to say
exactly what would be written.  Lengths and hyphens are not looked at, and labels may be empty.
-/

namespace RegistryAuth.Idna

open Text (Bytes CodeTable)

def codeMark : List Char := "xn--".toList

/-- Whether an ASCII character may not stand in a domain name: controls, the blank and the delimiters of
addresses. -/
def isForbidden (c : Char) : Bool :=
  c.toNat ≤ 0x20 || c.toNat == 0x7F || "%#/:<>?@[\\]^|".toList.contains c

/-- What a character is mapped to; nothing if no domain name may hold it.  In ASCII all that happens is
that letters become small. -/
def mapChar? (c : Char) : Option (List Char) :=
  if Text.isAscii c then some [Text.lowerAscii c]
  else if ignoredTable.contains c then some []
  else if disallowedTable.contains c then none
  else some ((mappingTable.lookup c).getD [c])

/-- The text of which a name consists: mapped and composed. -/
def mapText? (cs : List Char) : Option (List Char) :=
  (cs.mapM mapChar?).map fun parts => compose parts.flatten

/-! ## Joiners -/

/-- Whether a character joins to the one after it. -/
def joinsNext (c : Char) : Bool :=
  leftJoiningTable.contains c || dualJoiningTable.contains c

/-- Whether a character joins to the one before it. -/
def joinsPrevious (c : Char) : Bool :=
  rightJoiningTable.contains c || dualJoiningTable.contains c

/-- Whether the first character that is not transparent to joining has a property. -/
def firstOpaque (p : Char → Bool) (cs : List Char) : Bool :=
  ((cs.dropWhile joinTransparentTable.contains).head?.map p).getD false

/-- Whether a joiner may stand after `before`, which is in reverse, and before `after`: after a virama,
or, when it keeps letters apart, between letters that would be joined. -/
def joinerAllowed (c : Char) (before after : List Char) : Bool :=
  (before.head?.map (combiningClass · == 9)).getD false ||
    (c.toNat == 0x200C && firstOpaque joinsNext before && firstOpaque joinsPrevious after)

/-- Whether every joiner of a label stands where it may. -/
def joinersAllowed (label : List Char) : Bool :=
  go [] label
where
  go (before : List Char) : List Char → Bool
    | [] => true
    | c :: rest =>
      (!(c.toNat == 0x200C || c.toNat == 0x200D) || joinerAllowed c before rest) &&
        go (c :: before) rest

/-- Whether a label begins with no mark and has its joiners in place. -/
def isWellFormed (label : List Char) : Bool :=
  !(label.head?.map markTable.contains).getD false && joinersAllowed label

/-! ## Writing direction -/

/-- The bidirectional classes that a name may hold. -/
inductive Direction where
  | left
  | right
  | arabicLetter
  | arabicNumber
  | europeanNumber
  | separator
  | terminator
  | neutral
  | mark
  deriving DecidableEq, Repr

def direction (c : Char) : Direction :=
  if rightToLeftTable.contains c then .right
  else if arabicLetterTable.contains c then .arabicLetter
  else if arabicNumberTable.contains c then .arabicNumber
  else if europeanNumberTable.contains c then .europeanNumber
  else if europeanSeparatorTable.contains c || commonSeparatorTable.contains c then .separator
  else if europeanTerminatorTable.contains c then .terminator
  else if otherNeutralTable.contains c || boundaryNeutralTable.contains c then .neutral
  else if nonspacingMarkTable.contains c then .mark
  else .left

/-- Whether a character makes the name that holds it one of both directions. -/
def isRightward (c : Char) : Bool :=
  0x590 ≤ c.toNat &&
    (match direction c with
    | .right | .arabicLetter | .arabicNumber => true
    | _ => false)

/-- Whether a class may stand within a label that runs from the left. -/
def allowedFromLeft : Direction → Bool
  | .right | .arabicLetter | .arabicNumber => false
  | _ => true

/-- Whether a class may end a label, marks apart. -/
def allowedLast (fromLeft : Bool) : Direction → Bool
  | .left => fromLeft
  | .europeanNumber => true
  | .right | .arabicLetter | .arabicNumber => !fromLeft
  | _ => false

/-- Whether a label keeps to one direction (RFC 5893, section 2). -/
def keepsDirection (label : List Char) : Bool :=
  match label.map direction with
  | [] => true
  | first :: rest =>
    -- Marks at the end go with the character before them.
    let body := (rest.reverse.dropWhile (· = .mark)).reverse
    let last := (body.getLast?).getD first
    match first with
    | .left => body.all allowedFromLeft && (body.isEmpty || allowedLast true last)
    | .right | .arabicLetter =>
      body.all (· ≠ .left) && (body.isEmpty || allowedLast false last) &&
        !(body.contains .europeanNumber && body.contains .arabicNumber)
    | _ => false

/-! ## Labels -/

/-- A label of a name: its text, and the code it was given in, if any. -/
structure Label where
  text : List Char
  code : Option (List Char)

def Label.ofMapped? (cs : List Char) : Option Label :=
  if codeMark.isPrefixOf cs then
    if cs.all Text.isAscii ∧ cs.getLast? ≠ some '-' then
      match Punycode.decode? (cs.drop codeMark.length) with
      | some text =>
        -- Each name has one code only: what it stands for must need one and be mapped to itself.
        if text.any (!Text.isAscii ·) ∧ mapText? text = some text ∧ isWellFormed text then
          some ⟨text, some cs⟩
        else none
      | none => none
    else none
  else if cs.all Text.isAscii ∨ isWellFormed cs then some ⟨cs, none⟩
  else none

def Label.toAscii? (label : Label) : Option (List Char) :=
  match label.code with
  | some code => some code
  | none =>
    if label.text.all Text.isAscii then some label.text
    else (Punycode.encode? label.text).map (codeMark ++ ·)

def toAscii? (bs : Bytes) : Option (List Char) := do
  let mapped ← mapText? (Text.Utf8.decodeLossy bs)
  if mapped.any isForbidden then none
  else
    let labels ← (Text.splitAt '.' mapped).mapM Label.ofMapped?
    -- The rule on directions binds every label as soon as one of them holds a letter from the right.
    if labels.any (·.text.any isRightward) && !labels.all (keepsDirection ·.text) then none
    else
      let parts ← labels.mapM Label.toAscii?
      return ['.'].intercalate parts

end RegistryAuth.Idna
