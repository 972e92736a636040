import VerdictClient.Text.Class
import VerdictClient.Timestamp
import VerdictClient.Yaml.Token

namespace VerdictClient.Yaml

inductive Tag where
  | null
  | bool
  | int
  | float
  | binary
  | timestamp
  | omap
  | pairs
  | set
  | str
  | seq
  | map
  | merge
  | value
  | other (name : Text)
  deriving DecidableEq, Repr

namespace Tag

def namespace_ : Text := "tag:yaml.org,2002:"

def name : Tag → Text
  | null => namespace_ ++ "null"
  | bool => namespace_ ++ "bool"
  | int => namespace_ ++ "int"
  | float => namespace_ ++ "float"
  | binary => namespace_ ++ "binary"
  | timestamp => namespace_ ++ "timestamp"
  | omap => namespace_ ++ "omap"
  | pairs => namespace_ ++ "pairs"
  | set => namespace_ ++ "set"
  | str => namespace_ ++ "str"
  | seq => namespace_ ++ "seq"
  | map => namespace_ ++ "map"
  | merge => namespace_ ++ "merge"
  | value => namespace_ ++ "value"
  | other t => t

def known : List Tag :=
  [null, bool, int, float, binary, timestamp, omap, pairs, set, str, seq, map, merge, value]

def ofName (t : Text) : Tag := (known.find? (·.name = t)).getD (other t)

end Tag

namespace Form

def digit (lo hi : Char) (c : CodePoint) : Bool := lo.toNat ≤ c.val && c.val ≤ hi.toNat

def decimal : CodePoint → Bool := digit '0' '9'

def orUnderscore (p : CodePoint → Bool) (c : CodePoint) : Bool := p c || c = .char '_'

def isSign (c : CodePoint) : Bool := c = .char '+' || c = .char '-'

def unsigned : Text → Text
  | c :: r => if isSign c then r else c :: r
  | [] => []

def pieces : Text → List Text
  | [] => [[]]
  | c :: r =>
    match pieces r with
    | [] => [[c]]
    | p :: ps => if c = .char ':' then [] :: p :: ps else (c :: p) :: ps

def isSixty : Text → Bool
  | [d] => decimal d
  | [t, d] => digit '0' '5' t && decimal d
  | _ => false

def isRun (first : CodePoint → Bool) : Text → Bool
  | c :: r => first c && r.all (orUnderscore decimal)
  | [] => false

def isDigits (p : CodePoint → Bool) (t : Text) : Bool := !t.isEmpty && t.all (orUnderscore p)

def isHex (c : CodePoint) : Bool := c.hexDigit?.isSome

/-- Numbers in base sixty: a number, and numbers below sixty behind colons. -/
def isSexagesimal (t : Text) : Bool :=
  match pieces t with
  | first :: rest => isRun (digit '1' '9') first && !rest.isEmpty && rest.all isSixty
  | [] => false

def isInt (t : Text) : Bool :=
  match unsigned t with
  | [.char '0'] => true
  | .char '0' :: .char 'b' :: r => isDigits (digit '0' '1') r
  | .char '0' :: .char 'x' :: r => isDigits isHex r
  | .char '0' :: r => isDigits (digit '0' '7') r
  | t => isRun (digit '1' '9') t || isSexagesimal t

def isFraction (t : Text) : Bool :=
  match t.dropWhile (orUnderscore decimal) with
  | [] => true
  | e :: s :: r => (e = .char 'e' || e = .char 'E') && isSign s && !r.isEmpty && r.all decimal
  | _ => false

def aroundPoint? (t : Text) : Option (Text × Text) :=
  match t.span (· != .char '.') with
  | (_, []) => none
  | (before, _ :: after) => some (before, after)

def isSixtyFloat (before after : Text) : Bool :=
  match pieces before with
  | first :: rest =>
    isRun decimal first && !rest.isEmpty && rest.all isSixty && after.all (orUnderscore decimal)
  | [] => false

def infinities : List Text := [".inf", ".Inf", ".INF"]

def nans : List Text := [".nan", ".NaN", ".NAN"]

def isFloat (t : Text) : Bool :=
  infinities.contains (unsigned t) || nans.contains t ||
    match aroundPoint? t with
    | some ([], c :: r) => decimal c && isFraction (c :: r)
    | some (before, after) =>
      (isRun decimal (unsigned before) && isFraction after) || isSixtyFloat (unsigned before) after
    | none => false

def truths : List Text := ["yes", "Yes", "YES", "true", "True", "TRUE", "on", "On", "ON"]

def falsehoods : List Text := ["no", "No", "NO", "false", "False", "FALSE", "off", "Off", "OFF"]

def nulls : List Text := ["~", "null", "Null", "NULL"]

def marks : List Text := ["!", "&", "*"]

def number? (least most : Nat) (t : Text) : Option (Nat × Text) :=
  let ds := (t.take most).takeWhile decimal
  if ds.length < least then none
  else some (ds.foldl (fun n d ↦ n * 10 + (d.val - '0'.toNat)) 0, t.drop ds.length)

def after? (c : Char) : Text → Option Text
  | d :: r => if d = .char c then some r else none
  | [] => none

def micros (ds : Text) : Nat :=
  let ds := ds.take 6
  ds.foldl (fun n d ↦ n * 10 + (d.val - '0'.toNat)) 0 * Nat.pow 10 (6 - ds.length)

def isInset (c : CodePoint) : Bool := c = .char ' ' || c = .char '\t'

def dropLineFeed (t : Text) : Text := if t.getLast? = some (.char '\n') then t.dropLast else t

/-- Where the clock stands: nothing, Greenwich, or an offset in hours and perhaps minutes. -/
def zone? (t : Text) : Option (Option Int) :=
  match t with
  | [] => some none
  | _ =>
    match t.dropWhile isInset with
    | [.char 'Z'] => some (some 0)
    | s :: r =>
      if isSign s then do
        let (hours, r) ← number? 1 2 r
        let minutes ← match r with
          | [] => some 0
          | _ => do
            let (n, r) ← number? 2 2 (← after? ':' r)
            if r.isEmpty then some n else none
        let total : Int := hours * 60 + minutes
        some (some (if s = .char '-' then -total else total))
      else none
    | [] => none

def timeOfDay? (t : Text) : Option TimeOfDay := do
  let (hour, t) ← number? 1 2 t
  let (minute, t) ← number? 2 2 (← after? ':' t)
  let (second, t) ← number? 2 2 (← after? ':' t)
  let (fraction, t) : Text × Text := match t with
    | .char '.' :: r => (r.takeWhile decimal, r.dropWhile decimal)
    | t => ([], t)
  let offset ← zone? t
  return ⟨hour, minute, second, micros fraction, offset⟩

def afterDate? : Text → Option Text
  | c :: r =>
    if c = .char 'T' || c = .char 't' then some r
    else if isInset c then some (r.dropWhile isInset)
    else none
  | [] => none

def timestamp? (t : Text) : Option Timestamp := do
  let (year, t) ← number? 4 4 t
  let (month, t) ← number? 1 2 (← after? '-' t)
  let (day, t) ← number? 1 2 (← after? '-' t)
  let date : Date := ⟨year, month, day⟩
  if t.isEmpty then return ⟨date, none⟩
  return ⟨date, some (← timeOfDay? (← afterDate? t))⟩

/-- A date alone has two digits for month and day. -/
def isTimestamp (t : Text) : Bool :=
  match timestamp? t with
  | some s => s.time.isSome || t.length = 10
  | none => false

end Form

def Tag.ofForm (t : Text) : Tag :=
  if Form.truths.contains t || Form.falsehoods.contains t then .bool
  else if Form.isFloat t then .float
  else if Form.isInt t then .int
  else if t = "<<" then .merge
  else if Form.nulls.contains t then .null
  else if Form.isTimestamp t then .timestamp
  else if t = "=" then .value
  else if Form.marks.contains t then .other (namespace_ ++ "yaml")
  else .str

/-- The tag of a scalar that is told by its form, which one line feed may follow. -/
def Tag.ofPlain (t : Text) : Tag :=
  if t.isEmpty then .null
  else if (Form.dropLineFeed t).isEmpty then .str
  else .ofForm (Form.dropLineFeed t)

end VerdictClient.Yaml
