import VerdictClient.Json.Parser
import VerdictClient.Text.Encoding

namespace VerdictClient.Json

namespace Lenient

def nesting : Nat := 990

def limits : Limits := ⟨nesting, nesting - 1⟩

inductive Error where
  | encoding (e : Encoding.DecodeError)
  | json (text : Text) (e : Json.Error)
  deriving DecidableEq

def parse (t : Text) : Except Error Value :=
  match ofTokens limits t.length (tokens t) with
  | .ok v => .ok v
  | .error e => .error (.json t e)

def ofText (t : Text) : Except Error Value :=
  if t.head? = some (.char '\ufeff') then .error (.json t (.at .byteOrderMark 0)) else parse t

def ofBytes (bs : Bytes) : Except Error Value :=
  match Encoding.detectAndDecode bs with
  | .ok t => parse t
  | .error e => .error (.encoding e)

end Lenient

namespace Strict

def limits : Limits := ⟨200, 200⟩

/-- Strings with half of a surrogate pair alone, and numbers with too many digits in front of the
point, are refused wherever they stand. -/
def isRefused (t : Token) : Bool :=
  match t.lexeme with
  | .text s => s.any fun c ↦ !c.isChar
  | .double _ digits => Numeral.digitLimit < digits
  | _ => false

def ofText (t : Text) : Option Value :=
  let ts := tokens t
  if ts.any isRefused then none else (ofTokens limits t.length ts).toOption

def ofBytes (bs : Bytes) : Option Value :=
  match Utf8.decode false bs with
  | .ok t => ofText t
  | .error _ => none

end Strict

def Fault.text : Fault → Text
  | .value => "Expecting value"
  | .key => "Expecting property name enclosed in double quotes"
  | .colon => "Expecting ':' delimiter"
  | .comma => "Expecting ',' delimiter"
  | .extra => "Extra data"
  | .inString .unterminated => "Unterminated string starting at"
  | .inString .control => "Invalid control character at"
  | .inString .badEscape => "Invalid \\escape"
  | .inString .badCodePoint => "Invalid \\uXXXX escape"
  | .byteOrderMark => "Unexpected UTF-8 BOM (decode using utf-8-sig)"

/-- Line and column, both from one, of the place behind `before`. -/
def lineAndColumn (before : Text) : Nat × Nat :=
  (before.count (.char '\n') + 1, (before.reverse.takeWhile (· != .char '\n')).length + 1)

def Container.name : Container → Text
  | .list => "array"
  | .map => "object"

def Error.message (t : Text) : Error → Text
  | .at fault position =>
    let (line, column) := lineAndColumn (t.take position)
    fault.text ++ ": line " ++ Text.ofNat line ++ " column " ++ Text.ofNat column ++
      " (char " ++ Text.ofNat position ++ ")"
  | .oversized digits => Numeral.oversizedText digits
  | .tooDeep c =>
    "maximum recursion depth exceeded while decoding a JSON " ++ c.name ++ " from a unicode string"

def Lenient.Error.message : Lenient.Error → Text
  | .encoding e => e.message
  | .json t e => e.message t

def escape (c : CodePoint) : Text :=
  if c = .char '"' then "\\\""
  else if c = .char '\\' then "\\\\"
  else if c = .char '\x08' then "\\b"
  else if c = .char '\x0c' then "\\f"
  else if c = .char '\n' then "\\n"
  else if c = .char '\r' then "\\r"
  else if c = .char '\t' then "\\t"
  else if c.val < 0x20 then "\\u" ++ Text.hex 4 c.val
  else [c]

def quote (t : Text) : Text := .char '"' :: t.flatMap escape ++ [.char '"']

def writeMember (m : Text × Text) : Text := quote m.1 ++ .char ':' :: m.2

def writeObject (members : List (Text × Text)) : Text :=
  .char '\x7b' :: Text.intercalate [.char ','] (members.map writeMember) ++ [.char '\x7d']

end VerdictClient.Json
