import VerdictClient.Json.Token

namespace VerdictClient.Json

inductive Fault where
  | value
  | key
  | colon
  | comma
  | extra
  | inString (fault : StringFault)
  | byteOrderMark
  deriving DecidableEq, Repr

inductive Error where
  | at (fault : Fault) (position : Nat)
  | oversized (digits : Nat)
  | tooDeep (opened : Container)
  deriving DecidableEq, Repr

/-- How many containers may stand around a scalar, and around a container. -/
structure Limits where
  aroundScalar : Nat
  aroundContainer : Nat

inductive Frame where
  | item (items : List Value)
  | member (members : List (Text × Value)) (key : Text)

inductive Expected where
  | value
  | firstItem
  | afterItem (items : List Value)
  | firstKey
  | nextKey (members : List (Text × Value))
  | colon (members : List (Text × Value)) (key : Text)
  | afterMember (members : List (Text × Value))
  | nothing (result : Value)

structure Machine where
  around : List Frame
  expected : Expected

def Machine.start : Machine := ⟨[], .value⟩

/-- Gives `key` the value `v`: where the key stands already, or else at the end. -/
def upsert (key : Text) (v : Value) : List (Text × Value) → List (Text × Value)
  | [] => [(key, v)]
  | (k, w) :: ms => if k = key then (k, v) :: ms else (k, w) :: upsert key v ms

/-- A value is complete: it goes into the container around it. -/
def deliver (v : Value) : List Frame → Machine
  | [] => ⟨[], .nothing v⟩
  | .item items :: around => ⟨around, .afterItem (v :: items)⟩
  | .member members key :: around => ⟨around, .afterMember (upsert key v members)⟩

def scalar (limits : Limits) (around : List Frame) (v : Value) : Except Error Machine :=
  if limits.aroundScalar < around.length then .error (.tooDeep .list) else .ok (deliver v around)

def takeValue (limits : Limits) (around : List Frame) (t : Token) : Except Error Machine :=
  match t.lexeme with
  | .text s => scalar limits around (.text s)
  | .scalar v => scalar limits around v
  | .double x _ => scalar limits around (.float x)
  | .opening c =>
    if limits.aroundContainer < around.length then .error (.tooDeep c)
    else match c with
      | .list => .ok ⟨around, .firstItem⟩
      | .map => .ok ⟨around, .firstKey⟩
  | .oversized digits => .error (.oversized digits)
  | .broken fault position => .error (.at (.inString fault) position)
  | _ => .error (.at .value t.position)

def takeKey (around : List Frame) (members : List (Text × Value)) (t : Token) :
    Except Error Machine :=
  match t.lexeme with
  | .text key => .ok ⟨around, .colon members key⟩
  | .broken fault position => .error (.at (.inString fault) position)
  | _ => .error (.at .key t.position)

def Machine.step (limits : Limits) (m : Machine) (t : Token) : Except Error Machine :=
  match m.expected, t.lexeme with
  | .value, _ => takeValue limits m.around t
  | .firstItem, .closing .list => .ok (deliver (.list []) m.around)
  | .firstItem, _ => takeValue limits (.item [] :: m.around) t
  | .afterItem items, .closing .list => .ok (deliver (.list items.reverse) m.around)
  | .afterItem items, .comma => .ok ⟨.item items :: m.around, .value⟩
  | .afterItem _, _ => .error (.at .comma t.position)
  | .firstKey, .closing .map => .ok (deliver (.object []) m.around)
  | .firstKey, _ => takeKey m.around [] t
  | .nextKey members, _ => takeKey m.around members t
  | .colon members key, .colon => .ok ⟨.member members key :: m.around, .value⟩
  | .colon _ _, _ => .error (.at .colon t.position)
  | .afterMember members, .closing .map => .ok (deliver (.object members) m.around)
  | .afterMember members, .comma => .ok ⟨m.around, .nextKey members⟩
  | .afterMember _, _ => .error (.at .comma t.position)
  | .nothing _, _ => .error (.at .extra t.position)

def Machine.finish (position : Nat) (m : Machine) : Except Error Value :=
  match m.expected with
  | .nothing v => .ok v
  | .value | .firstItem => .error (.at .value position)
  | .firstKey | .nextKey _ => .error (.at .key position)
  | .colon _ _ => .error (.at .colon position)
  | .afterItem _ | .afterMember _ => .error (.at .comma position)

def ofTokens (limits : Limits) (n : Nat) (ts : List Token) : Except Error Value := do
  (← ts.foldlM (Machine.step limits) .start).finish n

end VerdictClient.Json
