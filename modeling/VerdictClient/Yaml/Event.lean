import VerdictClient.Yaml.Token.Scan

namespace VerdictClient.Yaml

structure Properties where
  anchor : Option Text
  tag : Option Text
  deriving DecidableEq, Repr

inductive Event where
  | documentStart
  | documentEnd
  | alias (name : Text)
  | scalar (p : Properties) (t : Text) (plain : Bool)
  | sequenceStart (p : Properties)
  | sequenceEnd
  | mappingStart (p : Properties)
  | mappingEnd
  deriving DecidableEq, Repr

namespace Event

def noProperties : Properties := ⟨none, none⟩

def empty : Event := scalar noProperties [] true

structure Progress where
  tokens : List Token
  fault : Option Fault
  handles : List (Text × Text)
  events : Array Event

/-- A step on the tokens. The events made before something wrong are kept. -/
abbrev Reader := ExceptT Fault (StateM Progress)

namespace Reader

def refuse {α : Type} : Reader α := throw .malformed

def peek : Reader (Option Token) := do
  let p ← get
  match p.tokens, p.fault with
  | [], some f => throw f
  | ts, _ => return ts.head?

def skip : Reader Unit := modify fun p ↦ { p with tokens := p.tokens.tail }

def emit (e : Event) : Reader Unit := modify fun p ↦ { p with events := p.events.push e }

def takes (t : Token) : Reader Bool := do
  if (← peek) = some t then
    skip
    return true
  return false

def isNext (ts : List Token) : Reader Bool := do
  match ← peek with
  | some t => return ts.contains t
  | none => return false

def expect (t : Token) : Reader Unit := do
  if !(← takes t) then refuse

end Reader

open Reader

def anchor? : Reader (Option Text) := do
  match ← peek with
  | some (.anchor a) =>
    skip
    return some a
  | _ => return none

def tag? : Reader (Option TagName) := do
  match ← peek with
  | some (.tag t) =>
    skip
    return some t
  | _ => return none

def resolve : TagName → Reader Text
  | ⟨none, suffix⟩ => return suffix
  | ⟨some handle, suffix⟩ => do
    match (← get).handles.lookup handle with
    | some target => return target ++ suffix
    | none => refuse

def properties : Reader Properties := do
  match ← anchor? with
  | some a => return ⟨some a, ← (← tag?).mapM resolve⟩
  | none =>
    match ← tag? with
    | some t =>
      let a ← anchor?
      return ⟨a, some (← resolve t)⟩
    | none => return noProperties

/-- Where a node stands; in a block mapping a sequence need not be indented. -/
inductive Place where
  | flow
  | block
  | entry
  deriving DecidableEq

def bare (p : Properties) : Reader Unit :=
  if p = noProperties then refuse else emit (.scalar p [] true)

mutual

/-- The node that begins here. The number bounds the depth of the recursion. -/
def node : Nat → Place → Reader Unit
  | 0, _ => refuse
  | n + 1, place => do
    match ← peek with
    | some (.alias a) =>
      skip
      emit (.alias a)
    | _ => content n place (← properties)

def content : Nat → Place → Properties → Reader Unit
  | 0, _, _ => refuse
  | n + 1, place, p => do
    match ← peek with
    | some .item =>
      if place = .entry then
        emit (.sequenceStart p)
        looseItems n
      else bare p
    | some (.scalar t plain) =>
      skip
      emit (.scalar p t plain)
    | some .flowSequenceStart =>
      emit (.sequenceStart p)
      skip
      flowItems n true
    | some .flowMappingStart =>
      emit (.mappingStart p)
      skip
      flowEntries n true
    | some .sequenceStart =>
      if place = .flow then bare p
      else
        emit (.sequenceStart p)
        skip
        items n
    | some .mappingStart =>
      if place = .flow then bare p
      else
        emit (.mappingStart p)
        skip
        entries n
    | _ => bare p

def nodeUnless : Nat → List Token → Place → Reader Unit
  | 0, _, _ => refuse
  | n + 1, ts, place => do if ← isNext ts then emit .empty else node n place

def valueUnless : Nat → List Token → Place → Reader Unit
  | 0, _, _ => refuse
  | n + 1, ts, place => do if ← takes .value then nodeUnless n ts place else emit .empty

def items : Nat → Reader Unit
  | 0 => refuse
  | n + 1 => do
    if ← takes .item then
      nodeUnless n [.item, .blockEnd] .block
      items n
    else
      expect .blockEnd
      emit .sequenceEnd

def looseItems : Nat → Reader Unit
  | 0 => refuse
  | n + 1 => do
    if ← takes .item then
      nodeUnless n [.item, .key, .value, .blockEnd] .block
      looseItems n
    else emit .sequenceEnd

def entries : Nat → Reader Unit
  | 0 => refuse
  | n + 1 => do
    if ← takes .key then
      nodeUnless n [.key, .value, .blockEnd] .entry
      valueUnless n [.key, .value, .blockEnd] .entry
      entries n
    else
      expect .blockEnd
      emit .mappingEnd

def flowItems : Nat → (first : Bool) → Reader Unit
  | 0, _ => refuse
  | n + 1, first => do
    if ← takes .flowSequenceEnd then emit .sequenceEnd
    else
      if !first then expect .comma
      if ← isNext [.key] then
        emit (.mappingStart noProperties)
        skip
        nodeUnless n [.value, .comma, .flowSequenceEnd] .flow
        valueUnless n [.comma, .flowSequenceEnd] .flow
        discard peek
        emit .mappingEnd
        flowItems n false
      else if ← takes .flowSequenceEnd then emit .sequenceEnd
      else
        node n .flow
        flowItems n false

def flowEntries : Nat → (first : Bool) → Reader Unit
  | 0, _ => refuse
  | n + 1, first => do
    if ← takes .flowMappingEnd then emit .mappingEnd
    else
      if !first then expect .comma
      if ← takes .key then
        nodeUnless n [.value, .comma, .flowMappingEnd] .flow
        valueUnless n [.comma, .flowMappingEnd] .flow
        flowEntries n false
      else if ← takes .flowMappingEnd then emit .mappingEnd
      else
        node n .flow
        discard peek
        emit .empty
        flowEntries n false

end

def usualHandles : List (Text × Text) := [("!", "!"), ("!!", "tag:yaml.org,2002:")]

/-- The directives before a document; each handle is declared once, and the version once. -/
def directives : Nat → (versioned : Bool) → List (Text × Text) → Reader (List (Text × Text))
  | 0, _, _ => refuse
  | n + 1, versioned, handles => do
    match ← peek with
    | some (.directive d) =>
      skip
      match d with
      | .version major _ =>
        if versioned || major ≠ 1 then refuse
        directives n true handles
      | .tag handle target =>
        if (handles.lookup handle).isSome then refuse
        directives n versioned (handles ++ [(handle, target)])
      | .other => directives n versioned handles
    | _ => return handles

def depth : Reader Nat := return 4 * (← get).tokens.length + 8

def skipMarks : Nat → Reader Unit
  | 0 => return
  | n + 1 => do
    if ← takes .documentEnd then skipMarks n

def endDocument : Reader Unit := do
  discard peek
  emit .documentEnd

def explicitDocuments : Nat → Reader Unit
  | 0 => refuse
  | n + 1 => do
    skipMarks (← depth)
    if (← peek).isSome then
      let declared ← directives (← depth) false []
      expect .documentStart
      modify fun p ↦ { p with handles := declared ++ usualHandles }
      emit .documentStart
      match ← peek with
      | none | some (.directive _) | some .documentStart | some .documentEnd => emit .empty
      | _ => node (← depth) .block
      endDocument
      explicitDocuments n

def isImplicit : Option Token → Bool
  | none | some (.directive _) | some .documentStart => false
  | _ => true

def documents : Reader Unit := do
  if isImplicit (← peek) then
    emit .documentStart
    node (← depth) .block
    endDocument
  explicitDocuments (← depth)

def ofText (cs : List Char) : List Event × Option Fault :=
  let (tokens, fault) := tokens cs
  match documents.run.run ⟨tokens, fault, usualHandles, #[]⟩ with
  | (.ok (), p) => (p.events.toList, none)
  | (.error f, p) => (p.events.toList, some f)

end Event

end VerdictClient.Yaml
