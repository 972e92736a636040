import VerdictClient.Yaml.Event
import VerdictClient.Yaml.Scalar

namespace VerdictClient.Yaml

inductive Content where
  | scalar (t : Text)
  | sequence (items : List Nat)
  | mapping (entries : List (Nat × Nat))
  deriving DecidableEq, Repr

structure Node where
  tag : Tag
  content : Content
  deriving DecidableEq, Repr

abbrev Graph := Array Node

namespace Graph

structure Frame where
  node : Nat
  isMapping : Bool
  members : List Nat

def pairs : List Nat → List (Nat × Nat)
  | k :: v :: ns => (k, v) :: pairs ns
  | _ => []

def Frame.content (f : Frame) : Content :=
  if f.isMapping then .mapping (pairs f.members.reverse) else .sequence f.members.reverse

structure Builder where
  graph : Graph
  anchors : List (Text × Nat)
  frames : List Frame
  root : Option Nat

namespace Builder

def start : Builder := ⟨#[], [], [], none⟩

def place (b : Builder) (node : Nat) : Builder :=
  match b.frames with
  | [] => { b with root := some node }
  | f :: fs => { b with frames := { f with members := node :: f.members } :: fs }

def openTag : Text := "!"

def chosenTag (given : Option Text) (usual : Tag) : Tag :=
  match given with
  | none => usual
  | some t => if t = openTag then usual else .ofName t

/-- The tag of a scalar: one that is quoted is a text, if nothing else is said. -/
def scalarTag (given : Option Text) (plain : Bool) (t : Text) : Tag :=
  chosenTag given (if plain || given.isSome then .ofPlain t else .str)

def add (b : Builder) (anchor : Option Text) (n : Node) : Except Fault Builder :=
  let b' := { b with graph := b.graph.push n }
  match anchor with
  | none => .ok b'
  | some a =>
    if (b.anchors.lookup a).isSome then .error .malformed
    else .ok { b' with anchors := (a, b.graph.size) :: b.anchors }

def nesting : Nat := 480

def enter (b : Builder) (p : Properties) (isMapping : Bool) : Except Fault Builder := do
  let n : Node :=
    if isMapping then ⟨chosenTag p.tag .map, .mapping []⟩ else ⟨chosenTag p.tag .seq, .sequence []⟩
  let b' ← b.add p.anchor n
  if nesting < b.frames.length then throw .tooDeep
  return { b' with frames := ⟨b.graph.size, isMapping, []⟩ :: b.frames }

def leave (b : Builder) : Builder :=
  match b.frames with
  | [] => b
  | f :: fs =>
    let graph := b.graph.modify f.node fun n ↦ { n with content := f.content }
    { b with graph := graph, frames := fs }.place f.node

/-- Goes on by an event. There is one document at most, anchors are declared once, and aliases name
anchors that came before. -/
def step (b : Builder) : Event → Except Fault Builder
  | .documentStart => if b.root.isSome then .error .malformed else .ok b
  | .documentEnd => .ok b
  | .alias a =>
    match b.anchors.lookup a with
    | some n => .ok (b.place n)
    | none => .error .malformed
  | .scalar p t plain =>
    (b.add p.anchor ⟨scalarTag p.tag plain t, .scalar t⟩).map (·.place b.graph.size)
  | .sequenceStart p => b.enter p false
  | .mappingStart p => b.enter p true
  | .sequenceEnd | .mappingEnd => .ok b.leave

end Builder

def ofText (cs : List Char) : Except Fault (Option (Graph × Nat)) :=
  let (events, fault) := Event.ofText cs
  match events.foldlM Builder.step .start, fault with
  | .error f, _ | .ok _, some f => .error f
  | .ok b, none => .ok (b.root.map (b.graph, ·))

def tag (g : Graph) (n : Nat) : Option Tag := g[n]?.map (·.tag)

def content (g : Graph) (n : Nat) : Option Content := g[n]?.map (·.content)

def entries (g : Graph) (n : Nat) : List (Nat × Nat) :=
  match g.content n with
  | some (.mapping es) => es
  | _ => []

end Graph

end VerdictClient.Yaml
