import VerdictClient.Yaml.Meaning
import VerdictClient.Yaml.Merge

namespace VerdictClient.Yaml

/-- The key of a map, with a number that tells keys apart or together that do not equal themselves. -/
structure Key where
  value : Value
  identity : Nat

def Key.isSame (a b : Key) : Bool := a.identity = b.identity || a.value.sameKey b.value

inductive Made where
  | scalar (k : Key)
  | pending
  | list (items : List Nat)
  | pairs (entries : List (Nat × Nat))
  | map (entries : List (Key × Nat))
  | set (keys : List Key)

structure Making where
  graph : Graph
  made : Array (Option Made)
  met : Array Nat

abbrev Maker := StateT Making (Except Error)

def Tag.isFilledLater : Tag → Bool
  | .seq | .map | .set | .omap | .pairs => true
  | _ => false

namespace Graph

/-- The text of a node where a scalar is due; a mapping has that of its first entry whose key is the
mark of a value. The number bounds how many mappings lead there. -/
def scalarText (g : Graph) : Nat → Nat → Except Error Text
  | 0, _ => .error .tooDeep
  | k + 1, n =>
    match g.content n with
    | some (.scalar t) => .ok t
    | some (.mapping es) =>
      match es.find? fun e ↦ g.tag e.1 = some .value with
      | some e => scalarText g k e.2
      | none => .error .malformed
    | _ => .error .malformed

/-- The value of a node that is due to be a scalar. All that is no number in its common spelling is
one key. -/
def scalarKey (g : Graph) (n : Nat) (tag : Tag) : Except Error Key := do
  if !tag.hasText then throw .malformed
  let t ← g.scalarText (g.size + 1) n
  if tag = .timestamp && g.isMapping n then throw .timestampInMapping
  let v ← tag.valueOf t
  return ⟨v, if tag = .float && Meaning.isNan t then g.size else n⟩

end Graph

namespace Maker

def become (n : Nat) (m : Made) : Maker Unit :=
  modify fun s ↦ { s with made := s.made.setIfInBounds n (some m) }

def meetNode (n : Nat) : Maker Unit := do
  let s ← get
  if let some none := s.made[n]? then
    if let some tag := s.graph.tag n then
      if tag.isFilledLater then
        become n .pending
        modify fun s ↦ { s with met := s.met.push n }
      else become n (.scalar (← s.graph.scalarKey n tag))

def key (n : Nat) : Maker Key := do
  meetNode n
  match (← get).made[n]? with
  | some (some (.scalar k)) => return k
  | _ => throw .malformed

def insert (k : Key) (n : Nat) : List (Key × Nat) → List (Key × Nat)
  | [] => [(k, n)]
  | (k', n') :: es => if k'.isSame k then (k', n) :: es else (k', n') :: insert k n es

def entries (n : Nat) : Maker (List (Key × Nat)) := do
  match (← get).graph.merge n with
  | none => throw .malformed
  | some g =>
    modify fun s ↦ { s with graph := g }
    (g.entries n).foldlM
      (fun es (k, v) ↦ do
        let k ← key k
        meetNode v
        return insert k v es)
      []

def singleEntry (n : Nat) : Maker (Nat × Nat) := do
  match (← get).graph.content n with
  | some (.mapping [(k, v)]) =>
    meetNode k
    meetNode v
    return (k, v)
  | _ => throw .malformed

def filled (tag : Tag) (n : Nat) : Content → Maker Made
  | .sequence items =>
    match tag with
    | .seq => do
      items.forM meetNode
      return .list items
    | .omap | .pairs => return .pairs (← items.mapM singleEntry)
    | _ => throw .malformed
  | .mapping _ =>
    match tag with
    | .map => return .map (← entries n)
    | .set => return .set ((← entries n).map (·.1))
    | _ => throw .malformed
  | .scalar _ => throw .malformed

def fill (n : Nat) : Maker Unit := do
  match (← get).graph[n]? with
  | some node => become n (← filled node.tag n node.content)
  | none => return

/-- Fills the lists and maps from the `i`-th on. -/
def fillFrom : Nat → (i : Nat) → Maker Unit
  | 0, _ => return
  | k + 1, i => do
    match (← get).met[i]? with
    | some n =>
      fill n
      fillFrom k (i + 1)
    | none => return

end Maker

def Graph.make (g : Graph) (root : Nat) : Except Error (Array (Option Made)) := do
  let work : Maker Unit := do
    Maker.meetNode root
    Maker.fillFrom (g.size + 1) 0
  let (_, s) ← work.run ⟨g, Array.replicate g.size none, #[]⟩
  return s.made

/-- Values of nodes that do not depend on what is around them. -/
abbrev Unfolding := StateM (Array (Option Value))

namespace Unfolding

variable (made : Array (Option Made))

def isMap (n : Nat) : Bool :=
  match made[n]? with
  | some (some (.map _)) => true
  | _ => false

def keep (n : Nat) (v : Value) (whole : Bool) : Unfolding (Value × Bool) := do
  if whole then modify fun vs ↦ vs.setIfInBounds n (some v)
  return (v, whole)

/-- The value of a node inside of `around`, and whether it is the same everywhere. -/
def value : Nat → (around : List Nat) → Nat → Unfolding (Value × Bool)
  | 0, _, _ => return (.null, true)
  | k + 1, around, n => do
    if let some (some v) := (← get)[n]? then return (v, true)
    if around.contains n then return (.again (isMap made n), false)
    let inside := value k (n :: around)
    match made[n]? with
    | some (some (.scalar k)) => return (k.value, true)
    | some (some (.set ks)) => return (.set (ks.map (·.value)), true)
    | some (some (.list ns)) =>
      let vs ← ns.mapM inside
      keep n (.list (vs.map (·.1))) (vs.all (·.2))
    | some (some (.pairs es)) =>
      let vs ← es.mapM fun (k, v) ↦ return (← inside k, ← inside v)
      keep n (.list (vs.map fun (k, v) ↦ .pair k.1 v.1)) (vs.all fun (k, v) ↦ k.2 && v.2)
    | some (some (.map es)) =>
      let vs ← es.mapM fun (k, v) ↦ return (k.value, ← inside v)
      keep n (.map (vs.map fun (k, v) ↦ (k, v.1))) (vs.all (·.2.2))
    | _ => return (.null, true)

/-- The value of the root; the values of a map do not count the map as around them. -/
def root (n : Nat) : Unfolding Value := do
  let depth := made.size + 1
  match made[n]? with
  | some (some (.map es)) =>
    return .map (← es.mapM fun (k, v) ↦ return (k.value, (← value made depth [] v).1))
  | _ => return (← value made depth [] n).1

end Unfolding

def read (cs : List Char) : Except Error Value :=
  match Graph.ofText cs with
  | .error f => .error (.ofFault f)
  | .ok none => .ok .null
  | .ok (some (g, root)) =>
    (g.make root).map fun made ↦ ((Unfolding.root made root).run (Array.replicate made.size none)).1

end VerdictClient.Yaml
