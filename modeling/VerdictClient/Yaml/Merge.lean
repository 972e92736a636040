import VerdictClient.Yaml.Graph

namespace VerdictClient.Yaml.Graph

abbrev Entries := List (Nat × Nat)

def setEntries (g : Graph) (n : Nat) (es : Entries) : Graph :=
  g.modify n fun node ↦ { node with content := .mapping es }

def setTag (g : Graph) (n : Nat) (t : Tag) : Graph := g.modify n fun node ↦ { node with tag := t }

def isMapping (g : Graph) (n : Nat) : Bool :=
  match g.content n with
  | some (.mapping _) => true
  | _ => false

def merges (g : Graph) (e : Nat × Nat) : Bool := g.tag e.1 = some .merge

def mergeCount (g : Graph) : Nat :=
  (List.range g.size).foldl (fun count n ↦ count + ((g.entries n).filter g.merges).length) 0

/-- Makes texts of the marks of a value among the keys of a mapping. -/
def nameMarks (g : Graph) (n : Nat) : Graph :=
  (g.entries n).foldl (fun g e ↦ if g.tag e.1 = some .value then g.setTag e.1 .str else g) g

def settle (g : Graph) (n : Nat) (found : Entries) : Graph :=
  let g := g.nameMarks n
  g.setEntries n (found ++ g.entries n)

/-- Merges what the entries of a mapping name, which has `found` before. The number bounds how many
entries merge something. -/
def mergeFrom : Nat → Graph → Nat → (found : Entries) → Option Graph
  | 0, g, n, found => some (g.settle n found)
  | k + 1, g, n, found =>
    match (g.entries n).find? g.merges with
    | none => some (g.settle n found)
    | some e =>
      let g := g.setEntries n ((g.entries n).eraseP g.merges)
      match g.content e.2 with
      | some (.mapping _) => do
        let g ← mergeFrom k g e.2 []
        mergeFrom k g n (found ++ g.entries e.2)
      | some (.sequence items) => do
        let (g, parts) ← items.foldlM
          (fun (g, parts) i ↦ do
            guard (g.isMapping i)
            let g ← mergeFrom k g i []
            some (g, g.entries i :: parts))
          (g, [])
        mergeFrom k g n (found ++ parts.flatten)
      | _ => none

/-- Merges into a mapping what it names; nothing, if that is no mapping or list of mappings. -/
def merge (g : Graph) (n : Nat) : Option Graph := mergeFrom g.mergeCount g n []

end VerdictClient.Yaml.Graph
