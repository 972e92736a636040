import VerdictClient.Text

namespace VerdictClient.Yaml

inductive Fault where
  /-- The document breaks the rules of YAML, or means something that has no value here. -/
  | malformed
  | codePoint (n : Nat)
  | oversizedVersion (digits : Nat)
  | tooDeep
  deriving DecidableEq, Repr

structure TagName where
  handle : Option Text
  suffix : Text
  deriving DecidableEq, Repr

inductive Directive where
  | version (major minor : Nat)
  | tag (handle target : Text)
  | other
  deriving DecidableEq, Repr

inductive Token where
  | directive (d : Directive)
  | documentStart
  | documentEnd
  | sequenceStart
  | mappingStart
  | blockEnd
  | flowSequenceStart
  | flowSequenceEnd
  | flowMappingStart
  | flowMappingEnd
  | item
  | comma
  | key
  | value
  | alias (name : Text)
  | anchor (name : Text)
  | tag (t : TagName)
  | scalar (t : Text) (plain : Bool)
  deriving DecidableEq, Repr

end VerdictClient.Yaml
