import VerdictClient.Text.Unprintable

namespace VerdictClient.Text

def delimiter (t : Text) : CodePoint :=
  if t.contains (.char '\'') && !t.contains (.char '"') then '"' else '\''

def escape (quote c : CodePoint) : Text :=
  if c = quote ∨ c = .char '\\' then ['\\', c]
  else if c = .char '\n' then "\\n"
  else if c = .char '\r' then "\\r"
  else if c = .char '\t' then "\\t"
  else if c.isPrintable then [c]
  else if c.val < 0x100 then "\\x" ++ hex 2 c.val
  else if c.val < 0x10000 then "\\u" ++ hex 4 c.val
  else "\\U" ++ hex 8 c.val

def quoted (t : Text) : Text :=
  let quote := t.delimiter
  quote :: t.flatMap (escape quote) ++ [quote]

end VerdictClient.Text
