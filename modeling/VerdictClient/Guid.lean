import VerdictClient.Text

namespace VerdictClient.Guid

def ofNat (n : Nat) : Text :=
  let digits := Text.hex 32 n
  let group (start length : Nat) : Text := (digits.drop start).take length
  Text.intercalate "-" [group 0 8, group 8 4, group 12 4, group 16 4, group 20 12]

end VerdictClient.Guid
