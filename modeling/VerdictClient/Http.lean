import VerdictClient.Error
import VerdictClient.Log

namespace VerdictClient.Http

/-- An answer as the web client delivers it: its body as a text, and what the body holds as JSON. -/
structure Response where
  status : Int
  text : Text
  json : Except Json.Lenient.Error Value

/-- An answer whose body is known to be written in UTF-8. -/
def Response.ofUtf8 (status : Int) (body : Bytes) : Response :=
  let text := Utf8.decodeReplacing body
  ⟨status, text, Json.Lenient.ofText text⟩

def Response.excerpt (r : Response) : Text := r.text.take 200

abbrev Outcome := Except Failure Response

end VerdictClient.Http
