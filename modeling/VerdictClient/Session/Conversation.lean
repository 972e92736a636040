import VerdictClient.Session.Schedule

namespace VerdictClient.Session

structure Service where
  opening : Option Failure
  answer : Text → List Frame
  /-- The frames that come once the content asked for under a guid is uploaded, and how the upload
  itself is answered. -/
  upload : (guid : Text) → Upload.Put → List Frame × Http.Outcome

variable {τ : Type} [Clock τ]

structure Conversation (τ : Type) where
  scene : Scene τ
  answered : Nat

namespace Conversation

def start (s : Session τ) : Conversation τ := ⟨.start s, 0⟩

def deliver (fs : List Frame) (x : Scene τ) : Scene τ := fs.foldl (fun x f ↦ (x.deliver f).getD x) x

def upload? (x : Scene τ) : Option (Nat × Text × Upload.Put) :=
  x.session.puts.findSome? fun (n, p) ↦
    match x.phase? n with
    | some (.uploading j _ _ _) => some (n, j.request.guid, p)
    | _ => none

def outwait (x : Scene τ) : Option (Scene τ) :=
  ((x.waiting.filterMap fun n ↦ (x.phase? n).bind Phase.wake?).head?).map fun wake ↦
    x.moveTo wake x.session.callers.length

/-- What the service does next: it answers a frame, then an upload, then it lets time pass. -/
def respond (w : Service) (c : Conversation τ) : Option (Conversation τ) :=
  match ((c.scene.session.connection.map (·.taken)).getD []).drop c.answered with
  | frame :: _ => some ⟨deliver (w.answer frame) c.scene, c.answered + 1⟩
  | [] =>
    match upload? c.scene with
    | some (n, guid, put) =>
      let (frames, outcome) := w.upload guid put
      (deliver frames c.scene |>.finishUpload n outcome).map fun x ↦ ⟨x, c.answered⟩
    | none => (outwait c.scene).map fun x ↦ ⟨x, c.answered⟩

def respondFor (w : Service) : Nat → Conversation τ → Conversation τ
  | 0, c => c
  | n + 1, c =>
    match c.respond w with
    | some c => c.respondFor w n
    | none => c

/-- Lets the service respond until nobody waits. A caller needs no more than five responses: to two
frames and an upload, and for two waits. -/
def settled (w : Service) (c : Conversation τ) : Conversation τ :=
  c.respondFor w (5 * c.scene.session.callers.length)

def begin (w : Service) (i : Invocation τ) (c : Conversation τ) : Conversation τ :=
  { c with scene := c.scene.call i (some w.opening) }

def result? (n : Nat) (c : Conversation τ) : Option (Except Error (Option Classification)) :=
  match c.scene.phase? n with
  | some (.ended r) => some r
  | _ => none

/-- A caller comes and goes its way to the end; the result is nothing if it waits for ever. -/
def call (w : Service) (i : Invocation τ) (c : Conversation τ) :
    Option (Except Error (Option Classification)) × Conversation τ :=
  let number := c.scene.session.callers.length
  let c := (c.begin w i).settled w
  (c.result? number, c)

end Conversation

end VerdictClient.Session
