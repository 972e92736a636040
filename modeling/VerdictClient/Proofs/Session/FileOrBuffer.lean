import VerdictClient.Proofs.Files
import VerdictClient.Proofs.Session.Chronicle
import VerdictClient.Proofs.Session.TwoRuns

namespace VerdictClient

/-- The same request, whether its body is read while it is sent or not. -/
structure Upload.Put.IsLike (p q : Upload.Put) : Prop where
  target : q.target = p.target
  options : q.options = p.options
  body : q.body = p.body

/-- The same line, or lines that tell of the same upload of one content and of the other. -/
def LogLine.Redescribes (b c : Upload.Content) (l l' : LogLine) : Prop :=
  l' = l ∨ ∃ url, l = ⟨.info, .upload, "Uploaded " ++ b.describe ++ " to " ++ url⟩ ∧
    l' = ⟨.info, .upload, "Uploaded " ++ c.describe ++ " to " ++ url⟩

def Upload.Content.ofFile (path : Text) : Upload.Content := .path (Path.normal path)

variable {fs : FileSystem} {path : Text} {c : Bytes}

theorem Upload.start_like (h : fs.read path = .ok c) {b b' : Upload.Content}
    (hb : b' = b ∨ b = .ofFile path ∧ b' = .bytes c) (x : Upload.Target) (o : Upload.Options) :
    Both Upload.Put.IsLike (start fs x o b) (start fs x o b') := by
  rcases hb with rfl | ⟨rfl, rfl⟩
  · exact .refl (fun _ ↦ ⟨rfl, rfl, rfl⟩) _
  · simp only [start, Content.ofFile, FileSystem.read_normal h]
    exact .ok ⟨rfl, rfl, rfl⟩

theorem Upload.finish_like {b b' : Upload.Content} (hb : b' = b ∨ b = .ofFile path ∧ b' = .bytes c)
    (x : Upload.Target) (o : Http.Outcome) :
    Both (LogLine.Redescribes (.ofFile path) (.bytes c)) (finish x b o) (finish x b' o) := by
  rcases hb with rfl | ⟨rfl, rfl⟩
  · exact .refl (fun _ ↦ .inl rfl) _
  · unfold finish
    cases o with
    | ok r =>
      dsimp only
      split
      · exact .ok (.inr ⟨x.url, rfl, rfl⟩)
      · exact .error _
    | error f =>
      dsimp only
      split <;> exact .error _

/-- A file counts as a buffer with its content. -/
def Likeness.ofFile (h : fs.read path = .ok c) : Likeness fs where
  __ := Likeness.same fs
  content b b' := b' = b ∨ b = .ofFile path ∧ b' = .bytes c
  put := Upload.Put.IsLike
  line := LogLine.Redescribes (.ofFile path) (.bytes c)
  content_refl _ := .inl rfl
  put_refl _ := ⟨rfl, rfl, rfl⟩
  line_refl _ := .inl rfl
  start := by
    rintro _ x b b' rfl hb o
    exact Upload.start_like h hb x o
  finish := by
    rintro _ x b b' rfl hb o
    exact Upload.finish_like hb x o

namespace Session

variable {τ : Type}

theorem query_ofFile (h : fs.read path = .ok c) :
    Query.Alike (Likeness.ofFile h) (.file path) (.buffer c) where
  refused := rfl
  kind := rfl
  fields := by
    simp only [Query.fields, h, Except.map, Digest.ofFile_eq_ofBytes]
  content := .some ⟨.inr ⟨rfl, rfl⟩, rfl⟩

def Job.Carries (c : Bytes) (j : Job τ) : Prop :=
  j.request.subject = .hash (Digest.ofBytes c) ∧ j.content = some (.bytes c, none)

def Phase.Carries (c : Bytes) : Phase τ → Prop
  | .ask a => a.query = .buffer c
  | .check j | .register j | .send j _ | .await j _ _ _ | .expire j _ _ | .restart j _ => j.Carries c
  | .registerFinal j _ b _ | .upload j _ _ b _ | .uploading j _ _ b => j.Carries c ∧ b = .bytes c
  | .abandon _ _ | .ended _ => True
  | _ => False

variable {s s' : Session τ} {n : Nat} {p p' : Phase τ} {sig : Signal} {j : Job τ}

theorem Phase.Carries.isAsk_or_ended (h : p.Carries c) : p.IsAsk ∨ ∃ r, p = .ended r := by
  cases p with
  | ended r => exact .inr ⟨r, rfl⟩
  | ask | check | register | send | await | expire | registerFinal | upload | uploading | restart
  | abandon => exact .inl trivial
  | _ => exact h.elim

theorem subject_of_ofFields {id d : Text} {fs : Fields} {r : VerdictRequest}
    (h : VerdictRequest.ofFields .hash (("session_id", .text id) :: ("sha256", .text d) :: fs) = .ok r) :
    r.subject = .hash d := by
  unfold VerdictRequest.ofFields at h
  split at h
  · next hsubject _ _ _ =>
    cases h
    cases hsubject
    rfl
  · cases h

theorem carries_of_prepare {a : Ask τ} (ha : a.query = .buffer c) (h : (s.prepare a).1 = .ok j) :
    j.Carries c := by
  have hcontent := content_of_prepare h
  rw [ha] at hcontent
  refine ⟨?_, hcontent⟩
  unfold prepare at h
  rw [ha] at h
  simp only [Query.refused?, Query.fields, Query.kind] at h
  split at h
  · cases h
  split at h
  · cases h
  · next r hr =>
    cases h
    exact subject_of_ofFields hr

theorem carries_received (hj : j.Carries c) (st : Stage) (a : Except Error VerdictResponse) :
    (received j st a).Carries c := by
  unfold received
  split
  · trivial
  · split
    · next b l hb =>
      split
      · split
        · trivial
        · rw [hj.2] at hb
          obtain ⟨rfl, rfl⟩ := Prod.mk.inj (Option.some.inj hb)
          exact ⟨hj, rfl⟩
      · trivial
    · trivial

theorem carries_uploadFailed (j : Job τ) (e : Error) : (uploadFailed j e).Carries c := by
  cases e <;> trivial

variable [Clock τ]

theorem Advance.carries (h : Advance n s p sig p' s') (hp : p.Carries c) : p'.Carries c := by
  cases h with
  | prepare hj => exact carries_of_prepare hp hj
  | settle | expire => exact carries_received hp _ _
  | registerFinal => exact hp
  | failUpload | refuseUpload => exact carries_uploadFailed _ _
  | upload => exact hp
  | finishUpload => exact hp.1
  | check | register | written | linger | strike | lose | restart => exact hp
  | _ => trivial

theorem carries_run (hp : s.callers[n]? = some p) (h : p.Carries c) (es : List (Event τ)) :
    ∃ q, (s.run es).callers[n]? = some q ∧ q.Carries c :=
  call_run (fun hc ↦ hc.isAsk_or_ended) (fun hadv hc ↦ hadv.carries hc) hp h es

theorem subject_of_wire (hp : s.callers[n]? = some p) (h : p.Carries c) {es : List (Event τ)} {f : Text}
    (hf : (n, f) ∈ wire s es) :
    ∃ r : VerdictRequest, r.subject = .hash (Digest.ofBytes c) ∧ (Outbound.verdict r).encode = .ok f := by
  induction es using List.reverseRecOn with
  | nil => cases hf
  | append_singleton es e ih =>
    rw [wire_concat] at hf
    rcases List.mem_append.1 hf with hf | hf
    · exact ih hf
    · obtain ⟨o, q, rfl, -, hq, hframe⟩ := exists_of_takes? (Option.mem_toList.1 hf)
      obtain ⟨q', hq', hcarries⟩ := carries_run hp h es
      obtain rfl : q' = q := Option.some.inj (hq'.symm.trans hq)
      obtain ⟨x, w, rfl, -⟩ | ⟨i, k, rfl, hi⟩ := Phase.frame?_cases hframe
      · exact hcarries.elim
      · exact ⟨i.request, hcarries.1, hi⟩

theorem body_of_puts (hp : s.callers[n]? = some p) (h : p.Carries c) (es : List (Event τ)) :
    ∃ new, (s.run es).puts = s.puts ++ new ∧ ∀ put, (n, put) ∈ new → put.body = c := by
  induction es using List.reverseRecOn with
  | nil => exact ⟨[], (List.append_nil _).symm, fun _ h ↦ by cases h⟩
  | append_singleton es e ih =>
    obtain ⟨new, hnew, hbody⟩ := ih
    rw [run_concat]
    obtain hs | ⟨m, j, k, x, b, l, put, hm, hst, hs⟩ := (s.run es).puts_step e
    · exact ⟨new, hs.trans hnew, hbody⟩
    · refine ⟨new ++ [(m, put)], by rw [hs, hnew, List.append_assoc], fun q hq ↦ ?_⟩
      rcases List.mem_append.1 hq with hq | hq
      · exact hbody q hq
      · obtain ⟨rfl, rfl⟩ := Prod.mk.inj (List.mem_singleton.1 hq)
        obtain ⟨q', hq', hcarries⟩ := carries_run hp h es
        obtain rfl := Option.some.inj (hq'.symm.trans hm)
        obtain ⟨-, rfl⟩ := hcarries
        cases hst
        rfl

abbrev asked (q : Query) (g : Value) (t : Option (Timeout τ)) (es : List (Event τ)) : List (Event τ) :=
  .call (.ask ⟨q, g, t⟩) :: es

omit [Clock τ] in
theorem alike_asked (h : s.files.read path = .ok c) (g : Value) (t : Option (Timeout τ))
    (es : List (Event τ)) : List.Forall₂ (Event.Alike (Likeness.ofFile h))
      (asked (.file path) g t es) (asked (.buffer c) g t es) :=
  .cons (.call (.ask ⟨query_ofFile h⟩)) (forall₂_refl_of Event.Alike.refl es)

/-- Asking about a file is like asking about a buffer with its content, in every session and whatever
happens: everybody gets the same result, the same frames are written and taken, the same requests for
uploads are put on their way, and the session is the same in the end but for lines that tell of an upload
of the file. The request that goes over the wire has the digest of what is uploaded. -/
theorem file_like_buffer (h : s.files.read path = .ok c) (g : Value) (t : Option (Timeout τ))
    (es : List (Event τ)) :
    let x := s.run (asked (.file path) g t es)
    let y := s.run (asked (.buffer c) g t es)
    y = { x with callers := y.callers, puts := y.puts, log := y.log } ∧
    (∀ (n : Nat) (r : Except Error (Option Classification)),
      y.callers[n]? = some (.ended r) ↔ x.callers[n]? = some (.ended r)) ∧
    wire s (asked (.buffer c) g t es) = wire s (asked (.file path) g t es) ∧
    List.Forall₂ (fun p q ↦ q.1 = p.1 ∧ p.2.IsLike q.2) x.puts y.puts ∧
    List.Forall₂ (LogLine.Redescribes (.ofFile path) (.bytes c)) x.log y.log ∧
    (∀ f, (s.callers.length, f) ∈ wire s (asked (.buffer c) g t es) → ∃ r : VerdictRequest,
      r.subject = .hash (Digest.ofBytes c) ∧ (Outbound.verdict r).encode = .ok f) ∧
    ∃ new, y.puts = s.puts ++ new ∧ ∀ put, (s.callers.length, put) ∈ new → put.body = c := by
  intro x y
  have hes := alike_asked h g t es
  have halike : s.Alike (Likeness.ofFile h) s := .refl rfl
  have hxy : x.Alike (Likeness.ofFile h) y := halike.run hes
  have hconnection : y.connection = x.connection :=
    rel_eq (fun h ↦ Transport.Alike.eq (fun h ↦ h) h) hxy.connection
  have hreceiver : y.receiver = x.receiver := Receiver.Alike.eq (fun h ↦ h) hxy.receiver
  have hwire := halike.wire hes
  have hcaller : (s.step (.call (.ask ⟨.buffer c, g, t⟩))).callers[s.callers.length]? =
      some (.ask ⟨.buffer c, g, t⟩) := List.getElem?_concat_length
  refine ⟨?_, hxy.ended_iff, ?_, hxy.puts, hxy.log, ?_, ?_⟩
  · have h := hxy.eq_with
    rwa [hconnection, hreceiver] at h
  · exact forall₂_eq (fun h ↦ Prod.ext h.1 h.2) hwire
  · intro f hf
    exact subject_of_wire hcaller rfl hf
  · exact body_of_puts hcaller rfl es

def Sample.words : Bytes := [0x68, 0x69]

def Sample.volume : Text := "./d//f"

def Sample.library : Session Int :=
  (start settings (FileSystem.empty.addFile ["d", "f"] words)).run opening

def Sample.borrowing : List (Event Int) :=
  [.move 1 .go, .move 1 .go, .move 1 .go, .move 1 (.written none), .frame (demand "g"), .move 1 .go,
    .move 1 .go, .move 1 .go, .move 1 (.answered (.ok (.ofUtf8 200 []))), .move 1 .go,
    .frame (answer "g" "Clean"), .move 1 .go]

def Sample.order : Text :=
  "\x7b\"kind\":\"VerdictRequest\",\"session_id\":\"s\",\"sha256\":\"8f434346648f6b96df89dda901c5176b" ++
    "10a6d83961dd3c1ac88b59b2dc327aa4\",\"guid\":\"g\"\x7d"

theorem Sample.read_volume : Sample.library.files.read Sample.volume = .ok Sample.words :=
  eq_ok_of_toOption (by decide +kernel)

theorem Sample.wire_borrowing :
    wire Sample.library (asked (.file Sample.volume) (.text "g") none Sample.borrowing) =
      [(1, Sample.order)] := by
  decide +kernel

theorem Sample.borrowing_ended :
    (Sample.library.run (asked (.file Sample.volume) (.text "g") none Sample.borrowing)).callers[1]? =
      some (.ended (.ok (some ⟨[], .clean, none⟩))) :=
  result?_eq_some_iff.1 (by decide +kernel)

theorem file_like_buffer_borrowing :
    Sample.library.files.read Sample.volume = .ok Sample.words ∧
    wire Sample.library (asked (.buffer Sample.words) (.text "g") none Sample.borrowing) =
      [(1, Sample.order)] ∧
    (Sample.library.run (asked (.buffer Sample.words) (.text "g") none Sample.borrowing)).callers[1]? =
      some (.ended (.ok (some ⟨[], .clean, none⟩))) := by
  obtain ⟨-, hended, hwire, -⟩ :=
    file_like_buffer Sample.read_volume (.text "g") none Sample.borrowing
  refine ⟨Sample.read_volume, ?_, ?_⟩
  · rw [hwire, Sample.wire_borrowing]
  · rw [hended, Sample.borrowing_ended]

end Session

end VerdictClient
