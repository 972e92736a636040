import VerdictClient.Config
import VerdictClient.Proofs.Message.Writing
import VerdictClient.Proofs.Session.TwoRuns

namespace VerdictClient

namespace Token

def Grant.withSecret (v : Value) : Grant → Grant
  | .clientCredentials id _ => .clientCredentials id v
  | .password id username _ => .password id username v

def Grant.secretField : Grant → Text
  | .clientCredentials _ _ => "client_secret"
  | .password _ _ _ => "password"

theorem Grant.form_withSecret (g : Grant) (u v : Value) : (g.withSecret v).form =
    (g.withSecret u).form.map fun m ↦ (m.1, if m.1 = g.secretField then v else m.2) := by
  have hfields : ("client_id" : Text) ≠ "client_secret" ∧ ("grant_type" : Text) ≠ "client_secret" ∧
      ("client_id" : Text) ≠ "password" ∧ ("username" : Text) ≠ "password" ∧
      ("grant_type" : Text) ≠ "password" := by decide
  cases g <;> simp [withSecret, form, secretField, hfields]

theorem Grant.exchange_withSecret {g : Grant} {u v url timeout : Value} {answer : Request → Http.Outcome}
    (h : answer ((g.withSecret v).request url timeout) = answer ((g.withSecret u).request url timeout)) :
    (g.withSecret v).exchange url timeout answer = { (g.withSecret u).exchange url timeout answer with
      request := (g.withSecret v).request url timeout } := by
  simp only [exchange, conclude, h]
  cases result url.plain (answer ((g.withSecret u).request url timeout)) <;> rfl

end Token

theorem Config.display_congr {c d : Config} (h : ∀ f, f ≠ .clientSecret → d.get f = c.get f) :
    d.display = c.display := by
  have hshown : (Field.all.filter (· ≠ .clientSecret)).map
        (fun f ↦ f.name ++ "=" ++ (d.get f).display) =
      (Field.all.filter (· ≠ .clientSecret)).map (fun f ↦ f.name ++ "=" ++ (c.get f).display) := by
    apply List.map_congr_left
    intro f hf
    have hne : f ≠ .clientSecret := by simpa using (List.mem_filter.1 hf).2
    rw [h f hne]
  simp only [display, hshown]

def Present (t u : Text) (f g : Text) : Prop :=
  g = f ∨ (Outbound.auth t).encode = .ok f ∧ (Outbound.auth u).encode = .ok g

theorem greeting_both {t u : Text} (ht : t.IsWhole) (hu : u.IsWhole) {x y : Value}
    (h : y = x ∨ x = .text t ∧ y = .text u) :
    Both (Present t u) (Session.greeting x) (Session.greeting y) := by
  obtain rfl | ⟨rfl, rfl⟩ := h
  · exact .refl (fun _ ↦ .inl rfl) _
  · have hf := Outbound.encode_eq_ok_iff (m := .auth t).2 ⟨ht, rfl⟩
    have hg := Outbound.encode_eq_ok_iff (m := .auth u).2 ⟨hu, rfl⟩
    have hgreet (w : Text) : Session.greeting (.text w) =
      (Outbound.auth w).encode.mapError .unencodable := rfl
    rw [hgreet, hgreet, hf, hg]
    exact .ok (.inr ⟨hf, hg⟩)

/-- One bearer token counts as another. -/
def Likeness.ofBearer (files : FileSystem) {t u : Text} (ht : t.IsWhole) (hu : u.IsWhole) :
    Likeness files where
  __ := Likeness.same files
  token x y := y = x ∨ x = .text t ∧ y = .text u
  frame := Present t u
  token_refl _ := .inl rfl
  frame_refl _ := .inl rfl
  greeting := greeting_both ht hu

def VerdictResponse.withToken (t : Text) (r : VerdictResponse) : VerdictResponse :=
  { r with uploadToken := some t }

def Upload.Target.withToken (t : Text) (x : Target) : Target := { x with token := t }

def Upload.Put.withToken (t : Text) (p : Put) : Put := { p with target := p.target.withToken t }

def Retold {α : Type} (withToken : Text → α → α) (t u : Text) (a b : α) : Prop :=
  b = a ∨ a = withToken t a ∧ b = withToken u a

theorem uploadTarget?_withToken {t : Text} (ht : t ≠ []) (r : VerdictResponse) :
    (r.withToken t).uploadTarget? = (r.url.filter fun url ↦ !url.isEmpty).map fun url ↦ (url, t) := by
  have hempty : t.isEmpty = false := List.isEmpty_eq_false_iff.2 ht
  simp only [VerdictResponse.uploadTarget?, VerdictResponse.withToken]
  cases r.url with
  | none => rfl
  | some url => cases h : url.isEmpty <;> simp [h, hempty, Option.filter]

theorem demand_retold {t u : Text} (ht : t ≠ []) (hu : u ≠ []) {r v : VerdictResponse}
    (h : Retold VerdictResponse.withToken t u r v) :
    Option.Rel (fun x y ↦ Retold Upload.Target.withToken t u ⟨x.1, x.2⟩ ⟨y.1, y.2⟩)
      r.uploadTarget? v.uploadTarget? := by
  obtain rfl | ⟨hr, hv⟩ := h
  · apply rel_refl
    exact fun _ ↦ .inl rfl
  · rw [hr, hv, uploadTarget?_withToken ht]
    have hurl : (r.withToken u).uploadTarget? =
        (r.url.filter fun url ↦ !url.isEmpty).map fun url ↦ (url, u) := uploadTarget?_withToken hu r
    rw [hurl]
    cases r.url.filter fun url ↦ !url.isEmpty with
    | none => exact .none
    | some url => exact .some (.inr ⟨rfl, rfl⟩)

theorem start_retold {t u : Text} (fs : FileSystem) {x y : Upload.Target}
    (h : Retold Upload.Target.withToken t u x y) (b : Upload.Content) (o : Upload.Options) :
    Both (Retold Upload.Put.withToken t u) (Upload.start fs x o b) (Upload.start fs y o b) := by
  obtain rfl | ⟨hx, rfl⟩ := h
  · exact .refl (fun _ ↦ .inl rfl) _
  · have hput (streamed : Bool) (body : Bytes) : Retold Upload.Put.withToken t u
        ⟨x, o, streamed, body⟩ ⟨x.withToken u, o, streamed, body⟩ :=
      .inr ⟨congrArg (Upload.Put.mk · o streamed body) hx, rfl⟩
    cases b with
    | path p =>
      simp only [Upload.start, Upload.Target.withToken]
      cases fs.read p with
      | ok content => exact .ok (hput true content)
      | error e => exact .error _
    | bytes bs => exact .ok (hput false bs)
    | stream bs => exact .ok (hput true bs)

theorem finish_retold {t u : Text} {x y : Upload.Target}
    (h : Retold Upload.Target.withToken t u x y) (b : Upload.Content) (o : Http.Outcome) :
    Upload.finish y b o = Upload.finish x b o := by
  obtain rfl | ⟨-, rfl⟩ := h <;> rfl

/-- One token for an upload counts as another. -/
def Likeness.ofUpload (files : FileSystem) {t u : Text} (ht : t ≠ []) (hu : u ≠ []) :
    Likeness files where
  __ := Likeness.same files
  response := Retold VerdictResponse.withToken t u
  target := Retold Upload.Target.withToken t u
  put := Retold Upload.Put.withToken t u
  response_refl _ := .inl rfl
  target_refl _ := .inl rfl
  put_refl _ := .inl rfl
  guid := by
    rintro r _ (rfl | ⟨-, rfl⟩) <;> rfl
  classification := by
    rintro r _ (rfl | ⟨-, rfl⟩) <;> rfl
  demand := demand_retold ht hu
  start := by
    rintro x y _ b h rfl o
    exact start_retold files h b o
  finish := by
    rintro x y _ b h rfl o
    rw [finish_retold h]
    apply Both.refl
    exact fun _ ↦ rfl

namespace Session

variable {τ : Type} {t u : Text} {s x y : Session τ} {es es' : List (Event τ)}

/-- The same event, or a caller comes to connect with the one token and with the other. -/
inductive Event.SameButBearer (t u : Text) : Event τ → Event τ → Prop
  | same (e) : SameButBearer t u e e
  | connect : SameButBearer t u (.call (.connect (.text t))) (.call (.connect (.text u)))

/-- The same event, or a response arrives with the one token for an upload and with the other. -/
inductive Event.SameButUpload (t u : Text) : Event τ → Event τ → Prop
  | same (e) : SameButUpload t u e e
  | frame {f g} {r : VerdictResponse} (hf : Inbound.decode f = .ok (.verdict (r.withToken t)))
      (hg : Inbound.decode g = .ok (.verdict (r.withToken u))) : SameButUpload t u (.frame f) (.frame g)

theorem alike_of_sameButBearer {files : FileSystem} (ht : t.IsWhole) (hu : u.IsWhole)
    (h : List.Forall₂ (Event.SameButBearer t u) es es') :
    List.Forall₂ (Event.Alike (.ofBearer files ht hu)) es es' := by
  apply h.imp
  rintro e e' (_ | _)
  · exact .refl e
  · exact .call (.connect (.inr ⟨rfl, rfl⟩))

theorem alike_of_sameButUpload {files : FileSystem} (ht : t ≠ []) (hu : u ≠ [])
    (h : List.Forall₂ (Event.SameButUpload t u) es es') :
    List.Forall₂ (Event.Alike (.ofUpload files ht hu)) es es' := by
  apply h.imp
  rintro e e' (_ | ⟨hf, hg⟩)
  · exact .refl e
  · exact .frame (.verdict hf hg (.inr ⟨rfl, rfl⟩))

def SameResults (x y : Session τ) : Prop := ∀ (n : Nat) (r : Except Error (Option Classification)),
  y.callers[n]? = some (.ended r) ↔ x.callers[n]? = some (.ended r)

structure Transport.SameButPresented (t u : Text) (c d : Transport) : Prop where
  closed : d.closed = c.closed
  closes : d.closes = c.closes
  taken : List.Forall₂ (Present t u) c.taken d.taken

/-- Sessions that nothing tells apart but the frames that present a token. -/
structure SameButBearer (t u : Text) (x y : Session τ) : Prop where
  rest : y = { x with connection := y.connection, callers := y.callers }
  connection : Option.Rel (Transport.SameButPresented t u) x.connection y.connection
  results : SameResults x y

def Ticket.SameButToken (t u : Text) (a b : Ticket τ) : Prop :=
  b = a ∨ ∃ r : VerdictResponse, a.outcome = .done (r.withToken t) ∧
    b = { a with outcome := .done (r.withToken u) }

/-- Sessions that nothing tells apart but a token in responses and in the uploads that they ask for. -/
structure SameButUpload (t u : Text) (x y : Session τ) : Prop where
  rest : y = { x with receiver := y.receiver, callers := y.callers, puts := y.puts }
  receiver : y.receiver =
    { x.receiver with correlator := { x.correlator with tickets := y.correlator.tickets } }
  tickets : List.Forall₂ (Ticket.SameButToken t u) x.correlator.tickets y.correlator.tickets
  puts : List.Forall₂ (fun a b ↦ b.1 = a.1 ∧ Retold Upload.Put.withToken t u a.2 b.2) x.puts y.puts
  results : SameResults x y

theorem Alike.sameButBearer {files : FileSystem} {ht : t.IsWhole} {hu : u.IsWhole}
    (h : x.Alike (.ofBearer files ht hu) y) : SameButBearer t u x y := by
  have hreceiver : y.receiver = x.receiver := Receiver.Alike.eq id h.receiver
  have hputs : y.puts = x.puts := forall₂_eq (fun h ↦ Prod.ext h.1 h.2) h.puts
  have hlog : y.log = x.log := forall₂_eq id h.log
  refine ⟨?_, ?_, h.ended_iff⟩
  · have heq := h.eq_with
    rwa [hreceiver, hputs, hlog] at heq
  · obtain ⟨hc, hc'⟩ | ⟨c, d, hc, hc', hcd⟩ := rel_cases h.connection
    · rw [hc, hc']
      exact .none
    · rw [hc, hc']
      obtain ⟨htaken⟩ := hcd
      exact .some ⟨rfl, rfl, htaken⟩

theorem sameButToken_of_alike {files : FileSystem} {ht : t ≠ []} {hu : u ≠ []} {a b : Ticket τ}
    (h : a.Alike (.ofUpload files ht hu) b) : Ticket.SameButToken t u a b := by
  obtain ⟨h⟩ := h
  cases h with
  | pending | failed | cancelled => exact .inl rfl
  | @done r _ h =>
    obtain rfl | ⟨hr, rfl⟩ := h
    · exact .inl rfl
    · exact .inr ⟨r, congrArg Future.done hr, rfl⟩

theorem Alike.sameButUpload {files : FileSystem} {ht : t ≠ []} {hu : u ≠ []}
    (h : x.Alike (.ofUpload files ht hu) y) : SameButUpload t u x y := by
  have hconnection : y.connection = x.connection :=
    rel_eq (fun h ↦ VerdictClient.Transport.Alike.eq id h) h.connection
  have hlog : y.log = x.log := forall₂_eq id h.log
  refine ⟨?_, h.receiver.eq_with, ?_, h.puts, h.ended_iff⟩
  · have heq := h.eq_with
    rwa [hconnection, hlog] at heq
  · exact h.correlator.tickets.imp fun a b ↦ sameButToken_of_alike

variable [Clock τ]

theorem sameButBearer_run (ht : t.IsWhole) (hu : u.IsWhole) (s : Session τ)
    (hes : List.Forall₂ (Event.SameButBearer t u) es es') :
    SameButBearer t u (s.run es) (s.run es') ∧
      List.Forall₂ (fun a b ↦ b.1 = a.1 ∧ Present t u a.2 b.2) (wire s es) (wire s es') := by
  have hstart : s.Alike (.ofBearer s.files ht hu) s := .refl rfl
  have hev : List.Forall₂ (Event.Alike (.ofBearer s.files ht hu)) es es' := alike_of_sameButBearer ht hu hes
  exact ⟨(hstart.run hev).sameButBearer, hstart.wire hev⟩

theorem sameButUpload_run (ht : t ≠ []) (hu : u ≠ []) (s : Session τ)
    (hes : List.Forall₂ (Event.SameButUpload t u) es es') :
    SameButUpload t u (s.run es) (s.run es') ∧ wire s es' = wire s es := by
  have hstart : s.Alike (.ofUpload s.files ht hu) s := .refl rfl
  have hev : List.Forall₂ (Event.Alike (.ofUpload s.files ht hu)) es es' := alike_of_sameButUpload ht hu hes
  exact ⟨(hstart.run hev).sameButUpload, forall₂_eq (fun h ↦ Prod.ext h.1 h.2) (hstart.wire hev)⟩

end Session

/-- Two runs that differ in one secret get the same results and errors, reach the same states and write the
same log. A secret or password of a grant shows in the form that the token endpoint gets, if that answers
both alike; a bearer token in the frame that presents it; a token for an upload in the header of that
upload; and a configuration is shown without its secret. -/
theorem secrets_stay_secret {τ : Type} [Clock τ] :
    (∀ (g : Token.Grant) (v w url timeout : Value) (answer : Token.Request → Http.Outcome),
      answer ((g.withSecret w).request url timeout) = answer ((g.withSecret v).request url timeout) →
      (g.withSecret w).exchange url timeout answer = { (g.withSecret v).exchange url timeout answer with
        request := (g.withSecret w).request url timeout } ∧
      (g.withSecret w).request url timeout = { (g.withSecret v).request url timeout with
        form := (g.withSecret v).form.map fun m ↦ (m.1, if m.1 = g.secretField then w else m.2) }) ∧
    (∀ (t u : Text) (s : Session τ) (es es' : List (Session.Event τ)), t.IsWhole → u.IsWhole →
      List.Forall₂ (Session.Event.SameButBearer t u) es es' →
      Session.SameButBearer t u (s.run es) (s.run es') ∧ List.Forall₂
        (fun a b ↦ b.1 = a.1 ∧ Present t u a.2 b.2) (Session.wire s es) (Session.wire s es')) ∧
    (∀ (t u : Text) (s : Session τ) (es es' : List (Session.Event τ)), t ≠ [] → u ≠ [] →
      List.Forall₂ (Session.Event.SameButUpload t u) es es' →
      Session.SameButUpload t u (s.run es) (s.run es') ∧ Session.wire s es' = Session.wire s es) ∧
    ∀ c d : Config, (∀ f, f ≠ .clientSecret → d.get f = c.get f) → d.display = c.display := by
  refine ⟨fun g v w url timeout answer h ↦ ?_, fun t u s es es' ht hu hes ↦ ?_,
    fun t u s es es' ht hu hes ↦ ?_, fun c d h ↦ Config.display_congr h⟩
  · refine ⟨Token.Grant.exchange_withSecret h, ?_⟩
    rw [Token.Grant.request, Token.Grant.request, Token.Grant.form_withSecret g v w]
  · exact Session.sameButBearer_run ht hu s hes
  · exact Session.sameButUpload_run ht hu s hes

namespace Session

def Sample.reopening : List (Event Int) := .call (.connect (.text "u")) :: opening.tail

def Sample.demandWith (token : Text) : Frame :=
  .text ("\x7b\"kind\":\"VerdictResponse\",\"guid\":\"g\",\"verdict\":\"Unknown\",\"url\":\"a\"," ++
    "\"upload_token\":\"" ++ token ++ "\"\x7d")

def Sample.dropping (token : Text) : List (Event Int) :=
  opening ++ asking 1 (.stream [] none) "g" ++ .move 1 (.written none) :: .frame (demandWith token) ::
    [.move 1 .go, .move 1 .go, .move 1 .go, .move 1 (.answered (.ok (.ofUtf8 500 []))), .move 1 .go]

def Sample.demanded : VerdictResponse := ⟨"g", .unknown, [], none, some "a", none⟩

theorem Sample.demandWith_decode :
    Inbound.decode (Sample.demandWith "b") = .ok (.verdict (Sample.demanded.withToken "b")) ∧
    Inbound.decode (Sample.demandWith "c") = .ok (.verdict (Sample.demanded.withToken "c")) :=
  ⟨eq_ok_of_toOption (by decide +kernel), eq_ok_of_toOption (by decide +kernel)⟩

theorem Sample.dropping_differs :
    List.Forall₂ (Event.SameButUpload "b" "c") (Sample.dropping "b") (Sample.dropping "c") := by
  have hsame (es : List (Event Int)) : List.Forall₂ (Event.SameButUpload "b" "c") es es :=
    forall₂_refl_of .same es
  obtain ⟨hb, hc⟩ := Sample.demandWith_decode
  exact List.rel_append (hsame _) (.cons (.same _) (.cons (.frame hb hc) (hsame _)))

end Session

theorem secrets_stay_secret_rotation :
    ((Token.Grant.password .null .null (.text "q")).exchange (.text "u") .null
        fun _ ↦ .ok (.ofUtf8 500 [])).result =
      ((Token.Grant.password .null .null (.text "p")).exchange (.text "u") .null
        fun _ ↦ .ok (.ofUtf8 500 [])).result ∧
    Session.SameButBearer "t" "u"
      ((Session.start Session.Sample.settings .empty).run Session.Sample.opening)
      ((Session.start Session.Sample.settings .empty).run Session.Sample.reopening) ∧
    Session.SameButUpload "b" "c"
      ((Session.start Session.Sample.settings .empty).run (Session.Sample.dropping "b"))
      ((Session.start Session.Sample.settings .empty).run (Session.Sample.dropping "c")) ∧
    (Config.default.set .clientSecret (.text "p")).display = Config.default.display := by
  obtain ⟨hgrant, hbearer, hupload, hconfig⟩ := @secrets_stay_secret Int _
  refine ⟨?_, ?_, ?_, ?_⟩
  · have h := (hgrant (.password .null .null .null) (.text "p") (.text "q") (.text "u") .null
      (fun _ ↦ .ok (.ofUtf8 500 [])) rfl).1
    have hresult := congrArg Token.Exchange.result h
    exact hresult
  · exact (hbearer "t" "u" _ _ _ (by decide) (by decide)
      (.cons .connect (forall₂_refl_of .same _))).1
  · exact (hupload "b" "c" _ _ _ (by decide) (by decide) Session.Sample.dropping_differs).1
  · apply hconfig
    intro f hf
    exact if_neg hf

end VerdictClient
