import VerdictClient.Config.Load
import VerdictClient.Proofs.Config
import VerdictClient.Proofs.Json.Reading
import VerdictClient.Proofs.Text.Case

namespace VerdictClient

namespace Config

variable {env env' : Environment} {fs : FileSystem} {path : Option Text} {m m' : Mapping} {c c' : Config}
  {f g : Field} {t x : Text} {v w base : Value}

namespace Field

def variableNames : Field → List Text
  | url => ["VAAS_URL"]
  | tokenUrl => ["VAAS_TOKEN_URL"]
  | clientId => ["VAAS_CLIENT_ID", "CLIENT_ID"]
  | clientSecret => ["VAAS_CLIENT_SECRET", "CLIENT_SECRET"]
  | timeout => ["VAAS_TIMEOUT"]
  | uploadTimeout => ["VAAS_UPLOAD_TIMEOUT"]
  | keepAlive => ["VAAS_KEEP_ALIVE"]
  | useCache => ["VAAS_USE_CACHE"]
  | useHashLookup => ["VAAS_USE_HASH_LOOKUP"]

def countsEmpty : Field → Bool
  | url | tokenUrl | clientId | clientSecret | uploadTimeout | keepAlive => true
  | timeout | useCache | useHashLookup => false

inductive Kind where
  | text
  | number
  | optionalNumber
  | switch

def kind : Field → Kind
  | url | tokenUrl | clientId | clientSecret => .text
  | timeout => .number
  | uploadTimeout | keepAlive => .optionalNumber
  | useCache | useHashLookup => .switch

end Field

def MeansNone (t : Text) : Prop := t.Spells [] ∨ t.Spells "none" ∨ t.Spells "off"

inductive Says : Field.Kind → Text → Value → Prop
  | text (t : Text) : Says .text t (.text t)
  | number {t : Text} {x : Float} : Float.read t = some x → Says .number t (.float x)
  | absent {t : Text} : MeansNone t → Says .optionalNumber t .null
  | present {t : Text} {x : Float} :
      ¬MeansNone t → Float.read t = some x → Says .optionalNumber t (.float x)
  | switch {t word : Text} {b : Bool} : word ∈ switchWords b → t.Spells word → Says .switch t (.bool b)

/-- The text that a variable gives to a setting, if one counts as given. -/
def given? (env : Environment) (f : Field) : Option Text :=
  (env.firstOf? f.variableNames).filter fun t ↦ f.countsEmpty || !t.isEmpty

/-- What a setting comes to that would be `base` without the environment. -/
def Settles (env : Environment) (f : Field) (base v : Value) : Prop :=
  match given? env f with
  | some t => Says f.kind t v
  | none => v = base

def place (env : Environment) : Option Text → Except LoadError Text
  | some p => .ok (Path.normal p)
  | none => usualPath env

/-- What stands in the file at `p`: a mapping of nothing but settings, or nothing if no file is there. -/
inductive Gives (fs : FileSystem) (p : Text) : Mapping → Prop
  | file {content : Bytes} {m : Mapping} :
      fs.find p = .file content → ofContent p content = .ok m → m.IsKnown → Gives fs p m
  | absent : fs.find p = .missing ∨ fs.find p = .directory ∨ fs.find p = .blocked → Gives fs p []

/-- What the file with the settings gives. -/
def Holds (env : Environment) (fs : FileSystem) (path : Option Text) (m : Mapping) : Prop :=
  ∃ p, place env path = .ok p ∧ Gives fs p m

theorem contains_absences_iff : absences.contains t.strip.lower = true ↔ MeansNone t := by
  rw [MeansNone, Text.spells_iff (by decide), Text.spells_iff (by decide), Text.spells_iff (by decide)]
  simp [absences]

theorem switch?_eq_some_iff {b : Bool} :
    switch? t = some b ↔ ∃ word ∈ switchWords b, t.Spells word := by
  have hspells (b : Bool) : (∃ word ∈ switchWords b, t.Spells word) ↔ t.strip.lower ∈ switchWords b := by
    have hplain : ∀ word ∈ switchWords b, ∀ c ∈ word, c.isBlank = false := by
      cases b <;> decide
    constructor
    · rintro ⟨word, hword, h⟩
      rwa [(Text.spells_iff (hplain word hword)).1 h]
    · exact fun h ↦ ⟨_, h, (Text.spells_iff (hplain _ h)).2 rfl⟩
  have hdisjoint : ∀ word ∈ switchWords true, word ∉ switchWords false := by decide
  rw [hspells]
  simp only [switch?, List.contains_iff_mem]
  by_cases htrue : t.strip.lower ∈ switchWords true
  · cases b <;> simp [htrue, hdisjoint _ htrue]
  · cases b <;> simp [htrue]

def Field.read : Field → Text → Except LoadError Value
  | .url | .tokenUrl | .clientId | .clientSecret => fun t ↦ .ok (.text t)
  | .timeout => readNumber
  | .uploadTimeout | .keepAlive => readOptionalNumber
  | .useCache => readSwitch "VAAS_USE_CACHE"
  | .useHashLookup => readSwitch "VAAS_USE_HASH_LOOKUP"

theorem readNumber_eq_ok_iff : readNumber t = .ok v ↔ Says .number t v := by
  unfold readNumber
  constructor
  · intro h
    split at h
    · next x hx => exact Except.ok.inj h ▸ .number hx
    · cases h
  · intro h
    cases h with
    | number hx => rw [hx]

theorem readOptionalNumber_eq_ok_iff : readOptionalNumber t = .ok v ↔ Says .optionalNumber t v := by
  unfold readOptionalNumber
  by_cases hnone : MeansNone t
  · rw [if_pos (contains_absences_iff.2 hnone)]
    constructor
    · exact fun h ↦ Except.ok.inj h ▸ .absent hnone
    · intro h
      cases h with
      | absent _ => rfl
      | present hpresent _ => exact absurd hnone hpresent
  · rw [if_neg (mt contains_absences_iff.1 hnone), readNumber_eq_ok_iff]
    constructor
    · intro h
      cases h with
      | number hx => exact .present hnone hx
    · intro h
      cases h with
      | absent habsent => exact absurd habsent hnone
      | present _ hx => exact .number hx

theorem readSwitch_eq_ok_iff {name : Text} : readSwitch name t = .ok v ↔ Says .switch t v := by
  unfold readSwitch
  constructor
  · intro h
    split at h
    · next b hb =>
      obtain ⟨word, hword, hspells⟩ := switch?_eq_some_iff.1 hb
      exact Except.ok.inj h ▸ .switch hword hspells
    · cases h
  · intro h
    cases h with
    | switch hword hspells => rw [switch?_eq_some_iff.2 ⟨_, hword, hspells⟩]

theorem read_eq_ok_iff : f.read t = .ok v ↔ Says f.kind t v := by
  have htext : (Except.ok (.text t) : Except LoadError Value) = .ok v ↔ Says .text t v := by
    constructor
    · exact fun h ↦ Except.ok.inj h ▸ .text t
    · rintro ⟨⟩
      rfl
  cases f with
  | url | tokenUrl | clientId | clientSecret => exact htext
  | timeout => exact readNumber_eq_ok_iff
  | uploadTimeout | keepAlive => exact readOptionalNumber_eq_ok_iff
  | useCache | useHashLookup => exact readSwitch_eq_ok_iff

theorem Says.unique (h : Says f.kind t v) (h' : Says f.kind t w) : v = w :=
  Except.ok.inj ((read_eq_ok_iff.2 h).symm.trans (read_eq_ok_iff.2 h'))

theorem Settles.unique (h : Settles env f base v) (h' : Settles env f base w) : v = w := by
  unfold Settles at h h'
  split at h
  · next t ht =>
    rw [ht] at h'
    exact h.unique h'
  · next hnone =>
    rw [hnone] at h'
    exact h.trans h'.symm

theorem Gives.unique {p : Text} (h : Gives fs p m) (h' : Gives fs p m') : m = m' := by
  cases h with
  | file hp hread _ =>
    cases h' with
    | file hp' hread' _ =>
      cases hp.symm.trans hp'
      exact Except.ok.inj (hread.symm.trans hread')
    | absent hp' => simp [hp] at hp'
  | absent hp =>
    cases h' with
    | file hp' _ _ => simp [hp'] at hp
    | absent _ => rfl

theorem Holds.unique (h : Holds env fs path m) (h' : Holds env fs path m') : m = m' := by
  obtain ⟨p, hp, hm⟩ := h
  obtain ⟨p', hp', hm'⟩ := h'
  cases hp.symm.trans hp'
  exact hm.unique hm'

def Sample.environment (address : Text) : Environment where
  entries := [("XDG_CONFIG_HOME", "/x"), ("VAAS_URL", address), ("CLIENT_ID", "i"), ("VAAS_TIMEOUT", []),
    ("VAAS_KEEP_ALIVE", " Off "), ("VAAS_USE_CACHE", "YES")]
  account := none

def Sample.lines : Text := "url: a\nclient_secret: s\ntimeout: soon\n"

def Sample.mapping : Mapping :=
  [(.text "url", .text "a"), (.text "client_secret", .text "s"), (.text "timeout", .text "soon")]

def Sample.files : FileSystem :=
  FileSystem.empty.addFile (Path.target "/x/vaas/config.yaml") (Utf8.encode Sample.lines)

def Sample.settings (address : Text) : Config where
  get
    | .url => .text address
    | .tokenUrl => .text defaultTokenUrl
    | .clientId => .text "i"
    | .clientSecret => .text "s"
    | .timeout => .text "soon"
    | .useCache => .bool true
    | .uploadTimeout | .keepAlive | .useHashLookup => .null

end Config

end VerdictClient
