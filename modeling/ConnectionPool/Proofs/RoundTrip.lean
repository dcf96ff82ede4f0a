import ConnectionPool.Proofs.Shapes
import ConnectionPool.Proofs.Sheets
import ConnectionPool.Proofs.Signed
import ConnectionPool.Settings.File

/-! Settings come back from their own TOML text, whatever their texts and properties are. They have one
unless a number of the pool is beyond the signed ones of 64 bits, and no text gives settings like
that. -/
namespace ConnectionPool

section Values

variable {format : Format}

theorem Document.naturalBack {limit n : Nat} (kind : String) (small : n < limit) :
    (Document.integer n).asNatural limit kind = .ok n := by
  have within : (0 : Int) ≤ n ∧ (n : Int) < limit := ⟨Int.natCast_nonneg _, Int.ofNat_lt.mpr small⟩
  rw [asNatural, if_pos within, Int.toNat_natCast]

theorem Document.numberBack (kind : String) (n : UInt64) :
    (Document.ofUInt64 n).asUInt64 kind = .ok n := by
  rw [asUInt64, ofUInt64, naturalBack kind n.toNat_lt_size]
  exact congrArg Except.ok (UInt64.ofNat_toNat (x := n))

theorem Document.numberSmall {d : Document} {kind : String} {n : UInt64} (signed : d.Signed)
    (h : d.asUInt64 kind = .ok n) : n.toNat ≤ 0x7fffffffffffffff := by
  obtain ⟨m, natural, rfl⟩ := Toml.mapSucceeds h
  cases signed with
  | integer small =>
    simp only [asNatural] at natural
    split at natural
    · cases natural
      simp only [Nat.toUInt64, UInt64.toNat_ofNat']
      omega
    · cases natural
  | _ => cases natural

theorem Document.Signed.inside {d : Document} (h : d.Signed) : Shape.Inside Document.Signed d := by
  constructor
  · intro members listed
    cases h with
    | table each => cases listed; exact each
    | moment s => cases listed; simpa using Signed.text s
    | _ => cases listed
  · intro items listed
    cases h with
    | list each => cases listed; exact each
    | _ => cases listed

theorem Isolation.back (level : Isolation) :
    decodeOptional format level.encode = .ok (some level) := by
  cases format <;> cases level <;> rfl

end Values

namespace Properties

variable {k v : String} {earlier entries : List (String × String)}

theorem putLast (above : ∀ e ∈ earlier, e.1 < k) : put k v earlier = earlier ++ [(k, v)] := by
  induction earlier with
  | nil => rfl
  | cons e earlier ih =>
    have less := above e List.mem_cons_self
    have tail := ih fun e member => above e (List.mem_cons_of_mem _ member)
    rw [put, if_neg (String.lt_asymm less), if_pos less, tail, List.cons_append]

theorem gathered {p whole : Properties} (same : whole.entries = p.entries ++ entries) :
    Document.gatherProperties (entries.map fun (k, v) => (some k, .text v)) p = .ok whole := by
  induction entries generalizing p with
  | nil =>
    obtain ⟨_, _⟩ := p
    obtain ⟨_, _⟩ := whole
    simp only [List.append_nil] at same
    cases same
    rfl
  | cons e entries ih =>
    have sorted := whole.sorted
    rw [same] at sorted
    have above : ∀ a ∈ p.entries, a.1 < e.1 := fun a member =>
      (List.pairwise_append.mp sorted).2.2 a member e List.mem_cons_self
    have rest := ih (p := p.insert e.1 e.2) (by simp [insert, putLast above, same])
    simpa [Document.gatherProperties, Document.asText] using rest

theorem back (p : Properties) : (Document.ofProperties p).asProperties = .ok p :=
  gathered (p := .empty) rfl

theorem distinct (p : Properties) : (p.entries.map (·.1)).Nodup := by
  rw [List.nodup_iff_pairwise_ne, List.pairwise_map]
  refine p.sorted.imp fun {a b} less same => ?_
  rw [same] at less
  exact String.lt_irrefl _ less

end Properties

namespace Config

def numbers (c : Config) : List UInt64 :=
  [c.maxActive, c.maxIdle, c.maxCheckoutMillis, c.waitMillis, c.badTolerance, c.pingThresholdMillis]

def Signed (c : Config) : Prop := ∀ n ∈ c.numbers, n.toNat ≤ 0x7fffffffffffffff

instance (c : Config) : Decidable c.Signed :=
  List.decidableBAll (fun n : UInt64 => n.toNat ≤ 0x7fffffffffffffff) c.numbers

theorem filled (format : Format) (c : Config) : Shape.Filled format c shape.fields shape.blank := by
  have number {name kind : String} {fields : List (Field Config)} {get : Config → UInt64}
      {set : UInt64 → Config → Config} {b : Config}
      (later : Shape.Filled format c fields (set (get c) b)) :
      Shape.Filled format c (numberField name kind get set :: fields) b :=
    .always (Document.numberBack kind (get c)) later
  exact number (number (number (number (number (.always rfl (.always rfl (number .done)))))))

theorem back (format : Format) (c : Config) : shape.decode format (shape.encode c) = .ok c :=
  shape.back (by decide) (filled format c)

theorem keeps : Shape.Keeps shape.fields .toml Document.Signed Signed := by
  have number {name kind : String} {get : Config → UInt64} {set : UInt64 → Config → Config}
      (kept : ∀ n c, (set n c).numbers ⊆ n :: c.numbers) :
      ∀ d a b, d.Signed → Signed a → (numberField name kind get set).read .toml d a = .ok b →
        Signed b := by
    intro d a b signed law h
    obtain ⟨n, read, rfl⟩ := Toml.mapSucceeds h
    intro m member
    rcases List.mem_cons.mp (kept n a member) with rfl | old
    · exact Document.numberSmall signed read
    · exact law m old
  have other {β : Type} {name : String} {read : Format → Document → Decoded β}
      {write : β → Option Document} {get : Config → β} {set : β → Config → Config}
      (kept : ∀ v c, (set v c).numbers = c.numbers) :
      ∀ d a b, d.Signed → Signed a → (Field.of name false read write get set).read .toml d a = .ok b →
        Signed b := by
    intro d a b signed law h
    obtain ⟨v, read, rfl⟩ := Toml.mapSucceeds h
    rw [Signed, kept]
    exact law
  simp only [Shape.Keeps, shape, List.forall_mem_cons]
  refine ⟨number ?_, number ?_, number ?_, number ?_, number ?_, other fun _ _ => rfl,
    other fun _ _ => rfl, number ?_, by simp⟩
  all_goals simp [numbers]

end Config

namespace Settings

def sheet (s : Settings) : Toml.Sheet where
  lines := [("driver", .text s.driver), ("url", .text s.url)] ++
    (s.username.map fun name => ("username", .text name)).toList ++
    (s.password.map fun word => ("password", .text word)).toList ++
    [("auto_commit", .bool s.autoCommit)] ++
    (s.isolation.map fun level => ("transaction_isolation", .text level.tag)).toList
  tables := [
    ("properties", s.properties.entries.map fun (k, v) => (k, .text v)),
    ("pool", [
      ("max_active", .integer s.pool.maxActive.toNat),
      ("max_idle", .integer s.pool.maxIdle.toNat),
      ("max_checkout_time_ms", .integer s.pool.maxCheckoutMillis.toNat),
      ("time_to_wait_ms", .integer s.pool.waitMillis.toNat),
      ("bad_connection_tolerance", .integer s.pool.badTolerance.toNat),
      ("ping_enabled", .bool s.pool.pingEnabled),
      ("ping_query", .text s.pool.pingQuery),
      ("ping_idle_threshold_ms", .integer s.pool.pingThresholdMillis.toNat)])]

variable (s : Settings)

theorem encoded : shape.encode s = s.sheet.document := by
  obtain ⟨driver, url, username, password, autoCommit, isolation, properties, pool⟩ := s
  have listed : Document.ofProperties properties =
      .table (Toml.lineMembers (properties.entries.map fun (k, v) => (k, .text v))) := by
    simp [Document.ofProperties, Toml.lineMembers, Toml.Plain.document]
  cases username <;> cases password <;> cases isolation <;>
    simp [shape, Shape.encode, Field.of, Document.named, sheet, Toml.Sheet.document, Toml.lineMembers,
      Toml.tableMembers, Toml.Plain.document, listed, Config.shape, Config.numberField,
      Document.ofUInt64, Isolation.encode]

theorem distinct : s.sheet.Distinct where
  outer := by
    obtain ⟨driver, url, username, password, autoCommit, isolation, properties, pool⟩ := s
    cases username <;> cases password <;> cases isolation <;> simp [sheet]
  inner := by
    simp only [sheet, List.forall_mem_cons]
    refine ⟨?_, by simp, by simp⟩
    simpa [Function.comp_def] using s.properties.distinct

theorem fits : ((∀ l ∈ s.sheet.lines, l.2.Fits) ∧ ∀ t ∈ s.sheet.tables, ∀ l ∈ t.2, l.2.Fits) ↔
    s.pool.Signed := by
  have limit (n : UInt64) :
      Toml.Plain.Fits (.integer n.toNat) ↔ n.toNat ≤ 0x7fffffffffffffff := by
    simp only [Toml.Plain.Fits]
    omega
  have text (s : String) : Toml.Plain.Fits (.text s) := trivial
  have bool (b : Bool) : Toml.Plain.Fits (.bool b) := trivial
  have lines : ∀ l ∈ s.sheet.lines, l.2.Fits := by
    obtain ⟨driver, url, username, password, autoCommit, isolation, properties, pool⟩ := s
    cases username <;> cases password <;> cases isolation <;> simp [sheet, text, bool]
  have properties : ∀ l ∈ s.properties.entries.map fun (k, v) => (k, Toml.Plain.text v), l.2.Fits := by
    intro l member
    obtain ⟨⟨k, v⟩, _, rfl⟩ := List.mem_map.mp member
    exact text v
  rw [and_iff_right lines]
  simp only [sheet, List.forall_mem_cons, limit, text, bool, Config.Signed, Config.numbers]
  rw [and_iff_right properties]
  simp

theorem filled (format : Format) : Shape.Filled format s shape.fields shape.blank :=
  .always rfl (.always rfl (.optional (fun _ => rfl) rfl (.optional (fun _ => rfl) rfl
    (.always rfl (.optional Isolation.back rfl
      (.always s.properties.back (.always (Config.back format s.pool) .done)))))))

theorem back (format : Format) : shape.decode format (shape.encode s) = .ok s :=
  shape.back (by decide) (filled s format)

theorem keeps : Shape.Keeps shape.fields .toml Document.Signed (fun s => s.pool.Signed) := by
  have other {β : Type} {name : String} {required : Bool} {read : Format → Document → Decoded β}
      {write : β → Option Document} {get : Settings → β} {set : β → Settings → Settings}
      (kept : ∀ v s, (set v s).pool = s.pool) :
      ∀ d a b, d.Signed → a.pool.Signed →
        (Field.of name required read write get set).read .toml d a = .ok b → b.pool.Signed := by
    intro d a b signed law h
    obtain ⟨v, read, rfl⟩ := Toml.mapSucceeds h
    rw [kept]
    exact law
  simp only [Shape.Keeps, shape, List.forall_mem_cons]
  refine ⟨other fun _ _ => rfl, other fun _ _ => rfl, other fun _ _ => rfl, other fun _ _ => rfl,
    other fun _ _ => rfl, other fun _ _ => rfl, other fun _ _ => rfl, ?_, by simp⟩
  intro d a b signed _ h
  obtain ⟨pool, read, rfl⟩ := Toml.mapSucceeds h
  exact Shape.kept Config.Signed Config.keeps (by decide) signed.inside read

variable {s} {text : String}

theorem tomlWritten : (∃ text, s.toToml = .ok text) ↔ s.pool.Signed := by
  rw [← s.fits, ← Toml.Sheet.written, ← s.encoded, toToml]
  cases Toml.write? (shape.encode s) with
  | none => simp
  | some text => simp

theorem tomlBack (h : s.toToml = .ok text) : ofToml text = .ok s := by
  unfold toToml at h
  split at h
  · rename_i characters written
    cases h
    have read : Toml.read characters = .ok (shape.encode s) := by
      rw [s.encoded] at written ⊢
      exact Toml.Sheet.back s.distinct written
    rw [ofToml, String.toList_ofList, read]
    dsimp only
    rw [back s .toml]
    rfl
  · cases h

theorem tomlSigned (h : ofToml text = .ok s) : s.pool.Signed := by
  unfold ofToml at h
  dsimp only at h
  split at h
  · rename_i d read
    cases decoded : shape.decode .toml d with
    | error e => rw [decoded] at h; cases h
    | ok found =>
      rw [decoded] at h
      cases h
      exact Shape.kept (fun s => s.pool.Signed) keeps (by decide) (Toml.readSigned read).inside decoded
  · cases h

/- The texts, the properties and whatever may be left out are free; only the numbers of the pool decide
whether there is a text. -/
theorem tomlRoundTrip (s : Settings) :
    ((∃ text, s.toToml = .ok text) ↔ ∀ n ∈ s.pool.numbers, n.toNat ≤ 0x7fffffffffffffff) ∧
      (∀ text, s.toToml = .ok text → ofToml text = .ok s) ∧
      ∀ text, ofToml text = .ok s → ∃ again, s.toToml = .ok again ∧ ofToml again = .ok s := by
  refine ⟨tomlWritten, fun text => tomlBack, fun text given => ?_⟩
  obtain ⟨again, written⟩ := tomlWritten.mpr (tomlSigned given)
  exact ⟨again, written, tomlBack written⟩

def marked : Settings :=
  { new "a\"b\\c" "it's\n\"\"\"" with
    username := some "\x00\t\r\n"
    isolation := some .serializable
    properties := .ofList [("", "'''\\"), ("a.b = \"\n\"", "\x7f")] }

theorem markedRoundTrip : ∃ text, marked.toToml = .ok text ∧ ofToml text = .ok marked := by
  have back := tomlRoundTrip marked
  have small : marked.pool.Signed := by decide
  obtain ⟨text, written⟩ := back.1.mpr small
  exact ⟨text, written, back.2.1 text written⟩

end Settings

end ConnectionPool
