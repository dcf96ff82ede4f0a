import ConnectionPool.Proofs.Grammar
import ConnectionPool.Proofs.Members
import ConnectionPool.Proofs.RoundTrip
import ConnectionPool.Statistics

/-! Configurations, statistics and settings come back from their own JSON text, whatever their texts,
numbers and times are. An object that gives some fields of a configuration changes these and no others,
however it is spelled and whatever else it holds. -/
namespace ConnectionPool

section Texts

variable {α : Type} {shape : Shape α} {a : α}

theorem Document.numberWritable (n : UInt64) : Json.Writable (.ofUInt64 n) :=
  .integer (by omega) (Int.ofNat_lt.mpr n.toNat_lt_size)

theorem Document.tableWritable {β : Type} {entries : List β} {name : β → String} {value : β → Document}
    (each : ∀ e ∈ entries, Json.Writable (value e)) :
    Json.Writable (.table (entries.map fun e => (some (name e), value e))) := by
  refine .table (fun m member => ?_) fun m member => ?_
  all_goals obtain ⟨e, inside, rfl⟩ := List.mem_map.mp member
  · exact each e inside
  · rfl

theorem Document.namedWritable {members : List (String × Document)}
    (each : ∀ m ∈ members, Json.Writable m.2) : Json.Writable (.named members) := tableWritable each

theorem Document.propertiesWritable (p : Properties) : Json.Writable (.ofProperties p) :=
  tableWritable fun e _ => .text e.2

theorem Shape.encodeWritable
    (each : ∀ field ∈ shape.fields, ∀ d, field.write a = some d → Json.Writable d) :
    Json.Writable (shape.encode a) := by
  refine Document.namedWritable fun m member => ?_
  obtain ⟨field, inside, written⟩ := List.mem_filterMap.mp member
  obtain ⟨d, value, rfl⟩ := Option.map_eq_some_iff.mp written
  exact each field inside d value

theorem Document.writtenSpells {d : Document} (h : Json.Writable d) :
    Json.Spells (String.ofList (Json.write d)).toList d := by
  rw [String.toList_ofList]
  exact h.spells

namespace Shape

def toJson (shape : Shape α) (a : α) : String := String.ofList (Json.write (shape.encode a))

def ofJson (shape : Shape α) (text : String) : Decoded α := Json.decode (shape.decode .json) text

theorem jsonBack (writable : Json.Writable (shape.encode a))
    (back : shape.decode .json (shape.encode a) = .ok a) : shape.ofJson (shape.toJson a) = .ok a := by
  rw [ofJson, toJson, (Document.writtenSpells writable).decode, back]

def RefusesRepeats (shape : Shape α) : Prop :=
  ∀ (name : String) (before after : List (String × Document)) (d : Document) (text : String),
    name ∈ shape.names → name ∈ before.map (·.1) →
    Json.Spells text.toList (.named (before ++ (name, d) :: after)) →
      (∃ failure, shape.ofJson text = .error failure) ∧
      ((∃ a, shape.decode .json (.named before) = .ok a) →
        shape.ofJson text = .error (.duplicateField name))

theorem refusesRepeats (shape : Shape α) : shape.RefusesRepeats := by
  intro name before after d text known given spelled
  rw [ofJson, spelled.decode]
  exact repeatRefused known given

end Shape

end Texts

section Members

variable {α β : Type} {shape : Shape α} {format : Format} {a c : α} {name : String}

theorem Shape.Takes.maybe {required : Bool} {read : Format → Document → Decoded β}
    {write : β → Option Document} {get : α → β} {set : β → α → α} {shown : β → Document}
    {others : List (Option (String × Document))} {v : Option β}
    (found : shape.fields.find? (·.name == name) = some (.of name required read write get set))
    (back : ∀ v, read format (shown v) = .ok v) (same : set (get a) a = a)
    (later : shape.Takes format others.reduceOption (set (v.getD (get a)) a) c) :
    shape.Takes format ((v.map fun v => (name, shown v)) :: others).reduceOption a c := by
  cases v with
  | none =>
    rw [Option.getD_none, same] at later
    exact later
  | some v => exact .field found (by simp [Field.of, back, Except.map]) later

theorem namesMaybe {names : List String} {shown : β → Document}
    {others : List (Option (String × Document))} {v : Option β}
    (later : (others.reduceOption.map (·.1)).Sublist names) :
    (((v.map fun v => (name, shown v)) :: others).reduceOption.map (·.1)).Sublist (name :: names) := by
  cases v with
  | none => exact .cons _ later
  | some v => exact .cons_cons _ later

end Members

namespace Config

theorem writable (c : Config) : Json.Writable (shape.encode c) := by
  apply Shape.encodeWritable
  simp only [shape, numberField, List.forall_mem_cons, Field.of, Option.some.injEq, forall_eq']
  simp [Document.numberWritable, Json.Writable.bool, Json.Writable.text]

structure Changes where
  maxActive : Option UInt64
  maxIdle : Option UInt64
  maxCheckoutMillis : Option UInt64
  waitMillis : Option UInt64
  badTolerance : Option UInt64
  pingEnabled : Option Bool
  pingQuery : Option String
  pingThresholdMillis : Option UInt64

namespace Changes

def applied (g : Changes) (c : Config) : Config where
  maxActive := g.maxActive.getD c.maxActive
  maxIdle := g.maxIdle.getD c.maxIdle
  maxCheckoutMillis := g.maxCheckoutMillis.getD c.maxCheckoutMillis
  waitMillis := g.waitMillis.getD c.waitMillis
  badTolerance := g.badTolerance.getD c.badTolerance
  pingEnabled := g.pingEnabled.getD c.pingEnabled
  pingQuery := g.pingQuery.getD c.pingQuery
  pingThresholdMillis := g.pingThresholdMillis.getD c.pingThresholdMillis

def members (g : Changes) : List (String × Document) :=
  [g.maxActive.map fun n => ("max_active", .ofUInt64 n),
    g.maxIdle.map fun n => ("max_idle", .ofUInt64 n),
    g.maxCheckoutMillis.map fun n => ("max_checkout_time_ms", .ofUInt64 n),
    g.waitMillis.map fun n => ("time_to_wait_ms", .ofUInt64 n),
    g.badTolerance.map fun n => ("bad_connection_tolerance", .ofUInt64 n),
    g.pingEnabled.map fun b => ("ping_enabled", .bool b),
    g.pingQuery.map fun s => ("ping_query", .text s),
    g.pingThresholdMillis.map fun n => ("ping_idle_threshold_ms", .ofUInt64 n)].reduceOption

end Changes

theorem independent (format : Format) : shape.fields.Pairwise (Shape.Independent format) := by
  simp only [shape, numberField, List.pairwise_cons, List.forall_mem_cons]
  and_intros <;> first | exact Shape.setsApart fun _ _ _ => rfl | simp

theorem Changes.taken (format : Format) (g : Changes) (c : Config) :
    shape.Takes format g.members c (g.applied c) := by
  have number {name kind : String} {get : Config → UInt64} {set : UInt64 → Config → Config}
      {others : List (Option (String × Document))} {v : Option UInt64} {a c : Config}
      (found : shape.fields.find? (·.name == name) = some (numberField name kind get set))
      (same : set (get a) a = a)
      (later : shape.Takes format others.reduceOption (set (v.getD (get a)) a) c) :
      shape.Takes format ((v.map fun n => (name, .ofUInt64 n)) :: others).reduceOption a c :=
    .maybe found (Document.numberBack kind) same later
  exact number rfl rfl (number rfl rfl (number rfl rfl (number rfl rfl (number rfl rfl
    (.maybe rfl (fun _ => rfl) rfl (.maybe rfl (fun _ => rfl) rfl (number rfl rfl (.done _))))))))

theorem Changes.distinct (g : Changes) : (g.members.map (·.1)).Nodup := by
  have names : (g.members.map (·.1)).Sublist shape.names :=
    namesMaybe (namesMaybe (namesMaybe (namesMaybe (namesMaybe (namesMaybe (namesMaybe
      (namesMaybe (.refl _))))))))
  exact names.nodup (by decide)

end Config

theorem Duration.partsBack (d : Duration) : ofParts? d.secs.toUInt64 d.subsecNanos.toUInt32 = some d := by
  have limit := d.nanos_lt
  have secs : d.secs.toUInt64.toNat = d.secs := UInt64.toNat_ofNat_of_lt' (by
    rw [Duration.secs, UInt64.size]
    omega)
  have rest : d.subsecNanos.toUInt32.toNat = d.subsecNanos := UInt32.toNat_ofNat_of_lt' (by
    rw [Duration.subsecNanos, UInt32.size]
    omega)
  have total : d.secs * 1000000000 + d.subsecNanos = d.nanos := Nat.div_add_mod' d.nanos 1000000000
  simp only [ofParts?, secs, rest, total]
  exact dif_pos limit

namespace Statistics

theorem nanosBack (n : UInt32) : (Document.integer n.toNat).asUInt32 = .ok n := by
  rw [Document.asUInt32, Document.naturalBack "u32" n.toNat_lt_size]
  exact congrArg Except.ok (UInt32.ofNat_toNat (x := n))

theorem partsTaken {parts : UInt64 × UInt32} {d : Duration}
    (h : Duration.ofParts? parts.1 parts.2 = some d) : durationOfParts parts = .ok d := by
  -- Unfolded before it is applied: on its arguments it would be run, counting up to the limit.
  obtain ⟨taken, same⟩ : ∃ taken, taken = durationOfParts := ⟨_, rfl⟩
  rw [← same]
  delta durationOfParts at same
  simp only [same, h]

theorem durationBack (format : Format) (d : Duration) : readDuration format (writeDuration d) = .ok d := by
  have filled : Shape.Filled format (d.secs.toUInt64, d.subsecNanos.toUInt32) durationShape.fields
      durationShape.blank := .always (Document.numberBack "u64" _) (.always (nanosBack _) .done)
  rw [readDuration, writeDuration, Shape.backAs durationOfParts (by decide) filled]
  exact partsTaken d.partsBack

theorem filled (format : Format) (s : Statistics) : Shape.Filled format s shape.fields shape.blank := by
  have count {name kind : String} {fields : List (Field Statistics)} {get : Statistics → UInt64}
      {set : UInt64 → Statistics → Statistics} {b : Statistics}
      (later : Shape.Filled format s fields (set (get s) b)) :
      Shape.Filled format s (countField name kind get set :: fields) b :=
    .always (Document.numberBack kind (get s)) later
  have time {name : String} {fields : List (Field Statistics)} {get : Statistics → Duration}
      {set : Duration → Statistics → Statistics} {b : Statistics}
      (later : Shape.Filled format s fields (set (get s) b)) :
      Shape.Filled format s (timeField name get set :: fields) b :=
    .always (durationBack format (get s)) later
  exact count (count (count (time (time (count (time (count (time (count .done)))))))))

theorem durationWritable (d : Duration) : Json.Writable (writeDuration d) := by
  have small (n : UInt32) : (n.toNat : Int) < UInt64.size :=
    Int.ofNat_lt.mpr (Nat.lt_trans n.toNat_lt_size (by decide))
  have nanos (n : UInt32) : Json.Writable (.integer n.toNat) := .integer (by omega) (small n)
  apply Shape.encodeWritable
  simp only [durationShape, List.forall_mem_cons, Field.of, Option.some.injEq, forall_eq']
  exact ⟨Document.numberWritable _, nanos _, by simp⟩

theorem writable (s : Statistics) : Json.Writable (shape.encode s) := by
  apply Shape.encodeWritable
  simp only [shape, countField, timeField, List.forall_mem_cons, Field.of, Option.some.injEq, forall_eq']
  simp [Document.numberWritable, durationWritable]

end Statistics

namespace Settings

theorem writable (s : Settings) : Json.Writable (shape.encode s) := by
  apply Shape.encodeWritable
  have texts (v : Option String) (d : Document) (h : v.map .text = some d) : Json.Writable d := by
    obtain ⟨s, _, rfl⟩ := Option.map_eq_some_iff.mp h
    exact .text s
  have level (v : Option Isolation) (d : Document) (h : v.map Isolation.encode = some d) :
      Json.Writable d := by
    obtain ⟨l, _, rfl⟩ := Option.map_eq_some_iff.mp h
    exact .text l.tag
  simp only [shape, List.forall_mem_cons, Field.of, Option.some.injEq, forall_eq']
  exact ⟨.text _, .text _, texts _, texts _, .bool _, level _, Document.propertiesWritable _,
    Config.writable _, by simp⟩

end Settings

theorem jsonRoundTrip :
    (∀ c, Config.shape.ofJson (Config.shape.toJson c) = .ok c) ∧
    (∀ s, Statistics.shape.ofJson (Statistics.shape.toJson s) = .ok s) ∧
    (∀ s, Settings.shape.ofJson (Settings.shape.toJson s) = .ok s) ∧
    (∀ (g : Config.Changes) (members : List (String × Document)) (text : String),
      Json.Spells text.toList (.named members) → (members.filter Config.shape.knows).Perm g.members →
      Config.shape.ofJson text = .ok (g.applied .standard)) ∧
    Config.shape.RefusesRepeats ∧ Statistics.shape.RefusesRepeats ∧ Settings.shape.RefusesRepeats := by
  refine ⟨fun c => Shape.jsonBack c.writable (Config.back .json c),
    fun s => Shape.jsonBack s.writable (Shape.back (by decide) (s.filled .json)),
    fun s => Shape.jsonBack s.writable (s.back .json), ?_, Shape.refusesRepeats _,
    Shape.refusesRepeats _, Shape.refusesRepeats _⟩
  intro g members text spelled order
  have free : ∀ field ∈ Config.shape.fields, field.required = true → field.name ∈ g.members.map (·.1) := by
    simp [Config.shape, Config.numberField, Field.of]
  rw [Shape.ofJson, spelled.decode]
  exact Shape.Takes.decode rfl (Config.independent .json) g.distinct order free (g.taken .json .standard)

def someMembers : List (String × Document) :=
  [("ping_query", .text "SELECT \"\n\""), ("min_idle", .list [.null]), ("max_idle", .ofUInt64 7)]

theorem jsonRoundTripSome :
    Config.shape.ofJson (String.ofList (Json.write (.named someMembers))) =
      .ok { Config.standard with maxIdle := 7, pingQuery := "SELECT \"\n\"" } ∧
    Config.shape.ofJson (String.ofList (Json.write (.named (someMembers ++ [("max_idle", .null)])))) =
      .error (.duplicateField "max_idle") := by
  obtain ⟨_, _, _, changed, refused, _⟩ := jsonRoundTrip
  have writable : ∀ m ∈ someMembers ++ [("max_idle", .null)], Json.Writable m.2 := by
    simp [someMembers, Json.Writable.text, Json.Writable.null, Document.numberWritable, Json.Writable.list]
  have once := Document.writtenSpells (Document.namedWritable fun m member =>
    writable m (List.mem_append_left _ member))
  have twice := Document.writtenSpells (Document.namedWritable writable)
  have given := changed ⟨none, some 7, none, none, none, none, some "SELECT \"\n\"", none⟩ someMembers _
    once (.swap _ _ _)
  refine ⟨given, (refused "max_idle" someMembers [] .null _ (by decide) (by decide) twice).2 ?_⟩
  rw [Shape.ofJson, once.decode] at given
  exact ⟨_, given⟩

end ConnectionPool
