import IncidentDigest.Proofs.Json.Objects
import IncidentDigest.Proofs.Record.Fields

/-!
# Records survive writing

The three kinds of records differ in their known fields and in nothing else.  `RecordKind` says
what a kind consists of, and `Lawful` how its parts belong together: its written fields give the
record back when they are read, and none of them is an unknown member.  From this follow, for all
kinds at once, which texts are read, what the written object holds, and that it is read as the
same record.
-/

namespace IncidentDigest

/-! ## 1. Other members -/

namespace Extras

/-- Members that a record carries along: sorted, and none of them is a known field. -/
structure Apart (known : List String) (extras : Extras) : Prop where
  sorted : Json.SortedKeys extras
  unknown : ∀ m ∈ extras, m.1 ∉ known

theorem apart_others (known : List String) (members : List (String × Json)) :
    (others known members).Apart known where
  sorted := Json.sortedKeys_sortMembers _
  unknown := by
    intro m hm
    have hfiltered := Json.mem_of_mem_sortMembers hm
    simpa using (List.mem_filter.mp hfiltered).2

theorem mem_of_mem_others {known : List String} {members : List (String × Json)}
    {m : String × Json} (h : m ∈ others known members) : m ∈ members :=
  List.mem_of_mem_filter (Json.mem_of_mem_sortMembers h)

/-- An unknown key keeps its last value. -/
theorem member?_others {known : List String} {key : String} (hkey : key ∉ known)
    (members : List (String × Json)) :
    Json.member? key (others known members) = Json.member? key members.reverse := by
  rw [others, Json.member?_sortMembers, ← List.filter_reverse]
  unfold Json.member?
  rw [List.find?_filter]
  congr 2
  funext m
  by_cases hm : m.1 = key
  · simp [hm, hkey]
  · simp [hm]

end Extras

theorem Json.member?_append {α : Type} (key : String) (ms ns : List (String × α)) :
    Json.member? key (ms ++ ns) = (Json.member? key ms).or (Json.member? key ns) := by
  unfold Json.member?
  rw [List.find?_append, Option.map_or]

theorem Json.member?_eq_none {α : Type} {key : String} {ms : List (String × α)}
    (h : ∀ m ∈ ms, m.1 ≠ key) : Json.member? key ms = none := by
  unfold Json.member?
  rw [Option.map_eq_none_iff, List.find?_eq_none]
  intro m hm
  simpa using h m hm

/-! ## 2. Kinds of records -/

/-- A kind of record: how it is read and written, and what it is made of. -/
structure RecordKind (α : Type) where
  known : List String
  shape : Json.Shape α
  toJson : α → Json
  extras : α → Extras
  /-- The record with these values of the known fields and these other members. -/
  build : List (Option Json) → Extras → α
  /-- The known fields as they are written. -/
  fields : α → List (String × Json)

namespace RecordKind

variable {α : Type}

def read? (k : RecordKind α) (text : String) : Option α := k.shape.readText? text

def write (k : RecordKind α) (indented : Bool) (r : α) : String := (k.toJson r).render indented

/-- How the parts of a kind belong together. -/
structure Lawful (k : RecordKind α) : Prop where
  shape_eq : ∀ room w, k.shape room w = (Json.Shape.members room w).bind fun ms =>
    (Extras.split? k.known ms).map fun p => k.build p.1 p.2
  toJson_eq : ∀ r, k.toJson r = .obj (k.fields r ++ k.extras r)
  extras_build : ∀ values extras, k.extras (k.build values extras) = extras
  /-- The written fields read back as the record. -/
  build_fields : ∀ r,
    k.build (k.known.map fun field => Json.member? field (k.fields r)) (k.extras r) = r
  nodup : k.known.Nodup
  sublist : ∀ r, ((k.fields r).map (·.1)).Sublist k.known
  fits : ∀ r, ∀ m ∈ k.fields r, Json.FitsMember m.2

namespace Lawful

variable {k : RecordKind α}

theorem read?_eq (hk : k.Lawful) (text : String) :
    k.read? text = (Json.membersOf? text).bind fun ms =>
      (Extras.split? k.known ms).map fun p => k.build p.1 p.2 := by
  unfold read? Json.membersOf? Json.Shape.readText?
  cases Json.Written.ofText? text with
  | none => rfl
  | some w => exact hk.shape_eq _ w

/-- A record that has been read is built from the members of its text. -/
theorem read?_eq_some_iff (hk : k.Lawful) {text : String} {r : α} :
    k.read? text = some r ↔ ∃ ms, Json.membersOf? text = some ms ∧
      Extras.Unrepeated k.known ms ∧
      k.build (k.known.map fun field => Json.member? field ms) (Extras.others k.known ms) = r := by
  rw [hk.read?_eq, Option.bind_eq_some_iff]
  apply exists_congr
  intro ms
  apply and_congr_right
  intro _
  by_cases h : Extras.Unrepeated k.known ms
  · simp [Extras.split?_of_unrepeated h, h]
  · simp [Extras.split?_of_repeated h, h]

/-! ## 3. The written object -/

theorem key_mem_known (hk : k.Lawful) {r : α} {m : String × Json} (hm : m ∈ k.fields r) :
    m.1 ∈ k.known :=
  (hk.sublist r).subset (List.mem_map_of_mem hm)

/-- No key is written twice. -/
theorem nodup_keys (hk : k.Lawful) {r : α} (hr : (k.extras r).Apart k.known) :
    ((k.fields r ++ k.extras r).map (·.1)).Nodup := by
  rw [List.map_append, List.nodup_append]
  refine ⟨hk.nodup.sublist (hk.sublist r), ?_, ?_⟩
  · have hsorted : ((k.extras r).map (·.1)).Pairwise (· < ·) := List.pairwise_map.mpr hr.sorted
    exact hsorted.imp ne_of_lt
  · intro field hfield key hkey
    obtain ⟨m, hm, rfl⟩ := List.mem_map.mp hkey
    rintro rfl
    exact hr.unknown m hm ((hk.sublist r).subset hfield)

theorem member?_unknown (hk : k.Lawful) (r : α) {key : String} (hkey : key ∉ k.known) :
    Json.member? key (k.fields r ++ k.extras r) = Json.member? key (k.extras r) := by
  rw [Json.member?_append, Json.member?_eq_none, Option.none_or]
  rintro m hm rfl
  exact hkey (hk.key_mem_known hm)

theorem member?_known {r : α} (hr : (k.extras r).Apart k.known) {field : String}
    (hfield : field ∈ k.known) :
    Json.member? field (k.fields r ++ k.extras r) = Json.member? field (k.fields r) := by
  have hnone : Json.member? field (k.extras r) = none := by
    apply Json.member?_eq_none
    rintro m hm rfl
    exact hr.unknown m hm hfield
  rw [Json.member?_append, hnone, Option.or_none]

theorem others_written (hk : k.Lawful) {r : α} (hr : (k.extras r).Apart k.known) :
    Extras.others k.known (k.fields r ++ k.extras r) = k.extras r := by
  have hfields : (k.fields r).filter (fun m => !k.known.contains m.1) = [] := by
    apply List.filter_eq_nil_iff.mpr
    intro m hm
    simp [hk.key_mem_known hm]
  have hextras : (k.extras r).filter (fun m => !k.known.contains m.1) = k.extras r := by
    apply List.filter_eq_self.mpr
    intro m hm
    simp [hr.unknown m hm]
  rw [Extras.others, List.filter_append, hfields, hextras, List.nil_append]
  exact Json.sortMembers_of_sortedKeys hr.sorted

/-- A key that stands once is not repeated. -/
theorem unrepeated_of_nodup {known : List String} {ms : List (String × Json)}
    (h : (ms.map (·.1)).Nodup) : Extras.Unrepeated known ms := by
  intro field _
  have hcount := List.nodup_iff_count_le_one.mp h field
  rw [List.count_eq_countP, List.countP_map, List.countP_eq_length_filter] at hcount
  exact hcount

/-- **Written and read again, a record is the same**, as far as its other members hold no
floating-point number. -/
theorem read?_write (hk : k.Lawful) {r : α} (hr : (k.extras r).Apart k.known) {indented : Bool}
    (hmembers : Json.membersOf? (k.write indented r) = some (k.fields r ++ k.extras r)) :
    k.read? (k.write indented r) = some r := by
  apply hk.read?_eq_some_iff.mpr
  refine ⟨_, hmembers, unrepeated_of_nodup (hk.nodup_keys hr), ?_⟩
  have hvalues : (k.known.map fun field => Json.member? field (k.fields r ++ k.extras r)) =
      k.known.map fun field => Json.member? field (k.fields r) := by
    apply List.map_congr_left
    intro field hfield
    exact member?_known hr hfield
  rw [hvalues, hk.others_written hr]
  exact hk.build_fields r

end Lawful

/-! ## 4. Any text -/

/-- What holds of a text that may be a record. -/
structure RoundTrips (k : RecordKind α) (text : String) : Prop where
  /-- An object is read, whatever its fields hold, unless a known field is repeated. -/
  read_iff : (∃ r, k.read? text = some r) ↔
    (∃ object, Json.read? text = some (.obj object)) ∧
      ∀ members, Json.membersOf? text = some members → Extras.Unrepeated k.known members
  /-- The written object holds no key twice, and each unknown key with its last value; and
  without floating-point numbers among the other members its text holds just that, and is read
  as the same record, whose text is the same again. -/
  survives : ∀ r, k.read? text = some r →
    ∃ members written, Json.membersOf? text = some members ∧ k.toJson r = .obj written ∧
      (written.map (·.1)).Nodup ∧
      (∀ key, key ∉ k.known → Json.member? key written = Json.member? key members.reverse) ∧
      ((∀ m ∈ k.extras r, m.2.isFloatFree = true) → ∀ indented,
        Json.membersOf? (k.write indented r) = some written ∧
        k.read? (k.write indented r) = some r ∧
        (k.read? (k.write indented r)).map (k.write indented) = some (k.write indented r))

theorem Lawful.roundTrips {k : RecordKind α} (hk : k.Lawful) (text : String) :
    k.RoundTrips text where
  read_iff := by
    rw [← Json.exists_membersOf?_iff]
    constructor
    · rintro ⟨r, hr⟩
      obtain ⟨ms, hms, hunrepeated, -⟩ := hk.read?_eq_some_iff.mp hr
      refine ⟨⟨ms, hms⟩, ?_⟩
      intro members hmembers
      obtain rfl : ms = members := Option.some.inj (hms.symm.trans hmembers)
      exact hunrepeated
    · rintro ⟨⟨ms, hms⟩, hunrepeated⟩
      exact ⟨_, hk.read?_eq_some_iff.mpr ⟨ms, hms, hunrepeated ms hms, rfl⟩⟩
  survives := by
    intro r hr
    obtain ⟨ms, hms, -, hbuild⟩ := hk.read?_eq_some_iff.mp hr
    have hextras : k.extras r = Extras.others k.known ms := by
      rw [← hbuild, hk.extras_build]
    have hapart : (k.extras r).Apart k.known := by
      rw [hextras]
      exact Extras.apart_others k.known ms
    refine ⟨ms, k.fields r ++ k.extras r, hms, hk.toJson_eq r, hk.nodup_keys hapart, ?_, ?_⟩
    · intro key hkey
      rw [hk.member?_unknown r hkey, hextras, Extras.member?_others hkey]
    · intro hfree indented
      have hfits : ∀ m ∈ k.fields r ++ k.extras r, Json.FitsMember m.2 := by
        intro m hm
        rcases List.mem_append.mp hm with hfield | hextra
        · exact hk.fits r m hfield
        · have hread : m ∈ ms := Extras.mem_of_mem_others (hextras ▸ hextra)
          exact Json.fitsMember_of_membersOf? hms hread (hfree m hextra)
      have hmembers : Json.membersOf? (k.write indented r) =
          some (k.fields r ++ k.extras r) := by
        rw [write, hk.toJson_eq]
        exact Json.membersOf?_render hfits indented
      have hread := hk.read?_write hapart hmembers
      refine ⟨hmembers, hread, ?_⟩
      rw [hread, Option.map_some]

end RecordKind

/-! ## 5. The three kinds -/

theorem Json.fitsMember_str (s : String) : Json.FitsMember (.str s) :=
  ⟨.str s, Nat.zero_le _⟩

theorem Extras.mem_member {field : String} {value : Option String} {m : String × Json}
    (h : m ∈ Extras.member field value) : ∃ s, m = (field, .str s) := by
  cases value with
  | none => cases h
  | some s => exact ⟨s, List.mem_singleton.mp h⟩

theorem Extras.fitsMember_member {field : String} {value : Option String} {m : String × Json}
    (h : m ∈ Extras.member field value) : Json.FitsMember m.2 := by
  obtain ⟨s, rfl⟩ := Extras.mem_member h
  exact Json.fitsMember_str s

namespace MonitoringRecord

def kind : RecordKind MonitoringRecord where
  known := ["tags", "name"]
  shape := shape
  toJson := toJson
  extras := extras
  build values extras := ⟨tagsOf values[0]?.join, labelOf values[1]?.join, extras⟩
  fields r := ("tags", .arr (r.tags.map .str)) :: Extras.member "name" r.name

theorem tagsOf_map_str (tags : List String) : tagsOf (some (.arr (tags.map .str))) = tags := by
  simp [tagsOf, List.filterMap_map]

theorem fitsMember_tags (tags : List String) : Json.FitsMember (.arr (tags.map .str)) := by
  constructor
  · apply Json.Exact.arr
    intro v hv
    obtain ⟨s, -, rfl⟩ := List.mem_map.mp hv
    exact .str s
  · have hitems : Json.depthOfItems (tags.map .str) ≤ 0 := by
      apply Json.depthOfItems_le
      intro v hv
      obtain ⟨s, -, rfl⟩ := List.mem_map.mp hv
      exact Nat.le_refl 0
    rw [Json.depth, Nat.le_zero.mp hitems]
    decide

theorem lawful_kind : kind.Lawful where
  shape_eq := by
    intro room w
    change (Json.Shape.members room w).bind ofMembers? = _
    congr 1
    funext ms
    by_cases h : Extras.Unrepeated ["tags", "name"] ms
    · simp [ofMembers?, kind, Extras.split?_of_unrepeated h]
    · simp [ofMembers?, kind, Extras.split?_of_repeated h]
  toJson_eq _ := rfl
  extras_build _ _ := rfl
  build_fields := by
    rintro ⟨tags, name, extras⟩
    have htags := tagsOf_map_str tags
    cases name with
    | none => simpa [kind, Extras.member, Json.member?, labelOf] using htags
    | some s => simpa [kind, Extras.member, Json.member?, labelOf, Json.label?] using htags
  nodup := by decide
  sublist := by
    rintro ⟨tags, name, extras⟩
    cases name with
    | none => simp [kind, Extras.member]
    | some s => simp [kind, Extras.member]
  fits := by
    intro r m hm
    rcases List.mem_cons.mp hm with rfl | hm
    · exact fitsMember_tags r.tags
    · exact Extras.fitsMember_member hm

end MonitoringRecord

namespace ScenarioSummary

def kind : RecordKind ScenarioSummary where
  known := ["scenario_id", "title"]
  shape := shape
  toJson := toJson
  extras := extras
  build values extras := ⟨labelOf values[0]?.join, labelOf values[1]?.join, extras⟩
  fields s := Extras.member "scenario_id" s.id ++ Extras.member "title" s.title

theorem lawful_kind : kind.Lawful where
  shape_eq := by
    intro room w
    change (Json.Shape.members room w).bind ofMembers? = _
    congr 1
    funext ms
    by_cases h : Extras.Unrepeated ["scenario_id", "title"] ms
    · simp [ofMembers?, kind, Extras.split?_of_unrepeated h]
    · simp [ofMembers?, kind, Extras.split?_of_repeated h]
  toJson_eq _ := rfl
  extras_build _ _ := rfl
  build_fields := by
    rintro ⟨id, title, extras⟩
    cases id <;> cases title
    all_goals simp [kind, Extras.member, Json.member?, labelOf, Json.label?]
  nodup := by decide
  sublist := by
    rintro ⟨id, title, extras⟩
    cases id <;> cases title
    all_goals simp [kind, Extras.member]
  fits := by
    intro s m hm
    rcases List.mem_append.mp hm with hm | hm
    all_goals exact Extras.fitsMember_member hm

end ScenarioSummary

namespace ChatMessage

def kind : RecordKind ChatMessage where
  known := ["user", "text", "ts"]
  shape := shape
  toJson := toJson
  extras := extras
  build values extras :=
    ⟨labelOf values[0]?.join, labelOf values[1]?.join, labelOf values[2]?.join, extras⟩
  fields m := Extras.member "user" m.user ++ Extras.member "text" m.text ++
    Extras.member "ts" m.time

theorem lawful_kind : kind.Lawful where
  shape_eq := by
    intro room w
    change (Json.Shape.members room w).bind ofMembers? = _
    congr 1
    funext ms
    by_cases h : Extras.Unrepeated ["user", "text", "ts"] ms
    · simp [ofMembers?, kind, Extras.split?_of_unrepeated h]
    · simp [ofMembers?, kind, Extras.split?_of_repeated h]
  toJson_eq _ := rfl
  extras_build _ _ := rfl
  build_fields := by
    rintro ⟨user, text, time, extras⟩
    cases user <;> cases text <;> cases time
    all_goals simp [kind, Extras.member, Json.member?, labelOf, Json.label?]
  nodup := by decide
  sublist := by
    rintro ⟨user, text, time, extras⟩
    cases user <;> cases text <;> cases time
    all_goals simp [kind, Extras.member]
  fits := by
    intro r m hm
    rcases List.mem_append.mp hm with hm | hm
    · rcases List.mem_append.mp hm with hm | hm
      all_goals exact Extras.fitsMember_member hm
    · exact Extras.fitsMember_member hm

end ChatMessage

/-- **Records survive writing**, of all three kinds and from any text: dropped and converted
values stay as they are when they are read again, and nothing else is lost. -/
theorem records_survive_writing (text : String) :
    MonitoringRecord.kind.RoundTrips text ∧ ChatMessage.kind.RoundTrips text ∧
      ScenarioSummary.kind.RoundTrips text :=
  ⟨MonitoringRecord.lawful_kind.roundTrips text, ChatMessage.lawful_kind.roundTrips text,
    ScenarioSummary.lawful_kind.roundTrips text⟩

/-- A tag that is no string is dropped, a number becomes a name, and the last `x` counts. -/
example : (MonitoringRecord.kind.read?
    "\x7b\"x\":1,\"name\":5,\"x\":[null],\"tags\":[\"a\",7]\x7d").map
      (MonitoringRecord.kind.write false) =
    some "\x7b\"tags\":[\"a\"],\"name\":\"5\",\"x\":[null]\x7d" := by decide +kernel

end IncidentDigest
