import IncidentDigest.Proofs.Record.Fields
import IncidentDigest.Summary

/-!
# What facets look at

The facets of a record depend on few of its parts: for each of eight keys on the first tag that
begins with it, and on the name.  A change that leaves these alone is *unseen*.  `UnseenTags`
lists the unseen changes of a list of tags, and `UnseenChange` those of the members of an object
that a record is read from; both are followed one change at a time, and any number of them keeps
every facet, and so every summary of a batch that the record belongs to.
-/

namespace IncidentDigest

/-! ## 1. Keys -/

/-- The keys of the tags that some facet looks for. -/
def Facet.keys : List String :=
  ["version:", "host:", "error.code:", "peer.service:", "db.instance:", "http.host:",
    "net.peer.name:", "operation:"]

/-- A tag begins with a key. -/
def Begins (key tag : String) : Prop := key.toList <+: tag.toList

instance (key tag : String) : Decidable (Begins key tag) :=
  inferInstanceAs (Decidable (key.toList <+: tag.toList))

theorem Facet.mem_keys_of_mem_sources {f : Facet} {key : String} (h : .tag key ∈ f.sources) :
    key ∈ keys := by
  cases f <;> simp only [sources, keys, List.mem_cons, Source.tag.injEq] at h ⊢ <;> grind

/-- No key begins with another one. -/
theorem Facet.eq_of_key_begins :
    ∀ key ∈ Facet.keys, ∀ key' ∈ Facet.keys, Begins key key' → key = key' := by
  decide

/-- **A tag begins with one key at most.** -/
theorem Facet.eq_of_begins {key key' tag : String} (hkey : key ∈ keys) (hkey' : key' ∈ keys)
    (h : Begins key tag) (h' : Begins key' tag) : key = key' := by
  rcases List.prefix_or_prefix_of_prefix h h' with hprefix | hprefix
  · exact eq_of_key_begins key hkey key' hkey' hprefix
  · exact (eq_of_key_begins key' hkey' key hkey hprefix).symm

theorem dropKey?_eq_some_iff {key cs rest : List Char} :
    dropKey? key cs = some rest ↔ key ++ rest = cs := by
  induction key generalizing cs with
  | nil => simp [dropKey?, eq_comm]
  | cons k key ih =>
      cases cs with
      | nil => simp [dropKey?]
      | cons c cs =>
          by_cases hc : k = c
          · simp [dropKey?, hc, ih]
          · simp [dropKey?, hc]

theorem tagValue?_eq_none {key tag : String} (h : ¬ Begins key tag) : tagValue? key tag = none := by
  unfold tagValue?
  rw [Option.map_eq_none_iff, Option.eq_none_iff_forall_ne_some]
  intro rest hrest
  exact h ⟨rest, dropKey?_eq_some_iff.mp hrest⟩

/-! ## 2. Tags -/

/-- Changes of a list of tags that no facet sees. -/
inductive UnseenTags : List String → List String → Prop where
  /-- A tag that begins with no key comes in. -/
  | insert (before after : List String) {tag : String} (h : ∀ key ∈ Facet.keys, ¬ Begins key tag) :
      UnseenTags (before ++ after) (before ++ tag :: after)
  /-- Two neighbours that do not begin with the same key change places. -/
  | swap (before after : List String) {a b : String}
      (h : ∀ key ∈ Facet.keys, ¬ (Begins key a ∧ Begins key b)) :
      UnseenTags (before ++ a :: b :: after) (before ++ b :: a :: after)

/-- Two lists of tags have the same first value for each key. -/
def SameFirst (tags tags' : List String) : Prop :=
  ∀ key ∈ Facet.keys, tags.findSome? (tagValue? key) = tags'.findSome? (tagValue? key)

theorem SameFirst.refl (tags : List String) : SameFirst tags tags := fun _ _ => rfl

theorem SameFirst.trans {tags tags' tags'' : List String} (h : SameFirst tags tags')
    (h' : SameFirst tags' tags'') : SameFirst tags tags'' := by
  intro key hkey
  rw [h key hkey]
  exact h' key hkey

/-- **One unseen change** leaves the first value of each key alone. -/
theorem UnseenTags.sameFirst {tags tags' : List String} (h : UnseenTags tags tags') :
    SameFirst tags tags' := by
  intro key hkey
  cases h with
  | insert before after h =>
      rw [List.findSome?_append, List.findSome?_append, List.findSome?_cons,
        tagValue?_eq_none (h key hkey)]
  | @swap before after a b h =>
      simp only [List.findSome?_append, List.findSome?_cons]
      -- at most one of the two has a value for the key
      by_cases ha : Begins key a
      · rw [tagValue?_eq_none fun hb => h key hkey ⟨ha, hb⟩]
      · rw [tagValue?_eq_none ha]

theorem sameFirst_of_unseen {tags tags' : List String}
    (h : Relation.ReflTransGen UnseenTags tags tags') : SameFirst tags tags' := by
  induction h with
  | refl => exact SameFirst.refl tags
  | tail _ hlast ih => exact ih.trans hlast.sameFirst

/-! ## 3. Facets -/

/-- Two records agree where facets look. -/
structure Alike (r r' : MonitoringRecord) : Prop where
  tags : SameFirst r.tags r'.tags
  name : r.name = r'.name

theorem Alike.refl (r : MonitoringRecord) : Alike r r := ⟨SameFirst.refl r.tags, rfl⟩

theorem Alike.trans {r r' r'' : MonitoringRecord} (h : Alike r r') (h' : Alike r' r'') :
    Alike r r'' :=
  ⟨h.tags.trans h'.tags, h.name.trans h'.name⟩

theorem findSome?_congr_of_mem {α β : Type} {f g : α → Option β} {l : List α}
    (h : ∀ a ∈ l, f a = g a) : l.findSome? f = l.findSome? g := by
  induction l with
  | nil => rfl
  | cons a l ih =>
      rw [List.findSome?_cons, List.findSome?_cons, h a List.mem_cons_self,
        ih fun b hb => h b (List.mem_cons_of_mem a hb)]

theorem Alike.extract_eq {r r' : MonitoringRecord} (h : Alike r r') (f : Facet) :
    f.extract r = f.extract r' := by
  apply findSome?_congr_of_mem
  intro source hsource
  cases source with
  | tag key =>
      have hkey := Facet.mem_keys_of_mem_sources hsource
      simp only [Source.extract, Source.found?, h.tags key hkey]
  | name => simp only [Source.extract, Source.found?, h.name]

/-- Two records have the same facets, and stand for each other in every batch. -/
structure SameFacets (r r' : MonitoringRecord) : Prop where
  extract_eq : ∀ f : Facet, f.extract r = f.extract r'
  summarize_eq : ∀ before after : List MonitoringRecord,
    summarize (before ++ r :: after) = summarize (before ++ r' :: after)

theorem Alike.sameFacets {r r' : MonitoringRecord} (h : Alike r r') : SameFacets r r' where
  extract_eq := h.extract_eq
  summarize_eq := by
    intro before after
    have hobserve : ∀ t : Tally, t.observe r = t.observe r' := by
      intro t
      simp only [Tally.observe, h.extract_eq]
    unfold summarize
    rw [List.foldl_append, List.foldl_append, List.foldl_cons, List.foldl_cons, hobserve]

/-- A value of a facet is never empty. -/
theorem Facet.ne_empty_of_extract {f : Facet} {r : MonitoringRecord} {value : String}
    (h : f.extract r = some value) : value ≠ "" := by
  obtain ⟨source, -, hsource⟩ := List.exists_of_findSome?_eq_some h
  obtain ⟨-, hnonempty⟩ := Option.filter_eq_some_iff.mp hsource
  simpa using hnonempty

/-! ## 4. Members -/

/-- Changes of the members of an object that no facet of its record sees. -/
inductive UnseenChange : List (String × Json) → List (String × Json) → Prop where
  /-- A tag that begins with no key comes in. -/
  | insertTag (before after : List (String × Json)) (items rest : List Json) {tag : String}
      (h : ∀ key ∈ Facet.keys, ¬ Begins key tag) :
      UnseenChange (before ++ ("tags", .arr (items ++ rest)) :: after)
        (before ++ ("tags", .arr (items ++ .str tag :: rest)) :: after)
  /-- Two neighbours among the tags that do not begin with the same key change places. -/
  | swapTags (before after : List (String × Json)) (items rest : List Json) {a b : String}
      (h : ∀ key ∈ Facet.keys, ¬ (Begins key a ∧ Begins key b)) :
      UnseenChange (before ++ ("tags", .arr (items ++ .str a :: .str b :: rest)) :: after)
        (before ++ ("tags", .arr (items ++ .str b :: .str a :: rest)) :: after)
  /-- Something that is no string comes in among the tags. -/
  | insertItem (before after : List (String × Json)) (items rest : List Json) {item : Json}
      (h : ∀ s, item ≠ .str s) :
      UnseenChange (before ++ ("tags", .arr (items ++ rest)) :: after)
        (before ++ ("tags", .arr (items ++ item :: rest)) :: after)
  /-- Another field than tags and name comes in. -/
  | insertField (before after : List (String × Json)) {field : String} (value : Json)
      (htags : field ≠ "tags") (hname : field ≠ "name") :
      UnseenChange (before ++ after) (before ++ (field, value) :: after)
  /-- It goes out. -/
  | removeField (before after : List (String × Json)) {field : String} (value : Json)
      (htags : field ≠ "tags") (hname : field ≠ "name") :
      UnseenChange (before ++ (field, value) :: after) (before ++ after)
  /-- It gets another value. -/
  | changeField (before after : List (String × Json)) {field : String} (value value' : Json)
      (htags : field ≠ "tags") (hname : field ≠ "name") :
      UnseenChange (before ++ (field, value) :: after) (before ++ (field, value') :: after)
  /-- Tags that are no list go out. -/
  | dropTags (before after : List (String × Json)) {value : Json}
      (h : ∀ items, value ≠ .arr items) :
      UnseenChange (before ++ ("tags", value) :: after) (before ++ after)
  /-- A name that is neither a string nor a number goes out. -/
  | dropName (before after : List (String × Json)) {value : Json} (hstr : ∀ s, value ≠ .str s)
      (hint : ∀ n, value ≠ .int n) (hfloat : ∀ x, value ≠ .float x) :
      UnseenChange (before ++ ("name", value) :: after) (before ++ after)

/-- The values of a field, in the order of the text. -/
def fieldValues (field : String) (members : List (String × Json)) : List Json :=
  (members.filter fun m => m.1 == field).map (·.2)

@[simp] theorem fieldValues_append (field : String) (members others : List (String × Json)) :
    fieldValues field (members ++ others) =
      fieldValues field members ++ fieldValues field others := by
  simp [fieldValues]

@[simp] theorem fieldValues_cons_self (field : String) (value : Json)
    (rest : List (String × Json)) :
    fieldValues field ((field, value) :: rest) = value :: fieldValues field rest := by
  simp [fieldValues]

theorem fieldValues_cons_of_ne {field key : String} (h : key ≠ field) (value : Json)
    (rest : List (String × Json)) :
    fieldValues field ((key, value) :: rest) = fieldValues field rest := by
  simp [fieldValues, h]

/-- A field is given once at most exactly if its first value is all that there is. -/
theorem fieldValues_eq_toList_iff {field : String} {members : List (String × Json)}
    {value : Option Json} : fieldValues field members = value.toList ↔
      (members.filter fun m => m.1 == field).length ≤ 1 ∧ Json.member? field members = value := by
  have hlength : (members.filter fun m => m.1 == field).length =
      (fieldValues field members).length := by
    rw [fieldValues, List.length_map]
  have hfirst : Json.member? field members = (fieldValues field members).head? := by
    rw [fieldValues, List.head?_map, List.head?_filter]
    rfl
  rw [hlength, hfirst]
  rcases fieldValues field members with _ | ⟨v, _ | ⟨w, rest⟩⟩
  · cases value <;> simp
  · cases value <;> simp
  · cases value <;> simp

namespace MonitoringRecord

/-- What members say about the two fields of a record, each of them given once at most. -/
structure Shows (members : List (String × Json)) (tags name : Option Json) : Prop where
  tags : fieldValues "tags" members = tags.toList
  name : fieldValues "name" members = name.toList

/-- **A record is read from what the members say about its two fields.** -/
theorem ofMembers?_eq_some_iff {members : List (String × Json)} {r : MonitoringRecord} :
    ofMembers? members = some r ↔ ∃ tags name, Shows members tags name ∧
      ⟨tagsOf tags, labelOf name, Extras.others ["tags", "name"] members⟩ = r := by
  constructor
  · intro h
    by_cases hunrepeated : Extras.Unrepeated ["tags", "name"] members
    · rw [ofMembers?, Extras.split?_of_unrepeated hunrepeated] at h
      refine ⟨_, _, ⟨?_, ?_⟩, Option.some.inj h⟩
      · exact fieldValues_eq_toList_iff.mpr ⟨hunrepeated "tags" (by simp), rfl⟩
      · exact fieldValues_eq_toList_iff.mpr ⟨hunrepeated "name" (by simp), rfl⟩
    · rw [ofMembers?, Extras.split?_of_repeated hunrepeated] at h
      cases h
  · rintro ⟨tags, name, hshows, rfl⟩
    obtain ⟨htags, rfl⟩ := fieldValues_eq_toList_iff.mp hshows.tags
    obtain ⟨hname, rfl⟩ := fieldValues_eq_toList_iff.mp hshows.name
    have hunrepeated : Extras.Unrepeated ["tags", "name"] members := by
      intro field hfield
      rcases List.mem_cons.mp hfield with rfl | hfield
      · exact htags
      · rw [List.mem_singleton.mp hfield]
        exact hname
    rw [ofMembers?, Extras.split?_of_unrepeated hunrepeated]
    rfl

section Shows
variable {before after : List (String × Json)} {value : Json} {tags name : Option Json}

/-- A field other than the two says nothing about them. -/
theorem shows_cons_iff {field : String} (htags : field ≠ "tags") (hname : field ≠ "name") :
    Shows (before ++ (field, value) :: after) tags name ↔ Shows (before ++ after) tags name := by
  constructor
  · rintro ⟨hshowsTags, hshowsName⟩
    constructor
    · simpa [fieldValues_cons_of_ne htags] using hshowsTags
    · simpa [fieldValues_cons_of_ne hname] using hshowsName
  · rintro ⟨hshowsTags, hshowsName⟩
    constructor
    · simpa [fieldValues_cons_of_ne htags] using hshowsTags
    · simpa [fieldValues_cons_of_ne hname] using hshowsName

theorem append_cons_eq_toList {α : Type} {xs ys : List α} {a : α} {o : Option α}
    (h : xs ++ a :: ys = o.toList) : xs = [] ∧ ys = [] ∧ o = some a := by
  rcases o with _ | b
  · simp at h
  · rcases xs with _ | ⟨x, xs⟩
    · obtain ⟨rfl, rfl⟩ : a = b ∧ ys = [] := by simpa using h
      exact ⟨rfl, rfl, rfl⟩
    · simp at h

/-- The only value of the tags can be replaced, and left out. -/
theorem Shows.of_tags (h : Shows (before ++ ("tags", value) :: after) tags name) :
    tags = some value ∧
      (∀ value', Shows (before ++ ("tags", value') :: after) (some value') name) ∧
      Shows (before ++ after) none name := by
  have htags := h.tags
  rw [fieldValues_append, fieldValues_cons_self] at htags
  obtain ⟨hbefore, hafter, rfl⟩ := append_cons_eq_toList htags
  have hname : fieldValues "name" before ++ fieldValues "name" after = name.toList := by
    simpa [fieldValues_cons_of_ne] using h.name
  refine ⟨rfl, fun value' => ⟨?_, ?_⟩, ⟨?_, ?_⟩⟩
  · simp [hbefore, hafter]
  · simpa [fieldValues_cons_of_ne] using hname
  · simp [hbefore, hafter]
  · simpa using hname

theorem Shows.of_name (h : Shows (before ++ ("name", value) :: after) tags name) :
    name = some value ∧ Shows (before ++ after) tags none := by
  have hname := h.name
  rw [fieldValues_append, fieldValues_cons_self] at hname
  obtain ⟨hbefore, hafter, rfl⟩ := append_cons_eq_toList hname
  have htags : fieldValues "tags" before ++ fieldValues "tags" after = tags.toList := by
    simpa [fieldValues_cons_of_ne] using h.tags
  refine ⟨rfl, ⟨?_, ?_⟩⟩
  · simpa using htags
  · simp [hbefore, hafter]

end Shows

/-! ## 5. Lists of tags as they are read -/

theorem tagsOf_append (items rest : List Json) : tagsOf (some (.arr (items ++ rest))) =
    tagsOf (some (.arr items)) ++ tagsOf (some (.arr rest)) :=
  List.filterMap_append

theorem tagsOf_cons_str (s : String) (rest : List Json) :
    tagsOf (some (.arr (.str s :: rest))) = s :: tagsOf (some (.arr rest)) := rfl

theorem tagsOf_cons_of_ne_str {item : Json} (h : ∀ s, item ≠ .str s) (rest : List Json) :
    tagsOf (some (.arr (item :: rest))) = tagsOf (some (.arr rest)) := by
  cases item with
  | str s => exact absurd rfl (h s)
  | _ => rfl

theorem tagsOf_of_ne_arr {value : Json} (h : ∀ items, value ≠ .arr items) :
    tagsOf (some value) = [] := by
  cases value with
  | arr items => exact absurd rfl (h items)
  | _ => rfl

theorem labelOf_of_ne {value : Json} (hstr : ∀ s, value ≠ .str s) (hint : ∀ n, value ≠ .int n)
    (hfloat : ∀ x, value ≠ .float x) : labelOf (some value) = none := by
  cases value with
  | str s => exact absurd rfl (hstr s)
  | int n => exact absurd rfl (hint n)
  | float x => exact absurd rfl (hfloat x)
  | _ => rfl

end MonitoringRecord

open MonitoringRecord in
/-- **One unseen change** of the members: they still say about tags and name what facets look
at. -/
theorem UnseenChange.shows {members members' : List (String × Json)} {tags name : Option Json}
    (h : UnseenChange members members') (hshows : Shows members tags name) :
    ∃ tags' name', Shows members' tags' name' ∧ SameFirst (tagsOf tags) (tagsOf tags') ∧
      labelOf name = labelOf name' := by
  cases h with
  | insertTag before after items rest htag =>
      obtain ⟨rfl, hreplaced, -⟩ := hshows.of_tags
      refine ⟨_, _, hreplaced _, ?_, rfl⟩
      rw [tagsOf_append, tagsOf_append, tagsOf_cons_str]
      exact (UnseenTags.insert _ _ htag).sameFirst
  | swapTags before after items rest htags =>
      obtain ⟨rfl, hreplaced, -⟩ := hshows.of_tags
      refine ⟨_, _, hreplaced _, ?_, rfl⟩
      rw [tagsOf_append, tagsOf_append]
      exact (UnseenTags.swap _ _ htags).sameFirst
  | insertItem before after items rest hitem =>
      obtain ⟨rfl, hreplaced, -⟩ := hshows.of_tags
      refine ⟨_, _, hreplaced _, ?_, rfl⟩
      rw [tagsOf_append, tagsOf_append, tagsOf_cons_of_ne_str hitem]
      exact SameFirst.refl _
  | insertField before after value htags hname =>
      exact ⟨_, _, (shows_cons_iff htags hname).mpr hshows, SameFirst.refl _, rfl⟩
  | removeField before after value htags hname =>
      exact ⟨_, _, (shows_cons_iff htags hname).mp hshows, SameFirst.refl _, rfl⟩
  | changeField before after value value' htags hname =>
      have hwithout := (shows_cons_iff htags hname).mp hshows
      exact ⟨_, _, (shows_cons_iff htags hname).mpr hwithout, SameFirst.refl _, rfl⟩
  | dropTags before after hvalue =>
      obtain ⟨rfl, -, hdropped⟩ := hshows.of_tags
      refine ⟨_, _, hdropped, ?_, rfl⟩
      rw [tagsOf_of_ne_arr hvalue]
      exact SameFirst.refl _
  | dropName before after hstr hint hfloat =>
      obtain ⟨rfl, hdropped⟩ := hshows.of_name
      exact ⟨_, _, hdropped, SameFirst.refl _, labelOf_of_ne hstr hint hfloat⟩

/-- **A run of unseen changes**: what was read as a record still is, and the records agree where
facets look. -/
theorem exists_alike_of_unseen {members members' : List (String × Json)} {r : MonitoringRecord}
    (hread : MonitoringRecord.ofMembers? members = some r)
    (h : Relation.ReflTransGen UnseenChange members members') :
    ∃ r', MonitoringRecord.ofMembers? members' = some r' ∧ Alike r r' := by
  induction h with
  | refl => exact ⟨r, hread, Alike.refl r⟩
  | tail _ hlast ih =>
      obtain ⟨r₁, hread₁, halike⟩ := ih
      obtain ⟨tags, name, hshows, rfl⟩ := MonitoringRecord.ofMembers?_eq_some_iff.mp hread₁
      obtain ⟨tags', name', hshows', htags, hname⟩ := hlast.shows hshows
      have hread' := MonitoringRecord.ofMembers?_eq_some_iff.mpr ⟨tags', name', hshows', rfl⟩
      exact ⟨_, hread', halike.trans ⟨htags, hname⟩⟩

/-! ## 6. Facets of a record -/

/-- **Facets see the first tag of each key, and the name.**  No tag begins with two keys.  A
record keeps its facets, and every summary that it belongs to, when tags without a key come in,
when neighbours without a common key change places, and when its other members change.  So it
does when the object that it is read from changes in such a way, or gets list items that are no
tags, or loses tags or a name that could not be read.  A value of a facet is never empty. -/
theorem unseen_changes_keep_facets :
    (∀ tag, ∀ key ∈ Facet.keys, ∀ key' ∈ Facet.keys, Begins key tag → Begins key' tag →
      key = key') ∧
    (∀ (r : MonitoringRecord) (tags : List String) (extras : Extras),
      Relation.ReflTransGen UnseenTags r.tags tags → SameFacets r { r with tags, extras }) ∧
    (∀ (members members' : List (String × Json)) (r : MonitoringRecord),
      MonitoringRecord.ofMembers? members = some r →
      Relation.ReflTransGen UnseenChange members members' →
      ∃ r', MonitoringRecord.ofMembers? members' = some r' ∧ SameFacets r r') ∧
    ∀ (f : Facet) (r : MonitoringRecord) (value : String), f.extract r = some value →
      value ≠ "" := by
  refine ⟨?_, ?_, ?_, ?_⟩
  · intro tag key hkey key' hkey' h h'
    exact Facet.eq_of_begins hkey hkey' h h'
  · intro r tags extras h
    have halike : Alike r { r with tags, extras } := ⟨sameFirst_of_unseen h, rfl⟩
    exact halike.sameFacets
  · intro members members' r hread h
    obtain ⟨r', hread', halike⟩ := exists_alike_of_unseen hread h
    exact ⟨r', hread', halike.sameFacets⟩
  · intro f r value h
    exact Facet.ne_empty_of_extract h

/-- A record whose two tags change places, with a foreign tag and a number between them, and whose
name, a truth value, goes out while another field comes in. -/
theorem unseen_changes_keep_facets_sample :
    ∃ r r', MonitoringRecord.ofMembers?
        [("tags", .arr [.str "host:a", .str "version:2"]), ("name", .bool true)] = some r ∧
      MonitoringRecord.ofMembers?
        [("status", .int 200),
          ("tags", .arr [.str "version:2", .str "env:prod", .int 7, .str "host:a"])] = some r' ∧
      Facet.host.extract r = some "a" ∧ SameFacets r r' := by
  have hchanges : Relation.ReflTransGen UnseenChange
      [("tags", .arr [.str "host:a", .str "version:2"]), ("name", .bool true)]
      [("status", .int 200),
        ("tags", .arr [.str "version:2", .str "env:prod", .int 7, .str "host:a"])] := by
    apply Relation.ReflTransGen.head (.swapTags [] [("name", .bool true)] [] [] (by decide))
    apply Relation.ReflTransGen.head
      (.insertTag [] [("name", .bool true)] [.str "version:2"] [.str "host:a"]
        (show ∀ key ∈ Facet.keys, ¬ Begins key "env:prod" by decide))
    apply Relation.ReflTransGen.head
      (.insertItem [] [("name", .bool true)] [.str "version:2", .str "env:prod"] [.str "host:a"]
        (show ∀ s, Json.int 7 ≠ .str s by simp))
    apply Relation.ReflTransGen.head (.dropName [("tags", _)] [] (by simp) (by simp) (by simp))
    apply Relation.ReflTransGen.single
    exact .insertField [] [("tags", _)] (.int 200) (by decide) (by decide)
  obtain ⟨-, -, hmembers, -⟩ := unseen_changes_keep_facets
  obtain ⟨r', hread', hsame⟩ := hmembers _ _ _ rfl hchanges
  exact ⟨_, r', rfl, hread', by decide, hsame⟩

end IncidentDigest
