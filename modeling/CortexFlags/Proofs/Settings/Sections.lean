import CortexFlags.Proofs.Settings.Loading
import Mathlib.Data.List.Forall2

/-! Typed reading of a section: what the tables along a dotted name, and the values under the
declared fields, have to do with the outcome.

* `LeadsTo`, `StopsAt`: all along the way there are tables, or the first value that is none;
  `leadsTo_or_stopsAt`: it is one of the two;
* `takes_read`, `complains_read`: in a table each field takes its value or its default, and
  each ill-typed one is told about;
* `refuse_eq_some_iff`: what is no table is refused for a declared name;
* `readSection_noEntries_iff`: there are no entries exactly beyond a value that is no table;
* `LeadsTo.same`: undeclared keys and keys off the way do not count;
* `fieldsOf_decided`: all of this, for a store that has data. -/

namespace CortexFlags.Settings

variable {entries other below last : Entries} {name : String} {path rest : List String}
  {v : Value} {title : String} {fields : List Field} {fault : SectionFault}

/-! ## The way to a section -/

/-- The table under a name; without an entry there is an empty one. -/
inductive Below (entries : Entries) (name : String) : Entries → Prop
  | there {below : Entries} : entries.lookup name = some (.table below) → Below entries name below
  | absent : entries.lookup name = none → Below entries name []

/-- The names lead from table to table, or to nothing, which counts as an empty table. -/
inductive LeadsTo : Entries → List String → Entries → Prop
  | here {entries : Entries} : LeadsTo entries [] entries
  | next {entries below last : Entries} {name : String} {path : List String} :
      Below entries name below → LeadsTo below path last → LeadsTo entries (name :: path) last

/-- On the way there is a value that is no table; the names after it are left. -/
inductive StopsAt : Entries → List String → List String → Value → Prop
  | here {entries : Entries} {name : String} {rest : List String} {v : Value} :
      entries.lookup name = some v → v.shape ≠ .table → StopsAt entries (name :: rest) rest v
  | next {entries below : Entries} {name : String} {path rest : List String} {v : Value} :
      Below entries name below → StopsAt below path rest v →
      StopsAt entries (name :: path) rest v

theorem Below.lookup_eq (h : Below entries name below) :
    (entries.lookup name).getD (.table []) = .table below := by
  cases h with
  | there h => rw [h, Option.getD_some]
  | absent h => rw [h, Option.getD_none]

theorem Below.unique (h : Below entries name below) (h' : Below entries name other) :
    below = other :=
  Value.table.inj (h.lookup_eq.symm.trans h'.lookup_eq)

theorem LeadsTo.walk_eq (h : LeadsTo entries path last) :
    (Value.table entries).walk path = .ok (.table last) := by
  induction h with
  | here => rw [Value.walk]
  | next hbelow _ ih => rw [Value.walk, hbelow.lookup_eq, ih]

/-- What is left of the way is walked from the value at which it stops. -/
theorem StopsAt.walk_eq (h : StopsAt entries path rest v) :
    (Value.table entries).walk path = v.walk rest := by
  induction h with
  | here hv _ => rw [Value.walk, hv, Option.getD_some]
  | next hbelow _ ih => rw [Value.walk, hbelow.lookup_eq, ih]

theorem StopsAt.shape_ne (h : StopsAt entries path rest v) : v.shape ≠ .table := by
  induction h with
  | here _ hshape => exact hshape
  | next _ _ ih => exact ih

/-- **Tables all the way, or a first value that is none.** -/
theorem leadsTo_or_stopsAt (entries : Entries) (path : List String) :
    (∃ last, LeadsTo entries path last) ∨ ∃ rest v, StopsAt entries path rest v := by
  induction path generalizing entries with
  | nil => exact .inl ⟨entries, .here⟩
  | cons name path ih =>
    -- an entry that is missing counts as a table, so the way goes on in two of the cases
    have onward {below : Entries} (hbelow : Below entries name below) :
        (∃ last, LeadsTo entries (name :: path) last) ∨
          ∃ rest v, StopsAt entries (name :: path) rest v := by
      rcases ih below with ⟨last, hlast⟩ | ⟨rest, v, hstop⟩
      · exact .inl ⟨last, .next hbelow hlast⟩
      · exact .inr ⟨rest, v, .next hbelow hstop⟩
    cases hv : entries.lookup name with
    | none => exact onward (.absent hv)
    | some v =>
      cases v with
      | table below => exact onward (.there hv)
      | _ => exact .inr ⟨path, _, .here hv (by simp [Value.shape])⟩

theorem walk_of_shape_ne (h : v.shape ≠ .table) (name : String) (rest : List String) :
    v.walk (name :: rest) = .error (.noEntries v.shape) := by
  cases v with
  | table entries => exact absurd rfl h
  | _ => rw [Value.walk]; simp

theorem LeadsTo.not_stopsAt (h : LeadsTo entries path last) : ¬ StopsAt entries path rest v := by
  intro hstop
  have hwalk := h.walk_eq.symm.trans hstop.walk_eq
  cases rest with
  | nil =>
    rw [Value.walk] at hwalk
    cases hwalk
    exact hstop.shape_ne rfl
  | cons name rest =>
    rw [walk_of_shape_ne hstop.shape_ne] at hwalk
    cases hwalk

/-! ## Fields of a table -/

/-- The table has a value for the field, and it is not of the type of the field. -/
def Field.isIllTyped (entries : Entries) (f : Field) : Bool :=
  (entries.lookup f.name).any fun v => !f.type.accepts v.shape

/-- The value of a field: the one in the table if it is well typed, else the default. -/
inductive Takes (entries : Entries) (f : Field) : Value → Prop
  | given {v : Value} : entries.lookup f.name = some v → f.type.accepts v.shape → Takes entries f v
  | illTyped : f.isIllTyped entries → Takes entries f f.default
  | absent : entries.lookup f.name = none → Takes entries f f.default

/-- What is said about an ill-typed field: one error, with the names of section and field. -/
inductive Complains (title : String) (entries : Entries) (f : Field) : Event → Prop
  | error {v : Value} : entries.lookup f.name = some v → f.isIllTyped entries →
      Complains title entries f
        ⟨loggerName, .error, s!"{title}.{f.name}: {f.type.complaint v.shape}"⟩

theorem takes_read (title : String) (entries : Entries) (f : Field) :
    Takes entries f (f.read title entries).1 := by
  unfold Field.read
  cases hv : entries.lookup f.name with
  | none => exact .absent hv
  | some v =>
    dsimp only
    split
    · rename_i haccepts
      exact .given hv haccepts
    · rename_i hrejects
      exact .illTyped (by simpa [Field.isIllTyped, hv] using hrejects)

/-- A field that is not ill typed goes without a word. -/
theorem read_of_not_illTyped {f : Field} (h : f.isIllTyped entries = false) :
    (f.read title entries).2 = [] := by
  unfold Field.read
  cases hv : entries.lookup f.name with
  | none => rfl
  | some v =>
    have haccepts : f.type.accepts v.shape := by simpa [Field.isIllTyped, hv] using h
    dsimp only
    rw [if_pos haccepts]

theorem read_of_illTyped {f : Field} (h : f.isIllTyped entries) (title : String) :
    ∃ event, (f.read title entries).2 = [event] ∧ Complains title entries f event := by
  obtain ⟨v, hv, hrejects⟩ := (Option.any_eq_true ..).mp h
  refine ⟨_, ?_, .error hv h⟩
  unfold Field.read
  rw [hv]
  dsimp only
  rw [if_neg (by simpa using hrejects)]

/-- **One error for each ill-typed field**, in the order of the fields. -/
theorem complains_read (title : String) (entries : Entries) (fields : List Field) :
    List.Forall₂ (Complains title entries) (fields.filter (·.isIllTyped entries))
      (fields.flatMap fun f => (f.read title entries).2) := by
  induction fields with
  | nil => exact .nil
  | cons f fields ih =>
    rw [List.flatMap_cons]
    cases hf : f.isIllTyped entries with
    | false =>
      rw [List.filter_cons_of_neg (by simp [hf]), read_of_not_illTyped hf]
      exact ih
    | true =>
      obtain ⟨event, hevent, hcomplains⟩ := read_of_illTyped hf title
      rw [List.filter_cons_of_pos hf, hevent]
      exact .cons hcomplains ih

/-- The table is read the same if it has the same under each declared name. -/
theorem readFields_congr (h : ∀ f ∈ fields, entries.lookup f.name = other.lookup f.name) :
    readFields title fields (.table entries) = readFields title fields (.table other) := by
  have hread : ∀ f ∈ fields, f.read title entries = f.read title other := by
    intro f hf
    rw [Field.read, Field.read, h f hf]
  have hvalues : (fields.map fun f => (f.name, (f.read title entries).1)) =
      fields.map fun f => (f.name, (f.read title other).1) :=
    List.map_congr_left fun f hf => by rw [hread f hf]
  have hevents : (fields.flatMap fun f => (f.read title entries).2) =
      fields.flatMap fun f => (f.read title other).2 := by
    rw [List.flatMap_def, List.flatMap_def, List.map_congr_left fun f hf => by rw [hread f hf]]
  rw [readFields, readFields, hvalues, hevents]

/-! ## Fields of what is no table -/

/-- Why fields cannot be read from a value that is no table: a text holds the name of one, a
list has it as an item, or one is looked for in something else. -/
inductive Refuses (fields : List Field) : Value → SectionFault → Prop
  | text {s : String} {f : Field} : f ∈ fields → f.name.toList <:+: s.toList →
      Refuses fields (.text s) .textHasNoKeys
  | list {items : List Value} {f : Field} : f ∈ fields → .text f.name ∈ items →
      Refuses fields (.list items) .listHasNoKeys
  | scalar {v : Value} : v.shape ∉ [.text, .list, .table] → fields ≠ [] →
      Refuses fields v (.notSearchable v.shape)

theorem isText_iff {s : String} : v.isText s ↔ v = .text s := by
  cases v <;> simp [Value.isText]

theorem mentions_text_iff {s : String} :
    (Value.text s).mentions name ↔ name.toList <:+: s.toList :=
  Text.contains_iff

theorem mentions_list_iff {items : List Value} :
    (Value.list items).mentions name ↔ .text name ∈ items := by
  rw [Value.mentions, List.any_eq_true]
  constructor
  · rintro ⟨item, hitem, htext⟩
    exact isText_iff.mp htext ▸ hitem
  · intro hitem
    exact ⟨_, hitem, isText_iff.mpr rfl⟩

theorem refuse_eq_some_iff (hv : v.shape ≠ .table) :
    v.refuse fields = some fault ↔ Refuses fields v fault := by
  constructor
  · intro h
    unfold Value.refuse at h
    split at h
    · split at h
      · rename_i hany
        cases h
        obtain ⟨f, hf, hmentions⟩ := List.any_eq_true.mp hany
        exact .text hf (mentions_text_iff.mp hmentions)
      · cases h
    · split at h
      · rename_i hany
        cases h
        obtain ⟨f, hf, hmentions⟩ := List.any_eq_true.mp hany
        exact .list hf (mentions_list_iff.mp hmentions)
      · cases h
    · rename_i htext hlist
      split at h
      · cases h
      · rename_i hfields
        cases h
        refine .scalar ?_ (by simpa using hfields)
        cases v <;> simp_all [Value.shape]
  · intro h
    cases h with
    | text hf hinfix =>
      exact if_pos (List.any_eq_true.mpr ⟨_, hf, mentions_text_iff.mpr hinfix⟩)
    | list hf hitem =>
      exact if_pos (List.any_eq_true.mpr ⟨_, hf, mentions_list_iff.mpr hitem⟩)
    | scalar hshape hfields =>
      unfold Value.refuse
      split
      · simp [Value.shape] at hshape
      · simp [Value.shape] at hshape
      · rw [if_neg (by simpa using hfields)]

/-- The fault of a refusal says that no key was found, not that there were no entries. -/
theorem Refuses.ne_noEntries (h : Refuses fields v fault) (shape : Shape) :
    fault ≠ .noEntries shape := by
  cases h <;> simp

theorem readFields_eq (hv : v.shape ≠ .table) :
    readFields title fields v = match v.refuse fields with
      | some fault => (.error fault, [])
      | none => (.ok (fields.map fun f => (f.name, f.default)), []) := by
  cases v with
  | table entries => exact absurd rfl hv
  | _ => rfl

theorem readFields_eq_error_iff (hv : v.shape ≠ .table) :
    (readFields title fields v).1 = .error fault ↔ Refuses fields v fault := by
  rw [← refuse_eq_some_iff hv, readFields_eq hv]
  cases v.refuse fields <;> simp

/-- What is not refused gives the defaults, whatever it is. -/
theorem readFields_of_not_refuses (hv : v.shape ≠ .table) (h : ∀ fault, ¬ Refuses fields v fault) :
    readFields title fields v = (.ok (fields.map fun f => (f.name, f.default)), []) := by
  have hnone : v.refuse fields = none :=
    Option.eq_none_iff_forall_ne_some.mpr fun fault hfault =>
      h fault ((refuse_eq_some_iff hv).mp hfault)
  rw [readFields_eq hv, hnone]

/-! ## Sections -/

section

variable {data : Entries}

theorem readSection_of_leadsTo (h : LeadsTo data (Text.pieces '.' title) last)
    (fields : List Field) :
    readSection data title fields = readFields title fields (.table last) := by
  rw [readSection, findSection, h.walk_eq]

theorem readSection_of_stopsBefore (h : StopsAt data (Text.pieces '.' title) (name :: rest) v)
    (fields : List Field) : readSection data title fields = (.error (.noEntries v.shape), []) := by
  rw [readSection, findSection, h.walk_eq, walk_of_shape_ne h.shape_ne]

theorem readSection_of_stopsAt_end (h : StopsAt data (Text.pieces '.' title) [] v)
    (fields : List Field) : readSection data title fields = readFields title fields v := by
  rw [readSection, findSection, h.walk_eq, Value.walk]

/-- **Without entries** is every section beyond a value that is no table, and no other. -/
theorem readSection_noEntries_iff {shape : Shape} :
    (readSection data title fields).1 = .error (.noEntries shape) ↔
      ∃ rest v, StopsAt data (Text.pieces '.' title) rest v ∧ rest ≠ [] ∧ v.shape = shape := by
  constructor
  · intro h
    rcases leadsTo_or_stopsAt data (Text.pieces '.' title) with ⟨last, hlast⟩ | ⟨rest, v, hstop⟩
    · rw [readSection_of_leadsTo hlast] at h
      cases h
    · cases rest with
      | cons name rest =>
        rw [readSection_of_stopsBefore hstop] at h
        cases h
        exact ⟨name :: rest, v, hstop, by simp, rfl⟩
      | nil =>
        rw [readSection_of_stopsAt_end hstop, readFields_eq_error_iff hstop.shape_ne] at h
        exact absurd rfl (h.ne_noEntries shape)
  · rintro ⟨rest, v, hstop, hrest, rfl⟩
    obtain ⟨name, rest, rfl⟩ := List.exists_cons_of_ne_nil hrest
    rw [readSection_of_stopsBefore hstop]

end

/-- Two tables are the same for a section: along its names they have tables or nothing, and
in the tables at the end the same under each declared name. -/
inductive SameAlong (fields : List Field) : List String → Entries → Entries → Prop
  | here {entries other : Entries} :
      (∀ f ∈ fields, entries.lookup f.name = other.lookup f.name) →
      SameAlong fields [] entries other
  | next {entries other below below' : Entries} {name : String} {path : List String} :
      Below entries name below → Below other name below' → SameAlong fields path below below' →
      SameAlong fields (name :: path) entries other

theorem LeadsTo.same (h : LeadsTo entries path last) (hsame : SameAlong fields path entries other) :
    ∃ last', LeadsTo other path last' ∧ ∀ f ∈ fields, last.lookup f.name = last'.lookup f.name := by
  induction h generalizing other with
  | here =>
    cases hsame with
    | here hfields => exact ⟨other, .here, hfields⟩
  | next hbelow _ ih =>
    cases hsame with
    | next hbelow₁ hbelow₂ hrest =>
      cases hbelow.unique hbelow₁
      obtain ⟨last', hlast', hfields⟩ := ih hrest
      exact ⟨last', .next hbelow₂ hlast', hfields⟩

/-! ## Sections of a store -/

namespace Store

variable {s : Store}

theorem ensureLoaded_of_data (h : s.data ≠ []) : s.ensureLoaded = (.ok (), s, []) :=
  if_neg (by simpa using h)

theorem fieldsOf_eq (h : s.data ≠ []) (title : String) (fields : List Field) :
    s.fieldsOf title fields =
      ((readSection s.data title fields).1, s, (readSection s.data title fields).2) := by
  rw [fieldsOf, consult, ensureLoaded_of_data h]
  rfl

/-- **Typed reading of sections**: where there are tables or nothing along the names, each
field takes its value or its default, the ill-typed ones are told one by one, and nothing else
counts. There are no entries exactly beyond a value that is no table; a value that is none at
the end is refused for a declared name, and else gives the defaults. -/
theorem fieldsOf_decided (h : s.data ≠ []) (title : String) (fields : List Field) :
    (∀ last, LeadsTo s.data (Text.pieces '.' title) last →
      ∃ values events, s.fieldsOf title fields = (.ok values, s, events) ∧
        List.Forall₂ (fun f entry => entry.1 = f.name ∧ Takes last f entry.2) fields values ∧
        List.Forall₂ (Complains title last) (fields.filter (·.isIllTyped last)) events ∧
        ∀ s' : Store, s'.data ≠ [] → SameAlong fields (Text.pieces '.' title) s.data s'.data →
          s'.fieldsOf title fields = (.ok values, s', events)) ∧
    ((¬ ∃ last, LeadsTo s.data (Text.pieces '.' title) last) ↔
      ∃ rest v, StopsAt s.data (Text.pieces '.' title) rest v) ∧
    (∀ shape, (s.fieldsOf title fields).1 = .error (.noEntries shape) ↔
      ∃ rest v, StopsAt s.data (Text.pieces '.' title) rest v ∧ rest ≠ [] ∧ v.shape = shape) ∧
    ∀ v, StopsAt s.data (Text.pieces '.' title) [] v →
      (∀ fault, (s.fieldsOf title fields).1 = .error fault ↔ Refuses fields v fault) ∧
      ((∀ fault, ¬ Refuses fields v fault) →
        s.fieldsOf title fields = (.ok (fields.map fun f => (f.name, f.default)), s, [])) := by
  refine ⟨?_, ⟨(leadsTo_or_stopsAt _ _).resolve_left, ?_⟩, ?_, ?_⟩
  · intro last hlast
    refine ⟨_, _, (fieldsOf_eq h title fields).trans
      (by rw [readSection_of_leadsTo hlast, readFields]), ?_, complains_read title last fields, ?_⟩
    · rw [List.forall₂_map_right_iff, List.forall₂_same]
      exact fun f _ => ⟨rfl, takes_read title last f⟩
    · intro s' hs' hsame
      -- the other store leads to a table of its own, with the same under each declared name
      obtain ⟨last', hlast', hfields⟩ := hlast.same hsame
      rw [fieldsOf_eq hs', readSection_of_leadsTo hlast', ← readFields_congr hfields, readFields]
  · rintro ⟨rest, v, hstop⟩ ⟨last, hlast⟩
    exact hlast.not_stopsAt hstop
  · intro shape
    rw [fieldsOf_eq h]
    exact readSection_noEntries_iff
  · intro v hstop
    rw [fieldsOf_eq h, readSection_of_stopsAt_end hstop]
    refine ⟨fun fault => readFields_eq_error_iff hstop.shape_ne, fun hnot => ?_⟩
    rw [readFields_of_not_refuses hstop.shape_ne hnot]

/-- A table with an ill-typed field, and a text in the place of another table. -/
def illShaped : Store where
  env := ⟨[], none⟩
  disk := .ofFiles []
  parse := Toml.table "no table"
  data := [("log", .table [("pretty", .text "no"), ("stream_fmt", .text "plain")]),
    ("catalogue", .text "load_plugins = false")]

/-- The same table among other keys. -/
def illShapedMore : Store where
  env := ⟨[], none⟩
  disk := .ofFiles []
  parse := Toml.table "no table"
  data := [("catalogue", .int 3), ("log", .table [("level", .int 3), ("stream_fmt", .text "plain"),
    ("pretty", .text "no")])]

theorem illShaped_decided :
    (∃ values events,
      illShaped.fieldsOf "log" LogSettings.fields = (.ok values, illShaped, events) ∧
      events.length = 1 ∧
      illShapedMore.fieldsOf "log" LogSettings.fields = (.ok values, illShapedMore, events)) ∧
    (illShaped.fieldsOf "log.pretty.on" []).1 = .error (.noEntries .text) ∧
    (illShaped.fieldsOf "catalogue" CatalogueSettings.fields).1 = .error .textHasNoKeys ∧
    illShaped.fieldsOf "catalogue" [⟨"colour", .bool, .null⟩] =
      (.ok [("colour", .null)], illShaped, []) := by
  have hlog : Text.pieces '.' "log" = ["log"] := by decide
  have hdeep : Text.pieces '.' "log.pretty.on" = ["log", "pretty", "on"] := by decide
  have hcatalogue : Text.pieces '.' "catalogue" = ["catalogue"] := by decide
  have hdata : illShaped.data ≠ [] := by simp [illShaped]
  obtain ⟨htable, -, -, -⟩ := fieldsOf_decided hdata "log" LogSettings.fields
  obtain ⟨-, -, hbeyond, -⟩ := fieldsOf_decided hdata "log.pretty.on" []
  obtain ⟨-, -, -, htext⟩ := fieldsOf_decided hdata "catalogue" CatalogueSettings.fields
  obtain ⟨-, -, -, hunread⟩ := fieldsOf_decided hdata "catalogue" [⟨"colour", .bool, .null⟩]
  rw [hlog] at htable
  rw [hdeep] at hbeyond
  rw [hcatalogue] at htext hunread
  refine ⟨?_, ?_, ?_, ?_⟩
  · obtain ⟨values, events, hread, -, hevents, hsame⟩ := htable _ (.next (.there rfl) .here)
    refine ⟨values, events, hread, ?_, hsame illShapedMore (by simp [illShapedMore]) ?_⟩
    · rw [← hevents.length_eq]
      decide
    · exact .next (.there rfl) (.there rfl) (.here (by simp [LogSettings.fields, lookup_entry]))
  · exact (hbeyond .text).mpr
      ⟨_, _, .next (.there rfl) (.here rfl (by simp [Value.shape])), by simp, rfl⟩
  · exact ((htext _ (.here rfl (by simp [Value.shape]))).1 _).mpr
      (.text (List.mem_singleton_self _) (Text.contains_iff.mp (by decide)))
  · refine (hunread _ (.here rfl (by simp [Value.shape]))).2 ?_
    intro fault hrefuses
    cases hrefuses with
    | text hf hinfix =>
      cases List.mem_singleton.mp hf
      exact absurd (Text.contains_iff.mpr hinfix) (by decide)
    | scalar hshape _ => exact hshape (by simp [Value.shape])

end Store

end CortexFlags.Settings
