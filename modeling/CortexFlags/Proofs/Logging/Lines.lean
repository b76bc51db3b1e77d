import CortexFlags.Logging.Hub
import CortexFlags.Proofs.Text.Json
import CortexFlags.Proofs.Text.Percent
import CortexFlags.Settings.Known

/-! Lines that show records, told apart from how they are made.

* `Layout.Shows`, `Handler.Shows`: the texts and the lines that show a record;
* `Handler.shows_of_line`, `Handler.canShow_iff`: a handler writes such a line if there is one;
* `Handler.Shows.value_isIn`: what a line has of the fields of its record;
* `Layout.showsAll_ofFormat`: formats, such as those that are there unless others are set, that
  have a line for every record. -/

namespace CortexFlags

/-! ## Texts of a record -/

/-- The names that formats may use for the fields of a record. -/
def Record.fieldNames : List String := ["asctime", "levelname", "name", "message"]

theorem Record.exists_value_of_mem {name : String} (h : name ∈ fieldNames) (r : Record) :
    ∃ s, r.fields.lookup name = some s ∧ r.value? name = some (.text s) := by
  simp only [fieldNames, List.mem_cons, List.not_mem_nil, or_false] at h
  rcases h with rfl | rfl | rfl | rfl <;> exact ⟨_, rfl, rfl⟩

/-- The text has what the format asks for, piece by piece; or it is printable ASCII, and what it
means in JSON is the fields of the record. -/
inductive Layout.Shows (r : Record) : Layout → String → Prop
  | percent {format : String} {pieces : List Text.Percent.Piece} {parts : List String} :
      Text.Percent.pieces? format = some pieces →
      Text.Percent.Fills r.value? r.background.whole.toList pieces parts →
      Shows r (.percent format) (String.join parts)
  | json {text : String} : (∀ c ∈ text.toList, ' ' ≤ c ∧ c ≤ '~') →
      Text.Json.decode text = some r.fields → Shows r .json text

namespace Layout

variable {layout : Layout} {r : Record} {text : String}

theorem shows_json (r : Record) : Shows r .json (Text.Json.encodeObject r.fields) := by
  refine .json (fun c hc => ?_) (Text.Json.decode_encodeObject r.fields)
  have hplain := List.all_eq_true.mp (Text.Json.all_isPlain_encodeObject r.fields) c hc
  simpa [Text.Json.isPlain] using hplain

theorem shows_of_render (h : layout.render r = some text) : layout.Shows r text := by
  cases layout with
  | json =>
    cases h
    exact shows_json r
  | percent format =>
    obtain ⟨pieces, hpieces, hfilled⟩ := Option.bind_eq_some_iff.mp h
    obtain ⟨parts, hfills, rfl⟩ := Text.Percent.exists_fills_iff.mpr hfilled
    exact .percent hpieces hfills

/-- If some text shows a record, then one is made. -/
theorem Shows.isSome_render (h : layout.Shows r text) : (layout.render r).isSome := by
  cases h with
  | json => rfl
  | percent hpieces hfills =>
    rw [render, Text.Percent.formatNamed, hpieces, Option.bind_eq_bind, Option.bind_some,
      Text.Percent.exists_fills_iff.mp ⟨_, hfills, rfl⟩]
    rfl

end Layout

/-! ## Lines of a handler -/

/-- The level at the start of a text has its colour, and nothing else changes. -/
inductive Coloured : String → String → Prop
  | plain {text : String} :
      (∀ entry ∈ levelColours, ¬ entry.1.toList <+: text.toList) → Coloured text text
  | level {name colour rest : String} : (name, colour) ∈ levelColours →
      Coloured (name ++ rest) (colour ++ name ++ "\x1b[0m" ++ rest)

theorem coloured_colourLevel (text : String) : Coloured text (colourLevel text) := by
  unfold colourLevel
  cases hfind : levelColours.find? fun entry => entry.1.toList.isPrefixOf text.toList with
  | none =>
    refine .plain fun entry hentry hprefix => ?_
    exact List.find?_eq_none.mp hfind entry hentry (List.isPrefixOf_iff_prefix.mpr hprefix)
  | some entry =>
    have hmem := List.mem_of_find?_eq_some hfind
    have hprefix : entry.1.toList.isPrefixOf text.toList := by
      simpa using List.find?_some hfind
    obtain ⟨name, colour⟩ := entry
    obtain ⟨rest, hrest⟩ := List.isPrefixOf_iff_prefix.mp hprefix
    have htext : text = name ++ String.ofList rest := by
      rw [← String.toList_inj, String.toList_append, String.toList_ofList, hrest]
    have hdrop : String.ofList (text.toList.drop name.length) = String.ofList rest := by
      rw [← hrest, ← String.length_toList, List.drop_left]
    dsimp only
    rw [hdrop]
    conv => enter [1]; rw [htext]
    exact .level hmem

namespace Handler

/-- A line of the handler that shows a record. -/
inductive Shows (h : Handler) (r : Record) : String → Prop
  | plain {text : String} : h.sink ≠ .console true → h.layout.Shows r text →
      Shows h r (text ++ "\n")
  | coloured {text line : String} : h.sink = .console true → h.layout.Shows r text →
      Coloured text line → Shows h r (line ++ "\n")

/-- Some line of the handler shows the record. -/
def CanShow (h : Handler) (r : Record) : Prop := ∃ line, h.Shows r line

variable {h : Handler} {r : Record} {line : String}

/-- **A line shows its record.** -/
theorem shows_of_line (hline : h.line r = some line) : h.Shows r line := by
  obtain ⟨sink, level, layout⟩ := h
  unfold Handler.line at hline
  obtain ⟨text, hrender, hline⟩ := Option.bind_eq_some_iff.mp hline
  have hshows := Layout.shows_of_render hrender
  split at hline
  · cases hline
    exact .coloured ‹_› hshows (coloured_colourLevel text)
  · cases hline
    exact .plain ‹_› hshows

theorem Shows.isSome_line (hshows : h.Shows r line) : (h.line r).isSome := by
  have hrender : (h.layout.render r).isSome := by
    cases hshows with
    | plain _ htext => exact htext.isSome_render
    | coloured _ htext _ => exact htext.isSome_render
  obtain ⟨text, htext⟩ := Option.isSome_iff_exists.mp hrender
  unfold Handler.line
  rw [htext]
  dsimp only [Option.bind_eq_bind, Option.bind_some]
  split <;> rfl

/-- **A handler writes a line if any shows the record.** -/
theorem canShow_iff : h.CanShow r ↔ (h.line r).isSome := by
  constructor
  · rintro ⟨line, hshows⟩
    exact hshows.isSome_line
  · intro hline
    obtain ⟨line, hline⟩ := Option.isSome_iff_exists.mp hline
    exact ⟨line, shows_of_line hline⟩

instance (h : Handler) (r : Record) : Decidable (h.CanShow r) :=
  decidable_of_iff _ canShow_iff.symm

/-- **What a line has of its record**: where nothing is coloured, the texts that the format shows
in full. -/
theorem Shows.value_isIn {format name s : String} {pieces : List Text.Percent.Piece}
    {d : Text.Percent.Directive} (hshows : h.Shows r line) (hsink : h.sink ≠ .console true)
    (hlayout : h.layout = .percent format) (hpieces : Text.Percent.pieces? format = some pieces)
    (hmem : .directive d ∈ pieces) (hkey : d.key = some name) (hconversion : d.conversion = 's')
    (hfull : d.precision = none) (hname : name ∈ Record.fieldNames)
    (hvalue : r.fields.lookup name = some s) : s.toList <:+: line.toList := by
  obtain ⟨s', hs', htext⟩ := Record.exists_value_of_mem hname r
  cases hvalue.symm.trans hs'
  cases hshows with
  | coloured hcoloured => exact absurd hcoloured hsink
  | plain _ hshows =>
    rw [hlayout] at hshows
    cases hshows with
    | percent hpieces' hfills =>
      cases hpieces.symm.trans hpieces'
      rw [String.toList_append]
      exact (hfills.value_isIn hmem hkey htext hconversion hfull).trans
        (List.prefix_append ..).isInfix

/-- The records that a handler shows, each with its line. -/
def lines (h : Handler) (records : List Record) : List (Record × String) :=
  records.filterMap fun r => (h.line r).map (r, ·)

/-- What a handler writes for records, line by line. -/
def transcript (h : Handler) (records : List Record) : String :=
  String.join (records.filterMap h.line)

theorem map_fst_lines (h : Handler) (records : List Record) :
    (h.lines records).map Prod.fst = records.filter fun r => decide (h.CanShow r) := by
  rw [lines, List.map_filterMap, ← List.filterMap_eq_filter]
  refine List.filterMap_congr fun r _ => ?_
  by_cases hshows : h.CanShow r
  · obtain ⟨line, hline⟩ := Option.isSome_iff_exists.mp (canShow_iff.mp hshows)
    simp [hline, hshows, Option.guard]
  · have hline : h.line r = none := by
      rw [← Option.not_isSome_iff_eq_none]
      exact fun hline => hshows (canShow_iff.mpr hline)
    simp [hline, hshows, Option.guard]

theorem join_lines (h : Handler) (records : List Record) :
    String.join ((h.lines records).map Prod.snd) = h.transcript records := by
  rw [lines, transcript, List.map_filterMap]
  refine congrArg String.join (List.filterMap_congr fun r _ => ?_)
  cases h.line r <;> rfl

theorem shows_of_mem_lines {records : List Record} {out : Record × String}
    (hmem : out ∈ h.lines records) : h.Shows out.1 out.2 := by
  obtain ⟨r, -, hr⟩ := List.mem_filterMap.mp hmem
  obtain ⟨line, hline, rfl⟩ := Option.map_eq_some_iff.mp hr
  exact shows_of_line hline

end Handler

/-! ## Layouts that show every record -/

namespace Layout

/-- Every record has a text. -/
def ShowsAll (layout : Layout) : Prop := ∀ r, (layout.render r).isSome

theorem showsAll_json : ShowsAll .json := fun _ => rfl

theorem showsAll_of_shows {format : String} (h : Text.Percent.shows Record.fieldNames format) :
    ShowsAll (.percent format) := by
  intro r
  refine Text.Percent.isSome_formatNamed (fun name hname => ?_) h
  obtain ⟨s, -, hs⟩ := Record.exists_value_of_mem hname r
  exact ⟨s, hs⟩

/-- A format that shows fields of a record as texts has a text for each record. -/
theorem showsAll_ofFormat {format : String} {layout : Layout}
    (h : Text.Percent.shows Record.fieldNames format) (hlayout : ofFormat? format = some layout) :
    layout.ShowsAll := by
  have hmessage : Text.Percent.shows Record.fieldNames "%(message)s" := by decide +kernel
  -- an empty format stands for the message
  have hused : Text.Percent.shows Record.fieldNames
      (if format.isEmpty then "%(message)s" else format) := by
    cases format.isEmpty with
    | true => exact hmessage
    | false => exact h
  unfold ofFormat? at hlayout
  generalize (if format.isEmpty then "%(message)s" else format) = used at hlayout hused
  simp only [Option.ite_none_right_eq_some, Option.some.injEq] at hlayout
  rw [← hlayout.2]
  exact showsAll_of_shows hused

example : Text.Percent.shows Record.fieldNames Settings.LogSettings.standard.streamFormat := by
  decide +kernel

example : Text.Percent.shows Record.fieldNames Settings.LogSettings.standard.fileFormat := by
  decide +kernel

end Layout

theorem Handler.canShow_of_showsAll {h : Handler} (hshows : h.layout.ShowsAll) (r : Record) :
    h.CanShow r := by
  obtain ⟨text, htext⟩ := Option.isSome_iff_exists.mp (hshows r)
  rw [canShow_iff, Handler.line, htext]
  dsimp only [Option.bind_eq_bind, Option.bind_some]
  split <;> rfl

end CortexFlags
