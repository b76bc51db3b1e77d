import CortexFlags.Proofs.Logging.Occasion

/-! Logs in JSON are read back.

* `linesOf_join`: lines without a line feed come back from a log;
* `colourLevel_encodeObject`: an object is not coloured;
* `line_of_json`: the line of a record, on the console and in a file;
* `json_read_back`: one record on one line, and the records of a log from its lines. -/

namespace CortexFlags

/-! ## Lines of a log -/

/-- The lines of a log, each of which ends with a line feed. -/
def linesOf (log : String) : List String := (Text.pieces '\n' log).dropLast

theorem pieces_line {line : String} (h : '\n' ∉ line.toList) (rest : String) :
    Text.pieces '\n' (line ++ "\n" ++ rest) = line :: Text.pieces '\n' rest := by
  have hchars : (line ++ "\n" ++ rest).toList = line.toList ++ '\n' :: rest.toList := by simp
  simp only [Text.pieces, Text.cut, hchars, Text.cutChars_append h, String.ofList_toList,
    List.map_cons]

theorem pieces_join {lines : List String} (h : ∀ line ∈ lines, '\n' ∉ line.toList) :
    Text.pieces '\n' (String.join (lines.map (· ++ "\n"))) = lines ++ [""] := by
  induction lines with
  | nil => decide
  | cons line lines ih =>
    obtain ⟨hline, hlines⟩ := List.forall_mem_cons.mp h
    rw [List.map_cons, String.join_cons, pieces_line hline, ih hlines]
    rfl

theorem linesOf_join {lines : List String} (h : ∀ line ∈ lines, '\n' ∉ line.toList) :
    linesOf (String.join (lines.map (· ++ "\n"))) = lines := by
  rw [linesOf, pieces_join h, List.dropLast_concat]

/-! ## Lines in JSON -/

/-- A record as an object of its fields. -/
def Record.json (r : Record) : String := Text.Json.encodeObject r.fields

/-- An object does not start with the name of a level. -/
theorem colourLevel_encodeObject (members : List (String × String)) :
    colourLevel (Text.Json.encodeObject members) = Text.Json.encodeObject members := by
  have hchars : ∃ rest, (Text.Json.encodeObject members).toList = '\x7b' :: rest := by
    rw [Text.Json.encodeObject, String.append_assoc, String.toList_append]
    exact ⟨_, rfl⟩
  obtain ⟨rest, hrest⟩ := hchars
  have hnone : levelColours.find? (fun entry =>
      entry.1.toList.isPrefixOf (Text.Json.encodeObject members).toList) = none := by
    rw [hrest]
    rfl
  rw [colourLevel, hnone]

theorem line_of_json {h : Handler} (hjson : h.layout = .json) (r : Record) :
    h.line r = some (r.json ++ "\n") := by
  obtain ⟨sink, level, layout⟩ := h
  cases hjson
  cases sink with
  | file place => rfl
  | console coloured =>
    cases coloured with
    | false => rfl
    | true => exact congrArg (fun text => some (text ++ "\n")) (colourLevel_encodeObject r.fields)

theorem transcript_of_json {h : Handler} (hjson : h.layout = .json) (records : List Record) :
    h.transcript records = String.join ((records.map Record.json).map (· ++ "\n")) := by
  have hline : h.line = fun r => some (r.json ++ "\n") := funext (line_of_json hjson)
  rw [Handler.transcript, hline, List.filterMap_eq_map', List.map_map]
  rfl

theorem isPlain_of_mem_json {r : Record} {c : Char} (hc : c ∈ r.json.toList) :
    Text.Json.isPlain c :=
  List.all_eq_true.mp (Text.Json.all_isPlain_encodeObject r.fields) c hc

theorem not_mem_json (r : Record) : '\n' ∉ r.json.toList :=
  fun hc => absurd (isPlain_of_mem_json hc) (by decide)

theorem decode_json (r : Record) : Text.Json.decode r.json = some r.fields :=
  Text.Json.decode_encodeObject r.fields

theorem mapM_decode_json (records : List Record) :
    (records.map Record.json).mapM Text.Json.decode = some (records.map Record.fields) := by
  induction records with
  | nil => rfl
  | cons r records ih =>
    rw [List.map_cons, List.mapM_cons, decode_json, ih]
    rfl

theorem linesOf_transcript {h : Handler} (hjson : h.layout = .json) (records : List Record) :
    linesOf (h.transcript records) = records.map Record.json := by
  rw [transcript_of_json hjson]
  refine linesOf_join fun line hline => ?_
  obtain ⟨r, -, rfl⟩ := List.mem_map.mp hline
  exact not_mem_json r

/-- **Read back**: a record is one line of printable ASCII, which has its four fields and no
others; so the lines of a log have those of all its records, in order. -/
theorem json_read_back {h : Handler} (hjson : h.layout = .json) :
    (∀ r : Record, ∃ text, h.layout.render r = some text ∧ h.line r = some (text ++ "\n") ∧
      (∀ c ∈ text.toList, ' ' ≤ c ∧ c ≤ '~') ∧ linesOf (text ++ "\n") = [text] ∧
      Text.Json.decode text = some [("asctime", r.time.text), ("levelname", r.event.level.name),
        ("name", r.event.logger), ("message", r.event.message)]) ∧
    ∀ records : List Record,
      (linesOf (h.transcript records)).mapM Text.Json.decode =
        some (records.map Record.fields) := by
  constructor
  · intro r
    refine ⟨r.json, ?_, line_of_json hjson r, fun c hc => ?_, ?_, decode_json r⟩
    · rw [hjson]
      rfl
    · simpa [Text.Json.isPlain] using isPlain_of_mem_json hc
    · have hone := linesOf_transcript hjson [r]
      rwa [transcript_of_json hjson, List.map_singleton, List.map_singleton, String.join_cons,
        String.join_nil, String.append_empty] at hone
  · intro records
    rw [linesOf_transcript hjson, mapM_decode_json]

/-- A record that needs an escape of each kind. -/
def hardRecord : Record :=
  ⟨⟨0, 7⟩, .empty, "armtarget.a\"b", .error, "two\nlines \\ \x01 \x7f \u00e9 😀"⟩

theorem hardRecord_read_back :
    hardRecord.json = "\x7b\"asctime\": \"1970-01-01 00:00:00,007\", \"levelname\": \"ERROR\", " ++
      "\"name\": \"armtarget.a\\\"b\", " ++
      "\"message\": \"two\\nlines \\\\ \\u0001 \\u007f \\u00e9 \\ud83d\\ude00\"\x7d" ∧
    (linesOf ((fileHandler ["a.log"] .json).transcript [hardRecord, hardRecord])).mapM
      Text.Json.decode = some [hardRecord.fields, hardRecord.fields] :=
  ⟨by decide +kernel, (json_read_back (h := fileHandler ["a.log"] .json) rfl).2 _⟩

/-- The log file of an activation in JSON, where no other opens it and it has no text before, has
the fields of the records that pass. -/
theorem Occasion.json_file_read_back {o : Occasion} {path : String}
    (hstart : o.start.hub = .initial) (h : o.start.Completes o.steps)
    (hjson : o.request.json = true) (hpath : o.request.file = some path)
    (hplace : Place.ofPath path ≠ Place.nullDevice)
    (honly : ∀ s ∈ o.before ++ o.after, ¬ s.OpensAt (Place.ofPath path))
    (hnew : (o.found.files.lookup (Place.ofPath path)).getD "" = "") :
    ∃ log, (o.start.run o.steps).files.lookup (Place.ofPath path) = some log ∧
      (linesOf log).mapM Text.Json.decode = some (o.passed.map Record.fields) := by
  obtain ⟨layout, hlayout, houtputs⟩ := exists_outputs_file h hpath
  rw [LogRequest.layout?, if_pos hjson] at hlayout
  cases hlayout
  refine ⟨_, lookup_file hstart h hpath hplace honly, ?_⟩
  rw [hnew, String.empty_append, houtputs, Handler.join_lines, linesOf_transcript rfl,
    mapM_decode_json]

end CortexFlags
