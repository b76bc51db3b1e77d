/-! Levels of log records: numbers, five of which have a name. -/

namespace CortexFlags

/-- How urgent a record is; a higher number is more urgent. -/
abbrev Level := Int

namespace Level

def debug : Level := 10
def info : Level := 20
def warning : Level := 30
def error : Level := 40
def critical : Level := 50

/-- The levels that a command line may name, from the least to the most urgent. -/
def named : List (String × Level) :=
  [("DEBUG", debug), ("INFO", info), ("WARNING", warning), ("ERROR", error),
    ("CRITICAL", critical)]

def ofName? (s : String) : Option Level := named.lookup s

/-- The name of a level, or a text with its number; zero stands for no level. -/
def name (level : Level) : String :=
  match named.find? (·.2 = level) with
  | some entry => entry.1
  | none => if level = 0 then "NOTSET" else s!"Level {level}"

theorem ofName?_name {level : Level} (h : level ∈ named.map Prod.snd) :
    ofName? level.name = some level := by
  simp only [named, List.map_cons, List.map_nil, List.mem_cons, List.not_mem_nil, or_false] at h
  rcases h with rfl | rfl | rfl | rfl | rfl <;> decide

end Level

end CortexFlags
