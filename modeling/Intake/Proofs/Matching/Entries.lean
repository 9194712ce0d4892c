/-
The entries of a dictionary.

Empty cells are left out before a line is taken apart, and a term without
payloads stands for itself. So an entry that was read has a term and payloads,
whatever the file, and that is all that matchers and tables rely on.
-/
import Intake.Environment
import Intake.Matching.Dictionary
import Intake.Proofs.Files.Append
import Intake.Proofs.Record.Reading

namespace Intake

/-- The entry has a term, and there is something that stands for it. -/
structure DictionaryEntry.Filled (entry : DictionaryEntry) : Prop where
  term : entry.term ≠ ""
  payloads : entry.payloads ≠ []

namespace Dictionary

variable {cells : List (List Char)} {entry : DictionaryEntry}
  {entries : List DictionaryEntry} {files : FileTree}

/-- Only cells that are not empty are kept. -/
theorem ne_empty_of_mem_filledCells {cell : String}
    (h : cell ∈ filledCells cells) :
    cell ≠ "" := by
  obtain ⟨chars, hchars, rfl⟩ := List.mem_map.mp h
  obtain ⟨-, hfilled⟩ := List.mem_filter.mp hchars
  intro hempty
  have hnil : chars = [] := by simpa using congrArg String.toList hempty
  rw [hnil] at hfilled
  cases hfilled

/-- An entry is filled however the cells of its line are. -/
theorem entryOf_filled (h : entryOf cells = some entry) : entry.Filled := by
  rw [entryOf] at h
  split at h
  · cases h
  · next term hcells =>
      cases h
      exact ⟨ne_empty_of_mem_filledCells (hcells ▸ List.mem_cons_self), nofun⟩
  · next term payloads hmore hcells =>
      cases h
      exact ⟨ne_empty_of_mem_filledCells (hcells ▸ List.mem_cons_self), hmore⟩

/-- The entries of a text are filled. -/
theorem ofOctets_filled {octets : List UInt8}
    (h : ofOctets octets = some entries) :
    ∀ entry ∈ entries, entry.Filled := by
  obtain ⟨rows, -, rfl⟩ := Option.map_eq_some_iff.mp h
  intro entry hentry
  obtain ⟨row, -, hrow⟩ := List.mem_filterMap.mp hentry
  exact entryOf_filled hrow

/-- The entries of a file are filled. -/
theorem load_filled {path : String} (h : load files path = .ok entries) :
    ∀ entry ∈ entries, entry.Filled := by
  rw [load] at h
  split at h
  · cases h
  · cases h
  · split at h
    · next hoctets =>
        cases h
        exact ofOctets_filled hoctets
    · cases h

/-- The entries of several files are filled. -/
theorem loadAll_filled {paths : List String}
    (h : loadAll files paths = .ok entries) :
    ∀ entry ∈ entries, entry.Filled := by
  induction paths generalizing entries with
  | nil =>
      cases h
      exact nofun
  | cons path paths ih =>
      obtain ⟨first, hfirst, h⟩ := Record.bind_eq_ok.mp h
      obtain ⟨more, hmore, h⟩ := Record.bind_eq_ok.mp h
      cases h
      intro entry hentry
      rcases List.mem_append.mp hentry with hentry | hentry
      · exact load_filled hfirst entry hentry
      · exact ih hmore entry hentry

/-- The entries of a single file are all there are. -/
theorem loadAll_singleton {path : String} (h : load files path = .ok entries) :
    loadAll files [path] = .ok entries := by
  rw [loadAll, h, loadAll]
  exact congrArg Except.ok (List.append_nil entries)

-- ====================================================== a single file

/-- A tree with one file and nothing else around it. -/
def oneFile (octets : List UInt8) : Environment :=
  ⟨⟨[(["f"], .file octets)]⟩, ⟨0, 0⟩, fun _ => ⟨⟨0, 0⟩, ⟨0, 0⟩⟩,
    fun _ => .error "none"⟩

/-- Reading the one file gives the entries of its text. -/
theorem load_oneFile {octets : List UInt8}
    (h : ofOctets octets = some entries) :
    load (oneFile octets).files "f" = .ok entries := by
  rw [load, oneFile, FileTree.read_f]
  dsimp only
  rw [h]

end Dictionary

end Intake
