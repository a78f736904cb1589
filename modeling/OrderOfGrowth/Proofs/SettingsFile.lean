import OrderOfGrowth.Proofs.PartialSettings
import OrderOfGrowth.Proofs.SavedFile
import OrderOfGrowth.Proofs.Spelling
import OrderOfGrowth.Settings.Load

/-! # Settings files — settings survive being saved and loaded

    All settings are written, field by field, and every field has a reader for what is written in
    it, so the text of a settings file is read as the settings it was written from (`read_write`),
    whether they are at fault or not.  Faults are found after that: a file that has just been saved
    is refused for a fault of its settings and for nothing else. -/

namespace OrderOfGrowth

open Json (Form Entry Value)

/-- The value holds all tables, one after the other. -/
theorem Keywords.isOf_toJson (k : Keywords) :
    k.toJson.IsOf (.object ((Part.all.map .field).map (Entry.member Part.key k.form))) := by
  refine Value.isOf_object ?_
  refine .cons ⟨rfl, Value.isOf_list Value.isOf_text k.loops⟩ ?_
  refine .cons ⟨rfl, Value.isOf_list Value.isOf_text k.functions⟩ ?_
  refine .cons ⟨rfl, Value.isOf_list Value.isOf_text k.allocations⟩ ?_
  exact .nil

namespace Settings

/-- The value holds all fields, one after the other. -/
theorem isOf_toJson {s : Settings} {g : Form} (hg : s.keywords.toJson.IsOf g) :
    s.toJson.IsOf (.object ((Part.all.map .field).map (Entry.member Part.key (s.form g)))) := by
  refine Value.isOf_object ?_
  refine .cons ⟨rfl, Value.isOf_text s.name⟩ ?_
  refine .cons ⟨rfl, Value.isOf_list Value.isOf_size s.sizes⟩ ?_
  refine .cons ⟨rfl, hg⟩ ?_
  refine .cons ⟨rfl, Value.isOf_bool s.tracksCalls⟩ ?_
  refine .cons ⟨rfl, Value.isOf_list Value.isOf_text s.ignore⟩ ?_
  exact .nil

/-- The text of a settings file is read as the settings it was written from. -/
theorem read_write (s : Settings) : read s.write = .ok s := by
  have hkeywords := Keywords.reads_of_holds
    (Form.holds_all (by decide) Keywords.Part.key s.keywords.form)
  have hfields := reads_of_holds hkeywords (Form.holds_all (by decide) Part.key (s.form _))
  exact Json.Decoder.decode_indented (isOf_toJson s.keywords.isOf_toJson) hfields

/-- A file that has just been saved holds the text of the settings. -/
theorem readText_saveFile {s : Settings} {fs fs' : FileSystem} {path : Path}
    (h : s.saveFile fs path = .ok fs') (hdevice : ∀ a, fs.view path ≠ .ok (.device a)) :
    fs'.view.readText path = .ok s.write := by
  unfold saveFile at h
  split at h
  · cases h
  · next fs'' hsave =>
      obtain rfl : fs'' = fs' := Except.ok.inj h
      exact FileView.readText_of_view (FileSystem.view_save hsave hdevice)

/-- Loading checks the settings whose text the file holds. -/
theorem loadFile_of_readText {s : Settings} {files : FileView} {path : Path}
    (h : files.readText path = .ok s.write) : loadFile files path = s.checked := by
  rw [loadFile, h]
  dsimp only
  rw [read_write]

/-- Settings survive being saved and loaded: the file holds a JSON text of the settings, which is
    read as exactly these settings.  Loading the file succeeds if and only if the settings have no
    fault, and otherwise reports their first fault, never a problem with the text.  Only a device
    does not keep what is written to it. -/
theorem loadFile_saveFile (s : Settings) :
    s.toJson.Spells s.write [] ∧ read s.write = .ok s ∧
      ∀ (fs fs' : FileSystem) (path : Path), s.saveFile fs path = .ok fs' →
        (∀ a, fs.view path ≠ .ok (.device a)) →
          fs'.view.readText path = .ok s.write ∧
          (loadFile fs'.view path = .ok s ↔ s.fault? = none) ∧
          (∀ f, loadFile fs'.view path = .error (.settings f) ↔ s.fault? = some f) ∧
          ∀ e, loadFile fs'.view path ≠ .error (.json e) := by
  refine ⟨s.toJson.spells_indentedOnto 0 [], s.read_write, ?_⟩
  intro fs fs' path hsave hdevice
  have htext := readText_saveFile hsave hdevice
  have hload := loadFile_of_readText htext
  refine ⟨htext, ?_⟩
  rw [hload, checked]
  cases hfault : s.fault? with
  | none => simp
  | some f => simp [eq_comm]

/-- Settings with quotes, a backslash, controls and the greatest size, saved in a directory. -/
theorem loadFile_saveFile_quoted :
    let s : Settings :=
      { name := ['"', '\\', '\x00', '\n', 'é'], sizes := [18446744073709551615],
        keywords := ⟨[], [['\x1f']], []⟩, tracksCalls := true, ignore := [[]] }
    let name := fun t : String => Text.bytes t.toList
    let fs : FileSystem :=
      { root := .directory [(name "a", .directory [])], workingDirectory := [] }
    let fs' : FileSystem :=
      { root := .directory
          [(name "a", .directory [(name "c", .file (.ok (.ofText s.write)))])]
        workingDirectory := [] }
    let path := name "./a/c"
    s.saveFile fs path = .ok fs' ∧ (∀ a, fs.view path ≠ .ok (.device a)) ∧
      loadFile fs'.view path = .ok s := by
  intro s name fs fs' path
  have hsave : s.saveFile fs path = .ok fs' := by rfl
  have hdevice : ∀ a, fs.view path ≠ .ok (.device a) := by
    rw [show fs.view path = .error .notFound from rfl]
    exact fun _ => nofun
  have hround := (loadFile_saveFile s).2.2 fs fs' path hsave hdevice
  exact ⟨hsave, hdevice, hround.2.1.mpr rfl⟩

end Settings

end OrderOfGrowth
