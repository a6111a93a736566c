import Mathlib.Logic.ExistsUnique
import ProcessGraph.Config.Discovery
import ProcessGraph.Proofs.Encodings
import ProcessGraph.Proofs.Resolution

/-!
# Where a configuration comes from

* `FileSystem.has_iff`: what is there is a file that can be read, or a directory.
* `Config.Named`: the path that the value of a variable names.
* `Config.Chosen`: the path that is used, if any. `Config.chosen_iff`: it is the one that is chosen.
* `Config.load_eq_ok_iff`: the configuration of a file is that of its text.
* `Config.discovery_settled`: the chosen path settles the matter, whatever is wrong with it.
-/

namespace ProcessGraph

/-! ## what is there -/

namespace FileSystem

theorem walk_ne_isADirectory (root : FileTree) (place path : List String) :
    walk root place path ≠ .error .isADirectory := by
  induction path generalizing place with
  | nil => simp [walk]
  | cons step rest ih =>
    rw [walk]
    split
    · split
      · exact ih _
      split
      · exact ih _
      split
      · simp
      split
      · exact ih _
      · simp
    · simp
    · simp

theorem find_ne_isADirectory (fs : FileSystem) (path : String) : fs.find path ≠ .error .isADirectory := by
  intro h
  unfold find at h
  cases hcheck : checkPath path with
  | error e =>
    rw [hcheck] at h
    obtain rfl := Except.error.inj h
    revert hcheck
    unfold checkPath
    repeat' split
    all_goals simp
  | ok u =>
    cases hwalk : walk fs.root (fs.origin path) (steps path) with
    | error e =>
      rw [hcheck, hwalk] at h
      obtain rfl := Except.error.inj h
      exact walk_ne_isADirectory _ _ _ hwalk
    | ok place =>
      rw [hcheck, hwalk] at h
      simp only [bind, Except.bind] at h
      split at h
      · cases h
      · cases h

/-- What is there is a file that can be read, or a directory. -/
theorem has_iff (fs : FileSystem) (path : String) :
    fs.view.has path ↔ (∃ bytes, fs.view.read path = .ok bytes) ∨ fs.view.read path = .error .isADirectory := by
  have hne := fs.find_ne_isADirectory path
  simp only [view, has, read]
  cases hfind : fs.find path with
  | error e =>
    rw [hfind] at hne
    simpa [Except.toOption, bind, Except.bind] using hne
  | ok t => cases t <;> simp [Except.toOption, bind, Except.bind, pure, Except.pure, throw, throwThe,
      MonadExceptOf.throw]

end FileSystem

namespace Config

/-! ## the chosen path -/

/-- The path that the value of a variable gives, if the variable is set and its value is a text. -/
def given? (value : Option Text.Bytes) : Option String := value.bind Text.ofUtf8?

/-- The value of a variable names a path: it is a text, and not blank. -/
structure Named (value : Option Text.Bytes) (path : String) : Prop where
  text : value = some (Text.utf8 path)
  visible : ∃ c ∈ path.toList, Text.isBlank c = false

/-- The path that is used: the one that is named, or else the first candidate that is there, or else none. -/
inductive Chosen (files : FileView) (value : Option Text.Bytes) (candidates : List String) : Option String → Prop where
  | named {path : String} (h : Named value path) : Chosen files value candidates (some path)
  | found {path : String} (hnamed : ∀ p, ¬ Named value p) (h : First (files.has · = true) candidates path) :
      Chosen files value candidates (some path)
  | nowhere (hnamed : ∀ p, ¬ Named value p) (h : ∀ path ∈ candidates, files.has path = false) :
      Chosen files value candidates none

theorem given?_eq_some_iff {value : Option Text.Bytes} {path : String} :
    given? value = some path ↔ value = some (Text.utf8 path) := by
  rw [given?, Option.bind_eq_some_iff]
  constructor
  · rintro ⟨bytes, rfl, hbytes⟩
    rw [Text.ofUtf8?_eq_some_iff.1 hbytes]
  · rintro rfl
    exact ⟨_, rfl, Text.ofUtf8?_eq_some_iff.2 rfl⟩

theorem isBlank_eq_false_iff {text : String} : isBlank text = false ↔ ∃ c ∈ text.toList, Text.isBlank c = false := by
  simp [isBlank]

/-- The value of a variable names the path that it gives, unless that one is blank. -/
theorem named_iff {value : Option Text.Bytes} {path : String} :
    Named value path ↔ given? value = some path ∧ isBlank path = false := by
  rw [given?_eq_some_iff, isBlank_eq_false_iff]
  exact ⟨fun h => ⟨h.text, h.visible⟩, fun h => ⟨h.1, h.2⟩⟩

theorem choose_of_named {files : FileView} {value : Option Text.Bytes} {candidates : List String} {path : String}
    (h : Named value path) : choose files (given? value) candidates = some path := by
  obtain ⟨hgiven, hblank⟩ := named_iff.1 h
  simp [choose, hgiven, hblank]

theorem choose_of_not_named {files : FileView} {value : Option Text.Bytes} {candidates : List String}
    (h : ∀ p, ¬ Named value p) : choose files (given? value) candidates = candidates.find? files.has := by
  unfold choose
  split
  next path hgiven =>
    have hblank : isBlank path := by
      by_contra hvisible
      exact h path (named_iff.2 ⟨hgiven, Bool.eq_false_iff.2 hvisible⟩)
    rw [if_pos hblank]
  next => rfl

/-- The path that is used is the one that is chosen. -/
theorem chosen_iff {files : FileView} {value : Option Text.Bytes} {candidates : List String} {choice : Option String} :
    Chosen files value candidates choice ↔ choose files (given? value) candidates = choice := by
  constructor
  · intro h
    cases h with
    | named h => exact choose_of_named h
    | found hnamed h => rw [choose_of_not_named hnamed, find?_eq_some_iff_first.2 h]
    | nowhere hnamed h =>
      rw [choose_of_not_named hnamed, List.find?_eq_none]
      simpa using h
  · rintro rfl
    by_cases hnamed : ∃ path, Named value path
    · obtain ⟨path, hpath⟩ := hnamed
      rw [choose_of_named hpath]
      exact .named hpath
    rw [not_exists] at hnamed
    rw [choose_of_not_named hnamed]
    cases hfind : candidates.find? files.has with
    | some path => exact .found hnamed (find?_eq_some_iff_first.1 hfind)
    | none => exact .nowhere hnamed (by simpa using hfind)

/-! ## the configuration of a file -/

theorem readText_eq_ok_iff {files : FileView} {path text : String} :
    readText files path = .ok text ↔ files.read path = .ok (Text.utf8 text) := by
  unfold readText
  cases files.read path with
  | error e => simp [bind, Except.bind]
  | ok bytes =>
    simp only [bind, Except.bind, Except.ok.injEq, ← Text.ofUtf8?_eq_some_iff]
    cases Text.ofUtf8? bytes <;> simp [pure, Except.pure, throw, throwThe, MonadExceptOf.throw]

/-- Whether a text has a configuration does not hang on how it is refused. -/
theorem parseOr_eq_ok_iff {refusal : Error} {text : String} {c : Config} :
    parseOr refusal text = .ok c ↔ parse text = .ok c := by
  unfold parse parseOr
  cases decode? text <;> simp [throw, throwThe, MonadExceptOf.throw]

/-- The configuration of a file is that of its text. -/
theorem load_eq_ok_iff {files : FileView} {path : String} {c : Config} :
    load files path = .ok c ↔ ∃ text, files.read path = .ok (Text.utf8 text) ∧ parse text = .ok c := by
  simp only [← readText_eq_ok_iff]
  unfold load
  cases readText files path with
  | error e => simp
  | ok text => simp [parseOr_eq_ok_iff]

/-- Only the file itself matters to its configuration. -/
theorem load_congr {files other : FileView} {path : String} (h : other.read path = files.read path) :
    load other path = load files path := by
  unfold load readText
  rw [h]

/-! ## the loaders -/

theorem discover_of_chosen {files : FileView} {value : Option Text.Bytes} {candidates : List String} {path : String}
    (h : Chosen files value candidates (some path)) :
    discover files (given? value) candidates = (load files path).map fun c => some ⟨c, some path⟩ := by
  rw [discover, chosen_iff.1 h]

theorem loadFound_of_chosen {files : FileView} {value : Option Text.Bytes} {candidates : List String} {path : String}
    (h : Chosen files value candidates (some path)) :
    loadFound files (given? value) candidates = (load files path).map fun c => ⟨c, some path⟩ := by
  rw [loadFound, discover_of_chosen h]
  cases load files path <;> rfl

theorem loadOrDefault_of_chosen {files : FileView} {value : Option Text.Bytes} {candidates : List String}
    {path : String} (h : Chosen files value candidates (some path)) :
    loadOrDefault files (given? value) candidates = (load files path).map fun c => ⟨c, some path⟩ := by
  rw [loadOrDefault, discover_of_chosen h]
  cases load files path <;> rfl

/-- **A configuration comes from one place.** There is always one choice. If it is a path, both loaders give the
configuration of the file there, with the path as its source, or the error for that file; and no other file matters.
If it is none, one loader fails, and the other one gives the default configuration, which has no source. The
configuration of a file is that of its text; and what a file system has is a file or a directory. -/
theorem discovery_settled (files : FileView) (value : Option Text.Bytes) (candidates : List String) :
    (∃! choice, Chosen files value candidates choice) ∧
      (∀ path, Chosen files value candidates (some path) →
        loadFound files (given? value) candidates = ((load files path).map fun c => ⟨c, some path⟩) ∧
          loadOrDefault files (given? value) candidates = ((load files path).map fun c => ⟨c, some path⟩) ∧
          ∀ other : FileView, Chosen other value candidates (some path) → other.read path = files.read path →
            loadFound other (given? value) candidates = loadFound files (given? value) candidates ∧
              loadOrDefault other (given? value) candidates = loadOrDefault files (given? value) candidates) ∧
      (Chosen files value candidates none →
        loadFound files (given? value) candidates = .error (.noneFound candidates) ∧
          loadOrDefault files (given? value) candidates = .ok ⟨{}, none⟩) ∧
      (∀ path c, load files path = .ok c ↔ ∃ text, files.read path = .ok (Text.utf8 text) ∧ parse text = .ok c) ∧
      ∀ (fs : FileSystem) (path : String), fs.view.has path ↔
        (∃ bytes, fs.view.read path = .ok bytes) ∨ fs.view.read path = .error .isADirectory := by
  refine ⟨?_, fun path h => ?_, fun h => ?_, fun path c => load_eq_ok_iff, FileSystem.has_iff⟩
  · exact ⟨_, chosen_iff.2 rfl, fun choice h => (chosen_iff.1 h).symm⟩
  · refine ⟨loadFound_of_chosen h, loadOrDefault_of_chosen h, fun other hother hread => ?_⟩
    rw [loadFound_of_chosen h, loadFound_of_chosen hother, loadOrDefault_of_chosen h, loadOrDefault_of_chosen hother,
      load_congr hread]
    exact ⟨rfl, rfl⟩
  · rw [loadFound, loadOrDefault, discover, chosen_iff.1 h]
    exact ⟨rfl, rfl⟩

/-- The variable is blank, and the first candidate is missing. The second one is malformed: the third one, which is
well formed, does not take its place, and neither does the default configuration. -/
theorem discovery_settled_malformed :
    let files : FileView :=
      ⟨fun path => path ≠ "a.toml", fun path => .ok (Text.utf8 (if path = "b.toml" then "[poll" else ""))⟩
    let blank := some (Text.utf8 " \t")
    let candidates := ["a.toml", "b.toml", "c.toml"]
    Chosen files blank candidates (some "b.toml") ∧ load files "c.toml" = .ok {} ∧
      loadFound files (given? blank) candidates = .error (.malformedFile "b.toml") ∧
        loadOrDefault files (given? blank) candidates = .error (.malformedFile "b.toml") := by
  intro files blank candidates
  have hchosen : Chosen files blank candidates (some "b.toml") := chosen_iff.2 (by decide +kernel)
  have hmalformed : load files "b.toml" = .error (.malformedFile "b.toml") := by decide +kernel
  obtain ⟨hfound, hdefault, -⟩ := (discovery_settled files blank candidates).2.1 "b.toml" hchosen
  rw [hmalformed] at hfound hdefault
  exact ⟨hchosen, by decide +kernel, hfound, hdefault⟩

end Config

end ProcessGraph
