import DeskCalculator.Program
import DeskCalculator.Proofs.SettingsLoading
import Mathlib.Data.List.Infix

/-! Switches and files on the command line. Of several files the last one counts, and the switches win
over what it says, wherever they stand and however often. -/

namespace DeskCalculator

namespace CommandLine

/-! ### The words of an option -/

/-- The start of a spelling, or all of it; each spelling that starts so is of the same option. -/
structure Start (flag : Flag) where
  text : String
  isStart : ∃ entry ∈ spellings, entry.2 = flag ∧ text.toList <+: entry.1.toList
  only : ∀ entry ∈ spellings, text.toList <+: entry.1.toList → entry.2 = flag

/-- What tells a start of a long spelling from the other words: the spelling itself is found, or else
one spelling with that start. -/
structure Meant (start : List Char) (flag : Flag) : Prop where
  long : start.take 2 = ['-', '-']
  more : start ≠ ['-', '-']
  valueless : '=' ∉ start
  found : ∃ entry ∈ spellings, entry.2 = flag ∧ isShort entry.1 = false ∧
    (spelled? start = some entry ∨ spelled? start = none ∧
      (spellings.filter fun other => start.isPrefixOf other.1.toList) = [entry])

instance (start : List Char) (flag : Flag) : Decidable (Meant start flag) :=
  decidable_of_iff
    (start.take 2 = ['-', '-'] ∧ start ≠ ['-', '-'] ∧ '=' ∉ start ∧
      ∃ entry ∈ spellings, entry.2 = flag ∧ isShort entry.1 = false ∧
        (spelled? start = some entry ∨ spelled? start = none ∧
          (spellings.filter fun other => start.isPrefixOf other.1.toList) = [entry]))
    ⟨fun ⟨long, more, valueless, found⟩ => ⟨long, more, valueless, found⟩,
      fun ⟨long, more, valueless, found⟩ => ⟨long, more, valueless, found⟩⟩

theorem Start.meant {flag : Flag} (start : Start flag) (useful : flag ≠ .help) :
    Meant start.text.toList flag := by
  have table : ∀ entry ∈ spellings, entry.2 ≠ .help → ∀ start ∈ entry.1.toList.inits,
      (∀ other ∈ spellings, start <+: other.1.toList → other.2 = entry.2) →
      Meant start entry.2 := by
    decide +kernel
  obtain ⟨entry, listed, rfl, isStart⟩ := start.isStart
  exact table entry listed useful _ ((List.mem_inits _ _).mpr isStart) start.only

def valueText : Option (List Char) → List Char
  | none => []
  | some value => '=' :: value

theorem splitEquals_written {start : List Char} (valueless : '=' ∉ start)
    (value : Option (List Char)) : splitEquals (start ++ valueText value) = (start, value) := by
  have before : ∀ character ∈ start, decide (character ≠ '=') = true := by
    intro character member
    apply decide_eq_true
    rintro rfl
    exact valueless member
  rw [splitEquals, List.dropWhile_append_of_pos before, List.takeWhile_append_of_pos before]
  cases value with
  | none => exact congrArg (·, none) (List.append_nil start)
  | some value => exact congrArg (·, some value) (List.append_nil start)

theorem spelled?_valued {start : List Char} (value : List Char) :
    spelled? (start ++ '=' :: value) = none := by
  apply List.find?_eq_none.mpr
  intro entry listed same
  have plain : ∀ entry ∈ spellings, '=' ∉ entry.1.toList := by decide +kernel
  apply plain entry listed
  rw [of_decide_eq_true same]
  exact List.mem_append_right _ List.mem_cons_self

section
variable {start : List Char} {flag : Flag} (meant : Meant start flag)
include meant

theorem Meant.exists_rest : ∃ letter rest, start = '-' :: '-' :: letter :: rest := by
  obtain ⟨long, more, _, _⟩ := meant
  match start with
  | [] => cases long
  | [_] => cases long
  | [first, second] => exact absurd long more
  | first :: second :: letter :: rest =>
      obtain ⟨rfl, rfl⟩ : first = '-' ∧ second = '-' := by simpa using long
      exact ⟨letter, rest, rfl⟩

theorem Meant.candidates (value : Option (List Char)) (unspelled : spelled? start = none) :
    ∃ spelling, candidates (start ++ valueText value) = [(spelling, .option flag false value)] := by
  have split := splitEquals_written meant.valueless value
  obtain ⟨letter, rest, shape⟩ := meant.exists_rest
  obtain ⟨entry, _, rfl, long, spelled | ⟨_, single⟩⟩ := meant.found
  · rw [unspelled] at spelled
    cases spelled
  · refine ⟨entry.1, ?_⟩
    rw [shape] at split single ⊢
    simp only [List.cons_append, CommandLine.candidates] at split ⊢
    simp only [split, single, List.map_cons, List.map_nil, long]

/-- With a value or without, the start of a long spelling is taken for its option. -/
theorem Meant.classify (value : Option (List Char)) {word : String}
    (written : word.toList = start ++ valueText value) :
    classify word = .ok (.option flag false value) := by
  have split := splitEquals_written meant.valueless value
  have pick := meant.candidates value
  obtain ⟨after, shape⟩ : ∃ after, start ++ valueText value = '-' :: '-' :: after := by
    obtain ⟨letter, rest, same⟩ := meant.exists_rest
    exact ⟨letter :: rest ++ valueText value, by rw [same]; rfl⟩
  obtain ⟨entry, _, rfl, long, spelled | ⟨unspelled, _⟩⟩ := meant.found
  · cases value with
    | none =>
        rw [valueText, List.append_nil] at shape written
        rw [shape] at spelled
        simp only [CommandLine.classify, written, shape, spelled, long]
    | some value =>
        have whole : spelled? (start ++ valueText (some value)) = none := spelled?_valued value
        rw [shape] at whole split
        simp only [CommandLine.classify, written, shape, whole, split, spelled, long]
  · have whole : spelled? (start ++ valueText value) = none := by
      cases value with
      | none => rwa [valueText, List.append_nil]
      | some value => exact spelled?_valued value
    obtain ⟨spelling, single⟩ := pick unspelled
    rw [shape] at whole split single
    simp only [CommandLine.classify, written, shape, whole, split, unspelled, single]

end

/-! ### Arguments -/

/-- A path that is a word of its own does not look like an option; one after an equals sign may. -/
inductive Argument where
  | noVoice (start : Start .noVoice)
  | verbose (start : Start .verbose)
  | nextPath (start : Start .config) (path : String) (plain : path.toList.head? ≠ some '-')
  | joinedPath (start : Start .config) (path : String)

namespace Argument

def words : Argument → List String
  | noVoice start => [start.text]
  | verbose start => [start.text]
  | nextPath start path _ => [start.text, path]
  | joinedPath start path => [start.text ++ "=" ++ path]

def flag : Argument → Flag
  | noVoice _ => .noVoice
  | verbose _ => .verbose
  | nextPath .. => .config
  | joinedPath .. => .config

def path? : Argument → Option String
  | noVoice _ => none
  | verbose _ => none
  | nextPath _ path _ => some path
  | joinedPath _ path => some path

def kinds : Argument → List (String × Word)
  | noVoice start => [(start.text, .option .noVoice false none)]
  | verbose start => [(start.text, .option .verbose false none)]
  | nextPath start path _ => [(start.text, .option .config false none), (path, .operand)]
  | joinedPath start path =>
    [(start.text ++ "=" ++ path, .option .config false (some path.toList))]

def applyTo (request : Request) : Argument → Request
  | noVoice _ => { request with noVoice := true }
  | verbose _ => { request with verbose := true }
  | nextPath _ path _ => { request with configPath := some path }
  | joinedPath _ path => { request with configPath := pathOf path.toList }

end Argument

theorem classify_plain {path : String} (plain : path.toList.head? ≠ some '-') :
    classify path = .ok .operand := by
  unfold classify
  dsimp only
  split
  · rename_i dashed
    rw [dashed] at plain
    exact absurd rfl plain
  · rfl

theorem classifyAll_cons {word : String} {kind : Word} {rest : List String}
    {kinds : List (String × Word)} (useful : word ≠ "--") (classified : classify word = .ok kind)
    (others : classifyAll rest = .ok kinds) :
    classifyAll (word :: rest) = .ok ((word, kind) :: kinds) := by
  rw [classifyAll, if_neg useful, classified, others]

theorem ne_divider {word : String} {start : List Char} {flag : Flag} (meant : Meant start flag)
    {value : Option (List Char)} (written : word.toList = start ++ valueText value) :
    word ≠ "--" := by
  rintro rfl
  obtain ⟨letter, rest, shape⟩ := meant.exists_rest
  rw [shape] at written
  cases written

theorem Start.toList_text {flag : Flag} (start : Start flag) :
    start.text.toList = start.text.toList ++ valueText none :=
  (List.append_nil _).symm

theorem Start.toList_joined {flag : Flag} (start : Start flag) (path : String) :
    (start.text ++ "=" ++ path).toList = start.text.toList ++ valueText (some path.toList) := by
  rw [String.toList_append, String.toList_append, List.append_assoc]
  rfl

theorem Start.classifyAll {flag : Flag} (start : Start flag) (useful : flag ≠ .help)
    {rest : List String} {kinds : List (String × Word)} (others : classifyAll rest = .ok kinds) :
    classifyAll (start.text :: rest) = .ok ((start.text, .option flag false none) :: kinds) :=
  classifyAll_cons (ne_divider (start.meant useful) start.toList_text)
    ((start.meant useful).classify none start.toList_text) others

theorem Argument.classifyAll (argument : Argument) {rest : List String}
    {kinds : List (String × Word)} (others : CommandLine.classifyAll rest = .ok kinds) :
    CommandLine.classifyAll (argument.words ++ rest) = .ok (argument.kinds ++ kinds) := by
  cases argument with
  | noVoice start => exact start.classifyAll nofun others
  | verbose start => exact start.classifyAll nofun others
  | nextPath start path plain =>
      have useful : path ≠ "--" := by
        rintro rfl
        exact absurd rfl plain
      exact start.classifyAll nofun (classifyAll_cons useful (classify_plain plain) others)
  | joinedPath start path =>
      have meant := start.meant nofun
      have written := start.toList_joined path
      exact classifyAll_cons (ne_divider meant written) (meant.classify _ written) others

theorem classifyAll_words (arguments : List Argument) :
    classifyAll (arguments.flatMap Argument.words) = .ok (arguments.flatMap Argument.kinds) := by
  induction arguments with
  | nil => rfl
  | cons argument rest inductionHypothesis =>
      rw [List.flatMap_cons, List.flatMap_cons]
      exact argument.classifyAll inductionHypothesis

theorem Argument.interpret (argument : Argument) (request : Request)
    (rest : List (String × Word)) :
    CommandLine.interpret request [] (argument.kinds ++ rest) =
      CommandLine.interpret (argument.applyTo request) [] rest := by
  cases argument <;> rfl

theorem interpret_kinds (arguments : List Argument) (request : Request) :
    interpret request [] (arguments.flatMap Argument.kinds) =
      .run (arguments.foldl Argument.applyTo request) := by
  induction arguments generalizing request with
  | nil => rfl
  | cons argument rest inductionHypothesis =>
      rw [List.flatMap_cons, argument.interpret, inductionHypothesis, List.foldl_cons]

theorem parse_words (arguments : List Argument) :
    parse (arguments.flatMap Argument.words) = .run (arguments.foldl Argument.applyTo {}) := by
  rw [parse, classifyAll_words]
  exact interpret_kinds arguments {}

/-! ### What the arguments ask for -/

def lastFile? (arguments : List Argument) : Option String :=
  (arguments.filterMap Argument.path?).getLast?.filter fun path => path ≠ "" ∧ path ≠ "--"

theorem switches_foldl (arguments : List Argument) (request : Request) :
    (arguments.foldl Argument.applyTo request).noVoice =
      (request.noVoice || decide (.noVoice ∈ arguments.map Argument.flag)) ∧
    (arguments.foldl Argument.applyTo request).verbose =
      (request.verbose || decide (.verbose ∈ arguments.map Argument.flag)) := by
  induction arguments generalizing request with
  | nil => exact ⟨(Bool.or_false _).symm, (Bool.or_false _).symm⟩
  | cons argument rest inductionHypothesis =>
      obtain ⟨noVoice, verbose⟩ := inductionHypothesis (argument.applyTo request)
      rw [List.foldl_cons, noVoice, verbose, List.map_cons]
      cases argument <;> simp [Argument.applyTo, Argument.flag]

theorem Argument.configPath_applyTo (argument : Argument) (request : Request) :
    (argument.applyTo request).configPath =
      match argument.path? with
      | none => request.configPath
      | some path => pathOf path.toList := by
  cases argument with
  | nextPath start path plain =>
      have useful : path.toList ≠ ['-', '-'] := by
        intro same
        rw [same] at plain
        exact absurd rfl plain
      change some path = pathOf path.toList
      rw [pathOf, if_neg useful, String.ofList_toList]
  | _ => rfl

theorem configPath_foldl (arguments : List Argument) (request : Request) :
    (arguments.foldl Argument.applyTo request).configPath =
      match (arguments.filterMap Argument.path?).getLast? with
      | none => request.configPath
      | some path => pathOf path.toList := by
  -- A later path takes the place of an earlier one, so the request before is general.
  induction arguments generalizing request with
  | nil => rfl
  | cons argument rest inductionHypothesis =>
      rw [List.foldl_cons, inductionHypothesis, argument.configPath_applyTo]
      cases path : argument.path? with
      | none => rw [List.filterMap_cons_none path]
      | some first =>
          rw [List.filterMap_cons_some path, List.getLast?_cons]
          cases (rest.filterMap Argument.path?).getLast? <;> rfl

end CommandLine

namespace Program

open CommandLine (Argument lastFile?)

theorem loadRequested_pathOf (storage : Storage) (path : String) :
    loadRequested storage (CommandLine.pathOf path.toList) =
      if path ≠ "" ∧ path ≠ "--" then Settings.load storage path else .ok ({}, []) := by
  by_cases divider : path = "--"
  · rw [divider]
    rfl
  · have useful : path.toList ≠ ['-', '-'] := fun same => divider (String.toList_injective same)
    rw [CommandLine.pathOf, if_neg useful, String.ofList_toList, loadRequested]
    by_cases empty : path = ""
    · rw [if_pos empty, if_neg fun both => both.1 empty]
    · rw [if_neg empty, if_pos ⟨empty, divider⟩]

def loadLast (storage : Storage) (arguments : List Argument) : Settings.Loaded :=
  match lastFile? arguments with
  | none => .ok ({}, [])
  | some path => Settings.load storage path

theorem loadRequested_foldl (storage : Storage) (arguments : List Argument) :
    loadRequested storage (arguments.foldl Argument.applyTo {}).configPath =
      loadLast storage arguments := by
  rw [CommandLine.configPath_foldl, loadLast, lastFile?]
  cases (arguments.filterMap Argument.path?).getLast? with
  | none => rfl
  | some path =>
      dsimp only
      rw [loadRequested_pathOf, Option.filter_some]
      by_cases useful : path ≠ "" ∧ path ≠ "--"
      · rw [if_pos useful, if_pos (decide_eq_true useful)]
      · rw [if_neg useful, if_neg (by rwa [decide_eq_true_eq])]

/-- Each switch that is given has the last word on its field; the other fields are as they were. -/
def switched (arguments : List Argument) (settings : Settings) : Settings :=
  { settings with
    voiceEnabled := if .noVoice ∈ arguments.map Argument.flag then false else settings.voiceEnabled
    verbose := if .verbose ∈ arguments.map Argument.flag then true else settings.verbose }

theorem applySwitches_foldl (arguments : List Argument) (settings : Settings) :
    applySwitches (arguments.foldl Argument.applyTo {}) settings = switched arguments settings := by
  obtain ⟨noVoice, verbose⟩ := CommandLine.switches_foldl arguments {}
  rw [applySwitches, switched, noVoice, verbose]
  split_ifs <;> simp [*]

theorem buildSettings_words (storage : Storage) (arguments : List Argument) :
    buildSettings storage (arguments.flatMap Argument.words) =
      match loadLast storage arguments with
      | .error error => .error (.load error)
      | .ok (settings, warnings) => .ok (switched arguments settings, warnings) := by
  rw [buildSettings, CommandLine.parse_words]
  dsimp only
  rw [loadRequested_foldl]
  cases loadLast storage arguments with
  | error error => rfl
  | ok loaded =>
      obtain ⟨settings, warnings⟩ := loaded
      change Except.ok (applySwitches _ settings, warnings) = _
      rw [applySwitches_foldl]

theorem load_congr {storage other : Storage} {path : Path}
    (same : other.read path.normal = storage.read path.normal) :
    Settings.load other path = Settings.load storage path := by
  unfold Settings.load
  rw [same]

/-- Arguments in any order, each as often as one likes. The last file that is named gives the settings,
and no other file is read; then the switches win over what the file says. Loading fails where that file
cannot be loaded. -/
theorem switches_win_over_last_file (storage : Storage) (arguments : List Argument) :
    (buildSettings storage (arguments.flatMap Argument.words) =
      match loadLast storage arguments with
      | .error error => .error (.load error)
      | .ok (settings, warnings) => .ok (switched arguments settings, warnings)) ∧
    (∀ others : List Argument, others.Perm arguments →
      others.filterMap Argument.path? = arguments.filterMap Argument.path? →
      buildSettings storage (others.flatMap Argument.words) =
        buildSettings storage (arguments.flatMap Argument.words)) ∧
    ∀ other : Storage,
      (∀ path : String, lastFile? arguments = some path →
        other.read (Path.ofString path).normal = storage.read (Path.ofString path).normal) →
      buildSettings other (arguments.flatMap Argument.words) =
        buildSettings storage (arguments.flatMap Argument.words) := by
  refine ⟨buildSettings_words storage arguments, fun others permuted paths => ?_,
    fun other same => ?_⟩
  · have last : loadLast storage others = loadLast storage arguments := by
      rw [loadLast, loadLast, lastFile?, lastFile?, paths]
    have flags (flag : CommandLine.Flag) :
        flag ∈ others.map Argument.flag ↔ flag ∈ arguments.map Argument.flag :=
      (permuted.map Argument.flag).mem_iff
    rw [buildSettings_words, buildSettings_words, last]
    simp only [switched, flags]
  · have last : loadLast other arguments = loadLast storage arguments := by
      unfold loadLast
      cases named : lastFile? arguments with
      | none => rfl
      | some path => exact load_congr (same path named)
    rw [buildSettings_words, buildSettings_words, last]

/-- Between two switches, of two files the second. -/
theorem switches_win_over_second_file :
    let text := "\x7b\"voice_enabled\": true, \"voice_rate\": 7\x7d".toList
    ∃ storage settings warnings,
      Storage.empty.write "settings.json" (Utf8.encode text) = .ok storage ∧
      buildSettings storage
        ["--no-v", "--conf=-other=", "--config", "settings.json", "--verbose"] =
        .ok (settings, warnings) ∧
      settings.voiceEnabled = false ∧ settings.verbose = true ∧ settings.voiceRate = 7 := by
  intro text
  obtain ⟨storage, written, found⟩ := Storage.exists_write
    (by decide +kernel : '\x00' ∉ (Path.ofString "settings.json").text.toList)
    (by decide +kernel : Storage.empty.placeOf "settings.json" =
      .ok ⟨.working 0, ["settings.json"]⟩) (Utf8.encode text)
  have rate : (Settings.ofText (Text.unifyLineBreaks text)).toOption.any
      (fun loaded => loaded.1.voiceRate = 7) = true := by
    decide +kernel
  let arguments : List Argument := [.noVoice ⟨"--no-v", by decide, by decide⟩,
    .joinedPath ⟨"--conf", by decide, by decide⟩ "-other=",
    .nextPath ⟨"--config", by decide, by decide⟩ "settings.json" nofun,
    .verbose ⟨"--verbose", by decide, by decide⟩]
  have built := (switches_win_over_last_file storage arguments).1
  have last : loadLast storage arguments = Settings.ofText (Text.unifyLineBreaks text) :=
    Settings.load_of_text found
  rw [last] at built
  cases read : Settings.ofText (Text.unifyLineBreaks text) with
  | error error =>
      rw [read] at rate
      cases rate
  | ok loaded =>
      rw [read] at built rate
      exact ⟨storage, switched arguments loaded.1, loaded.2, written, built, rfl, rfl,
        of_decide_eq_true rate⟩

/-- A double dash after the equals sign is no value, although there is a file of that name. -/
theorem double_dash_names_no_file :
    let storage := Storage.empty.place "--" (.file (Utf8.encode "\x7b\"verbose\": true\x7d".toList))
    (∃ settings warnings, Settings.load storage "--" = .ok (settings, warnings) ∧
      settings.verbose = true) ∧
    buildSettings storage ["--config=--"] = .ok ({}, []) ∧ ({} : Settings).verbose = false := by
  intro storage
  have clean : '\x00' ∉ (Path.ofString "--").normal.text.toList := by decide +kernel
  have file : storage.fileAt (Path.ofString "--").normal =
      .ok (Utf8.encode "\x7b\"verbose\": true\x7d".toList) := by
    decide +kernel
  have verbose : (Settings.ofText
      (Text.unifyLineBreaks "\x7b\"verbose\": true\x7d".toList)).toOption.any
        (fun loaded => loaded.1.verbose) = true := by
    decide +kernel
  have parsed : CommandLine.parse ["--config=--"] = .run {} := by decide +kernel
  refine ⟨?_, ?_, rfl⟩
  · rw [Settings.load_of_text (Storage.read_of_fileAt clean file)]
    revert verbose
    cases Settings.ofText (Text.unifyLineBreaks "\x7b\"verbose\": true\x7d".toList) with
    | error error => exact nofun
    | ok loaded => exact fun verbose => ⟨loaded.1, loaded.2, rfl, verbose⟩
  · rw [buildSettings, parsed]
    rfl

end Program
end DeskCalculator
