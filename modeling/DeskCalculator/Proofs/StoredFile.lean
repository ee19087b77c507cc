import DeskCalculator.Storage

/-! Files that were written. A file is found again under the normal form of its path: the steps that
lead nowhere are left out, and writing a file moves no folder. -/

namespace DeskCalculator

namespace Path

/-! ### The text of a normal path -/

theorem splitSlashes_ne_nil (characters : List Char) : splitSlashes characters ≠ [] := by
  cases characters with
  | nil => exact List.cons_ne_nil _ _
  | cons character rest =>
      unfold splitSlashes
      split
      · exact List.cons_ne_nil _ _
      · split <;> exact List.cons_ne_nil _ _

theorem splitSlashes_slash (rest : List Char) :
    splitSlashes ('/' :: rest) = [] :: splitSlashes rest := by
  rw [splitSlashes, if_pos rfl]

theorem splitSlashes_slashes (count : Nat) (rest : List Char) :
    splitSlashes (List.replicate count '/' ++ rest) =
      List.replicate count [] ++ splitSlashes rest := by
  induction count with
  | zero => rfl
  | succ count inductionHypothesis =>
      rw [List.replicate_succ, List.cons_append, splitSlashes_slash, inductionHypothesis]
      rfl

theorem intercalate_splitSlashes (characters : List Char) :
    ['/'].intercalate (splitSlashes characters) = characters := by
  induction characters with
  | nil => rfl
  | cons character rest inductionHypothesis =>
      unfold splitSlashes
      split
      · rename_i slash
        rw [List.intercalate_cons_of_ne_nil (splitSlashes_ne_nil rest), inductionHypothesis, slash]
        rfl
      · split
        · rename_i none
          exact absurd none (splitSlashes_ne_nil rest)
        · rename_i part parts split
          rw [split] at inductionHypothesis
          rw [List.intercalate_cons_cons_left, inductionHypothesis]

theorem intercalate_sublist {kept parts : List (List Char)} (sublist : kept.Sublist parts) :
    (['/'].intercalate kept).Sublist (['/'].intercalate parts) := by
  induction sublist with
  | slnil => exact List.Sublist.refl _
  | @cons kept parts part sublist inductionHypothesis =>
      by_cases none : parts = []
      · rw [none, List.sublist_nil] at sublist
        rw [sublist, List.intercalate_nil]
        exact List.nil_sublist _
      · rw [List.intercalate_cons_of_ne_nil none]
        exact inductionHypothesis.trans (List.sublist_append_right _ _)
  | @cons_cons kept parts part sublist inductionHypothesis =>
      by_cases none : kept = []
      · rw [none, List.intercalate_singleton]
        by_cases alone : parts = []
        · have whole : ['/'].intercalate (part :: parts) = part := by
            rw [alone, List.intercalate_singleton]
          exact whole.symm ▸ List.Sublist.refl part
        · rw [List.intercalate_cons_of_ne_nil alone, List.append_assoc]
          exact List.sublist_append_left _ _
      · have present : parts ≠ [] := by
          rintro rfl
          exact none (List.sublist_nil.mp sublist)
        rw [List.intercalate_cons_of_ne_nil none, List.intercalate_cons_of_ne_nil present]
        exact (List.Sublist.refl _).append inductionHypothesis

def isStep (part : List Char) : Bool :=
  part ≠ [] ∧ part ≠ ['.']

theorem ofPart?_text (part : List Char) :
    (Step.ofPart? part = none ∧ isStep part = false) ∨
    (Step.ofPart? part = some .stay ∧ isStep part = false) ∨
    (∃ step, Step.ofPart? part = some step ∧ step ≠ .stay ∧ isStep part = true ∧
      step.text.toList = part) := by
  unfold Step.ofPart?
  split
  · exact .inl ⟨rfl, rfl⟩
  · exact .inr (.inl ⟨rfl, rfl⟩)
  · exact .inr (.inr ⟨.back, rfl, by decide, rfl, rfl⟩)
  · rename_i nonempty notDot _
    refine .inr (.inr ⟨.enter (String.ofList part), rfl, by simp, ?_, String.toList_ofList⟩)
    exact decide_eq_true ⟨nonempty, notDot⟩

theorem texts_of_steps (parts : List (List Char)) :
    ((parts.filterMap Step.ofPart?).filter (· ≠ .stay)).map (fun step => step.text.toList) =
      parts.filter isStep := by
  induction parts with
  | nil => rfl
  | cons part rest inductionHypothesis =>
      rcases ofPart?_text part with ⟨absent, skipped⟩ | ⟨stays, skipped⟩ |
        ⟨step, leads, moves, kept, text⟩
      · rw [List.filterMap_cons_none absent, List.filter_cons_of_neg (by simp [skipped])]
        exact inductionHypothesis
      · rw [List.filterMap_cons_some stays, List.filter_cons_of_neg (by simp),
          List.filter_cons_of_neg (by simp [skipped])]
        exact inductionHypothesis
      · rw [List.filterMap_cons_some leads, List.filter_cons_of_pos (by simp [moves]),
          List.filter_cons_of_pos kept, List.map_cons, inductionHypothesis, text]

theorem normalSlashes_le (slashes : Nat) : normalSlashes slashes ≤ slashes := by
  unfold normalSlashes
  split <;> omega

theorem normalSlashes_eq_zero (slashes : Nat) : normalSlashes slashes = 0 ↔ slashes = 0 := by
  unfold normalSlashes
  split <;> omega

theorem slashes_append (characters : List Char) :
    List.replicate (characters.takeWhile (· = '/')).length '/' ++ characters.dropWhile (· = '/') =
      characters := by
  induction characters with
  | nil => rfl
  | cons character rest inductionHypothesis =>
      by_cases slash : character = '/'
      · rw [List.takeWhile_cons_of_pos (by simp [slash]),
          List.dropWhile_cons_of_pos (by simp [slash]), List.length_cons, List.replicate_succ,
          List.cons_append, inductionHypothesis, slash]
      · rw [List.takeWhile_cons_of_neg (by simp [slash]),
          List.dropWhile_cons_of_neg (by simp [slash])]
        rfl

theorem filter_isStep_slashes (count : Nat) (rest : List Char) :
    (splitSlashes (List.replicate count '/' ++ rest)).filter isStep =
      (splitSlashes rest).filter isStep := by
  rw [splitSlashes_slashes, List.filter_append, List.filter_replicate_of_neg, List.nil_append]
  decide

theorem normal_text {text : String} (present : (ofString text).normal.steps ≠ []) :
    (ofString text).normal.text.toList =
      List.replicate (normalSlashes (ofString text).slashes) '/' ++
        ['/'].intercalate ((splitSlashes text.toList).filter isStep) := by
  change (textOf _ _).toList = _
  rw [textOf, if_neg (fun empty => present empty.2), String.toList_append, String.toList_ofList,
    String.toList_intercalate, List.map_map]
  exact congrArg (_ ++ ['/'].intercalate ·) (texts_of_steps _)

/-- A normal path is written with characters of the path, in their order. -/
theorem normal_text_sublist {text : String} (present : (ofString text).normal.steps ≠ []) :
    (ofString text).normal.text.toList.Sublist text.toList := by
  -- The slashes at the start are counted, not split; what is split and joined comes after them.
  obtain ⟨rest, whole⟩ : ∃ rest,
      List.replicate (ofString text).slashes '/' ++ rest = text.toList :=
    ⟨_, slashes_append text.toList⟩
  have parts : (splitSlashes text.toList).filter isStep = (splitSlashes rest).filter isStep := by
    rw [← whole, filter_isStep_slashes]
  have steps : (['/'].intercalate ((splitSlashes rest).filter isStep)).Sublist rest := by
    have inside := intercalate_sublist (@List.filter_sublist _ isStep (splitSlashes rest))
    rw [intercalate_splitSlashes] at inside
    exact inside
  rw [normal_text present, parts, ← whole]
  exact ((List.replicate_sublist_replicate '/').mpr (normalSlashes_le _)).append steps

theorem normal_text_ne_empty {text : String} (present : (ofString text).normal.steps ≠ []) :
    (ofString text).normal.text ≠ "" := by
  intro empty
  have parts : (splitSlashes text.toList).filter isStep ≠ [] := by
    rw [← texts_of_steps]
    exact fun none => present (List.map_eq_nil_iff.mp none)
  obtain ⟨part, others, kept⟩ := List.exists_cons_of_ne_nil parts
  have member : part ∈ (splitSlashes text.toList).filter isStep := by
    rw [kept]
    exact List.mem_cons_self
  have written := normal_text present
  rw [empty, String.toList_empty] at written
  have nothing := List.append_eq_nil_iff.mp written.symm
  have inside := intercalate_sublist (List.singleton_sublist.mpr member)
  rw [nothing.2, List.intercalate_singleton, List.sublist_nil] at inside
  rw [inside] at member
  exact absurd (List.mem_filter.mp member).2 (by decide)

theorem utf8ByteSize_le {first second : List Char} (sublist : first.Sublist second) :
    (String.ofList first).utf8ByteSize ≤ (String.ofList second).utf8ByteSize := by
  induction sublist with
  | slnil => exact Nat.le_refl _
  | cons character sublist inductionHypothesis =>
      rw [String.ofList_cons, String.utf8ByteSize_append]
      omega
  | cons_cons character sublist inductionHypothesis =>
      rw [String.ofList_cons, String.ofList_cons, String.utf8ByteSize_append,
        String.utf8ByteSize_append]
      omega

end Path

namespace Storage

/-! ### Folders on the way -/

theorem foldlM_filter_stay (storage : Storage) (steps : List Step) (folder : Location) :
    (steps.filter (· ≠ .stay)).foldlM storage.enter folder =
      steps.foldlM storage.enter folder := by
  induction steps generalizing folder with
  | nil => rfl
  | cons step rest inductionHypothesis =>
      by_cases stays : step = .stay
      · rw [List.filter_cons_of_neg (by simp [stays]), inductionHypothesis, stays]
        rfl
      · rw [List.filter_cons_of_pos (by simp [stays]), List.foldlM_cons, List.foldlM_cons]
        cases storage.enter folder step with
        | error cause => rfl
        | ok next => exact inductionHypothesis next

theorem at?_put_other (storage : Storage) {location asked : Location} (item : Stored)
    (different : location ≠ asked) :
    (storage.put location item).at? asked = storage.at? asked := by
  unfold at?
  split
  · rfl
  · exact Entries.get?_put_other different item storage.stored

theorem at?_put_child (storage : Storage) (folder : Location) (name : String) (item : Stored) :
    (storage.put (folder.child name) item).at? (folder.child name) = some item := by
  have named : (folder.child name).names ≠ [] := List.cons_ne_nil name folder.names
  rw [at?, if_neg named]
  exact Entries.get?_put_self _ item storage.stored

variable {storage : Storage} {location : Location}

/-- What is put where no folder is stands in nobody's way. -/
theorem enter_put (item : Stored) (apart : storage.at? location ≠ some .folder)
    {folder next : Location} {step : Step} (entered : storage.enter folder step = .ok next) :
    (storage.put location item).enter folder step = .ok next := by
  cases step with
  | stay => exact entered
  | back => exact entered
  | enter name =>
      simp only [enter, bind, Except.bind] at entered ⊢
      split at entered
      · cases entered
      · split at entered
        · cases entered
        · cases entered
        · rename_i isFolder
          cases entered
          have different : location ≠ next := by
            rintro rfl
            exact apart isFolder
          rw [at?_put_other storage item different, isFolder]

theorem foldlM_put (item : Stored) (apart : storage.at? location ≠ some .folder)
    {steps : List Step} {folder last : Location}
    (entered : steps.foldlM storage.enter folder = .ok last) :
    steps.foldlM (storage.put location item).enter folder = .ok last := by
  induction steps generalizing folder with
  | nil => exact entered
  | cons step rest inductionHypothesis =>
      rw [List.foldlM_cons] at entered ⊢
      cases first : storage.enter folder step with
      | error cause =>
          rw [first] at entered
          cases entered
      | ok next =>
          rw [first] at entered
          rw [enter_put item apart first]
          exact inductionHypothesis entered

theorem of_child? {folder place : Location} {name : String}
    (child : child? folder name = .ok place) : place = folder.child name := by
  unfold child? at child
  split at child
  · cases child
  · exact (Except.ok.inj child).symm

theorem of_find {path : Path} {folder : Location} {name : String}
    (found : storage.find path = .ok (some (folder, name))) :
    path.text.utf8ByteSize ≤ pathLimit ∧
      path.steps.dropLast.foldlM storage.enter path.start = .ok folder ∧
      path.steps.getLast? = some (.enter name) := by
  unfold find at found
  split at found
  · cases found
  · split at found
    · cases found
    · rename_i short
      simp only [bind, Except.bind] at found
      split at found
      · cases found
      · rename_i reached
        split at found
        · rename_i last
          cases found
          exact ⟨Nat.le_of_not_lt short, reached, last⟩
        · cases found

/-- A place for a file is under a name in a folder that the path leads to. -/
theorem of_placeOf {path : Path} (placed : storage.placeOf path = .ok location) :
    ∃ folder name, child? folder name = .ok location ∧
      storage.at? location ≠ some .folder ∧ storage.find path = .ok (some (folder, name)) := by
  simp only [placeOf, bind, Except.bind] at placed
  split at placed
  · cases placed
  · rename_i found searched
    split at placed
    · cases placed
    · rename_i folder name
      split at placed
      · cases placed
      · split at placed
        · cases placed
        · rename_i child
          split at placed
          · cases placed
          · rename_i noFolder
            cases placed
            exact ⟨folder, name, child, noFolder, searched⟩

theorem resolve_clean {α : Type} {path : Path} (clean : '\x00' ∉ path.text.toList)
    (answer : Except StorageCause α) :
    resolve path answer = answer.mapError fun cause => .refused cause path.text := by
  have nulFree : path.text.contains '\x00' = false := by
    rw [String.contains_char_eq]
    exact decide_eq_false clean
  rw [resolve, if_neg (by simp [nulFree])]

theorem read_of_fileAt {path : Path} {bytes : List UInt8}
    (clean : '\x00' ∉ path.text.toList) (file : storage.fileAt path = .ok bytes) :
    storage.read path = .ok bytes := by
  rw [read, resolve_clean clean, file]
  rfl

theorem resolve_ok {α : Type} {path : Path} {answer : Except StorageCause α} {found : α}
    (resolved : resolve path answer = .ok found) :
    '\x00' ∉ path.text.toList ∧ answer = .ok found := by
  unfold resolve at resolved
  split at resolved
  · cases resolved
  · rename_i clean
    rw [String.contains_char_eq, decide_eq_true_iff] at clean
    cases answer with
    | error cause => cases resolved
    | ok other =>
        cases resolved
        exact ⟨clean, rfl⟩

theorem getLast?_filter_stay {steps : List Step} {name : String}
    (last : steps.getLast? = some (.enter name)) :
    (steps.filter (· ≠ .stay)).getLast? = some (.enter name) ∧
      (steps.filter (· ≠ .stay)).dropLast = steps.dropLast.filter (· ≠ .stay) := by
  obtain ⟨before, rfl⟩ := List.getLast?_eq_some_iff.mp last
  have whole : (before ++ [Step.enter name]).filter (· ≠ .stay) =
      before.filter (· ≠ .stay) ++ [.enter name] := by
    rw [List.filter_append, List.filter_cons_of_pos (by simp), List.filter_nil]
  rw [whole, List.dropLast_concat, List.dropLast_concat, List.getLast?_concat]
  exact ⟨rfl, rfl⟩

theorem steps_ne_nil {path : Path} {step : Step} (last : path.steps.getLast? = some step) :
    path.steps ≠ [] := by
  intro none
  rw [none] at last
  cases last

theorem start_normal (path : Path) : path.normal.start = path.start := by
  unfold Path.start
  simp only [Path.normal, Path.normalSlashes_eq_zero]

/-- The normal form of a path leads to what the path leads to, also when something has been put where
no folder is. -/
theorem find_normal {text : String} {folder : Location} {name : String} (item : Stored)
    (apart : storage.at? location ≠ some .folder)
    (found : storage.find (Path.ofString text) = .ok (some (folder, name))) :
    (storage.put location item).find (Path.ofString text).normal = .ok (some (folder, name)) := by
  obtain ⟨short, reached, last⟩ := of_find found
  obtain ⟨lastKept, before⟩ := getLast?_filter_stay last
  have present := @steps_ne_nil (Path.ofString text).normal _ lastKept
  have reachedAgain : (Path.ofString text).normal.steps.dropLast.foldlM
      (storage.put location item).enter (Path.ofString text).normal.start = .ok folder := by
    rw [start_normal]
    refine foldlM_put item apart ?_
    change List.foldlM _ _ (List.dropLast (List.filter _ _)) = _
    rw [before, foldlM_filter_stay, reached]
  have shorter : (Path.ofString text).normal.text.utf8ByteSize ≤ pathLimit := by
    have size := Path.utf8ByteSize_le (Path.normal_text_sublist present)
    rw [String.ofList_toList, String.ofList_toList] at size
    exact Nat.le_trans size short
  have lastAgain : (Path.ofString text).normal.steps.getLast? = some (.enter name) := lastKept
  rw [find, if_neg (Path.normal_text_ne_empty present), if_neg (Nat.not_lt.mpr shorter)]
  simp only [bind, Except.bind, reachedAgain, lastAgain]
  rfl

/-- A file that was written is read, as it was written, under the normal form of its path. -/
theorem read_normal_of_write {text : String} {bytes : List UInt8} {written : Storage}
    (saved : storage.write (Path.ofString text) bytes = .ok written) :
    written.read (Path.ofString text).normal = .ok bytes := by
  unfold write at saved
  cases resolved : resolve (Path.ofString text) (storage.placeOf (Path.ofString text)) with
  | error fault =>
      rw [resolved] at saved
      cases saved
  | ok location =>
      rw [resolved] at saved
      cases saved
      obtain ⟨clean, placed⟩ := resolve_ok resolved
      obtain ⟨folder, name, child, apart, found⟩ := of_placeOf placed
      have same := of_child? child
      have last := (getLast?_filter_stay (of_find found).2.2).1
      -- Writing puts a file where no folder was, so all folders on the way are still there.
      have again := find_normal (.file bytes) apart found
      have content : (storage.put location (.file bytes)).fileAt (Path.ofString text).normal =
          .ok bytes := by
        simp only [fileAt, again, child, bind, Except.bind]
        rw [same, at?_put_child]
        rfl
      have sublist := Path.normal_text_sublist (@steps_ne_nil (Path.ofString text).normal _ last)
      have cleanAgain : '\x00' ∉ (Path.ofString text).normal.text.toList :=
        fun member => clean (sublist.subset member)
      exact read_of_fileAt cleanAgain content

theorem exists_write {text : String} (clean : '\x00' ∉ (Path.ofString text).text.toList)
    (placed : storage.placeOf (Path.ofString text) = .ok location) (bytes : List UInt8) :
    ∃ written, storage.write (Path.ofString text) bytes = .ok written ∧
      written.read (Path.ofString text).normal = .ok bytes := by
  have saved : storage.write (Path.ofString text) bytes =
      .ok (storage.put location (.file bytes)) := by
    rw [write, resolve_clean clean, placed]
    rfl
  exact ⟨_, saved, read_normal_of_write saved⟩

end Storage
end DeskCalculator
