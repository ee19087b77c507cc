/-! Named entries in the order in which their names first appeared. `put` gives a name a new value in
its old place, or adds it at the end; so a name has one entry and `get?` finds the last value put.
Names of any kind will do that can be told apart. -/

namespace DeskCalculator

abbrev Entries (ν α : Type) := List (ν × α)

namespace Entries

variable {ν α : Type}

def get? [DecidableEq ν] (name : ν) : Entries ν α → Option α
  | [] => none
  | (other, value) :: rest => if other = name then some value else get? name rest

def put [DecidableEq ν] (name : ν) (value : α) : Entries ν α → Entries ν α
  | [] => [(name, value)]
  | (other, old) :: rest =>
    if other = name then (name, value) :: rest else (other, old) :: put name value rest

def ofPairs [DecidableEq ν] (pairs : List (ν × α)) : Entries ν α :=
  pairs.foldl (fun entries pair => put pair.1 pair.2 entries) []

def names (entries : Entries ν α) : List ν :=
  entries.map Prod.fst

theorem get?_put_self [DecidableEq ν] (name : ν) (value : α) (entries : Entries ν α) :
    get? name (put name value entries) = some value := by
  induction entries with
  | nil => simp [put, get?]
  | cons entry rest inductionHypothesis =>
    obtain ⟨other, old⟩ := entry
    by_cases same : other = name
    · simp [put, get?, same]
    · simp [put, get?, same, inductionHypothesis]

theorem get?_put_other [DecidableEq ν] {name asked : ν} (different : name ≠ asked) (value : α)
    (entries : Entries ν α) : get? asked (put name value entries) = get? asked entries := by
  induction entries with
  | nil => simp [put, get?, different]
  | cons entry rest inductionHypothesis =>
    obtain ⟨other, old⟩ := entry
    by_cases same : other = name
    · subst same
      simp [put, get?, different]
    · simp [put, get?, same, inductionHypothesis]

theorem mem_of_get? [DecidableEq ν] {name : ν} {value : α} {entries : Entries ν α}
    (found : get? name entries = some value) : (name, value) ∈ entries := by
  induction entries with
  | nil => cases found
  | cons entry rest inductionHypothesis =>
    obtain ⟨other, held⟩ := entry
    unfold get? at found
    split at found
    · rename_i same
      cases same
      cases found
      exact List.mem_cons_self
    · exact List.mem_cons_of_mem _ (inductionHypothesis found)

theorem get?_isSome_iff [DecidableEq ν] (name : ν) (entries : Entries ν α) :
    (get? name entries).isSome = true ↔ name ∈ entries.names := by
  induction entries with
  | nil => simp [get?, names]
  | cons entry rest inductionHypothesis =>
    obtain ⟨other, held⟩ := entry
    rw [names] at inductionHypothesis ⊢
    by_cases same : other = name
    · simp [get?, same]
    · simp [get?, same, inductionHypothesis, Ne.symm same]

theorem mem_put [DecidableEq ν] {name : ν} {value : α} {entries : Entries ν α} {entry : ν × α}
    (member : entry ∈ put name value entries) : entry = (name, value) ∨ entry ∈ entries := by
  induction entries with
  | nil => exact .inl (List.mem_singleton.mp member)
  | cons first rest inductionHypothesis =>
    obtain ⟨other, old⟩ := first
    unfold put at member
    split at member
    · rcases List.mem_cons.mp member with same | inside
      · exact .inl same
      · exact .inr (List.mem_cons_of_mem _ inside)
    · rcases List.mem_cons.mp member with same | inside
      · exact .inr (same ▸ List.mem_cons_self)
      · rcases inductionHypothesis inside with new | kept
        · exact .inl new
        · exact .inr (List.mem_cons_of_mem _ kept)

theorem put_of_not_mem [DecidableEq ν] {name : ν} {entries : Entries ν α}
    (new : name ∉ entries.names) (value : α) : put name value entries = entries ++ [(name, value)] := by
  induction entries with
  | nil => rfl
  | cons entry rest inductionHypothesis =>
    obtain ⟨other, old⟩ := entry
    simp only [names, List.map_cons, List.mem_cons, not_or] at new
    rw [put, if_neg (Ne.symm new.1), inductionHypothesis new.2, List.cons_append]

theorem put_of_nodup [DecidableEq ν] {entries others : Entries ν α} {name : ν} {value : α}
    (apart : (entries ++ (name, value) :: others).names.Nodup) :
    put name value entries = entries ++ [(name, value)] := by
  apply put_of_not_mem
  rw [names, List.map_append, List.map_cons] at apart
  intro member
  exact (List.nodup_append.mp apart).2.2 name member name List.mem_cons_self rfl

theorem names_put_of_mem [DecidableEq ν] {name : ν} {entries : Entries ν α}
    (known : name ∈ entries.names) (value : α) : (put name value entries).names = entries.names := by
  induction entries with
  | nil => cases known
  | cons entry rest inductionHypothesis =>
    obtain ⟨other, old⟩ := entry
    unfold put
    split
    · rename_i same
      rw [same]
      rfl
    · rename_i different
      rcases List.mem_cons.mp known with same | later
      · exact absurd same.symm different
      · exact congrArg (other :: ·) (inductionHypothesis later)

theorem nodup_put [DecidableEq ν] {entries : Entries ν α} (apart : entries.names.Nodup)
    (name : ν) (value : α) : (put name value entries).names.Nodup := by
  by_cases known : name ∈ entries.names
  · rw [names_put_of_mem known]
    exact apart
  · rw [put_of_not_mem known, names, List.map_append, List.nodup_append]
    refine ⟨apart, by simp, ?_⟩
    intro other old last new same
    rw [same, List.mem_singleton.mp new] at old
    exact known old

end Entries
end DeskCalculator
