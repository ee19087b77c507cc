import Mathlib.Data.List.Induction
import DeskCalculator.Operator.Registry

/-! The names of operators. A symbol leads to the last operator that has it. The aliases are gone through
one after the other, and each takes the place that its target has by then; so an alias of a symbol always
leads to the symbol's operator, and as long as aliases are not made from one another their order does not
matter. -/

namespace DeskCalculator.Registry

/-! ### Symbols -/

structure LastUnder (operators : List Operator) (symbol : String) (place : Nat) (op : Operator) :
    Prop where
  held : operators[place]? = some op
  named : op.symbol = symbol
  last : ∀ later other, operators[later]? = some other → other.symbol = symbol → later ≤ place

theorem symbolPlaces_concat (operators : List Operator) (op : Operator) :
    symbolPlaces (operators ++ [op]) =
      (symbolPlaces operators).put op.symbol operators.length := by
  have sizes : (operators.map Operator.symbol).length = (List.range operators.length).length := by
    rw [List.length_map, List.length_range]
  have pairs : ((operators ++ [op]).map Operator.symbol).zip
        (List.range (operators ++ [op]).length) =
      (operators.map Operator.symbol).zip (List.range operators.length) ++
        [(op.symbol, operators.length)] := by
    rw [List.map_append, List.length_append, List.length_singleton, List.range_succ,
      List.zip_append sizes]
    rfl
  rw [symbolPlaces, pairs, Entries.ofPairs, List.foldl_append]
  rfl

theorem LastUnder.concat {operators : List Operator} {symbol : String} {place : Nat} {op : Operator}
    (under : LastUnder operators symbol place op) {next : Operator} (different : next.symbol ≠ symbol) :
    LastUnder (operators ++ [next]) symbol place op where
  held := by
    obtain ⟨inside, _⟩ := List.getElem?_eq_some_iff.mp under.held
    rw [List.getElem?_append_left inside]
    exact under.held
  named := under.named
  last := by
    intro later other found same
    rcases Nat.lt_trichotomy later operators.length with before | rfl | after
    · rw [List.getElem?_append_left before] at found
      exact under.last later other found same
    · rw [List.getElem?_concat_length] at found
      cases found
      exact absurd same different
    · have outside : (operators ++ [next]).length ≤ later := by
        rw [List.length_append, List.length_singleton]
        exact after
      rw [List.getElem?_eq_none outside] at found
      cases found

theorem lastUnder_concat_self (operators : List Operator) (op : Operator) :
    LastUnder (operators ++ [op]) op.symbol operators.length op where
  held := List.getElem?_concat_length
  named := rfl
  last := by
    intro later other found _
    obtain ⟨inside, _⟩ := List.getElem?_eq_some_iff.mp found
    rw [List.length_append, List.length_singleton] at inside
    exact Nat.le_of_lt_succ inside

theorem get?_symbolPlaces_of_not_mem {operators : List Operator} {symbol : String}
    (unknown : symbol ∉ operators.map Operator.symbol) :
    (symbolPlaces operators).get? symbol = none := by
  induction operators using List.reverseRecOn with
  | nil => rfl
  | append_singleton operators op inductionHypothesis =>
      rw [List.map_append, List.mem_append, not_or, List.map_singleton, List.mem_singleton] at unknown
      rw [symbolPlaces_concat, Entries.get?_put_other (Ne.symm unknown.2)]
      exact inductionHypothesis unknown.1

theorem get?_symbolPlaces_of_mem {operators : List Operator} {symbol : String}
    (known : symbol ∈ operators.map Operator.symbol) :
    ∃ place op, (symbolPlaces operators).get? symbol = some place ∧
      LastUnder operators symbol place op := by
  induction operators using List.reverseRecOn with
  | nil => cases known
  | append_singleton operators op inductionHypothesis =>
      rw [symbolPlaces_concat]
      by_cases same : op.symbol = symbol
      · subst same
        exact ⟨operators.length, op, Entries.get?_put_self _ _ _, lastUnder_concat_self operators op⟩
      · rw [List.map_append, List.mem_append, List.map_singleton, List.mem_singleton,
          or_iff_left (Ne.symm same)] at known
        obtain ⟨place, held, found, under⟩ := inductionHypothesis known
        exact ⟨place, held, (Entries.get?_put_other same _ _).trans found, under.concat same⟩

/-! ### Aliases -/

theorem get?_addAlias_other {added name : String} (different : added ≠ name) (target : String)
    (places : Entries String Nat) :
    (addAlias places (added, target)).get? name = places.get? name := by
  unfold addAlias
  split
  · exact Entries.get?_put_other different _ _
  · rfl

theorem get?_addAlias_self (name target : String) (places : Entries String Nat) :
    (addAlias places (name, target)).get? name = (places.get? target).or (places.get? name) := by
  unfold addAlias
  dsimp only
  cases places.get? target with
  | none => rfl
  | some place => exact Entries.get?_put_self _ _ _

theorem get?_aliases_other {aliases : Entries String String} {name : String}
    (unused : name ∉ aliases.names) (places : Entries String Nat) :
    Entries.get? name (aliases.foldl addAlias places) = places.get? name := by
  induction aliases generalizing places with
  | nil => rfl
  | cons entry rest inductionHypothesis =>
      obtain ⟨added, target⟩ := entry
      obtain ⟨different, later⟩ := not_or.mp (fun used => unused (List.mem_cons.mpr used))
      rw [List.foldl_cons, inductionHypothesis later, get?_addAlias_other (Ne.symm different)]

/-- An alias whose target is no other alias has the place that the target had before all aliases. -/
theorem get?_aliases_of_mem {aliases : Entries String String} (single : aliases.names.Nodup)
    {name target : String} (member : (name, target) ∈ aliases)
    (free : target ∈ aliases.names → target = name) (places : Entries String Nat) :
    Entries.get? name (aliases.foldl addAlias places) =
      (places.get? target).or (places.get? name) := by
  induction aliases generalizing places with
  | nil => cases member
  | cons entry rest inductionHypothesis =>
      obtain ⟨first, goal⟩ := entry
      obtain ⟨new, others⟩ := List.nodup_cons.mp single
      rw [List.foldl_cons]
      rcases List.mem_cons.mp member with same | inside
      · cases same
        rw [get?_aliases_other new, get?_addAlias_self]
      · have known : name ∈ Entries.names rest := List.mem_map.mpr ⟨_, inside, rfl⟩
        have different : first ≠ name := fun same => new (same ▸ known)
        have apart : first ≠ target := by
          rintro rfl
          exact different (free List.mem_cons_self)
        rw [inductionHypothesis others inside (fun used => free (List.mem_cons_of_mem _ used)),
          get?_addAlias_other apart, get?_addAlias_other different]

section Lookup

variable {operators : List Operator} {aliases others : Entries String String}

theorem place?_other {name : String} (unused : name ∉ aliases.names) :
    (ofParts operators aliases).place? name = (symbolPlaces operators).get? name :=
  get?_aliases_other unused _

theorem lookup?_congr {name other : String}
    (same : (ofParts operators aliases).place? name = (ofParts operators others).place? other) :
    (ofParts operators aliases).lookup? name = (ofParts operators others).lookup? other := by
  rw [lookup?, lookup?, same]
  rfl

theorem lookup?_of_place?_none {registry : Registry} {name : String}
    (unplaced : registry.place? name = none) : registry.lookup? name = none := by
  rw [lookup?, unplaced]
  rfl

variable (single : aliases.names.Nodup)
  (apart : ∀ name ∈ aliases.names, name ∉ operators.map Operator.symbol)
include single apart

theorem place?_alias {name target : String} (member : (name, target) ∈ aliases)
    (free : target ∈ aliases.names → target = name) :
    (ofParts operators aliases).place? name = (symbolPlaces operators).get? target := by
  have foreign := apart name (List.mem_map.mpr ⟨_, member, rfl⟩)
  rw [place?, ofParts, get?_aliases_of_mem single member free,
    get?_symbolPlaces_of_not_mem foreign, Option.or_none]

theorem place?_of_perm
    (unchained : ∀ name target, (name, target) ∈ aliases → target ∈ aliases.names → target = name)
    (order : others.Perm aliases) (name : String) :
    (ofParts operators others).place? name = (ofParts operators aliases).place? name := by
  have names : others.names.Perm aliases.names := order.map Prod.fst
  by_cases used : name ∈ aliases.names
  · obtain ⟨⟨name, target⟩, member, rfl⟩ := List.mem_map.mp used
    have free := unchained name target member
    have freeToo (usedToo : target ∈ others.names) : target = name := free (names.mem_iff.mp usedToo)
    have apartToo (other : String) (usedToo : other ∈ others.names) :=
      apart other (names.mem_iff.mp usedToo)
    rw [place?_alias single apart member free]
    exact place?_alias (names.nodup_iff.mpr single) apartToo (order.mem_iff.mpr member) freeToo
  · rw [place?_other used]
    exact place?_other fun usedToo => used (names.mem_iff.mp usedToo)

end Lookup

/-- Where no alias is an operator's symbol: a symbol leads to the last operator that has it, an alias of a
symbol to the same operator in the same place, and a name that is neither to none. If furthermore no alias
is the target of another one, the order of the aliases does not matter, and an alias of an unknown name
leads to no operator. -/
theorem names_resolve (operators : List Operator) (aliases : Entries String String)
    (single : aliases.names.Nodup)
    (apart : ∀ name ∈ aliases.names, name ∉ operators.map Operator.symbol) :
    let registry := ofParts operators aliases
    (∀ symbol ∈ registry.symbols, ∃ place op, LastUnder operators symbol place op ∧
      registry.place? symbol = some place ∧ registry.lookup? symbol = some op) ∧
    (∀ name target, (name, target) ∈ aliases → target ∈ registry.symbols →
      registry.place? name = registry.place? target ∧
      registry.lookup? name = registry.lookup? target) ∧
    (∀ name, name ∉ registry.symbols → name ∉ aliases.names →
      registry.lookup? name = none ∧ registry.contains name = false) ∧
    ((∀ name target, (name, target) ∈ aliases → target ∈ aliases.names → target = name) →
      (∀ others : Entries String String, others.Perm aliases → ∀ name,
        (ofParts operators others).place? name = registry.place? name ∧
        (ofParts operators others).lookup? name = registry.lookup? name) ∧
      ∀ name target, (name, target) ∈ aliases → target ∉ registry.symbols →
        registry.lookup? name = none) := by
  intro registry
  have unaliased {symbol : String} (known : symbol ∈ registry.symbols) : symbol ∉ aliases.names :=
    fun used => apart symbol used known
  refine ⟨?_, ?_, ?_, fun unchained => ⟨?_, ?_⟩⟩
  · intro symbol known
    obtain ⟨place, op, found, under⟩ := get?_symbolPlaces_of_mem known
    have placed : registry.place? symbol = some place := (place?_other (unaliased known)).trans found
    refine ⟨place, op, under, placed, ?_⟩
    rw [lookup?, placed]
    exact under.held
  · intro name target member known
    have placed : registry.place? name = registry.place? target := by
      rw [place?_other (unaliased known)]
      exact place?_alias single apart member fun used => absurd used (unaliased known)
    exact ⟨placed, lookup?_congr placed⟩
  · intro name unknown unused
    have unplaced : registry.place? name = none :=
      (place?_other unused).trans (get?_symbolPlaces_of_not_mem unknown)
    refine ⟨lookup?_of_place?_none unplaced, ?_⟩
    rw [contains, unplaced]
    rfl
  · intro others order name
    have placed := place?_of_perm single apart unchained order name
    exact ⟨placed, lookup?_congr placed⟩
  · intro name target member unknown
    have placed := place?_alias single apart member (unchained name target member)
    exact lookup?_of_place?_none (placed.trans (get?_symbolPlaces_of_not_mem unknown))

/-- Two operators of one symbol, an alias of it, an alias of itself and one of a name that nothing has. -/
theorem plus_resolves_to_later_sum :
    let operators := [Operator.binary "+" Operator.difference, .unary "√" Operator.squareRoot,
      .binary "+" Operator.sum]
    let aliases : Entries String String := [("round", "round"), ("plus", "+"), ("minus", "−")]
    let registry := ofParts operators aliases
    (aliases.names.Nodup ∧ (∀ name ∈ aliases.names, name ∉ operators.map Operator.symbol) ∧
      ∀ name target, (name, target) ∈ aliases → target ∈ aliases.names → target = name) ∧
    registry.lookup? "+" = some (.binary "+" Operator.sum) ∧
    registry.place? "plus" = registry.place? "+" ∧
    registry.lookup? "minus" = none ∧ registry.lookup? "round" = none ∧
    (ofParts operators aliases.reverse).lookup? "plus" = registry.lookup? "+" := by
  intro operators aliases registry
  have single : aliases.names.Nodup := by decide
  have apart : ∀ name ∈ aliases.names, name ∉ operators.map Operator.symbol := by decide
  have unchained : ∀ name target, (name, target) ∈ aliases → target ∈ aliases.names →
      target = name := by
    intro name target member used
    simp only [aliases, List.mem_cons, Prod.mk.injEq, List.not_mem_nil, or_false] at member
    rcases member with ⟨rfl, rfl⟩ | ⟨rfl, rfl⟩ | ⟨rfl, rfl⟩
    · rfl
    · exact absurd used (by decide)
    · exact absurd used (by decide)
  obtain ⟨symbols, targets, _, ordered⟩ := names_resolve operators aliases single apart
  obtain ⟨orders, lost⟩ := ordered unchained
  have plus := targets "plus" "+" (by decide) (by decide)
  refine ⟨⟨single, apart, unchained⟩, ?_, plus.1, lost "minus" "−" (by decide) (by decide),
    lost "round" "round" (by decide) (by decide), ?_⟩
  · obtain ⟨place, op, under, _, found⟩ := symbols "+" (by decide)
    have atEnd : 2 ≤ place := under.last 2 _ rfl rfl
    obtain ⟨inside, held⟩ := List.getElem?_eq_some_iff.mp under.held
    obtain rfl : place = 2 := Nat.le_antisymm (Nat.le_of_lt_succ inside) atEnd
    exact found.trans (congrArg some held.symm)
  · exact (orders _ (List.reverse_perm aliases) "plus").2.trans plus.2

/-- Where aliases are made from one another, the order in which they are given does matter. -/
example :
    (ofParts Operator.arithmetic [("plus", "+"), ("p", "plus")]).place? "p" = some 0 ∧
    (ofParts Operator.arithmetic [("p", "plus"), ("plus", "+")]).place? "p" = none := by decide

end DeskCalculator.Registry
