import RecordFill.Query

namespace RecordFill.Filter

/-- The condition that nothing else narrows. -/
def innermost : Filter → Condition
  | .single condition => condition
  | .narrow _ within => within.innermost

/-- A filter is built step by step, with the conditions that it then has. A restriction keeps the last condition of
the filter that it restricts, and drops what this condition narrowed before. -/
inductive Built : Filter → List Condition → Prop where
  | single (condition : Condition) : Built (.single condition) [condition]
  | chain {filter : Filter} {conditions : List Condition} : Filter.chain conditions = some filter →
      Built filter conditions
  | restrict {filter within : Filter} {dropped conditions : List Condition} {own : Condition} :
      Built filter (dropped ++ [own]) → Built within conditions → Built (filter.restrict within) (conditions ++ [own])

theorem head?_conditions (filter : Filter) : filter.conditions.head? = some filter.innermost := by
  induction filter with
  | single condition => rfl
  | narrow condition within step =>
    rw [conditions_narrow, List.head?_append, step]
    rfl

theorem getLast?_conditions (filter : Filter) : filter.conditions.getLast? = some filter.condition := by
  cases filter with
  | single condition => rfl
  | narrow condition within =>
    rw [conditions_narrow, List.getLast?_concat]
    rfl

theorem depth_eq_length_conditions (filter : Filter) : filter.depth = filter.conditions.length := by
  induction filter with
  | single condition => rfl
  | narrow condition within step =>
    rw [conditions_narrow, List.length_append, depth, step]
    exact Nat.add_comm _ _

/-- A restriction puts the conditions of the inner filter before the outermost one, the only one that is left. -/
theorem conditions_restrict (filter within : Filter) :
    (filter.restrict within).conditions = within.conditions ++ [filter.condition] :=
  conditions_narrow filter.condition within

/-- A filter has the conditions that it was built with. -/
theorem Built.conditions_eq {filter : Filter} {conditions : List Condition} (built : Built filter conditions) :
    filter.conditions = conditions := by
  induction built with
  | single condition => rfl
  | chain made => exact conditions_of_chain made
  | @restrict filter within dropped conditions own _ _ outer inner =>
    have last := getLast?_conditions filter
    rw [outer, List.getLast?_concat] at last
    obtain rfl : own = filter.condition := Option.some.inj last
    rw [conditions_restrict, inner]

/-- Every filter can be built, with its conditions. -/
theorem built_conditions (filter : Filter) : Built filter filter.conditions :=
  .chain (chain_conditions filter)

/-- Filters and nonempty lists of conditions correspond. A filter, however it was built, is the chain of its
conditions, and has as many as lie inside one another; a chain has the conditions that it is made of, the first one
innermost, and as an inner filter it puts them before the outermost condition of any other filter. -/
theorem chain_inverse_conditions :
    (∀ filter conditions, Built filter conditions → filter.conditions = conditions ∧
      chain filter.conditions = some filter ∧ filter.depth = filter.conditions.length) ∧
    (∀ filter, Built filter filter.conditions) ∧
    ∀ first rest, ∃ filter, chain (first :: rest) = some filter ∧ filter.conditions = first :: rest ∧
      filter.innermost = first ∧
      ∀ outer : Filter, (outer.restrict filter).conditions = (first :: rest) ++ [outer.condition] := by
  refine ⟨?_, built_conditions, ?_⟩
  · intro filter conditions built
    exact ⟨built.conditions_eq, chain_conditions filter, depth_eq_length_conditions filter⟩
  · intro first rest
    obtain ⟨filter, made⟩ := exists_chain_eq_some (List.cons_ne_nil first rest)
    have conditions := conditions_of_chain made
    refine ⟨filter, made, conditions, ?_, ?_⟩
    · have innermost := head?_conditions filter
      rw [conditions] at innermost
      exact (Option.some.inj innermost).symm
    · intro outer
      rw [conditions_restrict, conditions]

end RecordFill.Filter
