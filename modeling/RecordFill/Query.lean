import RecordFill.Like.Match
import RecordFill.Record

namespace RecordFill

/-- A stored value is compared for equality, or matched against a pattern with wildcards. -/
inductive Comparison where
  | equal
  | like
  deriving DecidableEq

def Comparison.name : Comparison → String
  | .equal => "eq"
  | .like => "like"

/-- The expected value of a condition, ready to be compared with stored values. -/
inductive Test where
  | equals (expected : String)
  | matching (pattern : Like.Pattern)

/-- Equality minds case, and a match does not. -/
def Test.accepts : Test → String → Bool
  | .equals expected, value => value = expected
  | .matching pattern, value => pattern.accepts value

/-- The test for an expected value; only a pattern can be refused. -/
def Comparison.test [RegexCompiler] : Comparison → String → Except PatternError Test
  | .equal, expected => .ok (.equals expected)
  | .like, expected => (Like.Pattern.ofString expected).map .matching

/-- The test of a match is its pattern. -/
theorem Comparison.test_like_eq_ok_iff [RegexCompiler] {text : String} {test : Test} :
    Comparison.like.test text = .ok test ↔
      ∃ pattern, Like.Pattern.ofString text = .ok pattern ∧ .matching pattern = test := by
  rw [Comparison.test]
  cases Like.Pattern.ofString text <;> simp [Except.map]

/-- A condition on the fields with a name. -/
structure Condition where
  field : String
  comparison : Comparison
  value : String
  deriving DecidableEq

/-- The test that a stored value of the field has to pass. -/
def Condition.test [RegexCompiler] (condition : Condition) : Except PatternError Test :=
  condition.comparison.test condition.value

/-- A condition by itself, or one that is asked only of the records that another filter selects. -/
inductive Filter where
  | single (condition : Condition)
  | narrow (condition : Condition) (within : Filter)
  deriving DecidableEq

namespace Filter

/-- The outermost condition. -/
def condition : Filter → Condition
  | .single condition => condition
  | .narrow condition _ => condition

/-- The filter inside the outermost condition. -/
def within? : Filter → Option Filter
  | .single _ => none
  | .narrow _ within => some within

/-- The outermost condition asked of what another filter selects, in place of any former inner filter. -/
def restrict (filter within : Filter) : Filter :=
  .narrow filter.condition within

/-- The filter of an ordered list of conditions, and none for the empty list. -/
def chain : List Condition → Option Filter
  | [] => none
  | first :: rest => some (rest.foldl (fun within condition => .narrow condition within) (.single first))

/-- The conditions of a filter, innermost first, before the conditions around it. -/
def conditionsBefore (outer : List Condition) : Filter → List Condition
  | .single condition => condition :: outer
  | .narrow condition within => conditionsBefore (condition :: outer) within

/-- The conditions of a filter, innermost first. -/
def conditions (filter : Filter) : List Condition :=
  conditionsBefore [] filter

/-- The number of conditions that lie inside one another. -/
def depth : Filter → Nat
  | .single _ => 1
  | .narrow _ within => 1 + within.depth

theorem conditionsBefore_eq (outer : List Condition) (filter : Filter) :
    conditionsBefore outer filter = filter.conditions ++ outer := by
  induction filter generalizing outer with
  | single condition => rfl
  | narrow condition within step =>
    rw [conditions, conditionsBefore, conditionsBefore, step, step [condition], List.append_assoc]
    rfl

theorem conditions_narrow (condition : Condition) (within : Filter) :
    (narrow condition within).conditions = within.conditions ++ [condition] :=
  conditionsBefore_eq [condition] within

/-- One more condition narrows the filter of those before it. -/
theorem chain_concat (conditions : List Condition) (last : Condition) :
    chain (conditions ++ [last]) = some ((chain conditions).elim (.single last) (.narrow last)) := by
  cases conditions with
  | nil => rfl
  | cons first rest => simp [chain]

theorem chain_eq_none_iff {conditions : List Condition} : chain conditions = none ↔ conditions = [] := by
  cases conditions <;> simp [chain]

theorem exists_chain_eq_some {conditions : List Condition} (asked : conditions ≠ []) :
    ∃ filter, chain conditions = some filter :=
  Option.ne_none_iff_exists'.mp (mt chain_eq_none_iff.mp asked)

/-- A filter is that of its conditions. -/
theorem chain_conditions (filter : Filter) : chain filter.conditions = some filter := by
  induction filter with
  | single condition => rfl
  | narrow condition within step => rw [conditions_narrow, chain_concat, step, Option.elim_some]

theorem conditions_foldl (within : Filter) (rest : List Condition) :
    (rest.foldl (fun within condition => .narrow condition within) within).conditions =
      within.conditions ++ rest := by
  induction rest generalizing within with
  | nil => simp
  | cons next rest step => simp [step, conditions_narrow]

theorem conditions_of_chain {conditions : List Condition} {filter : Filter}
    (made : chain conditions = some filter) : filter.conditions = conditions := by
  cases conditions with
  | nil => contradiction
  | cons first rest =>
    rw [← Option.some.inj made, conditions_foldl]
    rfl

end Filter

/-- What a renderer may ask of the place where records are kept. -/
structure Source (ε : Type) where
  /-- A direct address needs no look-up: an id without a record has no fields later on. -/
  byId : RecordId → RecordId := id
  /-- The ids that a filter selects. -/
  query : Filter → Except ε (List RecordId)
  /-- The fields of a record in the order of their definitions. -/
  rows : RecordId → Except ε (List Row)

/-- The record with an id, which closes its rows. -/
def Source.record {ε : Type} (source : Source ε) (id : RecordId) : Except ε Record :=
  (source.rows id).map (Record.ofRows id)

end RecordFill
