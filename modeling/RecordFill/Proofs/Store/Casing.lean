import RecordFill.Proofs.Like.Casing
import RecordFill.Proofs.Store.Query

namespace RecordFill

open Text (FoldAlike)

/-- Values of the same record in the same field that fold alike. -/
structure Entry.EqualUpToCase (entry other : Entry) : Prop where
  record : entry.record = other.record
  field : entry.field = other.field
  value : FoldAlike entry.value other.value

/-- Datasets with the same definitions whose values, place by place, are equal up to case. -/
structure Dataset.EqualUpToCase (dataset other : Dataset) : Prop where
  fields : dataset.fields = other.fields
  entries : List.Forall₂ Entry.EqualUpToCase dataset.entries other.entries

/-- Matches on the same field whose patterns fold alike. -/
structure Condition.EqualUpToCase (condition other : Condition) : Prop where
  field : condition.field = other.field
  like : condition.comparison = .like
  otherLike : other.comparison = .like
  value : FoldAlike condition.value other.value

/-- Filters of matches, nested in the same way, that are equal up to case one by one. -/
inductive Filter.EqualUpToCase : Filter → Filter → Prop where
  | single {condition other : Condition} (same : condition.EqualUpToCase other) :
      EqualUpToCase (.single condition) (.single other)
  | narrow {condition other : Condition} {within within' : Filter} (same : condition.EqualUpToCase other)
      (inner : EqualUpToCase within within') : EqualUpToCase (.narrow condition within) (.narrow other within')

/-- The tests of conditions equal up to case accept values equal up to case together. -/
theorem Condition.EqualUpToCase.accepts [RegexCompiler] {condition other : Condition} {test test' : Test}
    (same : condition.EqualUpToCase other) (compiled : condition.test = .ok test) (compiled' : other.test = .ok test')
    {value value' : String} (alike : FoldAlike value value') : test.accepts value = test'.accepts value' := by
  rw [Condition.test, same.like] at compiled
  rw [Condition.test, same.otherLike] at compiled'
  exact Comparison.accepts_congr compiled compiled' same.value alike

namespace Dataset

variable {dataset other : Dataset}

/-- One condition selects the same among the admitted records. -/
theorem EqualUpToCase.matching [RegexCompiler] (stores : dataset.EqualUpToCase other) {condition condition' : Condition}
    (same : condition.EqualUpToCase condition') {test test' : Test} (compiled : condition.test = .ok test)
    (compiled' : condition'.test = .ok test') (admits : RecordId → Bool) :
    dataset.matching condition.field test admits = other.matching condition'.field test' admits := by
  let passes (dataset : Dataset) (field : String) (test : Test) (entry : Entry) : Bool :=
    (dataset.fieldIds field).contains entry.field && admits entry.record && test.accepts entry.value
  have together : ∀ ⦃entry entry' : Entry⦄, entry.EqualUpToCase entry' →
      (passes dataset condition.field test entry = true ↔ passes other condition'.field test' entry' = true) := by
    intro entry entry' alike
    have accepts := same.accepts compiled compiled' alike.value
    simp only [passes, Dataset.fieldIds, stores.fields, same.field, alike.record, alike.field, accepts]
  have owned : ∀ ⦃entry entry' : Entry⦄, entry.EqualUpToCase entry' → entry.record = entry'.record :=
    fun _ _ alike => alike.record
  have records := List.rel_map owned (List.rel_filter together stores.entries)
  rw [List.forall₂_eq_eq_eq] at records
  exact congrArg RecordId.ascending records

/-- Datasets equal up to case answer filters of matches that are equal up to case with the same ids. -/
theorem query_eq_of_equalUpToCase [RegexCompiler] (stores : dataset.EqualUpToCase other)
    {filter filter' : Filter} (filters : filter.EqualUpToCase filter')
    (compile : ∀ condition ∈ filter.conditions, ∃ test, condition.test = .ok test)
    (compile' : ∀ condition ∈ filter'.conditions, ∃ test, condition.test = .ok test) :
    ∃ ids, dataset.query filter = .ok ids ∧ other.query filter' = .ok ids := by
  induction filters with
  | single same =>
    obtain ⟨test, compiled⟩ := compile _ (List.mem_singleton_self _)
    obtain ⟨test', compiled'⟩ := compile' _ (List.mem_singleton_self _)
    have answer := other.query_single compiled'
    rw [← stores.matching same compiled compiled'] at answer
    exact ⟨_, dataset.query_single compiled, answer⟩
  | narrow same inner step =>
    simp only [Filter.conditions_narrow, List.forall_mem_append, List.forall_mem_singleton] at compile compile'
    obtain ⟨compile, test, compiled⟩ := compile
    obtain ⟨compile', test', compiled'⟩ := compile'
    obtain ⟨selected, inside, inside'⟩ := step compile compile'
    have answer := other.query_narrow inside' compiled'
    rw [← stores.matching same compiled compiled'] at answer
    exact ⟨_, dataset.query_narrow inside compiled, answer⟩

/-- Letters with more than two forms are found by each of their forms, behind a wildcard and in front of an escape. -/
theorem query_eq_of_equalUpToCase_orbits :
    let dataset : Dataset := ⟨[⟨1, "name", ""⟩, ⟨2, "unit", ""⟩],
      [⟨⟨7⟩, 1, "Straẞe ΣΑΣ"⟩, ⟨⟨7⟩, 2, "5\u212A_"⟩, ⟨⟨8⟩, 1, "Gaſſe"⟩, ⟨⟨8⟩, 2, "9K_"⟩]⟩
    let other : Dataset := ⟨[⟨1, "name", ""⟩, ⟨2, "unit", ""⟩],
      [⟨⟨7⟩, 1, "ſTRAße Σας"⟩, ⟨⟨7⟩, 2, "5k_"⟩, ⟨⟨8⟩, 1, "gASSE"⟩, ⟨⟨8⟩, 2, "9k_"⟩]⟩
    let filter : Filter := .narrow ⟨"unit", .like, "%k\\_"⟩ (.single ⟨"name", .like, "s_ra%ας"⟩)
    let filter' : Filter := .narrow ⟨"unit", .like, "%\u212A\\_"⟩ (.single ⟨"name", .like, "ſ_RA%Ασ"⟩)
    dataset.EqualUpToCase other ∧ filter.EqualUpToCase filter' ∧
      (∀ condition ∈ filter.conditions, ∃ test, condition.test = .ok test) ∧
      (∀ condition ∈ filter'.conditions, ∃ test, condition.test = .ok test) ∧
      dataset.query filter = .ok [⟨7⟩] ∧ other.query filter' = .ok [⟨7⟩] := by
  intro dataset other filter filter'
  have stores : dataset.EqualUpToCase other := by
    refine ⟨rfl, ?_⟩
    simp only [dataset, other, List.forall₂_cons, List.forall₂_nil_left_iff, and_true]
    refine ⟨⟨rfl, rfl, ?_⟩, ⟨rfl, rfl, ?_⟩, ⟨rfl, rfl, ?_⟩, ⟨rfl, rfl, ?_⟩⟩ <;>
      exact Text.foldAlike_iff.mpr (by decide +kernel)
  have filters : filter.EqualUpToCase filter' :=
    .narrow ⟨rfl, rfl, rfl, Text.foldAlike_iff.mpr (by decide +kernel)⟩
      (.single ⟨rfl, rfl, rfl, Text.foldAlike_iff.mpr (by decide +kernel)⟩)
  have compile : ∀ condition ∈ filter.conditions, ∃ test, condition.test = .ok test :=
    List.forall_mem_cons.mpr ⟨⟨.matching ⟨Like.read "s_ra%ας".toList⟩, rfl⟩,
      List.forall_mem_singleton.mpr ⟨.matching ⟨Like.read "%k\\_".toList⟩, rfl⟩⟩
  have compile' : ∀ condition ∈ filter'.conditions, ∃ test, condition.test = .ok test :=
    List.forall_mem_cons.mpr ⟨⟨.matching ⟨Like.read "ſ_RA%Ασ".toList⟩, rfl⟩,
      List.forall_mem_singleton.mpr ⟨.matching ⟨Like.read "%\u212A\\_".toList⟩, rfl⟩⟩
  have named : dataset.matching "name" (.matching ⟨Like.read "s_ra%ας".toList⟩) (fun _ => true) =
      [⟨7⟩] := by decide +kernel
  have measured : dataset.matching "unit" (.matching ⟨Like.read "%k\\_".toList⟩)
      [⟨7⟩].contains = [⟨7⟩] := by decide +kernel
  have admits : (Std.HashSet.ofList [(⟨7⟩ : RecordId)]).contains = [⟨7⟩].contains :=
    funext fun _ => Std.HashSet.contains_ofList
  have first : dataset.query (.single ⟨"name", .like, "s_ra%ας"⟩) = .ok [⟨7⟩] := by
    rw [dataset.query_single rfl, named]
  have both : dataset.query filter = .ok [⟨7⟩] := by
    rw [dataset.query_narrow first rfl, admits, measured]
  obtain ⟨ids, selected, selected'⟩ := query_eq_of_equalUpToCase stores filters compile compile'
  obtain rfl : [⟨7⟩] = ids := Except.ok.inj (both.symm.trans selected)
  exact ⟨stores, filters, compile, compile', both, selected'⟩

end Dataset

end RecordFill
