import RecordFill.Datum
import RecordFill.Yaml.Basic

namespace RecordFill.Yaml

theorem sizeOf_append {α : Type} [SizeOf α] (first second : List α) :
    sizeOf (first ++ second) + 1 = sizeOf first + sizeOf second := by
  induction first with
  | nil => simp [Nat.add_comm]
  | cons next rest step =>
    simp only [List.cons_append, List.cons.sizeOf_spec]
    omega

/-- The keys and the values of the entries of a mapping. -/
def nodesOf (entries : List (Node × Node)) : List Node :=
  entries.flatMap fun (key, value) => [key, value]

theorem sizeOf_nodesOf (entries : List (Node × Node)) : sizeOf (nodesOf entries) = sizeOf entries := by
  induction entries with
  | nil => rfl
  | cons next rest step =>
    obtain ⟨key, value⟩ := next
    simp only [nodesOf, List.flatMap_cons, List.cons_append, List.nil_append, List.cons.sizeOf_spec,
      Prod.mk.sizeOf_spec] at step ⊢
    omega

/-- The size of nodes beyond what is counted already: one for each scalar and reference, and two for each
collection besides its parts. -/
def sizeAfter (counted : Nat) : List Node → Nat
  | [] => counted
  | .scalar .. :: rest | .reference _ :: rest => sizeAfter (counted + 1) rest
  | .sequence items :: rest => sizeAfter (counted + 2) (items ++ rest)
  | .mapping entries :: rest => sizeAfter (counted + 2) (nodesOf entries ++ rest)
termination_by nodes => sizeOf nodes
decreasing_by
  · simp only [List.cons.sizeOf_spec]
    omega
  · simp only [List.cons.sizeOf_spec]
    omega
  · have := sizeOf_append items rest
    simp only [List.cons.sizeOf_spec, Node.sequence.sizeOf_spec]
    omega
  · have := sizeOf_append (nodesOf entries) rest
    have := sizeOf_nodesOf entries
    simp only [List.cons.sizeOf_spec, Node.mapping.sizeOf_spec]
    omega

namespace Document

/-- The size of what the document holds. -/
def size (document : Document) : Nat :=
  sizeAfter 0 document.root.toList

/-- The references that may be followed for each unit of the document's size. -/
def referencesPerUnit : Nat := 100

/-- The node that a node stands for, with the number of references that may still be followed. -/
def enter? (document : Document) (left : Nat) : Node → Option (Nat × Node)
  | .reference number => do
    if left = 0 then none else return (left - 1, ← document.definition? number)
  | node => some (left, node)

/-- The number of references that may still be followed after a node has been decoded to a shape. Keys are
always looked at, but values only under the names of fields. -/
def decodeLeft? (document : Document) (shape : Shape) (left : Nat) (node : Node) : Option Nat := do
  match shape, ← document.enter? left node with
  | .list shape, (left, .sequence items) => items.foldlM (decodeLeft? document shape) left
  | .record fields, (left, .mapping entries) =>
    entries.foldlM (fun left (key, value) => do
      match ← document.enter? left key with
      | (left, .scalar _ _ name) =>
        match _found : fields.find? (·.1.contains name) with
        | some field => decodeLeft? document field.2 left value
        | none => return left
      | (left, _) => return left) left
  | _, (left, _) => return left
termination_by shape
decreasing_by
  · simp
  · have := List.sizeOf_lt_of_mem (List.mem_of_find?_eq_some _found)
    obtain ⟨names, shape⟩ := field
    simp only [Shape.record.sizeOf_spec, Prod.mk.sizeOf_spec] at this ⊢
    omega

/-- Whether the references that a decoder follows stay within the limit. -/
def permits (document : Document) (shape : Shape) : Bool :=
  document.root.all fun root => (document.decodeLeft? shape (referencesPerUnit * document.size) root).isSome

end Document

end RecordFill.Yaml
