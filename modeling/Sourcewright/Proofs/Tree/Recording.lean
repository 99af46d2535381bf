import Sourcewright.Proofs.Tree.Visiting

/-!
# Traversals that record types

A traversal of types with a state may record each type it meets and replace it by
another one that does not depend on what was recorded before.  Such a traversal gives
back the tree with its types replaced, and has recorded exactly the types of the tree,
each place once and in order.
-/

namespace Sourcewright

namespace Traversal

variable {σ ι α β : Type}

/-- Whatever the state, a visit gives the same result and records the given items in
order. -/
def Records (record : σ → ι → σ) (visit : StateM σ α) (result : α) (items : List ι) : Prop :=
  ∀ state, visit.run state = (result, items.foldl record state)

section Visits

variable {record : σ → ι → σ}

theorem Records.pure (result : α) : Records record (pure result) result [] :=
  fun _ => rfl

theorem Records.bind {visit : StateM σ α} {next : α → StateM σ β} {first : α} {second : β}
    {items further : List ι} (visited : Records record visit first items)
    (continued : Records record (next first) second further) :
    Records record (visit >>= next) second (items ++ further) := by
  intro state
  calc
    (visit >>= next).run state = (next (visit.run state).1).run (visit.run state).2 := rfl
    _ = (next first).run (items.foldl record state) := by rw [visited state]
    _ = (second, further.foldl record (items.foldl record state)) := continued _
    _ = (second, (items ++ further).foldl record state) := by rw [List.foldl_append]

theorem Records.map {visit : StateM σ α} {part : α} {items : List ι}
    (visited : Records record visit part items) (assemble : α → β) :
    Records record (visit >>= fun part => Pure.pure (assemble part)) (assemble part) items := by
  have mapped : Records record (visit >>= fun part => Pure.pure (assemble part))
      (assemble part) (items ++ []) :=
    visited.bind (Records.pure (assemble part))
  rwa [List.append_nil] at mapped

/-- A list is visited member by member, so it records what its members record. -/
theorem Records.list {visitAll : List α → StateM σ (List α)} {visit : α → StateM σ α}
    {change : α → α} {items : α → List ι} {parts : List α}
    (nil : visitAll [] = Pure.pure [])
    (cons : ∀ part parts, visitAll (part :: parts) =
      visit part >>= fun first => visitAll parts >>= fun rest => Pure.pure (first :: rest))
    (member : ∀ part ∈ parts, Records record (visit part) (change part) (items part)) :
    Records record (visitAll parts) (parts.map change) (parts.flatMap items) := by
  induction parts with
  | nil =>
      rw [nil]
      exact .pure []
  | cons part parts ih =>
      obtain ⟨first, rest⟩ := List.forall_mem_cons.mp member
      rw [cons]
      exact first.bind ((ih rest).map _)

end Visits

/-! ## What a traversal of types records -/

section OfTypes

variable {record : σ → TypeRef → σ} {visitType : TypeRef → StateM σ TypeRef}
  {replace : TypeRef → TypeRef}
  (visited : ∀ type, Records record (visitType type) (replace type) [type])

include visited

theorem records_mapM (types : List TypeRef) :
    Records record (types.mapM visitType) (types.map replace) types := by
  induction types with
  | nil =>
      rw [List.mapM_nil]
      exact .pure []
  | cons type types ih =>
      rw [List.mapM_cons]
      exact (visited type).bind (ih.map _)

/-- A traversal of types that records and replaces each of them gives back the tree with
its types replaced, and records the types of the tree in order. -/
theorem records_node (part : Node) :
    Records record ((ofTypes visitType).node part) (part.mapTypes replace) part.types := by
  intro state
  have visits : _ ∧ _ := visits_node (onlyAtTypes_ofTypes visitType) part state
  rw [show (ofTypes visitType).type = visitType from rfl,
    records_mapM visited part.types state] at visits
  obtain ⟨recorded, refilled⟩ := visits
  have replaced : Refills Node.types Node.mapTypes part (part.types.map replace)
      (part.mapTypes replace) :=
    ⟨part.types_mapTypes replace, fun _ => part.mapTypes_mapTypes replace _⟩
  exact Prod.ext (refilled.eq replaced) recorded

end OfTypes

end Traversal

end Sourcewright
