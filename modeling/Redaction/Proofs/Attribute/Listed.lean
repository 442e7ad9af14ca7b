import Redaction.Attribute
import Redaction.Proofs.Attribute.Protection
import Redaction.Proofs.InOrder
import Redaction.Proofs.Separated

/-!
# Lists in attributes

The list of an attribute consists of items with a comma between each two, and a comma after the last
one may end it. Its items are read one by one, and each goes to the reader of options before the
next one is read: a step takes one item.
-/

namespace Redaction.Attribute

variable {tokens : List Token} {items : List (List Token × Bool)}

/-- The tokens are a list of these items, each with whether the list ends with it. It does not if a
comma follows, and a list without tokens has no items. -/
inductive Lists (tokens : List Token) : List (List Token × Bool) → Prop where
  | closed {items : List (List Token)} (separated : Separated (.mark ',') (items ++ [[]]) tokens) :
      Lists tokens (items.map (·, false))
  | ended {items : List (List Token)} {last : List Token} (some : last ≠ [])
      (separated : Separated (.mark ',') (items ++ [last]) tokens) :
      Lists tokens (items.map (·, false) ++ [(last, true)])

theorem chunks_cons (piece : List Token) {pieces : List (List Token)} (some : pieces ≠ []) :
    chunks (piece :: pieces) = (piece, false) :: chunks pieces := by
  cases pieces with
  | nil => exact absurd rfl some
  | cons next pieces => rfl

theorem chunks_append_singleton (pieces : List (List Token)) (last : List Token) :
    chunks (pieces ++ [last]) =
      pieces.map (·, false) ++ if last = [] then [] else [(last, true)] := by
  induction pieces with
  | nil => rfl
  | cons piece pieces ih =>
      rw [List.cons_append, chunks_cons piece (List.concat_ne_nil last pieces), ih]
      rfl

/-- Dividing the tokens at the commas gives the items. -/
theorem lists_iff : Lists tokens items ↔ chunks (tokens.splitOn (.mark ',')) = items := by
  constructor
  · rintro (⟨separated⟩ | ⟨some, separated⟩)
    · rw [separated_iff.1 separated, chunks_append_singleton, if_pos rfl, List.append_nil]
    · rw [separated_iff.1 separated, chunks_append_singleton, if_neg some]
  · rintro rfl
    obtain hnone | ⟨pieces, last, hpieces⟩ := List.eq_nil_or_concat (tokens.splitOn (.mark ','))
    · exact absurd hnone (List.splitOn_ne_nil _ tokens)
    rw [List.concat_eq_append] at hpieces
    rw [hpieces, chunks_append_singleton]
    split
    next hlast =>
      subst hlast
      rw [List.append_nil]
      exact .closed (separated_iff.2 hpieces)
    next hlast => exact .ended hlast (separated_iff.2 hpieces)

/-- Tokens are the list of one sequence of items only. -/
theorem Lists.unique {others : List (List Token × Bool)} (h : Lists tokens items)
    (h' : Lists tokens others) : items = others :=
  (lists_iff.1 h).symm.trans (lists_iff.1 h')

theorem exists_lists (tokens : List Token) : ∃ items, Lists tokens items := ⟨_, lists_iff.2 rfl⟩

/-- Whatever is not empty stands between commas if and only if it is an item. -/
theorem Lists.mem_items (h : Lists tokens items) {item : List Token} (some : item ≠ []) :
    item ∈ tokens.splitOn (.mark ',') ↔ item ∈ items.map (·.1) := by
  rw [← mem_chunks some, lists_iff.1 h]

variable {σ ε : Type} {inject : ListFault → ε} {take : σ → Item → Except ε σ}

/-- The step for one item: its option is read, and taken. -/
def takeNext (inject : ListFault → ε) (take : σ → Item → Except ε σ) (state : σ)
    (item : List Token × Bool) : Except ε σ :=
  (readItem item.1 item.2).mapError inject >>= take state

theorem foldItems_cons (state : σ) (item : List Token × Bool) (rest : List (List Token × Bool)) :
    foldItems inject take state (item :: rest) =
      takeNext inject take state item >>= fun next => foldItems inject take next rest := by
  rw [foldItems, takeNext]
  cases readItem item.1 item.2 with
  | error fault => rfl
  | ok read =>
      change _ = take state read >>= fun next => foldItems inject take next rest
      dsimp only
      cases take state read <;> rfl

theorem Lists.readList_eq (h : Lists tokens items) (state : σ) :
    readList inject take state tokens = foldItems inject take state items := by
  rw [readList, lists_iff.1 h]

end Redaction.Attribute
