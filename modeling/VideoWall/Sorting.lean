/-!
# Sorting by comparisons

A sort learns about the elements of a list only by asking, of two of them at a time, whether the first
comes before the second. What it asks next depends on the answers. A question may have no answer; then
the sort ends without a result. The elements are known by their places.
-/

namespace VideoWall

/-- A procedure that comes to a result by asking whether one element comes before another. -/
inductive Comparing (ι β : Type) where
  | done (result : β)
  /-- It asks whether `i` comes before `j`, and goes on as the answer says. -/
  | ask (i j : ι) (next : Bool → Comparing ι β)

namespace Comparing

variable {ι β γ ε : Type}

/-- The result where every question has an answer. -/
def answered (before : ι → ι → Bool) : Comparing ι β → β
  | done result => result
  | ask i j next => (next (before i j)).answered before

def asked (before : ι → ι → Bool) : Comparing ι β → List (ι × ι)
  | done _ => []
  | ask i j next => (i, j) :: (next (before i j)).asked before

/-- The result where questions may have no answer: the first one that has none ends the procedure. -/
def attempt (before? : ι → ι → Except ε Bool) : Comparing ι β → Except ε β
  | done result => .ok result
  | ask i j next =>
    match before? i j with
    | .error why => .error why
    | .ok isBefore => (next isBefore).attempt before?

def andThen : Comparing ι β → (β → Comparing ι γ) → Comparing ι γ
  | done result, f => f result
  | ask i j next, f => ask i j fun isBefore => (next isBefore).andThen f

/-- Puts an element behind those of a list that it comes before. -/
def insert (i : ι) : List ι → Comparing ι (List ι)
  | [] => done [i]
  | other :: rest =>
    ask i other fun isBefore =>
      if isBefore then (insert i rest).andThen fun list => done (other :: list)
      else done (i :: other :: rest)

/-- Inserts the elements of a list one after the other, from the last to the first. -/
def insertAll : List ι → Comparing ι (List ι)
  | [] => done []
  | i :: rest => (insertAll rest).andThen (insert i)

end Comparing

variable {n : Nat}

def isBelow (key : Fin n → Int) (i j : Fin n) : Bool :=
  key i < key j

theorem isBelow_eq_true_iff {key : Fin n → Int} {i j : Fin n} :
    isBelow key i j = true ↔ key i < key j :=
  decide_eq_true_iff

/-- Whether `order` names all `n` places, those of smaller keys first, and those of equal keys as they
stand. -/
structure IsStableOrder (key : Fin n → Int) (order : List (Fin n)) : Prop where
  perm : order.Perm (List.finRange n)
  ordered : order.Pairwise fun i j => key i < key j ∨ key i = key j ∧ i < j

/-- A sort for lists of every length, which compares no element with itself and finds the stable order of
any keys. -/
structure StableSort where
  sort : (n : Nat) → Comparing (Fin n) (List (Fin n))
  asked_ne : ∀ n key, ∀ pair ∈ (sort n).asked (isBelow key), pair.1 ≠ pair.2
  isStableOrder : ∀ n key, IsStableOrder key ((sort n).answered (isBelow key))

end VideoWall
