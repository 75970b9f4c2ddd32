/-!
# Walking along a list

A cursor hands out the elements of a list one by one.  It keeps what is still ahead and counts
what it has handed out, so it can never move beyond the end.  Everything that reads a list from the
left and can be taken up again where it stopped does so through a cursor.
-/

namespace LetScript

/-- A place in a list of elements. -/
structure Cursor (α : Type) where
  /-- How many elements have been handed out. -/
  index : Nat
  /-- The elements still ahead. -/
  rest : List α

namespace Cursor

variable {α : Type}

/-- The cursor before the first element. -/
def ofList (elements : List α) : Cursor α := ⟨0, elements⟩

/-- The next element, without moving. -/
def peek (c : Cursor α) : Option α := c.rest.head?

/-- The next element, and the cursor behind it.  At the end nothing moves. -/
def advance (c : Cursor α) : Option α × Cursor α :=
  match c.rest with
  | [] => (none, c)
  | a :: rest => (some a, ⟨c.index + 1, rest⟩)

/-- The cursor in front of the last elements that are ahead. -/
def moveTo (c : Cursor α) (rest : List α) : Cursor α :=
  ⟨c.index + (c.rest.length - rest.length), rest⟩

/-- Whether nothing is ahead. -/
def done (c : Cursor α) : Bool := c.rest.isEmpty

/-- A list stands for the cursor before its first element. -/
instance : Coe (List α) (Cursor α) := ⟨ofList⟩

@[simp] theorem index_ofList (elements : List α) : (ofList elements).index = 0 := rfl

@[simp] theorem rest_ofList (elements : List α) : (ofList elements).rest = elements := rfl

@[simp] theorem rest_moveTo (c : Cursor α) (rest : List α) : (c.moveTo rest).rest = rest := rfl

theorem moveTo_rest (c : Cursor α) : c.moveTo c.rest = c := by
  rw [moveTo, Nat.sub_self]
  rfl

theorem advance_fst (c : Cursor α) : c.advance.1 = c.peek := by
  rcases c with ⟨i, _ | ⟨a, rest⟩⟩ <;> rfl

theorem done_iff_peek (c : Cursor α) : c.done = true ↔ c.peek = none := by
  rcases c with ⟨i, _ | ⟨a, rest⟩⟩ <;> simp [done, peek]

theorem rest_advance_lt {c c' : Cursor α} {a : α} (h : c.advance = (some a, c')) :
    c'.rest.length < c.rest.length := by
  rcases c with ⟨i, _ | ⟨b, rest⟩⟩ <;> cases h
  exact Nat.lt_succ_self _

/-! ## Loops -/

variable {σ ε : Type}

/-- Take all elements ahead, one after the other, with a state that each of them changes. -/
def fold (f : σ → α → σ) (s : σ) (c : Cursor α) : σ × Cursor α :=
  match _h : c.advance with
  | (none, _) => (s, c)
  | (some a, c') => c'.fold f (f s a)
termination_by c.rest.length
decreasing_by exact rest_advance_lt _h

/-- The same where an element can also fail.  A failure ends the loop, and the cursor stands behind
the element that failed. -/
def foldUntil (f : σ → α → Except ε σ) (s : σ) (c : Cursor α) : Except ε σ × Cursor α :=
  match _h : c.advance with
  | (none, _) => (.ok s, c)
  | (some a, c') =>
    match f s a with
    | .error e => (.error e, c')
    | .ok s' => c'.foldUntil f s'
termination_by c.rest.length
decreasing_by exact rest_advance_lt _h

end Cursor

end LetScript
