import LetScript.Cursor
import Mathlib.Tactic.Common
import Mathlib.Tactic.TFAE

/-!
# What a cursor hands out

A reader looks at the next element or takes it, in any order and also beyond the end.  Where a
cursor stands depends on nothing but the number `k` of times that an element was asked to be taken:
it is the cursor `behind elements k`.  What a single call does there is said once, in
`serve_behind`, and everything about a sequence of calls follows from it by induction.

The main result, `handedOut_ofList`, says that each element is handed out once and in order.  At the
end, the loops over a cursor are related to functions on the list of elements that are ahead of it;
later proofs use these functions and do not look into the loops again.
-/

namespace LetScript.Cursor

variable {α : Type}

/-! ### Sequences of calls -/

/-- What a cursor can be asked for. -/
inductive Call where
  /-- The next element. -/
  | peek
  /-- The next element, and to move behind it. -/
  | advance
deriving DecidableEq

/-- The answer to a call, and the cursor behind it. -/
def serve (c : Cursor α) : Call → Option α × Cursor α
  | .peek => (c.peek, c)
  | .advance => c.advance

/-- The cursor behind a sequence of calls. -/
def after (c : Cursor α) : List Call → Cursor α
  | [] => c
  | call :: calls => (c.serve call).2.after calls

/-- The calls of a sequence, each with its answer. -/
def transcript (c : Cursor α) : List Call → List (Call × Option α)
  | [] => []
  | call :: calls => (call, (c.serve call).1) :: (c.serve call).2.transcript calls

/-- The elements that are returned by the advances of a transcript, as far as they succeed. -/
def handedOut (answers : List (Call × Option α)) : List α :=
  answers.filterMap fun
    | (.peek, _) => none
    | (.advance, answer) => answer

/-! ### Where a cursor stands -/

/-- The cursor behind the first `k` elements of a list, or at its end if it has fewer. -/
def behind (elements : List α) (k : Nat) : Cursor α := ⟨min k elements.length, elements.drop k⟩

lemma ofList_eq_behind (elements : List α) : ofList elements = behind elements 0 := by
  simp [ofList, behind]

lemma peek_behind (elements : List α) (k : Nat) : (behind elements k).peek = elements[k]? :=
  List.head?_drop

lemma done_behind_iff (elements : List α) (k : Nat) :
    (behind elements k).done = true ↔ elements.length ≤ k := by
  rw [done, List.isEmpty_iff, behind, List.drop_eq_nil_iff]

lemma advance_behind (elements : List α) (k : Nat) :
    (behind elements k).advance = (elements[k]?, behind elements (k + 1)) := by
  rcases Nat.lt_or_ge k elements.length with hlt | hge
  · have hdrop : elements.drop k = elements[k] :: elements.drop (k + 1) :=
      List.drop_eq_getElem_cons hlt
    have hindex : min (k + 1) elements.length = min k elements.length + 1 := by omega
    rw [List.getElem?_eq_getElem hlt, behind, behind, hdrop, hindex]
    rfl
  · -- nothing is ahead, and the index stays at the length
    have hdrop : elements.drop k = [] := List.drop_eq_nil_of_le hge
    have hdrop' : elements.drop (k + 1) = [] := List.drop_eq_nil_of_le (by omega)
    have hindex : min (k + 1) elements.length = min k elements.length := by omega
    rw [List.getElem?_eq_none hge, behind, behind, hdrop, hdrop', hindex]
    rfl

/-- **One call**: the answer is the element behind the first `k`, and only an advance moves. -/
lemma serve_behind (elements : List α) (k : Nat) (call : Call) :
    (behind elements k).serve call = (elements[k]?, behind elements (k + [call].count .advance)) := by
  cases call with
  | peek => exact congrArg (·, behind elements k) (peek_behind elements k)
  | advance => exact advance_behind elements k

/-- **A sequence of calls** moves as often as it has advances, as far as there are elements. -/
lemma after_behind (elements : List α) (k : Nat) (calls : List Call) :
    (behind elements k).after calls = behind elements (k + calls.count .advance) := by
  induction calls generalizing k with
  | nil => rfl
  | cons call calls ih =>
    rw [after, serve_behind, ih, Nat.add_assoc, ← List.count_append, List.singleton_append]

lemma handedOut_behind (elements : List α) (k : Nat) (calls : List Call) :
    handedOut ((behind elements k).transcript calls)
      = (elements.drop k).take (calls.count .advance) := by
  induction calls generalizing k with
  | nil => rfl
  | cons call calls ih =>
    rw [transcript, serve_behind]
    cases call with
    | peek => exact ih k
    | advance =>
      have hrest := ih (k + 1)
      have hcount : (Call.advance :: calls).count .advance = calls.count .advance + 1 :=
        List.count_cons_self
      rw [hcount]
      cases hk : elements[k]? with
      | none =>
        have hle : elements.length ≤ k := List.getElem?_eq_none_iff.1 hk
        rw [List.drop_eq_nil_of_le (by omega), List.take_nil] at hrest
        rw [List.drop_eq_nil_of_le hle, List.take_nil]
        exact hrest
      | some a =>
        obtain ⟨hlt, rfl⟩ := List.getElem?_eq_some_iff.1 hk
        rw [List.drop_eq_getElem_cons hlt, List.take_succ_cons]
        exact congrArg (elements[k] :: ·) hrest

/-! ### Looking ahead -/

/-- However often one looks ahead, every answer is that of the advance that follows. -/
lemma transcript_peeks (c : Cursor α) (n : Nat) :
    c.transcript (List.replicate n .peek ++ [.advance])
      = List.replicate n (.peek, c.advance.1) ++ [(.advance, c.advance.1)] := by
  induction n with
  | zero => rfl
  | succ n ih =>
    rw [List.replicate_succ, List.cons_append, transcript, List.replicate_succ, List.cons_append]
    exact congrArg₂ (fun answer answers => (Call.peek, answer) :: answers) c.advance_fst.symm ih

/-! ### The end -/

/-- At the end every call stays at the end, and is told that there is no element. -/
lemma behind_of_length_le {elements : List α} {k : Nat} (h : elements.length ≤ k)
    (calls : List Call) :
    ((behind elements k).after calls).done = true ∧
      ∀ entry ∈ (behind elements k).transcript calls, entry.2 = none := by
  constructor
  · rw [after_behind, done_behind_iff]
    omega
  · induction calls generalizing k with
    | nil => simp [transcript]
    | cons call calls ih =>
      rw [transcript, serve_behind]
      exact List.forall_mem_cons.2 ⟨List.getElem?_eq_none h, ih (by omega)⟩

/-- **A cursor hands out each element once, in order.**  Let a new cursor serve any sequence of calls.
The elements that its advances return are the first ones of the list, as many as there are advances
or elements, and its index is their number.  Looking ahead does not move the cursor, and yields what
the next advance returns.  The cursor is done if and only if looking ahead finds no element, or an
advance returns none, and then it is done for good: whatever is called later is told the same. -/
theorem handedOut_ofList (elements : List α) (calls : List Call) :
    let c := (ofList elements).after calls
    let reached := min (calls.count .advance) elements.length
    handedOut ((ofList elements).transcript calls) = elements.take reached ∧
    c.index = reached ∧ c.index ≤ elements.length ∧
    (ofList elements).after (calls.filter (· = .advance)) = c ∧
    (∀ n, c.after (List.replicate n .peek) = c ∧
      c.transcript (List.replicate n .peek ++ [.advance])
        = List.replicate n (.peek, c.advance.1) ++ [(.advance, c.advance.1)]) ∧
    List.TFAE [c.done = true, c.peek = none, c.advance.1 = none,
      ∀ later, (c.after later).done = true ∧ ∀ entry ∈ c.transcript later, entry.2 = none] := by
  intro c reached
  have hstart := ofList_eq_behind elements
  have hc : c = behind elements (calls.count .advance) := by
    rw [show c = (behind elements 0).after calls from congrArg (·.after calls) hstart,
      after_behind, Nat.zero_add]
  have hindex : c.index = reached := congrArg index hc
  refine ⟨?_, hindex, hindex ▸ Nat.min_le_right _ _, ?_, fun n => ⟨?_, c.transcript_peeks n⟩, ?_⟩
  · rw [hstart, handedOut_behind, List.drop_zero, List.take_eq_take_min]
  · rw [hc, hstart, after_behind, Nat.zero_add, List.count_filter (by simp)]
  · rw [hc, after_behind, List.count_replicate]
    rfl
  · tfae_have 1 ↔ 2 := c.done_iff_peek
    tfae_have 2 ↔ 3 := by rw [advance_fst]
    tfae_have 1 → 4 := by
      intro hdone later
      rw [hc] at hdone ⊢
      exact behind_of_length_le ((done_behind_iff _ _).1 hdone) later
    tfae_have 4 → 1 := fun hlater => (hlater []).1
    tfae_finish

/-- Looking ahead twice, and asking beyond the end. -/
example : (ofList ['a', 'b']).transcript [.peek, .peek, .advance, .advance, .peek, .advance]
    = [(.peek, some 'a'), (.peek, some 'a'), (.advance, some 'a'), (.advance, some 'b'),
      (.peek, none), (.advance, none)] := by
  decide

/-! ### Moving behind several elements -/

lemma moveTo_append (c : Cursor α) {used rest : List α} (h : c.rest = used ++ rest) :
    c.moveTo rest = ⟨c.index + used.length, rest⟩ := by
  rw [moveTo, h, List.length_append, Nat.add_sub_cancel]

lemma index_moveTo_ofList {elements used rest : List α} (h : elements = used ++ rest) :
    ((ofList elements).moveTo rest).index = used.length := by
  rw [moveTo_append (ofList elements) h]
  exact Nat.zero_add _

/-- Where a cursor is moved to does not depend on where it stops on the way. -/
lemma moveTo_cons (i : Nat) (a : α) {as rest : List α} (h : rest.length ≤ as.length) :
    (Cursor.mk (i + 1) as).moveTo rest = (Cursor.mk i (a :: as)).moveTo rest := by
  simp only [moveTo, List.length_cons, mk.injEq, and_true]
  omega

/-! ### Loops -/

section Loops

variable {σ ε : Type} {f : σ → α → Except ε σ} {s s' s₁ : σ} {e : ε}

lemma fold_eq (f : σ → α → σ) (s : σ) (c : Cursor α) :
    c.fold f s = (c.rest.foldl f s, c.moveTo []) := by
  obtain ⟨i, elements⟩ := c
  induction elements generalizing i s with
  | nil => rw [fold]; rfl
  | cons a as ih =>
    rw [fold]
    show (Cursor.mk (i + 1) as).fold f (f s a) = _
    rw [ih, moveTo_cons i a (Nat.zero_le _)]
    rfl

/-- A loop over the elements of a list.  A failure comes with the elements behind the one that
failed. -/
def foldAll (f : σ → α → Except ε σ) : List α → σ → Except (ε × List α) σ
  | [], s => .ok s
  | a :: as, s =>
    match f s a with
    | .error e => .error (e, as)
    | .ok s' => foldAll f as s'

lemma foldAll_cons_of_ok {a : α} (h : f s a = .ok s') (as : List α) :
    foldAll f (a :: as) s = foldAll f as s' := by
  rw [foldAll, h]

lemma foldAll_cons_of_error {a : α} (h : f s a = .error e) (as : List α) :
    foldAll f (a :: as) s = .error (e, as) := by
  rw [foldAll, h]

lemma foldAll_append {before : List α} (h : foldAll f before s = .ok s₁) (after : List α) :
    foldAll f (before ++ after) s = foldAll f after s₁ := by
  induction before generalizing s with
  | nil =>
    obtain rfl : s = s₁ := Except.ok.inj h
    rfl
  | cons a before ih =>
    rcases ha : f s a with e | s₂
    · rw [foldAll_cons_of_error ha] at h
      cases h
    · rw [foldAll_cons_of_ok ha] at h
      rw [List.cons_append, foldAll_cons_of_ok ha, ih h]

/-- A loop that fails gets through the elements before the one it fails at. -/
lemma foldAll_eq_error {elements rest : List α} (h : foldAll f elements s = .error (e, rest)) :
    ∃ before a s₁, elements = before ++ a :: rest ∧ foldAll f before s = .ok s₁ ∧
      f s₁ a = .error e := by
  induction elements generalizing s with
  | nil => cases h
  | cons a as ih =>
    rcases ha : f s a with e' | s₂
    · rw [foldAll_cons_of_error ha] at h
      cases h
      exact ⟨[], a, s, rfl, rfl, ha⟩
    · rw [foldAll_cons_of_ok ha] at h
      obtain ⟨before, b, s₃, rfl, hbefore, hb⟩ := ih h
      exact ⟨a :: before, b, s₃, rfl, by rw [foldAll_cons_of_ok ha, hbefore], hb⟩

lemma foldAll_eq_ok_append_iff {before after : List α} :
    foldAll f (before ++ after) s = .ok s' ↔
      ∃ s₁, foldAll f before s = .ok s₁ ∧ foldAll f after s₁ = .ok s' := by
  constructor
  · intro h
    rcases hbefore : foldAll f before s with ⟨e, rest⟩ | s₁
    · obtain ⟨first, a, s₁, rfl, hfirst, ha⟩ := foldAll_eq_error hbefore
      rw [List.append_assoc, foldAll_append hfirst, List.cons_append, foldAll_cons_of_error ha] at h
      cases h
    · rw [foldAll_append hbefore] at h
      exact ⟨s₁, rfl, h⟩
  · rintro ⟨s₁, hbefore, hafter⟩
    rw [foldAll_append hbefore, hafter]

/-- **The loop over a cursor is the loop over the elements ahead**, and it leaves the cursor in front
of the elements that it has not come to. -/
lemma foldUntil_eq (f : σ → α → Except ε σ) (s : σ) (c : Cursor α) :
    c.foldUntil f s =
      match foldAll f c.rest s with
      | .ok s' => (.ok s', c.moveTo [])
      | .error (e, rest) => (.error e, c.moveTo rest) := by
  obtain ⟨i, elements⟩ := c
  induction elements generalizing i s with
  | nil => rw [foldUntil]; rfl
  | cons a as ih =>
    rw [foldUntil]
    show (match f s a with
      | .error e => (Except.error e, Cursor.mk (i + 1) as)
      | .ok s' => (Cursor.mk (i + 1) as).foldUntil f s') = _
    rcases ha : f s a with e | s₁
    · rw [foldAll_cons_of_error ha]
      show _ = (Except.error e, (Cursor.mk i ([a] ++ as)).moveTo as)
      rw [moveTo_append _ rfl]
      rfl
    · rw [foldAll_cons_of_ok ha]
      show (Cursor.mk (i + 1) as).foldUntil f s₁ = _
      rw [ih]
      show (match foldAll f as s₁ with
        | .ok s' => (Except.ok s', (Cursor.mk (i + 1) as).moveTo [])
        | .error (e, rest) => (.error e, (Cursor.mk (i + 1) as).moveTo rest)) = _
      rcases hrest : foldAll f as s₁ with ⟨e, rest⟩ | s'
      · -- the elements that are left are among those behind the first one
        obtain ⟨before, b, s₂, rfl, -, -⟩ := foldAll_eq_error hrest
        refine congrArg (Prod.mk _) (moveTo_cons i a ?_)
        rw [List.length_append, List.length_cons]
        omega
      · exact congrArg (Prod.mk _) (moveTo_cons i a (Nat.zero_le _))

end Loops

end LetScript.Cursor
