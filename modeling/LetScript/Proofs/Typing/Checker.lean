import LetScript.Proofs.Cursor
import LetScript.Typing.Checker

/-!
# What the checker does

The loop of the checker, related to a function on the list of expressions that are left; and for
each kind of expression, what it takes to pass without an error.  Later proofs use these facts and do
not look into the loop again.
-/

namespace LetScript

variable {scope scope' : Scope} {n left right expr : Node} {nodes : List Node} {op : Operator}
  {l : Location} {name : Text} {type : Option TypeName} {t : Ty} {r : Resolution}
  {table : Bindings Resolution}

/-! ### The loop over a script -/

/-- Check expressions one behind the other: the scope behind them, and their errors in order. -/
def inferAll (scope : Scope) : List Node → Scope × List TypeError
  | [] => (scope, [])
  | n :: nodes =>
    let x := infer scope n
    let (scope', errors) := inferAll x.scope nodes
    (scope', x.errors ++ errors)

lemma inferAll_append (scope : Scope) (before after : List Node) :
    (inferAll scope (before ++ after)).2
      = (inferAll scope before).2 ++ (inferAll (inferAll scope before).1 after).2 := by
  induction before generalizing scope with
  | nil => rfl
  | cons n before ih => simp [inferAll, ih]

lemma Checker.foldl_step (nodes : List Node) (scope : Scope) (errors : List TypeError) :
    nodes.foldl step (scope, errors)
      = ((inferAll scope nodes).1, errors ++ (inferAll scope nodes).2) := by
  induction nodes generalizing scope errors with
  | nil => simp [inferAll]
  | cons n nodes ih => simp [step, inferAll, ih]

/-- **A run checks what is ahead of the cursor**, from the scope behind what has been checked, and
appends the errors to those found before. -/
lemma Checker.run_eq (c : Checker) :
    c.run = (c.errors ++ (inferAll c.scope c.cursor.rest).2,
      ⟨c.cursor.moveTo [], (inferAll c.scope c.cursor.rest).1,
        c.errors ++ (inferAll c.scope c.cursor.rest).2⟩) := by
  rw [run, Cursor.fold_eq, foldl_step]

lemma check_eq (symbols : Bool) (nodes : List Node) :
    check symbols nodes = (inferAll (Scope.initial symbols) nodes).2 := by
  rw [check, Checker.run_eq]
  rfl

lemma Checker.scope_run_ofNodes (symbols : Bool) (nodes : List Node) :
    (ofNodes symbols nodes).run.2.scope = (inferAll (Scope.initial symbols) nodes).1 := by
  rw [run_eq]
  rfl

/-! ### Expressions with or without errors -/

/-- A declaration records its name, with its errors or without. -/
lemma infer_declaration_scope (scope : Scope) (name : Text) (type : Option TypeName) (expr : Node)
    (l : Location) :
    ∃ r, (infer scope (.declaration name type expr l)).scope
      = (infer scope expr).scope.declare name r := by
  rcases type with _ | written
  · exact ⟨_, rfl⟩
  · rw [infer]
    rcases Ty.ofName? written.name with _ | declared <;> exact ⟨_, rfl⟩

lemma infer_assignment_of_none (hscope : (infer scope expr).scope = some table)
    (hname : table.get? name = none) : infer scope (.assignment name expr l)
      = ⟨.invalid, some table, (infer scope expr).errors ++ [.undefinedVariable l name]⟩ := by
  simp [infer, hscope, hname]

lemma infer_assignment_of_some (hscope : (infer scope expr).scope = some table)
    {recorded : Resolution} (hname : table.get? name = some recorded) :
    infer scope (.assignment name expr l)
      = ⟨(reassign expr.location recorded (infer scope expr).type).1, some table,
        (infer scope expr).errors
          ++ (reassign expr.location recorded (infer scope expr).type).2⟩ := by
  simp [infer, hscope, hname]

/-! ### Types that are compared -/

lemma joinOperands_known_iff {u : Ty} :
    joinOperands l (.known t) (.known u) = (r, []) ↔ t = u ∧ r = .known t := by
  by_cases htu : t = u <;> simp [joinOperands, htu, eq_comm]

lemma conform_eq_iff {a : Resolution} :
    conform l t a = (r, []) ↔ (∀ u, a = .known u → t = u) ∧ r = .known t := by
  rcases a with u | _ | _
  · by_cases htu : t = u <;> simp [conform, htu, eq_comm]
  · simp [conform, eq_comm]
  · simp [conform, eq_comm]

lemma reassign_eq_iff {d a : Resolution} :
    reassign l d a = (r, []) ↔ (∀ t u, d = .known t → a = .known u → t = u) ∧ r = a := by
  rcases d with t | _ | _ <;> rcases a with u | _ | _
  · by_cases htu : t = u <;> simp [reassign, htu, eq_comm]
  all_goals simp [reassign, eq_comm]

lemma ofName?_eq_some_iff : Ty.ofName? name = some t ↔ name = t.name := by
  have hne : Ty.integer.name ≠ Ty.string.name := by decide
  constructor
  · intro h
    unfold Ty.ofName? at h
    split at h
    · next hname =>
      cases h
      exact hname
    · split at h
      · next hname =>
        cases h
        exact hname
      · cases h
  · rintro rfl
    cases t with
    | integer => rfl
    | string => exact (if_neg hne.symm).trans (if_pos rfl)

/-! ### Expressions that pass -/

/-- The checker finds no error in an expression, resolves it to `r` and goes on with `scope'`. -/
def Passes (scope : Scope) (n : Node) (r : Resolution) (scope' : Scope) : Prop :=
  infer scope n = ⟨r, scope', []⟩

/-- A declaration whose expression is resolved to `a` has the type `r`, without an error. -/
def Declares : Option TypeName → Resolution → Resolution → Prop
  | none, a, r => r = a
  | some written, a, r =>
    ∃ t, Ty.ofName? written.name = some t ∧ (∀ u, a = .known u → t = u) ∧ r = .known t

lemma declares_known_iff {u : Ty} :
    Declares type (.known u) r ↔
      r = .known u ∧ ∀ written, type = some written → written.name = u.name := by
  cases type with
  | none => simp [Declares]
  | some written =>
    simp only [Declares, Resolution.known.injEq, Option.some.injEq, ofName?_eq_some_iff]
    constructor
    · rintro ⟨t, hname, hsame, rfl⟩
      obtain rfl : t = u := hsame u rfl
      exact ⟨rfl, by rintro _ rfl; exact hname⟩
    · rintro ⟨rfl, hname⟩
      exact ⟨u, hname written rfl, fun _ h => h, rfl⟩

lemma Passes.type_eq (h : Passes scope n r scope') : (infer scope n).type = r :=
  congrArg Inference.type h

lemma Passes.scope_eq (h : Passes scope n r scope') : (infer scope n).scope = scope' :=
  congrArg Inference.scope h

lemma exists_passes_iff : (∃ r scope', Passes scope n r scope') ↔ (infer scope n).errors = [] := by
  rcases h : infer scope n with ⟨t, scope₁, errors⟩
  simp [Passes, h]

lemma passes_binary_iff : Passes scope (.binary left op right l) r scope' ↔
    ∃ a b scope₁, Passes scope left a scope₁ ∧ Passes scope₁ right b scope' ∧
      joinOperands l a b = (r, []) := by
  simp only [Passes, infer]
  rcases hleft : infer scope left with ⟨a, scope₁, es⟩
  rcases hright : infer scope₁ right with ⟨b, scope₂, fs⟩
  rcases hjoin : joinOperands l a b with ⟨t, gs⟩
  simp only [Inference.mk.injEq, List.append_eq_nil_iff]
  constructor
  · rintro ⟨rfl, rfl, ⟨rfl, rfl⟩, rfl⟩
    exact ⟨a, b, scope₁, ⟨rfl, rfl, rfl⟩, hright, hjoin⟩
  · rintro ⟨a', b', scope₁', ⟨rfl, rfl, rfl⟩, hright', hjoin'⟩
    rw [hright] at hright'
    obtain ⟨rfl, rfl, rfl⟩ := Inference.mk.inj hright'
    rw [hjoin] at hjoin'
    obtain ⟨rfl, rfl⟩ := Prod.mk.inj hjoin'
    exact ⟨rfl, rfl, ⟨rfl, rfl⟩, rfl⟩

lemma passes_declaration_iff : Passes scope (.declaration name type expr l) r scope' ↔
    ∃ a scope₁, Passes scope expr a scope₁ ∧ Declares type a r ∧
      scope' = scope₁.declare name r := by
  simp only [Passes, infer]
  rcases infer scope expr with ⟨a, scope₁, es⟩
  rcases type with _ | written
  · simp only [Inference.mk.injEq, Declares]
    constructor
    · rintro ⟨rfl, rfl, rfl⟩
      exact ⟨a, scope₁, ⟨rfl, rfl, rfl⟩, rfl, rfl⟩
    · rintro ⟨a', scope₁', ⟨rfl, rfl, rfl⟩, rfl, rfl⟩
      exact ⟨rfl, rfl, rfl⟩
  · simp only [Declares]
    rcases Ty.ofName? written.name with _ | t
    · simp
    · rcases hconform : conform expr.location t a with ⟨b, fs⟩
      simp only [hconform, Inference.mk.injEq, List.append_eq_nil_iff, Option.some.injEq,
        exists_eq_left']
      constructor
      · rintro ⟨rfl, rfl, rfl, rfl⟩
        obtain ⟨hsame, rfl⟩ := conform_eq_iff.1 hconform
        exact ⟨a, scope₁, ⟨rfl, rfl, rfl⟩, ⟨hsame, rfl⟩, rfl⟩
      · rintro ⟨a', scope₁', ⟨rfl, rfl, rfl⟩, ⟨hsame, rfl⟩, rfl⟩
        rw [conform_eq_iff.2 ⟨hsame, rfl⟩] at hconform
        obtain ⟨rfl, rfl⟩ := Prod.mk.inj hconform
        exact ⟨rfl, rfl, rfl, rfl⟩

lemma passes_assignment_iff : Passes scope (.assignment name expr l) r scope' ↔
    Passes scope expr r scope' ∧ ∀ table ∈ scope', ∃ d, table.get? name = some d ∧
      ∀ t u, d = .known t → r = .known u → t = u := by
  simp only [Passes, infer]
  rcases infer scope expr with ⟨a, _ | table, es⟩
  · simp only [Inference.mk.injEq]
    constructor
    · rintro ⟨rfl, rfl, rfl⟩
      exact ⟨⟨rfl, rfl, rfl⟩, by simp⟩
    · exact fun h => h.1
  · rcases hname : table.get? name with _ | d
    · simp only [hname, Inference.mk.injEq, List.append_eq_nil_iff]
      constructor
      · rintro ⟨-, -, -, h⟩
        simp at h
      · rintro ⟨⟨rfl, rfl, rfl⟩, h⟩
        obtain ⟨d, hd, -⟩ := h table rfl
        simp [hname] at hd
    · rcases hassign : reassign expr.location d a with ⟨b, fs⟩
      simp only [hname, hassign, Inference.mk.injEq, List.append_eq_nil_iff]
      constructor
      · rintro ⟨rfl, rfl, rfl, rfl⟩
        obtain ⟨hsame, rfl⟩ := reassign_eq_iff.1 hassign
        refine ⟨⟨rfl, rfl, rfl⟩, ?_⟩
        rintro table' ⟨⟩
        exact ⟨d, hname, hsame⟩
      · rintro ⟨⟨rfl, rfl, rfl⟩, h⟩
        obtain ⟨d', hd', hsame⟩ := h table rfl
        rw [hname] at hd'
        obtain rfl := Option.some.inj hd'
        rw [reassign_eq_iff.2 ⟨hsame, rfl⟩] at hassign
        obtain ⟨rfl, rfl⟩ := Prod.mk.inj hassign
        exact ⟨rfl, rfl, rfl, rfl⟩

lemma passes_reference_iff :
    Passes (some table) (.reference name l) r scope' ↔
      table.get? name = some r ∧ scope' = some table := by
  simp only [Passes, infer]
  rcases table.get? name with _ | recorded <;> simp [eq_comm]

/-- A script without type errors is one whose expressions pass, one after the other. -/
lemma inferAll_cons_eq_nil_iff :
    inferAll scope (n :: nodes) = (scope', []) ↔
      ∃ r scope₁, Passes scope n r scope₁ ∧ inferAll scope₁ nodes = (scope', []) := by
  rcases hn : infer scope n with ⟨a, scope₁, es⟩
  rcases hnodes : inferAll scope₁ nodes with ⟨scope₂, fs⟩
  simp only [inferAll, Passes, hn, hnodes, Prod.mk.injEq, List.append_eq_nil_iff,
    Inference.mk.injEq]
  constructor
  · rintro ⟨rfl, rfl, rfl⟩
    exact ⟨a, scope₁, ⟨rfl, rfl, rfl⟩, hnodes⟩
  · rintro ⟨_, _, ⟨rfl, rfl, rfl⟩, hrest⟩
    rw [hnodes] at hrest
    obtain ⟨rfl, rfl⟩ := Prod.mk.inj hrest
    exact ⟨rfl, rfl, rfl⟩

end LetScript
