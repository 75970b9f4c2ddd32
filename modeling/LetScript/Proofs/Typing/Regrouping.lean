import LetScript.Proofs.Node.Regrouping
import LetScript.Proofs.Program
import LetScript.Proofs.Typing.Checker

/-!
# Type checks in any grouping

The errors of a chain of operands depend on how its operators group: in `1 + x + "a"`, without a
symbol table, either sign may be the one that is blamed.  Whether there is an error does not.  A
chain passes exactly if the types of its operands that are known are all the same, and this is a
condition on the operands alone.

An *invalid* operand would spoil this, since it hides every error of the operators around it.  But an
operand is invalid only behind an error, so before the first error there is none: this is the
invariant `Scope.Clean`, and what `Passes.clean` says.
-/

namespace LetScript

/-- No name is recorded as invalid. -/
def Scope.Clean (scope : Scope) : Prop := ∀ table ∈ scope, ∀ x, table.get? x ≠ some .invalid

variable {scope scope' : Scope} {n m left right expr : Node} {op : Operator} {l : Location}
  {name : Text} {type : Option TypeName} {r : Resolution}

/-! ### Operands that agree -/

@[simp] lemma joinOperands_unknown_left (l : Location) (b : Resolution) :
    joinOperands l .unknown b = (b, []) := by
  cases b <;> rfl

@[simp] lemma joinOperands_unknown_right (l : Location) (a : Resolution) :
    joinOperands l a .unknown = (a, []) := by
  cases a <;> rfl

lemma joinOperands_ne_invalid {a b : Resolution} (ha : a ≠ .invalid) (hb : b ≠ .invalid)
    (h : joinOperands l a b = (r, [])) : r ≠ .invalid := by
  rcases a with t | _ | _
  · rcases b with u | _ | _
    · rw [(joinOperands_known_iff.1 h).2]
      exact ha
    · obtain rfl : Resolution.known t = r := by simpa using h
      exact ha
    · exact absurd rfl hb
  · obtain rfl : b = r := by simpa using h
    exact hb
  · exact absurd rfl ha

/-- Three operands agree or disagree, whichever two of them are compared first. -/
lemma joinOperands_assoc {a b c : Resolution} (ha : a ≠ .invalid) (hb : b ≠ .invalid)
    (hc : c ≠ .invalid) {l l' : Location} :
    (∃ u, joinOperands l a b = (u, []) ∧ joinOperands l' u c = (r, [])) ↔
      ∃ u, joinOperands l' b c = (u, []) ∧ joinOperands l a u = (r, []) := by
  rcases a with t | _ | _
  · rcases b with u | _ | _
    · rcases c with v | _ | _
      · -- only here is there a comparison on both sides
        simp only [joinOperands_known_iff]
        constructor
        · rintro ⟨_, ⟨rfl, rfl⟩, h⟩
          obtain ⟨rfl, rfl⟩ := joinOperands_known_iff.1 h
          exact ⟨_, ⟨rfl, rfl⟩, joinOperands_known_iff.2 ⟨rfl, rfl⟩⟩
        · rintro ⟨_, ⟨rfl, rfl⟩, h⟩
          obtain ⟨rfl, rfl⟩ := joinOperands_known_iff.1 h
          exact ⟨_, ⟨rfl, rfl⟩, joinOperands_known_iff.2 ⟨rfl, rfl⟩⟩
      · simp
      · exact absurd rfl hc
    · rcases c with v | _ | _
      · simp [joinOperands_known_iff]
      · simp
      · exact absurd rfl hc
    · exact absurd rfl hb
  · simp
  · exact absurd rfl ha

/-! ### Before the first error -/

lemma Scope.clean_initial (symbols : Bool) : (Scope.initial symbols).Clean := by
  intro table htable x hx
  cases symbols with
  | false => simp [Scope.initial] at htable
  | true =>
    obtain rfl : ∅ = table := by simpa [Scope.initial] using htable
    cases hx

lemma Scope.Clean.declare (h : scope.Clean) (hr : r ≠ .invalid) (name : Text) :
    (scope.declare name r).Clean := by
  intro table htable x
  obtain ⟨table₁, htable₁, rfl⟩ := Option.map_eq_some_iff.1 htable
  rw [Bindings.get?_insert]
  split
  · simpa using hr
  · exact h table₁ htable₁ x

lemma Declares.ne_invalid {a : Resolution} (h : Declares type a r) (ha : a ≠ .invalid) :
    r ≠ .invalid := by
  cases type with
  | none =>
    obtain rfl : r = a := h
    exact ha
  | some written =>
    obtain ⟨t, -, -, rfl⟩ := h
    simp

/-- Where no error has been found, nothing is invalid. -/
lemma Passes.clean (h : Passes scope n r scope') (hclean : scope.Clean) :
    r ≠ .invalid ∧ scope'.Clean := by
  induction n generalizing scope scope' r with
  | literal v l =>
    cases v with
    | integer k =>
      obtain ⟨rfl, rfl, -⟩ := Inference.mk.inj h
      exact ⟨by simp, hclean⟩
    | string s =>
      obtain ⟨rfl, rfl, -⟩ := Inference.mk.inj h
      exact ⟨by simp, hclean⟩
  | reference name l =>
    simp only [Passes, infer] at h
    rcases scope with _ | table
    · obtain ⟨rfl, rfl, -⟩ := Inference.mk.inj h
      exact ⟨by simp, hclean⟩
    · rcases hname : table.get? name with _ | recorded
      · simp [hname] at h
      · simp only [hname] at h
        obtain ⟨rfl, rfl, -⟩ := Inference.mk.inj h
        refine ⟨?_, hclean⟩
        rintro rfl
        exact hclean table rfl name hname
  | declaration name type expr l ih =>
    obtain ⟨a, scope₁, hexpr, hdeclares, rfl⟩ := passes_declaration_iff.1 h
    obtain ⟨ha, hclean₁⟩ := ih hexpr hclean
    have hr : r ≠ .invalid := hdeclares.ne_invalid ha
    exact ⟨hr, hclean₁.declare hr name⟩
  | assignment name expr l ih =>
    obtain ⟨hexpr, -⟩ := passes_assignment_iff.1 h
    exact ih hexpr hclean
  | binary left op right l ihl ihr =>
    obtain ⟨a, b, scope₁, hleft, hright, hjoin⟩ := passes_binary_iff.1 h
    obtain ⟨ha, hclean₁⟩ := ihl hleft hclean
    obtain ⟨hb, hclean₂⟩ := ihr hright hclean₁
    exact ⟨joinOperands_ne_invalid ha hb hjoin, hclean₂⟩

/-! ### Regrouping -/

/-- Regrouping keeps the type of an expression that passes, and what is declared behind it. -/
lemma Regroups.passes_iff (h : Regroups n m) (hclean : scope.Clean) :
    Passes scope n r scope' ↔ Passes scope m r scope' := by
  induction h generalizing scope scope' r with
  | refl n => rfl
  | rotate a b c op op' l l' =>
    constructor
    · intro h
      obtain ⟨s, w, scope₂, hab, hc, hjoin'⟩ := passes_binary_iff.1 h
      obtain ⟨u, v, scope₁, ha, hb, hjoin⟩ := passes_binary_iff.1 hab
      obtain ⟨hu, hclean₁⟩ := ha.clean hclean
      obtain ⟨hv, hclean₂⟩ := hb.clean hclean₁
      obtain ⟨hw, -⟩ := hc.clean hclean₂
      obtain ⟨s', hjoin', hjoin⟩ := (joinOperands_assoc hu hv hw).1 ⟨s, hjoin, hjoin'⟩
      have hbc : Passes scope₁ (.binary b op' c l') s' scope' :=
        passes_binary_iff.2 ⟨v, w, scope₂, hb, hc, hjoin'⟩
      exact passes_binary_iff.2 ⟨u, s', scope₁, ha, hbc, hjoin⟩
    · intro h
      obtain ⟨u, s, scope₁, ha, hbc, hjoin⟩ := passes_binary_iff.1 h
      obtain ⟨v, w, scope₂, hb, hc, hjoin'⟩ := passes_binary_iff.1 hbc
      obtain ⟨hu, hclean₁⟩ := ha.clean hclean
      obtain ⟨hv, hclean₂⟩ := hb.clean hclean₁
      obtain ⟨hw, -⟩ := hc.clean hclean₂
      obtain ⟨s', hjoin, hjoin'⟩ := (joinOperands_assoc hu hv hw).2 ⟨s, hjoin', hjoin⟩
      have hab : Passes scope (.binary a op b l) s' scope₂ :=
        passes_binary_iff.2 ⟨u, v, scope₁, ha, hb, hjoin⟩
      exact passes_binary_iff.2 ⟨s', w, scope₂, hab, hc, hjoin'⟩
  | binary op l _ _ ihl ihr =>
    simp only [passes_binary_iff, ihl hclean]
    -- the right operand is compared in the scope behind the left one
    refine exists_congr fun a => exists_congr fun b => exists_congr fun scope₁ => ?_
    refine and_congr_right fun hleft => ?_
    rw [ihr (((ihl hclean).2 hleft).clean hclean).2]
  | declaration name type l _ ih => simp only [passes_declaration_iff, ih hclean]
  | assignment name l _ ih => simp only [passes_assignment_iff, ih hclean]
  | trans _ _ ih ih' => exact (ih hclean).trans (ih' hclean)

/-- If one of two scripts has an error, so has the other, though perhaps not the same one. -/
lemma inferAll_eq_nil_iff_of_regroups {ns ms : List Node} (h : List.Forall₂ Regroups ns ms)
    (hclean : scope.Clean) : (inferAll scope ns).2 = [] ↔ (inferAll scope ms).2 = [] := by
  induction h generalizing scope with
  | nil => rfl
  | @cons n m ns ms hregroups _ ih =>
    by_cases hpasses : (infer scope n).errors = []
    · obtain ⟨r, scope₁, hn⟩ := exists_passes_iff.2 hpasses
      have hm : infer scope m = ⟨r, scope₁, []⟩ := (hregroups.passes_iff hclean).1 hn
      rw [Passes] at hn
      simp only [inferAll, hn, hm, List.nil_append]
      exact ih (Passes.clean hn hclean).2
    · have hfails : (infer scope m).errors ≠ [] := by
        rw [← exists_passes_iff] at hpasses
        rw [Ne, ← exists_passes_iff]
        simpa only [hregroups.passes_iff hclean] using hpasses
      simp [inferAll, hpasses, hfails]

/-! ### What depends on the verdict -/

lemma Verdict.of_congr (script : Text) {i j : Nat} (h : i = 0 ↔ j = 0) :
    Verdict.of script i = Verdict.of script j := by
  by_cases hi : i = 0
  · rw [hi, h.1 hi]
  · have hj : j ≠ 0 := fun hj => hi (h.2 hj)
    have hmet : ∀ r : Requirement, r.isMet i = r.isMet j := by
      intro r
      cases r <;> simp [Requirement.isMet, bne, hi, hj]
    simp [Verdict.of, hmet]

/-- **The switch for precedence never changes the verdict of the type checker.**  Tokens that are
read in one of the two ways are read in both; the nodes read without precedence have no type error
exactly if those read with it have none.  So every directive is met in both ways or in none, and a
gate stops both programs or neither. -/
theorem check_precedence_agree {precedence assignments : Bool} {tokens : List Token}
    {nodes : List Node} (h : parse ⟨precedence, assignments⟩ tokens = .ok nodes) (symbols : Bool) :
    ∃ ns ms, parse ⟨false, assignments⟩ tokens = .ok ns ∧
      parse ⟨true, assignments⟩ tokens = .ok ms ∧
      (check symbols ns = [] ↔ check symbols ms = []) ∧
      ∀ script, Program.verdict ⟨script, tokens, ns, check symbols ns⟩
          = Program.verdict ⟨script, tokens, ms, check symbols ms⟩ ∧
        ∀ s, Program.run s ⟨script, tokens, ns, check symbols ns⟩ = .error .typeErrors ↔
          Program.run s ⟨script, tokens, ms, check symbols ms⟩ = .error .typeErrors := by
  obtain ⟨ns, ms, hns, hms, hregroups⟩ := exists_parse_regroups h
  have hcheck : check symbols ns = [] ↔ check symbols ms = [] := by
    rw [check_eq, check_eq]
    exact (inferAll_eq_nil_iff_of_regroups hregroups (Scope.clean_initial symbols)).symm
  refine ⟨ns, ms, hns, hms, hcheck, fun script => ⟨?_, fun s => ?_⟩⟩
  · refine Verdict.of_congr script ?_
    rw [List.length_eq_zero_iff, List.length_eq_zero_iff]
    exact hcheck
  · rw [Program.run_eq_typeErrors_iff, Program.run_eq_typeErrors_iff]
    exact and_congr_right fun _ => not_congr hcheck

/-- The tokens of `1 + x + "a"`. -/
def mixedChain : List Token :=
  [⟨.integer, "1", ⟨1, 1⟩⟩, ⟨.plus, "+", ⟨1, 3⟩⟩, ⟨.identifier, "x", ⟨1, 5⟩⟩, ⟨.plus, "+", ⟨1, 7⟩⟩,
    ⟨.string, "a", ⟨1, 9⟩⟩]

/-- The node that they are read as with precedence. -/
def mixedChainNode : Node :=
  .binary (.binary (.literal (.integer 1) ⟨1, 1⟩) .plus (.reference "x" ⟨1, 5⟩) ⟨1, 3⟩) .plus
    (.literal (.string "a") ⟨1, 9⟩) ⟨1, 7⟩

/-- Nothing is known of `x`, so the number and the string are compared across it.  Both ways of
reading blame a sign, and not the same one. -/
theorem check_precedence_agree_mixedChain :
    parse ⟨true, true⟩ mixedChain = .ok [mixedChainNode] ∧
      check false [mixedChainNode] = [.mismatched ⟨1, 7⟩ "Integer" "String"] ∧
      ∃ ns, parse ⟨false, true⟩ mixedChain = .ok ns ∧ check false ns ≠ [] ∧
        check false ns ≠ check false [mixedChainNode] := by
  have hparse : parse ⟨true, true⟩ mixedChain = .ok [mixedChainNode] :=
    parse_eq_ok (by decide +kernel)
  have hdiffer : (parse ⟨false, true⟩ mixedChain).toOption.map (check false)
      ≠ some (check false [mixedChainNode]) := by decide +kernel
  obtain ⟨ns, ms, hns, hms, hcheck, -⟩ := check_precedence_agree hparse false
  obtain rfl : ms = [mixedChainNode] := by
    rw [hparse] at hms
    exact (Except.ok.inj hms).symm
  refine ⟨hparse, by decide +kernel, ns, hns, fun hnil => ?_, fun heq => hdiffer ?_⟩
  · exact absurd (hcheck.1 hnil) (by decide +kernel)
  · rw [hns, ← heq]
    rfl

end LetScript
