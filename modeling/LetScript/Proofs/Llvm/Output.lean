import LetScript.Proofs.Llvm.Agreement
import LetScript.Proofs.Llvm.WellFormed
import LetScript.Proofs.Program
import LetScript.Proofs.Sums
import LetScript.Proofs.Text.Utf8
import LetScript.Proofs.Token.Tiling

/-!
# What the module of a script writes

A string is bound with all its bytes, and its global holds them all and a NUL byte behind them.  But
`puts` takes the *first* NUL byte for the end of the string, and a literal may have one: the scanner
takes every character but the quote into a string.  So a string is written in full exactly if it has
no NUL byte of its own (`run_puts_iff`).

Strings are never computed, only passed on from name to name.  So each string that a run ends with
is that of a literal, and a script without a NUL byte has its strings written in full.
-/

namespace LetScript

/-! ### Strings come from literals -/

section Evaluation

variable {arithmetic : Bool} {ctx ctx' : Context} {v : Value} {P : Text → Prop}

/-- What holds of the strings in a scope and of the literals of an expression still holds of the
strings behind the expression. -/
lemma eval_forall_strings {n : Node} (hn : ∀ t ∈ n.strings, P t)
    (hctx : ∀ x t, ctx.get? x = some (.string t) → P t)
    (h : eval arithmetic n ctx = .ok (v, ctx')) :
    (∀ t, v = .string t → P t) ∧ ∀ x t, ctx'.get? x = some (.string t) → P t := by
  have hset : ∀ {ctx₁ : Context} {w : Value} {name : Text}, (∀ t, w = .string t → P t) →
      (∀ x t, ctx₁.get? x = some (.string t) → P t) →
      ∀ x t, (ctx₁.set name w).get? x = some (.string t) → P t := by
    intro ctx₁ w name hw hctx₁ x t hx
    simp only [Context.set, Context.get?, Bindings.get?_insert] at hx
    split at hx
    · exact hw t (Option.some.inj hx)
    · exact hctx₁ x t hx
  induction n generalizing ctx ctx' v with
  | literal w l =>
    cases w with
    | integer k =>
      obtain ⟨rfl, rfl⟩ : .integer k = v ∧ ctx = ctx' := by simpa [eval] using h
      exact ⟨by simp, hctx⟩
    | string s =>
      obtain ⟨rfl, rfl⟩ : .string s = v ∧ ctx = ctx' := by simpa [eval] using h
      refine ⟨fun t ht => hn t ?_, hctx⟩
      simpa [Node.strings] using ht.symm
  | declaration name type expr l ih =>
    obtain ⟨ctx₁, hexpr, rfl⟩ := eval_declaration_eq_ok.1 h
    obtain ⟨hv, hctx₁⟩ := ih hn hctx hexpr
    exact ⟨hv, hset hv hctx₁⟩
  | assignment name expr l ih =>
    obtain ⟨-, ctx₁, hexpr, rfl⟩ := eval_assignment_eq_ok.1 h
    obtain ⟨hv, hctx₁⟩ := ih hn hctx hexpr
    exact ⟨hv, hset hv hctx₁⟩
  | reference name l =>
    obtain ⟨hv, rfl⟩ := eval_reference_eq_ok.1 h
    refine ⟨fun t ht => hctx name t ?_, hctx⟩
    rw [hv, ht]
  | binary left op right l ihl ihr =>
    obtain ⟨-, -, m, k, ctx₁, hleft, hright, rfl⟩ := eval_binary_eq_ok.1 h
    obtain ⟨hnl, hnr⟩ := List.forall_mem_append.1 hn
    exact ⟨by simp, (ihr hnr (ihl hnl hctx hleft).2 hright).2⟩

lemma evalAll_forall_strings {nodes : List Node} (hnodes : ∀ t ∈ nodes.flatMap Node.strings, P t)
    (hctx : ∀ x t, ctx.get? x = some (.string t) → P t)
    (h : evalAll arithmetic nodes ctx = .ok ctx') :
    ∀ x t, ctx'.get? x = some (.string t) → P t := by
  induction nodes generalizing ctx with
  | nil =>
    obtain rfl : ctx = ctx' := Except.ok.inj h
    exact hctx
  | cons n nodes ih =>
    rw [List.flatMap_cons] at hnodes
    obtain ⟨hn, hrest⟩ := List.forall_mem_append.1 hnodes
    obtain ⟨v, ctx₁, hfirst, hlater⟩ := evalAll_cons_eq_ok.1 h
    exact ih hrest (eval_forall_strings hn hctx hfirst).2 hlater

/-- An expression that can be evaluated only adds. -/
lemma onlySums_of_eval {n : Node} (h : eval arithmetic n ctx = .ok (v, ctx')) :
    n.onlySums = true := by
  induction n generalizing ctx ctx' v with
  | literal w l => rfl
  | declaration name type expr l ih =>
    obtain ⟨ctx₁, hexpr, -⟩ := eval_declaration_eq_ok.1 h
    exact ih hexpr
  | assignment name expr l ih =>
    obtain ⟨-, ctx₁, hexpr, -⟩ := eval_assignment_eq_ok.1 h
    exact ih hexpr
  | reference name l => rfl
  | binary left op right l ihl ihr =>
    obtain ⟨-, rfl, m, k, ctx₁, hleft, hright, -⟩ := eval_binary_eq_ok.1 h
    simp [Node.onlySums, ihl hleft, ihr hright]

lemma onlySums_of_evalAll {nodes : List Node} (h : evalAll arithmetic nodes ctx = .ok ctx') :
    ∀ n ∈ nodes, n.onlySums = true := by
  induction nodes generalizing ctx with
  | nil => simp
  | cons n nodes ih =>
    obtain ⟨v, ctx₁, hfirst, hlater⟩ := evalAll_cons_eq_ok.1 h
    exact List.forall_mem_cons.2 ⟨onlySums_of_eval hfirst, ih hlater⟩

end Evaluation

/-! ### Literals come from the script -/

lemma Node.exists_mark_of_mem_strings {n : Node} {s : Text} (h : s ∈ n.strings) :
    ∃ l, .text s l ∈ n.marks := by
  induction n with
  | literal v l =>
    cases v with
    | integer k => cases h
    | string t =>
      obtain rfl := List.mem_singleton.1 h
      exact ⟨l, List.mem_singleton_self _⟩
  | binary left op right l ihl ihr =>
    rcases List.mem_append.1 h with hleft | hright
    · obtain ⟨l', hl'⟩ := ihl hleft
      exact ⟨l', List.mem_append_left _ hl'⟩
    · obtain ⟨l', hl'⟩ := ihr hright
      exact ⟨l', List.mem_append_right _ (List.mem_cons_of_mem _ hl')⟩
  | declaration name type expr l ih =>
    obtain ⟨l', hl'⟩ := ih h
    exact ⟨l', by simp [marks, hl']⟩
  | assignment name expr l ih =>
    obtain ⟨l', hl'⟩ := ih h
    exact ⟨l', by simp [marks, hl']⟩
  | reference name l => cases h

lemma Spells.exists_body {cs : List Char} {next : Option Char} {kind : TokenKind} {value : Text}
    (h : Spells cs next kind value) (hkind : kind = .string) :
    ∃ body, value = Text.ofChars body ∧ body ⊆ cs := by
  cases h with
  | @string body _ _ => exact ⟨body, rfl, fun c hc => by simp [hc]⟩
  | sign hsign =>
    subst hkind
    simp [signs] at hsign
  | _ => cases hkind

/-- Every string literal of a compiled script is made of characters of the script. -/
lemma exists_chars_of_mem_strings {s : Settings} {script : Text} {p : Program}
    (h : compile s script = .ok p) {t : Text} (ht : t ∈ p.nodes.flatMap Node.strings) :
    ∃ body, t = Text.ofChars body ∧ body ⊆ script.chars := by
  obtain ⟨tokens, nodes, htokens, hnodes, rfl⟩ := compile_eq_ok_iff.1 h
  obtain ⟨n, hn, htn⟩ := List.mem_flatMap.1 ht
  obtain ⟨l, hl⟩ := n.exists_mark_of_mem_strings htn
  obtain ⟨token, htoken, hkind, rfl, -⟩ :=
    (parse_eq_ok_iff_written.1 hnodes).1.exists_fits (List.mem_flatMap.2 ⟨n, hn, hl⟩)
  obtain ⟨span, hspan⟩ := exists_standsIn htokens ((List.takeWhile_sublist _).subset htoken)
    (by simp [hkind])
  obtain ⟨body, hbody, hsubset⟩ := hspan.spells.exists_body hkind
  refine ⟨body, hbody, fun c hc => ?_⟩
  exact List.mem_of_mem_drop (List.mem_of_mem_take (hsubset hc))

/-- A script without a NUL byte has no string with one. -/
lemma zero_notMem_strings {s : Settings} {script : Text} {p : Program}
    (h : compile s script = .ok p) (hscript : 0 ∉ script.bytes) :
    ∀ t ∈ p.nodes.flatMap Node.strings, 0 ∉ t.bytes := by
  have hzero : ∀ t : Text, 0 ∈ t.bytes ↔ '\x00' ∈ t.chars :=
    fun t => Text.ofNat_mem_bytes_iff (n := 0) (by decide)
  intro t ht hmem
  obtain ⟨body, rfl, hsubset⟩ := exists_chars_of_mem_strings h ht
  rw [hzero, Text.chars_ofChars] at hmem
  exact hscript ((hzero script).2 (hsubset hmem))

namespace Llvm

/-! ### What `puts` writes -/

/-- What a call of `puts` writes: the bytes at the address up to the first NUL byte, and a newline.
If there is no NUL byte, the call reads beyond the global, and what it does is undefined. -/
def putsOutput? (globals : List Global) (address : Nat) : Option (List UInt8) :=
  (contents? globals address).bind fun bytes =>
    if 0 ∈ bytes then some (bytes.takeWhile (· ≠ 0) ++ [10]) else none

lemma putsOutput?_of_contents {globals : List Global} {address : Nat} {bytes : List UInt8}
    (h : contents? globals address = some (bytes ++ [0])) :
    putsOutput? globals address = some (bytes.takeWhile (· ≠ 0) ++ [10]) := by
  have hstop : (bytes ++ [0]).takeWhile (· ≠ 0) = bytes.takeWhile (· ≠ 0) := by
    rw [List.takeWhile_append]
    split
    · next hall =>
      rw [(List.takeWhile_sublist _).eq_of_length hall]
      exact List.append_nil _
    · rfl
  rw [putsOutput?, h, Option.bind_some, if_pos (by simp), hstop]

/-- A string is written in full exactly if it has no NUL byte. -/
lemma takeWhile_append_eq_iff {bytes : List UInt8} :
    bytes.takeWhile (· ≠ 0) ++ [10] = bytes ++ [10] ↔ 0 ∉ bytes := by
  rw [List.append_cancel_right_eq, List.takeWhile_eq_self_iff]
  grind

/-! ### What a run writes -/

/-- **What the module of a script writes.**  Let a script compile with arithmetic, whatever the
other settings, and let its run complete and its lowering succeed.  Then `main` computes, calls and
returns, and gets through to the return.  Its calls are one for each bound name, in order.  The call
for a name that is bound to a string is one of `puts`.  It writes the string up to its first NUL
byte and a newline, hence all of the string exactly if the string has no NUL byte; and no string has
one if the script has none. -/
theorem run_puts_iff {s : Settings} {script : Text} {p : Program} {ctx : Context} {m : Module}
    (harithmetic : s.switches.arithmetic = true) (hcompile : compile s script = .ok p)
    (hrun : p.run s = .ok ctx) (hemit : p.emit = .ok m) :
    (∃ machine, m.run = some machine ∧ machine.exit = some 0 ∧
      (∃ code prints, m.body = code ++ prints ++ [.ret] ∧ (∀ i ∈ code, i.isArith = true) ∧
        ∀ i ∈ prints, i.isCall = true) ∧
      (∀ x, x ∈ ctx.names ↔ ∃ v, ctx.get? x = some v) ∧
      List.Forall₂ (fun x c => ∀ t, ctx.get? x = some (.string t) →
          ∃ address, c = .puts address ∧
            putsOutput? m.globals address = some (t.bytes.takeWhile (· ≠ 0) ++ [10]) ∧
            (putsOutput? m.globals address = some (t.bytes ++ [10]) ↔ 0 ∉ t.bytes))
        ctx.names machine.calls) ∧
    (0 ∉ script.bytes → ∀ x t, ctx.get? x = some (.string t) → 0 ∉ t.bytes) := by
  have heval := Interpreter.run_eq_ok_iff.1 (Program.run_eq_ok_iff.1 hrun).2
  rw [harithmetic] at heval
  constructor
  · obtain ⟨d, hd, rfl⟩ := Generator.run_eq_ok_iff.1 hemit
    rcases evalAll_lowerAll (onlySums_of_evalAll heval) s.context with
      ⟨ctx', d', r, heval', hd', htracks⟩ | ⟨e, e', rest, heval', -⟩
    · obtain rfl : ctx = ctx' := Except.ok.inj (heval.symm.trans heval')
      obtain rfl : d = d' := Except.ok.inj (hd.symm.trans hd')
      obtain ⟨prints, calls, hbody, hprints, hmachine, hcalls⟩ := htracks.run_finish
      refine ⟨_, hmachine, rfl, ⟨d.body, prints, hbody, htracks.arith_body, hprints⟩,
        fun x => Bindings.mem_names_iff, ?_⟩
      have hget : ∀ x ∈ ctx.bindings.entries, ctx.get? x.1 = some x.2 :=
        fun x hx => Bindings.get?_of_mem_entries hx
      rw [globals_finish, Context.names, Bindings.names, List.forall₂_map_left_iff]
      refine ((List.forall₂_and_left _ _).2 ⟨hget, hcalls⟩).imp ?_
      rintro ⟨x, v⟩ c ⟨hx, hc⟩ t ht
      obtain rfl : v = .string t := Option.some.inj (hx.symm.trans ht)
      cases hc with
      | @puts _ address hcontents =>
        have houtput := putsOutput?_of_contents hcontents
        refine ⟨address, rfl, houtput, ?_⟩
        rw [houtput, Option.some.injEq, takeWhile_append_eq_iff]
    · rw [heval] at heval'
      cases heval'
  · intro hscript
    refine evalAll_forall_strings (zero_notMem_strings hcompile hscript) ?_ heval
    intro x t hx
    cases hx

/-- Settings with assignments and arithmetic. -/
def reckoning : Settings where
  switches := { assignments := true, arithmetic := true }

/-- The nodes of `let s = "é"`, `let t = s` and `s = "b"`. -/
def passedOn : List Node :=
  [.declaration "s" none (.literal (.string "é") ⟨1, 9⟩) ⟨1, 1⟩,
    .declaration "t" none (.reference "s" ⟨2, 9⟩) ⟨2, 1⟩,
    .assignment "s" (.literal (.string "b") ⟨3, 5⟩) ⟨3, 1⟩]

/-- A string that is passed on to `t` before `s` gets another one: both are written in full. -/
theorem run_puts_iff_passedOn :
    reckoning.switches.arithmetic = true ∧
      0 ∉ ("let s = \"é\"\nlet t = s\ns = \"b\"" : Text).bytes ∧
      ∃ p ctx m, compile reckoning "let s = \"é\"\nlet t = s\ns = \"b\"" = .ok p ∧
        p.run reckoning = .ok ctx ∧ p.emit = .ok m ∧ ctx.names = ["s", "t"] ∧
        ctx.get? "s" = some (.string "b") ∧ ctx.get? "t" = some (.string "é") ∧
        ∃ machine a b, m.run = some machine ∧ machine.exit = some 0 ∧
          machine.calls = [.puts a, .puts b] ∧ putsOutput? m.globals a = some [98, 10] ∧
          putsOutput? m.globals b = some [195, 169, 10] := by
  have hread : (compile reckoning "let s = \"é\"\nlet t = s\ns = \"b\"").toOption.map Program.nodes
      = some passedOn := by decide +kernel
  obtain ⟨p, hp, hnodes, -⟩ := exists_compile_eq_ok hread
  have hscript : 0 ∉ ("let s = \"é\"\nlet t = s\ns = \"b\"" : Text).bytes := by decide
  obtain ⟨ctx, hrun, hnames, hs, ht⟩ : ∃ ctx, p.run reckoning = .ok ctx ∧ ctx.names = ["s", "t"] ∧
      ctx.get? "s" = some (.string "b") ∧ ctx.get? "t" = some (.string "é") := by
    obtain ⟨_, _, nodes, _⟩ := p
    obtain rfl : nodes = passedOn := hnodes
    exact ⟨_, Program.run_eq_ok_iff.2 ⟨nofun, Interpreter.run_eq_ok_iff.2 rfl⟩, by decide +kernel⟩
  obtain ⟨m, hemit⟩ : ∃ m, p.emit = .ok m := by
    rw [Program.emit, hnodes]
    exact ⟨_, Generator.run_eq_ok_iff.2 ⟨_, rfl, rfl⟩⟩
  obtain ⟨⟨machine, hmachine, hexit, -, -, hcalls⟩, hfull⟩ := run_puts_iff rfl hp hrun hemit
  rw [hnames] at hcalls
  obtain ⟨c, calls, hc, hlater, hmade⟩ := List.forall₂_cons_left_iff.1 hcalls
  obtain ⟨c', calls', hc', hnone, rfl⟩ := List.forall₂_cons_left_iff.1 hlater
  obtain rfl := List.forall₂_nil_left_iff.1 hnone
  obtain ⟨a, rfl, -, ha⟩ := hc _ hs
  obtain ⟨b, rfl, -, hb⟩ := hc' _ ht
  exact ⟨rfl, hscript, p, ctx, m, hp, hrun, hemit, hnames, hs, ht, machine, a, b, hmachine, hexit,
    hmade, ha.2 (hfull hscript _ _ hs), hb.2 (hfull hscript _ _ ht)⟩

/-- The nodes of `let s = "a\x00b"`. -/
def nulString : List Node :=
  [.declaration "s" none (.literal (.string "a\x00b") ⟨1, 9⟩) ⟨1, 1⟩]

/-- `let s = "a\x00b"`: the run binds three bytes, of which the call of `puts` writes one. -/
theorem run_nulString :
    ∃ p ctx m machine, compile reckoning "let s = \"a\x00b\"" = .ok p ∧ p.run reckoning = .ok ctx ∧
      p.emit = .ok m ∧ m.run = some machine ∧ machine.calls = [.puts 0] ∧
      ctx.get? "s" = some (.string "a\x00b") ∧ putsOutput? m.globals 0 = some [97, 10] ∧
      putsOutput? m.globals 0 ≠ some (("a\x00b" : Text).bytes ++ [10]) := by
  have hread : (compile reckoning "let s = \"a\x00b\"").toOption.map Program.nodes
      = some nulString := by decide +kernel
  obtain ⟨p, hp, hnodes, -⟩ := exists_compile_eq_ok hread
  obtain ⟨ctx, hrun, hs⟩ : ∃ ctx, p.run reckoning = .ok ctx ∧
      ctx.get? "s" = some (.string "a\x00b") := by
    obtain ⟨_, _, nodes, _⟩ := p
    obtain rfl : nodes = nulString := hnodes
    exact ⟨_, Program.run_eq_ok_iff.2 ⟨nofun, Interpreter.run_eq_ok_iff.2 rfl⟩, by decide +kernel⟩
  obtain ⟨m, hemit, hglobals, hbody⟩ : ∃ m, p.emit = .ok m ∧ m.globals = [⟨0, "a\x00b"⟩] ∧
      m.body = [.puts 1 ⟨0, "a\x00b"⟩, .ret] := by
    rw [Program.emit, hnodes]
    exact ⟨_, Generator.run_eq_ok_iff.2 ⟨_, rfl, rfl⟩, by decide +kernel, by decide +kernel⟩
  refine ⟨p, ctx, m, ⟨fun _ => none, [.puts 0], some 0⟩, hp, hrun, hemit, ?_, rfl, hs, ?_⟩
  · rw [Module.run, hbody]
    rfl
  · rw [hglobals]
    decide +kernel

end Llvm

end LetScript
