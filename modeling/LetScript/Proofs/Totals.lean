import LetScript.Proofs.Node.Precedence
import LetScript.Proofs.Program
import LetScript.Proofs.Sums
import LetScript.Proofs.Token.Spelling
import LetScript.Proofs.Typing.Checker
import Mathlib.Data.List.Induction
import Mathlib.Data.Nat.Digits.Defs

/-!
# Sums from text to value

A script of the form `let x = d₁ + d₂ + ⋯ + dₖ` is followed through all stages: its characters are
read into tokens, the tokens into a chain of numbers, the chain is grouped into a tree, and the tree
is checked and evaluated.  However it is grouped, the tree is one of sums of numbers only, and its
*total* does not depend on the grouping.  So the run binds `x` to the sum of the numbers modulo
2 ^ 32 (`compile_written_sum`); and if a number does not fit into 32 bits, the first such number is
what the parser stops at.
-/

namespace LetScript

/-! ### Names and numbers as they are written -/

/-- The characters of a name: letters and underscores, but not the keyword. -/
structure Label where
  /-- What is written. -/
  chars : List Char
  ne_nil : chars ≠ []
  word : ∀ c ∈ chars, isLetter c = true ∨ c = '_'
  ne_let : chars ≠ ['l', 'e', 't']

/-- The characters of a number: decimal digits, as many as one likes, zeros in front included. -/
structure Numeral where
  /-- What is written. -/
  digits : List Char
  ne_nil : digits ≠ []
  isDigit : ∀ c ∈ digits, isDigit c = true

/-- The name that is written. -/
def Label.text (x : Label) : Text := Text.ofChars x.chars

namespace Numeral

/-- The number that is written, in base ten. -/
def value (d : Numeral) : Nat :=
  Nat.ofDigits 10 (d.digits.reverse.map fun c => c.toNat - '0'.toNat)

/-- The token of a number that stands at a place. -/
def token (d : Numeral) (l : Location) : Token := ⟨.integer, Text.ofChars d.digits, l⟩

/-- A digit is one byte, which stands for the same number. -/
lemma byte_of_isDigit {c : Char} (h : LetScript.isDigit c = true) :
    String.utf8EncodeChar c = [UInt8.ofNat c.toNat] ∧
      Text.isDigitByte (UInt8.ofNat c.toNat) = true ∧
      (UInt8.ofNat c.toNat).toNat - 0x30 = c.toNat - '0'.toNat :=
  forall_of_codes
    (p := fun c => String.utf8EncodeChar c = [UInt8.ofNat c.toNat] ∧
      Text.isDigitByte (UInt8.ofNat c.toNat) = true ∧
      (UInt8.ofNat c.toNat).toNat - 0x30 = c.toNat - '0'.toNat)
    (by decide +kernel) (toNat_mem_of_isDigit h)

lemma bytes_ofChars {digits : List Char} (h : ∀ c ∈ digits, LetScript.isDigit c = true) :
    (Text.ofChars digits).bytes = digits.map fun c => UInt8.ofNat c.toNat := by
  induction digits with
  | nil => rfl
  | cons c cs ih =>
    obtain ⟨hc, hcs⟩ := List.forall_mem_cons.1 h
    have hbytes : cs.flatMap String.utf8EncodeChar = cs.map fun c => UInt8.ofNat c.toNat := ih hcs
    show (c :: cs).flatMap String.utf8EncodeChar = _
    rw [List.flatMap_cons, (byte_of_isDigit hc).1, hbytes, List.map_cons, List.singleton_append]

/-- Reading digits from the left gives the number they write in base ten. -/
lemma digitsValue_eq {digits : List Char} (h : ∀ c ∈ digits, LetScript.isDigit c = true) :
    Text.digitsValue 0 (digits.map fun c => UInt8.ofNat c.toNat)
      = Nat.ofDigits 10 (digits.reverse.map fun c => c.toNat - '0'.toNat) := by
  induction digits using List.reverseRecOn with
  | nil => rfl
  | append_singleton cs c ih =>
    obtain ⟨hcs, hc⟩ := List.forall_mem_append.1 h
    have hlast := (byte_of_isDigit (hc c List.mem_cons_self)).2.2
    have hfirst := ih hcs
    rw [Text.digitsValue] at hfirst
    rw [Text.digitsValue, List.map_append, List.foldl_append, hfirst, List.map_singleton,
      List.foldl_cons, List.foldl_nil, hlast, List.reverse_append, List.reverse_singleton,
      List.singleton_append, List.map_cons, Nat.ofDigits_cons, Nat.mul_comm, Nat.add_comm]

lemma decimal?_eq (d : Numeral) : (Text.ofChars d.digits).decimal? = some d.value := by
  have hne : (d.digits.map fun c => UInt8.ofNat c.toNat).isEmpty = false := by
    simpa using d.ne_nil
  have hall : (d.digits.map fun c => UInt8.ofNat c.toNat).all Text.isDigitByte = true := by
    rw [List.all_map, List.all_eq_true]
    exact fun c hc => (byte_of_isDigit (d.isDigit c hc)).2.1
  rw [Text.decimal?, bytes_ofChars d.isDigit, hne, hall, digitsValue_eq d.isDigit]
  rfl

/-- **A number is read exactly if it fits into 32 bits.** -/
theorem word?_eq (d : Numeral) : (Text.ofChars d.digits).word?
    = if d.value < 2 ^ 32 then some (UInt32.ofNat d.value) else none := by
  rw [Text.word?, decimal?_eq]
  rfl

end Numeral

/-! ### The script and its tokens -/

/-- A number and the plus sign behind it. -/
def Numeral.withPlus (d : Numeral) : List Char := d.digits ++ [' ', '+', ' ']

/-- What stands in front of the sum: the keyword, the name and `=`. -/
def leadChars (x : Label) : List Char := ['l', 'e', 't', ' '] ++ x.chars ++ [' ', '=', ' ']

/-- Numbers with a plus sign between neighbours. -/
def sumChars (ds : List Numeral) : List Char :=
  List.intercalate [' ', '+', ' '] (ds.map Numeral.digits)

/-- The script that declares a name as a sum of numbers. -/
def sumScript (x : Label) (ds : List Numeral) : Text := Text.ofChars (leadChars x ++ sumChars ds)

/-- What stands in front of the number behind some others. -/
def charsBefore (x : Label) (before : List Numeral) : List Char :=
  leadChars x ++ before.flatMap Numeral.withPlus

/-- The tokens of a sum that begins at a place. -/
def sumTokens (l : Location) : List Numeral → List Token
  | [] => []
  | [d] => [d.token l]
  | d :: e :: ds =>
    d.token l :: ⟨.plus, Text.ofChars ['+'], l.afterAll (d.digits ++ [' '])⟩ ::
      sumTokens (l.afterAll d.withPlus) (e :: ds)

/-- The tokens in front of the sum. -/
def leadTokens (x : Label) : List Token :=
  [⟨.letKeyword, "let", Location.start⟩,
    ⟨.identifier, x.text, Location.start.afterAll ['l', 'e', 't', ' ']⟩,
    ⟨.equals, Text.ofChars ['='],
      Location.start.afterAll (['l', 'e', 't', ' '] ++ x.chars ++ [' '])⟩]

/-- The tokens of the script, of which the last one stands at `stop`. -/
def scriptTokens (x : Label) (ds : List Numeral) (stop : Location) : List Token :=
  leadTokens x ++ (sumTokens (Location.start.afterAll (leadChars x)) ds ++ [Token.endAt stop])

/-- The scanner finds the tokens in the characters that begin at a place, and no fault. -/
def Finds (l : Location) (cs : List Char) (tokens : List Token) : Prop :=
  (scan l cs).error = none ∧ (scan l cs).tokens = tokens

/-- Characters that spell a token before a blank are found as this token. -/
lemma Finds.spelled {l l' : Location} {cs rest : List Char} {kind : TokenKind} {value : Text}
    {tokens : List Token} (h : Spells cs (some ' ') kind value) (hl : l.afterAll (cs ++ [' ']) = l')
    (hrest : Finds l' rest tokens) : Finds l (cs ++ ' ' :: rest) (⟨kind, value, l⟩ :: tokens) := by
  obtain ⟨herror, htokens⟩ := hrest
  rw [← hl, Location.afterAll_append] at herror htokens
  rw [Finds, scan_spells h, scan_blank (by simp) (by decide)]
  exact ⟨herror, congrArg _ htokens⟩

lemma Numeral.spells (d : Numeral) {next : Option Char}
    (hnext : ∀ c ∈ next, LetScript.isDigit c = false) :
    Spells d.digits next .integer (Text.ofChars d.digits) :=
  .integer d.ne_nil d.isDigit hnext

/-- A blank ends a number and a word. -/
lemma ends_at_blank : ∀ c ∈ some ' ', isDigit c = false ∧ isWordChar c = false := by
  intro c hc
  obtain rfl : ' ' = c := Option.some.inj hc
  exact isDigit_isWordChar_of_isBlank (by decide)

/-- One step along a sum: a number and the plus sign behind it. -/
lemma Finds.withPlus {l : Location} {d : Numeral} {rest : List Char} {tokens : List Token}
    (h : Finds (l.afterAll d.withPlus) rest tokens) : Finds l (d.withPlus ++ rest)
      (d.token l :: ⟨.plus, Text.ofChars ['+'], l.afterAll (d.digits ++ [' '])⟩ :: tokens) := by
  have hplus : Spells ['+'] (some ' ') .plus (Text.ofChars ['+']) := .sign (by decide)
  have hl : (l.afterAll (d.digits ++ [' '])).afterAll (['+'] ++ [' ']) = l.afterAll d.withPlus := by
    rw [← Location.afterAll_append, List.append_assoc]
    rfl
  have hchars : d.withPlus ++ rest = d.digits ++ ' ' :: (['+'] ++ ' ' :: rest) := by
    simp [Numeral.withPlus]
  rw [hchars]
  exact .spelled (d.spells fun c hc => (ends_at_blank c hc).1) rfl (.spelled hplus hl h)

lemma sumChars_cons_cons (d e : Numeral) (ds : List Numeral) :
    sumChars (d :: e :: ds) = d.withPlus ++ sumChars (e :: ds) :=
  List.intercalate_cons_cons

/-- A number stands right behind the numbers before it and their plus signs. -/
lemma exists_sumChars_eq (before : List Numeral) (d : Numeral) (after : List Numeral) :
    ∃ rest, sumChars (before ++ d :: after)
      = before.flatMap Numeral.withPlus ++ d.digits ++ rest := by
  induction before with
  | nil =>
    cases after with
    | nil => exact ⟨[], by simp [sumChars]⟩
    | cons e after =>
      refine ⟨[' ', '+', ' '] ++ sumChars (e :: after), ?_⟩
      rw [List.nil_append, sumChars_cons_cons, Numeral.withPlus, List.flatMap_nil, List.nil_append,
        List.append_assoc]
  | cons e before ih =>
    obtain ⟨rest, hrest⟩ := ih
    obtain ⟨e', others, hothers⟩ : ∃ e' others, before ++ d :: after = e' :: others :=
      List.exists_cons_of_ne_nil (by simp)
    refine ⟨rest, ?_⟩
    rw [List.cons_append, hothers, sumChars_cons_cons, ← hothers, hrest, List.flatMap_cons]
    simp only [List.append_assoc]

lemma finds_sum (l : Location) {ds : List Numeral} (hne : ds ≠ []) :
    Finds l (sumChars ds) (sumTokens l ds ++ [Token.endAt (l.afterAll (sumChars ds))]) := by
  fun_induction sumTokens l ds with
  | case1 l => exact absurd rfl hne
  | case2 l d =>
    have hscan : scan l (d.digits ++ []) = _ := scan_spells (d.spells (by simp))
    rw [List.append_nil, scan] at hscan
    rw [Finds, sumChars, List.map_singleton, List.intercalate_singleton, hscan]
    exact ⟨rfl, rfl⟩
  | case3 l d e ds ih =>
    rw [sumChars_cons_cons, Location.afterAll_append l d.withPlus]
    exact (ih (by simp)).withPlus

lemma tokenize_sumScript (x : Label) {ds : List Numeral} (hne : ds ≠ []) :
    ∃ stop, tokenize (sumScript x ds) = .ok (scriptTokens x ds stop) := by
  have hword : ∀ c ∈ x.chars, isWordChar c = true := by simpa [isWordChar] using x.word
  have hnext : ∀ c ∈ some ' ', isWordChar c = false := fun c hc => (ends_at_blank c hc).2
  have hlet : Spells ['l', 'e', 't'] (some ' ') .letKeyword "let" := .keyword hnext
  have hname : Spells x.chars (some ' ') .identifier x.text :=
    .identifier x.ne_nil hword x.ne_let hnext
  have hequals : Spells ['='] (some ' ') .equals (Text.ofChars ['=']) := .sign (by decide)
  have hchars : leadChars x ++ sumChars ds
      = ['l', 'e', 't'] ++ ' ' :: (x.chars ++ ' ' :: (['='] ++ ' ' :: sumChars ds)) := by
    simp [leadChars]
  refine ⟨(Location.start.afterAll (leadChars x)).afterAll (sumChars ds), ?_⟩
  rw [tokenize_eq_ok_iff, sumScript, Text.chars_ofChars, hchars]
  refine Finds.spelled hlet rfl (.spelled hname ?_ (.spelled hequals ?_ (finds_sum _ hne)))
  · rw [← Location.afterAll_append, List.append_assoc]
    rfl
  · rw [← Location.afterAll_append]
    simp [leadChars]

/-! ### Chains of numbers -/

section Chains

variable {g : Grammar} {stop : Location} {rest : List Token}

lemma opening_numeral (d : Numeral) (l : Location) (h : d.value < 2 ^ 32) :
    opening g stop (d.token l :: rest)
      = .ok (.operand (.literal (.integer (UInt32.ofNat d.value)) l), rest) := by
  simp only [opening, Numeral.token, Numeral.word?_eq, if_pos h]

lemma opening_numeral_eq_error (d : Numeral) (l : Location) (h : 2 ^ 32 ≤ d.value) :
    opening g stop (d.token l :: rest) = .error ⟨.invalidInteger (d.token l), rest⟩ := by
  simp only [opening, Numeral.token, Numeral.word?_eq, if_neg (Nat.not_lt.2 h)]

/-- A chain of numbers with plus signs between them, and their sum modulo 2 ^ 32. -/
inductive SumChain : Node → List Link → UInt32 → Prop
  | last (n : UInt32) (l : Location) : SumChain (.literal (.integer n) l) [] n
  | link (n : UInt32) (l l' : Location) {operand : Node} {links : List Link} {k : UInt32}
      (hlinks : SumChain operand links k) :
      SumChain (.literal (.integer n) l) (⟨.plus, l', operand⟩ :: links) (n + k)

/-- Numbers that fit into 32 bits are read as a chain of them. -/
lemma chain_sum {l : Location} {ds : List Numeral} (hne : ds ≠ [])
    (hds : ∀ d ∈ ds, d.value < 2 ^ 32) (hrest : ∀ t ∈ rest.head?, t.operator? = none) :
    ∃ c, chain g stop (sumTokens l ds ++ rest) = .ok (c, rest) ∧
      SumChain c.first c.links (UInt32.ofNat (ds.map Numeral.value).sum) := by
  fun_induction sumTokens l ds with
  | case1 l => exact absurd rfl hne
  | case2 l d =>
    have hd : d.value < 2 ^ 32 := hds d List.mem_cons_self
    refine ⟨_, chain_of_operand (opening_numeral d l hd) hrest, ?_⟩
    simpa using SumChain.last (UInt32.ofNat d.value) l
  | case3 l d e ds ih =>
    obtain ⟨hd, hothers⟩ := List.forall_mem_cons.1 hds
    obtain ⟨c, hchain, hsum⟩ := ih (by simp) hothers
    refine ⟨_, chain_of_link (opening_numeral d l hd) rfl hchain, ?_⟩
    rw [List.map_cons, List.sum_cons, UInt32.ofNat_add]
    exact .link _ _ _ hsum

lemma sumTokens_cons (l : Location) (d : Numeral) {ds : List Numeral} (hne : ds ≠ []) :
    sumTokens l (d :: ds)
      = d.token l :: ⟨.plus, Text.ofChars ['+'], l.afterAll (d.digits ++ [' '])⟩ ::
        sumTokens (l.afterAll d.withPlus) ds := by
  obtain ⟨e, ds, rfl⟩ := List.exists_cons_of_ne_nil hne
  rfl

/-- The first number that does not fit into 32 bits is where the reading ends. -/
lemma chain_sum_eq_error (l : Location) {before after : List Numeral} {d : Numeral}
    (hbefore : ∀ e ∈ before, e.value < 2 ^ 32) (hd : 2 ^ 32 ≤ d.value) :
    ∃ ahead, chain g stop (sumTokens l (before ++ d :: after) ++ rest)
      = .error ⟨.invalidInteger
          (d.token (l.afterAll (before.flatMap Numeral.withPlus))), ahead⟩ := by
  induction before generalizing l with
  | nil =>
    obtain ⟨ahead, hahead⟩ : ∃ ahead, sumTokens l (d :: after) ++ rest = d.token l :: ahead := by
      cases after with
      | nil => exact ⟨rest, rfl⟩
      | cons e after => exact ⟨_, rfl⟩
    refine ⟨ahead, ?_⟩
    rw [List.nil_append, hahead, chain_eq_bind, opening_numeral_eq_error d l hd]
    rfl
  | cons e before ih =>
    obtain ⟨he, hothers⟩ := List.forall_mem_cons.1 hbefore
    obtain ⟨ahead, hahead⟩ := ih (l.afterAll e.withPlus) hothers
    refine ⟨ahead, ?_⟩
    rw [List.cons_append, sumTokens_cons l e (by simp), List.cons_append, chain_eq_bind,
      opening_numeral e l he]
    show (chain g stop (sumTokens _ (before ++ d :: after) ++ rest)).map _ = _
    rw [hahead, List.flatMap_cons, Location.afterAll_append l e.withPlus]
    rfl

end Chains

/-! ### Trees of sums -/

/-- A tree of sums of numbers, and the total of the numbers modulo 2 ^ 32. -/
inductive Totals : Node → UInt32 → Prop
  | number (n : UInt32) (l : Location) : Totals (.literal (.integer n) l) n
  | sum {left right : Node} {m n : UInt32} (l : Location) (hleft : Totals left m)
      (hright : Totals right n) : Totals (.binary left .plus right l) (m + n)

section Grouping

variable {operand : Node} {links : List Link} {k : UInt32}

lemma SumChain.totals_groupRight (h : SumChain operand links k) :
    Totals (Chain.groupRight operand links) k := by
  induction h with
  | last n l => exact .number n l
  | link n l l' _ ih => exact .sum l' (.number n l) ih

/-- What waits for the chain is added to it: the sums before a number are complete when the number
is read. -/
lemma SumChain.totals_groupTiers (h : SumChain operand links k) {left : Node} {m : UInt32}
    (hleft : Totals left m) (l : Location) :
    Totals (Chain.groupTiers (some ⟨left, .plus, l⟩) operand links) (m + k) := by
  induction h generalizing left m l with
  | last n l' => exact .sum l hleft (.number n l')
  | @link n l' l'' operand links k _ ih =>
    have hsum : Totals (.binary left .plus (.literal (.integer n) l') l) (m + n) :=
      .sum l hleft (.number n l')
    rw [← UInt32.add_assoc]
    exact ih hsum l''

/-- **Every way of grouping a chain of numbers has the same total.** -/
theorem SumChain.totals_group {c : Chain} (h : SumChain c.first c.links k) (precedence : Bool) :
    Totals (c.group precedence) k := by
  cases precedence with
  | false => exact h.totals_groupRight
  | true =>
    obtain ⟨first, links⟩ := c
    cases h with
    | last _ l => exact .number k l
    | link n l l' hlinks => exact hlinks.totals_groupTiers (.number n l) l'

end Grouping

lemma Totals.eval_eq {n : Node} {k : UInt32} (h : Totals n k) (ctx : Context) :
    eval true n ctx = .ok (.integer k, ctx) := by
  induction h generalizing ctx with
  | number n l => rfl
  | sum l _ _ ihl ihr => exact eval_binary_eq_ok.2 ⟨rfl, rfl, _, _, ctx, ihl ctx, ihr ctx, rfl⟩

lemma Totals.infer_eq {n : Node} {k : UInt32} (h : Totals n k) (scope : Scope) :
    infer scope n = ⟨.known .integer, scope, []⟩ := by
  induction h generalizing scope with
  | number n l => rfl
  | sum l _ _ ihl ihr =>
    rw [infer, ihl, ihr]
    rfl

/-! ### Places on the line -/

lemma newline_notMem_charsBefore (x : Label) (before : List Numeral) :
    '\n' ∉ charsBefore x before := by
  have hname : '\n' ∉ x.chars := by
    intro hmem
    have hword := x.word _ hmem
    revert hword
    decide
  have hnumbers : ∀ d ∈ before, '\n' ∉ d.withPlus := by
    intro d _ hmem
    have hdigit : '\n' ∈ d.digits := by simpa [Numeral.withPlus] using hmem
    exact absurd (d.isDigit _ hdigit) (by decide)
  rw [charsBefore, leadChars, List.mem_append, List.mem_flatMap, not_or]
  refine ⟨by simpa using hname, ?_⟩
  rintro ⟨d, hd, hmem⟩
  exact hnumbers d hd hmem

/-! ### From the script to the bindings -/

lemma Chain.group_operand (precedence : Bool) (n : Node) :
    (Chain.mk n []).group precedence = n := by
  cases precedence <;> rfl

/-- Behind the tokens in front of a sum, the parser reads the sum and declares the name as it. -/
lemma expressions_leadTokens (g : Grammar) (stop : Location) (x : Label) (tokens : List Token) :
    expressions g stop (leadTokens x ++ tokens) = chain g stop tokens >>= fun r =>
      (expressions g stop r.2).map fun q =>
        (.declaration x.text none (r.1.group g.precedence) Location.start :: q.1, q.2) := by
  have hopening : opening g stop (leadTokens x ++ tokens)
      = .ok (.header (.declaration x.text none Location.start), tokens) := rfl
  rw [leadTokens, List.cons_append, expressions_eq_bind (by decide), ← List.cons_append,
    ← leadTokens, chain_eq_bind, hopening]
  show (chain g stop tokens).map _ >>= _ = _
  rcases chain g stop tokens with e | r
  · rfl
  · show Except.map _ _ = Except.map _ _
    simp only [Chain.group_operand, Header.close]

lemma parse_sum_eq_ok (g : Grammar) (x : Label) (stop : Location) {ds : List Numeral}
    (hne : ds ≠ []) (hds : ∀ d ∈ ds, d.value < 2 ^ 32) :
    ∃ tree, parse g (scriptTokens x ds stop) = .ok [.declaration x.text none tree Location.start] ∧
      Totals tree (UInt32.ofNat (ds.map Numeral.value).sum) := by
  have hrest : ∀ t ∈ [Token.endAt stop].head?, t.operator? = none := by
    simp [Token.endAt, Token.operator?]
  obtain ⟨c, hchain, hsum⟩ := chain_sum (g := g) hne hds hrest
  refine ⟨c.group g.precedence, parse_eq_ok_iff.2 ⟨[Token.endAt stop], ?_⟩, hsum.totals_group _⟩
  rw [scriptTokens, expressions_leadTokens, hchain]
  show Except.map _ (expressions g _ [Token.endAt stop]) = _
  rw [expressions_of_end (by simp [Token.endAt])]
  rfl

lemma parse_sum_eq_error (g : Grammar) (x : Label) (stop : Location) {before after : List Numeral}
    {d : Numeral} (hbefore : ∀ e ∈ before, e.value < 2 ^ 32) (hd : 2 ^ 32 ≤ d.value) :
    parse g (scriptTokens x (before ++ d :: after) stop) = .error (.invalidInteger
      (d.token ⟨1, 1 + ((charsBefore x before).length : Nat)⟩)) := by
  let tokens := scriptTokens x (before ++ d :: after) stop
  have hplace : (Location.start.afterAll (leadChars x)).afterAll (before.flatMap Numeral.withPlus)
      = ⟨1, 1 + ((charsBefore x before).length : Nat)⟩ := by
    rw [← Location.afterAll_append]
    exact Location.afterAll_of_notMem _ (newline_notMem_charsBefore x before)
  obtain ⟨ahead, hchain⟩ : ∃ ahead, chain g (Parser.lastLocation tokens)
      (sumTokens (Location.start.afterAll (leadChars x)) (before ++ d :: after)
        ++ [Token.endAt stop]) = .error ⟨.invalidInteger (d.token _), ahead⟩ :=
    chain_sum_eq_error _ hbefore hd
  rw [hplace] at hchain
  have hexpressions : expressions g (Parser.lastLocation tokens) tokens = .error ⟨.invalidInteger
      (d.token ⟨1, 1 + ((charsBefore x before).length : Nat)⟩), ahead⟩ := by
    show expressions g _ (leadTokens x ++ _) = _
    rw [expressions_leadTokens, hchain]
    rfl
  rw [parse, run_of_error hexpressions]

/-- **Sums are computed right from text to value.**  A script declares a name as the sum of one or
more decimal numbers of any length.  If all of them fit into 32 bits, then, whatever the settings,
the script compiles to one node without type errors, and with arithmetic its run binds this name and
no other, to the sum of the numbers modulo 2 ^ 32.  Otherwise compiling fails at the first number
that does not fit, and blames its token, at the line and column where its digits begin. -/
theorem compile_written_sum (s : Settings) (x : Label) {ds : List Numeral} (hne : ds ≠ []) :
    ((∀ d ∈ ds, d.value < 2 ^ 32) →
      ∃ p n ctx total, compile s (sumScript x ds) = .ok p ∧ p.nodes = [n] ∧ p.typeErrors = [] ∧
        (Interpreter.mk true s.context p.nodes).run.1 = .ok ctx ∧
        ctx.bindings.entries = [(x.text, .integer total)] ∧
        total.toNat = (ds.map Numeral.value).sum % 2 ^ 32) ∧
    ∀ before d after, ds = before ++ d :: after → (∀ e ∈ before, e.value < 2 ^ 32) →
      2 ^ 32 ≤ d.value →
      ∃ rest tokens, sumScript x ds = Text.ofChars (charsBefore x before ++ d.digits ++ rest) ∧
        compile s (sumScript x ds) = .error ⟨tokens, .parse (.invalidInteger
          (d.token ⟨1, 1 + ((charsBefore x before).length : Nat)⟩))⟩ := by
  obtain ⟨stop, htokens⟩ := tokenize_sumScript x hne
  constructor
  · intro hds
    obtain ⟨tree, hparse, htotals⟩ := parse_sum_eq_ok s.grammar x stop hne hds
    have hcompile := compile_eq_ok_iff.2 ⟨_, _, htokens, hparse, rfl⟩
    let total := UInt32.ofNat (ds.map Numeral.value).sum
    refine ⟨_, _, (Context.ofName s.context).set x.text (.integer total), total, hcompile, rfl, ?_,
      ?_, rfl, UInt32.toNat_ofNat'⟩
    · show check _ [_] = []
      rw [check_eq, inferAll, inferAll, infer, htotals.infer_eq]
      rfl
    · rw [Interpreter.run_eq_ok_iff, evalAll_cons_eq_ok]
      exact ⟨_, _, eval_declaration_eq_ok.2 ⟨_, htotals.eval_eq _, rfl⟩, rfl⟩
  · rintro before d after rfl hbefore hd
    obtain ⟨rest, hrest⟩ := exists_sumChars_eq before d after
    refine ⟨rest, scriptTokens x (before ++ d :: after) stop, ?_, ?_⟩
    · rw [sumScript, hrest, charsBefore]
      simp only [List.append_assoc]
    rw [compile, htokens]
    simp only [parse_sum_eq_error s.grammar x stop hbefore hd]

/-- The name `n_é`. -/
def accentedLabel : Label :=
  ⟨['n', '_', 'é'], by decide,
    by simpa using (by decide : isLetter 'n' = true ∧ isLetter 'é' = true), by decide⟩

/-- The largest number of 32 bits, with a zero in front. -/
def largestWord : Numeral := ⟨"04294967295".toList, by decide, List.all_eq_true.1 (by decide)⟩

/-- The smallest number that does not fit into 32 bits, with zeros in front. -/
def smallestTooLarge : Numeral := ⟨"004294967296".toList, by decide, List.all_eq_true.1 (by decide)⟩

/-- A sum that wraps around, and a sum whose second and third numbers are too large. -/
theorem compile_written_sum_wraps :
    (sumScript accentedLabel [largestWord, largestWord] = "let n_é = 04294967295 + 04294967295" ∧
      ∃ (p : Program) (n : Node) (ctx : Context) (total : UInt32),
        compile {} (sumScript accentedLabel [largestWord, largestWord]) = .ok p ∧
        p.nodes = [n] ∧ p.typeErrors = [] ∧
        (Interpreter.mk true defaultContext p.nodes).run.1 = .ok ctx ∧
        ctx.bindings.entries = ([("n_é", .integer total)] : List (Text × Value)) ∧
        total.toNat = 4294967294) ∧
    ∃ rest tokens,
      sumScript accentedLabel [largestWord, smallestTooLarge, smallestTooLarge]
        = Text.ofChars ("let n_é = 04294967295 + 004294967296".toList ++ rest) ∧
      compile {} (sumScript accentedLabel [largestWord, smallestTooLarge, smallestTooLarge])
        = .error ⟨tokens, .parse (.invalidInteger ⟨.integer, "004294967296", ⟨1, 25⟩⟩)⟩ := by
  have hlargest : largestWord.value < 2 ^ 32 := by decide +kernel
  have htooLarge : 2 ^ 32 ≤ smallestTooLarge.value := by decide +kernel
  have htotal : [largestWord, largestWord].map Numeral.value = [4294967295, 4294967295] := by
    decide +kernel
  obtain ⟨p, n, ctx, total, hcompile, hnodes, herrors, hrun, hentries, hsum⟩ :=
    (compile_written_sum {} accentedLabel (show [largestWord, largestWord] ≠ [] by simp)).1
      (by simpa using hlargest)
  rw [htotal] at hsum
  refine ⟨⟨by decide +kernel, p, n, ctx, total, hcompile, hnodes, herrors, hrun, hentries, hsum⟩,
    ?_⟩
  obtain ⟨rest, tokens, htext, hfails⟩ := (compile_written_sum {} accentedLabel
    (show [largestWord, smallestTooLarge, smallestTooLarge] ≠ [] by simp)).2 [largestWord]
    smallestTooLarge [smallestTooLarge] rfl (by simpa using hlargest) htooLarge
  have hchars : charsBefore accentedLabel [largestWord] ++ smallestTooLarge.digits
      = "let n_é = 04294967295 + 004294967296".toList := by decide +kernel
  have htoken : smallestTooLarge.token
      ⟨1, 1 + ((charsBefore accentedLabel [largestWord]).length : Nat)⟩
      = ⟨.integer, "004294967296", ⟨1, 25⟩⟩ := by decide +kernel
  rw [hchars] at htext
  rw [htoken] at hfails
  exact ⟨rest, tokens, htext, hfails⟩

end LetScript
