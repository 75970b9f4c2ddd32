import LetScript.Proofs.Relocation
import LetScript.Proofs.Token.Resuming

/-!
# Comments have no influence

Two scripts that differ only in the text of a comment have the same tokens at the same places, or
the same fault, and so they are compiled alike, whatever the settings.  The text of the comment may
hold quotes, further `#` signs and bytes that are part of no character.

A comment is recognised where the scanner comes to a `#` in the first column.  That it does so
behind lines that can be read alone is `scan_append_lines`: at the end of such lines nothing is left
open.  How long the comment is does not matter behind its newline, which sets the column back
(`scan_commentLine`).
-/

namespace LetScript

section Scanner

variable {l : Location} {c : Char} {cs rest : List Char}

/-! ### Lines that can be read alone -/

/-- Behind lines that can be read alone, the scanner is in the first column and has nothing left to
finish. -/
lemma scan_append_lines (hl : l.column = 1) (h : (scan l cs).error = none)
    (hlines : cs = [] ∨ ∃ cs', cs = cs' ++ ['\n']) :
    (l.afterAll cs).column = 1 ∧ ∃ lexemes, ∀ ds, scan l (cs ++ ds)
      = { scan (l.afterAll cs) ds with tokens := lexemes ++ (scan (l.afterAll cs) ds).tokens } := by
  rcases hlines with rfl | ⟨cs, rfl⟩
  · exact ⟨hl, [], fun ds => rfl⟩
  · obtain ⟨lexemes, -, happend⟩ := scan_append_newline (scan_of_append_newline h)
    have hplace : l.afterAll (cs ++ ['\n']) = (l.afterAll cs).after '\n' :=
      Location.afterAll_append l cs ['\n']
    rw [hplace]
    refine ⟨rfl, lexemes, fun ds => ?_⟩
    rw [List.append_assoc, List.singleton_append]
    exact happend ds

/-! ### The line of a comment -/

/-- Behind a comment the scanner is at the beginning of the next line. -/
lemma scan_commentLine (hl : l.column = 1) {body : List Char} (hbody : '\n' ∉ body)
    (ds : List Char) : scan l ('#' :: body ++ '\n' :: ds) = scan ⟨l.line + 1, 1⟩ ds := by
  have hinside : ∀ c ∈ body, decide (c ≠ '\n') = true := by
    intro c hc
    exact decide_eq_true fun hnewline => hbody (hnewline ▸ hc)
  have hstop : ∀ c ∈ ('\n' :: ds).head?, decide (c ≠ '\n') = false := by simp
  obtain ⟨htake, hdrop⟩ := takeWhile_append_of_head hinside hstop
  have hline : (l.afterAll ('#' :: body)).line = l.line := by
    rw [l.afterAll_of_notMem (by simpa using hbody)]
  rw [List.cons_append, scan_comment ⟨rfl, hl⟩, htake, hdrop, scan_blank (by simp) (by decide),
    Location.after, if_pos rfl, hline]

end Scanner

/-! ### Scripts with a comment -/

lemma Text.chars_cons_hash (bytes : List UInt8) :
    Text.chars ⟨35 :: bytes⟩ = '#' :: Text.chars ⟨bytes⟩ := by
  have hpieces : piecesFrom 0 (35 :: bytes) = .char '#' :: piecesFrom 0 bytes :=
    piecesFrom_char '#' bytes
  simp only [chars, pieces, hpieces, List.map_cons]
  rfl

/-- The characters of a script with a comment on a line of its own. -/
lemma chars_commented {before : Text} (hlines : before = ∅ ∨ ∃ lines : Text, before = lines ++ "\n")
    (comment after : Text) : (before ++ "#" ++ comment ++ "\n" ++ after).chars
      = before.chars ++ ('#' :: comment.chars ++ '\n' :: after.chars) := by
  have hbytes : before ++ "#" ++ comment ++ "\n" ++ after
      = ⟨before.bytes ++ (35 :: comment.bytes ++ 10 :: after.bytes)⟩ := by
    have hhash : (Text.ofString "#").bytes = [35] := rfl
    have hnewline : (Text.ofString "\n").bytes = [10] := rfl
    show Text.mk _ = Text.mk _
    simp [hhash, hnewline]
  have hbegins : before.bytes = [] ∨ ∃ bytes, before.bytes = bytes ++ [10] := by
    rcases hlines with rfl | ⟨lines, rfl⟩
    · exact .inl rfl
    · exact .inr ⟨lines.bytes, rfl⟩
  rw [hbytes, Text.chars_append_of_begins hbegins, Text.chars_append_newline,
    Text.chars_cons_hash]

/-- The scan of a script does not depend on the text of a comment behind lines that can be read. -/
lemma scan_commented {before : Text} {tokens : List Token} (hbefore : tokenize before = .ok tokens)
    (hlines : before = ∅ ∨ ∃ lines : Text, before = lines ++ "\n") {comment comment' : Text}
    (hcomment : 10 ∉ comment.bytes) (hcomment' : 10 ∉ comment'.bytes) (after : Text) :
    scan Location.start (before ++ "#" ++ comment ++ "\n" ++ after).chars
      = scan Location.start (before ++ "#" ++ comment' ++ "\n" ++ after).chars := by
  have hchars : before.chars = [] ∨ ∃ cs, before.chars = cs ++ ['\n'] := by
    rcases hlines with rfl | ⟨lines, rfl⟩
    · exact .inl rfl
    · exact .inr ⟨lines.chars, Text.chars_append_newline lines.bytes []⟩
  obtain ⟨hcolumn, lexemes, happend⟩ :=
    scan_append_lines rfl (tokenize_eq_ok_iff.1 hbefore).1 hchars
  rw [chars_commented hlines, chars_commented hlines, happend, happend,
    scan_commentLine hcolumn (Text.newline_notMem_chars hcomment),
    scan_commentLine hcolumn (Text.newline_notMem_chars hcomment')]

/-- What a program is compiled to, apart from the script itself. -/
def Program.reading (p : Program) : List Token × List Node × List TypeError :=
  (p.tokens, p.nodes, p.typeErrors)

/-- What a script is compiled to depends on its tokens only. -/
lemma compile_congr {script script' : Text} (h : tokenize script = tokenize script')
    (s : Settings) :
    (compile s script).map Program.reading = (compile s script').map Program.reading := by
  rw [compile, compile, h]
  rcases tokenize script' with e | tokens
  · rfl
  · rcases hnodes : parse s.grammar tokens with e | nodes <;>
      simp [hnodes, Except.map, Program.reading]

/-- **Comments have no influence.**  Let some lines be readable alone, and let a comment, on a line
of its own, and any text stand behind them.  Whatever bytes the comment has, the lexer runs as it
does if the comment is empty: with the same tokens at the same places or the same error, and it is
left in front of the same characters, at the same place and with the same tokens.  Its cursor has
handed out the characters of the comment in addition.  So with all settings the two scripts are
compiled to the same expressions and type errors, or rejected with the same error. -/
theorem run_compile_commented {before : Text} {tokens : List Token}
    (hbefore : tokenize before = .ok tokens)
    (hlines : before = ∅ ∨ ∃ lines : Text, before = lines ++ "\n")
    {comment : Text} (hcomment : 10 ∉ comment.bytes) (after : Text) :
    let r := (Lexer.ofText (before ++ "#" ++ comment ++ "\n" ++ after)).run
    let r' := (Lexer.ofText (before ++ "#" ++ "\n" ++ after)).run
    (r.1 = r'.1 ∧ r.2.rest = r'.2.rest ∧ r.2.location = r'.2.location ∧
        r.2.tokens = r'.2.tokens ∧
        r.2.cursor.index = r'.2.cursor.index + comment.chars.length) ∧
      ∀ s, (compile s (before ++ "#" ++ comment ++ "\n" ++ after)).map Program.reading
        = (compile s (before ++ "#" ++ "\n" ++ after)).map Program.reading := by
  have hempty : before ++ "#" ++ ∅ = before ++ "#" :=
    congrArg Text.mk (List.append_nil (before ++ "#" : Text).bytes)
  have hscan : scan Location.start (before ++ "#" ++ comment ++ "\n" ++ after).chars
      = scan Location.start (before ++ "#" ++ "\n" ++ after).chars := by
    have hnone : (10 : UInt8) ∉ (∅ : Text).bytes := List.not_mem_nil
    rw [scan_commented hbefore hlines hcomment hnone, hempty]
  have htokenize : tokenize (before ++ "#" ++ comment ++ "\n" ++ after)
      = tokenize (before ++ "#" ++ "\n" ++ after) := by
    rw [tokenize_eq, tokenize_eq, hscan]
  have hlength : (before ++ "#" ++ comment ++ "\n" ++ after).chars.length
      = (before ++ "#" ++ "\n" ++ after).chars.length + comment.chars.length := by
    have hchars := chars_commented hlines ∅ after
    rw [hempty] at hchars
    rw [hchars, chars_commented hlines comment after]
    simp only [List.length_append, List.length_cons, show (∅ : Text).chars = [] from rfl,
      List.length_nil]
    omega
  have hle := length_rest_scan_le Location.start (before ++ "#" ++ "\n" ++ after).chars
  refine ⟨⟨htokenize, congrArg Scan.rest hscan, congrArg Scan.location hscan,
    congrArg Scan.tokens hscan, ?_⟩, compile_congr htokenize⟩
  rw [index_run_ofText, index_run_ofText, hscan, hlength]
  omega

/-- A comment of a quote, a `#` and the first byte of a character that is cut off. -/
def brokenComment : Text := ⟨[34, 35, 0xC3]⟩

/-- The quote in the comment opens no string, and the newline behind the broken character is read as
one. -/
theorem run_compile_commented_broken :
    (∃ tokens, tokenize "let a = 1\n" = .ok tokens) ∧ (10 : UInt8) ∉ brokenComment.bytes ∧
      (compile {} ("let a = 1\n" ++ "#" ++ brokenComment ++ "\n" ++ "let b: String = 2")).map
          Program.reading
        = (compile {} ("let a = 1\n" ++ "#" ++ "\n" ++ "let b: String = 2")).map Program.reading ∧
      (compile {} ("let a = 1\n" ++ "#" ++ "\n" ++ "let b: String = 2")).toOption.map
          Program.typeErrors
        = some [.mismatched ⟨3, 17⟩ "String" "Integer"] := by
  have hlines : ∃ tokens, tokenize "let a = 1\n" = .ok tokens := by
    have hsome : (tokenize "let a = 1\n").toOption.isSome = true := by decide +kernel
    revert hsome
    cases tokenize "let a = 1\n" <;> simp [Except.toOption]
  have hcomment : (10 : UInt8) ∉ brokenComment.bytes := by decide
  obtain ⟨tokens, htokens⟩ := hlines
  obtain ⟨-, hcompile⟩ :=
    run_compile_commented htokens (.inr ⟨"let a = 1", rfl⟩) hcomment "let b: String = 2"
  exact ⟨⟨tokens, htokens⟩, hcomment, hcompile {}, by decide +kernel⟩

end LetScript
