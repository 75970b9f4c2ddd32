import LetScript.Text.Blank

/-!
# Directives

A script can say what it expects of the type checker, on lines that begin with `##`: the keyword
`Typechecker:` and then `Pass` or `Fail`.  Other lines of this form are warned about.
-/

namespace LetScript

/-- What a script expects of the type checker. -/
inductive Requirement where
  /-- That it finds no error. -/
  | pass
  /-- That it finds one. -/
  | fail
deriving DecidableEq

namespace Requirement

/-- How a requirement is shown. -/
def text : Requirement → Text
  | pass => "Typechecker: Pass"
  | fail => "Typechecker: Fail"

/-- Whether a script with so many type errors meets the requirement. -/
def isMet (errors : Nat) : Requirement → Bool
  | pass => errors == 0
  | fail => errors != 0

end Requirement

/-- What a line of a script says to the type checker. -/
inductive Directive where
  /-- What is expected. -/
  | requirement (r : Requirement)
  /-- Why the line says nothing that is understood. -/
  | warning (message : Text)
deriving DecidableEq

namespace Directive

/-- The directive made of the words behind `##`; no words make none. -/
def ofWords? : List Text → Option Directive
  | [] => none
  | keyword :: args =>
    if keyword ≠ ("Typechecker:" : Text) then
      some (.warning ("unknown requirement \x60" ++ keyword ++ "\x60"))
    else
      match args with
      | [] => some (.warning "missing typechecker status")
      | status :: _ =>
        if status = ("Pass" : Text) then some (.requirement .pass)
        else if status = ("Fail" : Text) then some (.requirement .fail)
        else some (.warning ("unknown typechecker status \x60" ++ status ++ "\x60"))

/-- The directive on a line, if it has one. -/
def ofLine? (line : Text) : Option Directive :=
  (line.dropStart? "##").bind fun rest => ofWords? rest.words

/-- The directives of a script, in order. -/
def ofScript (script : Text) : List Directive := script.lines.filterMap ofLine?

/-- The requirements among some directives. -/
def requirements (as : List Directive) : List Requirement :=
  as.filterMap fun
    | .requirement r => some r
    | .warning _ => none

/-- The warnings among some directives. -/
def warnings (as : List Directive) : List Text :=
  as.filterMap fun
    | .warning m => some m
    | .requirement _ => none

end Directive

/-- The judgement on the directives of a script. -/
structure Verdict where
  /-- Each requirement, and whether it is met. -/
  results : List (Requirement × Bool)
  /-- The warnings. -/
  warnings : List Text
deriving DecidableEq

/-- Judge the directives of a script that has so many type errors. -/
def Verdict.of (script : Text) (errors : Nat) : Verdict :=
  let as := Directive.ofScript script
  ⟨(Directive.requirements as).map fun r => (r, r.isMet errors), Directive.warnings as⟩

end LetScript
