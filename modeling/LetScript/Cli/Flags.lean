import LetScript.Text.Quoted

/-!
# Flags

A command line begins with flags.  A flag is a name behind one or two dashes; its value stands
behind an equals sign or, for a flag that needs one, in the next argument.  The first argument
that is no flag ends the flags, and so does `--`, which is dropped.
-/

namespace LetScript.Cli

/-- The flags of the program and of its commands. -/
inductive Flag where
  | config
  | verbose
  | precedence
  | assignments
  | symbols
  | arithmetic
  | gate
  | help
  | version
deriving DecidableEq

namespace Flag

/-- The flags that stand before the command. -/
def ofApp : List Flag :=
  [config, verbose, precedence, assignments, symbols, arithmetic, gate, help, version]

/-- The flags that stand behind the name of a command. -/
def ofCommand : List Flag := [help]

/-- The long name of a flag. -/
def name : Flag → Text
  | config => "config"
  | verbose => "verbose"
  | precedence => "precedence"
  | assignments => "assignments"
  | symbols => "symbols"
  | arithmetic => "arithmetic"
  | gate => "gate"
  | help => "help"
  | version => "version"

/-- The short name of a flag, if it has one. -/
def short? : Flag → Option Text
  | config => some "c"
  | help => some "h"
  | version => some "v"
  | _ => none

/-- Both names of a flag, the long one first. -/
def names (f : Flag) : List Text := f.name :: f.short?.toList

/-- Whether a flag needs a value; the others are switches. -/
def needsValue (f : Flag) : Bool := f = config

/-- The flag with a given name among some flags. -/
def ofName? (known : List Flag) (n : Text) : Option Flag := known.find? fun f => f.names.contains n

end Flag

/-! ## Arguments -/

/-- What an argument is among flags. -/
inductive Argument where
  /-- No flag. -/
  | plain
  /-- The end of the flags, to be dropped. -/
  | terminator
  /-- A flag without a name. -/
  | malformed
  /-- A flag, with what stands behind its equals sign. -/
  | flag (name : Text) (value? : Option Text)
deriving DecidableEq

namespace Argument

/-- The byte that begins a flag. -/
def dash : UInt8 := 0x2D

/-- The byte between a flag and its value. -/
def equals : UInt8 := 0x3D

/-- The flag that stands behind the dashes.  An equals sign cannot come first. -/
def named : List UInt8 → Argument
  | [] => malformed
  | b :: rest =>
    if b = dash ∨ b = equals then malformed
    else
      let value? :=
        match rest.dropWhile (· ≠ equals) with
        | [] => none
        | _ :: value => some ⟨value⟩
      flag ⟨b :: rest.takeWhile (· ≠ equals)⟩ value?

/-- What an argument is. -/
def ofText (arg : Text) : Argument :=
  match arg.bytes with
  | a :: b :: rest =>
    if a ≠ dash then plain
    else if b ≠ dash then named (b :: rest)
    else if rest.isEmpty then terminator
    else named rest
  | _ => plain

end Argument

/-! ## Reading -/

/-- Why flags could not be read. -/
inductive FlagError where
  /-- An argument that begins like a flag has no name. -/
  | malformed (argument : Text)
  /-- There is no flag of that name. -/
  | unknown (name : Text)
  /-- A flag that needs a value is the last argument. -/
  | needsValue (name : Text)
  /-- The value of a switch is no truth value. -/
  | notBoolean (name value : Text)
  /-- A flag is given by both of its names. -/
  | twoForms (short name : Text)
deriving DecidableEq

/-- The full wording. -/
def FlagError.text : FlagError → Text
  | malformed argument => "bad flag syntax: " ++ argument
  | unknown name => "flag provided but not defined: -" ++ name
  | needsValue name => "flag needs an argument: -" ++ name
  | notBoolean name value =>
    "invalid boolean value " ++ value.quoted ++ " for -" ++ name ++ ": parse error"
  | twoForms short name => "Cannot use two forms of the same flag: " ++ short ++ " " ++ name

/-- The truth value with a given spelling. -/
def truthValue? (t : Text) : Option Bool :=
  if (["1", "t", "T", "TRUE", "true", "True"] : List Text).contains t then some true
  else if (["0", "f", "F", "FALSE", "false", "False"] : List Text).contains t then some false
  else none

/-- The value of a flag. -/
inductive FlagValue where
  | switch (on : Bool)
  | text (value : Text)
deriving DecidableEq

/-- One flag on a command line. -/
structure Setting where
  /-- The flag. -/
  flag : Flag
  /-- The name by which it is given. -/
  form : Text
  /-- Its value. -/
  value : FlagValue
deriving DecidableEq

/-- Put a flag before those that were read behind it. -/
def Setting.before (s : Setting) :
    Except FlagError (List Setting × List Text) → Except FlagError (List Setting × List Text)
  | .ok (settings, args) => .ok (s :: settings, args)
  | .error e => .error e

theorem Setting.exists_of_before_eq_ok {s : Setting} {settings : List Setting} {args : List Text}
    {r : Except FlagError (List Setting × List Text)} (h : s.before r = .ok (settings, args)) :
    ∃ later, r = .ok (later, args) ∧ settings = s :: later := by
  rcases r with e | ⟨later, rest⟩
  · simp [before] at h
  · simp only [before, Except.ok.injEq, Prod.mk.injEq] at h
    exact ⟨later, by simp [h.2], h.1.symm⟩

/-- Read the flags at the beginning of some arguments, and the arguments that follow. -/
def readSettings (known : List Flag) : List Text → Except FlagError (List Setting × List Text)
  | [] => .ok ([], [])
  | arg :: rest =>
    match Argument.ofText arg with
    | .plain => .ok ([], arg :: rest)
    | .terminator => .ok ([], rest)
    | .malformed => .error (.malformed arg)
    | .flag name value? =>
      match Flag.ofName? known name with
      | none => .error (.unknown name)
      | some f =>
        if f.needsValue then
          match value? with
          | some value => Setting.before ⟨f, name, .text value⟩ (readSettings known rest)
          | none =>
            match rest with
            | [] => .error (.needsValue name)
            | value :: rest => Setting.before ⟨f, name, .text value⟩ (readSettings known rest)
        else
          match value? with
          | none => Setting.before ⟨f, name, .switch true⟩ (readSettings known rest)
          | some value =>
            match truthValue? value with
            | some on => Setting.before ⟨f, name, .switch on⟩ (readSettings known rest)
            | none => .error (.notBoolean name value)

/-- Reading flags makes no arguments. -/
theorem length_readSettings_le {known : List Flag} {args rest : List Text}
    {settings : List Setting} (h : readSettings known args = .ok (settings, rest)) :
    rest.length ≤ args.length := by
  fun_induction readSettings known args generalizing settings rest <;>
    grind [Setting.exists_of_before_eq_ok]

/-- The flags at the beginning of a command line, and the arguments that follow. -/
structure Flags where
  /-- The flags, first to last. -/
  settings : List Setting
  /-- The arguments behind them. -/
  args : List Text
deriving DecidableEq

namespace Flags

/-- Whether a flag is given by a certain name. -/
def uses (settings : List Setting) (form : Text) : Bool := settings.any (·.form = form)

/-- The error of a flag that is given by both of its names. -/
def twoForms? (settings : List Setting) (f : Flag) : Option FlagError :=
  f.short?.bind fun short =>
    if uses settings f.name && uses settings short then some (.twoForms short f.name) else none

/-- Read the flags at the beginning of a command line. -/
def ofArgs (known : List Flag) (args : List Text) : Except FlagError Flags :=
  match readSettings known args with
  | .error e => .error e
  | .ok (settings, args) =>
    match known.findSome? (twoForms? settings) with
    | some e => .error e
    | none => .ok ⟨settings, args⟩

theorem length_args_le {known : List Flag} {args : List Text} {fs : Flags}
    (h : ofArgs known args = .ok fs) : fs.args.length ≤ args.length := by
  unfold ofArgs at h
  split at h
  · simp at h
  · rename_i settings rest hread
    split at h
    · simp at h
    · simp only [Except.ok.injEq] at h
      subst h
      exact length_readSettings_le hread

/-- The value of a flag: of several, the last one. -/
def value? (fs : Flags) (f : Flag) : Option FlagValue :=
  (fs.settings.reverse.find? (·.flag = f)).map Setting.value

/-- Whether a switch is on. -/
def isOn (fs : Flags) (f : Flag) : Bool := fs.value? f = some (.switch true)

/-- The text given for a flag, or the empty text. -/
def textOf (fs : Flags) (f : Flag) : Text :=
  match fs.value? f with
  | some (.text t) => t
  | _ => ∅

end Flags

end LetScript.Cli
