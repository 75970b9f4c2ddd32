import LetScript.Text.Basic
import LetScript.Text.Utf8
import LetScript.Text.CharRange
import LetScript.Text.Letter
import LetScript.Text.Printable
import LetScript.Text.Blank
import LetScript.Text.Quoted
import LetScript.Location
import LetScript.Cursor
import LetScript.Token.Basic
import LetScript.Token.Lexer
import LetScript.Text.Decimal
import LetScript.Node.Basic
import LetScript.Node.Outline
import LetScript.Node.Parser
import LetScript.Bindings
import LetScript.Typing.Basic
import LetScript.Typing.Checker
import LetScript.Value
import LetScript.Context
import LetScript.Interpreter
import LetScript.Diagnostic
import LetScript.Directive
import LetScript.Llvm.Basic
import LetScript.Llvm.Printer
import LetScript.Llvm.Lowering
import LetScript.Settings.Basic
import LetScript.Program
import LetScript.Yaml.Source
import LetScript.Yaml.Scalar
import LetScript.Yaml.Token
import LetScript.Yaml.Number
import LetScript.Yaml.Tag
import LetScript.Yaml.Document
import LetScript.Settings.Yaml
import LetScript.Cli.Files
import LetScript.Cli.Flags
import LetScript.Cli.Help
import LetScript.Cli.Invocation
import LetScript.Cli.Report
import LetScript.Cli.Session
import LetScript.Main
import LetScript.Proofs.Bindings
import LetScript.Proofs.Llvm.Constant
import LetScript.Proofs.Llvm.Machine
import LetScript.Proofs.Arithmetic
import LetScript.Proofs.Llvm.Simulation
import LetScript.Proofs.Llvm.Meaning
import LetScript.Proofs.Llvm.Agreement
import LetScript.Proofs.Interpreter
import LetScript.Proofs.Walk
import LetScript.Proofs.Typing.Preservation
import LetScript.Proofs.Typing.Unbound
import LetScript.Proofs.Node.Derivation
import LetScript.Proofs.Node.Precedence
import LetScript.Proofs.Node.Regrouping
import LetScript.Proofs.Sums
import LetScript.Proofs.Token.Tiling
import LetScript.Proofs.Typing.Regrouping
import LetScript.Proofs.Token.Places
import LetScript.Proofs.Text.Fields
import LetScript.Proofs.Text.Lines
import LetScript.Proofs.Text.Quoted
import LetScript.Proofs.Typing.Order
import LetScript.Proofs.Directive
import LetScript.Proofs.Typing.Rules
import LetScript.Proofs.Node.Phases
import LetScript.Proofs.Diagnostic
import LetScript.Proofs.Relocation
import LetScript.Proofs.Llvm.WellFormed
import LetScript.Proofs.Text.Utf8
import LetScript.Proofs.Token.Spelling
import LetScript.Proofs.Token.Faults
import LetScript.Proofs.Llvm.Output
import LetScript.Proofs.Token.Resuming
import LetScript.Proofs.Comments
import LetScript.Proofs.Typing.Names
import LetScript.Proofs.Typing.Symbols
import LetScript.Proofs.Node.Assignments
import LetScript.Proofs.Independence
import LetScript.Proofs.Totals
import LetScript.Proofs.Node.Outline
import LetScript.Proofs.Cursor
import LetScript.Proofs.Context
import LetScript.Proofs.Cli.Report
import LetScript.Proofs.Llvm.Lowering
