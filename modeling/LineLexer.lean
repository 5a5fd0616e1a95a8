import LineLexer.Text.Basic
import LineLexer.Unicode.CodeRanges
import LineLexer.Unicode.Category
import LineLexer.Unicode.Script
import LineLexer.Unicode.Property
import LineLexer.Unicode.CaseMap
import LineLexer.Text.Casing
import LineLexer.Text.Quoted
import LineLexer.Json.Reader
import LineLexer.Regex.Basic
import LineLexer.Grammar.Pattern
import LineLexer.Grammar.Basic
import LineLexer.Grammar.Compile
import LineLexer.State.Cache
import LineLexer.Token.Runs
import LineLexer.Token.Encoded
import LineLexer.Registry
import LineLexer.Characters
import LineLexer.CommandLine.Basic
import LineLexer.Main
import LineLexer.Tokenizer.Fault
import LineLexer.Tokenizer.Effect
import LineLexer.Tokenizer.Scan
import LineLexer.Proofs.Actions
import LineLexer.Proofs.Scanning
import LineLexer.Proofs.Step
import LineLexer.Proofs.Guards
import LineLexer.Proofs.Halting
import LineLexer.Proofs.Work
import LineLexer.Proofs.Tiling
import LineLexer.Proofs.Agreement
import LineLexer.Proofs.Incremental
import LineLexer.Proofs.Stops
import LineLexer.Proofs.Boundary
import LineLexer.Proofs.Revisit
import LineLexer.Proofs.FirstMatch
import LineLexer.Proofs.Groups
import LineLexer.Proofs.Captures
import LineLexer.Proofs.Exit
import LineLexer.Proofs.Consuming
import LineLexer.Proofs.Descent
import LineLexer.Proofs.Delegation
import LineLexer.Proofs.Reachable
import LineLexer.Proofs.Declared
import LineLexer.Proofs.Targets
import LineLexer.Proofs.Anchoring
import LineLexer.Proofs.LineStart
import LineLexer.Proofs.Interning
import LineLexer.Proofs.Notes
import LineLexer.Proofs.Expansion
import LineLexer.Proofs.Includes
import LineLexer.Proofs.Tolerance
import LineLexer.Proofs.Behind
import LineLexer.Proofs.Enclosing
import LineLexer.Proofs.Spans
import LineLexer.Proofs.Wrapping
import LineLexer.Proofs.Coalescing
import LineLexer.Proofs.Coupling
import LineLexer.Proofs.CoupledLines
import LineLexer.Proofs.Extension
import LineLexer.Proofs.Standstill
import LineLexer.Proofs.RestOfLine
import LineLexer.Proofs.Locality
import LineLexer.Proofs.LetterCase
import LineLexer.Proofs.CaseBlind
import LineLexer.Proofs.LineFeed
import LineLexer.Proofs.Shifting
import LineLexer.Proofs.Places
import LineLexer.Proofs.Directives
import LineLexer.Proofs.NoExit
import LineLexer.Proofs.Templates
import LineLexer.Proofs.Splicing
import LineLexer.Proofs.Unguarded
import LineLexer.Proofs.StateNames
import LineLexer.Proofs.Lowercase
import LineLexer.Proofs.Keys
import LineLexer.Proofs.Comparisons
import LineLexer.Proofs.Ranges
import LineLexer.Proofs.Choices
import LineLexer.Proofs.Finding
import LineLexer.Proofs.Escapes
import LineLexer.Proofs.WordLists
import LineLexer.Proofs.Negation
import LineLexer.Proofs.LiteralTexts
import LineLexer.Proofs.BracketSides
import LineLexer.Proofs.EmbeddingFlag
import LineLexer.Proofs.Caches
import LineLexer.Proofs.Equality
import LineLexer.Proofs.Lineage
import LineLexer.Proofs.LabelChanges
import LineLexer.Proofs.Rewinding
import LineLexer.Proofs.Markup
import LineLexer.Proofs.ByteOrder
import LineLexer.Proofs.Registrations
import LineLexer.Proofs.LineEnds
