import PathTemplate.Builder
import PathTemplate.Cache
import PathTemplate.Error
import PathTemplate.Options
import PathTemplate.Options.Settings
import PathTemplate.Outcome
import PathTemplate.Proofs.Anew
import PathTemplate.Proofs.Assembly
import PathTemplate.Proofs.Binding
import PathTemplate.Proofs.Bundles
import PathTemplate.Proofs.Canonical
import PathTemplate.Proofs.Captures
import PathTemplate.Proofs.Compiling
import PathTemplate.Proofs.Containment
import PathTemplate.Proofs.Contents
import PathTemplate.Proofs.Coverage
import PathTemplate.Proofs.Doubling
import PathTemplate.Proofs.Extraction
import PathTemplate.Proofs.Faults
import PathTemplate.Proofs.Filling
import PathTemplate.Proofs.Fragments
import PathTemplate.Proofs.Groups
import PathTemplate.Proofs.Histories
import PathTemplate.Proofs.Junction
import PathTemplate.Proofs.Keys
import PathTemplate.Proofs.Language
import PathTemplate.Proofs.Layout
import PathTemplate.Proofs.Lexing
import PathTemplate.Proofs.Loosening
import PathTemplate.Proofs.Matching
import PathTemplate.Proofs.Meaning
import PathTemplate.Proofs.Memo
import PathTemplate.Proofs.Mirror
import PathTemplate.Proofs.Offsets
import PathTemplate.Proofs.Openings
import PathTemplate.Proofs.Participation
import PathTemplate.Proofs.Pieces
import PathTemplate.Proofs.Reading
import PathTemplate.Proofs.Renumbering
import PathTemplate.Proofs.Retention
import PathTemplate.Proofs.RoundTrip
import PathTemplate.Proofs.Routes
import PathTemplate.Proofs.Search
import PathTemplate.Proofs.Sessions
import PathTemplate.Proofs.Spelling
import PathTemplate.Proofs.Steady
import PathTemplate.Proofs.Strides
import PathTemplate.Proofs.Tolerance
import PathTemplate.Proofs.Usable
import PathTemplate.Proofs.Walk
import PathTemplate.Proofs.Words
import PathTemplate.Regex
import PathTemplate.Regex.CharSet
import PathTemplate.Regex.Encoding
import PathTemplate.Regex.Escape
import PathTemplate.Regex.Expr
import PathTemplate.Regex.Factoring
import PathTemplate.Regex.Grouping
import PathTemplate.Regex.Lexeme
import PathTemplate.Regex.Matching
import PathTemplate.Regex.Meaning
import PathTemplate.Regex.Program
import PathTemplate.Regex.Ranges
import PathTemplate.Regex.Reader
import PathTemplate.Regex.Reader.Bracket
import PathTemplate.Regex.Reader.Escape
import PathTemplate.Regex.Reader.Group
import PathTemplate.Regex.Search
import PathTemplate.Regex.Tree
import PathTemplate.Regex.Weight
import PathTemplate.Session
import PathTemplate.Settings.Document
import PathTemplate.Settings.Text
import PathTemplate.Shape
import PathTemplate.Source
import PathTemplate.Text.Hex
import PathTemplate.Text.Json
import PathTemplate.Text.Quoted
import PathTemplate.Token
import PathTemplate.Token.Lexer
import PathTemplate.Unicode.Age
import PathTemplate.Unicode.CaseFold
import PathTemplate.Unicode.Category
import PathTemplate.Unicode.Property
import PathTemplate.Unicode.RangeSet
import PathTemplate.Unicode.Recent
import PathTemplate.Unicode.Script
import PathTemplate.Unicode.Segmentation
import PathTemplate.Unicode.Trait
import PathTemplate.Values
