import Reckoner.Main
import Reckoner.Session
import Reckoner.Proofs.Grammar
import Reckoner.Proofs.Grammar.Reading
import Reckoner.Proofs.Grammar.Place
import Reckoner.Proofs.Parsing
import Reckoner.Proofs.FirstFault
import Reckoner.Proofs.Evaluation
import Reckoner.Proofs.Calls
import Reckoner.Proofs.ExactIntegers
import Reckoner.Proofs.CallOrder
import Reckoner.Proofs.IntegerClosure
import Reckoner.Proofs.Inlining
import Reckoner.Proofs.Resolution
import Reckoner.Proofs.Substitution
import Reckoner.Proofs.Doubles
import Reckoner.Proofs.FaultClosure
import Reckoner.Proofs.Numerals
import Reckoner.Proofs.Lexing
import Reckoner.Proofs.Spelling
import Reckoner.Proofs.WrittenIntegers
import Reckoner.Proofs.Printing
import Reckoner.Proofs.Documents
import Reckoner.Proofs.Documents.Markers
import Reckoner.Proofs.LongIntegers
import Reckoner.Proofs.SharedText.Tape
import Reckoner.Proofs.SharedText
import Reckoner.Proofs.Acceptance
import Reckoner.Proofs.Activations
import Reckoner.Proofs.CallDepth
import Reckoner.Proofs.FailureLog
import Reckoner.Proofs.Utf8
import Reckoner.Proofs.Documents.Limit
import Reckoner.Proofs.ConfigLoading
import Reckoner.Proofs.ConfigName
import Reckoner.Proofs.EvalCommand
import Reckoner.Proofs.Segmentation
import Reckoner.Proofs.Concatenation
import Reckoner.Proofs.ForeignCharacters
import Reckoner.Proofs.Normalization
import Reckoner.Proofs.CanonicalNumerals
import Reckoner.Proofs.Parts
import Reckoner.Proofs.FaultOrigin
import Reckoner.Proofs.Documents.Lexemes
import Reckoner.Proofs.Documents.Reading
import Reckoner.Proofs.Documents.Expressions
import Reckoner.Proofs.Tags
import Reckoner.Proofs.Outlines
import Reckoner.Proofs.OneLine
import Reckoner.Proofs.Listing
import Reckoner.Proofs.DefaultEntries
import Reckoner.Proofs.Division
