import Abacus.Grammar
import Abacus.Main
import Abacus.Postfix
import Abacus.Proofs.Fallible
import Abacus.Proofs.TwoPass
import Abacus.Proofs.Sentence
import Abacus.Proofs.Acceptance
import Abacus.Proofs.Layout
import Abacus.Proofs.ResultText
import Abacus.Proofs.Finiteness
import Abacus.Proofs.Screens
import Abacus.Proofs.Requests
import Abacus.Proofs.Batches
import Abacus.Proofs.Isolation
import Abacus.Proofs.Answers
import Abacus.Proofs.Brackets
import Abacus.Proofs.Continuation
import Abacus.Proofs.Surfaces
import Abacus.Proofs.Accounting
import Abacus.Proofs.Blanks
import Abacus.Proofs.Relocation
import Abacus.Proofs.Lockstep
import Abacus.Proofs.Freshness
import Abacus.Proofs.Magnitudes
import Abacus.Proofs.Readings
import Abacus.Proofs.WholeNumbers
import Abacus.Proofs.ExactResults
import Abacus.Proofs.Appearance
import Abacus.Proofs.Registry
import Abacus.Proofs.Traces
import Abacus.Proofs.Conversations
import Abacus.Proofs.Waiting
import Abacus.Proofs.Operands
