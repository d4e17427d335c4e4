import VerbNoun.CommandLine.Program
import VerbNoun.Main
import VerbNoun.Proofs.Reader
import VerbNoun.Proofs.Number.Exact
import VerbNoun.Proofs.Number.Rational
import VerbNoun.Proofs.Value.Coercion
import VerbNoun.Proofs.Value.Path
import VerbNoun.Proofs.Statement.RoundTrip
import VerbNoun.Proofs.Store
import VerbNoun.Proofs.Command.Binding
import VerbNoun.Proofs.Evaluation
import VerbNoun.Proofs.Session
import VerbNoun.Proofs.Statement.LongestPrefix
import VerbNoun.Proofs.Command.Item
import VerbNoun.Proofs.Frame
import VerbNoun.Proofs.Command.Registered
import VerbNoun.Proofs.Command.Registry
import VerbNoun.Proofs.Transcript
import VerbNoun.Proofs.Command.Piping
import VerbNoun.Proofs.Terminal.Session
import VerbNoun.Proofs.CommandLine.Run
import VerbNoun.Proofs.Terminal.Plain
import VerbNoun.Proofs.Console
import VerbNoun.Proofs.Statement.LongestMatch
import VerbNoun.Proofs.Command.Validation
import VerbNoun.Proofs.Command.Rearranging
import VerbNoun.Proofs.Command.Offence
import VerbNoun.Proofs.Command.Fields
import VerbNoun.Proofs.Chain
import VerbNoun.Proofs.Terminal.Residue
import VerbNoun.Proofs.Terminal.Typing
import VerbNoun.Proofs.Statement.Surroundings
import VerbNoun.Proofs.Command.Arithmetic
import VerbNoun.Proofs.Command.Substring
import VerbNoun.Proofs.CommandLine.Conversation
import VerbNoun.Proofs.Terminal.Occurrence
import VerbNoun.Proofs.Transcript.Stretches
import VerbNoun.Proofs.Files
