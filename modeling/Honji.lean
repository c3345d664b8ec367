import Honji.Forest.Grove
import Honji.Forest.Shown
import Honji.Forest.Traversal
import Honji.Forest.Visitor
import Honji.Journal.Entries
import Honji.Proofs.Composer.LetterCase
import Honji.Proofs.OwnRules
import Honji.Proofs.Romanization.Scripts
import Honji.Proofs.RoundTrip.Texts
import Honji.Proofs.Trie.SideBySide
import Honji.Proofs.Trie.Pointwise
import Honji.Proofs.Composer.Raised
import Honji.Proofs.Composer.RaisedStages
import Honji.Proofs.Composer.ScriptFacades
import Honji.Proofs.Forest.Growth
import Honji.Proofs.Forest.Merging
import Honji.Proofs.Forest.Overlay
import Honji.Proofs.Forest.History
import Honji.Proofs.Composer.Spelled
import Honji.Proofs.Romanization.Union
import Honji.Proofs.Forest.Descent
import Honji.Proofs.Forest.Incidents
import Honji.Proofs.Forest.Publishing
import Honji.Proofs.LayeredRules
import Honji.Proofs.Romanization.Segments
import Honji.Proofs.Workshop.Undisturbed
import Honji.Proofs.Forest.Regrouping
import Honji.Proofs.Forest.Grafting
import Honji.Proofs.Forest.Termination
import Honji.Proofs.Composer.Silence
import Honji.Proofs.Trie.Conservative
import Honji.Proofs.Romanization.Doubling
import Honji.Proofs.Composer.Mirrored
import Honji.Proofs.Trie.FiniteMap
import Honji.Proofs.Forest.Atomicity
import Honji.Proofs.Composer.Prolonging
import Honji.Proofs.Composer.TypedTwice
import Honji.Proofs.Forest.Listing
import Honji.Proofs.Forest.Sweeping
import Honji.Proofs.Accounting
import Honji.Proofs.Romanization.Capitals
import Honji.Proofs.Composer.Purity
import Honji.Proofs.Trie.Relisting
import Honji.Proofs.Forest.Copying
import Honji.Proofs.Forest.Addresses
import Honji.Proofs.KanaShift
