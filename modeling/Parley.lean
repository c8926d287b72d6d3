import Parley.Cast.Ledger
import Parley.Draft.Edit
import Parley.Host.Action
import Parley.Main
import Parley.Proofs.Arrangement
import Parley.Proofs.Chains
import Parley.Proofs.Document.Stories
import Parley.Proofs.Draft.Refusals
import Parley.Proofs.Draft.Soundness
import Parley.Proofs.Engine.Answers
import Parley.Proofs.Engine.Effects
import Parley.Proofs.Engine.Offers
import Parley.Proofs.Engine.Selection
import Parley.Proofs.Engine.Shapes
import Parley.Proofs.Host.InStep
import Parley.Proofs.Merchant
import Parley.Proofs.Redirections
import Parley.Proofs.Sessions
import Parley.Proofs.Wording
import Parley.Session
import Parley.Proofs.Roots
import Parley.Proofs.Flaws
import Parley.Proofs.Draft.Removing
import Parley.Proofs.Draft.Replacing
import Parley.Proofs.Document.Parts
import Parley.Proofs.Draft.Undoing
import Parley.Proofs.Engine.Questions
import Parley.Proofs.Draft.Reporting
import Parley.Proofs.Draft.Reserving
import Parley.Proofs.Equality
import Parley.Proofs.Translations
import Parley.Proofs.Engine.Easing
