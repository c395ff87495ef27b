import CredentialStore.Main
import CredentialStore.Scenario.Run
import CredentialStore.Text.RoundTrip
import CredentialStore.World.Laws
import CredentialStore.Proofs.CommandLine.Exiting
import CredentialStore.Proofs.Digest.Message
import CredentialStore.Proofs.Digest.Plausible
import CredentialStore.Proofs.Interleaving.Ownership
import CredentialStore.Proofs.Interleaving.Serial
import CredentialStore.Proofs.Log.Line
import CredentialStore.Proofs.Record.Faithful
import CredentialStore.Proofs.Run.Entries
import CredentialStore.Proofs.Run.Explained
import CredentialStore.Proofs.Run.Keeping
import CredentialStore.Proofs.Run.Parts
import CredentialStore.Proofs.Run.Planned
import CredentialStore.Proofs.Run.Steps
import CredentialStore.Proofs.Run.Telling
import CredentialStore.Proofs.Secret.Rules
import CredentialStore.Proofs.Store.Accounting
import CredentialStore.Proofs.Store.Extending
import CredentialStore.Proofs.Store.Failing
import CredentialStore.Proofs.Store.Fetching
import CredentialStore.Proofs.Store.Numbering
import CredentialStore.Proofs.Store.Passes
import CredentialStore.Proofs.Store.Removing
import CredentialStore.Proofs.Store.Reusing
import CredentialStore.Proofs.Store.Syncing
import CredentialStore.Proofs.Store.Telling
import CredentialStore.Proofs.Store.Using
import CredentialStore.Proofs.Text.Decoded
import CredentialStore.Proofs.Transaction.Exact
import CredentialStore.Proofs.Transaction.Aborting
import CredentialStore.Proofs.Transaction.Accounted
import CredentialStore.Proofs.Transaction.Authorized
import CredentialStore.Proofs.Transaction.Commuting
import CredentialStore.Proofs.Transaction.Fruitless
import CredentialStore.Proofs.Transaction.Generations
import CredentialStore.Proofs.Transaction.Given
import CredentialStore.Proofs.Transaction.History
import CredentialStore.Proofs.Transaction.Prompted
import CredentialStore.Proofs.Transaction.Recognized
import CredentialStore.Proofs.Transaction.Released
import CredentialStore.Proofs.Transaction.Reporting
import CredentialStore.Proofs.Transaction.Returning
import CredentialStore.Proofs.Transaction.Stages
import CredentialStore.Proofs.Transaction.Telling
import CredentialStore.Proofs.Transaction.Trail
import CredentialStore.Proofs.Transaction.Undisturbed
