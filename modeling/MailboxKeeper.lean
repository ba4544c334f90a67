import MailboxKeeper.Cli.Machine
import MailboxKeeper.Json.Narrow
import MailboxKeeper.Main
import MailboxKeeper.Proofs.AccountRequest.Documented
import MailboxKeeper.Proofs.Cli.EngineTurns
import MailboxKeeper.Proofs.Cli.ExitCode
import MailboxKeeper.Proofs.Cli.SetUp
import MailboxKeeper.Proofs.Credential.KeyText
import MailboxKeeper.Proofs.Credential.Keychain
import MailboxKeeper.Proofs.Credential.Sequence
import MailboxKeeper.Proofs.Engine.AddressCoherence
import MailboxKeeper.Proofs.Engine.AddressMismatch
import MailboxKeeper.Proofs.Engine.Atomicity
import MailboxKeeper.Proofs.Engine.Convergence
import MailboxKeeper.Proofs.Engine.DeletionGuard
import MailboxKeeper.Proofs.Engine.Forecast
import MailboxKeeper.Proofs.Engine.Isolation
import MailboxKeeper.Proofs.Engine.LockStep
import MailboxKeeper.Proofs.Engine.Manageable
import MailboxKeeper.Proofs.Engine.Provenance
import MailboxKeeper.Proofs.Engine.RefusalKept
import MailboxKeeper.Proofs.Engine.RegularRows
import MailboxKeeper.Proofs.Engine.ResetReach
import MailboxKeeper.Proofs.Engine.RetriedDeletion
import MailboxKeeper.Proofs.Engine.RewrittenRow
import MailboxKeeper.Proofs.Engine.Secrecy
import MailboxKeeper.Proofs.Engine.SelfHealing
import MailboxKeeper.Proofs.Engine.Statuses
import MailboxKeeper.Proofs.Json.Documents
import MailboxKeeper.Proofs.Provisioning.Absence
import MailboxKeeper.Proofs.Provisioning.AcceptedDomain
import MailboxKeeper.Proofs.Provisioning.AdmittedAddress
import MailboxKeeper.Proofs.Provisioning.Confinement
import MailboxKeeper.Proofs.Provisioning.MailboxUrl
import MailboxKeeper.Proofs.Provisioning.RepeatedRequest
import MailboxKeeper.Proofs.Provisioning.Unaltered
import MailboxKeeper.Proofs.Redaction.Authority
import MailboxKeeper.Proofs.Redaction.Composition
import MailboxKeeper.Proofs.Redaction.Repetition
import MailboxKeeper.Proofs.Store.Ledger
import MailboxKeeper.Proofs.Store.SecurityColumn
import MailboxKeeper.Registry
