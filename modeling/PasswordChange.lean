import PasswordChange.Directory.Memory
import PasswordChange.Handle.Pool
import PasswordChange.Host.Scripted
import PasswordChange.Main
import PasswordChange.Proofs.Frame
import PasswordChange.Proofs.Locating
import PasswordChange.Proofs.Backstage
import PasswordChange.Proofs.Custody
import PasswordChange.Proofs.Dialogue
import PasswordChange.Proofs.Conversation
import PasswordChange.Proofs.Service
import PasswordChange.Proofs.Course
import PasswordChange.Proofs.Store
import PasswordChange.Proofs.Reachable
import PasswordChange.Proofs.Change
import PasswordChange.Proofs.Authorisation
import PasswordChange.Proofs.Errand
import PasswordChange.Proofs.History
import PasswordChange.Proofs.Wiping
import PasswordChange.Proofs.Script
import PasswordChange.Proofs.Credentials
import PasswordChange.Proofs.Onstage
import PasswordChange.Proofs.Bootstrap
import PasswordChange.Proofs.Lease
import PasswordChange.Proofs.Renaming
import PasswordChange.Proofs.Lockstep
import PasswordChange.Proofs.Tandem
import PasswordChange.Proofs.Secrecy
import PasswordChange.Proofs.Answering
import PasswordChange.Proofs.Agreement
import PasswordChange.Proofs.Entitlement
import PasswordChange.Proofs.Footing
import PasswordChange.Proofs.Parting
import PasswordChange.Proofs.Lines
import PasswordChange.Proofs.Reporting
import PasswordChange.Proofs.Equipped
import PasswordChange.Proofs.ExitStatus
import PasswordChange.Proofs.Locality
import PasswordChange.Proofs.Alongside
import PasswordChange.Proofs.Isolation
import PasswordChange.Proofs.Operation
import PasswordChange.Proofs.Succession
import PasswordChange.Proofs.Retracing
import PasswordChange.Proofs.Ledger
import PasswordChange.Proofs.Arrival
import PasswordChange.Proofs.Searching
import PasswordChange.Proofs.Commuting
import PasswordChange.Proofs.Standing
import PasswordChange.Proofs.Writes
import PasswordChange.Proofs.SearchOrder
import PasswordChange.Proofs.Grammar
import PasswordChange.Proofs.AuditTrail
import PasswordChange.Proofs.Halting
import PasswordChange.Proofs.Resolving
import PasswordChange.Proofs.Translating
import PasswordChange.Proofs.Attribution
import PasswordChange.Proofs.KernelFlag
import PasswordChange.Proofs.Sharing
import PasswordChange.Proofs.Closing
import PasswordChange.Proofs.Encoding
import PasswordChange.Proofs.Environment
import PasswordChange.Proofs.Coherence
