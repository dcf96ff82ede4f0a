import ConnectionPool.Fingerprint
import ConnectionPool.Json
import ConnectionPool.Scenario
import ConnectionPool.Proofs.Growth
import ConnectionPool.Proofs.Traffic
import ConnectionPool.Proofs.Custody
import ConnectionPool.Proofs.Credentials
import ConnectionPool.Proofs.Signals
import ConnectionPool.Proofs.Labels
import ConnectionPool.Proofs.Epochs
import ConnectionPool.Proofs.Validation
import ConnectionPool.Proofs.Staleness
import ConnectionPool.Proofs.Shutdown
import ConnectionPool.Proofs.Fitness
import ConnectionPool.Proofs.Sessions
import ConnectionPool.Proofs.Failures
import ConnectionPool.Proofs.Recovery
import ConnectionPool.Proofs.Progress
import ConnectionPool.Proofs.Checkouts
import ConnectionPool.Proofs.RoundTrip
import ConnectionPool.Proofs.Statements
import ConnectionPool.Proofs.Selection
import ConnectionPool.Proofs.Deadlines
import ConnectionPool.Proofs.Returns
import ConnectionPool.Proofs.Closing
import ConnectionPool.Proofs.Secrecy
import ConnectionPool.Proofs.Retries
import ConnectionPool.Proofs.Opening
import ConnectionPool.Proofs.Precedence
import ConnectionPool.Proofs.Timing
import ConnectionPool.Proofs.Targets
import ConnectionPool.Proofs.Loading
import ConnectionPool.Proofs.Lineage
import ConnectionPool.Proofs.Tokens
import ConnectionPool.Proofs.Grammar
import ConnectionPool.Proofs.Members
import ConnectionPool.Proofs.JsonRoundTrip
