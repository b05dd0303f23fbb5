import ArenaStandings.Cache.Session
import ArenaStandings.Connection.Index
import ArenaStandings.Web.Exchange
import ArenaStandings.Proofs.Cache.Interleaving
import ArenaStandings.Proofs.Cache.Frame
import ArenaStandings.Proofs.Cache.LockTable
import ArenaStandings.Proofs.Cache.Exclusion
import ArenaStandings.Proofs.Cache.Entries
import ArenaStandings.Proofs.Cache.Keys
import ArenaStandings.Proofs.Web.Run
import ArenaStandings.Proofs.Web.Staleness
import ArenaStandings.Proofs.Cache.Moves
import ArenaStandings.Proofs.Cache.Schedule
import ArenaStandings.Proofs.Cache.Batch
import ArenaStandings.Proofs.Cache.Order
import ArenaStandings.Proofs.Cache.Turns
import ArenaStandings.Proofs.Cache.Outcome
import ArenaStandings.Proofs.Cache.Invalidation
import ArenaStandings.Proofs.Leaderboard.Completeness
import ArenaStandings.Proofs.Leaderboard.StorageOrder
import ArenaStandings.Proofs.Leaderboard.Eliminated
import ArenaStandings.Proofs.Leaderboard.Walk
import ArenaStandings.Proofs.Cache.Refinement
import ArenaStandings.Proofs.Leaderboard.CursorText
import ArenaStandings.Proofs.Leaderboard.Offset
import ArenaStandings.Proofs.Web.Credentials
import ArenaStandings.Proofs.Cache.Windows
import ArenaStandings.Proofs.Arena.Isolation
import ArenaStandings.Proofs.Web.KeySpace
import ArenaStandings.Proofs.Leaderboard.Faults
import ArenaStandings.Proofs.Web.Upstream
import ArenaStandings.Proofs.Web.Origin
import ArenaStandings.Proofs.Leaderboard.Report
import ArenaStandings.Proofs.Leaderboard.CanonicalRanking
import ArenaStandings.Proofs.Store.Queries
import ArenaStandings.Proofs.Store.Eliminations
import ArenaStandings.Proofs.Leaderboard.Queries
import ArenaStandings.Proofs.Arena.StorageOrder
import ArenaStandings.Proofs.Arena.Survivors
import ArenaStandings.Proofs.Arena.RoundOrder
import ArenaStandings.Proofs.Connection.Calls
import ArenaStandings.Proofs.Arena.Outcome
import ArenaStandings.Proofs.Connection.Overlap
import ArenaStandings.Proofs.Cache.Pages
import ArenaStandings.Proofs.Cache.FailedFetch
import ArenaStandings.Proofs.Cache.Sweeping
import ArenaStandings.Proofs.Game.Bag
