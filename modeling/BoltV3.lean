import BoltV3.Guarantees.Rebuild
import BoltV3.Guarantees.LossReplays
import BoltV3.Guarantees.RequoteWindows
import BoltV3.Guarantees.Reopened
import BoltV3.Guarantees.QuoteTokens
import BoltV3.Guarantees.ExitRelease
import BoltV3.Guarantees.Baskets
import BoltV3.Guarantees.BlindRecovery
import BoltV3.Guarantees.EntryGate
import BoltV3.Guarantees.EvidenceStreams
import BoltV3.Guarantees.QuoteSettlements
import BoltV3.Guarantees.RetainedClosures
import BoltV3.Guarantees.OrderIdentities
import BoltV3.Guarantees.CancelRecovery
import BoltV3.Guarantees.LossFeed
import BoltV3.Guarantees.BookingErrors
import BoltV3.Economics.Carry
import BoltV3.TradeFlow
import BoltV3.ArtifactIndex.Snapshot
import BoltV3.Iv.Fallback
