import Ferminux.Agents.Endorsements
import Ferminux.Agents.EscrowSafety
import Ferminux.Agents.X402VaultSafety
import Ferminux.Bridge.TwoChain
import Ferminux.Bridge.Windows
import Ferminux.Clique.SignerSet
import Ferminux.Core.Dominance
import Ferminux.Core.Finality
import Ferminux.Dex.PairSafety
import Ferminux.Gateway.Attribution
import Ferminux.Gateway.PayoutSafety
import Ferminux.Gateway.ReferralSafety
import Ferminux.Gateway.X402FundsSafety
import Ferminux.Gateway.X402TruthSafety
import Ferminux.Hub.Certification
import Ferminux.Posa.Batch
import Ferminux.Posa.Producer
import Ferminux.Relayer.AttestSigning
import Ferminux.Relayer.CursorSafety
import Ferminux.Relayer.Depth
import Ferminux.Relayer.Interchange
import Ferminux.Relayer.JournalFile
import Ferminux.Relayer.NonceSafety
import Ferminux.Staking.NodeRegistry
