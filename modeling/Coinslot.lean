import Coinslot.Orders.Handovers
import Coinslot.Orders.Retries
import Coinslot.Orders.Undelivered
import Coinslot.Gateway.Strangers
import Coinslot.Gateway.Silences
import Coinslot.Gateway.Prices
import Coinslot.Cabinet.RightShop
import Coinslot.Cabinet.SignIns
import Coinslot.Scanner.Budget
import Coinslot.Scanner.StartedOnce
import Coinslot.Scanner.HandsOff
import Coinslot.Scanner.OutboxSettles
import Coinslot.Web.SignalsSurvive
import Coinslot.Web.RateLimitsHold
import Coinslot.Scanner.CachedReports
import Coinslot.Scanner.ScanQueue
import Coinslot.Stores.KeyRegistry
import Coinslot.Gateway.Parks
import Coinslot.Gateway.Polls
import Coinslot.Gateway.KeptClaims
import Coinslot.Gateway.Fingerprints
import Coinslot.Gateway.SweptTwice
import Coinslot.Web.RetentionSpares
import Coinslot.Contract.Addresses
import Coinslot.Cabinet.MinorUnits
import Coinslot.Cabinet.Catalogues
import Coinslot.Cabinet.Prose
import Coinslot.Gateway.Facilitator
import Coinslot.Gateway.MemoryQueue
import Coinslot.Sdk.Answers
import Coinslot.Contract.Spellings
import Coinslot.Web.OneScan
import Coinslot.Scanner.OriginSlots
import Coinslot.Scanner.JudgedByValue
import Coinslot.Cabinet.OneLedger
import Coinslot.Scanner.Janitor
import Coinslot.Scanner.RobotsRules
import Coinslot.Scanner.RobotsComments
import Coinslot.Scanner.Storable
import Coinslot.Scanner.ForbiddenPages
import Coinslot.Scanner.StayCanonical
import Coinslot.Gateway.Waits
import Coinslot.Scanner.PacedDeliveries
import Coinslot.Gateway.Histories
import Coinslot.Sdk.Stops
