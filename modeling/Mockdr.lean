import Mockdr.Elastic.Visibility
import Mockdr.Elastic.Deletion
import Mockdr.Elastic.QuerySemantics
import Mockdr.Lib.StableSort
import Mockdr.Lib.Paging
import Mockdr.Elastic.Sort
import Mockdr.Elastic.SearchAfter
import Mockdr.Elastic.Search
import Mockdr.Elastic.Aggregation
import Mockdr.Elastic.Resolution
import Mockdr.Elastic.ByQueryWalk
import Mockdr.Elastic.Scroll
import Mockdr.S1.Pagination
import Mockdr.S1.SelectsListed
import Mockdr.S1.TagAssignments
import Mockdr.EsRules.Identity
import Mockdr.EsExceptionLists.Together
import Mockdr.S1.UserTokens
import Mockdr.InMemoryStore
import Mockdr.CrowdStrike.FqlMeaning
import Mockdr.CrowdStrike.FqlNegation
import Mockdr.Dev.RoundTrip
import Mockdr.Mde.KqlLiteral
import Mockdr.Mde.KqlNegation
import Mockdr.Mde.OnePending
import Mockdr.Mde.KqlAcceptance
import Mockdr.Api.TenantScope
import Mockdr.Infrastructure.Persistence
import Mockdr.Infrastructure.LoadState
import Mockdr.Splunk.HecAcks
import Mockdr.Splunk.SelectEvents
import Mockdr.Playbook.Exclusive
import Mockdr.Settling.AsAsked
import Mockdr.Settling.Network
import Mockdr.S1.HierarchyIntegrity
import Mockdr.EsAuth.TokenHistory
import Mockdr.EsAuth.TokenLife
import Mockdr.EsAuth.Tokens
import Mockdr.EsCases.Cases
import Mockdr.EsCases.Versions
import Mockdr.CrowdStrike.HostGroups
import Mockdr.CrowdStrike.GroupAction
import Mockdr.CrowdStrike.HostGroupMembership
import Mockdr.Sentinel.EdrBridge
import Mockdr.Sentinel.BridgeIntegrity
import Mockdr.Sentinel.Watchlists
import Mockdr.Sentinel.WatchlistNames
import Mockdr.Xdr.Endpoints
import Mockdr.Xdr.NamedTargets
import Mockdr.Splunk.KvKeys
import Mockdr.Splunk.KvStore
import Mockdr.Splunk.SearchJob
import Mockdr.Splunk.JobProgress
import Mockdr.Odata.NextLink
import Mockdr.Odata.NextLinkWalk
import Mockdr.Odata.Clause
import Mockdr.Splunk.SplExpr
import Mockdr.Splunk.SplParser
import Mockdr.Splunk.SplText
import Mockdr.Splunk.Statistics
import Mockdr.Splunk.StatisticsAgree
import Mockdr.Splunk.Tstats
import Mockdr.Splunk.TstatsAgree
import Mockdr.Elastic.Fuzziness
import Mockdr.Lib.EditDistance
import Mockdr.Elastic.MinimumSpec
import Mockdr.Elastic.SortOrder
import Mockdr.Elastic.Match
import Mockdr.Elastic.Terms
import Mockdr.Elastic.SourceFilter
import Mockdr.Elastic.Mapping
import Mockdr.Elastic.MappingGrowth
import Mockdr.Elastic.Aliases
import Mockdr.Elastic.PainlessScript
import Mockdr.Elastic.SharedUpdate
import Mockdr.Elastic.ByQueryAccounting
import Mockdr.Elastic.LuceneQuery
import Mockdr.Elastic.LuceneDenote
import Mockdr.Splunk.SplReads
import Mockdr.Splunk.SplTokens
import Mockdr.Splunk.SplCalls
import Mockdr.Splunk.SplBounded
import Mockdr.Elastic.DateMath
import Mockdr.Elastic.DateMathTotal
import Mockdr.Elastic.DateRange
import Mockdr.Sentinel.Preconditions
import Mockdr.S1.OffsetCursor
import Mockdr.Odata.PageTokens
import Mockdr.Xdr.Filters
import Mockdr.Xdr.FilterData
import Mockdr.Xdr.Sort
import Mockdr.S1.SortedLists
import Mockdr.Splunk.SortCommand
import Mockdr.Splunk.SortedRows
import Mockdr.Splunk.RelativeTime
import Mockdr.Splunk.SnapUnits
import Mockdr.Splunk.TimeModifiers
import Mockdr.Splunk.Arithmetic
import Mockdr.Splunk.ArithmeticParse
import Mockdr.Splunk.Chart
import Mockdr.Splunk.ChartCounts
import Mockdr.Splunk.KvRefusal
import Mockdr.Splunk.KvOrder
import Mockdr.EsCases.BulkUpdate
import Mockdr.Mde.MachineUpdate
import Mockdr.S1.SiteTotals
import Mockdr.Lib.SlidingWindow
import Mockdr.Api.RateLimit
import Mockdr.Splunk.HecBody
import Mockdr.Lib.Csv
import Mockdr.Splunk.CsvOutput
import Mockdr.Dev.TokenCache
import Mockdr.Lib.Splitting
import Mockdr.S1.RangeOrder
import Mockdr.S1.TagDeletion
import Mockdr.Sentinel.IncidentNumbers
import Mockdr.Splunk.Collections
import Mockdr.Splunk.GroupCounts
import Mockdr.Splunk.Join
import Mockdr.Splunk.Timechart
import Mockdr.Splunk.TopRare
import Mockdr.EsRules.FindFilter
import Mockdr.Odata.FilterText
import Mockdr.Webhooks.Delivery
import Mockdr.S1.Threats
