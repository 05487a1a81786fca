import NewApi.PreConsumeInterleaving
import NewApi.TopUpCompletion
import NewApi.SubscriptionGroupSweep
import NewApi.TaskBilling
import NewApi.RealtimeCharges
import NewApi.HeaderOverrideRetry
import NewApi.QuotaCache
import NewApi.UserAuthFencing
import NewApi.UserSessionRevocation
import NewApi.RefreshRotation
import NewApi.AbilityProjection
import NewApi.KeyPolling
import NewApi.AutomaticBan
import NewApi.ClaudeStreamOrder
import NewApi.ClaudeStreamContent
import NewApi.ClaudeRequestContent
import NewApi.GeminiRequestLinkage
import NewApi.ClaudeResponseAgreement
import NewApi.GeminiStreamApart
import NewApi.OpenAIGeminiStream
import NewApi.ResponsesStreamCalls
import NewApi.WildcardOperations
import NewApi.SubscriptionBounds
import NewApi.PurchaseLimit
import NewApi.TaskSettlement
import NewApi.ModelRateLimitAgreement
import NewApi.FallbackOrder
import NewApi.ChannelDisabling
import NewApi.WeightedChoice
import NewApi.BillingExprCache
import NewApi.ResetProgress
import NewApi.BatchUpdates
import NewApi.VisionInterception
import NewApi.RequestRules
import NewApi.ClaudeUsage
import NewApi.TokenBucket
import NewApi.ReviewOutcomes
import NewApi.ResetBoundaries
import NewApi.AutoGroups
import NewApi.MarkdownImages
import NewApi.ModelMapping
import NewApi.ReviewSnippet
import NewApi.ToolPrices
import NewApi.ProtectedDialer
import NewApi.ChannelAffinity
import NewApi.ReviewRequestBody
